import LineMeasure.Text.CharacterName.Basic

/-!
# Further names of characters

Some characters have names besides their own one: controls, which have no other name, corrections of
mistaken names, and abbreviations. They are listed in runs; a character may be in several of them.
-/

namespace LineMeasure.Text.CharacterName

/-- The characters with further names. -/
def aliases : List NameRun :=
  [⟨0x0, ["aNULLaSTART OF HEADINGcTEXTaENDocTRANSMISSIONaENQUIRYaACKNOWLEDGEaALERTaBACKSPACE",
     "aCHARACTER TABULATIONaLINE FEEDbTABULATIONaFORM FEEDaCARRIAGE RETURNaSHIFT OUTbIN",
     "aDATA LINK ESCAPEaDEVICE CONTROL ONEcTWOcTHREEcFOURaNEGATIVE ACKNOWLEDGEaSYNCHRONOUS IDLE",
     "aEND OF TRANSMISSION BLOCKaCANCELaEND OF MEDIUMaSUBSTITUTEaESCAPEaINFORMATION SEPARATOR FOUR",
     "cTHREEcTWOcONEaSP"]⟩,
   ⟨0x7F, ["aDELETEaPADDING CHARACTERaHIGH OCTET PRESETaBREAK PERMITTED HEREaNO BREAKnaINDEX",
     "aNEXT LINEaSTART OF SELECTED AREAaENDpaCHARACTER TABULATION SETcWITH JUSTIFICATION",
     "aLINE TABULATION SETaPARTIAL LINE FORWARDcBACKWARDaREVERSE LINE FEEDaSINGLE SHIFT TWOcTHREE",
     "aDEVICE CONTROL STRINGaPRIVATE USE ONEcTWOaSET TRANSMIT STATEaCANCEL CHARACTER",
     "aMESSAGE WAITINGaSTART OF GUARDED AREAaENDpaSTART OF STRING",
     "aSINGLE GRAPHIC CHARACTER INTRODUCERboaCONTROL SEQUENCEnaSTRING TERMINATOR",
     "aOPERATING SYSTEM COMMANDaPRIVACY MESSAGEaAPPLICATION PROGRAM COMMANDaNBSP"]⟩,
   ⟨0xAD, ["aSHY"]⟩,
   ⟨0x1A2, ["aLATIN CAPITAL LETTER GHAbSMALLo"]⟩,
   ⟨0x34F, ["aCGJ"]⟩,
   ⟨0x61C, ["aALM"]⟩,
   ⟨0x709, ["aSYRIAC SUBLINEAR COLON SKEWED LEFT"]⟩,
   ⟨0xCDE, ["aKANNADA LETTER LLLA"]⟩,
   ⟨0xE9D, ["aLAO LETTER FO FON"]⟩,
   ⟨0xE9F, ["aLAO LETTER FO FAY"]⟩,
   ⟨0xEA3, ["aLAO LETTER RO"]⟩,
   ⟨0xEA5, ["aLAO LETTER LO"]⟩,
   ⟨0xFD0, ["aTIBETAN MARK BKA- SHOG GI MGO RGYAN"]⟩,
   ⟨0x11EC, ["aHANGUL JONGSEONG YESIEUNG-KIYEOKcYESIEUNG-SSANGKIYEOKcSSANGYESIEUNG",
     "cYESIEUNG-KHIEUKH"]⟩,
   ⟨0x180B, ["aFVS1aFVS2aFVS3aMVSaFVS4"]⟩,
   ⟨0x200B, ["aZWSPaZWNJaZWJaLRMaRLM"]⟩,
   ⟨0x202A, ["aLREaRLEaPDFaLROaRLOaNNBSP"]⟩,
   ⟨0x205F, ["aMMSPaWJ"]⟩,
   ⟨0x2066, ["aLRIaRLIaFSIaPDI"]⟩,
   ⟨0x2118, ["aWEIERSTRASS ELLIPTIC FUNCTION"]⟩,
   ⟨0x2448, ["aMICR ON US SYMBOLbDASHn"]⟩,
   ⟨0x2B7A, ["aLEFTWARDS TRIANGLE-HEADED ARROW WITH DOUBLE VERTICAL STROKE"]⟩,
   ⟨0x2B7C, ["aRIGHTWARDS TRIANGLE-HEADED ARROW WITH DOUBLE VERTICAL STROKE"]⟩,
   ⟨0xA015, ["aYI SYLLABLE ITERATION MARK"]⟩,
   ⟨0xAA6E, ["aMYANMAR LETTER KHAMTI LLA"]⟩,
   ⟨0xFE00, ["aVS1aVS2aVS3aVS4aVS5aVS6aVS7aVS8aVS9aVS10aVS11aVS12aVS13aVS14aVS15aVS16"]⟩,
   ⟨0xFE18, ["aPRESENTATION FORM FOR VERTICAL RIGHT WHITE LENTICULAR BRACKET"]⟩,
   ⟨0xFEFF, ["aBYTE ORDER MARK"]⟩,
   ⟨0x122D4, ["aCUNEIFORM SIGN NU11 TENUdOVER NU11 BUR OVER BUR"]⟩,
   ⟨0x16E56, ["aMEDEFAIDRIN CAPITAL LETTER HdNG"]⟩,
   ⟨0x16E76, ["aMEDEFAIDRIN SMALL LETTER HdNG"]⟩,
   ⟨0x1B001, ["aHENTAIGANA LETTER E-1"]⟩,
   ⟨0x1D0C5, ["aBYZANTINE MUSICAL SYMBOL FTHORA SKLIRON CHROMA VASIS"]⟩,
   ⟨0xE0100, ["aVS17aVS18aVS19aVS20aVS21aVS22aVS23aVS24aVS25aVS26aVS27aVS28aVS29aVS30aVS31aVS32",
     "aVS33aVS34aVS35aVS36aVS37aVS38aVS39aVS40aVS41aVS42aVS43aVS44aVS45aVS46aVS47aVS48aVS49aVS50",
     "aVS51aVS52aVS53aVS54aVS55aVS56aVS57aVS58aVS59aVS60aVS61aVS62aVS63aVS64aVS65aVS66aVS67aVS68",
     "aVS69aVS70aVS71aVS72aVS73aVS74aVS75aVS76aVS77aVS78aVS79aVS80aVS81aVS82aVS83aVS84aVS85aVS86",
     "aVS87aVS88aVS89aVS90aVS91aVS92aVS93aVS94aVS95aVS96aVS97aVS98aVS99aVS100aVS101aVS102aVS103",
     "aVS104aVS105aVS106aVS107aVS108aVS109aVS110aVS111aVS112aVS113aVS114aVS115aVS116aVS117aVS118",
     "aVS119aVS120aVS121aVS122aVS123aVS124aVS125aVS126aVS127aVS128aVS129aVS130aVS131aVS132aVS133",
     "aVS134aVS135aVS136aVS137aVS138aVS139aVS140aVS141aVS142aVS143aVS144aVS145aVS146aVS147aVS148",
     "aVS149aVS150aVS151aVS152aVS153aVS154aVS155aVS156aVS157aVS158aVS159aVS160aVS161aVS162aVS163",
     "aVS164aVS165aVS166aVS167aVS168aVS169aVS170aVS171aVS172aVS173aVS174aVS175aVS176aVS177aVS178",
     "aVS179aVS180aVS181aVS182aVS183aVS184aVS185aVS186aVS187aVS188aVS189aVS190aVS191aVS192aVS193",
     "aVS194aVS195aVS196aVS197aVS198aVS199aVS200aVS201aVS202aVS203aVS204aVS205aVS206aVS207aVS208",
     "aVS209aVS210aVS211aVS212aVS213aVS214aVS215aVS216aVS217aVS218aVS219aVS220aVS221aVS222aVS223",
     "aVS224aVS225aVS226aVS227aVS228aVS229aVS230aVS231aVS232aVS233aVS234aVS235aVS236aVS237aVS238",
     "aVS239aVS240aVS241aVS242aVS243aVS244aVS245aVS246aVS247aVS248aVS249aVS250aVS251aVS252aVS253",
     "aVS254aVS255aVS256"]⟩,
   ⟨0x0, ["aNULaSOHaSTXaETXaEOTaENQaACKaBELaBSaHORIZONTAL TABULATIONaNEW LINEaVERTICAL TABULATION",
     "aFFaCRaLOCKING-SHIFT ONEbZEROaDLEaDC1aDC2aDC3aDC4aNAKaSYNaETBaCANaEOMaSUBaESCaFILE SEPARATOR",
     "aGROUPnaRECORDnaUNITn"]⟩,
   ⟨0x7F, ["aDELaPADaHOPaBPHaNBHaINDaNELaSSAaESAaHORIZONTAL TABULATION SETcWITH JUSTIFICATION",
     "aVERTICAL TABULATION SETaPARTIAL LINE DOWNcUPaREVERSE INDEXaSINGLE-SHIFT-2aSINGLE-SHIFT-3",
     "aDCSaPRIVATE USE-1bUSE-2aSTSaCCHaMWaSTART OF PROTECTED AREAaENDpaSOSaSGCaSCIaCSIaSTaOSCaPM",
     "aAPC"]⟩,
   ⟨0xFEFF, ["aBOM"]⟩,
   ⟨0x9, ["aHTaEND OF LINEaVT"]⟩,
   ⟨0xE, ["aSOaSI"]⟩,
   ⟨0x1C, ["aFSaGSaRSaUS"]⟩,
   ⟨0x88, ["aHTSaHTJaVTSaPLDaPLUaRIaSS2aSS3"]⟩,
   ⟨0x91, ["aPU1aPU2"]⟩,
   ⟨0x96, ["aSPAaEPA"]⟩,
   ⟨0xFEFF, ["aZWNBSP"]⟩,
   ⟨0x9, ["aTABaEOL"]⟩,
   ⟨0xA, ["aLF"]⟩,
   ⟨0xA, ["aNL"]⟩]

end LineMeasure.Text.CharacterName
