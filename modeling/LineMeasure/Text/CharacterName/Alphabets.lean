import LineMeasure.Text.CharacterName.Basic

/-!
# Names of the characters of modern alphabets

The characters are listed in runs of consecutive code points; `CharacterName.NameRun` says how the
names of a run are written.
-/

namespace LineMeasure.Text.CharacterName

/-- The characters up to U+1FFF: Latin and the other alphabets of the basic plane. -/
def alphabets : List NameRun :=
  [⟨0x20, ["aSPACEaEXCLAMATION MARKaQUOTATIONnaNUMBER SIGNaDOLLARnaPERCENTnaAMPERSANDaAPOSTROPHE",
     "aLEFT PARENTHESISaRIGHTnaASTERISKaPLUS SIGNaCOMMAaHYPHEN-MINUSaFULL STOPaSOLIDUSaDIGIT ZERO",
     "bONEbTWObTHREEbFOURbFIVEbSIXbSEVENbEIGHTbNINEaCOLONaSEMICOLONaLESS-THAN SIGNaEQUALSn",
     "aGREATER-THANnaQUESTION MARKaCOMMERCIAL ATaLATIN CAPITAL LETTER AdBdCdDdEdFdGdHdIdJdKdLdMdN",
     "dOdPdQdRdSdTdUdVdWdXdYdZaLEFT SQUARE BRACKETaREVERSE SOLIDUSaRIGHT SQUARE BRACKET",
     "aCIRCUMFLEX ACCENTaLOW LINEaGRAVE ACCENTaLATIN SMALL LETTER AdBdCdDdEdFdGdHdIdJdKdLdMdNdOdP",
     "dQdRdSdTdUdVdWdXdYdZaLEFT CURLY BRACKETaVERTICAL LINEaRIGHT CURLY BRACKETaTILDE"]⟩,
   ⟨0xA0, ["aNO-BREAK SPACEaINVERTED EXCLAMATION MARKaCENT SIGNaPOUNDnaCURRENCYnaYENnaBROKEN BAR",
     "aSECTION SIGNaDIAERESISa\x43OPYRIGHT SIGNaFEMININE ORDINAL INDICATOR",
     "aLEFT-POINTING DOUBLE ANGLE QUOTATION MARKaNOT SIGNaSOFT HYPHENaREGISTERED SIGNaMACRON",
     "aDEGREE SIGNaPLUS-MINUSnaSUPERSCRIPT TWObTHREEaACUTE ACCENTaMICRO SIGNaPILCROWnaMIDDLE DOT",
     "aCEDILLAaSUPERSCRIPT ONEaMASCULINE ORDINAL INDICATOR",
     "aRIGHT-POINTING DOUBLE ANGLE QUOTATION MARKaVULGAR FRACTION ONE QUARTERdHALFcTHREE QUARTERS",
     "aINVERTED QUESTION MARKaLATIN CAPITAL LETTER A WITH GRAVEfACUTEfCIRCUMFLEXfTILDEfDIAERESIS",
     "fRING ABOVEdAEdC WITH CEDILLAdE WITH GRAVEfACUTEfCIRCUMFLEXfDIAERESISdI WITH GRAVEfACUTE",
     "fCIRCUMFLEXfDIAERESISdETHdN WITH TILDEdO WITH GRAVEfACUTEfCIRCUMFLEXfTILDEfDIAERESIS",
     "aMULTIPLICATION SIGNaLATIN CAPITAL LETTER O WITH STROKEdU WITH GRAVEfACUTEfCIRCUMFLEX",
     "fDIAERESISdY WITH ACUTEdTHORNbSMALL LETTER SHARP SdA WITH GRAVEfACUTEfCIRCUMFLEXfTILDE",
     "fDIAERESISfRING ABOVEdAEdC WITH CEDILLAdE WITH GRAVEfACUTEfCIRCUMFLEXfDIAERESISdI WITH GRAVE",
     "fACUTEfCIRCUMFLEXfDIAERESISdETHdN WITH TILDEdO WITH GRAVEfACUTEfCIRCUMFLEXfTILDEfDIAERESIS",
     "aDIVISION SIGNaLATIN SMALL LETTER O WITH STROKEdU WITH GRAVEfACUTEfCIRCUMFLEXfDIAERESIS",
     "dY WITH ACUTEdTHORNdY WITH DIAERESISbCAPITAL LETTER A WITH MACRONbSMALLq",
     "bCAPITAL LETTER A WITH BREVEbSMALLqbCAPITAL LETTER A WITH OGONEKbSMALLq",
     "bCAPITAL LETTER C WITH ACUTEbSMALLqbCAPITAL LETTER C WITH CIRCUMFLEXbSMALLq",
     "bCAPITAL LETTER C WITH DOT ABOVEbSMALLrbCAPITAL LETTER C WITH CARONbSMALLqbCAPITAL LETTER Do",
     "bSMALLqbCAPITAL LETTER D WITH STROKEbSMALLqbCAPITAL LETTER E WITH MACRONbSMALLq",
     "bCAPITAL LETTER E WITH BREVEbSMALLqbCAPITAL LETTER E WITH DOT ABOVEbSMALLr",
     "bCAPITAL LETTER E WITH OGONEKbSMALLqbCAPITAL LETTER E WITH CARONbSMALLq",
     "bCAPITAL LETTER G WITH CIRCUMFLEXbSMALLqbCAPITAL LETTER G WITH BREVEbSMALLq",
     "bCAPITAL LETTER G WITH DOT ABOVEbSMALLrbCAPITAL LETTER G WITH CEDILLAbSMALLq",
     "bCAPITAL LETTER H WITH CIRCUMFLEXbSMALLqbCAPITAL LETTER H WITH STROKEbSMALLq",
     "bCAPITAL LETTER I WITH TILDEbSMALLqbCAPITAL LETTER I WITH MACRONbSMALLq",
     "bCAPITAL LETTER I WITH BREVEbSMALLqbCAPITAL LETTER I WITH OGONEKbSMALLq",
     "bCAPITAL LETTER I WITH DOT ABOVEbSMALL LETTER DOTLESS IbCAPITAL LIGATURE IJbSMALLo",
     "bCAPITAL LETTER J WITH CIRCUMFLEXbSMALLqbCAPITAL LETTER K WITH CEDILLAbSMALLqdKRA",
     "bCAPITAL LETTER L WITH ACUTEbSMALLqbCAPITAL LETTER L WITH CEDILLAbSMALLq",
     "bCAPITAL LETTER L WITH CARONbSMALLqbCAPITAL LETTER L WITH MIDDLE DOTbSMALLr",
     "bCAPITAL LETTER L WITH STROKEbSMALLqbCAPITAL LETTER N WITH ACUTEbSMALLq",
     "bCAPITAL LETTER N WITH CEDILLAbSMALLqbCAPITAL LETTER N WITH CARONbSMALLq",
     "ePRECEDED BY APOSTROPHEbCAPITAL LETTER ENGbSMALLobCAPITAL LETTER O WITH MACRONbSMALLq",
     "bCAPITAL LETTER O WITH BREVEbSMALLqbCAPITAL LETTER O WITH DOUBLE ACUTEbSMALLr",
     "bCAPITAL LIGATURE OEbSMALLobCAPITAL LETTER R WITH ACUTEbSMALLqbCAPITAL LETTER R WITH CEDILLA",
     "bSMALLqbCAPITAL LETTER R WITH CARONbSMALLqbCAPITAL LETTER S WITH ACUTEbSMALLq",
     "bCAPITAL LETTER S WITH CIRCUMFLEXbSMALLqbCAPITAL LETTER S WITH CEDILLAbSMALLq",
     "bCAPITAL LETTER S WITH CARONbSMALLqbCAPITAL LETTER T WITH CEDILLAbSMALLq",
     "bCAPITAL LETTER T WITH CARONbSMALLqbCAPITAL LETTER T WITH STROKEbSMALLq",
     "bCAPITAL LETTER U WITH TILDEbSMALLqbCAPITAL LETTER U WITH MACRONbSMALLq",
     "bCAPITAL LETTER U WITH BREVEbSMALLqbCAPITAL LETTER U WITH RING ABOVEbSMALLr",
     "bCAPITAL LETTER U WITH DOUBLE ACUTEbSMALLrbCAPITAL LETTER U WITH OGONEKbSMALLq",
     "bCAPITAL LETTER W WITH CIRCUMFLEXbSMALLqbCAPITAL LETTER YobSMALLq",
     "bCAPITAL LETTER Y WITH DIAERESISdZ WITH ACUTEbSMALLqbCAPITAL LETTER Z WITH DOT ABOVEbSMALLr",
     "bCAPITAL LETTER Z WITH CARONbSMALLqdLONG SdB WITH STROKEbCAPITAL LETTER B WITH HOOKfTOPBAR",
     "bSMALLqbCAPITAL LETTER TONE SIXbSMALLpbCAPITAL LETTER OPEN OdC WITH HOOKbSMALLq",
     "bCAPITAL LETTER AFRICAN DdD WITH HOOKfTOPBARbSMALLqdTURNED DELTAbCAPITAL LETTER REVERSED E",
     "dSCHWAdOPEN EdF WITH HOOKbSMALLqbCAPITAL LETTER GodGAMMAbSMALL LETTER HVbCAPITAL LETTER IOTA",
     "dI WITH STROKEdK WITH HOOKbSMALLqdL WITH BARdLAMBDA WITH STROKEbCAPITAL LETTER TURNED M",
     "dN WITH LEFT HOOKbSMALL LETTER N WITH LONG RIGHT LEGbCAPITAL LETTER O WITH MIDDLE TILDEfHORN",
     "bSMALLqbCAPITAL LETTER OIbSMALLobCAPITAL LETTER P WITH HOOKbSMALLqbLETTER YR",
     "bCAPITAL LETTER TONE TWObSMALLpbCAPITAL LETTER ESHbLETTER REVERSED ESH LOOP",
     "bSMALL LETTER T WITH PALATAL HOOKbCAPITAL LETTER T WITHnbSMALLq",
     "bCAPITAL LETTER T WITH RETROFLEXndU WITH HORNbSMALLqbCAPITAL LETTER UPSILONdV WITH HOOKdYo",
     "bSMALLqbCAPITAL LETTER Z WITH STROKEbSMALLqbCAPITAL LETTER EZHeREVERSEDbSMALLpeWITH TAIL",
     "bLETTER TWO WITH STROKEbCAPITAL LETTER TONE FIVEbSMALLp",
     "bLETTER INVERTED GLOTTAL STOP WITH STROKEcWYNNcDENTAL CLICKcLATERALncALVEOLARncRETROFLEXn",
     "bCAPITAL LETTER DZ WITH CARONdD WITH SMALL LETTER ZobSMALL LETTER DZobCAPITAL LETTER LJ",
     "dL WITH SMALL LETTER JbSMALL LETTER LJbCAPITAL LETTER NJdN WITH SMALL LETTER J",
     "bSMALL LETTER NJbCAPITAL LETTER A WITH CARONbSMALLqbCAPITAL LETTER IobSMALLq",
     "bCAPITAL LETTER OobSMALLqbCAPITAL LETTER UobSMALLq",
     "bCAPITAL LETTER U WITH DIAERESIS AND MACRONbSMALLsbCAPITAL LETTER U WITH DIAERESIS AND ACUTE",
     "bSMALLsbCAPITAL LETTER U WITH DIAERESIS AND CARONbSMALLs",
     "bCAPITAL LETTER U WITH DIAERESIS AND GRAVEbSMALLsdTURNED E",
     "bCAPITAL LETTER A WITH DIAERESIS AND MACRONbSMALLsbCAPITAL LETTER A WITH DOT ABOVEobSMALLt",
     "bCAPITAL LETTER AE WITHnbSMALLqbCAPITAL LETTER G WITH STROKEbSMALLq",
     "bCAPITAL LETTER G WITH CARONbSMALLqbCAPITAL LETTER KobSMALLqbCAPITAL LETTER O WITH OGONEK",
     "bSMALLqbCAPITAL LETTER O WITH OGONEK AND MACRONbSMALLsbCAPITAL LETTER EZH WITH CARONbSMALLq",
     "dJobCAPITAL LETTER DZdD WITH SMALL LETTER ZbSMALL LETTER DZbCAPITAL LETTER G WITH ACUTE",
     "bSMALLqbCAPITAL LETTER HWAIRdWYNNdN WITH GRAVEbSMALLq",
     "bCAPITAL LETTER A WITH RING ABOVE AND ACUTEbSMALLtbCAPITAL LETTER AE WITHnbSMALLq",
     "bCAPITAL LETTER O WITH STROKE ANDnbSMALLsbCAPITAL LETTER A WITH DOUBLE GRAVEbSMALLr",
     "bCAPITAL LETTER A WITH INVERTED BREVEbSMALLrbCAPITAL LETTER E WITH DOUBLE GRAVEbSMALLr",
     "bCAPITAL LETTER E WITH INVERTED BREVEbSMALLrbCAPITAL LETTER I WITH DOUBLE GRAVEbSMALLr",
     "bCAPITAL LETTER I WITH INVERTED BREVEbSMALLrbCAPITAL LETTER O WITH DOUBLE GRAVEbSMALLr",
     "bCAPITAL LETTER O WITH INVERTED BREVEbSMALLrbCAPITAL LETTER R WITH DOUBLE GRAVEbSMALLr",
     "bCAPITAL LETTER R WITH INVERTED BREVEbSMALLrbCAPITAL LETTER U WITH DOUBLE GRAVEbSMALLr",
     "bCAPITAL LETTER U WITH INVERTED BREVEbSMALLrbCAPITAL LETTER S WITH COMMA BELOWbSMALLr",
     "bCAPITAL LETTER TpbSMALLrbCAPITAL LETTER YOGHbSMALLobCAPITAL LETTER H WITH CARONbSMALLq",
     "bCAPITAL LETTER N WITH LONG RIGHT LEGbSMALL LETTER D WITH CURLbCAPITAL LETTER OUbSMALLo",
     "bCAPITAL LETTER Z WITH HOOKbSMALLqbCAPITAL LETTER A WITH DOT ABOVEbSMALLr",
     "bCAPITAL LETTER E WITH CEDILLAbSMALLqbCAPITAL LETTER O WITH DIAERESIS AND MACRONbSMALLs",
     "bCAPITAL LETTER O WITH TILDEobSMALLsbCAPITAL LETTER O WITH DOT ABOVEbSMALLr",
     "bCAPITAL LETTER O WITH DOT ABOVE AND MACRONbSMALLtbCAPITAL LETTER Y WITHnbSMALLqdL WITH CURL",
     "dNodTodDOTLESS JdDB DIGRAPHdQPnbCAPITAL LETTER A WITH STROKEdCobSMALLq",
     "bCAPITAL LETTER L WITH BARdT WITH DIAGONAL STROKEbSMALL LETTER S WITH SWASH TAILdZp",
     "bCAPITAL LETTER GLOTTAL STOPbSMALLpbCAPITAL LETTER B WITH STROKEdU BARdTURNED V",
     "dE WITH STROKEbSMALLqbCAPITAL LETTER JobSMALLqbCAPITAL LETTER SMALL Q WITH HOOK TAIL",
     "bSMALL LETTERqbCAPITAL LETTER R WITH STROKEbSMALLqbCAPITAL LETTER YobSMALLqdTURNED AdALPHA",
     "dTURNEDndB WITH HOOKdOPEN OdC WITH CURLdD WITH TAILfHOOKdREVERSED EdSCHWAeWITH HOOKdOPEN E",
     "dREVERSEDogWITH HOOKdCLOSED REVERSED OPEN EdDOTLESS J WITH STROKEdG WITH HOOKdSCRIPT G",
     "bLETTER SMALL CAPITALnbSMALL LETTER GAMMAdRAMS HORNdTURNED HdH WITH HOOKdHENGodI WITH STROKE",
     "dIOTAbLETTER SMALL CAPITAL IbSMALL LETTER L WITH MIDDLE TILDEfBELTfRETROFLEX HOOKdLEZH",
     "dTURNED MfWITH LONG LEGdM WITH HOOKdN WITH LEFTnfRETROFLEXnbLETTER SMALL CAPITAL N",
     "bSMALL LETTER BARRED ObLETTER SMALL CAPITAL OEbSMALL LETTER CLOSED OMEGAdPHIdTURNED R",
     "fWITH LONG LEGgHOOKdR WITH LONG LEGfTAILfFISHHOOKdREVERSEDpbLETTER SMALL CAPITAL ReINVERTEDn",
     "bSMALL LETTER S WITH HOOKdESHdDOTLESS J WITH STROKE AND HOOKdSQUAT REVERSED ESH",
     "dESH WITH CURLdTURNED TdT WITH RETROFLEX HOOKdU BARdUPSILONdV WITH HOOKdTURNED VeWeY",
     "bLETTER SMALL CAPITALnbSMALL LETTER Z WITH RETROFLEX HOOKfCURLdEZHeWITH CURL",
     "bLETTER GLOTTAL STOPcPHARYNGEAL VOICED FRICATIVEcINVERTED GLOTTAL STOPcSTRETCHED C",
     "cBILABIAL CLICKcSMALL CAPITAL BbSMALL LETTER CLOSED OPEN EbLETTER SMALL CAPITAL G WITH HOOK",
     "eHbSMALL LETTER J WITH CROSSED-TAILdTURNED KbLETTER SMALL CAPITAL LbSMALL LETTER Q WITH HOOK",
     "bLETTER GLOTTAL STOP WITH STROKEcREVERSEDqbSMALL LETTER DZ DIGRAPHdDEZHn",
     "dDZ DIGRAPH WITH CURLdTS DIGRAPHdTESHndTC DIGRAPH WITH CURLdFENG DIGRAPHdLSndLZn",
     "bLETTER BILABIAL PERCUSSIVEcBIDENTALnbSMALL LETTER TURNED H WITH FISHHOOKhAND TAIL",
     "aMODIFIER LETTER SMALL HeWITH HOOKdJdRdTURNEDnfWITH HOOKdCAPITAL INVERTED RdWdYcPRIME",
     "cDOUBLEncTURNED COMMAcAPOSTROPHEcREVERSED COMMAcRIGHT HALF RINGcLEFTocGLOTTAL STOPcREVERSEDo",
     "cLEFT ARROWHEADcRIGHTncUPncDOWNncCIRCUMFLEX ACCENTaCARONaMODIFIER LETTER VERTICAL LINE",
     "cMACRONcACUTE ACCENTcGRAVEncLOW VERTICAL LINEdMACRONdGRAVE ACCENTdACUTEncTRIANGULAR COLON",
     "cHALFocCENTRED RIGHT HALF RINGdLEFTocUP TACKcDOWNncPLUS SIGNcMINUSnaBREVEaDOT ABOVEaRINGn",
     "aOGONEKaSMALL TILDEaDOUBLE ACUTE ACCENTaMODIFIER LETTER RHOTIC HOOKcCROSS ACCENTcSMALL GAMMA",
     "dLdSdXdREVERSED GLOTTAL STOPcEXTRA-HIGH TONE BARcHIGHocMIDocLOWocEXTRA-LOWo",
     "cYIN DEPARTING TONE MARKcYANGpcVOICINGcUNASPIRATEDcDOUBLE APOSTROPHEcLOW DOWN ARROWHEADdUPn",
     "dLEFTndRIGHTndRINGcMIDDLE GRAVE ACCENTdDOUBLEoeACUTEncLOW TILDEcRAISED COLONcBEGIN HIGH TONE",
     "cENDocBEGIN LOWncENDocSHELFcOPENncLOW LEFT ARROWaCOMBINING GRAVE ACCENTbACUTEnbCIRCUMFLEXn",
     "bTILDEbMACRONbOVERLINEbBREVEbDOT ABOVEbDIAERESISbHOOK ABOVEbRINGnbDOUBLE ACUTE ACCENTbCARON",
     "bVERTICAL LINE ABOVEbDOUBLEpcGRAVE ACCENTbCANDRABINDUbINVERTED BREVEbTURNED COMMA ABOVEbo",
     "bREVERSEDobCOMMA ABOVE RIGHTbGRAVE ACCENT BELOWbACUTEobLEFT TACKnbRIGHTobLEFT ANGLE ABOVE",
     "bHORNbLEFT HALF RING BELOWbUP TACKnbDOWNobPLUS SIGNnbMINUSobPALATALIZED HOOKnbRETROFLEXo",
     "bDOTnbDIAERESISnbRINGnbCOMMAnbCEDILLAbOGONEKbVERTICAL LINE BELOWbBRIDGEn",
     "bINVERTED DOUBLE ARCHnbCARONnbCIRCUMFLEX ACCENTnbBREVEnbINVERTEDobTILDEnbMACRONnbLOW LINE",
     "bDOUBLEobTILDE OVERLAYbSHORT STROKEnbLONGobSHORT SOLIDUSnbLONGobRIGHT HALF RING BELOW",
     "bINVERTED BRIDGEnbSQUAREnbSEAGULLnbX ABOVEbVERTICAL TILDEbDOUBLE OVERLINEbGRAVE TONE MARK",
     "bACUTEobGREEK PERISPOMENIcKORONIScDIALYTIKA TONOScYPOGEGRAMMENIbBRIDGE ABOVE",
     "bEQUALS SIGN BELOWbDOUBLE VERTICAL LINEnbLEFT ANGLEnbNOT TILDE ABOVEbHOMOTHETICn",
     "bALMOST EQUAL TOnbLEFT RIGHT ARROW BELOWbUPWARDSobGRAPHEME JOINERbRIGHT ARROWHEAD ABOVE",
     "bLEFT HALF RINGnbFERMATAbX BELOWbLEFT ARROWHEADnbRIGHTodAND UP ARROWHEADncHALF RING ABOVE",
     "bDOT ABOVE RIGHTbASTERISK BELOWbDOUBLE RINGnbZIGZAG ABOVEbDOUBLE BREVE BELOWdcMACRONdBELOW",
     "cTILDEcINVERTED BREVEcRIGHTWARDS ARROW BELOWbLATIN SMALL LETTER AeEeIeOeUeCeDeHeMeReTeVeX",
     "aGREEK CAPITAL LETTER HETAbSMALLobCAPITAL LETTER ARCHAIC SAMPIbSMALLpbNUMERAL SIGNbLOWERo",
     "bCAPITAL LETTER PAMPHYLIAN DIGAMMAbSMALLp"]⟩,
   ⟨0x37A, ["aGREEK YPOGEGRAMMENIbSMALL REVERSED LUNATE SIGMA SYMBOLcDOTTEDpcREVERSEDq",
     "bQUESTION MARKbCAPITAL LETTER YOT"]⟩,
   ⟨0x384, ["aGREEK TONOSbDIALYTIKAnbCAPITAL LETTER ALPHA WITHnbANO TELEIA",
     "bCAPITAL LETTER EPSILON WITH TONOSdETAodIOTAo"]⟩,
   ⟨0x38C, ["aGREEK CAPITAL LETTER OMICRON WITH TONOS"]⟩,
   ⟨0x38E, ["aGREEK CAPITAL LETTER UPSILON WITH TONOSdOMEGAobSMALL LETTER IOTA WITH DIALYTIKA ANDn",
     "bCAPITAL LETTER ALPHAdBETAdGAMMAdDELTAdEPSILONdZETAdETAdTHETAdIOTAdKAPPAdLAMDAdMUdNUdXI",
     "dOMICRONdPIdRHO"]⟩,
   ⟨0x3A3, ["aGREEK CAPITAL LETTER SIGMAdTAUdUPSILONdPHIdCHIdPSIdOMEGAdIOTA WITH DIALYTIKA",
     "dUPSILONobSMALL LETTER ALPHA WITH TONOSdEPSILONodETAodIOTAodUPSILON WITH DIALYTIKA ANDn",
     "dALPHAdBETAdGAMMAdDELTAdEPSILONdZETAdETAdTHETAdIOTAdKAPPAdLAMDAdMUdNUdXIdOMICRONdPIdRHO",
     "dFINAL SIGMAdndTAUdUPSILONdPHIdCHIdPSIdOMEGAdIOTA WITH DIALYTIKAdUPSILONodOMICRON WITH TONOS",
     "dUPSILONodOMEGAobCAPITAL KAI SYMBOLbBETAnbTHETAnbUPSILON WITH HOOKndACUTE ANDodDIAERESISp",
     "bPHInbPInbKAInbLETTER ARCHAIC KOPPAbSMALLpbLETTER STIGMAbSMALLobLETTER DIGAMMAbSMALLo",
     "bLETTER KOPPAbSMALLobLETTER SAMPIbSMALLoaCOPTIC CAPITAL LETTER SHEIbSMALLo",
     "bCAPITAL LETTER FEIbSMALLobCAPITAL LETTER KHEIbSMALLobCAPITAL LETTER HORIbSMALLo",
     "bCAPITAL LETTER GANGIAbSMALLobCAPITAL LETTER SHIMAbSMALLobCAPITAL LETTER DEIbSMALLo",
     "aGREEK KAPPA SYMBOLbRHOnbLUNATE SIGMAnbLETTER YOTbCAPITAL THETA SYMBOLbLUNATE EPSILONn",
     "bREVERSEDpbCAPITAL LETTER SHObSMALLobCAPITAL LUNATE SIGMA SYMBOLcLETTER SANbSMALLo",
     "bRHO WITH STROKE SYMBOLbCAPITAL REVERSED LUNATE SIGMAncDOTTEDpcREVERSEDq",
     "aCYRILLIC CAPITAL LETTER IE WITH GRAVEdIOdDJEdGJEdUKRAINIAN IEdDZEdBYELORUSSIAN-UKRAINIAN I",
     "dYIdJEdLJEdNJEdTSHEdKJEdI WITH GRAVEdSHORT UdDZHEdAdBEdVEdGHEdDEdIEdZHEdZEdIdSHORTndKAdELdEM",
     "dENdOdPEdERdESdTEdUdEFdHAdTSEdCHEdSHAdSHCHAdHARD SIGNdYERUdSOFT SIGNdEdYUdYAbSMALL LETTER A",
     "dBEdVEdGHEdDEdIEdZHEdZEdIdSHORTndKAdELdEMdENdOdPEdERdESdTEdUdEFdHAdTSEdCHEdSHAdSHCHA",
     "dHARD SIGNdYERUdSOFT SIGNdEdYUdYAdIE WITH GRAVEdIOdDJEdGJEdUKRAINIAN IEdDZE",
     "dBYELORUSSIAN-UKRAINIAN IdYIdJEdLJEdNJEdTSHEdKJEdI WITH GRAVEdSHORT UdDZHE",
     "bCAPITAL LETTER OMEGAbSMALLobCAPITAL LETTER YATbSMALLobCAPITAL LETTER IOTIFIED EbSMALLp",
     "bCAPITAL LETTER LITTLE YUSbSMALLpbCAPITAL LETTER IOTIFIEDobSMALLqbCAPITAL LETTER BIGnbSMALLp",
     "bCAPITAL LETTER IOTIFIEDobSMALLqbCAPITAL LETTER KSIbSMALLobCAPITAL LETTER PSIbSMALLo",
     "bCAPITAL LETTER FITAbSMALLobCAPITAL LETTER IZHITSAbSMALLo",
     "bCAPITAL LETTER IZHITSA WITH DOUBLE GRAVE ACCENTbSMALLsbCAPITAL LETTER UKbSMALLo",
     "bCAPITAL LETTER ROUND OMEGAbSMALLpbCAPITAL LETTER OMEGA WITH TITLObSMALLqbCAPITAL LETTER OT",
     "bSMALLobCAPITAL LETTER KOPPAbSMALLobTHOUSANDS SIGNaCOMBINING CYRILLIC TITLOcPALATALIZATION",
     "cDASIA PNEUMATAcPSILIncPOKRYTIEcHUNDRED THOUSANDS SIGNcMILLIONSn",
     "aCYRILLIC CAPITAL LETTER SHORT I WITH TAILbSMALLrbCAPITAL LETTER SEMISOFT SIGNbSMALLp",
     "bCAPITAL LETTER ER WITH TICKbSMALLqbCAPITAL LETTER GHE WITH UPTURNbSMALLq",
     "bCAPITAL LETTER GHE WITH STROKEbSMALLqbCAPITAL LETTER GHE WITH MIDDLE HOOKbSMALLr",
     "bCAPITAL LETTER ZHE WITH DESCENDERbSMALLqbCAPITAL LETTER ZEobSMALLqbCAPITAL LETTER KAo",
     "bSMALLqbCAPITAL LETTER KA WITH VERTICAL STROKEbSMALLrbCAPITAL LETTER KA WITHnbSMALLq",
     "bCAPITAL LETTER BASHKIR KAbSMALLpbCAPITAL LETTER EN WITH DESCENDERbSMALLq",
     "bCAPITAL LIGATURE EN GHEbSMALLpbCAPITAL LETTER PE WITH MIDDLE HOOKbSMALLr",
     "bCAPITAL LETTER ABKHASIAN HAbSMALLpbCAPITAL LETTER ES WITH DESCENDERbSMALLq",
     "bCAPITAL LETTER TEobSMALLqbCAPITAL LETTER STRAIGHT UbSMALLp",
     "bCAPITAL LETTER STRAIGHT U WITH STROKEbSMALLrbCAPITAL LETTER HA WITH DESCENDERbSMALLq",
     "bCAPITAL LIGATURE TE TSEbSMALLpbCAPITAL LETTER CHE WITH DESCENDERbSMALLq",
     "bCAPITAL LETTER CHE WITH VERTICAL STROKEbSMALLrbCAPITAL LETTER SHHAbSMALLo",
     "bCAPITAL LETTER ABKHASIAN CHEbSMALLpbCAPITAL LETTER ABKHASIAN CHE WITH DESCENDERbSMALLr",
     "bLETTER PALOCHKAbCAPITAL LETTER ZHE WITH BREVEbSMALLqbCAPITAL LETTER KA WITH HOOKbSMALLq",
     "bCAPITAL LETTER EL WITH TAILbSMALLqbCAPITAL LETTER EN WITH HOOKbSMALLq",
     "bCAPITAL LETTER EN WITH TAILbSMALLqbCAPITAL LETTER KHAKASSIAN CHEbSMALLp",
     "bCAPITAL LETTER EM WITH TAILbSMALLqdPALOCHKAbCAPITAL LETTER A WITH BREVEbSMALLq",
     "bCAPITAL LETTER A WITH DIAERESISbSMALLqbCAPITAL LIGATURE A IEbSMALLp",
     "bCAPITAL LETTER IE WITH BREVEbSMALLqbCAPITAL LETTER SCHWAbSMALLo",
     "bCAPITAL LETTER SCHWA WITH DIAERESISbSMALLqbCAPITAL LETTER ZHEobSMALLqbCAPITAL LETTER ZEo",
     "bSMALLqbCAPITAL LETTER ABKHASIAN DZEbSMALLpbCAPITAL LETTER I WITH MACRONbSMALLq",
     "bCAPITAL LETTER I WITH DIAERESISbSMALLqbCAPITAL LETTER OobSMALLqbCAPITAL LETTER BARRED O",
     "bSMALLpbCAPITAL LETTER BARRED O WITH DIAERESISbSMALLrbCAPITAL LETTER EobSMALLq",
     "bCAPITAL LETTER U WITH MACRONbSMALLqbCAPITAL LETTER U WITH DIAERESISbSMALLq",
     "bCAPITAL LETTER U WITH DOUBLE ACUTEbSMALLrbCAPITAL LETTER CHE WITH DIAERESISbSMALLq",
     "bCAPITAL LETTER GHE WITH DESCENDERbSMALLqbCAPITAL LETTER YERU WITH DIAERESISbSMALLq",
     "bCAPITAL LETTER GHE WITH STROKE AND HOOKbSMALLsbCAPITAL LETTER HA WITHnbSMALLq",
     "bCAPITAL LETTER HA WITH STROKEbSMALLqbCAPITAL LETTER KOMI DEbSMALLpbCAPITAL LETTER KOMI DJE",
     "bSMALLpbCAPITAL LETTER KOMI ZJEbSMALLpbCAPITAL LETTER KOMI DZJEbSMALLp",
     "bCAPITAL LETTER KOMI LJEbSMALLpbCAPITAL LETTER KOMI NJEbSMALLpbCAPITAL LETTER KOMI SJE",
     "bSMALLpbCAPITAL LETTER KOMI TJEbSMALLpbCAPITAL LETTER REVERSED ZEbSMALLp",
     "bCAPITAL LETTER EL WITH HOOKbSMALLqbCAPITAL LETTER LHAbSMALLobCAPITAL LETTER RHAbSMALLo",
     "bCAPITAL LETTER YAEbSMALLobCAPITAL LETTER QAbSMALLobCAPITAL LETTER WEbSMALLo",
     "bCAPITAL LETTER ALEUT KAbSMALLpbCAPITAL LETTER EL WITH MIDDLE HOOKbSMALLrbCAPITAL LETTER ENp",
     "bSMALLrbCAPITAL LETTER PE WITH DESCENDERbSMALLqbCAPITAL LETTER SHHAobSMALLq",
     "bCAPITAL LETTER EN WITH LEFT HOOKbSMALLrbCAPITAL LETTER DZZHEbSMALLobCAPITAL LETTER DCHE",
     "bSMALLobCAPITAL LETTER EL WITH DESCENDERbSMALLq"]⟩,
   ⟨0x531, ["aARMENIAN CAPITAL LETTER AYBdBENdGIMdDAdECHdZAdEHdETdTOdZHEdINIdLIWNdXEHdCAdKENdHOdJA",
     "dGHADdCHEHdMENdYIdNOWdSHAdVOdCHAdPEHdJHEHdRAdSEHdVEWdTIWNdREHdCOdYIWNdPIWRdKEHdOHdFEH"]⟩,
   ⟨0x559, ["aARMENIAN MODIFIER LETTER LEFT HALF RINGbAPOSTROPHEbEMPHASIS MARKbEXCLAMATIONnbCOMMA",
     "bQUESTION MARKbABBREVIATIONnbSMALL LETTER TURNED AYBdndBENdGIMdDAdECHdZAdEHdETdTOdZHEdINI",
     "dLIWNdXEHdCAdKENdHOdJAdGHADdCHEHdMENdYIdNOWdSHAdVOdCHAdPEHdJHEHdRAdSEHdVEWdTIWNdREHdCOdYIWN",
     "dPIWRdKEHdOHdFEHcLIGATURE ECH YIWNcLETTER YI WITH STROKEbFULL STOPbHYPHEN"]⟩,
   ⟨0x58D, ["aRIGHT-FACING ARMENIAN ETERNITY SIGNaLEFT-FACINGpaARMENIAN DRAMn"]⟩,
   ⟨0x591, ["aHEBREW ACCENT ETNAHTAcSEGOLcSHALSHELETcZAQEF QATANdGADOLcTIPEHAcREVIAcZARQAcPASHTA",
     "cYETIVcTEVIRcGERESHdMUQDAMcGERSHAYIMcQARNEY PARAcTELISHA GEDOLAcPAZERcATNAH HAFUKHcMUNAH",
     "cMAHAPAKHcMERKHAdKEFULAcDARGAcQADMAcTELISHA QETANAcYERAH BEN YOMOcOLEcILUYcDEHIcZINOR",
     "bMARK MASORA CIRCLEbPOINT SHEVAcHATAF SEGOLdPATAHdQAMATScHIRIQcTSEREcSEGOLcPATAHcQAMATS",
     "cHOLAMdHASER FOR VAVcQUBUTScDAGESH OR MAPIQcMETEGbPUNCTUATION MAQAFbPOINT RAFE",
     "bPUNCTUATION PASEQbPOINT SHIN DOTcSINnbPUNCTUATION SOF PASUQbMARK UPPER DOTcLOWERn",
     "bPUNCTUATION NUN HAFUKHAbPOINT QAMATS QATAN"]⟩,
   ⟨0x5D0, ["aHEBREW LETTER ALEFcBETcGIMELcDALETcHEcVAVcZAYINcHETcTETcYODcFINAL KAFcncLAMED",
     "cFINAL MEMcncFINAL NUNcncSAMEKHcAYINcFINAL PEcncFINAL TSADIcncQOFcRESHcSHINcTAV"]⟩,
   ⟨0x5EF, ["aHEBREW YOD TRIANGLEbLIGATURE YIDDISH DOUBLE VAVdVAV YODdDOUBLEnbPUNCTUATION GERESH",
     "cGERSHAYIM"]⟩,
   ⟨0x600, ["aARABIC NUMBER SIGNbSIGN SANAHbFOOTNOTE MARKERbSIGN SAFHAcSAMVATbNUMBER MARK ABOVE",
     "aARABIC-INDIC CUBE ROOTbFOURTHnaARABIC RAYaARABIC-INDIC PER MILLE SIGNcTEN THOUSANDn",
     "aAFGHANInaARABIC COMMAbDATE SEPARATORbPOETIC VERSE SIGNbSIGN MISRA",
     "cSALLALLAHOU ALAYHE WASSALLAMcALAYHE ASSALLAMcRAHMATULLAH ALAYHEcRADI ALLAHOU ANHUcTAKHALLUS",
     "bSMALL HIGH TAHdLIGATURE ALEF WITH LAM WITH YEHdZAINcFATHAcDAMMAcKASRAbSEMICOLONbLETTER MARK",
     "bEND OF TEXTnbTRIPLE DOT PUNCTUATIONnbQUESTIONnbLETTER KASHMIRI YEHcHAMZA",
     "cALEF WITH MADDA ABOVEeHAMZAncWAWpcALEF WITH HAMZA BELOWcYEH WITH HAMZA ABOVEcALEFcBEH",
     "cTEH MARBUTAdcTHEHcJEEMcHAHcKHAHcDALcTHALcREHcZAINcSEENcSHEENcSADcDADcTAHcZAHcAINcGHAIN",
     "cKEHEH WITH TWO DOTS ABOVEeTHREE DOTS BELOWcFARSI YEH WITH INVERTED VfTWO DOTS ABOVEfTHREEo",
     "bTATWEELbLETTER FEHcQAFcKAFcLAMcMEEMcNOONcHEHcWAWcALEF MAKSURAcYEHbFATHATANbDAMMATAN",
     "bKASRATANbFATHAbDAMMAbKASRAbSHADDAbSUKUNbMADDAH ABOVEbHAMZAncBELOWbSUBSCRIPT ALEF",
     "bINVERTED DAMMAbMARK NOON GHUNNAbZWARAKAYbVOWEL SIGN SMALL V ABOVEdINVERTEDpdDOT BELOW",
     "bREVERSED DAMMAbFATHA WITH TWO DOTSbWAVY HAMZA BELOWaARABIC-INDIC DIGIT ZEROcONEcTWOcTHREE",
     "cFOURcFIVEcSIXcSEVENcEIGHTcNINEaARABIC PERCENT SIGNbDECIMAL SEPARATORbTHOUSANDSn",
     "bFIVE POINTED STARbLETTER DOTLESS BEHdQAFcSUPERSCRIPT ALEFcALEF WASLAdWITH WAVY HAMZA ABOVE",
     "gBELOWcHIGH HAMZAeALEFeWAWcU WITH HAMZA ABOVEcHIGH HAMZA YEHcTTEHcTTEHEHcBEEHcTEH WITH RING",
     "eTHREE DOTS ABOVE DOWNWARDScPEHcTEHEHcBEHEHcHAH WITH HAMZA ABOVEeTWO DOTS VERTICALncNYEH",
     "cDYEHcHAH WITH THREE DOTS ABOVEcTCHEHcTCHEHEHcDDALcDAL WITH RINGeDOT BELOWgAND SMALL TAH",
     "cDAHALcDDAHALcDULcDAL WITH THREE DOTS ABOVE DOWNWARDSeFOUR DOTS ABOVEcRREHcREH WITH SMALL V",
     "eRINGeDOT BELOWeSMALL VneDOT BELOW AND DOT ABOVEeTWO DOTSncJEHcREH WITH FOUR DOTS ABOVE",
     "cSEEN WITH DOT BELOW AND DOTneTHREE DOTS BELOWhAND THREE DOTS ABOVEcSAD WITH TWO DOTS BELOW",
     "eTHREE DOTS ABOVEcTAHqcAINqcDOTLESS FEHcFEH WITH DOT MOVED BELOWfncVEH",
     "cFEH WITH THREE DOTS BELOWcPEHEHcQAF WITH DOT ABOVEeTHREE DOTSncKEHEHcSWASH KAF",
     "cKAF WITH RINGeDOT ABOVEcNGcKAF WITH THREE DOTS BELOWcGAFdWITH RINGcNGOEH",
     "cGAF WITH TWO DOTS BELOWcGUEHcGAF WITH THREE DOTS ABOVEcLAM WITH SMALL VeDOT ABOVE",
     "eTHREE DOTSngBELOWcNOON WITH DOTndGHUNNAcRNOONcNOON WITH RINGeTHREE DOTS ABOVE",
     "cHEH DOACHASHMEEcTCHEH WITH DOT ABOVEcHEH WITH YEHndGOALeWITH HAMZA ABOVEcTEH MARBUTA GOAL",
     "cWAW WITH RINGcKIRGHIZ OEcncUcYUcKIRGHIZncWAW WITH TWO DOTS ABOVEcVEcFARSI YEHcYEH WITH TAIL",
     "eSMALL VcWAW WITH DOT ABOVEcEcYEH WITH THREE DOTS BELOWdBARREEeWITH HAMZA ABOVEbFULL STOP",
     "bLETTER AEbSMALL HIGH LIGATURE SAD WITH LAM WITH ALEF MAKSURAeQAFrdMEEM INITIAL FORM",
     "dLAM ALEFdJEEMdTHREE DOTSdSEENbEND OF AYAHbSTART OF RUB EL HIZBbSMALL HIGH ROUNDED ZERO",
     "dUPRIGHT RECTANGULARndDOTLESS HEAD OF KHAHdMEEM ISOLATED FORMcLOW SEENcHIGH MADDAcWAWcYEH",
     "cHIGHndNOONbPLACE OF SAJDAHbEMPTY CENTRE LOW STOPdHIGHnbROUNDED HIGH STOP WITH FILLED CENTRE",
     "bSMALL LOW MEEMbLETTER DAL WITH INVERTED VcREHpaEXTENDED ARABIC-INDIC DIGIT ZEROdONEdTWO",
     "dTHREEdFOURdFIVEdSIXdSEVENdEIGHTdNINEaARABIC LETTER SHEEN WITH DOT BELOWcDADpcGHAINp",
     "bSIGN SINDHI AMPERSANDdPOSTPOSITION MENbLETTER HEH WITH INVERTED VaSYRIAC END OF PARAGRAPH",
     "bSUPRALINEAR FULL STOPbSUBLINEARobSUPRALINEAR COLONbSUBLINEARnbHORIZONTALnbCOLON SKEWED LEFT",
     "dRIGHTbSUPRALINEAR COLON SKEWED LEFTbSUBLINEAR COLON SKEWED RIGHTbCONTRACTION",
     "bHARKLEAN OBELUScMETOBELUScASTERISCUS"]⟩,
   ⟨0x70F, ["aSYRIAC ABBREVIATION MARKbLETTER ALAPHcSUPERSCRIPTncBETHcGAMALdGARSHUNIcDALATH",
     "cDOTLESS DALATH RISHcHEcWAWcZAINcHETHcTETHdGARSHUNIcYUDHdHEcKAPHcLAMADHcMIMcNUNcSEMKATH",
     "cFINALncEcPEcREVERSEDncSADHEcQAPHcRISHcSHINcTAWcPERSIAN BHETHdGHAMALdDHALATHbPTHAHA ABOVE",
     "cBELOWcDOTTEDbZQAPHA ABOVEcBELOWcDOTTEDbRBASA ABOVEcBELOWbDOTTED ZLAMA HORIZONTALdANGULAR",
     "bHBASA ABOVEcBELOWbHBASA-ESASA DOTTEDbESASA ABOVEcBELOWbRWAHAbFEMININE DOTbQUSHSHAYA",
     "bRUKKAKHAbTWO VERTICAL DOTS ABOVEeBELOWbTHREE DOTS ABOVEdBELOWbOBLIQUE LINE ABOVEdBELOW",
     "bMUSICbBARREKH"]⟩,
   ⟨0x74D, ["aSYRIAC LETTER SOGDIAN ZHAINdKHAPHdFE",
     "aARABIC LETTER BEH WITH THREE DOTS HORIZONTALLY BELOWeDOT BELOW AND THREE DOTS ABOVE",
     "eTHREE DOTS POINTING UPWARDS BELOWjAND TWO DOTS ABOVEeTWO DOTS BELOW AND DOTn",
     "eINVERTED SMALL V BELOWeSMALL VcHAH WITH TWO DOTS ABOVEeTHREE DOTS POINTING UPWARDS BELOW",
     "cDAL WITH TWO DOTS VERTICALLY BELOW AND SMALL TAHeINVERTED SMALL V BELOWcREH WITH STROKE",
     "cSEEN WITH FOUR DOTS ABOVEcAIN WITH TWOoeTHREE DOTS POINTING DOWNWARDSneTWO DOTS VERTICALLYn",
     "cFEH WITH TWO DOTS BELOWeTHREE DOTS POINTING UPWARDSncKEHEH WITH DOT ABOVEeTHREE DOTSn",
     "gPOINTING UPWARDS BELOWcMEEM WITH DOT ABOVEfBELOWcNOON WITH TWO DOTSneSMALL TAHfV",
     "cLAM WITH BARcREH WITH TWO DOTS VERTICALLY ABOVEeHAMZAncSEEN WITH TWO DOTS VERTICALLYn",
     "cHAH WITH SMALL ARABIC LETTER TAH BELOWiAND TWO DOTScSEENucREHu",
     "cHAH WITH SMALL ARABIC LETTER TAH ABOVEcALEF WITH EXTENDED ARABIC-INDIC DIGIT TWOnhTHREEn",
     "cFARSI YEH WITH EXTENDED ARABIC-INDIC DIGIT TWOniTHREEniFOUR BELOW",
     "cWAW WITH EXTENDED ARABIC-INDIC DIGIT TWO ABOVEhTHREEn",
     "cYEH BARREE WITH EXTENDED ARABIC-INDIC DIGIT TWOniTHREEn",
     "cHAH WITH EXTENDED ARABIC-INDIC DIGIT FOUR BELOW",
     "cSEEN WITH EXTENDED ARABIC-INDIC DIGIT FOUR ABOVEeINVERTED VcKAF WITH TWO DOTS ABOVE",
     "aTHAANA LETTER HAAcSHAVIYANIcNOONUcRAAcBAAcLHAVIYANIcKAAFUcALIFUcVAAVUcMEEMUcFAAFUcDHAALU",
     "cTHAAcLAAMUcGAAFUcGNAVIYANIcSEENUcDAVIYANIcZAVIYANIcTAVIYANIcYAAcPAVIYANIcJAVIYANIcCHAVIYANI",
     "cTTAAcHHAAcKHAAcTHAALUcZAAcSHEENUcSAADHUcDAADHUcTOcZOcAINUcGHAINUcQAAFUcWAAVUbABAFILI",
     "bAABAAFILIbIBIFILIbEEBEEFILIbUBUFILIbOOBOOFILIbEBEFILIbEYBEYFILIbOBOFILIbOABOAFILIbSUKUN",
     "bLETTER NAA"]⟩,
   ⟨0x7C0, ["aNKO DIGIT ZEROcONEcTWOcTHREEcFOURcFIVEcSIXcSEVENcEIGHTcNINEbLETTER AcEEcIcEcUcOOcO",
     "cDAGBASINNAcNcBAcPAcTAcJAcCHAcDAcRAcRRAcSAcGBAcFAcKAcLAcNA WOLOSOcMAcNYAcNAcHAcWAcYA",
     "cNYA WOLOSOcJONA JAdCHAdRAbCOMBINING SHORT HIGH TONEdLOWndRISINGncLONG DESCENDINGndHIGHn",
     "dLOWndRISINGncNASALIZATION MARKcDOUBLE DOT ABOVEbHIGH TONE APOSTROPHEbLOWobSYMBOL OO DENNEN",
     "cGBAKURUNENbCOMMAbEXCLAMATION MARKbLAJANYALAN"]⟩,
   ⟨0x7FD, ["aNKO DANTAYALANbDOROME SIGNbTAMANnaSAMARITAN LETTER ALAFcBITcGAMANcDALATcIYcBAAcZEN",
     "cITcTITcYUTcKAAFcLABATcMIMcNUNcSINGAATcINcFIcTSAADIYcQUFcRISHcSHANcTAAFbMARK INcIN-ALAF",
     "cOCCLUSIONcDAGESHbMODIFIER LETTER EPENTHETIC YUTbMARKobVOWEL SIGN LONG EdndOVERLONG AAdLONGn",
     "dndOVERLONG AdLONGndnbMODIFIER LETTER SHORTnbVOWEL SIGNodLONG UdnbMODIFIER LETTER I",
     "bVOWEL SIGN LONGndndOdSUKUNbMARK NEQUDAA"]⟩,
   ⟨0x830, ["aSAMARITAN PUNCTUATION NEQUDAAcAFSAAQcANGEDcBAUcATMAAUcSHIYYAALAAbABBREVIATION MARK",
     "bPUNCTUATION MELODIC QITSAcZIQAAcQITSAcZAEFcTURUcARKAANUcSOF MASHFAATcANNAAU"]⟩,
   ⟨0x840, ["aMANDAIC LETTER HALQAcABcAGcADcAHcUSHENNAcAZcITcATTcAKSAcAKcALcAMcANcAScINcAPcASZcAQ",
     "cARcASHcATcDUSHENNAcKADcAINbAFFRICATION MARKbVOCALIZATIONnbGEMINATIONn"]⟩,
   ⟨0x85E, ["aMANDAIC PUNCTUATION"]⟩,
   ⟨0x860, ["aSYRIAC LETTER MALAYALAM NGAdJAdNYAdTTAdNNAdNNNAdBHAdRAdLLAdLLLAdSSA"]⟩,
   ⟨0x870, ["aARABIC LETTER ALEF WITH ATTACHED FATHAfTOP RIGHTneRIGHT MIDDLE STROKEeLEFTo",
     "eATTACHED KASRAfBOTTOM RIGHTnfROUND DOT ABOVEfRIGHT ROUND DOTfLEFTofROUND DOT BELOW",
     "eDOT ABOVEeATTACHED TOP RIGHT FATHA ANDoeRIGHT MIDDLE STROKEpeATTACHED BOTTOM RIGHT KASRAp",
     "fTOP RIGHT FATHA AND LEFT RINGeRIGHT MIDDLE STROKEpeATTACHED BOTTOM RIGHT KASRApfRIGHT HAMZA",
     "fLEFTnbTATWEEL WITH OVERSTRUCKneWAWdTWO DOTS BELOWbLETTER THIN YEHbBASELINE ROUND DOT",
     "bRAISEDobLETTER NOON WITH INVERTED SMALL VcHAH WITH INVERTED SMALL V BELOWcTAH WITH DOTn",
     "eTHREE DOTSncKEHEH WITH TWO DOTS VERTICALLYnbVERTICAL TAIL"]⟩,
   ⟨0x890, ["aARABIC POUND MARK ABOVEbPIASTREo"]⟩,
   ⟨0x898, ["aARABIC SMALL HIGH WORD AL-JUZcLOW WORD ISHMAAMeIMAALAeTASHEELbMADDA WAAJIB",
     "bSUPERSCRIPT ALEF MOKHASSASbDOUBLED MADDAbHALF MADDA OVERnbLETTER BEH WITH SMALL V BELOW",
     "eHAMZA ABOVEcJEEM WITH TWO DOTSncTAHqcFEH WITH DOT BELOW AND THREEocQAF WITH DOT BELOW",
     "cLAM WITH DOUBLE BARcMEEM WITH THREE DOTS ABOVEcYEH WITH TWO DOTS BELOW AND HAMZAniDOTn",
     "cREH WITH LOOPcWAW WITH DOT WITHINcROHINGYA YEHcLOW ALEFcDAL WITH THREE DOTS BELOWcSADq",
     "cGAF WITH INVERTED STROKEcSTRAIGHT WAWcZAIN WITH INVERTED V ABOVEcAIN WITH THREE DOTS BELOW",
     "cKAF WITH DOTncQAF WITH DOT BELOW AND NO DOTS ABOVEcBEH WITH SMALL MEEMncPEHq",
     "cTEH WITH SMALL TEHncREH WITH SMALL NOONncYEH WITH TWO DOTS BELOW ANDpcAFRICAN FEHdQAFdNOON",
     "cPEH WITH SMALL VcTEHpcTTEHpcTCHEHpcKEHEHpcGHAIN WITH THREE DOTS ABOVEcAFRICAN QAFqcJEEMq",
     "gBELOWcLAM WITH SMALL ARABIC LETTER TAH ABOVEcGRAFbSMALL FARSI YEHcHIGHo",
     "dYEH BARREE WITH TWO DOTS BELOWdWORD SAHdZAHbLARGE ROUND DOT ABOVEeBELOWbSUKUNn",
     "bLARGE CIRCLEncROUND DOT INSIDEobSMALL LOW WAWcHIGH WORD AR-RUBdSADdAINdQAFdNOON WITH KASRA",
     "cLOWpcHIGH WORD ATH-THALATHAeAS-SAJDAeAN-NISFeSAKTAeQIFeWAQFAdFOOTNOTE MARKERdSIGN SAFHA",
     "bDISPUTED END OF AYAHbTURNED DAMMA BELOWbCURLY FATHAcDAMMAcKASRAcFATHATANcDAMMATANcKASRATAN",
     "bTONE ONE DOT ABOVEcTWO DOTSncLOOPncONE DOT BELOWcTWO DOTSncLOOPnbOPEN FATHATANcDAMMATAN",
     "cKASRATANbSMALL HIGH WAWbFATHA WITH RINGdDOT ABOVEbKASRA WITH DOT BELOWbLEFT ARROWHEAD ABOVE",
     "bRIGHTobLEFT ARROWHEAD BELOWbRIGHTobDOUBLE RIGHT ARROWHEAD ABOVEfWITH DOTbrbDAMMAo",
     "bMARK SIDEWAYS NOON GHUNNAaDEVANAGARI SIGN INVERTED CANDRABINDUcncANUSVARAcVISARGA",
     "bLETTER SHORT AcncAAcIcIIcUcUUcVOCALIC RdLcCANDRA EcSHORTncncAIcCANDRA OcSHORTncncAUcKAcKHA",
     "cGAcGHAcNGAcCAcCHAcJAcJHAcNYAcTTAcTTHAcDDAcDDHAcNNAcTAcTHAcDAcDHAcNAcNNNAcPAcPHAcBAcBHAcMA",
     "cYAcRAcRRAcLAcLLAcLLLAcVAcSHAcSSAcSAcHAbVOWEL SIGN OEdOOEbSIGN NUKTAcAVAGRAHAbVOWEL SIGN AA",
     "dIdIIdUdUUdVOCALIC ReRRdCANDRA EdSHORTndndAIdCANDRA OdSHORTndndAUbSIGN VIRAMA",
     "bVOWEL SIGN PRISHTHAMATRA EdAWbOMbSTRESS SIGN UDATTAdANUDATTAbGRAVE ACCENTbACUTEn",
     "bVOWEL SIGN CANDRA LONG EdUEdUUEbLETTER QAcKHHAcGHHAcZAcDDDHAcRHAcFAcYYAcVOCALIC RRdLL",
     "bVOWEL SIGN VOCALIC LeLLbDANDAbDOUBLEnbDIGIT ZEROcONEcTWOcTHREEcFOURcFIVEcSIXcSEVENcEIGHT",
     "cNINEbABBREVIATION SIGNbSIGN HIGH SPACING DOTbLETTER CANDRA AcOEcOOEcAWcUEcUUEcMARWARI DDA",
     "cZHAcHEAVY YAcGGAcJJAcGLOTTAL STOPcDDDAcBBAaBENGALI ANJIbSIGN CANDRABINDUcANUSVARAcVISARGA"]⟩,
   ⟨0x985, ["aBENGALI LETTER AcAAcIcIIcUcUUcVOCALIC RdL"]⟩,
   ⟨0x98F, ["aBENGALI LETTER EcAI"]⟩,
   ⟨0x993, ["aBENGALI LETTER OcAUcKAcKHAcGAcGHAcNGAcCAcCHAcJAcJHAcNYAcTTAcTTHAcDDAcDDHAcNNAcTAcTHA",
     "cDAcDHAcNA"]⟩,
   ⟨0x9AA, ["aBENGALI LETTER PAcPHAcBAcBHAcMAcYAcRA"]⟩,
   ⟨0x9B2, ["aBENGALI LETTER LA"]⟩,
   ⟨0x9B6, ["aBENGALI LETTER SHAcSSAcSAcHA"]⟩,
   ⟨0x9BC, ["aBENGALI SIGN NUKTAcAVAGRAHAbVOWEL SIGN AAdIdIIdUdUUdVOCALIC ReRR"]⟩,
   ⟨0x9C7, ["aBENGALI VOWEL SIGN EdAI"]⟩,
   ⟨0x9CB, ["aBENGALI VOWEL SIGN OdAUbSIGN VIRAMAbLETTER KHANDA TA"]⟩,
   ⟨0x9D7, ["aBENGALI AU LENGTH MARK"]⟩,
   ⟨0x9DC, ["aBENGALI LETTER RRAcRHA"]⟩,
   ⟨0x9DF, ["aBENGALI LETTER YYAcVOCALIC RRdLLbVOWEL SIGN VOCALIC LeLL"]⟩,
   ⟨0x9E6, ["aBENGALI DIGIT ZEROcONEcTWOcTHREEcFOURcFIVEcSIXcSEVENcEIGHTcNINE",
     "bLETTER RA WITH MIDDLE DIAGONALeLOWERnbRUPEE MARKcSIGNbCURRENCY NUMERATOR ONEdTWOdTHREEdFOUR",
     "dONE LESS THAN THE DENOMINATORcDENOMINATOR SIXTEENbISSHARbGANDA MARKbLETTER VEDIC ANUSVARA",
     "bABBREVIATION SIGNbSANDHI MARK"]⟩,
   ⟨0xA01, ["aGURMUKHI SIGN ADAK BINDIcncVISARGA"]⟩,
   ⟨0xA05, ["aGURMUKHI LETTER AcAAcIcIIcUcUU"]⟩,
   ⟨0xA0F, ["aGURMUKHI LETTER EEcAI"]⟩,
   ⟨0xA13, ["aGURMUKHI LETTER OOcAUcKAcKHAcGAcGHAcNGAcCAcCHAcJAcJHAcNYAcTTAcTTHAcDDAcDDHAcNNAcTA",
     "cTHAcDAcDHAcNA"]⟩,
   ⟨0xA2A, ["aGURMUKHI LETTER PAcPHAcBAcBHAcMAcYAcRA"]⟩,
   ⟨0xA32, ["aGURMUKHI LETTER LAcLLA"]⟩,
   ⟨0xA35, ["aGURMUKHI LETTER VAcSHA"]⟩,
   ⟨0xA38, ["aGURMUKHI LETTER SAcHA"]⟩,
   ⟨0xA3C, ["aGURMUKHI SIGN NUKTA"]⟩,
   ⟨0xA3E, ["aGURMUKHI VOWEL SIGN AAdIdIIdUdUU"]⟩,
   ⟨0xA47, ["aGURMUKHI VOWEL SIGN EEdAI"]⟩,
   ⟨0xA4B, ["aGURMUKHI VOWEL SIGN OOdAUbSIGN VIRAMA"]⟩,
   ⟨0xA51, ["aGURMUKHI SIGN UDAAT"]⟩,
   ⟨0xA59, ["aGURMUKHI LETTER KHHAcGHHAcZAcRRA"]⟩,
   ⟨0xA5E, ["aGURMUKHI LETTER FA"]⟩,
   ⟨0xA66, ["aGURMUKHI DIGIT ZEROcONEcTWOcTHREEcFOURcFIVEcSIXcSEVENcEIGHTcNINEbTIPPIbADDAKbIRIbURA",
     "bEK ONKARbSIGN YAKASHbABBREVIATION SIGN"]⟩,
   ⟨0xA81, ["aGUJARATI SIGN CANDRABINDUcANUSVARAcVISARGA"]⟩,
   ⟨0xA85, ["aGUJARATI LETTER AcAAcIcIIcUcUUcVOCALIC RdLbVOWEL CANDRA E"]⟩,
   ⟨0xA8F, ["aGUJARATI LETTER EcAIbVOWEL CANDRA O"]⟩,
   ⟨0xA93, ["aGUJARATI LETTER OcAUcKAcKHAcGAcGHAcNGAcCAcCHAcJAcJHAcNYAcTTAcTTHAcDDAcDDHAcNNAcTA",
     "cTHAcDAcDHAcNA"]⟩,
   ⟨0xAAA, ["aGUJARATI LETTER PAcPHAcBAcBHAcMAcYAcRA"]⟩,
   ⟨0xAB2, ["aGUJARATI LETTER LAcLLA"]⟩,
   ⟨0xAB5, ["aGUJARATI LETTER VAcSHAcSSAcSAcHA"]⟩,
   ⟨0xABC, ["aGUJARATI SIGN NUKTAcAVAGRAHAbVOWEL SIGN AAdIdIIdUdUUdVOCALIC ReRRdCANDRA E"]⟩,
   ⟨0xAC7, ["aGUJARATI VOWEL SIGN EdAIdCANDRA O"]⟩,
   ⟨0xACB, ["aGUJARATI VOWEL SIGN OdAUbSIGN VIRAMA"]⟩,
   ⟨0xAD0, ["aGUJARATI OM"]⟩,
   ⟨0xAE0, ["aGUJARATI LETTER VOCALIC RRdLLbVOWEL SIGN VOCALIC LeLL"]⟩,
   ⟨0xAE6, ["aGUJARATI DIGIT ZEROcONEcTWOcTHREEcFOURcFIVEcSIXcSEVENcEIGHTcNINEbABBREVIATION SIGN",
     "bRUPEEn"]⟩,
   ⟨0xAF9, ["aGUJARATI LETTER ZHAbSIGN SUKUNcSHADDAcMADDAHcTHREE-DOT NUKTA ABOVEcCIRCLEo",
     "cTWO-CIRCLEo"]⟩,
   ⟨0xB01, ["aORIYA SIGN CANDRABINDUcANUSVARAcVISARGA"]⟩,
   ⟨0xB05, ["aORIYA LETTER AcAAcIcIIcUcUUcVOCALIC RdL"]⟩,
   ⟨0xB0F, ["aORIYA LETTER EcAI"]⟩,
   ⟨0xB13, ["aORIYA LETTER OcAUcKAcKHAcGAcGHAcNGAcCAcCHAcJAcJHAcNYAcTTAcTTHAcDDAcDDHAcNNAcTAcTHA",
     "cDAcDHAcNA"]⟩,
   ⟨0xB2A, ["aORIYA LETTER PAcPHAcBAcBHAcMAcYAcRA"]⟩,
   ⟨0xB32, ["aORIYA LETTER LAcLLA"]⟩,
   ⟨0xB35, ["aORIYA LETTER VAcSHAcSSAcSAcHA"]⟩,
   ⟨0xB3C, ["aORIYA SIGN NUKTAcAVAGRAHAbVOWEL SIGN AAdIdIIdUdUUdVOCALIC ReRR"]⟩,
   ⟨0xB47, ["aORIYA VOWEL SIGN EdAI"]⟩,
   ⟨0xB4B, ["aORIYA VOWEL SIGN OdAUbSIGN VIRAMA"]⟩,
   ⟨0xB55, ["aORIYA SIGN OVERLINEbAI LENGTH MARKbAUo"]⟩,
   ⟨0xB5C, ["aORIYA LETTER RRAcRHA"]⟩,
   ⟨0xB5F, ["aORIYA LETTER YYAcVOCALIC RRdLLbVOWEL SIGN VOCALIC LeLL"]⟩,
   ⟨0xB66, ["aORIYA DIGIT ZEROcONEcTWOcTHREEcFOURcFIVEcSIXcSEVENcEIGHTcNINEbISSHARbLETTER WA",
     "bFRACTION ONE QUARTERdHALFcTHREE QUARTERScONE SIXTEENTHdEIGHTHcTHREE SIXTEENTHS"]⟩,
   ⟨0xB82, ["aTAMIL SIGN ANUSVARAcVISARGA"]⟩,
   ⟨0xB85, ["aTAMIL LETTER AcAAcIcIIcUcUU"]⟩,
   ⟨0xB8E, ["aTAMIL LETTER EcEEcAI"]⟩,
   ⟨0xB92, ["aTAMIL LETTER OcOOcAUcKA"]⟩,
   ⟨0xB99, ["aTAMIL LETTER NGAcCA"]⟩,
   ⟨0xB9C, ["aTAMIL LETTER JA"]⟩,
   ⟨0xB9E, ["aTAMIL LETTER NYAcTTA"]⟩,
   ⟨0xBA3, ["aTAMIL LETTER NNAcTA"]⟩,
   ⟨0xBA8, ["aTAMIL LETTER NAcNNNAcPA"]⟩,
   ⟨0xBAE, ["aTAMIL LETTER MAcYAcRAcRRAcLAcLLAcLLLAcVAcSHAcSSAcSAcHA"]⟩,
   ⟨0xBBE, ["aTAMIL VOWEL SIGN AAdIdIIdUdUU"]⟩,
   ⟨0xBC6, ["aTAMIL VOWEL SIGN EdEEdAI"]⟩,
   ⟨0xBCA, ["aTAMIL VOWEL SIGN OdOOdAUbSIGN VIRAMA"]⟩,
   ⟨0xBD0, ["aTAMIL OM"]⟩,
   ⟨0xBD7, ["aTAMIL AU LENGTH MARK"]⟩,
   ⟨0xBE6, ["aTAMIL DIGIT ZEROcONEcTWOcTHREEcFOURcFIVEcSIXcSEVENcEIGHTcNINEbNUMBER TENcONE HUNDRED",
     "dTHOUSANDbDAY SIGNbMONTHnbYEARnbDEBITnbCREDITnbAS ABOVEnbRUPEEnbNUMBERn"]⟩,
   ⟨0xC00, ["aTELUGU SIGN COMBINING CANDRABINDU ABOVEcCANDRABINDUcANUSVARAcVISARGA",
     "cCOMBINING ANUSVARA ABOVEbLETTER AcAAcIcIIcUcUUcVOCALIC RdL"]⟩,
   ⟨0xC0E, ["aTELUGU LETTER EcEEcAI"]⟩,
   ⟨0xC12, ["aTELUGU LETTER OcOOcAUcKAcKHAcGAcGHAcNGAcCAcCHAcJAcJHAcNYAcTTAcTTHAcDDAcDDHAcNNAcTA",
     "cTHAcDAcDHAcNA"]⟩,
   ⟨0xC2A, ["aTELUGU LETTER PAcPHAcBAcBHAcMAcYAcRAcRRAcLAcLLAcLLLAcVAcSHAcSSAcSAcHA"]⟩,
   ⟨0xC3C, ["aTELUGU SIGN NUKTAcAVAGRAHAbVOWEL SIGN AAdIdIIdUdUUdVOCALIC ReRR"]⟩,
   ⟨0xC46, ["aTELUGU VOWEL SIGN EdEEdAI"]⟩,
   ⟨0xC4A, ["aTELUGU VOWEL SIGN OdOOdAUbSIGN VIRAMA"]⟩,
   ⟨0xC55, ["aTELUGU LENGTH MARKbAIo"]⟩,
   ⟨0xC58, ["aTELUGU LETTER TSAcDZAcRRRA"]⟩,
   ⟨0xC5D, ["aTELUGU LETTER NAKAARA POLLU"]⟩,
   ⟨0xC60, ["aTELUGU LETTER VOCALIC RRdLLbVOWEL SIGN VOCALIC LeLL"]⟩,
   ⟨0xC66, ["aTELUGU DIGIT ZEROcONEcTWOcTHREEcFOURcFIVEcSIXcSEVENcEIGHTcNINE"]⟩,
   ⟨0xC77, ["aTELUGU SIGN SIDDHAMbFRACTION DIGIT ZERO FOR ODD POWERS OF FOURdONErdTWOrdTHREEr",
     "dONE FOR EVENpdTWOrdTHREErbSIGN TUUMUaKANNADA SIGN SPACING CANDRABINDUcncANUSVARAcVISARGA",
     "cSIDDHAMbLETTER AcAAcIcIIcUcUUcVOCALIC RdL"]⟩,
   ⟨0xC8E, ["aKANNADA LETTER EcEEcAI"]⟩,
   ⟨0xC92, ["aKANNADA LETTER OcOOcAUcKAcKHAcGAcGHAcNGAcCAcCHAcJAcJHAcNYAcTTAcTTHAcDDAcDDHAcNNAcTA",
     "cTHAcDAcDHAcNA"]⟩,
   ⟨0xCAA, ["aKANNADA LETTER PAcPHAcBAcBHAcMAcYAcRAcRRAcLAcLLA"]⟩,
   ⟨0xCB5, ["aKANNADA LETTER VAcSHAcSSAcSAcHA"]⟩,
   ⟨0xCBC, ["aKANNADA SIGN NUKTAcAVAGRAHAbVOWEL SIGN AAdIdIIdUdUUdVOCALIC ReRR"]⟩,
   ⟨0xCC6, ["aKANNADA VOWEL SIGN EdEEdAI"]⟩,
   ⟨0xCCA, ["aKANNADA VOWEL SIGN OdOOdAUbSIGN VIRAMA"]⟩,
   ⟨0xCD5, ["aKANNADA LENGTH MARKbAIo"]⟩,
   ⟨0xCDD, ["aKANNADA LETTER NAKAARA POLLUcFA"]⟩,
   ⟨0xCE0, ["aKANNADA LETTER VOCALIC RRdLLbVOWEL SIGN VOCALIC LeLL"]⟩,
   ⟨0xCE6, ["aKANNADA DIGIT ZEROcONEcTWOcTHREEcFOURcFIVEcSIXcSEVENcEIGHTcNINE"]⟩,
   ⟨0xCF1, ["aKANNADA SIGN JIHVAMULIYAcUPADHMANIYA"]⟩,
   ⟨0xD00, ["aMALAYALAM SIGN COMBINING ANUSVARA ABOVEcCANDRABINDUcANUSVARAcVISARGA",
     "bLETTER VEDIC ANUSVARAcAcAAcIcIIcUcUUcVOCALIC RdL"]⟩,
   ⟨0xD0E, ["aMALAYALAM LETTER EcEEcAI"]⟩,
   ⟨0xD12, ["aMALAYALAM LETTER OcOOcAUcKAcKHAcGAcGHAcNGAcCAcCHAcJAcJHAcNYAcTTAcTTHAcDDAcDDHAcNNA",
     "cTAcTHAcDAcDHAcNAcNNNAcPAcPHAcBAcBHAcMAcYAcRAcRRAcLAcLLAcLLLAcVAcSHAcSSAcSAcHAcTTTA",
     "bSIGN VERTICAL BAR VIRAMAcCIRCULARncAVAGRAHAbVOWEL SIGN AAdIdIIdUdUUdVOCALIC ReRR"]⟩,
   ⟨0xD46, ["aMALAYALAM VOWEL SIGN EdEEdAI"]⟩,
   ⟨0xD4A, ["aMALAYALAM VOWEL SIGN OdOOdAUbSIGN VIRAMAbLETTER DOT REPHbSIGN PARA"]⟩,
   ⟨0xD54, ["aMALAYALAM LETTER CHILLU MdYdLLLbAU LENGTH MARKbFRACTION ONE ONE-HUNDRED-AND-SIXTIETH",
     "dFORTIETHcTHREE EIGHTIETHScONE TWENTIETHdTENTHcTHREE TWENTIETHScONE FIFTHbLETTER ARCHAIC II",
     "cVOCALIC RRdLLbVOWEL SIGN VOCALIC LeLL"]⟩,
   ⟨0xD66, ["aMALAYALAM DIGIT ZEROcONEcTWOcTHREEcFOURcFIVEcSIXcSEVENcEIGHTcNINEbNUMBER TEN",
     "cONE HUNDREDdTHOUSANDbFRACTION ONE QUARTERdHALFcTHREE QUARTERScONE SIXTEENTHdEIGHTH",
     "cTHREE SIXTEENTHSbDATE MARKbLETTER CHILLU NNdNdRRdLdLLdK"]⟩,
   ⟨0xD81, ["aSINHALA SIGN CANDRABINDUcANUSVARAYAcVISARGAYA"]⟩,
   ⟨0xD85, ["aSINHALA LETTER AYANNAcAAYANNAcAEYANNAcAEEYANNAcIYANNAcIIYANNAcUYANNAcUUYANNA",
     "cIRUYANNAcIRUUYANNAcILUYANNAcILUUYANNAcEYANNAcEEYANNAcAIYANNAcOYANNAcOOYANNAcAUYANNA"]⟩,
   ⟨0xD9A, ["aSINHALA LETTER ALPAPRAANA KAYANNAcMAHAAPRAANAncALPAPRAANA GAYANNAcMAHAAPRAANAn",
     "cKANTAJA NAASIKYAYAcSANYAKA GAYANNAcALPAPRAANA CAYANNAcMAHAAPRAANAncALPAPRAANA JAYANNA",
     "cMAHAAPRAANAncTAALUJA NAASIKYAYAdSANYOOGA NAAKSIKYAYAcSANYAKA JAYANNAcALPAPRAANA TTAYANNA",
     "cMAHAAPRAANAncALPAPRAANA DDAYANNAcMAHAAPRAANAncMUURDHAJA NAYANNAcSANYAKA DDAYANNA",
     "cALPAPRAANA TAYANNAcMAHAAPRAANAncALPAPRAANA DAYANNAcMAHAAPRAANAncDANTAJA NAYANNA"]⟩,
   ⟨0xDB3, ["aSINHALA LETTER SANYAKA DAYANNAcALPAPRAANA PAYANNAcMAHAAPRAANAncALPAPRAANA BAYANNA",
     "cMAHAAPRAANAncMAYANNAcAMBA BAYANNAcYAYANNAcRAYANNA"]⟩,
   ⟨0xDBD, ["aSINHALA LETTER DANTAJA LAYANNA"]⟩,
   ⟨0xDC0, ["aSINHALA LETTER VAYANNAcTAALUJA SAYANNAcMUURDHAJAncDANTAJAncHAYANNAcMUURDHAJA LAYANNA",
     "cFAYANNA"]⟩,
   ⟨0xDCA, ["aSINHALA SIGN AL-LAKUNA"]⟩,
   ⟨0xDCF, ["aSINHALA VOWEL SIGN AELA-PILLAdKETTI AEDA-PILLAdDIGAndKETTI IS-PILLAdDIGAn",
     "dKETTI PAA-PILLA"]⟩,
   ⟨0xDD6, ["aSINHALA VOWEL SIGN DIGA PAA-PILLA"]⟩,
   ⟨0xDD8, ["aSINHALA VOWEL SIGN GAETTA-PILLAdKOMBUVAdDIGAndKOMBU DEKAdKOMBUVA HAA AELA-PILLA",
     "fDIGAnfGAYANUKITTAdn"]⟩,
   ⟨0xDE6, ["aSINHALA LITH DIGIT ZEROdONEdTWOdTHREEdFOURdFIVEdSIXdSEVENdEIGHTdNINE"]⟩,
   ⟨0xDF2, ["aSINHALA VOWEL SIGN DIGA GAETTA-PILLAeGAYANUKITTAbPUNCTUATION KUNDDALIYA"]⟩,
   ⟨0xE01, ["aTHAI CHARACTER KO KAIcKHO KHAIdKHUATdKHWAIdKHONdRAKHANGcNGO NGUcCHO CHANdCHINGdCHANG",
     "cSO SOcCHO CHOEcYO YINGcDO CHADAcTO PATAKcTHO THANdNANGMONTHOdPHUTHAOcNO NENcDO DEKcTO TAO",
     "cTHO THUNGdTHAHANdTHONGcNO NUcBO BAIMAIcPO PLAcPHO PHUNGcFO FAcPHO PHANcFO FANcPHO SAMPHAO",
     "cMO MAcYO YAKcRO RUAcRUcLO LINGcLUcWO WAENcSO SALAdRUSIdSUAcHO HIPcLO CHULAcO ANGcHO NOKHUK",
     "cPAIYANNOIcSARA AcMAI HAN-AKATcSARA AAdAMdIdIIdUEdUEEdUdUUcPHINTHU"]⟩,
   ⟨0xE3F, ["aTHAI CURRENCY SYMBOL BAHTbCHARACTER SARA EdAEdOdAI MAIMUANeMAIMALAIcLAKKHANGYAO",
     "cMAIYAMOKcMAITAIKHUcMAI EKdTHOdTRIdCHATTAWAcTHANTHAKHATcNIKHAHITcYAMAKKANcFONGMANbDIGIT ZERO",
     "cONEcTWOcTHREEcFOURcFIVEcSIXcSEVENcEIGHTcNINEbCHARACTER ANGKHANKHUcKHOMUT"]⟩,
   ⟨0xE81, ["aLAO LETTER KOcKHO SUNG"]⟩,
   ⟨0xE84, ["aLAO LETTER KHO TAM"]⟩,
   ⟨0xE86, ["aLAO LETTER PALI GHAcNGOcCOcPALI CHAcSO TAM"]⟩,
   ⟨0xE8C, ["aLAO LETTER PALI JHAcNYOcPALI NYAdTTAdTTHAdDDAdDDHAdNNAcDOcTOcTHO SUNGdTAMcPALI DHA",
     "cNOcBOcPOcPHO SUNGcFO TAMcPHOncFO SUNGcPALI BHAcMOcYOcLO LING"]⟩,
   ⟨0xEA5, ["aLAO LETTER LO LOOT"]⟩,
   ⟨0xEA7, ["aLAO LETTER WOcSANSKRIT SHAdSSAcSO SUNGcHOncPALI LLAcOcHO TAMbELLIPSISbVOWEL SIGN A",
     "dMAI KANdAAdAMdIdIIdYdYYdUdUUbSIGN PALI VIRAMAbVOWEL SIGN MAI KONbSEMIVOWEL SIGN LOdNYO"]⟩,
   ⟨0xEC0, ["aLAO VOWEL SIGN EdEIdOdAYdAI"]⟩,
   ⟨0xEC6, ["aLAO KO LA"]⟩,
   ⟨0xEC8, ["aLAO TONE MAI EKdTHOdTIdCATAWAbCANCELLATION MARKbNIGGAHITA"]⟩,
   ⟨0xED0, ["aLAO DIGIT ZEROcONEcTWOcTHREEcFOURcFIVEcSIXcSEVENcEIGHTcNINE"]⟩,
   ⟨0xEDC, ["aLAO HO NOcMObLETTER KHMU GOdNYO"]⟩,
   ⟨0xF00, ["aTIBETAN SYLLABLE OMbMARK GTER YIG MGO TRUNCATED Af-UM RNAM BCAD MAgGTER TSHEGn",
     "cINITIAL YIG MGO MDUNncCLOSING YIG MGO SGABncCARET YIG MGO PHUR SHADncYIG MGO TSHEGo",
     "cSBRUL SHADcBSKUR YIG MGOcBKA- SHOGocINTERSYLLABIC TSHEGcDELIMITER TSHEG BSTARcSHADcNYISn",
     "cTSHEGncNYISocRIN CHEN SPUNGSncRGYA GRAMncCARET -DZUD RTAGS ME LONG CANcGTER TSHEG",
     "bLOGOTYPE SIGN CHAD RTAGSdLHAGnbASTROLOGICAL SIGN SGRA GCAN -CHARnd-KHYUD PAdSDONG TSHUGS",
     "bSIGN RDEL DKAR GCIGeGNYISeGSUMdNAG GCIGeGNYISdDKAR RDEL NAGbDIGIT ZEROcONEcTWOcTHREEcFOUR",
     "cFIVEcSIXcSEVENcEIGHTcNINEcHALF ONEdTWOdTHREEdFOURdFIVEdSIXdSEVENdEIGHTdNINEdZERO",
     "bMARK BSDUS RTAGScNGAS BZUNG NYI ZLAcCARET -DZUD RTAGS BZHI MIG CANcNGAS BZUNG SGOR RTAGS",
     "cCHE MGOcTSA -PHRUcGUG RTAGS GYONeGYAScANG KHANG GYONeGYASbSIGN YAR TSHEScMARnbLETTER KAcKHA",
     "cGAcGHAcNGAcCAcCHAcJA"]⟩,
   ⟨0xF49, ["aTIBETAN LETTER NYAcTTAcTTHAcDDAcDDHAcNNAcTAcTHAcDAcDHAcNAcPAcPHAcBAcBHAcMAcTSAcTSHA",
     "cDZAcDZHAcWAcZHAcZAc-AcYAcRAcLAcSHAcSSAcSAcHAcAcKSSAcFIXED-FORM RAcKKAcRRA"]⟩,
   ⟨0xF71, ["aTIBETAN VOWEL SIGN AAdIdIIdUdUUdVOCALIC ReRReLeLLdEdEEdOdOObSIGN RJES SU NGA RO",
     "cRNAM BCADbVOWEL SIGN REVERSED IeIIbSIGN NYI ZLA NAA DAcSNA LDANbMARK HALANTAcPALUTA",
     "bSIGN LCI RTAGScYANGncLCE TSA CANcMCHUncGRU CAN RGYINGSdMEDncINVERTED MCHU CAN",
     "bSUBJOINED SIGN LCE TSAndMCHUndINVERTEDocLETTER KAdKHAdGAdGHAdNGAdCAdCHAdJA"]⟩,
   ⟨0xF99, ["aTIBETAN SUBJOINED LETTER NYAdTTAdTTHAdDDAdDDHAdNNAdTAdTHAdDAdDHAdNAdPAdPHAdBAdBHAdMA",
     "dTSAdTSHAdDZAdDZHAdWAdZHAdZAd-AdYAdRAdLAdSHAdSSAdSAdHAdAdKSSAdFIXED-FORM WAeYAeRA"]⟩,
   ⟨0xFBE, ["aTIBETAN KU RU KHAeBZHI MIG CANbCANTILLATION SIGN HEAVY BEATdLIGHTndCANG TE-U",
     "dSBUB -CHALbSYMBOL DRIL BUcRDO RJEcPADMA GDANcRDO RJE RGYA GRAMcPHUR PAcNOR BUeNYIS -KHYIL",
     "eGSUMneBZHIn"]⟩,
   ⟨0xFCE, ["aTIBETAN SIGN RDEL NAG RDEL DKAReGSUMbMARK BSKA- SHOG GI MGO RGYANcMNYAM YIGp",
     "cNYIS TSHEGcINITIAL BRDA RNYING YIG MGO MDUN MAcCLOSING BRDA RNYING YIG MGO SGABn",
     "aRIGHT-FACING SVASTI SIGNaLEFT-FACINGoaRIGHT-FACING SVASTI SIGN WITH DOTSaLEFT-FACINGq",
     "aTIBETAN MARK LEADING MCHAN RTAGScTRAILINGo"]⟩,
   ⟨0x1000, ["aMYANMAR LETTER KAcKHAcGAcGHAcNGAcCAcCHAcJAcJHAcNYAcNNYAcTTAcTTHAcDDAcDDHAcNNAcTA",
     "cTHAcDAcDHAcNAcPAcPHAcBAcBHAcMAcYAcRAcLAcWAcSAcHAcLLAcAcSHANncIcIIcUcUUcEcMONncOcAU",
     "bVOWEL SIGN TALL AAdndIdIIdUdUUdEdAIdMON IIeOdE ABOVEbSIGN ANUSVARAcDOT BELOWcVISARGAcVIRAMA",
     "cASATbCONSONANT SIGN MEDIAL YAeRAeWAeHAbLETTER GREAT SAbDIGIT ZEROcONEcTWOcTHREEcFOURcFIVE",
     "cSIXcSEVENcEIGHTcNINEbSIGN LITTLE SECTIONcnbSYMBOL LOCATIVEcCOMPLETEDcAFOREMENTIONED",
     "cGENITIVEbLETTER SHAcSSAcVOCALIC RdRRdLdLLbVOWEL SIGN VOCALIC ReRReLeLLbLETTER MON NGAdJHA",
     "dBBAdBBEbCONSONANT SIGN MON MEDIAL NAfMAfLAbLETTER SGAW KAREN SHAbVOWEL SIGN SGAW KAREN EU",
     "bTONE MARK SGAW KAREN HATHIfKE PHObLETTER WESTERN PWO KAREN THAfPWA",
     "bVOWEL SIGN WESTERN PWO KAREN EUgUEbSIGN WESTERN PWO KAREN TONE-1fTONE-2fTONE-3fTONE-4",
     "fTONE-5bLETTER EASTERN PWO KAREN NNAfYWAfGHWAbVOWEL SIGN GEBA KAREN IdKAYAH OEeUeEE",
     "bLETTER SHAN KAdKHAdGAdCAdZAdNYAdDAdNAdPHAdFAdBAdTHAdHAbCONSONANT SIGN SHAN MEDIAL WA",
     "bVOWEL SIGN SHAN AAeEfABOVEeFINAL YbSIGN SHAN TONE-2dTONE-3dTONE-5dTONE-6dCOUNCIL TONE-2",
     "eTONE-3eEMPHATIC TONEbLETTER RUMAI PALAUNG FAbSIGN RUMAI PALAUNG TONE-5bSHAN DIGIT ZEROdONE",
     "dTWOdTHREEdFOURdFIVEdSIXdSEVENdEIGHTdNINEbSIGN KHAMTI TONE-1dTONE-3bVOWEL SIGN AITON AeAI",
     "bSYMBOL SHAN ONEdEXCLAMATIONaGEORGIAN CAPITAL LETTER ANdBANdGANdDONdENdVINdZENdTANdINdKAN",
     "dLASdMANdNARdONdPARdZHARdRAEdSANdTARdUNdPHARdKHARdGHANdQARdSHINdCHINdCANdJILdCILdCHARdXAN",
     "dJHANdHAEdHEdHIEdWEdHARdHOE"]⟩,
   ⟨0x10C7, ["aGEORGIAN CAPITAL LETTER YN"]⟩,
   ⟨0x10CD, ["aGEORGIAN CAPITAL LETTER AEN"]⟩,
   ⟨0x10D0, ["aGEORGIAN LETTER ANcBANcGANcDONcENcVINcZENcTANcINcKANcLAScMANcNARcONcPARcZHARcRAE",
     "cSANcTARcUNcPHARcKHARcGHANcQARcSHINcCHINcCANcJILcCILcCHARcXANcJHANcHAEcHEcHIEcWEcHARcHOEcFI",
     "cYNcELIFIcTURNED GANcAINbPARAGRAPH SEPARATORaMODIFIER LETTER GEORGIAN NAR",
     "aGEORGIAN LETTER AENcHARD SIGNcLABIALnaHANGUL CHOSEONG KIYEOKcSSANGKIYEOKcNIEUNcTIKEUT",
     "cSSANGTIKEUTcRIEULcMIEUMcPIEUPcSSANGPIEUPcSIOScSSANGSIOScIEUNGcCIEUCcSSANGCIEUCcCHIEUCH",
     "cKHIEUKHcTHIEUTHcPHIEUPHcHIEUHcNIEUN-KIYEOKcSSANGNIEUNcNIEUN-TIKEUTcNIEUN-PIEUP",
     "cTIKEUT-KIYEOKcRIEUL-NIEUNcSSANGRIEULcRIEUL-HIEUHcKAPYEOUNRIEULcMIEUM-PIEUPcKAPYEOUNMIEUM",
     "cPIEUP-KIYEOKcPIEUP-NIEUNcPIEUP-TIKEUTcPIEUP-SIOScPIEUP-SIOS-KIYEOKcPIEUP-SIOS-TIKEUT",
     "cPIEUP-SIOS-PIEUPcPIEUP-SSANGSIOScPIEUP-SIOS-CIEUCcPIEUP-CIEUCcPIEUP-CHIEUCHcPIEUP-THIEUTH",
     "cPIEUP-PHIEUPHcKAPYEOUNPIEUPcKAPYEOUNSSANGPIEUPcSIOS-KIYEOKcSIOS-NIEUNcSIOS-TIKEUT",
     "cSIOS-RIEULcSIOS-MIEUMcSIOS-PIEUPcSIOS-PIEUP-KIYEOKcSIOS-SSANGSIOScSIOS-IEUNGcSIOS-CIEUC",
     "cSIOS-CHIEUCHcSIOS-KHIEUKHcSIOS-THIEUTHcSIOS-PHIEUPHcSIOS-HIEUHcCHITUEUMSIOS",
     "cCHITUEUMSSANGSIOScCEONGCHIEUMSIOScCEONGCHIEUMSSANGSIOScPANSIOScIEUNG-KIYEOKcIEUNG-TIKEUT",
     "cIEUNG-MIEUMcIEUNG-PIEUPcIEUNG-SIOScIEUNG-PANSIOScSSANGIEUNGcIEUNG-CIEUCcIEUNG-CHIEUCH",
     "cIEUNG-THIEUTHcIEUNG-PHIEUPHcYESIEUNGcCIEUC-IEUNGcCHITUEUMCIEUCcCHITUEUMSSANGCIEUC",
     "cCEONGCHIEUMCIEUCcCEONGCHIEUMSSANGCIEUCcCHIEUCH-KHIEUKHcCHIEUCH-HIEUHcCHITUEUMCHIEUCH",
     "cCEONGCHIEUMCHIEUCHcPHIEUPH-PIEUPcKAPYEOUNPHIEUPHcSSANGHIEUHcYEORINHIEUHcKIYEOK-TIKEUT",
     "cNIEUN-SIOScNIEUN-CIEUCcNIEUN-HIEUHcTIKEUT-RIEULcFILLERbJUNGSEONGncAcAEcYAcYAEcEOcEcYEOcYEcO",
     "cWAcWAEcOEcYOcUcWEOcWEcWIcYUcEUcYIcIcA-OcA-UcYA-OcYA-YOcEO-OcEO-UcEO-EUcYEO-OcYEO-UcO-EOcO-E",
     "cO-YEcO-OcO-UcYO-YAcYO-YAEcYO-YEOcYO-OcYO-IcU-AcU-AEcU-EO-EUcU-YEcU-UcYU-AcYU-EOcYU-EcYU-YEO",
     "cYU-YEcYU-UcYU-IcEU-UcEU-EUcYI-UcI-AcI-YAcI-OcI-UcI-EUcI-ARAEAcARAEAcARAEA-EOcARAEA-U",
     "cARAEA-IcSSANGARAEAcA-EUcYA-UcYEO-YAcO-YAcO-YAEbJONGSEONG KIYEOKcSSANGKIYEOKcKIYEOK-SIOS",
     "cNIEUNcNIEUN-CIEUCcNIEUN-HIEUHcTIKEUTcRIEULcRIEUL-KIYEOKcRIEUL-MIEUMcRIEUL-PIEUPcRIEUL-SIOS",
     "cRIEUL-THIEUTHcRIEUL-PHIEUPHcRIEUL-HIEUHcMIEUMcPIEUPcPIEUP-SIOScSIOScSSANGSIOScIEUNGcCIEUC",
     "cCHIEUCHcKHIEUKHcTHIEUTHcPHIEUPHcHIEUHcKIYEOK-RIEULcKIYEOK-SIOS-KIYEOKcNIEUN-KIYEOK",
     "cNIEUN-TIKEUTcNIEUN-SIOScNIEUN-PANSIOScNIEUN-THIEUTHcTIKEUT-KIYEOKcTIKEUT-RIEUL",
     "cRIEUL-KIYEOK-SIOScRIEUL-NIEUNcRIEUL-TIKEUTcRIEUL-TIKEUT-HIEUHcSSANGRIEULcRIEUL-MIEUM-KIYEOK",
     "cRIEUL-MIEUM-SIOScRIEUL-PIEUP-SIOScRIEUL-PIEUP-HIEUHcRIEUL-KAPYEOUNPIEUPcRIEUL-SSANGSIOS",
     "cRIEUL-PANSIOScRIEUL-KHIEUKHcRIEUL-YEORINHIEUHcMIEUM-KIYEOKcMIEUM-RIEULcMIEUM-PIEUP",
     "cMIEUM-SIOScMIEUM-SSANGSIOScMIEUM-PANSIOScMIEUM-CHIEUCHcMIEUM-HIEUHcKAPYEOUNMIEUM",
     "cPIEUP-RIEULcPIEUP-PHIEUPHcPIEUP-HIEUHcKAPYEOUNPIEUPcSIOS-KIYEOKcSIOS-TIKEUTcSIOS-RIEUL",
     "cSIOS-PIEUPcPANSIOScIEUNG-KIYEOKcIEUNG-SSANGKIYEOKcSSANGIEUNGcIEUNG-KHIEUKHcYESIEUNG",
     "cYESIEUNG-SIOScYESIEUNG-PANSIOScPHIEUPH-PIEUPcKAPYEOUNPHIEUPHcHIEUH-NIEUNcHIEUH-RIEUL",
     "cHIEUH-MIEUMcHIEUH-PIEUPcYEORINHIEUHcKIYEOK-NIEUNcKIYEOK-PIEUPcKIYEOK-CHIEUCHcKIYEOK-KHIEUKH",
     "cKIYEOK-HIEUHcSSANGNIEUNaETHIOPIC SYLLABLE HAcHUcHIcHAAcHEEcHEcHOcHOAcLAcLUcLIcLAAcLEEcLEcLO",
     "cLWAcHHAcHHUcHHIcHHAAcHHEEcHHEcHHOcHHWAcMAcMUcMIcMAAcMEEcMEcMOcMWAcSZAcSZUcSZIcSZAAcSZEEcSZE",
     "cSZOcSZWAcRAcRUcRIcRAAcREEcREcROcRWAcSAcSUcSIcSAAcSEEcSEcSOcSWAcSHAcSHUcSHIcSHAAcSHEEcSHE",
     "cSHOcSHWAcQAcQUcQIcQAAcQEEcQEcQOcQOAcQWA"]⟩,
   ⟨0x124A, ["aETHIOPIC SYLLABLE QWIcQWAAcQWEEcQWE"]⟩,
   ⟨0x1250, ["aETHIOPIC SYLLABLE QHAcQHUcQHIcQHAAcQHEEcQHEcQHO"]⟩,
   ⟨0x1258, ["aETHIOPIC SYLLABLE QHWA"]⟩,
   ⟨0x125A, ["aETHIOPIC SYLLABLE QHWIcQHWAAcQHWEEcQHWE"]⟩,
   ⟨0x1260, ["aETHIOPIC SYLLABLE BAcBUcBIcBAAcBEEcBEcBOcBWAcVAcVUcVIcVAAcVEEcVEcVOcVWAcTAcTUcTI",
     "cTAAcTEEcTEcTOcTWAcCAcCUcCIcCAAcCEEcCEcCOcCWAcXAcXUcXIcXAAcXEEcXEcXOcXOAcXWA"]⟩,
   ⟨0x128A, ["aETHIOPIC SYLLABLE XWIcXWAAcXWEEcXWE"]⟩,
   ⟨0x1290, ["aETHIOPIC SYLLABLE NAcNUcNIcNAAcNEEcNEcNOcNWAcNYAcNYUcNYIcNYAAcNYEEcNYEcNYOcNYWA",
     "cGLOTTAL AdUdIdAAdEEdEdOdWAcKAcKUcKIcKAAcKEEcKEcKOcKOAcKWA"]⟩,
   ⟨0x12B2, ["aETHIOPIC SYLLABLE KWIcKWAAcKWEEcKWE"]⟩,
   ⟨0x12B8, ["aETHIOPIC SYLLABLE KXAcKXUcKXIcKXAAcKXEEcKXEcKXO"]⟩,
   ⟨0x12C0, ["aETHIOPIC SYLLABLE KXWA"]⟩,
   ⟨0x12C2, ["aETHIOPIC SYLLABLE KXWIcKXWAAcKXWEEcKXWE"]⟩,
   ⟨0x12C8, ["aETHIOPIC SYLLABLE WAcWUcWIcWAAcWEEcWEcWOcWOAcPHARYNGEAL AdUdIdAAdEEdEdO"]⟩,
   ⟨0x12D8, ["aETHIOPIC SYLLABLE ZAcZUcZIcZAAcZEEcZEcZOcZWAcZHAcZHUcZHIcZHAAcZHEEcZHEcZHOcZHWAcYA",
     "cYUcYIcYAAcYEEcYEcYOcYOAcDAcDUcDIcDAAcDEEcDEcDOcDWAcDDAcDDUcDDIcDDAAcDDEEcDDEcDDOcDDWAcJAcJU",
     "cJIcJAAcJEEcJEcJOcJWAcGAcGUcGIcGAAcGEEcGEcGOcGOAcGWA"]⟩,
   ⟨0x1312, ["aETHIOPIC SYLLABLE GWIcGWAAcGWEEcGWE"]⟩,
   ⟨0x1318, ["aETHIOPIC SYLLABLE GGAcGGUcGGIcGGAAcGGEEcGGEcGGOcGGWAAcTHAcTHUcTHIcTHAAcTHEEcTHEcTHO",
     "cTHWAcCHAcCHUcCHIcCHAAcCHEEcCHEcCHOcCHWAcPHAcPHUcPHIcPHAAcPHEEcPHEcPHOcPHWAcTSAcTSUcTSIcTSAA",
     "cTSEEcTSEcTSOcTSWAcTZAcTZUcTZIcTZAAcTZEEcTZEcTZOcTZOAcFAcFUcFIcFAAcFEEcFEcFOcFWAcPAcPUcPI",
     "cPAAcPEEcPEcPOcPWAcRYAcMYAcFYA"]⟩,
   ⟨0x135D, ["aETHIOPIC COMBINING GEMINATION AND VOWEL LENGTH MARKcpcGEMINATIONnbSECTIONn",
     "bWORDSPACEbFULL STOPbCOMMAbSEMICOLONbCOLONbPREFACEnbQUESTION MARKbPARAGRAPH SEPARATOR",
     "bDIGIT ONEcTWOcTHREEcFOURcFIVEcSIXcSEVENcEIGHTcNINEbNUMBER TENcTWENTYcTHIRTYcFORTYcFIFTY",
     "cSIXTYcSEVENTYcEIGHTYcNINETYcHUNDREDcTEN THOUSAND"]⟩,
   ⟨0x1380, ["aETHIOPIC SYLLABLE SEBATBEIT MWAcMWIcMWEEcMWEcSEBATBEIT BWAcBWIcBWEEcBWE",
     "cSEBATBEIT FWAcFWIcFWEEcFWEcSEBATBEIT PWAcPWIcPWEEcPWEbTONAL MARK YIZETdDERETdRIKRIKdSHORTn",
     "dDIFATdKENATdCHIRETdHIDETdDERET-HIDETdKURT"]⟩,
   ⟨0x13A0, ["aCHEROKEE LETTER AcEcIcOcUcVcGAcKAcGEcGIcGOcGUcGVcHAcHEcHIcHOcHUcHVcLAcLEcLIcLOcLU",
     "cLVcMAcMEcMIcMOcMUcNAcHNAcNAHcNEcNIcNOcNUcNVcQUAcQUEcQUIcQUOcQUUcQUVcSAcScSEcSIcSOcSUcSVcDA",
     "cTAcDEcTEcDIcTIcDOcDUcDVcDLAcTLAcTLEcTLIcTLOcTLUcTLVcTSAcTSEcTSIcTSOcTSUcTSVcWAcWEcWIcWOcWU",
     "cWVcYAcYEcYIcYOcYUcYVcMV"]⟩,
   ⟨0x13F8, ["aCHEROKEE SMALL LETTER YEdYIdYOdYUdYVdMV"]⟩,
   ⟨0x1400, ["aCANADIAN SYLLABICS HYPHENcEcAAIcIcIIcOcOOcY-CREEncCARRIER EEdIcAcAAcWEcWEST-CREEn",
     "cWIcWEST-CREEncWIIcWEST-CREEncWOcWEST-CREEncWOOcWEST-CREEncNASKAPIncWAcWEST-CREEncWAA",
     "cWEST-CREEncNASKAPIncAIcY-CREE WcGLOTTAL STOPcFINAL ACUTEdGRAVEdBOTTOM HALF RINGdTOPodRIGHTo",
     "dndDOUBLE ACUTEeSHORT VERTICAL STROKESdMIDDLE DOTdSHORT HORIZONTAL STROKEdPLUSdDOWN TACKcEN",
     "cINcONcANcPEcPAAIcPIcPIIcPOcPOOcY-CREEncCARRIER HEEdHIcPAcPAAcPWEcWEST-CREEncPWIcWEST-CREEn",
     "cPWIIcWEST-CREEncPWOcWEST-CREEncPWOOcWEST-CREEncPWAcWEST-CREEncPWAAcWEST-CREEncY-CREEncP",
     "cWEST-CREEncCARRIER HcTEcTAAIcTIcTIIcTOcTOOcY-CREEncCARRIER DEEdDIcTAcTAAcTWEcWEST-CREEncTWI",
     "cWEST-CREEncTWIIcWEST-CREEncTWOcWEST-CREEncTWOOcWEST-CREEncTWAcWEST-CREEncTWAAcWEST-CREEn",
     "cNASKAPIncTcTTEcTTIcTTOcTTAcKEcKAAIcKIcKIIcKOcKOOcY-CREEncKAcKAAcKWEcWEST-CREEncKWI",
     "cWEST-CREEncKWIIcWEST-CREEncKWOcWEST-CREEncKWOOcWEST-CREEncKWAcWEST-CREEncKWAAcWEST-CREEn",
     "cNASKAPIncKcKWcSOUTH-SLAVEY KEHdKIHdKOHdKAHcCEcCAAIcCIcCIIcCOcCOOcY-CREEncCAcCAAcCWE",
     "cWEST-CREEncCWIcWEST-CREEncCWIIcWEST-CREEncCWOcWEST-CREEncCWOOcWEST-CREEncCWAcWEST-CREEn",
     "cCWAAcWEST-CREEncNASKAPIncCcSAYISI THcMEcMAAIcMIcMIIcMOcMOOcY-CREEncMAcMAAcMWEcWEST-CREEn",
     "cMWIcWEST-CREEncMWIIcWEST-CREEncMWOcWEST-CREEncMWOOcWEST-CREEncMWAcWEST-CREEncMWAA",
     "cWEST-CREEncNASKAPIncMcWEST-CREEncMHcATHAPASCAN McSAYISIncNEcNAAIcNIcNIIcNOcNOOcY-CREEncNA",
     "cNAAcNWEcWEST-CREEncNWAcWEST-CREEncNWAAcWEST-CREEncNASKAPIncNcCARRIER NGcNHcLEcLAAIcLIcLII",
     "cLOcLOOcY-CREEncLAcLAAcLWEcWEST-CREEncLWIcWEST-CREEncLWIIcWEST-CREEncLWOcWEST-CREEncLWOO",
     "cWEST-CREEncLWAcWEST-CREEncLWAAcWEST-CREEncLcWEST-CREEncMEDIALncSEcSAAIcSIcSIIcSOcSOO",
     "cY-CREEncSAcSAAcSWEcWEST-CREEncSWIcWEST-CREEncSWIIcWEST-CREEncSWOcWEST-CREEncSWOOcWEST-CREEn",
     "cSWAcWEST-CREEncSWAAcWEST-CREEncNASKAPIncScATHAPASCANncSWcBLACKFOOT ScMOOSE-CREE SK",
     "cNASKAPI SKWdS-WdSPWAdSTWAdSKWAdSCWAcSHEcSHIcSHIIcSHOcSHOOcSHAcSHAAcSHWEcWEST-CREEncSHWI",
     "cWEST-CREEncSHWIIcWEST-CREEncSHWOcWEST-CREEncSHWOOcWEST-CREEncSHWAcWEST-CREEncSHWAA",
     "cWEST-CREEncSHcYEcYAAIcYIcYIIcYOcYOOcY-CREEncYAcYAAcYWEcWEST-CREEncYWIcWEST-CREEncYWII",
     "cWEST-CREEncYWOcWEST-CREEncYWOOcWEST-CREEncYWAcWEST-CREEncYWAAcWEST-CREEncNASKAPIncY",
     "cBIBLE-CREEncWEST-CREEncSAYISI YIcREcR-CREEncWEST-CREE LEcRAAIcRIcRIIcROcROOcWEST-CREE LOcRA",
     "cRAAcWEST-CREE LAcRWAAcWEST-CREEncRcWEST-CREEncMEDIALncFEcFAAIcFIcFIIcFOcFOOcFAcFAAcFWAA",
     "cWEST-CREEncFcTHEcN-CREEncTHIcN-CREEncTHIIcN-CREEncTHOcTHOOcTHAcTHAAcTHWAAcWEST-CREEncTH",
     "cTTHEcTTHIcTTHOcTTHAcTTHcTYEcTYIcTYOcTYAcNUNAVIK HEdHIdHIIdHOdHOOdHAdHAAdHcNUNAVUTncHKcQAAI",
     "cQIcQIIcQOcQOOcQAcQAAcQcTLHEcTLHIcTLHOcTLHAcWEST-CREE REdRIdROdRAcNGAAIcNGIcNGIIcNGOcNGOO",
     "cNGAcNGAAcNGcNNGcSAYISI SHEdSHIdSHOdSHAcWOODS-CREE THEdTHIdTHOdTHAdTHcLHIcLHIIcLHOcLHOOcLHA",
     "cLHAAcLHcTH-CREE THEdTHIdTHIIdTHOdTHOOdTHAdTHAAdTHcAIVILIK BcBLACKFOOT EdIdOdAdWEdWIdWOdWA",
     "dNEdNIdNOdNAdKEdKIdKOdKAcSAYISI HEdHIdHOdHAcCARRIER GHUdGHOdGHEdGHEEdGHIdGHAdRUdROdREdREEdRI",
     "dRAdWUdWOdWEdWEEdWIdWAdHWUdHWOdHWEdHWEEdHWIdHWAdTHUdTHOdTHEdTHEEdTHIdTHAdTTUdTTOdTTEdTTEE",
     "dTTIdTTAdPUdPOdPEdPEEdPIdPAdPdGUdGOdGEdGEEdGIdGAdKHUdKHOdKHEdKHEEdKHIdKHAdKKUdKKOdKKEdKKEE",
     "dKKIdKKAdKKdNUdNOdNEdNEEdNIdNAdMUdMOdMEdMEEdMIdMAdYUdYOdYEdYEEdYIdYAdJUcSAYISIncCARRIER JO",
     "dJEdJEEdJIcSAYISIncCARRIER JAdJJUdJJOdJJEdJJEEdJJIdJJAdLUdLOdLEdLEEdLIdLAdDLUdDLOdDLEdDLEE",
     "dDLIdDLAdLHUdLHOdLHEdLHEEdLHIdLHAdTLHUdTLHOdTLHEdTLHEEdTLHIdTLHAdTLUdTLOdTLEdTLEEdTLIdTLAdZU",
     "dZOdZEdZEEdZIdZAdZdINITIALndDZUdDZOdDZEdDZEEdDZIdDZAdSUdSOdSEdSEEdSIdSAdSHUdSHOdSHEdSHEEdSHI",
     "dSHAdSHdTSUdTSOdTSEdTSEEdTSIdTSAdCHUdCHOdCHEdCHEEdCHIdCHAdTTSUdTTSOdTTSEdTTSEEdTTSIdTTSA",
     "cCHI SIGNcFULL STOPcQAIcNGAIcNNGIcNNGIIcNNGOcNNGOOcNNGAcNNGAAcWOODS-CREE THWEEdTHWIdTHWII",
     "dTHWOdTHWOOdTHWAdTHWAAdFINAL THcBLACKFOOT WaOGHAM SPACE MARKbLETTER BEITHcLUIScFEARNcSAIL",
     "cNIONcUATHcDAIRcTINNEcCOLLcCEIRTcMUINcGORTcNGEADALcSTRAIFcRUIScAILMcONNcURcEADHADHcIODHADH",
     "cEABHADHcORcUILLEANNcIFINcEAMHANCHOLLcPEITHbFEATHER MARKbREVERSEDo"]⟩,
   ⟨0x16A0, ["aRUNIC LETTER FEHU FEOH FE FcVcURUZ UR UcYRcYcWcTHURISAZ THURS THORNcETHcANSUZ A",
     "cOS OcAC AcAESCcLONG-BRANCH-OSS OcSHORT-TWIG-OSSncncOEcONcRAIDO RAD REID RcKAUNAcCENcKAUN K",
     "cGcENGcGEBO GYFU GcGARcWUNJO WYNN WcHAGLAZ HcHAEGLncLONG-BRANCH-HAGALLncSHORT-TWIG-HAGALLn",
     "cNAUDIZ NYD NAUD NcSHORT-TWIG-NAUDncDOTTED-NcISAZ IS ISS IcEcJERAN JcGERcLONG-BRANCH-AR AE",
     "cSHORT-TWIG-AR AcIWAZ EOHcPERTHO PEORTH PcALGIZ EOLHXcSOWILO ScSIGEL LONG-BRANCH-SOLn",
     "cSHORT-TWIG-SOLncCcZcTIWAZ TIR TYR TcSHORT-TWIG-TYRncDcBERKANAN BEORC BJARKAN B",
     "cSHORT-TWIG-BJARKANncDOTTED-PcOPEN-PcEHWAZ EH EcMANNAZ MAN McLONG-BRANCH-MADRn",
     "cSHORT-TWIG-MADRncLAUKAZ LAGU LOGR LcDOTTED-LcINGWAZcINGcDAGAZ DAEG DcOTHALAN ETHEL OcEAR",
     "cIORcCWEORTHcCALCcCEALCcSTANcLONG-BRANCH-YRcSHORT-TWIG-YRcICELANDIC-YRcQcX",
     "bSINGLE PUNCTUATIONbMULTIPLEnbCROSSnbARLAUG SYMBOLbTVIMADURnbBELGTHORnbLETTER KcSHcOO",
     "cFRANKS CASKET OSeISeEHeACeAESC"]⟩,
   ⟨0x1700, ["aTAGALOG LETTER AcIcUcKAcGAcNGAcTAcDAcNAcPAcBAcMAcYAcRAcLAcWAcSAcHAbVOWEL SIGN IdU",
     "bSIGN VIRAMAcPAMUDPOD"]⟩,
   ⟨0x171F, ["aTAGALOG LETTER ARCHAIC RAaHANUNOO LETTER AcIcUcKAcGAcNGAcTAcDAcNAcPAcBAcMAcYAcRAcLA",
     "cWAcSAcHAbVOWEL SIGN IdUbSIGN PAMUDPODaPHILIPPINE SINGLE PUNCTUATIONbDOUBLEn"]⟩,
   ⟨0x1740, ["aBUHID LETTER AcIcUcKAcGAcNGAcTAcDAcNAcPAcBAcMAcYAcRAcLAcWAcSAcHAbVOWEL SIGN IdU"]⟩,
   ⟨0x1760, ["aTAGBANWA LETTER AcIcUcKAcGAcNGAcTAcDAcNAcPAcBAcMAcYA"]⟩,
   ⟨0x176E, ["aTAGBANWA LETTER LAcWAcSA"]⟩,
   ⟨0x1772, ["aTAGBANWA VOWEL SIGN IdU"]⟩,
   ⟨0x1780, ["aKHMER LETTER KAcKHAcKOcKHOcNGOcCAcCHAcCOcCHOcNYOcDAcTTHAcDOcTTHOcNNOcTAcTHAcTOcTHO",
     "cNOcBAcPHAcPOcPHOcMOcYOcROcLOcVOcSHAcSSOcSAcHAcLAcQAbINDEPENDENT VOWEL QAQdQAAdQIdQIIdQUdQUK",
     "dQUUdQUUVdRYdRYYdLYdLYYdQEdQAIdQOO TYPE ONEfTWOdQAUbVOWEL INHERENT AQdAAcSIGNndIdIIdYdYYdU",
     "dUUdUAdOEdYAdIEdEdAEdAIdOOdAUbSIGN NIKAHITcREAHMUKcYUUKALEAPINTUcMUUSIKATOANcTRIISAPcBANTOC",
     "cROBATcTOANDAKHIATcKAKABATcAHSDAcSAMYOK SANNYAcVIRIAMcCOENGcBATHAMASATcKHANcBARIYOOSAN",
     "cCAMNUC PII KUUHcLEK TOOcBEYYALcPHNAEK MUANcKOOMUUTbCURRENCY SYMBOL RIELbSIGN AVAKRAHASANYA",
     "cATTHACAN"]⟩,
   ⟨0x17E0, ["aKHMER DIGIT ZEROcONEcTWOcTHREEcFOURcFIVEcSIXcSEVENcEIGHTcNINE"]⟩,
   ⟨0x17F0, ["aKHMER SYMBOL LEK ATTAK SONeMUOYePIIeBEIeBUONePRAMePRAM-MUOYePRAM-PIIePRAM-BEI",
     "ePRAM-BUON"]⟩,
   ⟨0x1800, ["aMONGOLIAN BIRGAbELLIPSISbCOMMAbFULL STOPbCOLONbFOUR DOTSbTODO SOFT HYPHEN",
     "bSIBE SYLLABLE BOUNDARY MARKERbMANCHU COMMAcFULL STOPbNIRUGUbFREE VARIATION SELECTOR ONEeTWO",
     "eTHREEbVOWEL SEPARATORbFREE VARIATION SELECTOR FOURbDIGIT ZEROcONEcTWOcTHREEcFOURcFIVEcSIX",
     "cSEVENcEIGHTcNINE"]⟩,
   ⟨0x1820, ["aMONGOLIAN LETTER AcEcIcOcUcOEcUEcEEcNAcANGcBAcPAcQAcGAcMAcLAcSAcSHAcTAcDAcCHAcJAcYA",
     "cRAcWAcFAcKAcKHAcTSAcZAcHAAcZRAcLHAcZHIcCHIcTODO LONG VOWEL SIGNdEdIdOdUdOEdUEdANGdBAdPAdQA",
     "dGAdMAdTAdDAdCHAdJAdTSAdYAdWAdKAdGAAdHAAdJIAdNIAdDZAcSIBE EdIdIYdUEdUdANGdKAdGAdHAdPAdSHAdTA",
     "dDAdJAdFAdGAAdHAAdTSAdZAdRAAdCHAdZHAcMANCHU IdKAdRAdFAdZHAcCHA WITH TWO DOTS"]⟩,
   ⟨0x1880, ["aMONGOLIAN LETTER ALI GALI ANUSVARA ONEeVISARGAneDAMARUeUBADAMAeINVERTEDneBALUDA",
     "eTHREEneAeIeKAeNGAeCAeTTAeTTHAeDDAeNNAeTAeDAePAePHAeSSAeZHAeZAeAHcTODO ALI GALI TAfZHA",
     "cMANCHU ALI GALI GHAfNGAfCAfJHAfTTAfDDHAfTAfDHAfSSAfCYAfZHAfZAcALI GALI HALF UfYA",
     "cMANCHU ALI GALI BHAcALI GALI DAGALGAcMANCHU ALI GALI LHA"]⟩,
   ⟨0x18B0, ["aCANADIAN SYLLABICS OYcAYcAAYcWAYcPOYcPAYcPWOYcTAYcKAYcKWAYcMAYcNOYcNAYcLAYcSOYcSAY",
     "cSHOYcSHAYcSHWOYcYOYcYAYcRAYcNWIcOJIBWAYncNWIIcOJIBWAYncNWOcOJIBWAYncNWOOcOJIBWAYncRWEEcRWI",
     "cRWIIcRWOcRWOOcRWAcOJIBWAY PdTdKdCdMdNdSdSHcEASTERN WcWESTERNncFINAL SMALL RINGdRAISED DOT",
     "cR-CREE RWEcWEST-CREE LOOdLAAcTHWEcTHWAcTTHWEcTTHOOcTTHAAcTLHWEcTLHOOcSAYISI SHWEdSHOOdHOO",
     "cCARRIER GWUdDENE GEEdGAAdGWAcSAYISI JUUcCARRIER JWAcBEAVER DENE LeRcCARRIER DENTAL S"]⟩,
   ⟨0x1900, ["aLIMBU VOWEL-CARRIER LETTERbLETTER KAcKHAcGAcGHAcNGAcCAcCHAcJAcJHAcYANcTAcTHAcDAcDHA",
     "cNAcPAcPHAcBAcBHAcMAcYAcRAcLAcWAcSHAcSSAcSAcHAcGYANcTRA"]⟩,
   ⟨0x1920, ["aLIMBU VOWEL SIGN AdIdUdEEdAIdOOdAUdEdObSUBJOINED LETTER YAdRAdWA"]⟩,
   ⟨0x1930, ["aLIMBU SMALL LETTER KAdNGAdANUSVARAdTAdNAdPAdMAdRAdLAbSIGN MUKPHRENGcKEMPHRENG",
     "cSA-I"]⟩,
   ⟨0x1940, ["aLIMBU SIGN LOO"]⟩,
   ⟨0x1944, ["aLIMBU EXCLAMATION MARKbQUESTIONnbDIGIT ZEROcONEcTWOcTHREEcFOURcFIVEcSIXcSEVENcEIGHT",
     "cNINEaTAI LE LETTER KAdXAdNGAdTSAdSAdYAdTAdTHAdLAdPAdPHAdMAdFAdVAdHAdQAdKHAdTSHAdNAdAdIdEE",
     "dEHdUdOOdOdUEdEdAUEdAI"]⟩,
   ⟨0x1970, ["aTAI LE LETTER TONE-2dTONE-3dTONE-4dTONE-5dTONE-6"]⟩,
   ⟨0x1980, ["aNEW TAI LUE LETTER HIGH QAeLOWneHIGH KAfXAfNGAeLOW KAfXAfNGAeHIGH TSAfSAfYAeLOW TSA",
     "fSAfYAeHIGH TAfTHAfNAeLOW TAfTHAfNAeHIGH PAfPHAfMAeLOW PAfPHAfMAeHIGH FAfVAfLAeLOW FAfVAfLA",
     "eHIGH HAfDAfBAeLOW HAfDAfBAeHIGH KVAfXVAeLOW KVAfXVAeHIGH SUAeLOWn"]⟩,
   ⟨0x19B0, ["aNEW TAI LUE VOWEL SIGN VOWEL SHORTENERfAAfIIfUfUUfEfAEfOfOAfUEfAYfAAYfUYfOYfOAYfUEY",
     "fIYdLETTER FINAL VfNGfNfMfKfDfBdTONE MARK-1eMARK-2"]⟩,
   ⟨0x19D0, ["aNEW TAI LUE DIGIT ZEROeONEeTWOeTHREEeFOUReFIVEeSIXeSEVENeEIGHTeNINE",
     "dTHAM DIGIT ONE"]⟩,
   ⟨0x19DE, ["aNEW TAI LUE SIGN LAEeLAEVaKHMER SYMBOL PATHAMASATcMUOY KOETcPIIncBEIncBUONncPRAMn",
     "cPRAM-MUOYncPRAM-PIIncPRAM-BEIncPRAM-BUONncDAPncDAP-MUOYncDAP-PIIncDAP-BEIncDAP-BUONn",
     "cDAP-PRAMncTUTEYASATcMUOY ROCcPIIncBEIncBUONncPRAMncPRAM-MUOYncPRAM-PIIncPRAM-BEIn",
     "cPRAM-BUONncDAPncDAP-MUOYncDAP-PIIncDAP-BEIncDAP-BUONncDAP-PRAMnaBUGINESE LETTER KAcGAcNGA",
     "cNGKAcPAcBAcMAcMPAcTAcDAcNAcNRAcCAcJAcNYAcNYCAcYAcRAcLAcVAcSAcAcHAbVOWEL SIGN IdUdEdOdAE"]⟩,
   ⟨0x1A1E, ["aBUGINESE PALLAWAbEND OF SECTIONaTAI THAM LETTER HIGH KAeKHAeKXAdLOW KAeKXAeKHAdNGA",
     "dHIGH CAeCHAdLOW CAeSAeCHAdNYAdRATAdHIGH RATHAdDAdLOW RATHAdRANAdHIGH TAeTHAdLOW TAeTHAdNA",
     "dBAdHIGH PAePHAeFAdLOW PAeFAePHAdMAdLOW YAdHIGHndRAdRUEdLAdLUEdWAdHIGH SHAeSSAeSAeHAdLLAdA",
     "dLOW HAdIdIIdUdUUdEEdOOdLAEdGREAT SAcCONSONANT SIGN MEDIAL RAfLAeLA TANG LAIcSIGN MAI KANGn",
     "cCONSONANT SIGN FINAL NGAeLOW PAeHIGH RATHA ORoeMAeBAeSA"]⟩,
   ⟨0x1A60, ["aTAI THAM SIGN SAKOTcVOWEL SIGN AeMAI SATeAAeTALLneIeIIeUEeUUEeUeUUeOeOA BELOWeOYeE",
     "eAEeOOeAIeTHAMneOA ABOVEcSIGN MAI KANGdTONE-1dTONE-2dKHUEN TONE-3eTONE-4eTONE-5dRA HAAM",
     "dMAI SAMdKHUEN-LUE KARAN"]⟩,
   ⟨0x1A7F, ["aTAI THAM COMBINING CRYPTOGRAMMIC DOTcHORA DIGIT ZEROeONEeTWOeTHREEeFOUReFIVEeSIX",
     "eSEVENeEIGHTeNINE"]⟩,
   ⟨0x1A90, ["aTAI THAM THAM DIGIT ZEROeONEeTWOeTHREEeFOUReFIVEeSIXeSEVENeEIGHTeNINE"]⟩,
   ⟨0x1AA0, ["aTAI THAM SIGN WIANGdWIANGWAAKdSAWANdKEOWdHOYdDOKMAIdREVERSED ROTATED RANAdMAI YAMOK",
     "dKAANdKAANKUUdSATKAANdSATKAANKUUdHANGdCAANG"]⟩,
   ⟨0x1AB0, ["aCOMBINING DOUBLED CIRCUMFLEX ACCENTbDIAERESIS-RINGbINFINITYbDOWNWARDS ARROW",
     "bTRIPLE DOTbX-X BELOWbWIGGLY LINEnbOPEN MARKnbDOUBLEpbLIGHT CENTRALIZATION STROKEnbSTRONGp",
     "bPARENTHESES ABOVEbDOUBLEobPARENTHESES BELOWcOVERLAYbLATIN SMALL LETTER W BELOWeTURNEDo",
     "bLEFT PARENTHESIS ABOVE LEFTbRIGHT PARENTHESIS ABOVE RIGHTbLEFT PARENTHESIS BELOW LEFT",
     "bRIGHT PARENTHESIS BELOW RIGHTbSQUARE BRACKETS ABOVEbNUMBER SIGNnbINVERTED DOUBLE ARCHn",
     "bPLUS SIGNnbDOUBLEpeBELOWbTRIPLE ACUTE ACCENTbLATIN SMALL LETTER INSULAR GfRfT"]⟩,
   ⟨0x1B00, ["aBALINESE SIGN ULU RICEMdCANDRAcCECEKcSURANGcBISAHbLETTER AKARAdTEDUNGcIKARAdTEDUNG",
     "cUKARAdTEDUNGcRA REPAeTEDUNGcLA LENGAeTEDUNGcEKARAcAIKARAcOKARAdTEDUNGcKAdMAHAPRANAcGAdGORA",
     "cNGAcCAdLACAcJAdJERAcNYAcTA LATIKdMURDA MAHAPRANAcDA MURDA ALPAPRANAeMAHAPRANAcNA RAMBATcTA",
     "dTAWAcDAdMADUcNAcPAdKAPALcBAdKEMBANGcMAcYAcRAcLAcWAcSA SAGAdSAPAdcHAbSIGN REREKAN",
     "bVOWEL SIGN TEDUNGdULUeSARIdSUKUeILUTdRA REPAfTEDUNGdLA LENGAfTEDUNGdTALINGeREPAeTEDUNG",
     "eREPAndPEPETeTEDUNGbADEG ADEGbLETTER KAF SASAKcKHOTncTZIRncEFncVEncZALncASYURAn",
     "cARCHAIC JNYA"]⟩,
   ⟨0x1B50, ["aBALINESE DIGIT ZEROcONEcTWOcTHREEcFOURcFIVEcSIXcSEVENcEIGHTcNINEbPANTIbPAMADAbWINDU",
     "bCARIK PAMUNGKAHcSIKIcPARERENbPAMENENGbMUSICAL SYMBOL DONGdDENGdDUNGdDANGeSURANGdDINGdDAENG",
     "dDEUNGdDAINGdDANG GEDEdCOMBINING TEGEHeENDEPeKEMPULeKEMPLIeJEGOGANeKEMPUL WITHneKEMPLIo",
     "eBENDEeGONGdRIGHT-HAND OPEN DUGfDAGeCLOSED TUKfTAKdLEFT-HAND OPEN PANGfPUNGeCLOSED PLAKfPLUK",
     "eOPEN PINGbPANTI LANTANGbPAMADAn"]⟩,
   ⟨0x1B80, ["aSUNDANESE SIGN PANYECEKcPANGLAYARcPANGWISADbLETTER AcIcUcAEcOcEcEUcKAcQAcGAcNGAcCA",
     "cJAcZAcNYAcTAcDAcNAcPAcFAcVAcBAcMAcYAcRAcLAcWAcSAcXAcHAbCONSONANT SIGN PAMINGKALdPANYAKRA",
     "dPANYIKUbVOWEL SIGN PANGHULUdPANYUKUdPANAELAENGdPANOLONGdPAMEPETdPANEULEUNGbSIGN PAMAAEH",
     "cVIRAMAbCONSONANT SIGN PASANGAN MAeWAbLETTER KHAcSYAbDIGIT ZEROcONEcTWOcTHREEcFOURcFIVEcSIX",
     "cSEVENcEIGHTcNINEbAVAGRAHAbLETTER REUcLEUcBHAcFINAL KdMaBATAK LETTER AcSIMALUNGUNncHA",
     "cSIMALUNGUNncMANDAILINGncBAcKAROncPAcSIMALUNGUNncNAcMANDAILINGncWAcSIMALUNGUNncPAKPAKncGA",
     "cSIMALUNGUNncJAcDAcRAcSIMALUNGUNncMAcSIMALUNGUNncSOUTHERN TAcNORTHERNncSAcSIMALUNGUNn",
     "cMANDAILINGncYAcSIMALUNGUNncNGAcLAcSIMALUNGUNncNYAcCAcNDAcMBAcIcUbSIGN TOMPIbVOWEL SIGN E",
     "dPAKPAKndEEdIdKAROndOdKAROndUeFOR SIMALUNGUN SAbCONSONANT SIGN NGdHbPANGOLATbPANONGONAN"]⟩,
   ⟨0x1BFC, ["aBATAK SYMBOL BINDU NA METEKdPINARBORASdJUDULdPANGOLATaLEPCHA LETTER KAcKLAcKHAcGA",
     "cGLAcNGAcCAcCHAcJAcNYAcTAcTHAcDAcNAcPAcPLAcPHAcFAcFLAcBAcBLAcMAcMLAcTSAcTSHAcDZAcYAcRAcLAcHA",
     "cHLAcVAcSAcSHAcWAcAbSUBJOINED LETTER YAdRAbVOWEL SIGN AAdIdOdOOdUdUUdEbCONSONANT SIGN KdMdL",
     "dNdPdRdTdNYIN-DOdKANGbSIGN RANcNUKTA"]⟩,
   ⟨0x1C3B, ["aLEPCHA PUNCTUATION TA-ROLcNYET THYOOMncCER-WAcTSHOOKndbDIGIT ZEROcONEcTWOcTHREE",
     "cFOURcFIVEcSIXcSEVENcEIGHTcNINE"]⟩,
   ⟨0x1C4D, ["aLEPCHA LETTER TTAcTTHAcDDAaOL CHIKI DIGIT ZEROdONEdTWOdTHREEdFOURdFIVEdSIXdSEVEN",
     "dEIGHTdNINEcLETTER LAdATdAGdANGdALdLAAdAAKdAAJdAAMdAAWdLIdISdIHdINYdIRdLUdUCdUDdUNNdUYdLEdEP",
     "dEDDdENdERRdLOdOTTdOBdOVdOHcMU TTUDDAGcGAAHLAA TTUDDAAGcMU-GAAHLAAncRELAAcPHAARKAAcAHAD",
     "cPUNCTUATION MUCAADdDOUBLEnaCYRILLIC SMALL LETTER ROUNDED VEdLONG-LEGGED DEdNARROW OdWIDE ES",
     "dTALL TEdTHREE-LEGGEDndTALL HARD SIGNeYATdUNBLENDED UK"]⟩,
   ⟨0x1C90, ["aGEORGIAN MTAVRULI CAPITAL LETTER ANeBANeGANeDONeENeVINeZENeTANeINeKANeLASeMANeNAR",
     "eONePAReZHAReRAEeSANeTAReUNePHAReKHAReGHANeQAReSHINeCHINeCANeJILeCILeCHAReXANeJHANeHAEeHE",
     "eHIEeWEeHAReHOEeFIeYNeELIFIeTURNED GANeAIN"]⟩,
   ⟨0x1CBD, ["aGEORGIAN MTAVRULI CAPITAL LETTER AENeHARD SIGNeLABIALn",
     "aSUNDANESE PUNCTUATION BINDU SURYAdPANGLONGdPURNAMAdCAKRAdLEU SATANGAdKAndDAndBAn"]⟩,
   ⟨0x1CD0, ["aVEDIC TONE KARSHANAcSHARAcPRENKHAbSIGN NIHSHVASAcYAJURVEDIC MIDLINE SVARITA",
     "bTONE YAJURVEDIC AGGRAVATED INDEPENDENTndodKATHAKAocCANDRA BELOW",
     "cYAJURVEDIC KATHAKA INDEPENDENT SVARITA SCHROEDERcDOUBLE SVARITAcTRIPLEncKATHAKA ANUDATTA",
     "cDOT BELOWcTWO DOTSncTHREEocRIGVEDIC KASHMIRI INDEPENDENT SVARITAcATHARVAVEDICo",
     "bSIGN VISARGAndUDATTAcREVERSEDocVISARGA ANUDATTAcREVERSEDocVISARGA UDATTA WITH TAIL",
     "dANUDATTAocANUSVARA ANTARGOMUKHAdBAHIRGOMUKHAdVAMAGOMUKHAeWITH TAILcTIRYAK",
     "cHEXIFORM LONG ANUSVARAcocRTHANGocANUSVARA UBHAYATO MUKHAcARDHAVISARGAcROTATEDn",
     "bTONE CANDRA ABOVEbSIGN JIHVAMULIYAcUPADHMANIYAcATIKRAMAbTONE RING ABOVEcDOUBLEo",
     "bSIGN DOUBLE ANUSVARA ANTARGOMUKHA"]⟩,
   ⟨0x1D00, ["aLATIN LETTER SMALL CAPITAL AeAEbSMALL LETTER TURNEDnbLETTER SMALL CAPITAL BARRED B",
     "eCeDeETHeEbSMALL LETTER TURNED OPENneIbLETTER SMALL CAPITAL JeKeL WITH STROKEeMeREVERSED NeO",
     "eOPENnbSMALL LETTER SIDEWAYSneOPENneO WITH STROKEdTURNED OEbLETTER SMALL CAPITAL OU",
     "bSMALL LETTER TOP HALF OdBOTTOMobLETTER SMALL CAPITAL PeREVERSED ReTURNEDneTeU",
     "bSMALL LETTER SIDEWAYSneDIAERESIZEDneTURNED MbLETTER SMALL CAPITAL VeWeZeEZH",
     "cVOICED LARYNGEAL SPIRANTcAINaGREEK LETTER SMALL CAPITAL GAMMAeLAMDAePIeRHOePSI",
     "aCYRILLIC LETTER SMALL CAPITAL ELaMODIFIER LETTER CAPITAL AdAEdBdBARREDndDdEdREVERSEDndGdHdI",
     "dJdKdLdMdNdREVERSEDndOdOUdPdRdTdUdWcSMALL AdTURNEDndALPHAdTURNED AEdBdDdEdSCHWAdOPEN E",
     "dTURNEDodGdTURNED IdKdMdENGdOdOPENndTOP HALFndBOTTOModPdTdUdSIDEWAYSndTURNED MdVdAINdBETA",
     "dGREEK GAMMAdDELTAdGREEK PHIdCHIaLATIN SUBSCRIPT SMALL LETTER IeReUeV",
     "aGREEK SUBSCRIPT SMALL LETTER BETAeGAMMAeRHOePHIeCHIaLATIN SMALL LETTER UE",
     "dB WITH MIDDLE TILDEdDpdFpdMpdNpdPpdRpfFISHHOOK ANDodS WITHodTpdZpdTURNED G",
     "aMODIFIER LETTER CYRILLIC ENaLATIN SMALL LETTER INSULAR GdTH WITH STRIKETHROUGH",
     "cCAPITAL LETTER I WITH STROKEcLETTER IOTAodPocCAPITAL LETTER UocLETTER UPSILONo",
     "dB WITH PALATAL HOOKdDpdFpdGpdKpdLpdMpdNpdPpdRpdSpdESHpdVpdXpdZpdA WITH RETROFLEXndALPHAp",
     "dD WITH HOOK AND TAILdE WITH RETROFLEX HOOKdOPENqdREVERSEDrdSCHWApdIpdOPEN OpdESHpdUpdEZHp",
     "aMODIFIER LETTER SMALL TURNED ALPHAdCeWITH CURLdETHdREVERSED OPEN EdFdDOTLESS J WITH STROKE",
     "dSCRIPT GdTURNED HdI WITH STROKEdIOTAdCAPITAL IfWITH STROKEdJ WITH CROSSED-TAIL",
     "dL WITH RETROFLEX HOOKfPALATALndCAPITAL LdM WITH HOOKdTURNED M WITH LONG LEG",
     "dN WITH LEFT HOOKfRETROFLEXndCAPITAL NdBARRED OdPHIdS WITH HOOKdESHdT WITH PALATAL HOOK",
     "dU BARdUPSILONdCAPITAL UdV WITH HOOKdTURNED VdZeWITH RETROFLEX HOOKfCURLdEZHdTHETA",
     "aCOMBINING DOTTED GRAVE ACCENTcACUTEnbSNAKE BELOWbSUSPENSION MARKbMACRON-ACUTEbGRAVE-MACRON",
     "bMACRON-GRAVEbACUTE-MACRONbGRAVE-ACUTE-GRAVEbACUTE-GRAVE-ACUTEbLATIN SMALL LETTER R BELOW",
     "bBREVE-MACRONbMACRON-BREVEbDOUBLE CIRCUMFLEX ABOVEbOGONEKnbZIGZAG BELOWbISnbUR ABOVEbUSn",
     "bLATIN SMALL LETTER FLATTENED OPEN AneAEeAOeAVeC CEDILLAeINSULAR DeETHeG",
     "cLETTER SMALL CAPITALncSMALL LETTER KeLcLETTER SMALL CAPITALnfMcSMALL LETTER N",
     "cLETTER SMALL CAPITALnfRcSMALL LETTER R ROTUNDAeSeLONGneZeALPHAeBeBETAeSCHWAeF",
     "eL WITH DOUBLE MIDDLE TILDEeO WITH LIGHT CENTRALIZATION STROKEePeESH",
     "eU WITH LIGHT CENTRALIZATION STROKEeWeA WITH DIAERESISeOoeUobUP TACK ABOVE",
     "bKAVYKA ABOVE RIGHTdLEFTbDOTobWIDE INVERTED BRIDGE BELOWbDOT BELOW LEFTbDELETION MARK",
     "bDOUBLE INVERTED BREVE BELOWbALMOST EQUAL TOnbLEFT ARROWHEAD ABOVE",
     "bRIGHT ARROWHEAD AND DOWN ARROWHEAD BELOWaLATIN CAPITAL LETTER A WITH RINGnbSMALLr",
     "bCAPITAL LETTER B WITH DOT ABOVEbSMALLrbCAPITAL LETTER B WITH DOT BELOWbSMALLr",
     "bCAPITAL LETTER B WITH LINEnbSMALLrbCAPITAL LETTER C WITH CEDILLA AND ACUTEbSMALLs",
     "bCAPITAL LETTER D WITH DOT ABOVEbSMALLrbCAPITAL LETTER D WITH DOT BELOWbSMALLr",
     "bCAPITAL LETTER D WITH LINEnbSMALLrbCAPITAL LETTER D WITH CEDILLAbSMALLq",
     "bCAPITAL LETTER D WITH CIRCUMFLEX BELOWbSMALLrbCAPITAL LETTER E WITH MACRON AND GRAVEbSMALLs",
     "bCAPITAL LETTER E WITH MACRON AND ACUTEbSMALLsbCAPITAL LETTER E WITH CIRCUMFLEX BELOWbSMALLr",
     "bCAPITAL LETTER E WITH TILDEnbSMALLrbCAPITAL LETTER E WITH CEDILLA AND BREVEbSMALLs",
     "bCAPITAL LETTER F WITH DOT ABOVEbSMALLrbCAPITAL LETTER G WITH MACRONbSMALLq",
     "bCAPITAL LETTER H WITH DOT ABOVEbSMALLrbCAPITAL LETTER H WITH DOT BELOWbSMALLr",
     "bCAPITAL LETTER H WITH DIAERESISbSMALLqbCAPITAL LETTER H WITH CEDILLAbSMALLq",
     "bCAPITAL LETTER H WITH BREVE BELOWbSMALLrbCAPITAL LETTER I WITH TILDEnbSMALLr",
     "bCAPITAL LETTER I WITH DIAERESIS AND ACUTEbSMALLsbCAPITAL LETTER K WITHnbSMALLq",
     "bCAPITAL LETTER K WITH DOT BELOWbSMALLrbCAPITAL LETTER K WITH LINEnbSMALLr",
     "bCAPITAL LETTER L WITH DOTnbSMALLrbCAPITAL LETTER L WITH DOT BELOW AND MACRONbSMALLt",
     "bCAPITAL LETTER L WITH LINE BELOWbSMALLrbCAPITAL LETTER L WITH CIRCUMFLEXnbSMALLr",
     "bCAPITAL LETTER M WITH ACUTEbSMALLqbCAPITAL LETTER M WITH DOT ABOVEbSMALLr",
     "bCAPITAL LETTER M WITH DOT BELOWbSMALLrbCAPITAL LETTER N WITH DOT ABOVEbSMALLr",
     "bCAPITAL LETTER N WITH DOT BELOWbSMALLrbCAPITAL LETTER N WITH LINEnbSMALLr",
     "bCAPITAL LETTER N WITH CIRCUMFLEXnbSMALLrbCAPITAL LETTER O WITH TILDE AND ACUTEbSMALLs",
     "bCAPITAL LETTER O WITH TILDE AND DIAERESISbSMALLsbCAPITAL LETTER O WITH MACRON AND GRAVE",
     "bSMALLsbCAPITAL LETTER O WITH MACRON AND ACUTEbSMALLsbCAPITAL LETTER P WITHnbSMALLq",
     "bCAPITAL LETTER P WITH DOT ABOVEbSMALLrbCAPITAL LETTER RpbSMALLr",
     "bCAPITAL LETTER R WITH DOT BELOWbSMALLrbCAPITAL LETTER R WITH DOT BELOW AND MACRONbSMALLt",
     "bCAPITAL LETTER R WITH LINE BELOWbSMALLrbCAPITAL LETTER S WITH DOT ABOVEbSMALLr",
     "bCAPITAL LETTER S WITH DOT BELOWbSMALLrbCAPITAL LETTER S WITH ACUTE AND DOT ABOVEbSMALLt",
     "bCAPITAL LETTER S WITH CARONpbSMALLtbCAPITAL LETTER S WITH DOT BELOWpbSMALLu",
     "bCAPITAL LETTER T WITHobSMALLrbCAPITAL LETTER T WITH DOT BELOWbSMALLr",
     "bCAPITAL LETTER T WITH LINEnbSMALLrbCAPITAL LETTER T WITH CIRCUMFLEXnbSMALLr",
     "bCAPITAL LETTER U WITH DIAERESISnbSMALLrbCAPITAL LETTER U WITH TILDEnbSMALLr",
     "bCAPITAL LETTER U WITH CIRCUMFLEXnbSMALLrbCAPITAL LETTER U WITH TILDE AND ACUTEbSMALLs",
     "bCAPITAL LETTER U WITH MACRON AND DIAERESISbSMALLsbCAPITAL LETTER V WITH TILDEbSMALLq",
     "bCAPITAL LETTER V WITH DOT BELOWbSMALLrbCAPITAL LETTER W WITH GRAVEbSMALLq",
     "bCAPITAL LETTER W WITH ACUTEbSMALLqbCAPITAL LETTER W WITH DIAERESISbSMALLq",
     "bCAPITAL LETTER W WITH DOT ABOVEbSMALLrbCAPITAL LETTER W WITH DOT BELOWbSMALLr",
     "bCAPITAL LETTER X WITH DOT ABOVEbSMALLrbCAPITAL LETTER X WITH DIAERESISbSMALLq",
     "bCAPITAL LETTER Y WITH DOT ABOVEbSMALLrbCAPITAL LETTER Z WITH CIRCUMFLEXbSMALLq",
     "bCAPITAL LETTER Z WITH DOT BELOWbSMALLrbCAPITAL LETTER Z WITH LINEnbSMALLrdHp",
     "dT WITH DIAERESISdW WITH RING ABOVEdYpdA WITH RIGHT HALF RINGdLONG S WITH DOT ABOVE",
     "gDIAGONAL STROKEgHIGHnbCAPITAL LETTER SHARP SbSMALL LETTER DELTA",
     "bCAPITAL LETTER A WITH DOT BELOWbSMALLrbCAPITAL LETTER A WITH HOOK ABOVEbSMALLr",
     "bCAPITAL LETTER A WITH CIRCUMFLEX AND ACUTEbSMALLs",
     "bCAPITAL LETTER A WITH CIRCUMFLEX AND GRAVEbSMALLs",
     "bCAPITAL LETTER A WITH CIRCUMFLEX AND HOOK ABOVEbSMALLt",
     "bCAPITAL LETTER A WITH CIRCUMFLEX AND TILDEbSMALLs",
     "bCAPITAL LETTER A WITH CIRCUMFLEX AND DOT BELOWbSMALLtbCAPITAL LETTER A WITH BREVE AND ACUTE",
     "bSMALLsbCAPITAL LETTER A WITH BREVE AND GRAVEbSMALLs",
     "bCAPITAL LETTER A WITH BREVE AND HOOK ABOVEbSMALLtbCAPITAL LETTER A WITH BREVE AND TILDE",
     "bSMALLsbCAPITAL LETTER A WITH BREVE AND DOT BELOWbSMALLtbCAPITAL LETTER E WITHobSMALLr",
     "bCAPITAL LETTER E WITH HOOK ABOVEbSMALLrbCAPITAL LETTER E WITH TILDEbSMALLq",
     "bCAPITAL LETTER E WITH CIRCUMFLEX AND ACUTEbSMALLs",
     "bCAPITAL LETTER E WITH CIRCUMFLEX AND GRAVEbSMALLs",
     "bCAPITAL LETTER E WITH CIRCUMFLEX AND HOOK ABOVEbSMALLt",
     "bCAPITAL LETTER E WITH CIRCUMFLEX AND TILDEbSMALLs",
     "bCAPITAL LETTER E WITH CIRCUMFLEX AND DOT BELOWbSMALLtbCAPITAL LETTER I WITH HOOK ABOVE",
     "bSMALLrbCAPITAL LETTER I WITH DOT BELOWbSMALLrbCAPITAL LETTER OpbSMALLr",
     "bCAPITAL LETTER O WITH HOOK ABOVEbSMALLrbCAPITAL LETTER O WITH CIRCUMFLEX AND ACUTEbSMALLs",
     "bCAPITAL LETTER O WITH CIRCUMFLEX AND GRAVEbSMALLs",
     "bCAPITAL LETTER O WITH CIRCUMFLEX AND HOOK ABOVEbSMALLt",
     "bCAPITAL LETTER O WITH CIRCUMFLEX AND TILDEbSMALLs",
     "bCAPITAL LETTER O WITH CIRCUMFLEX AND DOT BELOWbSMALLtbCAPITAL LETTER O WITH HORN AND ACUTE",
     "bSMALLsbCAPITAL LETTER O WITH HORN AND GRAVEbSMALLs",
     "bCAPITAL LETTER O WITH HORN AND HOOK ABOVEbSMALLtbCAPITAL LETTER O WITH HORN AND TILDE",
     "bSMALLsbCAPITAL LETTER O WITH HORN AND DOT BELOWbSMALLtbCAPITAL LETTER U WITHobSMALLr",
     "bCAPITAL LETTER U WITH HOOK ABOVEbSMALLrbCAPITAL LETTER U WITH HORN AND ACUTEbSMALLs",
     "bCAPITAL LETTER U WITH HORN AND GRAVEbSMALLsbCAPITAL LETTER U WITH HORN AND HOOK ABOVE",
     "bSMALLtbCAPITAL LETTER U WITH HORN AND TILDEbSMALLsbCAPITAL LETTER U WITH HORN AND DOT BELOW",
     "bSMALLtbCAPITAL LETTER Y WITH GRAVEbSMALLqbCAPITAL LETTER Y WITH DOT BELOWbSMALLr",
     "bCAPITAL LETTER Y WITH HOOK ABOVEbSMALLrbCAPITAL LETTER Y WITH TILDEbSMALLq",
     "bCAPITAL LETTER MIDDLE-WELSH LLbSMALLpbCAPITAL LETTER MIDDLE-WELSH VbSMALLp",
     "bCAPITAL LETTER Y WITH LOOPbSMALLqaGREEK SMALL LETTER ALPHA WITH PSILIfDASIAfPSILI AND VARIA",
     "fDASIAofPSILI AND OXIAfDASIAofPSILI AND PERISPOMENIfDASIAobCAPITAL LETTER ALPHA WITH PSILI",
     "fDASIAfPSILI AND VARIAfDASIAofPSILI AND OXIAfDASIAofPSILI AND PERISPOMENIfDASIAo",
     "bSMALL LETTER EPSILON WITH PSILIfDASIAfPSILI AND VARIAfDASIAofPSILI AND OXIAfDASIAo"]⟩,
   ⟨0x1F18, ["aGREEK CAPITAL LETTER EPSILON WITH PSILIfDASIAfPSILI AND VARIAfDASIAofPSILI AND OXIA",
     "fDASIAo"]⟩,
   ⟨0x1F20, ["aGREEK SMALL LETTER ETA WITH PSILIfDASIAfPSILI AND VARIAfDASIAofPSILI AND OXIA",
     "fDASIAofPSILI AND PERISPOMENIfDASIAobCAPITAL LETTER ETA WITH PSILIfDASIAfPSILI AND VARIA",
     "fDASIAofPSILI AND OXIAfDASIAofPSILI AND PERISPOMENIfDASIAobSMALL LETTER IOTA WITH PSILI",
     "fDASIAfPSILI AND VARIAfDASIAofPSILI AND OXIAfDASIAofPSILI AND PERISPOMENIfDASIAo",
     "bCAPITAL LETTER IOTA WITH PSILIfDASIAfPSILI AND VARIAfDASIAofPSILI AND OXIAfDASIAo",
     "fPSILI AND PERISPOMENIfDASIAobSMALL LETTER OMICRON WITH PSILIfDASIAfPSILI AND VARIAfDASIAo",
     "fPSILI AND OXIAfDASIAo"]⟩,
   ⟨0x1F48, ["aGREEK CAPITAL LETTER OMICRON WITH PSILIfDASIAfPSILI AND VARIAfDASIAofPSILI AND OXIA",
     "fDASIAo"]⟩,
   ⟨0x1F50, ["aGREEK SMALL LETTER UPSILON WITH PSILIfDASIAfPSILI AND VARIAfDASIAofPSILI AND OXIA",
     "fDASIAofPSILI AND PERISPOMENIfDASIAo"]⟩,
   ⟨0x1F59, ["aGREEK CAPITAL LETTER UPSILON WITH DASIA"]⟩,
   ⟨0x1F5B, ["aGREEK CAPITAL LETTER UPSILON WITH DASIA AND VARIA"]⟩,
   ⟨0x1F5D, ["aGREEK CAPITAL LETTER UPSILON WITH DASIA AND OXIA"]⟩,
   ⟨0x1F5F, ["aGREEK CAPITAL LETTER UPSILON WITH DASIA AND PERISPOMENI",
     "bSMALL LETTER OMEGA WITH PSILIfDASIAfPSILI AND VARIAfDASIAofPSILI AND OXIAfDASIAo",
     "fPSILI AND PERISPOMENIfDASIAobCAPITAL LETTER OMEGA WITH PSILIfDASIAfPSILI AND VARIAfDASIAo",
     "fPSILI AND OXIAfDASIAofPSILI AND PERISPOMENIfDASIAobSMALL LETTER ALPHA WITH VARIAfOXIA",
     "dEPSILON WITH VARIAfOXIAdETA WITH VARIAfOXIAdIOTA WITH VARIAfOXIAdOMICRON WITH VARIAfOXIA",
     "dUPSILON WITH VARIAfOXIAdOMEGA WITH VARIAfOXIA"]⟩,
   ⟨0x1F80, ["aGREEK SMALL LETTER ALPHA WITH PSILI AND YPOGEGRAMMENIfDASIAofPSILI AND VARIAo",
     "fDASIAqfPSILI AND OXIAofDASIAqfPSILI AND PERISPOMENIofDASIAq",
     "bCAPITAL LETTER ALPHA WITH PSILI AND PROSGEGRAMMENIfDASIAofPSILI AND VARIAofDASIAq",
     "fPSILI AND OXIAofDASIAqfPSILI AND PERISPOMENIofDASIAq",
     "bSMALL LETTER ETA WITH PSILI AND YPOGEGRAMMENIfDASIAofPSILI AND VARIAofDASIAq",
     "fPSILI AND OXIAofDASIAqfPSILI AND PERISPOMENIofDASIAq",
     "bCAPITAL LETTER ETA WITH PSILI AND PROSGEGRAMMENIfDASIAofPSILI AND VARIAofDASIAq",
     "fPSILI AND OXIAofDASIAqfPSILI AND PERISPOMENIofDASIAq",
     "bSMALL LETTER OMEGA WITH PSILI AND YPOGEGRAMMENIfDASIAofPSILI AND VARIAofDASIAq",
     "fPSILI AND OXIAofDASIAqfPSILI AND PERISPOMENIofDASIAq",
     "bCAPITAL LETTER OMEGA WITH PSILI AND PROSGEGRAMMENIfDASIAofPSILI AND VARIAofDASIAq",
     "fPSILI AND OXIAofDASIAqfPSILI AND PERISPOMENIofDASIAqbSMALL LETTER ALPHA WITH VRACHYfMACRON",
     "fVARIA AND YPOGEGRAMMENIfnfOXIA ANDn"]⟩,
   ⟨0x1FB6, ["aGREEK SMALL LETTER ALPHA WITH PERISPOMENIgAND YPOGEGRAMMENI",
     "bCAPITAL LETTER ALPHA WITH VRACHYfMACRONfVARIAfOXIAfPROSGEGRAMMENIbKORONISbPROSGEGRAMMENI",
     "bPSILIbPERISPOMENIbDIALYTIKA ANDnbSMALL LETTER ETA WITH VARIA AND YPOGEGRAMMENIfn",
     "fOXIA ANDn"]⟩,
   ⟨0x1FC6, ["aGREEK SMALL LETTER ETA WITH PERISPOMENIgAND YPOGEGRAMMENI",
     "bCAPITAL LETTER EPSILON WITH VARIAfOXIAdETA WITH VARIAfOXIAfPROSGEGRAMMENIbPSILI AND VARIA",
     "dOXIAdPERISPOMENIbSMALL LETTER IOTA WITH VRACHYfMACRONfDIALYTIKA AND VARIAhOXIA"]⟩,
   ⟨0x1FD6, ["aGREEK SMALL LETTER IOTA WITH PERISPOMENIfDIALYTIKA ANDn",
     "bCAPITAL LETTER IOTA WITH VRACHYfMACRONfVARIAfOXIA"]⟩,
   ⟨0x1FDD, ["aGREEK DASIA AND VARIAdOXIAdPERISPOMENIbSMALL LETTER UPSILON WITH VRACHYfMACRON",
     "fDIALYTIKA AND VARIAhOXIAdRHO WITH PSILIfDASIAdUPSILON WITH PERISPOMENIfDIALYTIKA ANDn",
     "bCAPITAL LETTER UPSILON WITH VRACHYfMACRONfVARIAfOXIAdRHO WITH DASIAbDIALYTIKA AND VARIA",
     "dOXIAbVARIA"]⟩,
   ⟨0x1FF2, ["aGREEK SMALL LETTER OMEGA WITH VARIA AND YPOGEGRAMMENIfnfOXIA ANDn"]⟩,
   ⟨0x1FF6, ["aGREEK SMALL LETTER OMEGA WITH PERISPOMENIgAND YPOGEGRAMMENI",
     "bCAPITAL LETTER OMICRON WITH VARIAfOXIAdOMEGA WITH VARIAfOXIAfPROSGEGRAMMENIbOXIAbDASIA"]⟩]

end LineMeasure.Text.CharacterName
