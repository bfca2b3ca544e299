import LineMeasure.Text.CharacterName.Basic

/-!
# Names of further characters of the basic plane

The characters are listed in runs of consecutive code points; `CharacterName.NameRun` says how the
names of a run are written.
-/

namespace LineMeasure.Text.CharacterName

/-- The characters from U+A000 to U+FFFF: syllables, more alphabets, other forms of letters. -/
def syllables : List NameRun :=
  [⟨0xA000, ["aYI SYLLABLE ITcIXcIcIPcIETcIEXcIEcIEPcATcAXcAcAPcUOXcUOcUOPcOTcOXcOcOPcEXcEcWUcBIT",
     "cBIXcBIcBIPcBIETcBIEXcBIEcBIEPcBATcBAXcBAcBAPcBUOXcBUOcBUOPcBOTcBOXcBOcBOPcBEXcBEcBEPcBUT",
     "cBUXcBUcBUPcBURXcBURcBYTcBYXcBYcBYPcBYRXcBYRcPITcPIXcPIcPIPcPIEXcPIEcPIEPcPATcPAXcPAcPAP",
     "cPUOXcPUOcPUOPcPOTcPOXcPOcPOPcPUTcPUXcPUcPUPcPURXcPURcPYTcPYXcPYcPYPcPYRXcPYRcBBITcBBIXcBBI",
     "cBBIPcBBIETcBBIEXcBBIEcBBIEPcBBATcBBAXcBBAcBBAPcBBUOXcBBUOcBBUOPcBBOTcBBOXcBBOcBBOPcBBEXcBBE",
     "cBBEPcBBUTcBBUXcBBUcBBUPcBBURXcBBURcBBYTcBBYXcBBYcBBYPcNBITcNBIXcNBIcNBIPcNBIEXcNBIEcNBIEP",
     "cNBATcNBAXcNBAcNBAPcNBOTcNBOXcNBOcNBOPcNBUTcNBUXcNBUcNBUPcNBURXcNBURcNBYTcNBYXcNBYcNBYP",
     "cNBYRXcNBYRcHMITcHMIXcHMIcHMIPcHMIEXcHMIEcHMIEPcHMATcHMAXcHMAcHMAPcHMUOXcHMUOcHMUOPcHMOT",
     "cHMOXcHMOcHMOPcHMUTcHMUXcHMUcHMUPcHMURXcHMURcHMYXcHMYcHMYPcHMYRXcHMYRcMITcMIXcMIcMIPcMIEX",
     "cMIEcMIEPcMATcMAXcMAcMAPcMUOTcMUOXcMUOcMUOPcMOTcMOXcMOcMOPcMEXcMEcMUTcMUXcMUcMUPcMURXcMUR",
     "cMYTcMYXcMYcMYPcFITcFIXcFIcFIPcFATcFAXcFAcFAPcFOXcFOcFOPcFUTcFUXcFUcFUPcFURXcFURcFYTcFYXcFY",
     "cFYPcVITcVIXcVIcVIPcVIETcVIEXcVIEcVIEPcVATcVAXcVAcVAPcVOTcVOXcVOcVOPcVEXcVEPcVUTcVUXcVUcVUP",
     "cVURXcVURcVYTcVYXcVYcVYPcVYRXcVYRcDITcDIXcDIcDIPcDIEXcDIEcDIEPcDATcDAXcDAcDAPcDUOXcDUOcDOT",
     "cDOXcDOcDOPcDEXcDEcDEPcDUTcDUXcDUcDUPcDURXcDURcTITcTIXcTIcTIPcTIEXcTIEcTIEPcTATcTAXcTAcTAP",
     "cTUOTcTUOXcTUOcTUOPcTOTcTOXcTOcTOPcTEXcTEcTEPcTUTcTUXcTUcTUPcTURXcTURcDDITcDDIXcDDIcDDIP",
     "cDDIEXcDDIEcDDIEPcDDATcDDAXcDDAcDDAPcDDUOXcDDUOcDDUOPcDDOTcDDOXcDDOcDDOPcDDEXcDDEcDDEPcDDUT",
     "cDDUXcDDUcDDUPcDDURXcDDURcNDITcNDIXcNDIcNDIPcNDIEXcNDIEcNDATcNDAXcNDAcNDAPcNDOTcNDOXcNDO",
     "cNDOPcNDEXcNDEcNDEPcNDUTcNDUXcNDUcNDUPcNDURXcNDURcHNITcHNIXcHNIcHNIPcHNIETcHNIEXcHNIEcHNIEP",
     "cHNATcHNAXcHNAcHNAPcHNUOXcHNUOcHNOTcHNOXcHNOPcHNEXcHNEcHNEPcHNUTcNITcNIXcNIcNIPcNIEXcNIE",
     "cNIEPcNAXcNAcNAPcNUOXcNUOcNUOPcNOTcNOXcNOcNOPcNEXcNEcNEPcNUTcNUXcNUcNUPcNURXcNURcHLITcHLIX",
     "cHLIcHLIPcHLIEXcHLIEcHLIEPcHLATcHLAXcHLAcHLAPcHLUOXcHLUOcHLUOPcHLOXcHLOcHLOPcHLEXcHLEcHLEP",
     "cHLUTcHLUXcHLUcHLUPcHLURXcHLURcHLYTcHLYXcHLYcHLYPcHLYRXcHLYRcLITcLIXcLIcLIPcLIETcLIEXcLIE",
     "cLIEPcLATcLAXcLAcLAPcLUOTcLUOXcLUOcLUOPcLOTcLOXcLOcLOPcLEXcLEcLEPcLUTcLUXcLUcLUPcLURXcLUR",
     "cLYTcLYXcLYcLYPcLYRXcLYRcGITcGIXcGIcGIPcGIETcGIEXcGIEcGIEPcGATcGAXcGAcGAPcGUOTcGUOXcGUOcGUOP",
     "cGOTcGOXcGOcGOPcGETcGEXcGEcGEPcGUTcGUXcGUcGUPcGURXcGURcKITcKIXcKIcKIPcKIEXcKIEcKIEPcKATcKAX",
     "cKAcKAPcKUOXcKUOcKUOPcKOTcKOXcKOcKOPcKETcKEXcKEcKEPcKUTcKUXcKUcKUPcKURXcKURcGGITcGGIXcGGI",
     "cGGIEXcGGIEcGGIEPcGGATcGGAXcGGAcGGAPcGGUOTcGGUOXcGGUOcGGUOPcGGOTcGGOXcGGOcGGOPcGGETcGGEXcGGE",
     "cGGEPcGGUTcGGUXcGGUcGGUPcGGURXcGGURcMGIEXcMGIEcMGATcMGAXcMGAcMGAPcMGUOXcMGUOcMGUOPcMGOTcMGOX",
     "cMGOcMGOPcMGEXcMGEcMGEPcMGUTcMGUXcMGUcMGUPcMGURXcMGURcHXITcHXIXcHXIcHXIPcHXIETcHXIEXcHXIE",
     "cHXIEPcHXATcHXAXcHXAcHXAPcHXUOTcHXUOXcHXUOcHXUOPcHXOTcHXOXcHXOcHXOPcHXEXcHXEcHXEPcNGIEXcNGIE",
     "cNGIEPcNGATcNGAXcNGAcNGAPcNGUOTcNGUOXcNGUOcNGOTcNGOXcNGOcNGOPcNGEXcNGEcNGEPcHITcHIEXcHIEcHAT",
     "cHAXcHAcHAPcHUOTcHUOXcHUOcHUOPcHOTcHOXcHOcHOPcHEXcHEcHEPcWATcWAXcWAcWAPcWUOXcWUOcWUOPcWOXcWO",
     "cWOPcWEXcWEcWEPcZITcZIXcZIcZIPcZIEXcZIEcZIEPcZATcZAXcZAcZAPcZUOXcZUOcZUOPcZOTcZOXcZOcZOPcZEX",
     "cZEcZEPcZUTcZUXcZUcZUPcZURXcZURcZYTcZYXcZYcZYPcZYRXcZYRcCITcCIXcCIcCIPcCIETcCIEXcCIEcCIEP",
     "cCATcCAXcCAcCAPcCUOXcCUOcCUOPcCOTcCOXcCOcCOPcCEXcCEcCEPcCUTcCUXcCUcCUPcCURXcCURcCYTcCYXcCY",
     "cCYPcCYRXcCYRcZZITcZZIXcZZIcZZIPcZZIETcZZIEXcZZIEcZZIEPcZZATcZZAXcZZAcZZAPcZZOXcZZOcZZOP",
     "cZZEXcZZEcZZEPcZZUXcZZUcZZUPcZZURXcZZURcZZYTcZZYXcZZYcZZYPcZZYRXcZZYRcNZITcNZIXcNZIcNZIP",
     "cNZIEXcNZIEcNZIEPcNZATcNZAXcNZAcNZAPcNZUOXcNZUOcNZOXcNZOPcNZEXcNZEcNZUXcNZUcNZUPcNZURXcNZUR",
     "cNZYTcNZYXcNZYcNZYPcNZYRXcNZYRcSITcSIXcSIcSIPcSIEXcSIEcSIEPcSATcSAXcSAcSAPcSUOXcSUOcSUOPcSOT",
     "cSOXcSOcSOPcSEXcSEcSEPcSUTcSUXcSUcSUPcSURXcSURcSYTcSYXcSYcSYPcSYRXcSYRcSSITcSSIXcSSIcSSIP",
     "cSSIEXcSSIEcSSIEPcSSATcSSAXcSSAcSSAPcSSOTcSSOXcSSOcSSOPcSSEXcSSEcSSEPcSSUTcSSUXcSSUcSSUP",
     "cSSYTcSSYXcSSYcSSYPcSSYRXcSSYRcZHATcZHAXcZHAcZHAPcZHUOXcZHUOcZHUOPcZHOTcZHOXcZHOcZHOPcZHET",
     "cZHEXcZHEcZHEPcZHUTcZHUXcZHUcZHUPcZHURXcZHURcZHYTcZHYXcZHYcZHYPcZHYRXcZHYRcCHATcCHAXcCHA",
     "cCHAPcCHUOTcCHUOXcCHUOcCHUOPcCHOTcCHOXcCHOcCHOPcCHETcCHEXcCHEcCHEPcCHUXcCHUcCHUPcCHURXcCHUR",
     "cCHYTcCHYXcCHYcCHYPcCHYRXcCHYRcRRAXcRRAcRRUOXcRRUOcRROTcRROXcRROcRROPcRRETcRREXcRREcRREP",
     "cRRUTcRRUXcRRUcRRUPcRRURXcRRURcRRYTcRRYXcRRYcRRYPcRRYRXcRRYRcNRATcNRAXcNRAcNRAPcNROXcNRO",
     "cNROPcNRETcNREXcNREcNREPcNRUTcNRUXcNRUcNRUPcNRURXcNRURcNRYTcNRYXcNRYcNRYPcNRYRXcNRYRcSHAT",
     "cSHAXcSHAcSHAPcSHUOXcSHUOcSHUOPcSHOTcSHOXcSHOcSHOPcSHETcSHEXcSHEcSHEPcSHUTcSHUXcSHUcSHUP",
     "cSHURXcSHURcSHYTcSHYXcSHYcSHYPcSHYRXcSHYRcRATcRAXcRAcRAPcRUOXcRUOcRUOPcROTcROXcROcROPcREXcRE",
     "cREPcRUTcRUXcRUcRUPcRURXcRURcRYTcRYXcRYcRYPcRYRXcRYRcJITcJIXcJIcJIPcJIETcJIEXcJIEcJIEPcJUOT",
     "cJUOXcJUOcJUOPcJOTcJOXcJOcJOPcJUTcJUXcJUcJUPcJURXcJURcJYTcJYXcJYcJYPcJYRXcJYRcQITcQIXcQIcQIP",
     "cQIETcQIEXcQIEcQIEPcQUOTcQUOXcQUOcQUOPcQOTcQOXcQOcQOPcQUTcQUXcQUcQUPcQURXcQURcQYTcQYXcQYcQYP",
     "cQYRXcQYRcJJITcJJIXcJJIcJJIPcJJIETcJJIEXcJJIEcJJIEPcJJUOXcJJUOcJJUOPcJJOTcJJOXcJJOcJJOPcJJUT",
     "cJJUXcJJUcJJUPcJJURXcJJURcJJYTcJJYXcJJYcJJYPcNJITcNJIXcNJIcNJIPcNJIETcNJIEXcNJIEcNJIEPcNJUOX",
     "cNJUOcNJOTcNJOXcNJOcNJOPcNJUXcNJUcNJUPcNJURXcNJURcNJYTcNJYXcNJYcNJYPcNJYRXcNJYRcNYITcNYIX",
     "cNYIcNYIPcNYIETcNYIEXcNYIEcNYIEPcNYUOXcNYUOcNYUOPcNYOTcNYOXcNYOcNYOPcNYUTcNYUXcNYUcNYUPcXIT",
     "cXIXcXIcXIPcXIETcXIEXcXIEcXIEPcXUOXcXUOcXOTcXOXcXOcXOPcXYTcXYXcXYcXYPcXYRXcXYRcYITcYIXcYI",
     "cYIPcYIETcYIEXcYIEcYIEPcYUOTcYUOXcYUOcYUOPcYOTcYOXcYOcYOPcYUTcYUXcYUcYUPcYURXcYURcYYTcYYXcYY",
     "cYYPcYYRXcYYR"]⟩,
   ⟨0xA490, ["aYI RADICAL QOTcLIcKITcNYIPcCYPcSSIcGGOPcGEPcMIcHXITcLYRcBBUTcMOPcYOcPUTcHXUOcTATcGA",
     "cZUPcCYTcDDURcBURcGGUOcNYOPcTUcOPcJJUTcZOTcPYTcHMOcYITcVURcSHYcVEPcZAcJOcNZUPcJJYcGOTcJJIE",
     "cWOcDUcSHURcLIEcCYcCUOPcCIPcHXOPcSHATcZURcSHOPcCHEcZZIETcNBIEcKE"]⟩,
   ⟨0xA4D0, ["aLISU LETTER BAcPAcPHAcDAcTAcTHAcGAcKAcKHAcJAcCAcCHAcDZAcTSAcTSHAcMAcNAcLAcSAcZHAcZA",
     "cNGAcHAcXAcHHAcFAcWAcSHAcYAcGHAcAcAEcEcEUcIcOcUcUEcUHcOEcTONE MYA TIdNA POdMYA CYAeBOeNAeJEU",
     "bPUNCTUATION COMMAcFULL STOPaVAI SYLLABLE EEcEENcHEEcWEEcWEENcPEEcBHEEcBEEcMBEEcKPEEcMGBEE",
     "cGBEEcFEEcVEEcTEEcTHEEcDHEEcDHHEEcLEEcREEcDEEcNDEEcSEEcSHEEcZEEcZHEEcCEEcJEEcNJEEcYEEcKEE",
     "cNGGEEcGEEcMEEcNEEcNYEEcIcINcHIcHINcWIcWINcPIcBHIcBIcMBIcKPIcMGBIcGBIcFIcVIcTIcTHIcDHIcDHHI",
     "cLIcRIcDIcNDIcSIcSHIcZIcZHIcCIcJIcNJIcYIcKIcNGGIcGIcMIcNIcNYIcAcANcNGANcHAcHANcWAcWANcPAcBHA",
     "cBAcMBAcKPAcKPANcMGBAcGBAcFAcVAcTAcTHAcDHAcDHHAcLAcRAcDAcNDAcSAcSHAcZAcZHAcCAcJAcNJAcYAcKA",
     "cKANcNGGAcGAcMAcNAcNYAcOOcOONcHOOcWOOcWOONcPOOcBHOOcBOOcMBOOcKPOOcMGBOOcGBOOcFOOcVOOcTOO",
     "cTHOOcDHOOcDHHOOcLOOcROOcDOOcNDOOcSOOcSHOOcZOOcZHOOcCOOcJOOcNJOOcYOOcKOOcNGGOOcGOOcMOOcNOO",
     "cNYOOcUcUNcHUcHUNcWUcWUNcPUcBHUcBUcMBUcKPUcMGBUcGBUcFUcVUcTUcTHUcDHUcDHHUcLUcRUcDUcNDUcSU",
     "cSHUcZUcZHUcCUcJUcNJUcYUcKUcNGGUcGUcMUcNUcNYUcOcONcNGONcHOcHONcWOcWONcPOcBHOcBOcMBOcKPOcMGBO",
     "cGBOcGBONcFOcVOcTOcTHOcDHOcDHHOcLOcROcDOcNDOcSOcSHOcZOcZHOcCOcJOcNJOcYOcKOcNGGOcGOcMOcNOcNYO",
     "cEcENcNGENcHEcHENcWEcWENcPEcBHEcBEcMBEcKPEcKPENcMGBEcGBEcGBENcFEcVEcTEcTHEcDHEcDHHEcLEcREcDE",
     "cNDEcSEcSHEcZEcZHEcCEcJEcNJEcYEcKEcNGGEcNGGENcGEcGENcMEcNEcNYEcNGcLENGTHENERbCOMMAbFULL STOP",
     "bQUESTION MARKbSYLLABLE NDOLE FAdKAdSOObSYMBOL FEENGcKEENGcTINGcNIIcBANGcFAAcTAAcDANGcDOONG",
     "cKUNGcTONGcDO-OcJONGbDIGIT ZEROcONEcTWOcTHREEcFOURcFIVEcSIXcSEVENcEIGHTcNINE",
     "bSYLLABLE NDOLE MAdDO"]⟩,
   ⟨0xA640, ["aCYRILLIC CAPITAL LETTER ZEMLYAbSMALLobCAPITAL LETTER DZELObSMALLo",
     "bCAPITAL LETTER REVERSED DZEbSMALLpbCAPITAL LETTER IOTAbSMALLobCAPITAL LETTER DJERVbSMALLo",
     "bCAPITAL LETTER MONOGRAPH UKbSMALLpbCAPITAL LETTER BROAD OMEGAbSMALLp",
     "bCAPITAL LETTER NEUTRAL YERbSMALLpbCAPITAL LETTER YERU WITH BACKnbSMALLr",
     "bCAPITAL LETTER IOTIFIED YATbSMALLpbCAPITAL LETTER REVERSED YUbSMALLp",
     "bCAPITAL LETTER IOTIFIED AbSMALLpbCAPITAL LETTER CLOSED LITTLE YUSbSMALLq",
     "bCAPITAL LETTER BLENDEDnbSMALLpbCAPITAL LETTER IOTIFIED CLOSED LITTLEnbSMALLr",
     "bCAPITAL LETTER YNbSMALLobCAPITAL LETTER REVERSED TSEbSMALLpbCAPITAL LETTER SOFT DEbSMALLp",
     "bCAPITAL LETTER SOFT ELbSMALLpbCAPITAL LETTER SOFT EMbSMALLpbCAPITAL LETTER MONOCULAR O",
     "bSMALLpbCAPITAL LETTER BINOCULARnbSMALLpbCAPITAL LETTER DOUBLE MONOCULARnbSMALLq",
     "bLETTER MULTIOCULARnaCOMBINING CYRILLIC VZMETcTEN MILLIONS SIGNcHUNDREDocTHOUSANDo",
     "aSLAVONIC ASTERISKaCOMBINING CYRILLIC LETTER UKRAINIAN IEdIdYIdUdHARD SIGNdYERUdSOFT SIGN",
     "dOMEGAcKAVYKAcPAYEROKaCYRILLIC KAVYKAbPAYEROKbCAPITAL LETTER DWEbSMALLobCAPITAL LETTER DZWE",
     "bSMALLobCAPITAL LETTER ZHWEbSMALLobCAPITAL LETTER CCHEbSMALLobCAPITAL LETTER DZZEbSMALLo",
     "bCAPITAL LETTER TE WITH MIDDLE HOOKbSMALLrbCAPITAL LETTER TWEbSMALLobCAPITAL LETTER TSWE",
     "bSMALLobCAPITAL LETTER TSSEbSMALLobCAPITAL LETTER TCHEbSMALLobCAPITAL LETTER HWEbSMALLo",
     "bCAPITAL LETTER SHWEbSMALLobCAPITAL LETTER DOUBLE ObSMALLpbCAPITAL LETTER CROSSEDnbSMALLp",
     "aMODIFIER LETTER CYRILLIC HARD SIGNdSOFTnaCOMBINING CYRILLIC LETTER EFdIOTIFIED E",
     "aBAMUM LETTER AcKAcUcKUcEEcREEcTAEcOcNYIcIcLAcPAcRIIcRIEEcLEEEEcMEEEEcTAAcNDAAcNJAEMcMcSUU",
     "cMUcSHIIcSIcSHEUXcSEUXcKYEEcKETcNUAEcNUcNJUAEcYOQcSHUcYUQcYAcNSHAcKEUXcPEUXcNJEEcNTEEcPUE",
     "cWUEcPEEcFEEcRUcLUcMIcNIcREUXcRAEcKENcNGKWAENcNGGAcNGAcSHOcPUAEcFUcFOMcWAcNAcLIcPIcLOQcKO",
     "cMBENcRENcMENcMAcTIcKIcMOcMBAAcTETcKPAcTENcNTUUcSAMBAcFAAMAEcKOVUUcKOGHOM",
     "bCOMBINING MARK KOQNDONdTUKWENTISbNJAEMLIbFULL STOPbCOLONbCOMMAbSEMICOLONbQUESTION MARK"]⟩,
   ⟨0xA700, ["aMODIFIER LETTER CHINESE TONE YIN PINGeYANGneYIN SHANGeYANGneYIN QUeYANGneYIN RU",
     "eYANGncEXTRA-HIGH DOTTED TONE BARcHIGHpcMIDpcLOWpcEXTRA-LOWpcEXTRA-HIGH DOTTED LEFT-STEMo",
     "cHIGHqcMIDqcLOWqcEXTRA-LOWqcEXTRA-HIGHpcHIGHpcMIDpcLOWpcEXTRA-LOWpcDOT VERTICALndSLASH",
     "dHORIZONTAL BARcLOWER RIGHT CORNER ANGLEcRAISED UP ARROWdDOWNndEXCLAMATION MARKdINVERTEDo",
     "cLOWpcSTRESS AND HIGH TONEeLOWnaLATIN CAPITAL LETTER EGYPTOLOGICAL ALEFbSMALLp",
     "bCAPITAL LETTER EGYPTOLOGICAL AINbSMALLpbCAPITAL LETTER HENGbSMALLobCAPITAL LETTER TZbSMALLo",
     "bCAPITAL LETTER TRESILLObSMALLobCAPITAL LETTER CUATRILLObSMALLo",
     "bCAPITAL LETTER CUATRILLO WITH COMMAbSMALLqbLETTER SMALL CAPITAL FeSbCAPITAL LETTER AA",
     "bSMALLobCAPITAL LETTER AObSMALLobCAPITAL LETTER AUbSMALLobCAPITAL LETTER AVbSMALLo",
     "bCAPITAL LETTER AV WITH HORIZONTAL BARbSMALLrbCAPITAL LETTER AYbSMALLo",
     "bCAPITAL LETTER REVERSED C WITH DOTbSMALLrbCAPITAL LETTER K WITH STROKEbSMALLq",
     "bCAPITAL LETTER K WITH DIAGONALnbSMALLrbCAPITAL LETTER K WITH STROKE ANDobSMALLt",
     "bCAPITAL LETTER BROKEN LbSMALLpbCAPITAL LETTER L WITH HIGH STROKEbSMALLr",
     "bCAPITAL LETTER O WITH LONG STROKE OVERLAYbSMALLsbCAPITAL LETTER O WITH LOOPbSMALLq",
     "bCAPITAL LETTER OObSMALLobCAPITAL LETTER P WITH STROKE THROUGH DESCENDERbSMALLs",
     "bCAPITAL LETTER P WITH FLOURISHbSMALLqbCAPITAL LETTER P WITH SQUIRREL TAILbSMALLr",
     "bCAPITAL LETTER Q WITH STROKE THROUGH DESCENDERbSMALLsbCAPITAL LETTER Q WITH DIAGONAL STROKE",
     "bSMALLrbCAPITAL LETTER R ROTUNDAbSMALLpbCAPITAL LETTER RUMnbSMALLp",
     "bCAPITAL LETTER V WITH DIAGONAL STROKEbSMALLrbCAPITAL LETTER VYbSMALLo",
     "bCAPITAL LETTER VISIGOTHIC ZbSMALLpbCAPITAL LETTER THORN WITH STROKEbSMALLq",
     "bCAPITAL LETTER THORN WITH STROKE THROUGH DESCENDERbSMALLsbCAPITAL LETTER VENDbSMALLo",
     "bCAPITAL LETTER ETbSMALLobCAPITAL LETTER ISbSMALLobCAPITAL LETTER CONbSMALLo",
     "aMODIFIER LETTER USaLATIN SMALL LETTER DUMdLUMdMUMdNUMdRUMbLETTER SMALL CAPITALn",
     "bSMALL LETTER TUMdUMbCAPITAL LETTER INSULAR DbSMALLpbCAPITAL LETTER INSULAR FbSMALLp",
     "bCAPITAL LETTER INSULAR GdTURNEDobSMALLqbCAPITAL LETTER TURNED LbSMALLp",
     "bCAPITAL LETTER INSULAR RbSMALLpbCAPITAL LETTER INSULAR SbSMALLpbCAPITAL LETTER INSULAR T",
     "bSMALLpaMODIFIER LETTER LOW CIRCUMFLEX ACCENTcCOLONcSHORT EQUALS SIGN",
     "aLATIN CAPITAL LETTER SALTILLObSMALLobCAPITAL LETTER TURNED H",
     "bSMALL LETTER L WITH RETROFLEX HOOK AND BELTbLETTER SINOLOGICAL DOT",
     "bCAPITAL LETTER N WITH DESCENDERbSMALLqbCAPITAL LETTER C WITH BARbSMALLqfPALATAL HOOKdHp",
     "bCAPITAL LETTER B WITH FLOURISHbSMALLqbCAPITAL LETTER F WITH STROKEbSMALLq",
     "bCAPITAL LETTER VOLAPUK AEbSMALLpbCAPITAL LETTER VOLAPUK OEbSMALLpbCAPITAL LETTER VOLAPUK UE",
     "bSMALLpbCAPITAL LETTER G WITH OBLIQUE STROKEbSMALLrbCAPITAL LETTER KpbSMALLr",
     "bCAPITAL LETTER NpbSMALLrbCAPITAL LETTER RpbSMALLrbCAPITAL LETTER SpbSMALLr",
     "bCAPITAL LETTER H WITH HOOKdREVERSED OPEN EdSCRIPT GdL WITH BELTdSMALL CAPITAL I",
     "bLETTER SMALL CAPITAL QbCAPITAL LETTER TURNED KeTdJ WITH CROSSED-TAILdCHIdBETAbSMALLo",
     "bCAPITAL LETTER OMEGAbSMALLobCAPITAL LETTER U WITH STROKEbSMALLqbCAPITAL LETTER GLOTTAL A",
     "bSMALLpbCAPITAL LETTER GLOTTAL IbSMALLpbCAPITAL LETTER GLOTTAL UbSMALLp",
     "bCAPITAL LETTER OLD POLISH ObSMALLqbCAPITAL LETTER ANGLICANA WbSMALLp",
     "bCAPITAL LETTER C WITH PALATAL HOOKdS WITHndZ WITH PALATALndD WITH SHORT STROKE OVERLAY",
     "bSMALLsbCAPITAL LETTER SqbSMALLs"]⟩,
   ⟨0xA7D0, ["aLATIN CAPITAL LETTER CLOSED INSULAR GbSMALLq"]⟩,
   ⟨0xA7D3, ["aLATIN SMALL LETTER DOUBLE THORN"]⟩,
   ⟨0xA7D5, ["aLATIN SMALL LETTER DOUBLE WYNNbCAPITAL LETTER MIDDLE SCOTS SbSMALLq",
     "bCAPITAL LETTER SIGMOIDnbSMALLp"]⟩,
   ⟨0xA7F2, ["aMODIFIER LETTER CAPITAL CdFdQaLATIN CAPITAL LETTER REVERSED HALF HbSMALLq",
     "bEPIGRAPHIC LETTER SIDEWAYS IaMODIFIER LETTER CAPITAL H WITH STROKEcSMALL LIGATURE OE",
     "aLATIN LETTER SMALL CAPITAL TURNED MbEPIGRAPHIC LETTER REVERSED FePdINVERTED MdI LONGA",
     "dARCHAIC MaSYLOTI NAGRI LETTER AdIcSIGN DVISVARAcLETTER UdEdOcSIGN HASANTAcLETTER KOdKHOdGO",
     "dGHOcSIGN ANUSVARAcLETTER COdCHOdJOdJHOdTTOdTTHOdDDOdDDHOdTOdTHOdDOdDHOdNOdPOdPHOdBOdBHOdMO",
     "dROdLOdRROdSOdHOcVOWEL SIGN AeIeUeEeOOcPOETRY MARK-1dMARK-2dMARK-3dMARK-4",
     "cSIGN ALTERNATE HASANTA"]⟩,
   ⟨0xA830, ["aNORTH INDIC FRACTION ONE QUARTEReHALFdTHREE QUARTERSdONE SIXTEENTHeEIGHTH",
     "dTHREE SIXTEENTHScQUARTER MARKcPLACEHOLDERncRUPEEncQUANTITYn"]⟩,
   ⟨0xA840, ["aPHAGS-PA LETTER KAcKHAcGAcNGAcCAcCHAcJAcNYAcTAcTHAcDAcNAcPAcPHAcBAcMAcTSAcTSHAcDZA",
     "cWAcZHAcZAcSMALL AcYAcRAcLAcSHAcSAcHAcAcIcUcEcOcQAcXAcFAcGGAcEEbSUBJOINED LETTER WAdYA",
     "bLETTER TTAcTTHAcDDAcNNAcALTERNATE YAcVOICELESS SHAcVOICED HAcASPIRATED FA",
     "bSUBJOINED LETTER RAbSUPERFIXEDobLETTER CANDRABINDUbSINGLE HEAD MARKbDOUBLEobMARK SHAD",
     "cDOUBLEn"]⟩,
   ⟨0xA880, ["aSAURASHTRA SIGN ANUSVARAcVISARGAbLETTER AcAAcIcIIcUcUUcVOCALIC RdRRdLdLLcEcEEcAIcO",
     "cOOcAUcKAcKHAcGAcGHAcNGAcCAcCHAcJAcJHAcNYAcTTAcTTHAcDDAcDDHAcNNAcTAcTHAcDAcDHAcNAcPAcPHAcBA",
     "cBHAcMAcYAcRAcLAcVAcSHAcSSAcSAcHAcLLAbCONSONANT SIGN HAARUbVOWEL SIGN AAdIdIIdUdUUdVOCALIC R",
     "eRReLeLLdEdEEdAIdOdOOdAUbSIGN VIRAMAcCANDRABINDU"]⟩,
   ⟨0xA8CE, ["aSAURASHTRA DANDAbDOUBLEnbDIGIT ZEROcONEcTWOcTHREEcFOURcFIVEcSIXcSEVENcEIGHTcNINE"]⟩,
   ⟨0xA8E0, ["aCOMBINING DEVANAGARI DIGIT ZEROdONEdTWOdTHREEdFOURdFIVEdSIXdSEVENdEIGHTdNINE",
     "cLETTER AdUdKAdNAdPAdRAdVIcSIGN AVAGRAHAaDEVANAGARI SIGN SPACING CANDRABINDU",
     "cCANDRABINDU VIRAMAcDOUBLEocCANDRABINDU TWOdTHREEdAVAGRAHAcPUSHPIKAbGAP FILLERbCARET",
     "bHEADSTROKEbSIGN SIDDHAMbJAIN OMbLETTER AYbVOWEL SIGNnaKAYAH LI DIGIT ZEROdONEdTWOdTHREE",
     "dFOURdFIVEdSIXdSEVENdEIGHTdNINEcLETTER KAdKHAdGAdNGAdSAdSHAdZAdNYAdTAdHTAdNAdPAdPHAdMAdDAdBA",
     "dRAdYAdLAdWAdTHAdHAdVAdCAdAdOEdIdOOcVOWEL UEdEdUdEEdOcTONE PLOPHUdCALYAePLOPHUcSIGN CWIdSHYA",
     "aREJANG LETTER KAcGAcNGAcTAcDAcNAcPAcBAcMAcCAcJAcNYAcSAcRAcLAcYAcWAcHAcMBAcNGGAcNDAcNYJAcA",
     "bVOWEL SIGN IdUdEdAIdOdAUdEUdEAbCONSONANT SIGN NGdNdRdHbVIRAMA"]⟩,
   ⟨0xA95F, ["aREJANG SECTION MARKaHANGUL CHOSEONG TIKEUT-MIEUMcTIKEUT-PIEUPcTIKEUT-SIOS",
     "cTIKEUT-CIEUCcRIEUL-KIYEOKcRIEUL-SSANGKIYEOKcRIEUL-TIKEUTcRIEUL-SSANGTIKEUTcRIEUL-MIEUM",
     "cRIEUL-PIEUPcRIEUL-SSANGPIEUPcRIEUL-KAPYEOUNPIEUPcRIEUL-SIOScRIEUL-CIEUCcRIEUL-KHIEUKH",
     "cMIEUM-KIYEOKcMIEUM-TIKEUTcMIEUM-SIOScPIEUP-SIOS-THIEUTHcPIEUP-KHIEUKHcPIEUP-HIEUH",
     "cSSANGSIOS-PIEUPcIEUNG-RIEULcIEUNG-HIEUHcSSANGCIEUC-HIEUHcSSANGTHIEUTHcPHIEUPH-HIEUH",
     "cHIEUH-SIOScSSANGYEORINHIEUH"]⟩,
   ⟨0xA980, ["aJAVANESE SIGN PANYANGGAcCECAKcLAYARcWIGNYANbLETTER AcI KAWIdcIIcUcPA CEREK",
     "cNGA LELETeRASWADIcEcAIcOcKAdSASAKdMURDAcGAdMURDAcNGAcCAdMURDAcJAcNYA MURDAcJA MAHAPRANAcNYA",
     "cTTAdMAHAPRANAcDDAdMAHAPRANAcNA MURDAcTAdMURDAcDAdMAHAPRANAcNAcPAdMURDAcBAdMURDAcMAcYAcRA",
     "dAGUNGcLAcWAcSA MURDAdMAHAPRANAdcHAbSIGN CECAK TELUbVOWEL SIGN TARUNGdTOLONGdWULUeMELIKdSUKU",
     "eMENDUTdTALINGdDIRGA MUREdPEPETbCONSONANT SIGN KERETdPENGKALdCAKRAbPANGKONbLEFT RERENGGAN",
     "bRIGHTnbPADA ANDAPcMADYAcLUHURcWINDUcPANGKATcLINGSAcLUNGSIcADEGdADEGcPISELEHbTURNEDo"]⟩,
   ⟨0xA9CF, ["aJAVANESE PANGRANGKEPbDIGIT ZEROcONEcTWOcTHREEcFOURcFIVEcSIXcSEVENcEIGHTcNINE"]⟩,
   ⟨0xA9DE, ["aJAVANESE PADA TIRTA TUMETEScISEN-ISENaMYANMAR LETTER SHAN GHAdCHAdJHAdNNAdBHA",
     "bSIGN SHAN SAWbMODIFIER LETTER SHAN REDUPLICATIONbLETTER TAI LAING NYAeFAeGAeGHAeJAeJHAeDDA",
     "eDDHAeNNAbTAI LAING DIGIT ZEROeONEeTWOeTHREEeFOUReFIVEeSIXeSEVENeEIGHTeNINE",
     "bLETTER TAI LAING LLAeDAeDHAeBAeBHA"]⟩,
   ⟨0xAA00, ["aCHAM LETTER AcIcUcEcAIcOcKAcKHAcGAcGHAcNGUEcNGAcCHAcCHHAcJAcJHAcNHUEcNHAcNHJAcTA",
     "cTHAcDAcDHAcNUEcNAcDDAcPAcPPAcPHAcBAcBHAcMUEcMAcBBAcYAcRAcLAcVAcSSAcSAcHAbVOWEL SIGN AAdIdII",
     "dEIdUdOEdOdAIdAUdUEbCONSONANT SIGN YAdRAdLAdWA"]⟩,
   ⟨0xAA40, ["aCHAM LETTER FINAL KdGdNGbCONSONANT SIGNobLETTER FINAL CHdTdNdPdYdRdLdSS",
     "bCONSONANT SIGN FINAL MeH"]⟩,
   ⟨0xAA50, ["aCHAM DIGIT ZEROcONEcTWOcTHREEcFOURcFIVEcSIXcSEVENcEIGHTcNINE"]⟩,
   ⟨0xAA5C, ["aCHAM PUNCTUATION SPIRALcDANDAcDOUBLEncTRIPLEnaMYANMAR LETTER KHAMTI GAdCAdCHAdJA",
     "dJHAdNYAdTTAdTTHAdDDAdDDHAdDHAdNAdSAdHAdHHAdFAbMODIFIER LETTER KHAMTI REDUPLICATION",
     "bLETTER KHAMTI XAdZAdRAbLOGOGRAM KHAMTI OAYdQNdHMbSYMBOL AITON EXCLAMATIONdONEdTWO",
     "bLETTER AITON RAbSIGN PAO KAREN TONEcTAI LAING TONE-2eTONE-5bLETTER SHWE PALAUNG CHAeSHA",
     "aTAI VIET LETTER LOW KOdHIGHndLOW KHOdHIGHndLOW KHHOdHIGHndLOW GOdHIGHndLOW NGOdHIGHndLOW CO",
     "dHIGHndLOW CHOdHIGHndLOW SOdHIGHndLOW NYOdHIGHndLOW DOdHIGHndLOW TOdHIGHndLOW THOdHIGHn",
     "dLOW NOdHIGHndLOW BOdHIGHndLOW POdHIGHndLOW PHOdHIGHndLOW FOdHIGHndLOW MOdHIGHndLOW YOdHIGHn",
     "dLOW ROdHIGHndLOW LOdHIGHndLOW VOdHIGHndLOW HOdHIGHndLOW OdHIGHncMAI KANGcVOWEL AAdIdUEdUdE",
     "dOcMAI KHITcVOWEL IAdUEAdUAdAUEdAYdANdAMcTONE MAI EKeNUENGeTHOeSONG"]⟩,
   ⟨0xAADB, ["aTAI VIET SYMBOL KONdNUENGdSAMdHO HOIdKOI KOIaMEETEI MAYEK LETTER EdOdCHAdNYAdTTA",
     "dTTHAdDDAdDDHAdNNAdSHAdSSAcVOWEL SIGN IIeUUeAAIeAUeAAUcCHEIKHANcAHANG KHUDAMcANJI",
     "cSYLLABLE REPETITION MARKcWORDocVOWEL SIGN VISARGAcVIRAMA"]⟩,
   ⟨0xAB01, ["aETHIOPIC SYLLABLE TTHUcTTHIcTTHAAcTTHEEcTTHEcTTHO"]⟩,
   ⟨0xAB09, ["aETHIOPIC SYLLABLE DDHUcDDHIcDDHAAcDDHEEcDDHEcDDHO"]⟩,
   ⟨0xAB11, ["aETHIOPIC SYLLABLE DZUcDZIcDZAAcDZEEcDZEcDZO"]⟩,
   ⟨0xAB20, ["aETHIOPIC SYLLABLE CCHHAcCCHHUcCCHHIcCCHHAAcCCHHEEcCCHHEcCCHHO"]⟩,
   ⟨0xAB28, ["aETHIOPIC SYLLABLE BBAcBBUcBBIcBBAAcBBEEcBBEcBBO"]⟩,
   ⟨0xAB30, ["aLATIN SMALL LETTER BARRED ALPHAdA REVERSED-SCHWAdBLACKLETTER EdBARREDn",
     "dE WITH FLOURISHdLENIS FdSCRIPT G WITH CROSSED-TAILdL WITH INVERTED LAZY S",
     "fDOUBLE MIDDLE TILDEfMIDDLE RINGdM WITH CROSSED-TAILdNodENGodBLACKLETTER OfWITH STROKEdOPENp",
     "dINVERTED OEdTURNED OE WITH STROKEgHORIZONTALneO OPEN-OgWITH STROKEdSTIRRUP R",
     "bLETTER SMALL CAPITAL R WITH RIGHT LEGbSMALL LETTER R WITHOUT HANDLEdDOUBLE R",
     "dR WITH CROSSED-TAILdDOUBLEpdSCRIPT RfWITH RINGdBASELINE ESHdU WITH SHORT RIGHT LEGeBARqdUI",
     "dTURNEDndU WITH LEFT HOOKdCHIeWITH LOW RIGHT RINGgLEFT SERIFdX WITH LOW RIGHT RING",
     "fLONG LEFT LEGiAND LOW RIGHT RINGiWITH SERIFdY WITH SHORT RIGHT LEG",
     "aMODIFIER BREVE WITH INVERTED BREVEbLETTER SMALL HENGdL WITH INVERTED LAZY SfMIDDLE TILDE",
     "dU WITH LEFT HOOKaLATIN SMALL LETTER SAKHA YATdIOTIFIED EdOPEN OEdUOdINVERTED ALPHA",
     "aGREEK LETTER SMALL CAPITAL OMEGAaLATIN SMALL LETTER DZ DIGRAPH WITH RETROFLEX HOOKdTSq",
     "dTURNED R WITH MIDDLE TILDEaMODIFIER LETTER SMALL TURNED WcLEFT TACKcRIGHTn"]⟩,
   ⟨0xAB70, ["aCHEROKEE SMALL LETTER AdEdIdOdUdVdGAdKAdGEdGIdGOdGUdGVdHAdHEdHIdHOdHUdHVdLAdLEdLI",
     "dLOdLUdLVdMAdMEdMIdMOdMUdNAdHNAdNAHdNEdNIdNOdNUdNVdQUAdQUEdQUIdQUOdQUUdQUVdSAdSdSEdSIdSOdSU",
     "dSVdDAdTAdDEdTEdDIdTIdDOdDUdDVdDLAdTLAdTLEdTLIdTLOdTLUdTLVdTSAdTSEdTSIdTSOdTSUdTSVdWAdWEdWI",
     "dWOdWUdWVdYAaMEETEI MAYEK LETTER KOKdSAMdLAIdMITdPAdNAdCHILdTILdKHOUdNGOUdTHOUdWAIdYANGdHUK",
     "dUNdIdPHAMdATIYAdGOKdJHAMdRAIdBAdJILdDILdGHOUdDHOUdBHAMdKOK LONSUMdLAIndMITndPAndNAndTILn",
     "dNGOUndIncVOWEL SIGN ONAPeINAPeANAPeYENAPeSOUNAPeUNAPeCHEINAPeNUNGcCHEIKHEIcLUM IYEKcAPUNn"]⟩,
   ⟨0xABF0, ["aMEETEI MAYEK DIGIT ZEROdONEdTWOdTHREEdFOURdFIVEdSIXdSEVENdEIGHTdNINE"]⟩,
   ⟨0xD7B0, ["aHANGUL JUNGSEONG O-YEOcO-O-IcYO-AcYO-AEcYO-EOcU-YEOcU-I-IcYU-AEcYU-OcEU-AcEU-EO",
     "cEU-EcEU-OcI-YA-OcI-YAEcI-YEOcI-YEcI-O-IcI-YOcI-YUcI-IcARAEA-AcARAEA-E"]⟩,
   ⟨0xD7CB, ["aHANGUL JONGSEONG NIEUN-RIEULcNIEUN-CHIEUCHcSSANGTIKEUTcSSANGTIKEUT-PIEUP",
     "cTIKEUT-PIEUPcTIKEUT-SIOScTIKEUT-SIOS-KIYEOKcTIKEUT-CIEUCcTIKEUT-CHIEUCHcTIKEUT-THIEUTH",
     "cRIEUL-SSANGKIYEOKcRIEUL-KIYEOK-HIEUHcSSANGRIEUL-KHIEUKHcRIEUL-MIEUM-HIEUH",
     "cRIEUL-PIEUP-TIKEUTcRIEUL-PIEUP-PHIEUPHcRIEUL-YESIEUNGcRIEUL-YEORINHIEUH-HIEUHcKAPYEOUNRIEUL",
     "cMIEUM-NIEUNcMIEUM-SSANGNIEUNcSSANGMIEUMcMIEUM-PIEUP-SIOScMIEUM-CIEUCcPIEUP-TIKEUT",
     "cPIEUP-RIEUL-PHIEUPHcPIEUP-MIEUMcSSANGPIEUPcPIEUP-SIOS-TIKEUTcPIEUP-CIEUCcPIEUP-CHIEUCH",
     "cSIOS-MIEUMcSIOS-KAPYEOUNPIEUPcSSANGSIOS-KIYEOKcSSANGSIOS-TIKEUTcSIOS-PANSIOScSIOS-CIEUC",
     "cSIOS-CHIEUCHcSIOS-THIEUTHcSIOS-HIEUHcPANSIOS-PIEUPcPANSIOS-KAPYEOUNPIEUPcYESIEUNG-MIEUM",
     "cYESIEUNG-HIEUHcCIEUC-PIEUPcCIEUC-SSANGPIEUPcSSANGCIEUCcPHIEUPH-SIOScPHIEUPH-THIEUTH"]⟩,
   ⟨0xFB00, ["aLATIN SMALL LIGATURE FFdFIdFLdFFIdFFLdLONG S TdST"]⟩,
   ⟨0xFB13, ["aARMENIAN SMALL LIGATURE MEN NOWeECHeINIdVEW NOWdMEN XEH"]⟩,
   ⟨0xFB1D, ["aHEBREW LETTER YOD WITH HIRIQbPOINT JUDEO-SPANISH VARIKA",
     "bLIGATURE YIDDISH YOD YOD PATAHbLETTER ALTERNATIVE AYINcWIDE ALEFdDALETdHEdKAFdLAMED",
     "dFINAL MEMdRESHdTAVcALTERNATIVE PLUS SIGNcSHIN WITH SHIN DOTeSINneDAGESH AND SHINngSINn",
     "cALEF WITH PATAHeQAMATSeMAPIQcBET WITH DAGESHcGIMELocDALETocHE WITH MAPIQcVAV WITH DAGESH",
     "cZAYINo"]⟩,
   ⟨0xFB38, ["aHEBREW LETTER TET WITH DAGESHcYODocFINAL KAFocpcLAMEDo"]⟩,
   ⟨0xFB3E, ["aHEBREW LETTER MEM WITH DAGESH"]⟩,
   ⟨0xFB40, ["aHEBREW LETTER NUN WITH DAGESHcSAMEKHo"]⟩,
   ⟨0xFB43, ["aHEBREW LETTER FINAL PE WITH DAGESHcp"]⟩,
   ⟨0xFB46, ["aHEBREW LETTER TSADI WITH DAGESHcQOFocRESHocSHINocTAVocVAV WITH HOLAMcBET WITH RAFE",
     "cKAFocPEobLIGATURE ALEF LAMEDaARABIC LETTER ALEF WASLA ISOLATED FORMeFINALncBEEH ISOLATEDn",
     "dFINALndINITIALndMEDIALncPEH ISOLATEDndFINALndINITIALndMEDIALncBEHEH ISOLATEDndFINALn",
     "dINITIALndMEDIALncTTEHEH ISOLATEDndFINALndINITIALndMEDIALncTEHEH ISOLATEDndFINALndINITIALn",
     "dMEDIALncTTEH ISOLATEDndFINALndINITIALndMEDIALncVEH ISOLATEDndFINALndINITIALndMEDIALn",
     "cPEHEH ISOLATEDndFINALndINITIALndMEDIALncDYEH ISOLATEDndFINALndINITIALndMEDIALn",
     "cNYEH ISOLATEDndFINALndINITIALndMEDIALncTCHEH ISOLATEDndFINALndINITIALndMEDIALn",
     "cTCHEHEH ISOLATEDndFINALndINITIALndMEDIALncDDAHAL ISOLATEDndFINALncDAHAL ISOLATEDndFINALn",
     "cDUL ISOLATEDndFINALncDDAL ISOLATEDndFINALncJEH ISOLATEDndFINALncRREH ISOLATEDndFINALn",
     "cKEHEH ISOLATEDndFINALndINITIALndMEDIALncGAF ISOLATEDndFINALndINITIALndMEDIALn",
     "cGUEH ISOLATEDndFINALndINITIALndMEDIALncNGOEH ISOLATEDndFINALndINITIALndMEDIALn",
     "cNOON GHUNNA ISOLATEDneFINALncRNOON ISOLATEDndFINALndINITIALndMEDIALn",
     "cHEH WITH YEH ABOVE ISOLATEDngFINALndGOAL ISOLATEDneFINALneINITIALneMEDIALn",
     "dDOACHASHMEE ISOLATEDneFINALneINITIALneMEDIALncYEH BARREE ISOLATEDneFINALn",
     "eWITH HAMZA ABOVE ISOLATEDnhFINALnbSYMBOL DOT ABOVEdBELOWcTWO DOTS ABOVEeBELOW",
     "cTHREE DOTS ABOVEeBELOWePOINTING DOWNWARDS ABOVEgBELOWcFOUR DOTS ABOVEeBELOW",
     "cDOUBLE VERTICAL BARncTWO DOTS VERTICALLY ABOVEfBELOWcRINGcSMALL TAH ABOVEeBELOW",
     "cWASLA ABOVE"]⟩,
   ⟨0xFBD3, ["aARABIC LETTER NG ISOLATED FORMdFINALndINITIALndMEDIALncU ISOLATEDndFINALn",
     "cOE ISOLATEDndFINALncYU ISOLATEDndFINALncU WITH HAMZA ABOVE ISOLATEDncVEodFINALn",
     "cKIRGHIZ OE ISOLATEDneFINALndYU ISOLATEDneFINALncE ISOLATEDndFINALndINITIALndMEDIALn",
     "cUIGHUR KAZAKH KIRGHIZ ALEF MAKSURA INITIALnhMEDIALn",
     "bLIGATURE YEH WITH HAMZA ABOVE WITH ALEF ISOLATEDniFINALnhAE ISOLATEDniFINALnhWAW ISOLATEDn",
     "iFINALnhU ISOLATEDniFINALnhOE ISOLATEDniFINALnhYU ISOLATEDniFINALnhE ISOLATEDniFINALn",
     "iINITIALncUIGHUR KIRGHIZ YEH WITH HAMZA ABOVE WITH ALEF MAKSURA ISOLATEDnlFINALnlINITIALn",
     "bLETTER FARSI YEH ISOLATEDneFINALneINITIALneMEDIALn",
     "bLIGATURE YEH WITH HAMZA ABOVE WITH JEEM ISOLATEDnhHAHohMEEMohALEF MAKSURAohYEHo",
     "cBEH WITH JEEMoeHAHoeKHAHoeMEEMoeALEF MAKSURAoeYEHocTEH WITH JEEMoeHAHoeKHAHoeMEEMo",
     "eALEF MAKSURAoeYEHocTHEH WITH JEEMoeMEEMoeALEF MAKSURAoeYEHocJEEM WITH HAHoeMEEMo",
     "cHAH WITH JEEMoeMEEMocKHAH WITH JEEMoeHAHoeMEEMocSEEN WITH JEEMoeHAHoeKHAHoeMEEMo",
     "cSAD WITH HAHoeMEEMocDAD WITH JEEMoeHAHoeKHAHoeMEEMocTAH WITH HAHoeMEEMocZAHqcAIN WITH JEEMo",
     "eMEEMocGHAIN WITH JEEMoeMEEMocFEH WITH JEEMoeHAHoeKHAHoeMEEMoeALEF MAKSURAoeYEHo",
     "cQAF WITH HAHoeMEEMoeALEF MAKSURAoeYEHocKAF WITH ALEFoeJEEMoeHAHoeKHAHoeLAMoeMEEMo",
     "eALEF MAKSURAoeYEHocLAM WITH JEEMoeHAHoeKHAHoeMEEMoeALEF MAKSURAoeYEHocMEEM WITH JEEMoeHAHo",
     "eKHAHoeMEEMoeALEF MAKSURAoeYEHocNOON WITH JEEMoeHAHoeKHAHoeMEEMoeALEF MAKSURAoeYEHo",
     "cHEH WITH JEEMoeMEEMoeALEF MAKSURAoeYEHocYEH WITH JEEMoeHAHoeKHAHoeMEEMoeALEF MAKSURAoeYEHo",
     "cTHAL WITH SUPERSCRIPT ALEFocREHrcALEF MAKSURArcSHADDA WITH DAMMATANoeKASRATANoeFATHAo",
     "eDAMMAoeKASRAoeSUPERSCRIPT ALEFocYEH WITH HAMZA ABOVE WITH REH FINALnhZAINohMEEMohNOONo",
     "hALEF MAKSURAohYEHocBEH WITH REHoeZAINoeMEEMoeNOONoeALEF MAKSURAoeYEHocTEH WITH REHoeZAINo",
     "eMEEMoeNOONoeALEF MAKSURAoeYEHocTHEH WITH REHoeZAINoeMEEMoeNOONoeALEF MAKSURAoeYEHo",
     "cFEH WITH ALEF MAKSURAoeYEHocQAF WITH ALEF MAKSURAoeYEHocKAF WITH ALEFoeLAMoeMEEMo",
     "eALEF MAKSURAoeYEHocLAM WITH MEEMoeALEF MAKSURAoeYEHocMEEM WITH ALEFoeMEEMocNOON WITH REHo",
     "eZAINoeMEEMoeNOONoeALEF MAKSURAoeYEHocALEF MAKSURA WITH SUPERSCRIPT ALEFocYEH WITH REHo",
     "eZAINoeMEEMoeNOONoeALEF MAKSURAoeYEHoeHAMZA ABOVE WITH JEEM INITIALnhHAHohKHAHohMEEMohHEHo",
     "cBEH WITH JEEMoeHAHoeKHAHoeMEEMoeHEHocTEH WITH JEEMoeHAHoeKHAHoeMEEMoeHEHocTHEH WITH MEEMo",
     "cJEEM WITH HAHoeMEEMocHAH WITH JEEMoeMEEMocKHAH WITH JEEMoeMEEMocSEEN WITH JEEMoeHAHoeKHAHo",
     "eMEEMocSAD WITH HAHoeKHAHoeMEEMocDAD WITH JEEMoeHAHoeKHAHoeMEEMocTAH WITH HAHo",
     "cZAH WITH MEEMocAIN WITH JEEMoeMEEMocGHAIN WITH JEEMoeMEEMocFEH WITH JEEMoeHAHoeKHAHoeMEEMo",
     "cQAF WITH HAHoeMEEMocKAF WITH JEEMoeHAHoeKHAHoeLAMoeMEEMocLAM WITH JEEMoeHAHoeKHAHoeMEEMo",
     "eHEHocMEEM WITH JEEMoeHAHoeKHAHoeMEEMocNOON WITH JEEMoeHAHoeKHAHoeMEEMoeHEHocHEH WITH JEEMo",
     "eMEEMoeSUPERSCRIPT ALEFocYEH WITH JEEMoeHAHoeKHAHoeMEEMoeHEHoeHAMZA ABOVE WITH MEEM MEDIALn",
     "hHEHocBEH WITH MEEMoeHEHocTEH WITH MEEMoeHEHocTHEH WITH MEEMoeHEHocSEEN WITH MEEMoeHEHo",
     "cSHEEN WITH MEEMoeHEHocKAF WITH LAMoeMEEMocLAMqcNOONqeHEHocYEH WITH MEEMoeHEHo",
     "cSHADDA WITH FATHAoeDAMMAoeKASRAocTAH WITH ALEF MAKSURA ISOLATEDneYEHo",
     "cAIN WITH ALEF MAKSURAoeYEHocGHAIN WITH ALEF MAKSURAoeYEHocSEEN WITH ALEF MAKSURAoeYEHo",
     "cSHEEN WITH ALEF MAKSURAoeYEHocHAH WITH ALEF MAKSURAoeYEHocJEEM WITH ALEF MAKSURAoeYEHo",
     "cKHAH WITH ALEF MAKSURAoeYEHocSAD WITH ALEF MAKSURAoeYEHocDAD WITH ALEF MAKSURAoeYEHo",
     "cSHEEN WITH JEEMoeHAHoeKHAHoeMEEMoeREHocSEENqcSADqcDADqcTAH WITH ALEF MAKSURA FINALneYEHo",
     "cAIN WITH ALEF MAKSURAoeYEHocGHAIN WITH ALEF MAKSURAoeYEHocSEEN WITH ALEF MAKSURAoeYEHo",
     "cSHEEN WITH ALEF MAKSURAoeYEHocHAH WITH ALEF MAKSURAoeYEHocJEEM WITH ALEF MAKSURAoeYEHo",
     "cKHAH WITH ALEF MAKSURAoeYEHocSAD WITH ALEF MAKSURAoeYEHocDAD WITH ALEF MAKSURAoeYEHo",
     "cSHEEN WITH JEEMoeHAHoeKHAHoeMEEMoeREHocSEENqcSADqcDADqcSHEEN WITH JEEM INITIALneHAHoeKHAHo",
     "eMEEMocSEEN WITH HEHocSHEENqcTAH WITH MEEMocSEEN WITH JEEM MEDIALneHAHoeKHAHo",
     "cSHEEN WITH JEEMoeHAHoeKHAHocTAH WITH MEEMocZAHqcALEF WITH FATHATAN FINALnfISOLATEDn",
     "aORNATE LEFT PARENTHESISbRIGHTnaARABIC LIGATURE RAHIMAHU ALLAAHcRADI ALLAAHU ANHeANHAAeANHUM",
     "eANHUMAAeANHUNNAcSALLALLAAHU ALAYHI WA-AALIHcALAYHI AS-SALAAMcALAYHIMncALAYHIMAAn",
     "cALAYHI AS-SALAATU WAS-SALAAMcQUDDISA SIRRAHcSALLALLAHU ALAYHI WAAALIHEE WA-SALLAM",
     "cALAYHAA AS-SALAAMcTABAARAKA WA-TAAALAAcRAHIMAHUM ALLAAH",
     "cTEH WITH JEEM WITH MEEM INITIAL FORMeHAH WITH JEEM FINALnhINITIALngMEEMoeKHAHq",
     "eMEEM WITH JEEMogHAHogKHAHocJEEM WITH MEEM WITH HAH FINALnhINITIALn",
     "cHAH WITH MEEM WITH YEH FINALngALEF MAKSURAocSEEN WITH HAH WITH JEEM INITIALneJEEM WITH HAHo",
     "gALEF MAKSURA FINALneMEEM WITH HAHohINITIALngJEEMogMEEM FINALnhINITIALn",
     "cSAD WITH HAH WITH HAH FINALnhINITIALneMEEM WITH MEEM FINALncSHEEN WITH HAHqhINITIALn",
     "eJEEM WITH YEH FINALneMEEM WITH KHAHohINITIALngMEEM FINALnhINITIALn",
     "cDAD WITH HAH WITH ALEF MAKSURA FINALneKHAH WITH MEEMohINITIALn",
     "cTAH WITH MEEM WITH HAH FINALnhINITIALngMEEMogYEH FINALncAIN WITH JEEM WITH MEEMoeMEEMq",
     "hINITIALngALEF MAKSURA FINALncGHAIN WITH MEEM WITH MEEMogYEHogALEF MAKSURAo",
     "cFEH WITH KHAH WITH MEEMohINITIALncQAF WITH MEEM WITH HAH FINALngMEEMocLAM WITH HAHqgYEHo",
     "gALEF MAKSURAoeJEEM WITH JEEM INITIALnhFINALneKHAH WITH MEEMohINITIALneMEEM WITH HAH FINALn",
     "hINITIALncMEEM WITH HAH WITH JEEMogMEEMogYEH FINALneJEEM WITH HAH INITIALngMEEMo",
     "eKHAH WITH JEEMogMEEMo"]⟩,
   ⟨0xFD92, ["aARABIC LIGATURE MEEM WITH JEEM WITH KHAH INITIAL FORMcHEH WITH MEEM WITH JEEMo",
     "gMEEMocNOON WITH HAHqgALEF MAKSURA FINALneJEEM WITH MEEMohINITIALngALEF MAKSURA FINALn",
     "eMEEM WITH YEHogALEF MAKSURAocYEH WITH MEEM WITH MEEMohINITIALn",
     "cBEH WITH KHAH WITH YEH FINALncTEH WITH JEEMqgALEF MAKSURAoeKHAH WITH YEHogALEF MAKSURAo",
     "eMEEM WITH YEHogALEF MAKSURAocJEEM WITH MEEM WITH YEHoeHAH WITH ALEF MAKSURAoeMEEMr",
     "cSEEN WITH KHAHrcSAD WITH HAH WITH YEHocSHEENscDADscLAM WITH JEEMqeMEEMqcYEH WITH HAHqeJEEMq",
     "eMEEMqcMEEMscQAFscNOON WITH HAHqcQAF WITH MEEM WITH HAH INITIALncLAM WITH HAH WITH MEEMo",
     "cAIN WITH MEEM WITH YEH FINALncKAFscNOON WITH JEEM WITH HAH INITIALn",
     "cMEEM WITH KHAH WITH YEH FINALncLAM WITH JEEM WITH MEEM INITIALn",
     "cKAF WITH MEEM WITH MEEM FINALncLAM WITH JEEMqcNOON WITH JEEM WITH HAHo",
     "cJEEM WITH HAH WITH YEHocHAH WITH JEEMqcMEEMscFEH WITH MEEMqcBEH WITH HAHq",
     "cKAF WITH MEEM WITH MEEM INITIALncAIN WITH JEEMqcSAD WITH MEEMq",
     "cSEEN WITH KHAH WITH YEH FINALncNOON WITH JEEMq"]⟩,
   ⟨0xFDCF, ["aARABIC LIGATURE SALAAMUHU ALAYNAA"]⟩,
   ⟨0xFDF0, ["aARABIC LIGATURE SALLA USED AS KORANIC STOP SIGN ISOLATED FORMcQALAtcALLAHocAKBARo",
     "cMOHAMMADocSALAMocRASOULocALAYHEocWASALLAMocSALLAocSALLALLAHOU ALAYHE WASALLAM",
     "cJALLAJALALOUHOUaRIAL SIGNaARABIC LIGATURE BISMILLAH AR-RAHMAN AR-RAHEEM",
     "cSUBHAANAHU WA TAAALAAcAZZA WA JALLaVARIATION SELECTOR-1bSELECTOR-2bSELECTOR-3bSELECTOR-4",
     "bSELECTOR-5bSELECTOR-6bSELECTOR-7bSELECTOR-8bSELECTOR-9bSELECTOR-10bSELECTOR-11bSELECTOR-12",
     "bSELECTOR-13bSELECTOR-14bSELECTOR-15bSELECTOR-16aPRESENTATION FORM FOR VERTICAL COMMA",
     "eIDEOGRAPHICnfFULL STOPeCOLONeSEMICOLONeEXCLAMATION MARKeQUESTIONn",
     "eLEFT WHITE LENTICULAR BRACKETeRIGHT WHITE LENTICULAR BRAKCETeHORIZONTAL ELLIPSIS"]⟩,
   ⟨0xFE20, ["aCOMBINING LIGATURE LEFT HALFcRIGHTnbDOUBLE TILDE LEFTndRIGHTnbMACRON LEFTncRIGHTn",
     "bCONJOINING MACRONbLIGATURE LEFT HALF BELOWcRIGHTobTILDE LEFTocRIGHTobMACRON LEFTocRIGHTo",
     "bCONJOINING MACRONnbCYRILLIC TITLO LEFT HALFdRIGHTn",
     "aPRESENTATION FORM FOR VERTICAL TWO DOT LEADEReEM DASHeENneLOW LINEeWAVYoeLEFT PARENTHESIS",
     "eRIGHTneLEFT CURLY BRACKETeRIGHToeLEFT TORTOISE SHELLneRIGHTpeLEFT BLACK LENTICULARneRIGHTp",
     "eLEFT DOUBLE ANGLEneRIGHTpeLEFToeRIGHToeLEFT CORNERneRIGHToeLEFT WHITEoeRIGHTpaSESAME DOT",
     "aWHITEoaPRESENTATION FORM FOR VERTICAL LEFT SQUARE BRACKETeRIGHToaDASHED OVERLINE",
     "aCENTRELINEnaWAVYnaDOUBLEoaDASHED LOW LINEaCENTRELINEoaWAVYoaSMALL COMMAbIDEOGRAPHICn",
     "bFULL STOP"]⟩,
   ⟨0xFE54, ["aSMALL SEMICOLONbCOLONbQUESTION MARKbEXCLAMATIONnbEM DASHbLEFT PARENTHESISbRIGHTn",
     "bLEFT CURLY BRACKETbRIGHTobLEFT TORTOISE SHELLnbRIGHTpbNUMBER SIGNbAMPERSANDbASTERISK",
     "bPLUS SIGNbHYPHEN-MINUSbLESS-THAN SIGNbGREATER-THANnbEQUALSn"]⟩,
   ⟨0xFE68, ["aSMALL REVERSE SOLIDUSbDOLLAR SIGNbPERCENTnbCOMMERCIAL AT"]⟩,
   ⟨0xFE70, ["aARABIC FATHATAN ISOLATED FORMbTATWEEL WITH FATHATAN ABOVEbDAMMATAN ISOLATED FORM",
     "bTAIL FRAGMENTbKASRATAN ISOLATED FORM"]⟩,
   ⟨0xFE76, ["aARABIC FATHA ISOLATED FORMcMEDIALnbDAMMA ISOLATEDncMEDIALnbKASRA ISOLATEDncMEDIALn",
     "bSHADDA ISOLATEDncMEDIALnbSUKUN ISOLATEDncMEDIALnbLETTER HAMZA ISOLATEDn",
     "cALEF WITH MADDA ABOVEogFINALneHAMZA ABOVE ISOLATEDngFINALncWAW WITH HAMZA ABOVE ISOLATEDn",
     "gFINALncALEF WITH HAMZA BELOW ISOLATEDngFINALncYEH WITH HAMZA ABOVE ISOLATEDngFINALn",
     "gINITIALngMEDIALncALEF ISOLATEDndFINALncBEH ISOLATEDndFINALndINITIALndMEDIALn",
     "cTEH MARBUTA ISOLATEDneFINALndISOLATEDndFINALndINITIALndMEDIALncTHEH ISOLATEDndFINALn",
     "dINITIALndMEDIALncJEEM ISOLATEDndFINALndINITIALndMEDIALncHAH ISOLATEDndFINALndINITIALn",
     "dMEDIALncKHAH ISOLATEDndFINALndINITIALndMEDIALncDAL ISOLATEDndFINALncTHAL ISOLATEDndFINALn",
     "cREH ISOLATEDndFINALncZAIN ISOLATEDndFINALncSEEN ISOLATEDndFINALndINITIALndMEDIALn",
     "cSHEEN ISOLATEDndFINALndINITIALndMEDIALncSAD ISOLATEDndFINALndINITIALndMEDIALncDAD ISOLATEDn",
     "dFINALndINITIALndMEDIALncTAH ISOLATEDndFINALndINITIALndMEDIALncZAH ISOLATEDndFINALndINITIALn",
     "dMEDIALncAIN ISOLATEDndFINALndINITIALndMEDIALncGHAIN ISOLATEDndFINALndINITIALndMEDIALn",
     "cFEH ISOLATEDndFINALndINITIALndMEDIALncQAF ISOLATEDndFINALndINITIALndMEDIALncKAF ISOLATEDn",
     "dFINALndINITIALndMEDIALncLAM ISOLATEDndFINALndINITIALndMEDIALncMEEM ISOLATEDndFINALn",
     "dINITIALndMEDIALncNOON ISOLATEDndFINALndINITIALndMEDIALncHEH ISOLATEDndFINALndINITIALn",
     "dMEDIALncWAW ISOLATEDndFINALncALEF MAKSURA ISOLATEDneFINALncYEH ISOLATEDndFINALndINITIALn",
     "dMEDIALnbLIGATURE LAM WITH ALEF WITH MADDA ABOVE ISOLATEDniFINALngHAMZA ABOVE ISOLATEDn",
     "iFINALnhBELOW ISOLATEDniFINALnfISOLATEDnfFINALn"]⟩,
   ⟨0xFEFF, ["aZERO WIDTH NO-BREAK SPACE"]⟩,
   ⟨0xFF01, ["aFULLWIDTH EXCLAMATION MARKbQUOTATIONnbNUMBER SIGNbDOLLARnbPERCENTnbAMPERSAND",
     "bAPOSTROPHEbLEFT PARENTHESISbRIGHTnbASTERISKbPLUS SIGNbCOMMAbHYPHEN-MINUSbFULL STOPbSOLIDUS",
     "bDIGIT ZEROcONEcTWOcTHREEcFOURcFIVEcSIXcSEVENcEIGHTcNINEbCOLONbSEMICOLONbLESS-THAN SIGN",
     "bEQUALSnbGREATER-THANnbQUESTION MARKbCOMMERCIAL ATbLATIN CAPITAL LETTER AeBeCeDeEeFeGeHeIeJ",
     "eKeLeMeNeOePeQeReSeTeUeVeWeXeYeZbLEFT SQUARE BRACKETbREVERSE SOLIDUSbRIGHT SQUARE BRACKET",
     "bCIRCUMFLEX ACCENTbLOW LINEbGRAVE ACCENTbLATIN SMALL LETTER AeBeCeDeEeFeGeHeIeJeKeLeMeNeOeP",
     "eQeReSeTeUeVeWeXeYeZbLEFT CURLY BRACKETbVERTICAL LINEbRIGHT CURLY BRACKETbTILDE",
     "bLEFT WHITE PARENTHESISbRIGHToaHALFWIDTH IDEOGRAPHIC FULL STOPbLEFT CORNER BRACKETbRIGHTo",
     "bIDEOGRAPHIC COMMAbKATAKANA MIDDLE DOTcLETTER WOdSMALL AeIeUeEeOeYAeYUeYOeTU",
     "bKATAKANA-HIRAGANA PROLONGED SOUND MARKbKATAKANA LETTER AdIdUdEdOdKAdKIdKUdKEdKOdSAdSIdSUdSE",
     "dSOdTAdTIdTUdTEdTOdNAdNIdNUdNEdNOdHAdHIdHUdHEdHOdMAdMIdMUdMEdMOdYAdYUdYOdRAdRIdRUdREdROdWAdN",
     "cVOICED SOUND MARKcSEMI-VOICEDobHANGUL FILLERcLETTER KIYEOKdSSANGKIYEOKdKIYEOK-SIOSdNIEUN",
     "dNIEUN-CIEUCdNIEUN-HIEUHdTIKEUTdSSANGTIKEUTdRIEULdRIEUL-KIYEOKdRIEUL-MIEUMdRIEUL-PIEUP",
     "dRIEUL-SIOSdRIEUL-THIEUTHdRIEUL-PHIEUPHdRIEUL-HIEUHdMIEUMdPIEUPdSSANGPIEUPdPIEUP-SIOSdSIOS",
     "dSSANGSIOSdIEUNGdCIEUCdSSANGCIEUCdCHIEUCHdKHIEUKHdTHIEUTHdPHIEUPHdHIEUH"]⟩,
   ⟨0xFFC2, ["aHALFWIDTH HANGUL LETTER AdAEdYAdYAEdEOdE"]⟩,
   ⟨0xFFCA, ["aHALFWIDTH HANGUL LETTER YEOdYEdOdWAdWAEdOE"]⟩,
   ⟨0xFFD2, ["aHALFWIDTH HANGUL LETTER YOdUdWEOdWEdWIdYU"]⟩,
   ⟨0xFFDA, ["aHALFWIDTH HANGUL LETTER EUdYIdI"]⟩,
   ⟨0xFFE0, ["aFULLWIDTH CENT SIGNbPOUNDnbNOTnbMACRONbBROKEN BARbYEN SIGNbWONn"]⟩,
   ⟨0xFFE8, ["aHALFWIDTH FORMS LIGHT VERTICALbLEFTWARDS ARROWbUPWARDSnbRIGHTWARDSnbDOWNWARDSn",
     "bBLACK SQUAREbWHITE CIRCLE"]⟩,
   ⟨0xFFF9, ["aINTERLINEAR ANNOTATION ANCHORcSEPARATORcTERMINATORaOBJECT REPLACEMENT CHARACTERao"]⟩]

end LineMeasure.Text.CharacterName
