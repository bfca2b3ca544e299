import LineMeasure.Text.CharacterName.Basic

/-!
# Names of notations and pictographs

The characters are listed in runs of consecutive code points; `CharacterName.NameRun` says how the
names of a run are written.
-/

namespace LineMeasure.Text.CharacterName

/-- The characters from U+19000 on: music, mathematical letters, sign writing and pictographs. -/
def pictographs : List NameRun :=
  [⟨0x1AFF0, ["aKATAKANA LETTER MINNAN TONE-2dTONE-3dTONE-4dTONE-5"]⟩,
   ⟨0x1AFF5, ["aKATAKANA LETTER MINNAN TONE-7dTONE-8dNASALIZED TONE-1eTONE-2eTONE-3eTONE-4",
     "eTONE-5"]⟩,
   ⟨0x1AFFD, ["aKATAKANA LETTER MINNAN NASALIZED TONE-7eTONE-8"]⟩,
   ⟨0x1B000, ["aKATAKANA LETTER ARCHAIC EaHIRAGANA LETTER ARCHAIC YEaHENTAIGANA LETTER A-1cA-2cA-3",
     "cA-WOcI-1cI-2cI-3cI-4cU-1cU-2cU-3cU-4cU-5cE-2cE-3cE-4cE-5cE-6cO-1cO-2cO-3cKA-1cKA-2cKA-3",
     "cKA-4cKA-5cKA-6cKA-7cKA-8cKA-9cKA-10cKA-11cKA-KEcKI-1cKI-2cKI-3cKI-4cKI-5cKI-6cKI-7cKI-8",
     "cKU-1cKU-2cKU-3cKU-4cKU-5cKU-6cKU-7cKE-1cKE-2cKE-3cKE-4cKE-5cKE-6cKO-1cKO-2cKO-3cKO-KIcSA-1",
     "cSA-2cSA-3cSA-4cSA-5cSA-6cSA-7cSA-8cSI-1cSI-2cSI-3cSI-4cSI-5cSI-6cSU-1cSU-2cSU-3cSU-4cSU-5",
     "cSU-6cSU-7cSU-8cSE-1cSE-2cSE-3cSE-4cSE-5cSO-1cSO-2cSO-3cSO-4cSO-5cSO-6cSO-7cTA-1cTA-2cTA-3",
     "cTA-4cTI-1cTI-2cTI-3cTI-4cTI-5cTI-6cTI-7cTU-1cTU-2cTU-3cTU-4cTU-TOcTE-1cTE-2cTE-3cTE-4cTE-5",
     "cTE-6cTE-7cTE-8cTE-9cTO-1cTO-2cTO-3cTO-4cTO-5cTO-6cTO-RAcNA-1cNA-2cNA-3cNA-4cNA-5cNA-6cNA-7",
     "cNA-8cNA-9cNI-1cNI-2cNI-3cNI-4cNI-5cNI-6cNI-7cNI-TEcNU-1cNU-2cNU-3cNE-1cNE-2cNE-3cNE-4cNE-5",
     "cNE-6cNE-KOcNO-1cNO-2cNO-3cNO-4cNO-5cHA-1cHA-2cHA-3cHA-4cHA-5cHA-6cHA-7cHA-8cHA-9cHA-10",
     "cHA-11cHI-1cHI-2cHI-3cHI-4cHI-5cHI-6cHI-7cHU-1cHU-2cHU-3cHE-1cHE-2cHE-3cHE-4cHE-5cHE-6cHE-7",
     "cHO-1cHO-2cHO-3cHO-4cHO-5cHO-6cHO-7cHO-8cMA-1cMA-2cMA-3cMA-4cMA-5cMA-6cMA-7cMI-1cMI-2cMI-3",
     "cMI-4cMI-5cMI-6cMI-7cMU-1cMU-2cMU-3cMU-4cME-1cME-2cME-MAcMO-1cMO-2cMO-3cMO-4cMO-5cMO-6cYA-1",
     "cYA-2cYA-3cYA-4cYA-5cYA-YOcYU-1cYU-2cYU-3cYU-4cYO-1cYO-2cYO-3cYO-4cYO-5cYO-6cRA-1cRA-2cRA-3",
     "cRA-4cRI-1cRI-2cRI-3cRI-4cRI-5cRI-6cRI-7cRU-1cRU-2cRU-3cRU-4cRU-5cRU-6cRE-1cRE-2cRE-3cRE-4",
     "cRO-1cRO-2cRO-3cRO-4cRO-5cRO-6cWA-1cWA-2cWA-3cWA-4cWA-5cWI-1cWI-2cWI-3cWI-4cWI-5cWE-1cWE-2",
     "cWE-3cWE-4cWO-1cWO-2cWO-3cWO-4cWO-5cWO-6cWO-7cN-MU-MO-1cN-MU-MO-2aHIRAGANA LETTER ARCHAIC WU",
     "aKATAKANA LETTER ARCHAIC YIdYEdWU"]⟩,
   ⟨0x1B150, ["aHIRAGANA LETTER SMALL WIdWEdWO"]⟩,
   ⟨0x1B164, ["aKATAKANA LETTER SMALL WIdWEdWOdN"]⟩,
   ⟨0x1BC00, ["aDUPLOYAN LETTER HcXcPcTcFcKcLcBcDcVcGcRcP NcD ScF NcK McR ScTHcSLOAN DHcncKK",
     "cSLOAN JcHLcLHcRHcMcNcJcScM NcN McJncS JcM WITH DOTcNocJoeDOTS INSIDE AND ABOVEcS WITH DOT",
     "fBELOWcM ScNncJncSncM NncN MncJocS JncJ S WITH DOTdNeScS TeRdPeRcT SdRncWcWHcW RcS NdMcK R S",
     "cGocS KeRcAcSLOAN OWcOAcOcAOUcIcEcIEcSHORT IcUIcEEcSLOAN EHcROMANIAN IcSLOAN EEcLONG IcYEcU",
     "cEUcXWcU NcLONG UcROMANIANncUHcSLOAN UcOOHcOWcOUcWAcWOcWIcWEIcWOWcNASAL UdOdIdAcPERNIN ANdAM",
     "cSLOAN ENdANdONcVOCALIC M"]⟩,
   ⟨0x1BC70, ["aDUPLOYAN AFFIX LEFT HORIZONTAL SECANTcMIDocRIGHTocLOW VERTICALncMIDocHIGHo",
     "cATTACHEDndLEFT-TO-RIGHTndTANGENTdTAILdE HOOKdIndTANGENTn"]⟩,
   ⟨0x1BC80, ["aDUPLOYAN AFFIX HIGH ACUTEdTIGHTndGRAVEdLONGndDOTdCIRCLEdLINEdWAVEdVERTICAL"]⟩,
   ⟨0x1BC90, ["aDUPLOYAN AFFIX LOW ACUTEdTIGHTndGRAVEdLONGndDOTdCIRCLEdLINEdWAVEdVERTICALdARROW"]⟩,
   ⟨0x1BC9C, ["aDUPLOYAN SIGN O WITH CROSSbTHICK LETTER SELECTORbDOUBLE MARK",
     "bPUNCTUATION CHINOOK FULL STOPaSHORTHAND FORMAT LETTER OVERLAPcCONTINUINGncDOWN STEPcUPn"]⟩,
   ⟨0x1CF00, ["aZNAMENNY COMBINING MARK GORAZDO NIZKO S KRYZHEM ON LEFTdrdTSATAodGORAZDO NIZKOodp",
     "dSREDNEodMALO POVYSHEodpdVYSOKOodMALO POVYSHE S KHOKHLOModrdVYSOKOq",
     "dGORAZDO NIZKO S KRYZHEM ON RIGHTdrdTSATAodGORAZDO NIZKOodpdSREDNEodMALO POVYSHEodpdVYSOKOo",
     "dMALO POVYSHE S KHOKHLOModrdVYSOKOqdTSATA S KRYZHEMdMALO POVYSHEodSTRANNO MALO POVYSHE",
     "dPOVYSHE S KRYZHEMeSTRANNOdVYSOKO S KRYZHEMdMALO POVYSHE STRANNOdGORAZDO VYSOKOdZELOdON",
     "dRAVNOdTIKHAYAdBORZAYAdUDARKAdPODVERTKAdLOMKAdKUPNAYAdKACHKAdZEVOKdSKOBAdRAZSEKA",
     "dKRYZH ON LEFT"]⟩,
   ⟨0x1CF30, ["aZNAMENNY COMBINING TONAL RANGE MARK MRACHNOfSVETLOfTRESVETLOcMARK ZADERZHKA",
     "dDEMESTVENNYndOTSECHKAdPODCHASHIEeWITH VERTICAL STROKEdCHASHKAePOLNAYAdOBLACHKO",
     "dSOROCHYA NOZHKAdTOCHKAdDVOETOCHIEcATTACHING VERTICAL OMETcMARK CURVEDndKRYZH",
     "cLOWER TONAL RANGE INDICATORbPRIZNAK MODIFIER LEVEL-2dLEVEL-3dDIRECTION FLIPdKRYZHdROG"]⟩,
   ⟨0x1CF50, ["aZNAMENNY NEUME KRYUKdTIKHYcPARAKLITcDVA V CHELNUcKLYUCHcZANOZHEKcSTOPITSAdS OCHKOM",
     "cPEREVODKAdNEPOSTOYANNAYAcSTOPITSA WITH SOROCHYA NOZHKAcCHELYUSTKAcPALKAcZAPYATAYA",
     "cGOLUBCHIK BORZYdTIKHYdMRACHNYdSVETLYdTRESVETLYcVRAKHIYA PROSTAYAdMRACHNAYAdSVETLAYA",
     "dTRESVETLAYAdKLYUCHEVAYA PROSTAYAeMRACHNAYAeSVETLAYAeTRESVETLAYAcDOUBLE ZAPYATAYA",
     "cREVERSED CHELYUSTKAcDERBITSAcKHAMILOcCHASHKAcPODCHASHIEcSKAMEYTSA MRACHNAYAdSVETLAYA",
     "dTRESVETLAYAdTIKHAYAcDEMESTVENNY KLYUCHcSKAMEYTSA KLYUCHEVAYA SVETLAYAdKLYUCHENEPOSTOYANNAYA",
     "dKLYUCHEVAYA TIKHAYAdDVOECHELNAYA PROSTAYAeSVETLAYAeNEPOSTOYANNAYAeKLYUCHEVAYAcSLOZHITIE",
     "dS ZAPYATOYdZAKRYTOEdS KRYZHEMcKRYZHcROGcFITAcKOBYLAcZMEYTSAcSTATYAdS ZAPYATOYeKRYZHEM",
     "eZAPYATOY IneKRYZHEM I ZAPYATOYdZAKRYTAYAeS ZAPYATOYdS ROGOMeDVUMYA ZAPYATYMI",
     "eZAPYATOY I PODCHASHIEMcPOLKULIZMYcSTATYA NEPOSTOYANNAYAcSTRELA PROSTAYAdMRACHNOTIKHAYA",
     "dKRYZHEVAYAdPOLUPOVODNAYAdPOVODNAYAdNEPOSTOYANNAYAdKLYUCHEPOVODNAYAdKLYUCHENEPOSTOYANNAYA",
     "dTIKHAYA PUTNAYAdDVOECHELNAYAdDVOECHELNOKRYZHEVAYAdDVOECHELNOPOVODNAYA",
     "dDVOECHELNAYA KLYUCHEVAYAdDVOECHELNOPOVODNAYAndGROMNAYA WITH SINGLE ZAPYATAYA",
     "dGROMOPOVODNAYApdGROMNAYAdGROMOPOVODNAYAeWITH DOUBLE ZAPYATAYAdGROMOKRYZHEVAYAePOVODNAYA",
     "cMECHIKdPOVODNYdKLYUCHEVOYdKLYUCHEPOVODNYdKLYUCHENEPOSTOYANNYcSTRELA TRYASOGLASNAYA",
     "dTRYASOPOVODNAYAdTRYASOSTRELNAYAcOSOKAdSVETLAYAdTRESVETLAYAdKRYUKOVAYA SVETLAYAdKLYUCHEVAYAn",
     "eNEPOSTOYANNAYAcSTRELA KRYUKOVAYAePOVODNAYAeGROMNAYA WITH SINGLE ZAPYATAYAeGROMOPOVODNAYAp",
     "eGROMNAYAeGROMOPOVODNAYAfWITH DOUBLE ZAPYATAYAeGROMOKRYZHEVAYAfPOVODNAYAeTRYASKAcKUFISMA",
     "cOBLAKOcDUDAcNEMKAcPAUK"]⟩,
   ⟨0x1D000, ["aBYZANTINE MUSICAL SYMBOL PSILIdDASEIAdPERISPOMENIdOXEIA EKFONITIKONeDIPLI",
     "dVAREIA EKFONITIKONeDIPLIdKATHISTIdSYRMATIKIdPARAKLITIKIdYPOKRISISeDIPLIdKREMASTI",
     "dAPESO EKFONITIKONdEXOndTELEIAdKENTIMATAdAPOSTROFOSeDIPLIdSYNEVMAdTHITAdOLIGON ARCHAION",
     "dGORGONndPSILONdCHAMILONdVATHYdISON ARCHAIONdKENTIMAndKENTIMATAndSAXIMATAdPARICHON",
     "dSTAVROS APODEXIAdOXEIAI ARCHAIONdVAREIAIndAPODERMAndAPOTHEMAdKLASMAdREVMAdPIASMA ARCHAION",
     "dTINAGMAdANATRICHISMAdSEISMAdSYNAGMA ARCHAIONeMETA STAVROUdOYRANISMA ARCHAIONdTHEMAdLEMOI",
     "dDYOdTRIAdTESSERAdKRATIMATAdAPESO EXO NEOdFTHORA ARCHAIONdIMIFTHORAdTROMIKON ARCHAION",
     "dKATAVA TROMIKONdPELASTONdPSIFISTONdKONTEVMAdCHOREVMA ARCHAIONdRAPISMAdPARAKALESMA ARCHAION",
     "dPARAKLITIKIndICHADINdNANAdPETASMAdKONTEVMA ALLOdTROMIKONndSTRAGGISMATAdGRONTHISMATA",
     "dISON NEOdOLIGONndOXEIAndPETASTIdKOUFISMAdPETASTOKOUFISMAdKRATIMOKOUFISMAdPELASTON NEO",
     "dKENTIMATA NEO ANOdKENTIMAodYPSILIdAPOSTROFOS NEOdAPOSTROFOI SYNDESMOSndYPORROI",
     "dKRATIMOYPORROONdELAFRONdCHAMILIdMIKRON ISONdVAREIA NEOdPIASMAndPSIFISTONndOMALONdANTIKENOMA",
     "dLYGISMAdPARAKLITIKI NEOdPARAKALESMAndETERON PARAKALESMAdKYLISMAdANTIKENOKYLISMA",
     "dTROMIKON NEOdEKSTREPTONdSYNAGMA NEOdSYRMAdCHOREVMA NEOdEPEGERMAdSEISMA NEOdXIRON KLASMA",
     "dTROMIKOPSIFISTONdPSIFISTOLYGISMAdTROMIKOLYGISMAdTROMIKOPARAKALESMAdPSIFISTOPARAKALESMA",
     "dTROMIKOSYNAGMAdPSIFISTOSYNAGMAdGORGOSYNTHETONdARGOSYNTHETONdETERONndOYRANISMA NEO",
     "dTHEMATISMOS ESOeEXOdTHEMA APLOUNdTHES KAI APOTHESdKATAVASMAdENDOFONONdYFEN KATOeANOdSTAVROS",
     "dKLASMA ANOdDIPLI ARCHAIONdKRATIMAneALLOeNEOdAPODERMAndAPLIdDIPLIdTRIPLIdTETRAPLIdKORONIS",
     "dLEIMMA ENOS CHRONOUeDYO CHRONONeTRIONneTESSARONneIMISEOS CHRONOUdGORGON NEO ANO",
     "ePARESTIGMENON ARISTERAfDEXIAdDIGORGONePARESTIGMENON ARISTERA KATOgANOfDEXIAdTRIGORGONdARGON",
     "dIMIDIARGONdDIARGONdAGOGI POLI ARGIeARGOTERIeARGIeMETRIAeMESIeGORGIeGORGOTERIePOLI GORGI",
     "dMARTYRIA PROTOS ICHOSeALLIoeDEYTEROSneALLIoeTRITOSneTRIFONIASeTETARTOS ICHOSfLEGETOSneo",
     "ePLAGIOSndISAKIA TELOUS ICHIMATOSdAPOSTROFOIodFANEROSIS TETRAFONIASeMONOFONIASeDIFONIAS",
     "dMARTYRIA VARYS ICHOSePROTOVARYSnePLAGIOS TETARTOSndGORTHMIKON N APLOUNfDIPLOUN",
     "dENARXIS KAI FTHORA VOUdIMIFONONdIMIFTHORONdFTHORA ARCHAION DEYTEROU ICHOUeDIATONIKI PAfNANA",
     "eNAOS ICHOSeDIATONIKI DIeSKLIRON DIATONONneDIATONIKI KEfZOfNI KATOgANO",
     "eMALAKON CHROMA DIFONIASgMONOFONIASdFHTORA SKLIRON CHROMA VASISdFTHORA SKLIRON CHROMA SYNAFI",
     "eNENANOdCHROA ZYGOSeKLITONeSPATHIdFTHORA I YFESIS TETARTIMORIONeENARMONIOS ANTIFONIA",
     "dYFESIS TRITIMORIONdDIESISneTETARTIMORIONeAPLI DYO DODEKATAeMONOGRAMMOS TESSERAn",
     "eDIGRAMMOS EXneTRIGRAMMOS OKTOndYFESIS APLI DYOneMONOGRAMMOS TESSERAneDIGRAMMOS EXn",
     "eTRIGRAMMOS OKTOndGENIKI DIESISeYFESISdDIASTOLI APLI MIKRIfMEGALIeDIPLIeTHESEOSdSIMANSISn",
     "fDISIMOUfTRISIMOUfTETRASIMOUeARSEOSfDISIMOUfTRISIMOUfTETRASIMOUdDIGRAMMA GGdDIFTOGGOS OU",
     "dSTIGMAdARKTIKO PAeVOUeGAeDIeKEeZOeNIdKENTIMATA NEO MESOdKENTIMAodKENTIMATA NEO KATO",
     "dKENTIMAodKLASMAndGORGON NEOn"]⟩,
   ⟨0x1D100, ["aMUSICAL SYMBOL SINGLE BARLINEcDOUBLEncFINALncREVERSEocDASHEDncSHORTn",
     "cLEFT REPEAT SIGNcRIGHTocREPEAT DOTScDAL SEGNOcDA CAPOcSEGNOcCODAcREPEATED FIGURE-1dFIGURE-2",
     "dFIGURE-3cFERMATAdBELOWcBREATH MARKcCAESURAcBRACEcBRACKETcONE-LINE STAFFcTWO-LINEn",
     "cTHREE-LINEncFOUR-LINEncFIVE-LINEncSIX-LINEncSIX-STRING FRETBOARDcFOUR-STRINGncG CLEF",
     "eOTTAVA ALTAfBASSAcC CLEFcFneOTTAVA ALTAfBASSAcDRUM CLEF-1dCLEF-2"]⟩,
   ⟨0x1D129, ["aMUSICAL SYMBOL MULTIPLE MEASURE RESTcDOUBLE SHARPdFLATcFLAT UPdDOWNcNATURAL UP",
     "dDOWNcSHARP UPdDOWNcQUARTER TONE SHARPeFLATcCOMMON TIMEcCUTncOTTAVA ALTAdBASSA",
     "cQUINDICESIMA ALTAdBASSAcMULTI RESTcWHOLEncHALFncQUARTERncEIGHTHncSIXTEENTHncTHIRTY-SECONDn",
     "cSIXTY-FOURTHncONE HUNDRED TWENTY-EIGHTHncX NOTEHEADcPLUSncCIRCLE XncSQUARE NOTEHEAD WHITE",
     "eBLACKcTRIANGLE NOTEHEAD UP WHITEfBLACKeLEFT WHITEfBLACKeRIGHT WHITEfBLACKeDOWN WHITEfBLACK",
     "eUP RIGHT WHITEgBLACKcMOON NOTEHEAD WHITEeBLACKcTRIANGLE-ROUND NOTEHEAD DOWN WHITEfBLACK",
     "cPARENTHESIS NOTEHEADcVOIDncNOTEHEAD BLACKcNULL NOTEHEADcCLUSTER NOTEHEAD WHITEeBLACKcBREVE",
     "cWHOLE NOTEcHALFncQUARTERncEIGHTHncSIXTEENTHncTHIRTY-SECONDncSIXTY-FOURTHn",
     "cONE HUNDRED TWENTY-EIGHTHncCOMBINING STEMdSPRECHGESANGndTREMOLO-1dTREMOLO-2dTREMOLO-3",
     "cFINGERED TREMOLO-1dTREMOLO-2dTREMOLO-3cCOMBINING AUGMENTATION DOTdFLAG-1dFLAG-2dFLAG-3",
     "dFLAG-4dFLAG-5cBEGIN BEAMcENDncBEGIN TIEcENDncBEGIN SLURcENDncBEGIN PHRASEcENDn",
     "cCOMBINING ACCENTdSTACCATOdTENUTOdSTACCATISSIMOdMARCATOdMARCATO-STACCATOdACCENT-STACCATO",
     "dLOUREcARPEGGIATO UPdDOWNcCOMBINING DOITdRIPdFLIPdSMEARdBENDdDOUBLE TONGUEdTRIPLEn",
     "cRINFORZANDOcSUBITOcZcPIANOcMEZZOcFORTEcCRESCENDOcDECRESCENDOcGRACE NOTE SLASHeNOncTRcTURN",
     "cINVERTEDncTURN SLASHdUPcORNAMENT STROKE-1dSTROKE-2dSTROKE-3dSTROKE-4dSTROKE-5dSTROKE-6",
     "dSTROKE-7dSTROKE-8dSTROKE-9dSTROKE-10dSTROKE-11cHAUPTSTIMMEcNEBENSTIMMEcEND OF STIMME",
     "cDEGREE SLASHcCOMBINING DOWN BOWdUPndHARMONICdSNAP PIZZICATOcPEDAL MARKdUPncHALF PEDALn",
     "cGLISSANDO UPdDOWNcWITH FINGERNAILScDAMPdALLcMAXIMAcLONGAcBREVIScSEMIBREVIS WHITEdBLACK",
     "cMINIMAdBLACKcSEMIMINIMA WHITEdBLACKcFUSA WHITEdBLACKcLONGA PERFECTA RESTdIMPERFECTAn",
     "cBREVISncSEMIBREVISncMINIMAncSEMIMINIMAncTEMPUS PERFECTUM CUM PROLATIONE PERFECTAgIMPERFECTA",
     "gPERFECTA DIMINUTION-1dIMPERFECTUM CUM PROLATIONE PERFECTAgIMPERFECTAhDIMINUTION-1",
     "hDIMINUTION-2hDIMINUTION-3cCROIXcGREGORIAN C CLEFdFncSQUARE BcVIRGAcPODATUScCLIVIScSCANDICUS",
     "cCLIMACUScTORCULUScPORRECTUSdFLEXUScSCANDICUSncTORCULUS RESUPINUScPES SUBPUNCTIS",
     "cKIEVAN C CLEFdEND OF PIECEdFINAL NOTEdRECITATIVE MARKdWHOLE NOTEdHALFn",
     "dQUARTER NOTE STEM DOWNgUPdEIGHTH NOTE STEM DOWNgUPdFLAT SIGNcSORIcKORON"]⟩,
   ⟨0x1D200, ["aGREEK VOCAL NOTATION SYMBOL-1dSYMBOL-2dSYMBOL-3dSYMBOL-4dSYMBOL-5dSYMBOL-6",
     "dSYMBOL-7dSYMBOL-8dSYMBOL-9dSYMBOL-10dSYMBOL-11dSYMBOL-12dSYMBOL-13dSYMBOL-14dSYMBOL-15",
     "dSYMBOL-16dSYMBOL-17dSYMBOL-18dSYMBOL-19dSYMBOL-20dSYMBOL-21dSYMBOL-22dSYMBOL-23dSYMBOL-24",
     "dSYMBOL-50dSYMBOL-51dSYMBOL-52dSYMBOL-53dSYMBOL-54bINSTRUMENTAL NOTATION SYMBOL-1dSYMBOL-2",
     "dSYMBOL-4dSYMBOL-5dSYMBOL-7dSYMBOL-8dSYMBOL-11dSYMBOL-12dSYMBOL-13dSYMBOL-14dSYMBOL-17",
     "dSYMBOL-18dSYMBOL-19dSYMBOL-23dSYMBOL-24dSYMBOL-25dSYMBOL-26dSYMBOL-27dSYMBOL-29dSYMBOL-30",
     "dSYMBOL-32dSYMBOL-36dSYMBOL-37dSYMBOL-38dSYMBOL-39dSYMBOL-40dSYMBOL-42dSYMBOL-43dSYMBOL-45",
     "dSYMBOL-47dSYMBOL-48dSYMBOL-49dSYMBOL-50dSYMBOL-51dSYMBOL-52dSYMBOL-53dSYMBOL-54",
     "aCOMBINING GREEK MUSICAL TRISEMEdTETRASEMEdPENTASEMEaGREEK MUSICAL LEIMMA"]⟩,
   ⟨0x1D2E0, ["aMAYAN NUMERAL ZEROcONEcTWOcTHREEcFOURcFIVEcSIXcSEVENcEIGHTcNINEcTENcELEVENcTWELVE",
     "cTHIRTEENcFOURTEENcFIFTEENcSIXTEENcSEVENTEENcEIGHTEENcNINETEEN"]⟩,
   ⟨0x1D300, ["aMONOGRAM FOR EARTHaDIGRAM FOR HEAVENLYncHUMANncEARTHLY HEAVENdHUMANcEARTH",
     "aTETRAGRAM FOR CENTREcFULL CIRCLEcMIREDcBARRIERcKEEPING SMALLcCONTRARIETYcASCENTcOPPOSITION",
     "cBRANCHING OUTcDEFECTIVENESS OR DISTORTIONcDIVERGENCEcYOUTHFULNESScINCREASEcPENETRATION",
     "cREACHcCONTACTcHOLDING BACKcWAITINGcFOLLOWINGcADVANCEcRELEASEcRESISTANCEcEASEcJOYcCONTENTION",
     "cENDEAVOURcDUTIEScCHANGEcDECISIVENESScBOLD RESOLUTIONcPACKINGcLEGIONcCLOSENESScKINSHIP",
     "cGATHERINGcSTRENGTHcPURITYcFULLNESScRESIDENCEcLAW OR MODELcRESPONSEcGOING TO MEETcENCOUNTERS",
     "cSTOVEcGREATNESScENLARGEMENTcPATTERNcRITUALcFLIGHTcVASTNESS OR WASTINGcCONSTANCYcMEASURE",
     "cETERNITYcUNITYcDIMINISHMENTcCLOSED MOUTHcGUARDEDNESScGATHERING INcMASSINGcACCUMULATION",
     "cEMBELLISHMENTcDOUBTcWATCHcSINKINGcINNERcDEPARTUREcDARKENINGcDIMMINGcEXHAUSTIONcSEVERANCE",
     "cSTOPPAGEcHARDNESScCOMPLETIONcCLOSUREcFAILUREcAGGRAVATIONcCOMPLIANCEcON THE VERGE",
     "cDIFFICULTIEScLABOURINGcFOSTERING"]⟩,
   ⟨0x1D360, ["aCOUNTING ROD UNIT DIGIT ONEeTWOeTHREEeFOUReFIVEeSIXeSEVENeEIGHTeNINE",
     "cTENS DIGIT ONEeTWOeTHREEeFOUReFIVEeSIXeSEVENeEIGHTeNINEaIDEOGRAPHIC TALLY MARK ONEdTWO",
     "dTHREEdFOURdFIVEaTALLY MARK ONEcFIVE"]⟩,
   ⟨0x1D400, ["aMATHEMATICAL BOLD CAPITAL AdBdCdDdEdFdGdHdIdJdKdLdMdNdOdPdQdRdSdTdUdVdWdXdYdZ",
     "cSMALL AdBdCdDdEdFdGdHdIdJdKdLdMdNdOdPdQdRdSdTdUdVdWdXdYdZbITALIC CAPITAL AdBdCdDdEdFdGdHdI",
     "dJdKdLdMdNdOdPdQdRdSdTdUdVdWdXdYdZcSMALL AdBdCdDdEdFdG"]⟩,
   ⟨0x1D456, ["aMATHEMATICAL ITALIC SMALL IdJdKdLdMdNdOdPdQdRdSdTdUdVdWdXdYdZ",
     "bBOLD ITALIC CAPITAL AeBeCeDeEeFeGeHeIeJeKeLeMeNeOePeQeReSeTeUeVeWeXeYeZdSMALL AeBeCeDeEeFeG",
     "eHeIeJeKeLeMeNeOePeQeReSeTeUeVeWeXeYeZbSCRIPT CAPITAL A"]⟩,
   ⟨0x1D49E, ["aMATHEMATICAL SCRIPT CAPITAL CdD"]⟩,
   ⟨0x1D4A2, ["aMATHEMATICAL SCRIPT CAPITAL G"]⟩,
   ⟨0x1D4A5, ["aMATHEMATICAL SCRIPT CAPITAL JdK"]⟩,
   ⟨0x1D4A9, ["aMATHEMATICAL SCRIPT CAPITAL NdOdPdQ"]⟩,
   ⟨0x1D4AE, ["aMATHEMATICAL SCRIPT CAPITAL SdTdUdVdWdXdYdZcSMALL AdBdCdD"]⟩,
   ⟨0x1D4BB, ["aMATHEMATICAL SCRIPT SMALL F"]⟩,
   ⟨0x1D4BD, ["aMATHEMATICAL SCRIPT SMALL HdIdJdKdLdMdN"]⟩,
   ⟨0x1D4C5, ["aMATHEMATICAL SCRIPT SMALL PdQdRdSdTdUdVdWdXdYdZbBOLD SCRIPT CAPITAL AeBeCeDeEeFeG",
     "eHeIeJeKeLeMeNeOePeQeReSeTeUeVeWeXeYeZdSMALL AeBeCeDeEeFeGeHeIeJeKeLeMeNeOePeQeReSeTeUeVeWeX",
     "eYeZbFRAKTUR CAPITAL AdB"]⟩,
   ⟨0x1D507, ["aMATHEMATICAL FRAKTUR CAPITAL DdEdFdG"]⟩,
   ⟨0x1D50D, ["aMATHEMATICAL FRAKTUR CAPITAL JdKdLdMdNdOdPdQ"]⟩,
   ⟨0x1D516, ["aMATHEMATICAL FRAKTUR CAPITAL SdTdUdVdWdXdY"]⟩,
   ⟨0x1D51E, ["aMATHEMATICAL FRAKTUR SMALL AdBdCdDdEdFdGdHdIdJdKdLdMdNdOdPdQdRdSdTdUdVdWdXdYdZ",
     "bDOUBLE-STRUCK CAPITAL AdB"]⟩,
   ⟨0x1D53B, ["aMATHEMATICAL DOUBLE-STRUCK CAPITAL DdEdFdG"]⟩,
   ⟨0x1D540, ["aMATHEMATICAL DOUBLE-STRUCK CAPITAL IdJdKdLdM"]⟩,
   ⟨0x1D546, ["aMATHEMATICAL DOUBLE-STRUCK CAPITAL O"]⟩,
   ⟨0x1D54A, ["aMATHEMATICAL DOUBLE-STRUCK CAPITAL SdTdUdVdWdXdY"]⟩,
   ⟨0x1D552, ["aMATHEMATICAL DOUBLE-STRUCK SMALL AdBdCdDdEdFdGdHdIdJdKdLdMdNdOdPdQdRdSdTdUdVdWdXdY",
     "dZbBOLD FRAKTUR CAPITAL AeBeCeDeEeFeGeHeIeJeKeLeMeNeOePeQeReSeTeUeVeWeXeYeZdSMALL AeBeCeDeE",
     "eFeGeHeIeJeKeLeMeNeOePeQeReSeTeUeVeWeXeYeZbSANS-SERIF CAPITAL AdBdCdDdEdFdGdHdIdJdKdLdMdNdO",
     "dPdQdRdSdTdUdVdWdXdYdZcSMALL AdBdCdDdEdFdGdHdIdJdKdLdMdNdOdPdQdRdSdTdUdVdWdXdYdZ",
     "cBOLD CAPITAL AeBeCeDeEeFeGeHeIeJeKeLeMeNeOePeQeReSeTeUeVeWeXeYeZdSMALL AeBeCeDeEeFeGeHeIeJ",
     "eKeLeMeNeOePeQeReSeTeUeVeWeXeYeZcITALIC CAPITAL AeBeCeDeEeFeGeHeIeJeKeLeMeNeOePeQeReSeTeUeV",
     "eWeXeYeZdSMALL AeBeCeDeEeFeGeHeIeJeKeLeMeNeOePeQeReSeTeUeVeWeXeYeZcBOLD ITALIC CAPITAL AfBfC",
     "fDfEfFfGfHfIfJfKfLfMfNfOfPfQfRfSfTfUfVfWfXfYfZeSMALL AfBfCfDfEfFfGfHfIfJfKfLfMfNfOfPfQfRfSfT",
     "fUfVfWfXfYfZbMONOSPACE CAPITAL AdBdCdDdEdFdGdHdIdJdKdLdMdNdOdPdQdRdSdTdUdVdWdXdYdZcSMALL AdB",
     "dCdDdEdFdGdHdIdJdKdLdMdNdOdPdQdRdSdTdUdVdWdXdYdZbITALIC SMALL DOTLESS IeJ"]⟩,
   ⟨0x1D6A8, ["aMATHEMATICAL BOLD CAPITAL ALPHAdBETAdGAMMAdDELTAdEPSILONdZETAdETAdTHETAdIOTAdKAPPA",
     "dLAMDAdMUdNUdXIdOMICRONdPIdRHOdTHETA SYMBOLdSIGMAdTAUdUPSILONdPHIdCHIdPSIdOMEGAcNABLA",
     "cSMALL ALPHAdBETAdGAMMAdDELTAdEPSILONdZETAdETAdTHETAdIOTAdKAPPAdLAMDAdMUdNUdXIdOMICRONdPI",
     "dRHOdFINAL SIGMAdndTAUdUPSILONdPHIdCHIdPSIdOMEGAcPARTIAL DIFFERENTIALcEPSILON SYMBOLcTHETAn",
     "cKAPPAncPHIncRHOncPInbITALIC CAPITAL ALPHAdBETAdGAMMAdDELTAdEPSILONdZETAdETAdTHETAdIOTA",
     "dKAPPAdLAMDAdMUdNUdXIdOMICRONdPIdRHOdTHETA SYMBOLdSIGMAdTAUdUPSILONdPHIdCHIdPSIdOMEGAcNABLA",
     "cSMALL ALPHAdBETAdGAMMAdDELTAdEPSILONdZETAdETAdTHETAdIOTAdKAPPAdLAMDAdMUdNUdXIdOMICRONdPI",
     "dRHOdFINAL SIGMAdndTAUdUPSILONdPHIdCHIdPSIdOMEGAcPARTIAL DIFFERENTIALcEPSILON SYMBOLcTHETAn",
     "cKAPPAncPHIncRHOncPInbBOLD ITALIC CAPITAL ALPHAeBETAeGAMMAeDELTAeEPSILONeZETAeETAeTHETAeIOTA",
     "eKAPPAeLAMDAeMUeNUeXIeOMICRONePIeRHOeTHETA SYMBOLeSIGMAeTAUeUPSILONePHIeCHIePSIeOMEGAdNABLA",
     "dSMALL ALPHAeBETAeGAMMAeDELTAeEPSILONeZETAeETAeTHETAeIOTAeKAPPAeLAMDAeMUeNUeXIeOMICRONePI",
     "eRHOeFINAL SIGMAeneTAUeUPSILONePHIeCHIePSIeOMEGAdPARTIAL DIFFERENTIALdEPSILON SYMBOLdTHETAn",
     "dKAPPAndPHIndRHOndPInbSANS-SERIF BOLD CAPITAL ALPHAeBETAeGAMMAeDELTAeEPSILONeZETAeETAeTHETA",
     "eIOTAeKAPPAeLAMDAeMUeNUeXIeOMICRONePIeRHOeTHETA SYMBOLeSIGMAeTAUeUPSILONePHIeCHIePSIeOMEGA",
     "dNABLAdSMALL ALPHAeBETAeGAMMAeDELTAeEPSILONeZETAeETAeTHETAeIOTAeKAPPAeLAMDAeMUeNUeXIeOMICRON",
     "ePIeRHOeFINAL SIGMAeneTAUeUPSILONePHIeCHIePSIeOMEGAdPARTIAL DIFFERENTIALdEPSILON SYMBOL",
     "dTHETAndKAPPAndPHIndRHOndPIndITALIC CAPITAL ALPHAfBETAfGAMMAfDELTAfEPSILONfZETAfETAfTHETA",
     "fIOTAfKAPPAfLAMDAfMUfNUfXIfOMICRONfPIfRHOfTHETA SYMBOLfSIGMAfTAUfUPSILONfPHIfCHIfPSIfOMEGA",
     "eNABLAeSMALL ALPHAfBETAfGAMMAfDELTAfEPSILONfZETAfETAfTHETAfIOTAfKAPPAfLAMDAfMUfNUfXIfOMICRON",
     "fPIfRHOfFINAL SIGMAfnfTAUfUPSILONfPHIfCHIfPSIfOMEGAePARTIAL DIFFERENTIALeEPSILON SYMBOL",
     "eTHETAneKAPPAnePHIneRHOnePInbBOLD CAPITAL DIGAMMAcSMALLn"]⟩,
   ⟨0x1D7CE, ["aMATHEMATICAL BOLD DIGIT ZEROdONEdTWOdTHREEdFOURdFIVEdSIXdSEVENdEIGHTdNINE",
     "bDOUBLE-STRUCK DIGIT ZEROdONEdTWOdTHREEdFOURdFIVEdSIXdSEVENdEIGHTdNINEbSANS-SERIF DIGIT ZERO",
     "dONEdTWOdTHREEdFOURdFIVEdSIXdSEVENdEIGHTdNINEcBOLD DIGIT ZEROeONEeTWOeTHREEeFOUReFIVEeSIX",
     "eSEVENeEIGHTeNINEbMONOSPACE DIGIT ZEROdONEdTWOdTHREEdFOURdFIVEdSIXdSEVENdEIGHTdNINE",
     "aSIGNWRITING HAND-FIST INDEXbHAND-CIRCLEnbHAND-CUPnbHAND-OVALnbHAND-HINGEnbHAND-ANGLEn",
     "bHAND-FIST INDEX BENTbHAND-CIRCLEobHAND-FIST THUMB UNDERocINDEX RAISED KNUCKLEdCUPPEDdHINGED",
     "eLOWbHAND-CIRCLE INDEX HINGEbHAND-FIST INDEX MIDDLEbHAND-CIRCLEobHAND-FIST INDEX MIDDLE BENT",
     "eRAISED KNUCKLESeHINGEDdUPodHINGED MIDDLE UPdMIDDLE CONJOINEDfINDEX BENTfMIDDLEnfCUPPED",
     "fHINGEDeCROSSEDbHAND-CIRCLEpbHAND-FIST MIDDLE BENT OVER INDEXcINDEX BENT OVER MIDDLE",
     "dMIDDLE THUMBbHAND-CIRCLEpbHAND-FIST INDEX MIDDLE STRAIGHT THUMB BENTeBENT THUMB STRAIGHT",
     "eTHUMB BENTeHINGED SPREAD THUMB SIDEdUP MIDDLE HINGEDohCONJOINEDdHINGED MIDDLE UP THUMB SIDE",
     "dMIDDLE UP SPREAD THUMB FORWARDeTHUMB CUPPEDfCIRCLEDfHOOKEDfHINGED",
     "cTHUMB BETWEEN INDEX MIDDLE STRAIGHTcINDEX MIDDLE CONJOINED THUMB SIDEhCONJOINEDhBENT",
     "cMIDDLE THUMB HOOKED INDEX UPcINDEX THUMB HOOKED MIDDLEndMIDDLE CONJOINED HINGED THUMB SIDE",
     "eCROSSEDoeCONJOINED THUMB FORWARDfCUPPEDocMIDDLE THUMB CUPPED INDEX UP",
     "cINDEX THUMB CUPPED MIDDLEncMIDDLE THUMB CIRCLED INDEXngHINGED",
     "cINDEX THUMB ANGLED OUT MIDDLE UPfINoeCIRCLEDodMIDDLE THUMB CONJOINED HINGEDfANGLED OUTg",
     "cMIDDLE THUMB ANGLED OUT INDEX UPhCROSSEDfINDEX UPcINDEX THUMB HOOKED MIDDLE HINGED",
     "bHAND-FLAT FOUR FINGERSeBENTeHINGEDeCONJOINEDfSPLITbHAND-CLAW FOUR FINGERS CONJOINED",
     "bHAND-FIST FOUR FINGERS CONJOINED BENTbHAND-HINGE FOUR FINGERS CONJOINED",
     "bHAND-FLAT FIVE FINGERS SPREADcHEELpcFIVE FINGERS SPREAD FOUR BENTcHEELr",
     "cFIVE FINGERS SPREADncHEELqcFIVE FINGERS SPREAD THUMB FORWARDbHAND-CUP FIVE FINGERS SPREAD",
     "fOPENbHAND-HINGEqbHAND-OVAL FIVE FINGERS SPREADbHAND-FLAT FIVE FINGERS SPREAD HINGED",
     "gTHUMB SIDEgNO THUMBccBETWEEN PALM FACINGScHEELcTHUMB SIDEcHEELocTHUMB BENTdFORWARD",
     "cSPLIT INDEX THUMB SIDEdCENTREeTHUMB SIDEgBENTdLITTLEbHAND-CLAWcTHUMB SIDEcNO THUMB",
     "cTHUMB FORWARDbHAND-HOOK CURLICUEcbHAND-CUP OPENccOPEN THUMB SIDEcocOPEN NO THUMBco",
     "cOPEN THUMB FORWARDcobHAND-CURLICUE OPENcbHAND-CIRCLEbHAND-OVALcTHUMB SIDEcNO THUMB",
     "cTHUMB FORWARDbHAND-HINGE OPENdTHUMB FORWARDccSMALLcOPEN THUMB SIDEcocOPEN NO THUMBco",
     "cTHUMB SIDE TOUCHING INDEXdBETWEEN MIDDLE RINGbHAND-ANGLEbHAND-FIST INDEX MIDDLE RING",
     "bHAND-CIRCLEpbHAND-HINGEpbHAND-ANGLEpbHAND-HINGE LITTLEbHAND-FIST INDEX MIDDLE RING BENT",
     "fCONJOINEDbHAND-HINGEqbHAND-FIST LITTLE DOWNeRIPPLE STRAIGHTfCURVEDeOTHERS CIRCLEDdUP",
     "cTHUMB UNDERobHAND-CIRCLEobHAND-OVALobHAND-ANGLEobHAND-FIST LITTLE RAISED KNUCKLEdBENT",
     "dTOUCHES THUMBdnbHAND-HINGEobHAND-FIST LITTLE INDEXnbHAND-HINGEp",
     "bHAND-ANGLE LITTLE INDEX THUMB INDEX THUMB OUThbHAND-FIST LITTLE INDEXbHAND-CIRCLEo",
     "bHAND-HINGEobHAND-ANGLEobHAND-FIST INDEX MIDDLE LITTLEbHAND-CIRCLEpbHAND-HINGEpcRING",
     "bHAND-ANGLE INDEX MIDDLE LITTLEbHAND-FIST INDEX MIDDLE CROSSnbHAND-CIRCLEq",
     "bHAND-FIST RING DOWNbHAND-HINGE RING DOWN INDEX THUMB HOOK MIDDLE",
     "bHAND-ANGLE RING DOWN MIDDLE THUMB INDEX CROSSbHAND-FIST RING UPdRAISED KNUCKLEdLITTLE",
     "bHAND-CIRCLEobHAND-OVALobHAND-ANGLEobHAND-FIST RING MIDDLEeCONJOINEDeRAISED KNUCKLESdINDEX",
     "dTHUMBbHAND-HOOKobHAND-FIST INDEX RING LITTLEbHAND-CIRCLEp",
     "bHAND-CURLICUE INDEX RING LITTLE ONbHAND-HOOK INDEX RING LITTLE OUTfINfUNDER",
     "bHAND-CUP INDEX RING LITTLEbHAND-HINGEpbHAND-ANGLE INDEX RING LITTLE OUTf",
     "bHAND-FIST MIDDLE DOWNbHAND-HINGE MIDDLEbHAND-FIST MIDDLE UPbHAND-CIRCLEo",
     "bHAND-FIST MIDDLE RAISED KNUCKLEdUP THUMB SIDEbHAND-HOOK MIDDLE THUMB",
     "bHAND-FIST MIDDLE THUMB LITTLEdndRINGnbHAND-CIRCLEpbHAND-CURLICUE MIDDLE RING LITTLE ON",
     "bHAND-CUP MIDDLE RING LITTLEbHAND-HINGEpbHAND-ANGLE MIDDLE RING LITTLE OUTfINf",
     "bHAND-CIRCLE MIDDLE RING LITTLE BENTbHAND-CLAW MIDDLE RING LITTLE CONJOINEDgSIDE",
     "bHAND-HOOK MIDDLE RING LITTLE CONJOINED OUTgINgbHAND-HINGE INDEX HINGED",
     "bHAND-FIST INDEX THUMB SIDEbHAND-HINGEpbHAND-FIST INDEX THUMB SIDE THUMB DIAGONALgCONJOINED",
     "gBENTfINDEXnfBOTHnfINDEX HINGEeFORWARD INDEX STRAIGHTgBENTeHOOKeCURLICUEeCURVE THUMB INSIDE",
     "bHAND-CLAWrbHAND-FIST INDEX THUMB CURVE THUMB UNDEReCIRCLEbHAND-CUP INDEX THUMBeOPEN",
     "bHAND-HINGEpeLARGEeeSMALLbHAND-ANGLE INDEX THUMB OUTeINebHAND-FISTndHEELdSIDE DIAGONAL",
     "eCONJOINEDeBENTdFORWARDdBETWEEN INDEX MIDDLEeMIDDLE RINGeRING LITTLEdUNDER TWO FINGERSdOVERo",
     "dUNDER THREEneFOURndOVER FOUR RAISED KNUCKLESccHEELbTOUCH SINGLEcMULTIPLEcBETWEEN",
     "bGRASP SINGLEcMULTIPLEcBETWEENbSTRIKE SINGLEcMULTIPLEcBETWEENbBRUSH SINGLEcMULTIPLEcBETWEEN",
     "bRUB SINGLEcMULTIPLEcBETWEENbSURFACE SYMBOLScBETWEENbSQUEEZE LARGE SINGLEcSMALLn",
     "cLARGE MULTIPLEcSMALLncSEQUENTIALbFLICK LARGE SINGLEcSMALLncLARGE MULTIPLEcSMALLncSEQUENTIAL",
     "bSQUEEZE FLICK ALTERNATINGbMOVEMENT-HINGE UP DOWN LARGEeSMALLdSEQUENTIALcDOWNn",
     "cUP DOWN ALTERNATING LARGEfSMALLcSIDE TO SIDE SCISSORSbMOVEMENT-WALLPLANE FINGER CONTACT",
     "bMOVEMENT-FLOORPLANEobMOVEMENT-WALLPLANE SINGLE STRAIGHT SMALLeMEDIUMeLARGEeLARGEST",
     "dWRIST FLEXcDOUBLE STRAIGHTdWRIST FLEXdALTERNATINGeWRIST FLEXcCROSScTRIPLE STRAIGHT MOVEMENT",
     "dWRIST FLEXdALTERNATINGeWRIST FLEXcBEND SMALLdMEDIUMdLARGEcCORNER SMALLdMEDIUMdLARGE",
     "dROTATIONcCHECK SMALLdMEDIUMdLARGEcBOX SMALLdMEDIUMdLARGEcZIGZAG SMALLdMEDIUMdLARGE",
     "cPEAKS SMALLdMEDIUMdLARGEbTRAVEL-WALLPLANE ROTATION-WALLPLANE SINGLEdDOUBLEdALTERNATING",
     "cROTATION-FLOORPLANE SINGLEdDOUBLEdALTERNATINGcSHAKINGcARM SPIRAL SINGLEeDOUBLEeTRIPLE",
     "bMOVEMENT-DIAGONAL AWAY SMALLdMEDIUMdLARGEdLARGESTcTOWARDS SMALLdMEDIUMdLARGEdLARGEST",
     "cBETWEEN AWAY SMALLeMEDIUMeLARGEeLARGESTdTOWARDS SMALLeMEDIUMeLARGEeLARGEST",
     "bMOVEMENT-FLOORPLANE SINGLE STRAIGHT SMALLeMEDIUMeLARGEeLARGESTdWRIST FLEXcDOUBLE STRAIGHT",
     "dWRIST FLEXdALTERNATINGeWRIST FLEXcCROSScTRIPLE STRAIGHT MOVEMENTdWRIST FLEX",
     "dALTERNATING MOVEMENTeWRIST FLEXcBENDcCORNER SMALLdMEDIUMdLARGEcCHECKcBOX SMALLdMEDIUMdLARGE",
     "cZIGZAG SMALLdMEDIUMdLARGEcPEAKS SMALLdMEDIUMdLARGE",
     "bTRAVEL-FLOORPLANE ROTATION-FLOORPLANE SINGLEdDOUBLEdALTERNATINGcROTATION-WALLPLANE SINGLE",
     "dDOUBLEdALTERNATINGcSHAKINGbMOVEMENT-WALLPLANE CURVE QUARTER SMALLeMEDIUMeLARGEeLARGEST",
     "dHALF-CIRCLE SMALLeMEDIUMeLARGEeLARGESTdTHREE-QUARTER CIRCLE SMALLfMEDIUMcHUMP SMALLdMEDIUM",
     "dLARGEcLOOP SMALLdMEDIUMdLARGEdSMALL DOUBLEcWAVE CURVE DOUBLE SMALLfMEDIUMfLARGE",
     "eTRIPLE SMALLfMEDIUMfLARGEcCURVE THEN STRAIGHTcCURVED CROSS SMALLeMEDIUM",
     "bROTATION-WALLPLANE SINGLEcDOUBLEcALTERNATEbMOVEMENT-WALLPLANE SHAKING",
     "cCURVE HITTING FRONT WALLcHUMPpcLOOPpcWAVEpbROTATION-WALLPLANE SINGLEpcDOUBLEpcALTERNATINGp",
     "bMOVEMENT-WALLPLANE CURVE HITTING CHESTcHUMPocLOOPocWAVEobROTATION-WALLPLANE SINGLEocDOUBLEo",
     "cALTERNATINGobMOVEMENT-WALLPLANE WAVE DIAGONAL PATH SMALLfMEDIUMfLARGE",
     "bMOVEMENT-FLOORPLANE CURVE HITTING CEILING SMALLfLARGEcHUMP HITTING CEILING SMALL DOUBLE",
     "fLARGEnfSMALL TRIPLEfLARGEncLOOP HITTING CEILING SMALL SINGLEfLARGEnfSMALL DOUBLEfLARGEn",
     "cWAVE HITTING CEILING SMALLfLARGEbROTATION-FLOORPLANE SINGLE HITTING CEILINGcDOUBLEo",
     "cALTERNATINGobMOVEMENT-FLOORPLANE CURVE HITTING FLOOR SMALLfLARGE",
     "cHUMP HITTING FLOOR SMALL DOUBLEfLARGEnfTRIPLE SMALL TRIPLEgLARGEn",
     "cLOOP HITTING FLOOR SMALL SINGLEfLARGEnfSMALL DOUBLEfLARGEncWAVE HITTING FLOOR SMALLfLARGE",
     "bROTATION-FLOORPLANE SINGLE HITTING FLOORcDOUBLEocALTERNATINGo",
     "bMOVEMENT-FLOORPLANE CURVE SMALLdMEDIUMdLARGEdLARGESTdCOMBINEDcHUMP SMALLcLOOPncWAVE SNAKE",
     "dSMALLdLARGEbROTATION-FLOORPLANE SINGLEcDOUBLEcALTERNATING",
     "bMOVEMENT-FLOORPLANE SHAKING PARALLELbMOVEMENT-WALLPLANE ARM CIRCLE SMALL SINGLEeMEDIUMn",
     "eSMALL DOUBLEeMEDIUMnbMOVEMENT-FLOORPLANE ARM CIRCLE HITTING WALL SMALL SINGLEgMEDIUMn",
     "gLARGEngSMALL DOUBLEgMEDIUMngLARGEnbMOVEMENT-WALLPLANE WRIST CIRCLE FRONT SINGLEfDOUBLE",
     "bMOVEMENT-FLOORPLANE WRIST CIRCLE HITTING WALL SINGLEgDOUBLE",
     "bMOVEMENT-WALLPLANE FINGER CIRCLES SINGLEeDOUBLE",
     "bMOVEMENT-FLOORPLANE FINGER CIRCLES HITTING WALL SINGLEgDOUBLEbDYNAMIC ARROWHEAD SMALLdLARGE",
     "cFASTcSLOWcTENSEcRELAXEDcSIMULTANEOUSdALTERNATINGcEVERY OTHER TIMEcGRADUALbHEADcRIM",
     "cMOVEMENT-WALLPLANE STRAIGHTdTILTcMOVEMENT-FLOORPLANE STRAIGHTcMOVEMENT-WALLPLANE CURVE",
     "cMOVEMENT-FLOORPLANEncMOVEMENT CIRCLEbFACE DIRECTION POSITION NOSE FORWARD TILTING",
     "fUP OR DOWNiTILTINGbEYEBROWS STRAIGHT UPdNEUTRALdDOWNbDREAMY EYEBROWS NEUTRALndDOWN NEUTRAL",
     "dUPndNEUTRAL UPbFOREHEAD NEUTRALcCONTACTcWRINKLEDbEYES OPENcSQUEEZEDcCLOSEDbEYE BLINK SINGLE",
     "dMULTIPLEbEYES HALF OPENcWIDEncHALF CLOSEDcWIDENING MOVEMENTbEYE WINKbEYELASHES UPcDOWN",
     "cFLUTTERINGbEYEGAZE-WALLPLANE STRAIGHTdDOUBLEdALTERNATINGbEYEGAZE-FLOORPLANE STRAIGHTdDOUBLE",
     "dALTERNATINGbEYEGAZE-WALLPLANE CURVEDbEYEGAZE-FLOORPLANEnbEYEGAZE-WALLPLANE CIRCLING",
     "bCHEEKS PUFFEDcNEUTRALcSUCKEDbTENSE CHEEKS HIGHdMIDDLEdLOWbEARSbNOSE NEUTRALcCONTACT",
     "cWRINKLEScWIGGLESbAIR BLOWING OUTcSUCKING INcBLOW SMALL ROTATIONScSUCKobBREATH INHALEcEXHALE",
     "bMOUTH CLOSED NEUTRALdFORWARDdCONTACTcSMILEdWRINKLEDdOPENcFROWNdWRINKLEDdOPENcOPEN CIRCLE",
     "dFORWARDdWRINKLEDdOVALeWRINKLEDeYAWNdRECTANGLEeWRINKLEDeYAWNcKISSdFORWARDdWRINKLEDcTENSE",
     "dFORWARDdSUCKEDbLIPS PRESSED TOGETHERbLIP LOWER OVER UPPERcUPPER OVER LOWERbMOUTH CORNERS",
     "cWRINKLES SINGLEdDOUBLEbTONGUE STICKING OUT FARcLICKING LIPScTIP BETWEENn",
     "dTOUCHING INSIDE MOUTHcINSIDE MOUTH RELAXEDcMOVES AGAINST CHEEKcCENTRE STICKING OUT",
     "dINSIDE MOUTHbTEETHcMOVEMENTcON TONGUEeMOVEMENTdLIPSeMOVEMENTcBITE LIPS",
     "bMOVEMENT-WALLPLANE JAWbMOVEMENT-FLOORPLANEnbNECKbHAIRbEXCITEMENTbSHOULDER HIP SPINE",
     "dPOSITIONSbWALLPLANE SHOULDER HIP MOVEbFLOORPLANEpbSHOULDER TILTING FROM WAIST",
     "bTORSO-WALLPLANE STRAIGHT STRETCHcCURVED BENDbTORSO-FLOORPLANE TWISTING",
     "bUPPER BODY TILTING FROM HIP JOINTSbLIMB COMBINATIONcLENGTH-1cLENGTH-2cLENGTH-3cLENGTH-4",
     "cLENGTH-5cLENGTH-6cLENGTH-7bFINGERbLOCATION-WALLPLANE SPACEbLOCATION-FLOORPLANEn",
     "bLOCATION HEIGHTcWIDTHcDEPTHcHEAD NECKcTORSOcLIMBS DIGITSbCOMMAbFULL STOPbSEMICOLONbCOLON",
     "bPARENTHESIS"]⟩,
   ⟨0x1DA9B, ["aSIGNWRITING FILL MODIFIER-2cMODIFIER-3cMODIFIER-4cMODIFIER-5cMODIFIER-6"]⟩,
   ⟨0x1DAA1, ["aSIGNWRITING ROTATION MODIFIER-2cMODIFIER-3cMODIFIER-4cMODIFIER-5cMODIFIER-6",
     "cMODIFIER-7cMODIFIER-8cMODIFIER-9cMODIFIER-10cMODIFIER-11cMODIFIER-12cMODIFIER-13",
     "cMODIFIER-14cMODIFIER-15cMODIFIER-16"]⟩,
   ⟨0x1DF00, ["aLATIN SMALL LETTER FENG DIGRAPH WITH TRILLdREVERSED SCRIPT G",
     "bLETTER SMALL CAPITAL TURNEDnbSMALL LETTER REVERSED KbLETTER SMALL CAPITAL L WITH BELT",
     "bSMALL LETTER LEZH WITH RETROFLEX HOOKdTURNED Y WITH BELTdREVERSED ENG",
     "dTURNED R WITH LONG LEG AND RETROFLEX HOOKdT WITH HOOKpbLETTER RETROFLEX CLICK WITHo",
     "bSMALL LETTER ESH WITH DOUBLE BARhAND CURLdTURNED T WITHnbLETTER INVERTED GLOTTAL STOPo",
     "cSTRETCHED CocSMALL CAPITAL TURNED KbSMALL LETTER L WITH FISHHOOK",
     "dDEZH DIGRAPH WITH PALATAL HOOKdL WITH BELT ANDodENG WITHodTURNED RpdR WITH FISHHOOK ANDo",
     "dTESH DIGRAPH WITHodEZHpdDEZH DIGRAPH WITH RETROFLEXndI WITH STROKE ANDodO WITHo",
     "dTESH DIGRAPHpdCpdS WITH CURL"]⟩,
   ⟨0x1E000, ["aCOMBINING GLAGOLITIC LETTER AZUdBUKYdVEDEdGLAGOLIdDOBROdYESTUdZHIVETE"]⟩,
   ⟨0x1E008, ["aCOMBINING GLAGOLITIC LETTER ZEMLJAdIZHEdINITIALndIdDJERVIdKAKOdLJUDIJEdMYSLITE",
     "dNASHIdONUdPOKOJIdRITSIdSLOVOdTVRIDOdUKUdFRITUdHERU"]⟩,
   ⟨0x1E01B, ["aCOMBINING GLAGOLITIC LETTER SHTAdTSIdCHRIVIdSHAdYERUdYERIdYATI"]⟩,
   ⟨0x1E023, ["aCOMBINING GLAGOLITIC LETTER YUdSMALL YUS"]⟩,
   ⟨0x1E026, ["aCOMBINING GLAGOLITIC LETTER YOdIOTATED SMALL YUSdBIGndIOTATEDodFITA"]⟩,
   ⟨0x1E100, ["aNYIAKENG PUACHUE HMONG LETTER MAeTSAeNTAeTAeHAeNAeXAeNKAeCAeLAeSAeZAeNCAeNTSAeKA",
     "eDAeNYAeNRAeVAeNTXAeTXAeFAeRAeQAeYAeNQAePAeXYAeNPAeDLAeNPLAeHAHeMLAePLAeGAeRRAeAeAAeIeUeOeOO",
     "eEeEEeW"]⟩,
   ⟨0x1E130, ["aNYIAKENG PUACHUE HMONG TONE-BdTONE-MdTONE-JdTONE-VdTONE-SdTONE-GdTONE-D",
     "dSIGN FOR PERSONfTHINGfLOCATIONfANIMALfINVERTEBRATEeXW XWdSYLLABLE LENGTHENER"]⟩,
   ⟨0x1E140, ["aNYIAKENG PUACHUE HMONG DIGIT ZEROeONEeTWOeTHREEeFOUReFIVEeSIXeSEVENeEIGHTeNINE"]⟩,
   ⟨0x1E14E, ["aNYIAKENG PUACHUE HMONG LOGOGRAM NYAJdCIRCLED CA"]⟩,
   ⟨0x1E290, ["aTOTO LETTER PAcBAcTAcDAcKAcGAcMAcNAcNGAcSAcCHAcYAcWAcJAcHAcRAcLAcIcBREATHYncIU",
     "cBREATHYncUcEcBREATHYncEOcBREATHYncOcAEcBREATHYncAbSIGN RISING TONE"]⟩,
   ⟨0x1E2C0, ["aWANCHO LETTER AAcAcBAcCAcDAcGAcYAcPHAcLAcNAcPAcTAcTHAcFAcSAcSHAcJAcZAcWAcVAcKAcO",
     "cAUcRAcMAcKHAcHAcEcIcNGAcUcLLHAcTSAcTRAcONGcAANGcANGcINGcONcENcAANcNYAcUENcYIHbTONE TUP",
     "cTUPNIcKOIcKOINIbDIGIT ZEROcONEcTWOcTHREEcFOURcFIVEcSIXcSEVENcEIGHTcNINE"]⟩,
   ⟨0x1E2FF, ["aWANCHO NGUN SIGN"]⟩,
   ⟨0x1E7E0, ["aETHIOPIC SYLLABLE HHYAcHHYUcHHYIcHHYAAcHHYEEcHHYEcHHYO"]⟩,
   ⟨0x1E7E8, ["aETHIOPIC SYLLABLE GURAGE HHWAcHHWIcHHWEEcHHWE"]⟩,
   ⟨0x1E7ED, ["aETHIOPIC SYLLABLE GURAGE MWIdMWEE"]⟩,
   ⟨0x1E7F0, ["aETHIOPIC SYLLABLE GURAGE QWIdQWEEdQWEdBWIdBWEEdKWIdKWEEdKWEdGWIdGWEEdGWEdFWIdFWEE",
     "dPWIdPWEE"]⟩,
   ⟨0x1E800, ["aMENDE KIKAKUI SYLLABLE M001 KIdM002 KAdM003 KUdM065 KEEdM095 KEdM076 KOOdM048 KO",
     "dM179 KUAdM004 WIdM005 WAdM006 WUdM126 WEEdM118 WEdM114 WOOdM045 WOdM194 WUIdM143 WEI",
     "dM061 WVIdM049 WVAdM139 WVEdM007 MINdM008 MANdM009 MUNdM059 MENdM094 MONdM154 MUANdM189 MUEN",
     "dM010 BIdM011 BAdM012 BUdM150 BEEdM097 BEdM103 BOOdM138 BOdM013 IdM014 AdM015 UdM163 EE",
     "dM100 EdM165 OOdM147 OdM137 EIdM131 INdM135ndM195 ANdM178 ENdM019 SIdM020 SAdM021 SU",
     "dM162 SEEdM116 SEdM136 SOOdM079 SOdM196 SIAdM025 LIdM026 LAdM027 LUdM084 LEEdM073 LE",
     "dM054 LOOdM153 LOdM110 LONG LEdM016 DIdM017 DAdM018 DUdM089 DEEdM180 DOOdM181 DOdM022 TI",
     "dM023 TAdM024 TUdM091 TEEdM055 TEdM104 TOOdM069 TOdM028 JIdM029 JAdM030 JUdM157 JEEdM113 JE",
     "dM160 JOOdM063 JOdM175 LONGndM031 YIdM032 YAdM033 YUdM109 YEEdM080 YEdM141 YOOdM121 YO",
     "dM034 FIdM035 FAdM036 FUdM078 FEEdM075 FEdM133 FOOdM088 FOdM197 FUAdM101 FANdM037 NIN",
     "dM038 NANdM039 NUNdM117 NENdM169 NONdM176 HIdM041 HAdM186 HUdM040 HEEdM096 HEdM042 HOO",
     "dM140 HOdM083 HEEIdM128 HOOUdM053 HINdM130 HANdM087 HUNdM052 HENdM193 HONdM046 HUAN",
     "dM090 NGGIdM043 NGGAdM082 NGGUdM115 NGGEEdM146 NGGEdM156 NGGOOdM120 NGGOdM159 NGGAA",
     "dM127 NGGUAdM086 LONG NGGEdM106 LONG NGGOOdM183 LONG NGGOdM155 GIdM111 GAdM168 GUdM190 GEE",
     "dM166 GUEIdM167 GUANdM184 NGENdM057 NGONdM177 NGUANdM068 PIdM099 PAdM050 PUdM081 PEEdM051 PE",
     "dM102 POOdM066 POdM145 MBIdM062 MBAdM122 MBUdM047 MBEEdM188ndM072 MBEdM172 MBOOdM174 MBO",
     "dM187 MBUUdM161 LONG MBEdM105 LONG MBOOdM142 LONG MBOdM132 KPIdM092 KPAdM074 KPUdM044 KPEE",
     "dM108 KPEdM112 KPOOdM158 KPOdM124 GBIdM056 GBAdM148 GBUdM093 GBEEdM107 GBEdM071 GBOO",
     "dM070 GBOdM171 RAdM123 NDIdM129 NDAdM125 NDUdM191 NDEEdM119 NDEdM067 NDOOdM064 NDOdM152 NJA",
     "dM192 NJUdM149 NJEEdM134 NJOOdM182 VIdM185 VAdM151 VUdM173 VEEdM085 VEdM144 VOOdM077 VO",
     "dM164 NYINdM058 NYANdM170 NYUNdM098 NYENdM060 NYON"]⟩,
   ⟨0x1E8C7, ["aMENDE KIKAKUI DIGIT ONEdTWOdTHREEdFOURdFIVEdSIXdSEVENdEIGHTdNINE",
     "cCOMBINING NUMBER TEENSeTENSeHUNDREDSeTHOUSANDSeTENneHUNDREDneMILLIONS"]⟩,
   ⟨0x1E900, ["aADLAM CAPITAL LETTER ALIFdDAALIdLAAMdMIIMdBAdSINNYIIYHEdPEdBHEdRAdEdFAdIdOdDHAdYHE",
     "dWAWdNUNdKAFdYAdUdJIIMdCHIdHAdQAAFdGAdNYAdTUdNHAdVAdKHAdGBEdZALdKPOdSHAbSMALL LETTER ALIF",
     "dDAALIdLAAMdMIIMdBAdSINNYIIYHEdPEdBHEdRAdEdFAdIdOdDHAdYHEdWAWdNUNdKAFdYAdUdJIIMdCHIdHAdQAAF",
     "dGAdNYAdTUdNHAdVAdKHAdGBEdZALdKPOdSHAbALIF LENGTHENERbVOWELnbGEMINATION MARKbHAMZA",
     "bCONSONANT MODIFIERbGEMINATEobNUKTAbNASALIZATION MARK"]⟩,
   ⟨0x1E950, ["aADLAM DIGIT ZEROcONEcTWOcTHREEcFOURcFIVEcSIXcSEVENcEIGHTcNINE"]⟩,
   ⟨0x1E95E, ["aADLAM INITIAL EXCLAMATION MARKcQUESTIONn"]⟩,
   ⟨0x1EC71, ["aINDIC SIYAQ NUMBER ONEdTWOdTHREEdFOURdFIVEdSIXdSEVENdEIGHTdNINEdTENdTWENTYdTHIRTY",
     "dFORTYdFIFTYdSIXTYdSEVENTYdEIGHTYdNINETYdONE HUNDREDdTWOndTHREEndFOURndFIVEndSIXndSEVENn",
     "dEIGHTndNINEndONE THOUSANDdTWOndTHREEndFOURndFIVEndSIXndSEVENndEIGHTndNINEndTENndTWENTYn",
     "dTHIRTYndFORTYndFIFTYndSIXTYndSEVENTYndEIGHTYndNINETYndLAKHdLAKHANcLAKH MARKcNUMBER KAROR",
     "dKARORANdPREFIXED ONEeTWOeTHREEeFOUReFIVEeSIXeSEVENeEIGHTeNINEcPLACEHOLDER",
     "cFRACTION ONE QUARTEReHALFdTHREE QUARTERScRUPEE MARKcNUMBER ALTERNATE ONEeTWOeTEN THOUSAND",
     "cALTERNATE LAKH MARK"]⟩,
   ⟨0x1ED01, ["aOTTOMAN SIYAQ NUMBER ONEdTWOdTHREEdFOURdFIVEdSIXdSEVENdEIGHTdNINEdTENdTWENTY",
     "dTHIRTYdFORTYdFIFTYdSIXTYdSEVENTYdEIGHTYdNINETYdONE HUNDREDdTWOndTHREEndFOURndFIVEndSIXn",
     "dSEVENndEIGHTndNINEndONE THOUSANDdTWOndTHREEndFOURndFIVEndSIXndSEVENndEIGHTndNINEndTENn",
     "dTWENTYndTHIRTYndFORTYndFIFTYndSIXTYndSEVENTYndEIGHTYndNINETYncMARRATANcALTERNATE NUMBER TWO",
     "eTHREEeFOUReFIVEeSIXeSEVENeEIGHTeNINEeTENeFOUR HUNDREDeSIXneTWO THOUSANDeTENn",
     "cFRACTION ONE HALFeSIXTH"]⟩,
   ⟨0x1EE00, ["aARABIC MATHEMATICAL ALEFcBEHcJEEMcDAL"]⟩,
   ⟨0x1EE05, ["aARABIC MATHEMATICAL WAWcZAINcHAHcTAHcYEHcKAFcLAMcMEEMcNOONcSEENcAINcFEHcSADcQAF",
     "cREHcSHEENcTEHcTHEHcKHAHcTHALcDADcZAHcGHAINcDOTLESS BEHdNOONdFEHdQAF"]⟩,
   ⟨0x1EE21, ["aARABIC MATHEMATICAL INITIAL BEHdJEEM"]⟩,
   ⟨0x1EE24, ["aARABIC MATHEMATICAL INITIAL HEH"]⟩,
   ⟨0x1EE27, ["aARABIC MATHEMATICAL INITIAL HAH"]⟩,
   ⟨0x1EE29, ["aARABIC MATHEMATICAL INITIAL YEHdKAFdLAMdMEEMdNOONdSEENdAINdFEHdSADdQAF"]⟩,
   ⟨0x1EE34, ["aARABIC MATHEMATICAL INITIAL SHEENdTEHdTHEHdKHAH"]⟩,
   ⟨0x1EE39, ["aARABIC MATHEMATICAL INITIAL DAD"]⟩,
   ⟨0x1EE3B, ["aARABIC MATHEMATICAL INITIAL GHAIN"]⟩,
   ⟨0x1EE42, ["aARABIC MATHEMATICAL TAILED JEEM"]⟩,
   ⟨0x1EE47, ["aARABIC MATHEMATICAL TAILED HAH"]⟩,
   ⟨0x1EE49, ["aARABIC MATHEMATICAL TAILED YEH"]⟩,
   ⟨0x1EE4B, ["aARABIC MATHEMATICAL TAILED LAM"]⟩,
   ⟨0x1EE4D, ["aARABIC MATHEMATICAL TAILED NOONdSEENdAIN"]⟩,
   ⟨0x1EE51, ["aARABIC MATHEMATICAL TAILED SADdQAF"]⟩,
   ⟨0x1EE54, ["aARABIC MATHEMATICAL TAILED SHEEN"]⟩,
   ⟨0x1EE57, ["aARABIC MATHEMATICAL TAILED KHAH"]⟩,
   ⟨0x1EE59, ["aARABIC MATHEMATICAL TAILED DAD"]⟩,
   ⟨0x1EE5B, ["aARABIC MATHEMATICAL TAILED GHAIN"]⟩,
   ⟨0x1EE5D, ["aARABIC MATHEMATICAL TAILED DOTLESS NOON"]⟩,
   ⟨0x1EE5F, ["aARABIC MATHEMATICAL TAILED DOTLESS QAF"]⟩,
   ⟨0x1EE61, ["aARABIC MATHEMATICAL STRETCHED BEHdJEEM"]⟩,
   ⟨0x1EE64, ["aARABIC MATHEMATICAL STRETCHED HEH"]⟩,
   ⟨0x1EE67, ["aARABIC MATHEMATICAL STRETCHED HAHdTAHdYEHdKAF"]⟩,
   ⟨0x1EE6C, ["aARABIC MATHEMATICAL STRETCHED MEEMdNOONdSEENdAINdFEHdSADdQAF"]⟩,
   ⟨0x1EE74, ["aARABIC MATHEMATICAL STRETCHED SHEENdTEHdTHEHdKHAH"]⟩,
   ⟨0x1EE79, ["aARABIC MATHEMATICAL STRETCHED DADdZAHdGHAINdDOTLESS BEH"]⟩,
   ⟨0x1EE7E, ["aARABIC MATHEMATICAL STRETCHED DOTLESS FEH"]⟩,
   ⟨0x1EE80, ["aARABIC MATHEMATICAL LOOPED ALEFdBEHdJEEMdDALdHEHdWAWdZAINdHAHdTAHdYEH"]⟩,
   ⟨0x1EE8B, ["aARABIC MATHEMATICAL LOOPED LAMdMEEMdNOONdSEENdAINdFEHdSADdQAFdREHdSHEENdTEHdTHEH",
     "dKHAHdTHALdDADdZAHdGHAIN"]⟩,
   ⟨0x1EEA1, ["aARABIC MATHEMATICAL DOUBLE-STRUCK BEHdJEEMdDAL"]⟩,
   ⟨0x1EEA5, ["aARABIC MATHEMATICAL DOUBLE-STRUCK WAWdZAINdHAHdTAHdYEH"]⟩,
   ⟨0x1EEAB, ["aARABIC MATHEMATICAL DOUBLE-STRUCK LAMdMEEMdNOONdSEENdAINdFEHdSADdQAFdREHdSHEENdTEH",
     "dTHEHdKHAHdTHALdDADdZAHdGHAIN"]⟩,
   ⟨0x1EEF0, ["aARABIC MATHEMATICAL OPERATOR MEEM WITH HAH WITH TATWEELdHAH WITH DAL"]⟩,
   ⟨0x1F000, ["aMAHJONG TILE EAST WINDcSOUTHncWESTncNORTHncRED DRAGONcGREENncWHITEn",
     "cONE OF CHARACTERScTWOocTHREEocFOURocFIVEocSIXocSEVENocEIGHTocNINEocONE OF BAMBOOScTWOo",
     "cTHREEocFOURocFIVEocSIXocSEVENocEIGHTocNINEocONE OF CIRCLEScTWOocTHREEocFOURocFIVEocSIXo",
     "cSEVENocEIGHTocNINEocPLUMcORCHIDcBAMBOOcCHRYSANTHEMUMcSPRINGcSUMMERcAUTUMNcWINTERcJOKER",
     "cBACK"]⟩,
   ⟨0x1F030, ["aDOMINO TILE HORIZONTAL BACKcHORIZONTAL-00-00cHORIZONTAL-00-01cHORIZONTAL-00-02",
     "cHORIZONTAL-00-03cHORIZONTAL-00-04cHORIZONTAL-00-05cHORIZONTAL-00-06cHORIZONTAL-01-00",
     "cHORIZONTAL-01-01cHORIZONTAL-01-02cHORIZONTAL-01-03cHORIZONTAL-01-04cHORIZONTAL-01-05",
     "cHORIZONTAL-01-06cHORIZONTAL-02-00cHORIZONTAL-02-01cHORIZONTAL-02-02cHORIZONTAL-02-03",
     "cHORIZONTAL-02-04cHORIZONTAL-02-05cHORIZONTAL-02-06cHORIZONTAL-03-00cHORIZONTAL-03-01",
     "cHORIZONTAL-03-02cHORIZONTAL-03-03cHORIZONTAL-03-04cHORIZONTAL-03-05cHORIZONTAL-03-06",
     "cHORIZONTAL-04-00cHORIZONTAL-04-01cHORIZONTAL-04-02cHORIZONTAL-04-03cHORIZONTAL-04-04",
     "cHORIZONTAL-04-05cHORIZONTAL-04-06cHORIZONTAL-05-00cHORIZONTAL-05-01cHORIZONTAL-05-02",
     "cHORIZONTAL-05-03cHORIZONTAL-05-04cHORIZONTAL-05-05cHORIZONTAL-05-06cHORIZONTAL-06-00",
     "cHORIZONTAL-06-01cHORIZONTAL-06-02cHORIZONTAL-06-03cHORIZONTAL-06-04cHORIZONTAL-06-05",
     "cHORIZONTAL-06-06cVERTICAL BACKcVERTICAL-00-00cVERTICAL-00-01cVERTICAL-00-02cVERTICAL-00-03",
     "cVERTICAL-00-04cVERTICAL-00-05cVERTICAL-00-06cVERTICAL-01-00cVERTICAL-01-01cVERTICAL-01-02",
     "cVERTICAL-01-03cVERTICAL-01-04cVERTICAL-01-05cVERTICAL-01-06cVERTICAL-02-00cVERTICAL-02-01",
     "cVERTICAL-02-02cVERTICAL-02-03cVERTICAL-02-04cVERTICAL-02-05cVERTICAL-02-06cVERTICAL-03-00",
     "cVERTICAL-03-01cVERTICAL-03-02cVERTICAL-03-03cVERTICAL-03-04cVERTICAL-03-05cVERTICAL-03-06",
     "cVERTICAL-04-00cVERTICAL-04-01cVERTICAL-04-02cVERTICAL-04-03cVERTICAL-04-04cVERTICAL-04-05",
     "cVERTICAL-04-06cVERTICAL-05-00cVERTICAL-05-01cVERTICAL-05-02cVERTICAL-05-03cVERTICAL-05-04",
     "cVERTICAL-05-05cVERTICAL-05-06cVERTICAL-06-00cVERTICAL-06-01cVERTICAL-06-02cVERTICAL-06-03",
     "cVERTICAL-06-04cVERTICAL-06-05cVERTICAL-06-06"]⟩,
   ⟨0x1F0A0, ["aPLAYING CARD BACKcACE OF SPADEScTWOocTHREEocFOURocFIVEocSIXocSEVENocEIGHTocNINEo",
     "cTENocJACKocKNIGHTocQUEENocKINGo"]⟩,
   ⟨0x1F0B1, ["aPLAYING CARD ACE OF HEARTScTWOocTHREEocFOURocFIVEocSIXocSEVENocEIGHTocNINEocTENo",
     "cJACKocKNIGHTocQUEENocKINGocRED JOKER"]⟩,
   ⟨0x1F0C1, ["aPLAYING CARD ACE OF DIAMONDScTWOocTHREEocFOURocFIVEocSIXocSEVENocEIGHTocNINEocTENo",
     "cJACKocKNIGHTocQUEENocKINGocBLACK JOKER"]⟩,
   ⟨0x1F0D1, ["aPLAYING CARD ACE OF CLUBScTWOocTHREEocFOURocFIVEocSIXocSEVENocEIGHTocNINEocTENo",
     "cJACKocKNIGHTocQUEENocKINGocWHITE JOKERcFOOLcTRUMP-1cTRUMP-2cTRUMP-3cTRUMP-4cTRUMP-5cTRUMP-6",
     "cTRUMP-7cTRUMP-8cTRUMP-9cTRUMP-10cTRUMP-11cTRUMP-12cTRUMP-13cTRUMP-14cTRUMP-15cTRUMP-16",
     "cTRUMP-17cTRUMP-18cTRUMP-19cTRUMP-20cTRUMP-21"]⟩,
   ⟨0x1F100, ["aDIGIT ZERO FULL STOPcCOMMAbONEnbTWOnbTHREEnbFOURnbFIVEnbSIXnbSEVENnbEIGHTnbNINEn",
     "aDINGBAT CIRCLED SANS-SERIF DIGIT ZERObNEGATIVEqaCIRCLED ZERO WITH SLASHbANTICLOCKWISE ARROW",
     "bDOLLAR SIGN WITH OVERLAID BACKSLASHaPARENTHESIZED LATIN CAPITAL LETTER AeBeCeDeEeFeGeHeIeJ",
     "eKeLeMeNeOePeQeReSeTeUeVeWeXeYeZaTORTOISE SHELL BRACKETED LATIN CAPITAL LETTER S",
     "aCIRCLED ITALIC LATIN CAPITAL LETTER CfRbCDbWZa\x43OPYLEFT SYMBOL",
     "aSQUARED LATIN CAPITAL LETTER AeBeCeDeEeFeGeHeIeJeKeLeMeNeOePeQeReSeTeUeVeWeXeYeZbHVbMVbSD",
     "bSSbPPVbWCaNEGATIVE CIRCLED LATIN CAPITAL LETTER AfBfCfDfEfFfGfHfIfJfKfLfMfNfOfPfQfRfSfTfUfV",
     "fWfXfYfZaRAISED MC SIGNbMDnbMRnaCIRCLED CCbC WITH OVERLAID BACKSLASHbHUMAN FIGURE",
     "aNEGATIVE SQUARED LATIN CAPITAL LETTER AfBfCfDfEfFfGfHfIfJfKfLfMfNfOfPfQfRfSfTfUfVfWfXfYfZ",
     "aCROSSED NEGATIVE SQUARED LATIN CAPITAL LETTER PaNEGATIVE SQUARED ICcPAcSAcABcWCaSQUARE DJ",
     "aSQUARED CLbCOOLbFREEbIDbNEWbNGbOKbSOSbUP WITH EXCLAMATION MARKbVSbTHREE DbSECOND SCREEN",
     "bTWO KbFOURnbEIGHTnbFIVE POINT ONEbSEVENobTWENTY-TWO POINT TWObSIXTY PbONE HUNDRED TWENTYn",
     "bLATIN SMALL LETTER DbHCbHDRbHI-RESbLOSSLESSbSHVbUHDbVODaMASK WORK SYMBOL"]⟩,
   ⟨0x1F1E6, ["aREGIONAL INDICATOR SYMBOL LETTER AeBeCeDeEeFeGeHeIeJeKeLeMeNeOePeQeReSeTeUeVeWeXeY",
     "eZaSQUARE HIRAGANA HOKAaSQUARED KATAKANA KOKOcSA"]⟩,
   ⟨0x1F210, ["aSQUARED CJK UNIFIED IDEOGRAPH-624BdIDEOGRAPH-5B57dIDEOGRAPH-53CCbKATAKANA DE",
     "bCJK UNIFIED IDEOGRAPH-4E8CdIDEOGRAPH-591AdIDEOGRAPH-89E3dIDEOGRAPH-5929dIDEOGRAPH-4EA4",
     "dIDEOGRAPH-6620dIDEOGRAPH-7121dIDEOGRAPH-6599dIDEOGRAPH-524DdIDEOGRAPH-5F8CdIDEOGRAPH-518D",
     "dIDEOGRAPH-65B0dIDEOGRAPH-521DdIDEOGRAPH-7D42dIDEOGRAPH-751FdIDEOGRAPH-8CA9dIDEOGRAPH-58F0",
     "dIDEOGRAPH-5439dIDEOGRAPH-6F14dIDEOGRAPH-6295dIDEOGRAPH-6355dIDEOGRAPH-4E00dIDEOGRAPH-4E09",
     "dIDEOGRAPH-904AdIDEOGRAPH-5DE6dIDEOGRAPH-4E2DdIDEOGRAPH-53F3dIDEOGRAPH-6307dIDEOGRAPH-8D70",
     "dIDEOGRAPH-6253dIDEOGRAPH-7981dIDEOGRAPH-7A7AdIDEOGRAPH-5408dIDEOGRAPH-6E80dIDEOGRAPH-6709",
     "dIDEOGRAPH-6708dIDEOGRAPH-7533dIDEOGRAPH-5272dIDEOGRAPH-55B6dIDEOGRAPH-914D"]⟩,
   ⟨0x1F240, ["aTORTOISE SHELL BRACKETED CJK UNIFIED IDEOGRAPH-672CfIDEOGRAPH-4E09fIDEOGRAPH-4E8C",
     "fIDEOGRAPH-5B89fIDEOGRAPH-70B9fIDEOGRAPH-6253fIDEOGRAPH-76D7fIDEOGRAPH-52DDfIDEOGRAPH-6557"]⟩,
   ⟨0x1F250, ["aCIRCLED IDEOGRAPH ADVANTAGEcACCEPT"]⟩,
   ⟨0x1F260, ["aROUNDED SYMBOL FOR FUdLUdSHOUdXIdSHUANGXIdCAI"]⟩,
   ⟨0x1F300, ["aCYCLONEaFOGGYaCLOSED UMBRELLAaNIGHT WITH STARSaSUNRISE OVER MOUNTAINSb",
     "aCITYSCAPE AT DUSKaSUNSET OVER BUILDINGSaRAINBOWaBRIDGE AT NIGHTaWATER WAVEaVOLCANO",
     "aMILKY WAYaEARTH GLOBE EUROPE-AFRICAcAMERICAScASIA-AUSTRALIAaGLOBE WITH MERIDIANS",
     "aNEW MOON SYMBOLaWAXING CRESCENToaFIRST QUARTERoaWAXING GIBBOUSoaFULLoaWANING GIBBOUSo",
     "aLAST QUARTERoaWANING CRESCENToaCRESCENT MOONaNEW MOON WITH FACEaFIRST QUARTERpaLASTqaFULLp",
     "aSUNoaGLOWING STARaSHOOTINGnaTHERMOMETERaBLACK DROPLETaWHITE SUNcWITH SMALL CLOUDcBEHINDn",
     "eWITH RAINapcSNOWcLIGHTNINGcTORNADOaFOGaWIND BLOWING FACEaHOT DOGaTACOaBURRITOaCHESTNUT",
     "aSEEDLINGaEVERGREEN TREEaDECIDUOUSnaPALMnaCACTUSaHOT PEPPERaTULIPaCHERRY BLOSSOMaROSE",
     "aHIBISCUSaSUNFLOWERaBLOSSOMaEAR OF MAIZEcRICEaHERBaFOUR LEAF CLOVERaMAPLE LEAFaFALLENn",
     "aLEAF FLUTTERING IN WINDaMUSHROOMaTOMATOaAUBERGINEaGRAPESaMELONaWATERMELONaTANGERINEaLEMON",
     "aBANANAaPINEAPPLEaRED APPLEaGREENnaPEARaPEACHaCHERRIESaSTRAWBERRYaHAMBURGERaSLICE OF PIZZA",
     "aMEAT ON BONEaPOULTRY LEGaRICE CRACKERbBALLaCOOKED RICEaCURRY ANDnaSTEAMING BOWLaSPAGHETTI",
     "aBREADaFRENCH FRIESaROASTED SWEET POTATOaDANGOaODENaSUSHIaFRIED SHRIMP",
     "aFISH CAKE WITH SWIRL DESIGNaSOFT ICE CREAMaSHAVED ICEaICE CREAMaDOUGHNUTaCOOKIE",
     "aCHOCOLATE BARaCANDYaLOLLIPOPaCUSTARDaHONEY POTaSHORTCAKEaBENTO BOXaPOT OF FOODaCOOKING",
     "aFORK AND KNIFEaTEACUP WITHOUT HANDLEaSAKE BOTTLE AND CUPaWINE GLASSaCOCKTAILn",
     "aTROPICAL DRINKaBEER MUGaCLINKING BEER MUGSaBABY BOTTLEaFORK AND KNIFE WITH PLATE",
     "aBOTTLE WITH POPPING CORKaPOPCORNaRIBBONaWRAPPED PRESENTaBIRTHDAY CAKEaJACK-O-LANTERN",
     "aCHRISTMAS TREEaFATHER CHRISTMASaFIREWORKSaFIREWORK SPARKLERaBALLOONaPARTY POPPER",
     "aCONFETTI BALLaTANABATA TREEaCROSSED FLAGSaPINE DECORATIONaJAPANESE DOLLSaCARP STREAMER",
     "aWIND CHIMEaMOON VIEWING CEREMONYaSCHOOL SATCHELaGRADUATION CAPaHEART WITH TIP ON THE LEFT",
     "aBOUQUET OF FLOWERSaMILITARY MEDALaREMINDER RIBBONaMUSICAL KEYBOARD WITH JACKS",
     "aSTUDIO MICROPHONEaLEVEL SLIDERaCONTROL KNOBSaBEAMED ASCENDING MUSICAL NOTESbDESCENDINGo",
     "aFILM FRAMESaADMISSION TICKETSaCAROUSEL HORSEaFERRIS WHEELaROLLER COASTER",
     "aFISHING POLE AND FISHaMICROPHONEaMOVIE CAMERAaCINEMAaHEADPHONEaARTIST PALETTEaTOP HAT",
     "aCIRCUS TENTaTICKETaCLAPPER BOARDaPERFORMING ARTSaVIDEO GAMEaDIRECT HITaSLOT MACHINE",
     "aBILLIARDSaGAME DIEaBOWLINGaFLOWER PLAYING CARDSaMUSICAL NOTEaMULTIPLE MUSICAL NOTES",
     "aSAXOPHONEaGUITARaMUSICAL KEYBOARDaTRUMPETaVIOLINaMUSICAL SCOREaRUNNING SHIRT WITH SASH",
     "aTENNIS RACQUET AND BALLaSKI AND SKI BOOTaBASKETBALL AND HOOPaCHEQUERED FLAGaSNOWBOARDER",
     "aRUNNERaSURFERaSPORTS MEDALaTROPHYaHORSE RACINGaAMERICAN FOOTBALLaRUGBYnaSWIMMER",
     "aWEIGHT LIFTERaGOLFERaRACING MOTORCYCLEbCARaCRICKET BAT AND BALLaVOLLEYBALL",
     "aFIELD HOCKEY STICK AND BALLaICE HOCKEY STICK AND PUCKaTABLE TENNIS PADDLE AND BALL",
     "aSNOW CAPPED MOUNTAINaCAMPINGaBEACH WITH UMBRELLAaBUILDING CONSTRUCTIONaHOUSE BUILDINGS",
     "aCITYSCAPEaDERELICT HOUSE BUILDINGaCLASSICALnaDESERTbISLANDaNATIONAL PARKaSTADIUM",
     "aHOUSE BUILDINGbWITH GARDENaOFFICE BUILDINGaJAPANESE POST OFFICEaEUROPEANoaHOSPITALaBANK",
     "aAUTOMATED TELLER MACHINEaHOTELaLOVEnaCONVENIENCE STOREaSCHOOLaDEPARTMENT STOREaFACTORY",
     "aIZAKAYA LANTERNaJAPANESE CASTLEaEUROPEANnaWHITE PENNANTaBLACKnaWAVING WHITE FLAGbBLACKn",
     "aROSETTEaBLACKnaLABELaBADMINTON RACQUET AND SHUTTLECOCKaBOW AND ARROWaAMPHORA",
     "aEMOJI MODIFIER FITZPATRICK TYPE-1-2dTYPE-3dTYPE-4dTYPE-5dTYPE-6aRATaMOUSEaOXaWATER BUFFALO",
     "aCOWaTIGERaLEOPARDaRABBITaCATaDRAGONaCROCODILEaWHALEaSNAILaSNAKEaHORSEaRAMaGOATaSHEEPaMONKEY",
     "aROOSTERaCHICKENaDOGaPIGaBOARaELEPHANTaOCTOPUSaSPIRAL SHELLaBUGaANTaHONEYBEEaLADY BEETLE",
     "aFISHaTROPICALnaBLOWFISHaTURTLEaHATCHING CHICKaBABYnaFRONT-FACINGoaBIRDaPENGUINaKOALAaPOODLE",
     "aDROMEDARY CAMELaBACTRIANnaDOLPHINaMOUSE FACEaCOWnaTIGERnaRABBITnaCATnaDRAGONn",
     "aSPOUTING WHALEaHORSE FACEaMONKEYnaDOGnaPIGnaFROGnaHAMSTERnaWOLFnaBEARnaPANDAnaPIG NOSE",
     "aPAW PRINTSaCHIPMUNKaEYESaEYEaEARaNOSEaMOUTHaTONGUEaWHITE UP POINTING BACKHAND INDEXbDOWNp",
     "bLEFTpbRIGHTpaFISTED HAND SIGNaWAVINGoaOKoaTHUMBS UPnbDOWNnaCLAPPING HANDSnaOPENoaCROWN",
     "aWOMANS HATaEYEGLASSESaNECKTIEaT-SHIRTaJEANSaDRESSaKIMONOaBIKINIaWOMANS CLOTHESaPURSE",
     "aHANDBAGaPOUCHaMANS SHOEaATHLETICnaHIGH-HEELEDnaWOMANS SANDALbBOOTSaFOOTPRINTS",
     "aBUST IN SILHOUETTEaBUSTSoaBOYaGIRLaMANaWOMANaFAMILYaMAN AND WOMAN HOLDING HANDSaTWO MENo",
     "bWOMENoaPOLICE OFFICERaWOMAN WITH BUNNY EARSaBRIDE WITH VEILaPERSON WITH BLOND HAIR",
     "aMAN WITH GUA PI MAOcTURBANaOLDER MANbWOMANaBABYaCONSTRUCTION WORKERaPRINCESSaJAPANESE OGRE",
     "bGOBLINaGHOSTaBABY ANGELaEXTRATERRESTRIAL ALIENaALIEN MONSTERaIMPaSKULL",
     "aINFORMATION DESK PERSONaGUARDSMANaDANCERaLIPSTICKaNAIL POLISHaFACE MASSAGEaHAIRCUT",
     "aBARBER POLEaSYRINGEaPILLaKISS MARKaLOVE LETTERaRINGaGEM STONEaKISSaBOUQUET",
     "aCOUPLE WITH HEARTaWEDDINGaBEATING HEARTaBROKENnaTWO HEARTSaSPARKLING HEARTaGROWINGn",
     "aHEART WITH ARROWaBLUE HEARTaGREENnaYELLOWnaPURPLEnaHEART WITH RIBBONaREVOLVING HEARTS",
     "aHEART DECORATIONaDIAMOND SHAPE WITH A DOT INSIDEaELECTRIC LIGHT BULBaANGER SYMBOLaBOMB",
     "aSLEEPING SYMBOLaCOLLISIONnaSPLASHING SWEATnaDROPLETaDASH SYMBOLaPILE OF POOaFLEXED BICEPS",
     "aDIZZY SYMBOLaSPEECH BALLOONaTHOUGHTnaWHITE FLOWERaHUNDRED POINTS SYMBOLaMONEY BAG",
     "aCURRENCY EXCHANGEaHEAVY DOLLAR SIGNaCREDIT CARDaBANKNOTE WITH YEN SIGNcDOLLARncEUROncPOUNDn",
     "aMONEY WITH WINGSaCHART WITH UPWARDS TREND AND YEN SIGNaSEATaPERSONAL COMPUTERaBRIEFCASE",
     "aMINIDISCaFLOPPY DISKaOPTICAL DISCaDVDaFILE FOLDERaOPENoaPAGE WITH CURLbFACING UPaCALENDAR",
     "aTEAR-OFFnaCARD INDEXaCHART WITH UPWARDS TRENDcDOWNWARDSnaBAR CHARTaCLIPBOARDaPUSHPINaROUNDn",
     "aPAPERCLIPaSTRAIGHT RULERaTRIANGULARnaBOOKMARK TABSaLEDGERaNOTEBOOKbWITH DECORATIVE COVER",
     "aCLOSED BOOKaOPENnaGREENnaBLUEnaORANGEnaBOOKSaNAME BADGEaSCROLLaMEMOaTELEPHONE RECEIVER",
     "aPAGERaFAX MACHINEaSATELLITE ANTENNAaPUBLIC ADDRESS LOUDSPEAKERaCHEERING MEGAPHONE",
     "aOUTBOX TRAYaINBOXnaPACKAGEaE-MAIL SYMBOLaINCOMING ENVELOPE",
     "aENVELOPE WITH DOWNWARDS ARROW ABOVEaCLOSED MAILBOX WITH LOWERED FLAGdRAISEDnaOPENqdLOWEREDn",
     "aPOSTBOXaPOSTAL HORNaNEWSPAPERaMOBILE PHONEcWITH RIGHTWARDS ARROW AT LEFTaVIBRATION MODE",
     "aMOBILE PHONE OFFaNO MOBILE PHONESaANTENNA WITH BARSaCAMERAbWITH FLASHaVIDEO CAMERA",
     "aTELEVISIONaRADIOaVIDEOCASSETTEaFILM PROJECTORaPORTABLE STEREOaPRAYER BEADS",
     "aTWISTED RIGHTWARDS ARROWSaCLOCKWISE RIGHTWARDS AND LEFTWARDS OPEN CIRCLEn",
     "hWITH CIRCLED ONE OVERLAYbDOWNWARDS AND UPWARDS OPEN CIRCLE ARROWSaANTICLOCKWISEs",
     "aLOW BRIGHTNESS SYMBOLaHIGHoaSPEAKER WITH CANCELLATION STROKEbbWITH ONE SOUND WAVE",
     "cTHREE SOUND WAVESaBATTERYaELECTRIC PLUGaLEFT-POINTING MAGNIFYING GLASSaRIGHT-POINTINGo",
     "aLOCK WITH INK PENaCLOSED LOCK WITH KEYanaLOCKaOPENnaBELLbWITH CANCELLATION STROKEaBOOKMARK",
     "aLINK SYMBOLaRADIO BUTTONaBACK WITH LEFTWARDS ARROW ABOVEaENDq",
     "aON WITH EXCLAMATION MARK WITH LEFT RIGHToaSOON WITH RIGHTWARDSoaTOP WITH UPWARDSo",
     "aNO ONE UNDER EIGHTEEN SYMBOLaKEYCAP TENaINPUT SYMBOL FOR LATIN CAPITAL LETTERSeSMALLn",
     "dNUMBERSdSYMBOLSdLATIN LETTERSaFIREaELECTRIC TORCHaWRENCHaHAMMERaNUT AND BOLTaHOCHOaPISTOL",
     "aMICROSCOPEaTELESCOPEaCRYSTAL BALLaSIX POINTED STAR WITH MIDDLE DOT",
     "aJAPANESE SYMBOL FOR BEGINNERaTRIDENT EMBLEMaBLACK SQUARE BUTTONaWHITEoaLARGE RED CIRCLE",
     "bBLUEnbORANGE DIAMONDbBLUEnaSMALL ORANGEnbBLUEnaUP-POINTING RED TRIANGLEaDOWN-POINTINGo",
     "aUP-POINTING SMALLoaDOWN-POINTINGpaLOWER RIGHT SHADOWED WHITE CIRCLEaUPPERq",
     "aCIRCLED CROSS POMMEEaCROSS POMMEE WITH HALF-CIRCLE BELOWc",
     "aNOTCHED LEFT SEMICIRCLE WITH THREE DOTSbRIGHTqaSYMBOL FOR MARKS CHAPTERaWHITE LATIN CROSS",
     "aHEAVYoaCELTICnaOM SYMBOLaDOVE OF PEACEaKAABAaMOSQUEaSYNAGOGUEaMENORAH WITH NINE BRANCHES",
     "aBOWL OF HYGIEIAaCLOCK FACE ONE OCLOCKcTWOncTHREEncFOURncFIVEncSIXncSEVENncEIGHTncNINEncTENn",
     "cELEVENncTWELVEncONE-THIRTYcTWO-THIRTYcTHREE-THIRTYcFOUR-THIRTYcFIVE-THIRTYcSIX-THIRTY",
     "cSEVEN-THIRTYcEIGHT-THIRTYcNINE-THIRTYcTEN-THIRTYcELEVEN-THIRTYcTWELVE-THIRTYaRIGHT SPEAKER",
     "cWITH ONE SOUND WAVEdTHREE SOUND WAVESaBULLHORNbWITH SOUND WAVESaRINGING BELLaBOOKaCANDLE",
     "aMANTELPIECE CLOCKaBLACK SKULL AND CROSSBONESaNO PIRACYaHOLEaMAN IN BUSINESS SUIT LEVITATING",
     "aSLEUTH OR SPYaDARK SUNGLASSESaSPIDERbWEBaJOYSTICKaMAN DANCINGaLEFT HAND TELEPHONE RECEIVER",
     "aTELEPHONE RECEIVER WITH PAGEaRIGHT HAND TELEPHONE RECEIVERaWHITE TOUCHTONE TELEPHONEaBLACKo",
     "aTELEPHONE ON TOP OF MODEMaCLAMSHELL MOBILE PHONEaBACK OF ENVELOPEaSTAMPEDn",
     "aENVELOPE WITH LIGHTNINGaFLYING ENVELOPEaPEN OVER STAMPEDnaLINKED PAPERCLIPSaBLACK PUSHPIN",
     "aLOWER LEFT PENCILcBALLPOINT PENcFOUNTAINncPAINTBRUSHcCRAYONaLEFT WRITING HAND",
     "aTURNED OK HAND SIGNaRAISED HAND WITH FINGERS SPLAYEDaREVERSEDrbTHUMBS UP SIGNcDOWNn",
     "bVICTORY HANDbHAND WITH MIDDLE FINGER EXTENDED",
     "aRAISED HAND WITH PART BETWEEN MIDDLE AND RING FINGERSaWHITE DOWN POINTING LEFT HAND INDEX",
     "aSIDEWAYS WHITE LEFT POINTINGncRIGHTobBLACK LEFTocRIGHToaBLACK LEFT POINTING BACKHANDn",
     "bRIGHTpaSIDEWAYS WHITE UP POINTINGncDOWNobBLACK UPocDOWNoaBLACK UP POINTING BACKHANDnbDOWNp",
     "bHEARTaDESKTOP COMPUTERaKEYBOARD AND MOUSEaTHREE NETWORKED COMPUTERSaPRINTER",
     "aPOCKET CALCULATORaBLACK HARD SHELL FLOPPY DISKaWHITEqaSOFTpaTAPE CARTRIDGEaWIRED KEYBOARD",
     "aONE BUTTON MOUSEaTWOoaTHREEoaTRACKBALLaOLD PERSONAL COMPUTERaHARD DISKaSCREENaPRINTER ICON",
     "aFAXnaOPTICAL DISCnaDOCUMENT WITH TEXTdAND PICTUREcnaFRAMEocTILEScAN XaBLACK FOLDERanaOPENn",
     "aCARD INDEX DIVIDERSbFILE BOXaFILE CABINETaEMPTY NOTEcPAGEcPADaNOTEbPAGEbPADaEMPTY DOCUMENT",
     "bPAGEbPAGESaDOCUMENTaPAGEaPAGESaWASTEBASKETaSPIRAL NOTE PADbCALENDARnaDESKTOP WINDOW",
     "aMINIMIZEaMAXIMIZEaOVERLAPaCLOCKWISE RIGHT AND LEFT SEMICIRCLE ARROWSaCANCELLATION X",
     "aINCREASE FONT SIZE SYMBOLaDECREASEpaCOMPRESSIONaOLD KEYaROLLED-UP NEWSPAPER",
     "aPAGE WITH CIRCLED TEXTaSTOCK CHARTaDAGGER KNIFEaLIPSaSPEAKING HEAD IN SILHOUETTE",
     "aTHREE RAYS ABOVEcBELOWcLEFTcRIGHTaLEFT SPEECH BUBBLEaRIGHToaTWO SPEECH BUBBLESaTHREEo",
     "aLEFT THOUGHT BUBBLEaRIGHToaLEFT ANGERnaRIGHToaMOODnaLIGHTNINGocaBALLOT BOX WITH BALLOT",
     "bSCRIPT XbBOX WITHobBOLDobBOX WITHpaLIGHT CHECK MARKaBALLOT BOX WITH BOLD CHECKaWORLD MAP",
     "aMOUNT FUJIaTOKYO TOWERaSTATUE OF LIBERTYaSILHOUETTE OF JAPANaMOYAIaGRINNING FACE",
     "cWITH SMILING EYESaFACE WITH TEARS OF JOYaSMILING FACE WITH OPEN MOUTHfAND SMILING EYES",
     "gCOLD SWEATgTIGHTLY-CLOSED EYESdHALOdHORNSaWINKING FACEaSMILING FACE WITH SMILING EYES",
     "aFACE SAVOURING DELICIOUS FOODaRELIEVED FACEaSMILING FACE WITH HEART-SHAPED EYESdSUNGLASSES",
     "aSMIRKING FACEaNEUTRALnaEXPRESSIONLESSnaUNAMUSEDnaFACE WITH COLD SWEATaPENSIVE FACE",
     "aCONFUSEDnaCONFOUNDEDnaKISSINGnaFACE THROWING A KISSaKISSING FACE WITH SMILING EYESdCLOSEDn",
     "aFACE WITH STUCK-OUT TONGUEeAND WINKING EYEfTIGHTLY-CLOSED EYESaDISAPPOINTED FACEaWORRIEDn",
     "aANGRYnaPOUTINGnaCRYINGnaPERSEVERINGnaFACE WITH LOOK OF TRIUMPH",
     "aDISAPPOINTED BUT RELIEVED FACEaFROWNING FACE WITH OPEN MOUTHaANGUISHED FACEaFEARFULnaWEARYn",
     "aSLEEPYnaTIREDnaGRIMACINGnaLOUDLY CRYINGnaFACE WITH OPEN MOUTHaHUSHED FACE",
     "aFACE WITH OPEN MOUTH AND COLD SWEATbSCREAMING IN FEARaASTONISHED FACEaFLUSHEDnaSLEEPINGn",
     "aDIZZYnaFACE WITHOUT MOUTHbWITH MEDICAL MASKaGRINNING CAT FACE WITH SMILING EYES",
     "aCAT FACE WITH TEARS OF JOYaSMILING CAT FACE WITH OPEN MOUTHeHEART-SHAPED EYES",
     "aCAT FACE WITH WRY SMILEaKISSING CAT FACE WITH CLOSED EYESaPOUTING CAT FACEaCRYINGoaWEARYo",
     "aSLIGHTLY FROWNINGnbSMILINGnaUPSIDE-DOWNnaFACE WITH ROLLING EYEScNO GOOD GESTUREcOKn",
     "aPERSON BOWING DEEPLYaSEE-NO-EVIL MONKEYaHEAR-NO-EVILnaSPEAK-NO-EVILn",
     "aHAPPY PERSON RAISING ONE HANDaPERSON RAISING BOTH HANDS IN CELEBRATIONbFROWNING",
     "bWITH POUTING FACEcFOLDED HANDSaNORTH WEST POINTING LEAFaSOUTHpaNORTH EASToaSOUTHp",
     "aTURNED NORTH WESTobSOUTHpbNORTH EASTobSOUTHpaNORTH WEST POINTING VINEnaSOUTHqaNORTH EASTp",
     "aSOUTHqaHEAVY NORTH WESTpbSOUTHqbNORTH EASTpbSOUTHqaNORTH WEST POINTING BUDaSOUTHp",
     "aNORTH EASToaSOUTHpaHEAVY NORTH WESTobSOUTHpbNORTH EASTobSOUTHpaHOLLOW QUILT SQUARE ORNAMENT",
     "eIN BLACK SQUAREaSOLID QUILT SQUARE ORNAMENTeIN BLACK SQUAREaLEFTWARDS ROCKETaUPWARDSn",
     "aRIGHTWARDSnaDOWNWARDSnaSCRIPT LIGATURE ET ORNAMENTaHEAVYqaLIGATURE OPENoaHEAVYqbAMPERSANDn",
     "aSWASHoaSANS-SERIF HEAVY DOUBLE TURNED COMMA QUOTATION MARKndqcLOWraHEAVY INTERROBANGn",
     "aSANS-SERIFoaHEAVYpaVERY HEAVY SOLIDUScREVERSEnaCHECKER BOARDaREVERSEoaROCKETaHELICOPTER",
     "aSTEAM LOCOMOTIVEaRAILWAY CARaHIGH-SPEED TRAINcWITH BULLET NOSEaTRAINaMETROaLIGHT RAIL",
     "aSTATIONaTRAMbCARaBUSaONCOMINGnaTROLLEYBUSaBUS STOPaMINIBUSaAMBULANCEaFIRE ENGINEaPOLICE CAR",
     "aONCOMINGoaTAXIaONCOMINGnaAUTOMOBILEaONCOMINGnaRECREATIONAL VEHICLEaDELIVERY TRUCK",
     "aARTICULATED LORRYaTRACTORaMONORAILaMOUNTAIN RAILWAYaSUSPENSIONnaMOUNTAIN CABLEWAY",
     "aAERIAL TRAMWAYaSHIPaROWBOATaSPEEDBOATaHORIZONTAL TRAFFIC LIGHTaVERTICALoaCONSTRUCTION SIGN",
     "aPOLICE CARS REVOLVING LIGHTaTRIANGULAR FLAG ON POSTaDOORaNO ENTRY SIGNaSMOKING SYMBOLaNOo",
     "aPUT LITTER IN ITS PLACEnaDO NOT LITTERnaPOTABLE WATERnaNON-POTABLEoaBICYCLEaNO BICYCLES",
     "aBICYCLISTaMOUNTAINnaPEDESTRIANaNO PEDESTRIANSaCHILDREN CROSSINGaMENS SYMBOLaWOMENSn",
     "aRESTROOMaBABY SYMBOLaTOILETaWATER CLOSETaSHOWERaBATHaBATHTUBaPASSPORT CONTROLaCUSTOMS",
     "aBAGGAGE CLAIMaLEFT LUGGAGEaTRIANGLE WITH ROUNDED CORNERSaPROHIBITED SIGN",
     "aCIRCLED INFORMATION SOURCEaBOYS SYMBOLaGIRLSnaCOUCH AND LAMPaSLEEPING ACCOMMODATION",
     "aSHOPPING BAGSaBELLHOP BELLaBEDaPLACE OF WORSHIPaOCTAGONAL SIGNaSHOPPING TROLLEYaSTUPA",
     "aPAGODAaHINDU TEMPLEaHUTaELEVATOR"]⟩,
   ⟨0x1F6DD, ["aPLAYGROUND SLIDEaWHEELaRING BUOYaHAMMER AND WRENCHaSHIELDaOIL DRUMaMOTORWAY",
     "aRAILWAY TRACKaMOTOR BOATaUP-POINTING MILITARY AIRPLANEbnbSMALLnaoaNORTHEAST-POINTINGn",
     "aAIRPLANE DEPARTUREbARRIVING"]⟩,
   ⟨0x1F6F0, ["aSATELLITEaONCOMING FIRE ENGINEaDIESEL LOCOMOTIVEaPASSENGER SHIPaSCOOTERaMOTORn",
     "aCANOEaSLEDaFLYING SAUCERaSKATEBOARDaAUTO RICKSHAWaPICKUP TRUCKaROLLER SKATE"]⟩,
   ⟨0x1F700, ["aALCHEMICAL SYMBOL FOR QUINTESSENCEdAIRdFIREdEARTHdWATERdAQUAFORTISdAQUA REGIA",
     "eREGIA-2eVITAEeVITAE-2dVINEGARdVINEGAR-2dVINEGAR-3dSULFURdPHILOSOPHERSndBLACKn",
     "dMERCURY SUBLIMATEeSUBLIMATE-2eSUBLIMATE-3dCINNABARdSALTdNITREdVITRIOLdVITRIOL-2dROCK SALT",
     "eSALT-2dGOLDdSILVERdIRON OREeORE-2dCROCUS OF IRONdREGULUSodCOPPER OREdIRON-COPPERn",
     "dSUBLIMATE OF COPPERdCROCUSofCOPPER-2dCOPPER ANTIMONIATEdSALT OFo",
     "dSUBLIMATE OF SALT OF COPPERdVERDIGRISdTIN OREdLEADndANTIMONYndSUBLIMATE OF ANTIMONYdSALTo",
     "dSUBLIMATE OFpdVINEGARodREGULUSofANTIMONY-2edREGULUS-2dREGULUS-3dREGULUS-4dALKALIdALKALI-2",
     "dMARCASITEdSAL-AMMONIACdARSENICdREALGARdREALGAR-2dAURIPIGMENTdBISMUTH OREdTARTARdTARTAR-2",
     "dQUICK LIMEdBORAXdBORAX-2dBORAX-3dALUMdOILdSPIRITdTINCTUREdGUMdWAXdPOWDERdCALXdTUTTY",
     "dCAPUT MORTUUMdSCEPTER OF JOVEdCADUCEUSdTRIDENTdSTARREDndLODESTONEdSOAPdURINEdHORSE DUNG",
     "dASHESdPOTndBRICKdPOWDEREDndAMALGAMdSTRATUM SUPER STRATUMfSTRATUM-2dSUBLIMATIONdPRECIPITATE",
     "dDISTILLdDISSOLVEdDISSOLVE-2dPURIFYdPUTREFACTIONdCRUCIBLEdCRUCIBLE-2dCRUCIBLE-3dCRUCIBLE-4",
     "dCRUCIBLE-5dALEMBICdBATH OF MARYfVAPOURSdRETORTdHOURdNIGHTdDAY-NIGHTdMONTHdHALF DRAMeOUNCE"]⟩,
   ⟨0x1F780, ["aBLACK LEFT-POINTING ISOSCELES RIGHT TRIANGLEbUP-POINTINGpbRIGHT-POINTINGp",
     "bDOWN-POINTINGpbSLIGHTLY SMALL CIRCLEaMEDIUM BOLD WHITEnapaHEAVYoaVERYpaEXTREMELYp",
     "aWHITE CIRCLE CONTAINING BLACK SMALLnaROUND TARGETaBLACK TINY SQUAREbSLIGHTLY SMALLn",
     "aLIGHT WHITEnaMEDIUMoaBOLDoaHEAVYoaVERYpaEXTREMELYp",
     "aWHITE SQUARE CONTAINING BLACK VERY SMALLneMEDIUMnaSQUARE TARGETaBLACK TINY DIAMOND",
     "bVERY SMALLnbMEDIUMoaWHITE DIAMOND CONTAINING BLACK VERYoeMEDIUMnaDIAMOND TARGET",
     "aBLACK TINY LOZENGEbVERY SMALLnbMEDIUMoaWHITE LOZENGE CONTAINING BLACKoaTHIN GREEK CROSS",
     "aLIGHToaMEDIUMoaBOLDoaVERYpbHEAVYoaEXTREMELYpaTHIN SALTIREaLIGHTnaMEDIUMnaBOLDnaHEAVYnaVERYo",
     "aEXTREMELYoaLIGHT FIVE SPOKED ASTERISKaMEDIUMpaBOLDpaHEAVYpaVERYqaEXTREMELYqaLIGHT SIXo",
     "aMEDIUMpaBOLDpaHEAVYpaVERYqaEXTREMELYqaLIGHT EIGHToaMEDIUMpaBOLDpaHEAVYpaVERYq",
     "aLIGHT THREE POINTED BLACK STARaMEDIUMqaqaMEDIUM THREE POINTED PINWHEELn",
     "aLIGHT FOUR POINTED BLACKnaMEDIUMqaqaMEDIUM FOUR POINTED PINWHEELnaREVERSE LIGHTq",
     "aLIGHT FIVE POINTED BLACKnaHEAVYqaMEDIUM SIXpaHEAVYqaSIX POINTED PINWHEELn",
     "aMEDIUM EIGHT POINTED BLACKnaHEAVYqaVERYraHEAVY EIGHT POINTED PINWHEELn",
     "aLIGHT TWELVE POINTED BLACKnaHEAVYqdPINWHEELnaCIRCLED TRIANGLEaNEGATIVEoaCIRCLED SQUARE",
     "aNEGATIVEo"]⟩,
   ⟨0x1F7E0, ["aLARGE ORANGE CIRCLEbYELLOWnbGREENnbPURPLEnbBROWNnbRED SQUAREbBLUEnbORANGEnbYELLOWn",
     "bGREENnbPURPLEnbBROWNn"]⟩,
   ⟨0x1F7F0, ["aHEAVY EQUALS SIGN"]⟩,
   ⟨0x1F800, ["aLEFTWARDS ARROW WITH SMALL TRIANGLE ARROWHEADaUPWARDSraRIGHTWARDSraDOWNWARDSr",
     "aLEFTWARDS ARROW WITH MEDIUMoaUPWARDSraRIGHTWARDSraDOWNWARDSraLEFTWARDS ARROW WITH LARGEo",
     "aUPWARDSraRIGHTWARDSraDOWNWARDSr"]⟩,
   ⟨0x1F810, ["aLEFTWARDS ARROW WITH SMALL EQUILATERAL ARROWHEADaUPWARDSraRIGHTWARDSraDOWNWARDSr",
     "aLEFTWARDS ARROW WITHoaUPWARDSqaRIGHTWARDSqaDOWNWARDSqaHEAVY LEFTWARDSqbUPWARDSqbRIGHTWARDSq",
     "bDOWNWARDSqbLEFTWARDS ARROW WITH LARGEobUPWARDSrbRIGHTWARDSrbDOWNWARDSr",
     "aLEFTWARDS TRIANGLE-HEADED ARROW WITH NARROW SHAFTaUPWARDSraRIGHTWARDSraDOWNWARDSr",
     "aLEFTWARDS TRIANGLE-HEADED ARROW WITH MEDIUMnaUPWARDSraRIGHTWARDSraDOWNWARDSr",
     "aLEFTWARDS TRIANGLE-HEADED ARROW WITH BOLDnaUPWARDSraRIGHTWARDSraDOWNWARDSr",
     "aLEFTWARDS TRIANGLE-HEADED ARROW WITH HEAVYnaUPWARDSraRIGHTWARDSraDOWNWARDSr",
     "aLEFTWARDS TRIANGLE-HEADED ARROW WITH VERYoaUPWARDSsaRIGHTWARDSsaDOWNWARDSs",
     "aLEFTWARDS FINGER-POST ARROWaUPWARDSoaRIGHTWARDSoaDOWNWARDSoaLEFTWARDS SQUAREDnaUPWARDSo",
     "aRIGHTWARDSoaDOWNWARDSoaLEFTWARDS COMPRESSEDnaUPWARDSoaRIGHTWARDSoaDOWNWARDSo",
     "aLEFTWARDS HEAVYoaUPWARDSpaRIGHTWARDSpaDOWNWARDSpaLEFTWARDS HEAVYnaUPWARDSoaRIGHTWARDSo",
     "aDOWNWARDSo"]⟩,
   ⟨0x1F850, ["aLEFTWARDS SANS-SERIF ARROWaUPWARDSoaRIGHTWARDSoaDOWNWARDSoaNORTH WESTobEASTo",
     "aSOUTHpbWESToaLEFT RIGHToaUP DOWNo"]⟩,
   ⟨0x1F860, ["aWIDE-HEADED LEFTWARDS LIGHT BARB ARROWbUPWARDSpbRIGHTWARDSpbDOWNWARDSpbNORTH WESTp",
     "cEASTpbSOUTHqcWESTpbLEFTWARDSobUPWARDSobRIGHTWARDSobDOWNWARDSobNORTH WESTocEASTobSOUTHp",
     "cWESTobLEFTWARDS MEDIUMobUPWARDSpbRIGHTWARDSpbDOWNWARDSpbNORTH WESTpcEASTpbSOUTHqcWESTp",
     "bLEFTWARDS HEAVYobUPWARDSpbRIGHTWARDSpbDOWNWARDSpbNORTH WESTpcEASTpbSOUTHqcWESTp",
     "bLEFTWARDS VERYpbUPWARDSqbRIGHTWARDSqbDOWNWARDSqbNORTH WESTqcEASTqbSOUTHrcWESTq"]⟩,
   ⟨0x1F890, ["aLEFTWARDS TRIANGLE ARROWHEADaUPWARDSoaRIGHTWARDSoaDOWNWARDSo",
     "aLEFTWARDS WHITE ARROW WITHINoaUPWARDSraRIGHTWARDSraDOWNWARDSr",
     "aLEFTWARDS ARROW WITH NOTCHED TAILaUPWARDSqaRIGHTWARDSqaDOWNWARDSq",
     "aHEAVY ARROW SHAFT WIDTH ONEeTWO THIRDSeONE HALFfTHIRDaLEFTWARDS BOTTOM-SHADED WHITE ARROW",
     "aRIGHTWARDS BOTTOM SHADEDoaLEFTWARDS TOPpaRIGHTWARDSqaLEFTWARDS LEFT-SHADEDo",
     "aRIGHTWARDS RIGHT-SHADEDoaLEFTWARDSpaRIGHTWARDS LEFT-SHADEDoaLEFTWARDS BACK-TILTED SHADOWEDo",
     "aRIGHTWARDSqaLEFTWARDS FRONT-TILTEDpaRIGHTWARDSqaWHITE ARROW SHAFT WIDTH ONEeTWO THIRDS"]⟩,
   ⟨0x1F8B0, ["aARROW POINTING UPWARDS THEN NORTH WESTcRIGHTWARDS THEN CURVING SOUTHn"]⟩,
   ⟨0x1F900, ["aCIRCLED CROSS FORMEE WITH FOUR DOTSeTWOndaLEFT HALF CIRCLE WITH FOUR DOTSeTHREEn",
     "eTWOneDOTdaDOWNWARD FACING HOOKcNOTCHEDncHOOK WITH DOTcNOTCHEDpaPINCHED FINGERSaWHITE HEART",
     "aBROWNnaPINCHING HANDaZIPPER-MOUTH FACEaMONEY-MOUTHnaFACE WITH THERMOMETERaNERD FACE",
     "aTHINKINGnaFACE WITH HEAD-BANDAGEaROBOT FACEaHUGGINGnaSIGN OF THE HORNSaCALL ME HAND",
     "aRAISED BACK OFnaLEFT-FACING FISTaRIGHT-FACINGnaHANDSHAKE",
     "aHAND WITH INDEX AND MIDDLE FINGERS CROSSEDaI LOVE YOU HAND SIGNaFACE WITH COWBOY HAT",
     "aCLOWN FACEaNAUSEATEDnaROLLING ON THE FLOOR LAUGHINGaDROOLING FACEaLYINGnaFACE PALM",
     "aSNEEZING FACEaFACE WITH ONE EYEBROW RAISEDaGRINNING FACE WITH STAR EYES",
     "dONE LARGE AND ONE SMALL EYEaFACE WITH FINGER COVERING CLOSED LIPS",
     "aSERIOUS FACE WITH SYMBOLS COVERING MOUTHaSMILING FACE WITH SMILING EYES AND HANDo",
     "aFACE WITH OPEN MOUTH VOMITINGaSHOCKED FACE WITH EXPLODING HEADaPREGNANT WOMAN",
     "aBREAST-FEEDINGaPALMS UP TOGETHERaSELFIEaPRINCEaMAN IN TUXEDOaMOTHER CHRISTMASaSHRUG",
     "aPERSON DOING CARTWHEELaJUGGLINGaFENCERaMODERN PENTATHLONaWRESTLERSaWATER POLOaHANDBALL",
     "aDIVING MASKaWILTED FLOWERaDRUM WITH DRUMSTICKSaCLINKING GLASSESaTUMBLER GLASSaSPOON",
     "aGOAL NETaRIFLEaFIRST PLACE MEDALaSECONDoaTHIRDoaBOXING GLOVEaMARTIAL ARTS UNIFORM",
     "aCURLING STONEaLACROSSE STICK AND BALLaSOFTBALLaFLYING DISCaCROISSANTaAVOCADOaCUCUMBERaBACON",
     "aPOTATOaCARROTaBAGUETTE BREADaGREEN SALADaSHALLOW PAN OF FOODaSTUFFED FLATBREADaEGG",
     "aGLASS OF MILKaPEANUTSaKIWIFRUITaPANCAKESaDUMPLINGaFORTUNE COOKIEaTAKEOUT BOXaCHOPSTICKS",
     "aBOWL WITH SPOONaCUP WITH STRAWaCOCONUTaBROCCOLIaPIEaPRETZELaCUT OF MEATaSANDWICH",
     "aCANNED FOODaLEAFY GREENaMANGOaMOON CAKEaBAGEL",
     "aSMILING FACE WITH SMILING EYES AND THREE HEARTSaYAWNING FACEaSMILING FACE WITH TEAR",
     "aFACE WITH PARTY HORN AND PARTY HATcUNEVEN EYES AND WAVY MOUTHaOVERHEATED FACEaFREEZINGn",
     "aNINJAaDISGUISED FACEaFACE HOLDING BACK TEARSbWITH PLEADING EYESaSARIaLAB COATaGOGGLES",
     "aHIKING BOOTaFLAT SHOEaCRABaLION FACEaSCORPIONaTURKEYaUNICORN FACEaEAGLEaDUCKaBATaSHARKaOWL",
     "aFOX FACEaBUTTERFLYaDEERaGORILLAaLIZARDaRHINOCEROSaSHRIMPaSQUIDaGIRAFFE FACEaZEBRAnaHEDGEHOG",
     "aSAUROPODaT-REXaCRICKETaKANGAROOaLLAMAaPEACOCKaHIPPOPOTAMUSaPARROTaRACCOONaLOBSTERaMOSQUITO",
     "aMICROBEaBADGERaSWANaMAMMOTHaDODOaSLOTHaOTTERaORANGUTANaSKUNKaFLAMINGOaOYSTERaBEAVERaBISON",
     "aSEALaGUIDE DOGaPROBING CANEaEMOJI COMPONENT RED HAIRcCURLYncBALDcWHITE HAIRaBONEaLEGaFOOT",
     "aTOOTHaSUPERHEROaSUPERVILLAINaSAFETY VESTaEAR WITH HEARING AIDaMOTORIZED WHEELCHAIRaMANUALn",
     "aMECHANICAL ARMbLEGaCHEESE WEDGEaCUPCAKEaSALT SHAKERaBEVERAGE BOXaGARLICaONIONaFALAFEL",
     "aWAFFLEaBUTTERaMATE DRINKaICE CUBEaBUBBLE TEAaTROLLaSTANDING PERSONaKNEELINGnaDEAFn",
     "aFACE WITH MONOCLEaADULTaCHILDaOLDER ADULTaBEARDED PERSONaPERSON WITH HEADSCARF",
     "bIN STEAMY ROOMbCLIMBINGbIN LOTUS POSITIONaMAGEaFAIRYaVAMPIREaMERPERSONaELFaGENIEaZOMBIE",
     "aBRAINaORANGE HEARTaBILLED CAPaSCARFaGLOVESaCOATaSOCKSaRED GIFT ENVELOPEaFIRECRACKER",
     "aJIGSAW PUZZLE PIECEaTEST TUBEaPETRI DISHaDNA DOUBLE HELIXaCOMPASSaABACUSaFIRE EXTINGUISHER",
     "aTOOLBOXaBRICKaMAGNETaLUGGAGEaLOTION BOTTLEaSPOOL OF THREADaBALL OF YARNaSAFETY PIN",
     "aTEDDY BEARaBROOMaBASKETaROLL OF PAPERaBAR OF SOAPaSPONGEaRECEIPTaNAZAR AMULET",
     "aNEUTRAL CHESS KINGcQUEENcROOKcBISHOPcKNIGHTcPAWN",
     "aWHITE CHESS KNIGHT ROTATED FORTY-FIVE DEGREESaBLACKraNEUTRALr",
     "aWHITE CHESS KING ROTATED NINETYncQUEENpcROOKpcBISHOPpcKNIGHTpcPAWNpaBLACK CHESS KINGp",
     "cQUEENpcROOKpcBISHOPpcKNIGHTpcPAWNpaNEUTRAL CHESS KINGpcQUEENpcROOKpcBISHOPpcKNIGHTpcPAWNp",
     "aWHITE CHESS KNIGHT ROTATED ONE HUNDRED THIRTY-FIVEnaBLACKtaNEUTRALtaWHITE CHESS TURNED KING",
     "dQUEENdROOKdBISHOPdKNIGHTdPAWNaBLACK CHESS TURNED KINGdQUEENdROOKdBISHOPdKNIGHTdPAWN",
     "aNEUTRAL CHESS TURNED KINGdQUEENdROOKdBISHOPdKNIGHTdPAWN",
     "aWHITE CHESS KNIGHT ROTATED TWO HUNDRED TWENTY-FIVE DEGREESaBLACKtaNEUTRALt",
     "aWHITE CHESS KING ROTATED TWO HUNDRED SEVENTYncQUEENrcROOKrcBISHOPrcKNIGHTrcPAWNr",
     "aBLACK CHESS KINGrcQUEENrcROOKrcBISHOPrcKNIGHTrcPAWNraNEUTRAL CHESS KINGrcQUEENrcROOKr",
     "cBISHOPrcKNIGHTrcPAWNraWHITE CHESS KNIGHT ROTATED THREE HUNDRED FIFTEENnaBLACKtaNEUTRALt",
     "aWHITE CHESS EQUIHOPPERaBLACKoaNEUTRALoaWHITE CHESS EQUIHOPPER ROTATED NINETY DEGREESaBLACKr",
     "aNEUTRALraWHITE CHESS KNIGHT-QUEENcKNIGHT-ROOKcKNIGHT-BISHOPaBLACK CHESS KNIGHT-QUEEN",
     "cKNIGHT-ROOKcKNIGHT-BISHOP"]⟩,
   ⟨0x1FA60, ["aXIANGQI RED GENERALcMANDARINcELEPHANTcHORSEcCHARIOTcCANNONcSOLDIERbBLACK GENERAL",
     "cMANDARINcELEPHANTcHORSEcCHARIOTcCANNONcSOLDIER"]⟩,
   ⟨0x1FA70, ["aBALLET SHOESaONE-PIECE SWIMSUITaBRIEFSaSHORTSaTHONG SANDAL"]⟩,
   ⟨0x1FA78, ["aDROP OF BLOODaADHESIVE BANDAGEaSTETHOSCOPEaX-RAYaCRUTCH"]⟩,
   ⟨0x1FA80, ["aYO-YOaKITEaPARACHUTEaBOOMERANGaMAGIC WANDaPINATAaNESTING DOLLS"]⟩,
   ⟨0x1FA90, ["aRINGED PLANETaCHAIRaRAZORaAXEaDIYA LAMPaBANJOaMILITARY HELMETaACCORDIONaLONG DRUM",
     "aCOINaCARPENTRY SAWaSCREWDRIVERaLADDERaHOOKa\x4DIRRORaWINDOWaPLUNGERaSEWING NEEDLEaKNOT",
     "aBUCKETaMOUSE TRAPaTOOTHBRUSHaHEADSTONEaPLACARDaROCKa\x4DIRROR BALLaIDENTIFICATION CARD",
     "aLOW BATTERYaHAMSA"]⟩,
   ⟨0x1FAB0, ["aFLYaWORMaBEETLEaCOCKROACHaPOTTED PLANTaWOODaFEATHERaLOTUSaCORALaEMPTY NEST",
     "aNEST WITH EGGS"]⟩,
   ⟨0x1FAC0, ["aANATOMICAL HEARTaLUNGSaPEOPLE HUGGINGaPREGNANT MANbPERSONaPERSON WITH CROWN"]⟩,
   ⟨0x1FAD0, ["aBLUEBERRIESaBELL PEPPERaOLIVEaFLATBREADaTAMALEaFONDUEaTEAPOTaPOURING LIQUIDaBEANS",
     "aJAR"]⟩,
   ⟨0x1FAE0, ["aMELTING FACEaSALUTINGnaFACE WITH OPEN EYES AND HAND OVER MOUTHcPEEKING EYE",
     "cDIAGONAL MOUTHaDOTTED LINE FACEaBITING LIPaBUBBLES"]⟩,
   ⟨0x1FAF0, ["aHAND WITH INDEX FINGER AND THUMB CROSSEDaRIGHTWARDS HANDaLEFTWARDSnaPALM DOWNnbUPn",
     "aINDEX POINTING AT THE VIEWERaHEART HANDS"]⟩,
   ⟨0x1FB00, ["aBLOCK SEXTANT-1bSEXTANT-2bSEXTANT-12bSEXTANT-3bSEXTANT-13bSEXTANT-23bSEXTANT-123",
     "bSEXTANT-4bSEXTANT-14bSEXTANT-24bSEXTANT-124bSEXTANT-34bSEXTANT-134bSEXTANT-234bSEXTANT-1234",
     "bSEXTANT-5bSEXTANT-15bSEXTANT-25bSEXTANT-125bSEXTANT-35bSEXTANT-235bSEXTANT-1235bSEXTANT-45",
     "bSEXTANT-145bSEXTANT-245bSEXTANT-1245bSEXTANT-345bSEXTANT-1345bSEXTANT-2345bSEXTANT-12345",
     "bSEXTANT-6bSEXTANT-16bSEXTANT-26bSEXTANT-126bSEXTANT-36bSEXTANT-136bSEXTANT-236bSEXTANT-1236",
     "bSEXTANT-46bSEXTANT-146bSEXTANT-1246bSEXTANT-346bSEXTANT-1346bSEXTANT-2346bSEXTANT-12346",
     "bSEXTANT-56bSEXTANT-156bSEXTANT-256bSEXTANT-1256bSEXTANT-356bSEXTANT-1356bSEXTANT-2356",
     "bSEXTANT-12356bSEXTANT-456bSEXTANT-1456bSEXTANT-2456bSEXTANT-12456bSEXTANT-3456",
     "bSEXTANT-13456bSEXTANT-23456aLOWER LEFT BLOCK DIAGONAL LOWER MIDDLE LEFT TO LOWER CENTRE",
     "jRIGHTeUPPER MIDDLE LEFT TO LOWER CENTREjRIGHTfLEFT TO LOWER CENTRE",
     "bRIGHT BLOCK DIAGONAL UPPER MIDDLE LEFT TO UPPERnjRIGHTeLOWER MIDDLE LEFT TO UPPER CENTRE",
     "jRIGHTfLEFT TO UPPER CENTREfMIDDLE LEFT TO UPPER MIDDLE RIGHTfCENTRE TO LOWERofLEFTq",
     "fCENTRE TO UPPERofLEFTqfCENTRE TO UPPERnbLEFT BLOCK DIAGONAL UPPER CENTRE TO UPPER MIDDLEn",
     "fLEFTqfCENTRE TO LOWERofLEFTqfCENTRE TO LOWERnfMIDDLE LEFT TO LOWER MIDDLEn",
     "aUPPER RIGHT BLOCK DIAGONAL LOWER MIDDLE LEFT TO LOWER CENTREjRIGHT",
     "eUPPER MIDDLE LEFT TO LOWER CENTREjRIGHTfLEFT TO LOWER CENTRE",
     "bLEFT BLOCK DIAGONAL UPPER MIDDLE LEFT TO UPPERnjRIGHTeLOWER MIDDLE LEFT TO UPPER CENTRE",
     "jRIGHTfLEFT TO UPPER CENTREfMIDDLE LEFT TO UPPER MIDDLE RIGHTfCENTRE TO LOWERofLEFTq",
     "fCENTRE TO UPPERofLEFTqfCENTRE TO UPPERnbRIGHT BLOCK DIAGONAL UPPER CENTRE TO UPPER MIDDLEn",
     "fLEFTqfCENTRE TO LOWERofLEFTqfCENTRE TO LOWERnfMIDDLE LEFT TO LOWER MIDDLEn",
     "bAND RIGHT AND LOWER TRIANGULAR THREE QUARTERS BLOCKaLEFT AND LOWER AND RIGHTq",
     "aUPPER AND LEFT AND LOWERqaLEFT AND UPPER AND RIGHTqbTRIANGULAR ONE QUARTERnaUPPERqaRIGHTq",
     "aLOWERqaVERTICAL ONE EIGHTH BLOCK-2dBLOCK-3dBLOCK-4dBLOCK-5dBLOCK-6dBLOCK-7",
     "aHORIZONTAL ONE EIGHTH BLOCK-2dBLOCK-3dBLOCK-4dBLOCK-5dBLOCK-6dBLOCK-7",
     "aLEFT AND LOWER ONE EIGHTH BLOCKcUPPERpaRIGHTrcLOWERpaUPPERr",
     "aHORIZONTAL ONE EIGHTH BLOCK-1358aUPPER ONE QUARTER BLOCKbTHREE EIGHTHSnbFIVEo",
     "bTHREE QUARTERSnbSEVEN EIGHTHSnaRIGHT ONE QUARTERnbTHREE EIGHTHSnbFIVEobTHREE QUARTERSn",
     "bSEVEN EIGHTHSnaLEFT HALF MEDIUM SHADEaRIGHTpaUPPERpaLOWERpaINVERSEo",
     "aUPPER HALF BLOCK AND LOWER HALFpcINVERSE MEDIUM SHADE AND LOWER HALF BLOCK"]⟩,
   ⟨0x1FB94, ["aLEFT HALF INVERSE MEDIUM SHADE AND RIGHT HALF BLOCKaCHECKER BOARD FILLaINVERSEp",
     "aHEAVY HORIZONTALnaUPPER LEFT TO LOWER RIGHTnbRIGHT TO LOWER LEFTn",
     "bAND LOWER TRIANGULAR HALF BLOCKaLEFT AND RIGHTpaUPPER LEFT TRIANGULAR MEDIUM SHADEbRIGHTp",
     "aLOWERqbLEFTpaBOX DRAWINGS LIGHT DIAGONAL UPPER CENTRE TO MIDDLE LEFTiRIGHT",
     "eMIDDLE LEFT TO LOWER CENTREfRIGHTpeUPPER CENTRE TO MIDDLE LEFTpiRIGHTp",
     "eMIDDLE LEFT TO LOWER CENTRE TO MIDDLE RIGHThUPPERq",
     "eUPPER CENTRE TO MIDDLE LEFT AND MIDDLE RIGHT TO LOWER CENTREiRIGHT AND MIDDLE LEFTp",
     "jTO LOWER CENTRE TO MIDDLE LEFTiLEFT TO LOWER CENTRE TO MIDDLE RIGHT",
     "eMIDDLE LEFT TO UPPER CENTRE TO MIDDLE RIGHT TO LOWER CENTRE",
     "fRIGHT TO UPPER CENTRE TO MIDDLE LEFTpeDIAMONDdHORIZONTAL WITH VERTICAL STROKE",
     "aARROWHEAD-SHAPED POINTERaINVERSE CHECK MARKaLEFT HALF RUNNING MANaRIGHTp",
     "aINVERSE DOWNWARDS ARROW WITH TIP LEFTWARDS",
     "aLEFTWARDS ARROW AND UPPER AND LOWER ONE EIGHTH BLOCKaRIGHTWARDSuaDOWNWARDS ARROW AND RIGHTp",
     "aUPWARDSsaLEFT HALF FOLDERaRIGHToaVOIDED GREEK CROSSaRIGHT OPEN SQUARED DOT",
     "aNEGATIVE DIAGONAL CROSScMIDDLE RIGHT TO LOWER CENTREcDIAMOND",
     "aWHITE HEAVY SALTIRE WITH ROUNDED CORNERSaLEFT THIRD WHITE RIGHT POINTING INDEXaMIDDLEr",
     "aRIGHTraNEGATIVE SQUARED QUESTION MARKaSTICK FIGUREcWITH ARMS RAISEDcLEANING LEFTdRIGHT",
     "cWITH DRESSaWHITE UP-POINTING CHEVRON"]⟩,
   ⟨0x1FBF0, ["aSEGMENTED DIGIT ZEROcONEcTWOcTHREEcFOURcFIVEcSIXcSEVENcEIGHTcNINE"]⟩,
   ⟨0xE0001, ["aLANGUAGE TAG"]⟩,
   ⟨0xE0020, ["aTAG SPACEbEXCLAMATION MARKbQUOTATIONnbNUMBER SIGNbDOLLARnbPERCENTnbAMPERSAND",
     "bAPOSTROPHEbLEFT PARENTHESISbRIGHTnbASTERISKbPLUS SIGNbCOMMAbHYPHEN-MINUSbFULL STOPbSOLIDUS",
     "bDIGIT ZEROcONEcTWOcTHREEcFOURcFIVEcSIXcSEVENcEIGHTcNINEbCOLONbSEMICOLONbLESS-THAN SIGN",
     "bEQUALSnbGREATER-THANnbQUESTION MARKbCOMMERCIAL ATbLATIN CAPITAL LETTER AeBeCeDeEeFeGeHeIeJ",
     "eKeLeMeNeOePeQeReSeTeUeVeWeXeYeZbLEFT SQUARE BRACKETbREVERSE SOLIDUSbRIGHT SQUARE BRACKET",
     "bCIRCUMFLEX ACCENTbLOW LINEbGRAVE ACCENTbLATIN SMALL LETTER AeBeCeDeEeFeGeHeIeJeKeLeMeNeOeP",
     "eQeReSeTeUeVeWeXeYeZbLEFT CURLY BRACKETbVERTICAL LINEbRIGHT CURLY BRACKETbTILDEaCANCEL TAG"]⟩,
   ⟨0xE0100, ["aVARIATION SELECTOR-17bSELECTOR-18bSELECTOR-19bSELECTOR-20bSELECTOR-21bSELECTOR-22",
     "bSELECTOR-23bSELECTOR-24bSELECTOR-25bSELECTOR-26bSELECTOR-27bSELECTOR-28bSELECTOR-29",
     "bSELECTOR-30bSELECTOR-31bSELECTOR-32bSELECTOR-33bSELECTOR-34bSELECTOR-35bSELECTOR-36",
     "bSELECTOR-37bSELECTOR-38bSELECTOR-39bSELECTOR-40bSELECTOR-41bSELECTOR-42bSELECTOR-43",
     "bSELECTOR-44bSELECTOR-45bSELECTOR-46bSELECTOR-47bSELECTOR-48bSELECTOR-49bSELECTOR-50",
     "bSELECTOR-51bSELECTOR-52bSELECTOR-53bSELECTOR-54bSELECTOR-55bSELECTOR-56bSELECTOR-57",
     "bSELECTOR-58bSELECTOR-59bSELECTOR-60bSELECTOR-61bSELECTOR-62bSELECTOR-63bSELECTOR-64",
     "bSELECTOR-65bSELECTOR-66bSELECTOR-67bSELECTOR-68bSELECTOR-69bSELECTOR-70bSELECTOR-71",
     "bSELECTOR-72bSELECTOR-73bSELECTOR-74bSELECTOR-75bSELECTOR-76bSELECTOR-77bSELECTOR-78",
     "bSELECTOR-79bSELECTOR-80bSELECTOR-81bSELECTOR-82bSELECTOR-83bSELECTOR-84bSELECTOR-85",
     "bSELECTOR-86bSELECTOR-87bSELECTOR-88bSELECTOR-89bSELECTOR-90bSELECTOR-91bSELECTOR-92",
     "bSELECTOR-93bSELECTOR-94bSELECTOR-95bSELECTOR-96bSELECTOR-97bSELECTOR-98bSELECTOR-99",
     "bSELECTOR-100bSELECTOR-101bSELECTOR-102bSELECTOR-103bSELECTOR-104bSELECTOR-105bSELECTOR-106",
     "bSELECTOR-107bSELECTOR-108bSELECTOR-109bSELECTOR-110bSELECTOR-111bSELECTOR-112bSELECTOR-113",
     "bSELECTOR-114bSELECTOR-115bSELECTOR-116bSELECTOR-117bSELECTOR-118bSELECTOR-119bSELECTOR-120",
     "bSELECTOR-121bSELECTOR-122bSELECTOR-123bSELECTOR-124bSELECTOR-125bSELECTOR-126bSELECTOR-127",
     "bSELECTOR-128bSELECTOR-129bSELECTOR-130bSELECTOR-131bSELECTOR-132bSELECTOR-133bSELECTOR-134",
     "bSELECTOR-135bSELECTOR-136bSELECTOR-137bSELECTOR-138bSELECTOR-139bSELECTOR-140bSELECTOR-141",
     "bSELECTOR-142bSELECTOR-143bSELECTOR-144bSELECTOR-145bSELECTOR-146bSELECTOR-147bSELECTOR-148",
     "bSELECTOR-149bSELECTOR-150bSELECTOR-151bSELECTOR-152bSELECTOR-153bSELECTOR-154bSELECTOR-155",
     "bSELECTOR-156bSELECTOR-157bSELECTOR-158bSELECTOR-159bSELECTOR-160bSELECTOR-161bSELECTOR-162",
     "bSELECTOR-163bSELECTOR-164bSELECTOR-165bSELECTOR-166bSELECTOR-167bSELECTOR-168bSELECTOR-169",
     "bSELECTOR-170bSELECTOR-171bSELECTOR-172bSELECTOR-173bSELECTOR-174bSELECTOR-175bSELECTOR-176",
     "bSELECTOR-177bSELECTOR-178bSELECTOR-179bSELECTOR-180bSELECTOR-181bSELECTOR-182bSELECTOR-183",
     "bSELECTOR-184bSELECTOR-185bSELECTOR-186bSELECTOR-187bSELECTOR-188bSELECTOR-189bSELECTOR-190",
     "bSELECTOR-191bSELECTOR-192bSELECTOR-193bSELECTOR-194bSELECTOR-195bSELECTOR-196bSELECTOR-197",
     "bSELECTOR-198bSELECTOR-199bSELECTOR-200bSELECTOR-201bSELECTOR-202bSELECTOR-203bSELECTOR-204",
     "bSELECTOR-205bSELECTOR-206bSELECTOR-207bSELECTOR-208bSELECTOR-209bSELECTOR-210bSELECTOR-211",
     "bSELECTOR-212bSELECTOR-213bSELECTOR-214bSELECTOR-215bSELECTOR-216bSELECTOR-217bSELECTOR-218",
     "bSELECTOR-219bSELECTOR-220bSELECTOR-221bSELECTOR-222bSELECTOR-223bSELECTOR-224bSELECTOR-225",
     "bSELECTOR-226bSELECTOR-227bSELECTOR-228bSELECTOR-229bSELECTOR-230bSELECTOR-231bSELECTOR-232",
     "bSELECTOR-233bSELECTOR-234bSELECTOR-235bSELECTOR-236bSELECTOR-237bSELECTOR-238bSELECTOR-239",
     "bSELECTOR-240bSELECTOR-241bSELECTOR-242bSELECTOR-243bSELECTOR-244bSELECTOR-245bSELECTOR-246",
     "bSELECTOR-247bSELECTOR-248bSELECTOR-249bSELECTOR-250bSELECTOR-251bSELECTOR-252bSELECTOR-253",
     "bSELECTOR-254bSELECTOR-255bSELECTOR-256"]⟩]

end LineMeasure.Text.CharacterName
