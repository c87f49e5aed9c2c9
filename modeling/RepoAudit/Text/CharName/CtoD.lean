/-! # Names of characters from C to D

The names that start with these letters, in the order of their words.  A small letter starts each
name and tells how many words it shares with the name before it: none for `a`, one for `b`.
-/

namespace RepoAudit.Text.CharName

def fromCtoD : String := "
aCACTUSaCADA UNAaCADUCEUSaCALENDARaCALL ME HANDaCAMERAbWITH FLASHaCAMPINGaCANaCANADIAN SYLLABICS A
cAAcAAIcAAYcAIcAIVILIK BcANcATHAPASCAN MdScAYcBEAVER DENE LeRcBIBLE-CREE YcBLACKFOOT AdEdIdKAdKEdKI
dKOdNAdNEdNIdNOdOdSdWdWAdWEdWIdWOcCcCAcCAAcCAAIcCARRIER CHAdCHEdCHEEdCHIdCHOdCHUdDEEdDENE GEE
dDENTAL SdDIdDLAdDLEdDLEEdDLIdDLOdDLUdDZAdDZEdDZEEdDZIdDZOdDZUdEEdGAdGAAdGEdGEEdGHAdGHEdGHEEdGHIdGHO
dGHUdGIdGOdGUdGWAdGWUdHdHEEdHIdHWAdHWEdHWEEdHWIdHWOdHWUdIdINITIAL ZdJAdJEdJEEdJIdJJAdJJEdJJEEdJJI
dJJOdJJUdJOdJUdJWAdKHAdKHEdKHEEdKHIdKHOdKHUdKKdKKAdKKEdKKEEdKKIdKKOdKKUdLAdLEdLEEdLHAdLHEdLHEEdLHI
dLHOdLHUdLIdLOdLUdMAdMEdMEEdMIdMOdMUdNAdNEdNEEdNGdNIdNOdNUdPdPAdPEdPEEdPIdPOdPUdRAdREdREEdRIdROdRU
dSAdSEdSEEdSHdSHAdSHEdSHEEdSHIdSHOdSHUdSIdSOdSUdTHAdTHEdTHEEdTHIdTHOdTHUdTLAdTLEdTLEEdTLHAdTLHE
dTLHEEdTLHIdTLHOdTLHUdTLIdTLOdTLUdTSAdTSEdTSEEdTSIdTSOdTSUdTTAdTTEdTTEEdTTIdTTOdTTSAdTTSEdTTSEEdTTSI
dTTSOdTTSUdTTUdWAdWEdWEEdWIdWOdWUdYAdYEdYEEdYIdYOdYUdZdZAdZEdZEEdZIdZOdZUcCEcCHI SIGNcCIcCIIcCOcCOO
cCWAcCWAAcCWEcCWIcCWIIcCWOcCWOOcEcEASTERN WcENcFcFAcFAAcFAAIcFEcFIcFIIcFINAL ACUTEdBOTTOM HALF RING
dDOUBLE ACUTEeSHORT VERTICAL STROKESdDOWN TACKdGRAVEdMIDDLE DOTdPLUSdRAISED DOTdRIGHT HALF RINGdRING
dSHORT HORIZONTAL STROKEdSMALL RINGdTOP HALF RINGcFOcFOOcFULL STOPcFWAAcGLOTTAL STOPcHKcHYPHENcIcII
cINcKcKAcKAAcKAAIcKAYcKEcKIcKIIcKOcKOOcKWcKWAcKWAAcKWAYcKWEcKWIcKWIIcKWOcKWOOcLcLAcLAAcLAAIcLAYcLE
cLHcLHAcLHAAcLHIcLHIIcLHOcLHOOcLIcLIIcLOcLOOcLWAcLWAAcLWEcLWIcLWIIcLWOcLWOOcMcMAcMAAcMAAIcMAYcME
cMEDIAL LdRcMHcMIcMIIcMOcMOOcMOOSE-CREE SKcMWAcMWAAcMWEcMWIcMWIIcMWOcMWOOcNcN-CREE THEdTHIdTHIIcNA
cNAAcNAAIcNASKAPI CWAAdKWAAdMWAAdNWAAdS-WdSCWAdSKWdSKWAdSPWAdSTWAdSWAAdTWAAdWAAdWOOdYWAAcNATTILIK HA
dHAAdHIdHIIdHOdHOOdSHRAdSHRAAdSHRIdSHRIIdSHROdSHROOcNAYcNEcNGcNGAcNGAAcNGAAIcNGAIcNGIcNGIIcNGOcNGOO
cNHcNIcNIIcNNGcNNGAcNNGAAcNNGIcNNGIIcNNGOcNNGOOcNOcNOOcNOYcNUNAVIK HdHAdHAAdHEdHIdHIIdHOdHOO
cNUNAVUT HcNWAcNWAAcNWEcNWIcNWIIcNWOcNWOOcOcOJIBWAY CdKdMdNdNWIdNWIIdNWOdNWOOdPdSdSHdTcONcOOcOYcPcPA
cPAAcPAAIcPAYcPEcPIcPIIcPOcPOOcPOYcPWAcPWAAcPWEcPWIcPWIIcPWOcPWOOcPWOYcQcQAcQAAcQAAIcQAIcQIcQIIcQO
cQOOcRcR-CREE REdRWEcRAcRAAcRAAIcRAYcREcRIcRIIcROcROOcRWAcRWAAcRWEEcRWIcRWIIcRWOcRWOOcScSAcSAAcSAAI
cSAYcSAYISI HAdHEdHIdHOdHOOdJIdJUdJUUdMdSHAdSHEdSHIdSHOdSHOOdSHWEdTHdYIcSEcSHcSHAcSHAAcSHAYcSHEcSHI
cSHIIcSHOcSHOOcSHOYcSHWAcSHWAAcSHWEcSHWIcSHWIIcSHWOcSHWOOcSHWOYcSIcSIIcSOcSOOcSOUTH-SLAVEY KAHdKEH
dKIHdKOHcSOYcSPAcSPEcSPIcSPOcSWcSWAcSWAAcSWEcSWIcSWIIcSWOcSWOOcTcTAcTAAcTAAIcTAYcTEcTHcTH-CREE TH
dTHAdTHAAdTHEdTHIdTHIIdTHOdTHOOcTHAcTHAAcTHEcTHIcTHIIcTHOcTHOOcTHWAcTHWAAcTHWEcTIcTIIcTLHAcTLHEcTLHI
cTLHOcTLHOOcTLHWEcTOcTOOcTTAcTTEcTTHcTTHAcTTHAAcTTHEcTTHIcTTHOcTTHOOcTTHWEcTTIcTTOcTWAcTWAAcTWEcTWI
cTWIIcTWOcTWOOcTYAcTYEcTYIcTYOcWAcWAAcWAYcWEcWEST-CREE CWAdCWAAdCWEdCWIdCWIIdCWOdCWOOdFWAAdKWAdKWAA
dKWEdKWIdKWIIdKWOdKWOOdLdLAdLAAdLEdLOdLOOdLWAdLWAAdLWEdLWIdLWIIdLWOdLWOOdMdMWAdMWAAdMWEdMWIdMWIIdMWO
dMWOOdNWAdNWAAdNWEdPdPWAdPWAAdPWEdPWIdPWIIdPWOdPWOOdRdRAdREdRIdROdRWAAdSHWAdSHWAAdSHWEdSHWIdSHWII
dSHWOdSHWOOdSWAdSWAAdSWEdSWIdSWIIdSWOdSWOOdTHWAAdTWAdTWAAdTWEdTWIdTWIIdTWOdTWOOdWAdWAAdWEdWIdWIIdWO
dWOOdYdYWAdYWAAdYWEdYWIdYWIIdYWOdYWOOcWESTERN WcWIcWIIcWOcWOOcWOODS-CREE FINAL THdTHdTHAdTHEdTHIdTHO
dTHWAdTHWAAdTHWEEdTHWIdTHWIIdTHWOdTHWOOcYcY-CREE COOdKOOdLOOdMOOdNOOdOOdPOOdPWAAdSOOdTOOdWdYOOcYA
cYAAcYAAIcYAYcYEcYIcYIIcYOcYOOcYOYcYWAcYWAAcYWEcYWIcYWIIcYWOcYWOOaCANCELbCHARACTERbTAG
aCANCELLATION XaCANCERaCANDLEaCANDYaCANNED FOODaCANOEaCAPITULUMaCAPRICORNaCAR SLIDINGaCARD FILE BOX
bINDEXcDIVIDERSaCARE OFaCARETbINSERTION POINTaCARIAN LETTER AcA2cBcC-18cC-39cDcD2cEcE2cGcG2cIcIIcK
cK2cLcLDcLD2cMcMBcMB2cMB3cMB4cNcNDcNGcNNcOcPcP2cQcRcRRcScSHcSH2cSScSTcST2cTcTTcTT2cUcUUcUUUcUUU2
cUUU3cUUUUcXaCARONaCAROUSEL HORSEaCARP STREAMERaCARPENTRY SAWaCARRIAGE RETURNaCARROTaCASTLEaCATbFACE
cWITH TEARS OF JOYdWRY SMILEaCAUCASIAN ALBANIAN CITATION MARKcLETTER ALTdAORdBETdCARdCAYNdCHAdCHAT
dCHIdCHOYdCYAWdCYAYdDATdDYANdDZAYdDZYAYdEBdEYNdFAMdGHEYSdGIMdHEYTdINYAdIRBdIWNdJAYNdJHOXdKARdKIWdLAN
dLYITdMAQdNOWCdONdPENdPIWRdQARdQAYdRATdSEYKdSHAdSHAKdSHOYdTASdTIWRdTYAYdVEYZdXEYNdYAYDdYOWDdZARLdZHA
dZHILaCAUTION SIGNaCCHaCEDI SIGNaCEDILLAaCELTIC CROSSaCENT SIGNaCENTRE LINE SYMBOL
aCENTRELINE LOW LINEbOVERLINEaCERESaCGJaCHAINSaCHAIRaCHAKMA AU MARKbDANDAbDIGIT EIGHTcFIVEcFOURcNINE
cONEcSEVENcSIXcTHREEcTWOcZERObDOUBLE DANDAbLETTER AAcBAAcBHAAcCAAcCHAAcDAAcDDAAcDDHAAcDHAAcEcGAA
cGHAAcHAAcIcJAAcJHAAcKAAcKHAAcLAAcLHAAcMAAcNAAcNGAAcNNAAcNYAAcPAAcPHAAcRAAcSAAcTAAcTHAAcTTAAcTTHAAcU
cVAAcWAAcYAAcYYAAbMAAYYAAbO MARKbQUESTION MARKbSECTION MARKbSIGN ANUSVARAcCANDRABINDUcVISARGAbVIRAMA
bVOWEL SIGN AdAAdAIdAUdEdEIdIdIIdOdOIdUdUUaCHAM CONSONANT SIGN FINAL HeMeNGdLAdRAdWAdYAbDIGIT EIGHT
cFIVEcFOURcNINEcONEcSEVENcSIXcTHREEcTWOcZERObLETTER AcAIcBAcBBAcBHAcCHAcCHHAcDAcDDAcDHAcEcFINAL CHdG
dKdLdNdNGdPdRdSSdTdYcGAcGHAcHAcIcJAcJHAcKAcKHAcLAcMAcMUEcNAcNGAcNGUEcNHAcNHJAcNHUEcNUEcOcPAcPHAcPPA
cRAcSAcSSAcTAcTHAcUcVAcYAbPUNCTUATION DANDAcDOUBLE DANDAcSPIRALcTRIPLE DANDAbVOWEL SIGN AAdAIdAUdEI
dIdIIdOdOEdUdUEaCHARACTER TABULATIONcSETcWITH JUSTIFICATIONbTIEaCHART WITH DOWNWARDS TREND
cUPWARDS TRENDeAND YEN SIGNaCHECK MARKaCHECKER BOARDcFILLaCHEERING MEGAPHONEaCHEESE WEDGE
aCHEQUERED FLAGaCHEROKEE LETTER AcDAcDEcDIcDLAcDOcDUcDVcEcGAcGEcGIcGOcGUcGVcHAcHEcHIcHNAcHOcHUcHVcI
cKAcLAcLEcLIcLOcLUcLVcMAcMEcMIcMOcMUcMVcNAcNAHcNEcNIcNOcNUcNVcOcQUAcQUEcQUIcQUOcQUUcQUVcScSAcSEcSI
cSOcSUcSVcTAcTEcTIcTLAcTLEcTLIcTLOcTLUcTLVcTSAcTSEcTSIcTSOcTSUcTSVcUcVcWAcWEcWIcWOcWUcWVcYAcYEcYIcYO
cYUcYVbSMALL LETTER AdDAdDEdDIdDLAdDOdDUdDVdEdGAdGEdGIdGOdGUdGVdHAdHEdHIdHNAdHOdHUdHVdIdKAdLAdLEdLI
dLOdLUdLVdMAdMEdMIdMOdMUdMVdNAdNAHdNEdNIdNOdNUdNVdOdQUAdQUEdQUIdQUOdQUUdQUVdSdSAdSEdSIdSOdSUdSVdTA
dTEdTIdTLAdTLEdTLIdTLOdTLUdTLVdTSAdTSEdTSIdTSOdTSUdTSVdUdVdWAdWEdWIdWOdWUdWVdYAdYEdYIdYOdYUdYV
aCHERRIESaCHERRY BLOSSOMaCHESTNUTaCHI RHOaCHICKENaCHILDaCHILDREN CROSSINGaCHIPMUNKaCHIRON
aCHOCOLATE BARaCHOPSTICKSaCHORASMIAN LETTER ALEPHcAYINcBETHcCURLED WAWcDALETHcGIMELcHEcHETHcKAPH
cLAMEDHcMEMcNUNcPEcRESHcSAMEKHcSHINcSMALL ALEPHcTAWcWAWcYODHcZAYINbNUMBER FOURcONEdHUNDREDcTENcTHREE
cTWENTYcTWOaCHRISTMAS TREEaCHURCHaCINEMA
aCIRCLE DIVIDED BY HORIZONTAL BAR AND TOP HALF DIVIDED BY VERTICAL BAR
bWITH ALL BUT UPPER LEFT QUADRANT BLACKcHORIZONTAL BARcLEFT HALF BLACKcLOWER HALF BLACK
cRIGHT HALF BLACKcSMALL CIRCLE TO THE RIGHTcSUPERIMPOSED XcTWO HORIZONTAL STROKES TO THE RIGHT
cUPPER HALF BLACKdRIGHT QUADRANT BLACKcVERTICAL FILLaCIRCLED ANTICLOCKWISE ARROW
bANTICLOCKWISE-ROTATED DIVISION SIGNbASTERISK OPERATORbBOLD XbBULLETbC WITH OVERLAID BACKSLASHbCCbCD
bCROSS FORMEEdWITH FOUR DOTSeTWO DOTScPOMMEEbCROSSING LANESbDASHbDIGIT EIGHTcFIVEcFOURcNINEcONE
cSEVENcSIXcTHREEcTWOcZERObDIVISION SIGNcSLASHbDOLLAR SIGN WITH OVERLAID BACKSLASHbDOT OPERATOR
bEQUALSbGREATER-THANbHANGUL CHIEUCHdAcCIEUCdAcHIEUHdAcIEUNGdAdUcKHIEUKHdAcKIYEOKdAcMIEUMdAcNIEUNdA
cPHIEUPHdAcPIEUPdAcRIEULdAcSIOSdAcTHIEUTHdAcTIKEUTdAbHEAVY WHITE RIGHTWARDS ARROW
bHORIZONTAL BAR WITH NOTCHbHUMAN FIGUREbIDEOGRAPH ACCEPTcADVANTAGEcALLIANCEcATTENTIONcCENTRE
cCONGRATULATIONcCOPYcCORRECTcEARTHcEIGHTcENTERPRISEcEXCELLENTcFEMALEcFINANCIALcFIREcFIVEcFOURcHAVE
cHIGHcITEMcKINDERGARTENcKOTOcLABORcLEFTcLOWcMALEcMEDICINEcMETALcMOONcNAMEcNIGHTcNINEcONEcPRINT
cQUESTIONcRELIGIONcRESOURCEcRESTcRIGHTcSCHOOLcSECRETcSEVENcSIXcSOCIETYcSPECIALcSTOCKcSTUDYcSUITABLE
cSUNcSUPERVISEcTENcTHREEcTWOcWATERcWOODbINFORMATION SOURCEbITALIC LATIN CAPITAL LETTER CfR
bKATAKANA AcEcHAcHEcHIcHOcHUcIcKAcKEcKIcKOcKUcMAcMEcMIcMOcMUcNAcNEcNIcNOcNUcOcRAcREcRIcROcRUcSAcSE
cSIcSOcSUcTAcTEcTIcTOcTUcUcWAcWEcWIcWOcYAcYOcYUbKOREAN CHARACTER CHAMKOdJUEUIbLATIN CAPITAL LETTER A
eBeCeDeEeFeGeHeIeJeKeLeMeNeOePeQeReSeTeUeVeWeXeYeZcSMALL LETTER AeBeCeDeEeFeGeHeIeJeKeLeMeNeOePeQeR
eSeTeUeVeWeXeYeZbLESS-THANbMINUSbMULTIPLICATION SIGN WITH CIRCUMFLEX ACCENTbNUMBER EIGHTEEN
cEIGHTY ON BLACK SQUAREcELEVENcFIFTEENcFIFTYdON BLACK SQUAREcFORTYdEIGHTdFIVEdFOURdNINE
dON BLACK SQUAREdONEdSEVENdSIXdTHREEdTWOcFOURTEENcNINETEENcSEVENTEENcSEVENTY ON BLACK SQUAREcSIXTEEN
cSIXTY ON BLACK SQUAREcTENdON BLACK SQUAREcTHIRTEENcTHIRTYdEIGHTdFIVEdFOURdNINEdON BLACK SQUAREdONE
dSEVENdSIXdTHREEdTWOcTWELVEcTWENTYdEIGHTdFIVEdFOURdNINEdON BLACK SQUAREdONEdSEVENdSIXdTHREEdTWO
bOPEN CENTRE EIGHT POINTED STARbPARALLELbPERPENDICULARbPLUSbPOSTAL MARKbREVERSE SOLIDUS
bRING OPERATORbSQUAREbTIMESbTRIANGLEcDOWNbVERTICAL BARbWHITE BULLETcSTARbWZbXbZERO WITH SLASH
aCIRCULATION FUNCTIONaCIRCUMFLEX ACCENTaCIRCUS TENTaCITYSCAPEbAT DUSKaCJK RADICAL BAMBOOcBLUE
cBOLT OF CLOTHcBONEcBOXcBRUSH ONEdTWOcC-SIMPLIFIED BIRDdCARTdDRAGONdEATdEVENdFISHdFLYdFROGdGATEdGOLD
dHORSEdLEAFdLONGdSALTdSEEdSHELLdSILKdSPEECHdTANNED LEATHERdTOOTHdTURTLEdWINDcCHOKEcCITYcCIVILIAN
cCLIFFcCLOTHEScCOWcDEATHcDIVINATIONcDOGcEAT ONEdTHREEdTWOcEWEcEYEcFIREcFOOTcGHOSTcGRASS ONEdTHREE
dTWOcHANDcHEADcHEART ONEdTWOcHORNcJ-SIMPLIFIED DRAGONdEVENdTOOTHdTURTLEcJADEcKNIFE ONEdTWOcLAME FOUR
dONEdTHREEdTWOcLONG ONEdTWOcMEATcMESHcMOONcMORTARcMOTHERcMOUND ONEdTWOcNET FOURdONEdTHREEdTWOcOLD
cPAW ONEdTWOcPERSONcRAINcRAMcRAPcREPEATcSEALcSECOND ONEdTHREEdTWOcSHEEPcSILK
cSIMPLIFIED HALF TREE TRUNKdHORNdWALKdWHEATdYELLOWcSMALL ONEdTWOcSNAKEcSNOUT ONEdTWOcSPIRIT ONEdTWO
cSUNcTABLEcTHREADcTIGERcTURTLEcWALK ONEdTWOcWATER ONEdTWOcWEST ONEdTWObSTROKE BXGcDcHcHGcHPcHPWG
cHXWGcHZcHZGcHZTcHZWcHZWGcHZZcHZZPcHZZZcHZZZGcNcPcPDcPGcPZcQcScSGcSPcSTcSWcSWGcSWZcSZcSZWGcSZZcTcTN
cWGcXGaCLAMSHELL MOBILE PHONEaCLAPPER BOARDaCLAPPING HANDS SIGNaCLASSICAL BUILDING
aCLEAR SCREEN SYMBOLaCLINKING BEER MUGSbGLASSESaCLIPBOARDaCLOCK FACE EIGHT OCLOCKcEIGHT-THIRTY
cELEVEN OCLOCKcELEVEN-THIRTYcFIVE OCLOCKcFIVE-THIRTYcFOUR OCLOCKcFOUR-THIRTYcNINE OCLOCKcNINE-THIRTY
cONE OCLOCKcONE-THIRTYcSEVEN OCLOCKcSEVEN-THIRTYcSIX OCLOCKcSIX-THIRTYcTEN OCLOCKcTEN-THIRTY
cTHREE OCLOCKcTHREE-THIRTYcTWELVE OCLOCKcTWELVE-THIRTYcTWO OCLOCKcTWO-THIRTY
aCLOCKWISE CLOSED CIRCLE ARROWbCONTOUR INTEGRALbDOWNWARDS AND UPWARDS OPEN CIRCLE ARROWS
bGAPPED CIRCLE ARROWbINTEGRALbOPEN CIRCLE ARROWbRIGHT AND LEFT SEMICIRCLE ARROWS
bRIGHTWARDS AND LEFTWARDS OPEN CIRCLE ARROWShWITH CIRCLED ONE OVERLAYbTOP SEMICIRCLE ARROW
bTRIANGLE-HEADED OPEN CIRCLE ARROWaCLOSE UPaCLOSED BOOKbINTERSECTION WITH SERIFSbLOCK WITH KEY
bMAILBOX WITH LOWERED FLAGdRAISED FLAGbSUBSETcOR EQUAL TObSUPERSETcOR EQUAL TObUMBRELLA
bUNION WITH SERIFSeAND SMASH PRODUCTaCLOUDbWITH LIGHTNINGcRAINcSNOWcTORNADOaCLOWN FACEaCOAT
aCOCKROACHaCOCKTAIL GLASSaCOCONUTaCOFFINaCOINaCOLLISION SYMBOLaCOLONbEQUALSbSIGN
aCOMBINING ACUTE ACCENTdBELOWcTONE MARKbACUTE-GRAVE-ACUTEbACUTE-MACRONbALMOST EQUAL TO ABOVEeBELOW
bANNUITY SYMBOLbANTICLOCKWISE ARROW ABOVEcRING OVERLAYbASTERISK ABOVEcBELOWbBINDU BELOWbBREVEcBELOW
bBREVE-MACRONbBRIDGE ABOVEcBELOWbCANDRABINDUbCARONcBELOWbCEDILLAbCIRCUMFLEX ACCENTdBELOW
bCLOCKWISE ARROW ABOVEcRING OVERLAYbCOMMA ABOVEdRIGHTcBELOWbCONJOINING MACRONdBELOW
bCYRILLIC DASIA PNEUMATAcHUNDRED MILLIONS SIGNdTHOUSANDS SIGNcKAVYKAcLETTER AdBEdBIG YUSdCHEdDE
dDJERVdEFdELdEMdENdERdESdES-TEdFITAdGHEdHAdHARD SIGNdIdIEdIOTIFIED AeBIG YUSeEdKAdLITTLE YUS
dMONOGRAPH UKdOdOMEGAdPEdSHAdSHCHAdSOFT SIGNdTEdTSEdUdUKRAINIAN IEdVEdYATdYERUdYIdYUdZEdZHE
cMILLIONS SIGNcPALATALIZATIONcPAYEROKcPOKRYTIEcPSILI PNEUMATAcTEN MILLIONS SIGN
cTHOUSAND MILLIONS SIGNcTITLOdLEFT HALFdRIGHT HALFcVZMETbDELETION MARKbDEVANAGARI DIGIT EIGHTdFIVE
dFOURdNINEdONEdSEVENdSIXdTHREEdTWOdZEROcLETTER AdKAdNAdPAdRAdUdVIcSIGN AVAGRAHAbDIAERESIScBELOW
bDIAERESIS-RINGbDOT ABOVEdLEFTdRIGHTcBELOWdLEFTbDOTTED ACUTE ACCENTcGRAVE ACCENTbDOUBLE ACUTE ACCENT
cBREVEdBELOWcCIRCUMFLEX ABOVEcGRAVE ACCENTcINVERTED BREVEeBELOWcLOW LINEcMACRONdBELOW
cOPEN MARK BELOWcOVERLINEcPARENTHESES ABOVEcPLUS SIGN ABOVEeBELOWcRIGHTWARDS ARROW BELOWcRING BELOW
cTILDEdLEFT HALFdRIGHT HALFcVERTICAL LINE ABOVEeBELOWdSTROKE OVERLAYbDOUBLED CIRCUMFLEX ACCENT
bDOWN TACK BELOWbDOWNWARDS ARROWbENCLOSING CIRCLEdBACKSLASHcDIAMONDcKEYCAPcSCREENcSQUARE
cUPWARD POINTING TRIANGLEbEQUALS SIGN BELOWbFERMATAbFOUR DOTS ABOVEbGLAGOLITIC LETTER AZUdBIG YUS
dBUKYdCHRIVIdDJERVIdDOBROdFITAdFRITUdGLAGOLIdHERUdIdINITIAL IZHEdIOTATED BIG YUSeSMALL YUSdIZHEdKAKO
dLJUDIJEdMYSLITEdNASHIdONUdPOKOJIdRITSIdSHAdSHTAdSLOVOdSMALL YUSdTSIdTVRIDOdUKUdVEDEdYATIdYERIdYERU
dYESTUdYOdYUdZEMLJAdZHIVETEbGRANTHA DIGIT FIVEdFOURdONEdSIXdTHREEdTWOdZEROcLETTER AdKAdNAdPAdVI
bGRAPHEME JOINERbGRAVE ACCENTdBELOWcTONE MARKbGRAVE-ACUTE-GRAVEbGRAVE-MACRONbGREEK DIALYTIKA TONOS
cKORONIScMUSICAL PENTASEMEdTETRASEMEdTRISEMEcPERISPOMENIcYPOGEGRAMMENIbHOMOTHETIC ABOVEbHOOK ABOVE
bHORNbINFINITYbINVERTED BREVEdBELOWcBRIDGE BELOWcDOUBLE ARCH ABOVEeBELOWbIS BELOW
bKATAKANA-HIRAGANA SEMI-VOICED SOUND MARKcVOICED SOUND MARKbKAVYKA ABOVE LEFTdRIGHT
bLATIN LETTER SMALL CAPITAL GfLfMfNfRcSMALL LETTER AfWITH DIAERESISeAEeALPHAeAOeAVeBeBETAeCfCEDILLA
eDeEeESHeETHeFeFLATTENED OPEN A ABOVEeGeHeIeINSULAR DfGfRfTeKeLfWITH DOUBLE MIDDLE TILDEeLONG SeMeN
eOfWITH DIAERESISgLIGHT CENTRALIZATION STROKEePeRfBELOWfROTUNDAeSeSCHWAeTeTURNED W BELOWeU
fWITH DIAERESISgLIGHT CENTRALIZATION STROKEeVeWfBELOWeXeZbLEFT ANGLE ABOVEdBELOWcARROW ABOVEdBELOW
cARROWHEAD ABOVEdBELOWcHALF RING ABOVEeBELOWcHARPOON ABOVEcPARENTHESIS ABOVE LEFTdBELOW LEFT
cRIGHT ARROW ABOVEeBELOWcTACK BELOWbLEFTWARDS ARROW OVERLAYcHARPOON WITH BARB DOWNWARDS
bLIGATURE LEFT HALFeBELOWcRIGHT HALFeBELOWbLIGHT CENTRALIZATION STROKE BELOW
bLONG DOUBLE SOLIDUS OVERLAYcSOLIDUS OVERLAYcSTROKE OVERLAYcVERTICAL LINE OVERLAYbLOW LINEbMACRON
cBELOWcLEFT HALFeBELOWcRIGHT HALFeBELOWbMACRON-ACUTEbMACRON-BREVEbMACRON-GRAVEbMINUS SIGN BELOW
bNOT TILDE ABOVEbNUMBER SIGN ABOVEbOGONEKcABOVEbOLD PERMIC LETTER ANeDOIeNENOEeSIIeZATA
bOPEN MARK BELOWbOVERLINEbPALATALIZED HOOK BELOWbPARENTHESES ABOVEcBELOWcOVERLAYbPLUS SIGN ABOVE
dBELOWbRETROFLEX HOOK BELOWbREVERSE SOLIDUS OVERLAYbREVERSED COMMA ABOVEbRIGHT ARROW ABOVEdBELOW
cARROWHEAD ABOVEdAND DOWN ARROWHEAD BELOWeUP ARROWHEAD BELOWdBELOWcHALF RING ABOVEeBELOW
cHARPOON ABOVEcPARENTHESIS ABOVE RIGHTdBELOW RIGHTcTACK BELOWbRIGHTWARDS HARPOON WITH BARB DOWNWARDS
bRING ABOVEcBELOWcOVERLAYbSEAGULL BELOWbSHORT SOLIDUS OVERLAYcSTROKE OVERLAYcVERTICAL LINE OVERLAY
bSNAKE BELOWbSQUARE BELOWcBRACKETS ABOVEbSTRONG CENTRALIZATION STROKE BELOWbSUSPENSION MARK
bTHREE DOTS ABOVEbTILDEcBELOWcLEFT HALF BELOWcOVERLAYcRIGHT HALF BELOWbTRIPLE ACUTE ACCENTcDOT
cUNDERDOTbTURNED COMMA ABOVEbUP TACK ABOVEdBELOWbUPWARDS ARROW BELOWbUR ABOVEbUS ABOVE
bVERTICAL LINE ABOVEdBELOWcTILDEbWIDE BRIDGE ABOVEcINVERTED BRIDGE BELOWbWIGGLY LINE BELOWbX ABOVE
cBELOWbX-X BELOWbZIGZAG ABOVEcBELOWaCOMETaCOMMAaCOMMERCIAL ATbMINUS SIGNaCOMPASSaCOMPLEMENT
aCOMPOSITION SYMBOLaCOMPRESSIONaCONFETTI BALLaCONFOUNDED FACEaCONFUSED FACEaCONGRUENT WITH DOT ABOVE
aCONICAL TAPERaCONJUNCTIONaCONSTRUCTION SIGNbWORKERaCONTAINS AS MEMBERcNORMAL SUBGROUPeOR EQUAL TO
bWITH LONG HORIZONTAL STROKEcOVERBARcVERTICAL BAR AT END OF HORIZONTAL STROKE
aCONTINUOUS UNDERLINE SYMBOLaCONTOUR INTEGRALaCONTROL KNOBSbSEQUENCE INTRODUCERaCONVENIENCE STORE
aCOOKED RICEaCOOKIEaCOOKINGaCOPTIC CAPITAL LETTER AKHMIMIC KHEIdALFAdBOHAIRIC KHEIdCROSSED SHEI
dCRYPTOGRAMMIC EIEeGANGIAeNIeSHEIdDALDAdDEIdDIALECT-P ALEFeHORIeKAPAeNIdEIEdFEIdFIdGAMMAdGANGIAdHATE
dHORIdIAUDAdKAPAdKHEIdKHIdKSIdL-SHAPED HAdLAULAdMIdNIdOdOLD COPTIC AINfDJAfESHfGANGIAfHAfHATfHEI
fHORIfOOUfSHEIfSHIMAeNUBIAN NGIfNYIfSHIMAfWAUdOOUdPIdPSIdROdSAMPIdSHEIdSHIMAdSIMAdSOUdTAUdTHETHEdUA
dVIDAdZATAbCOMBINING NI ABOVEcSPIRITUS ASPERdLENISbEPACT DIGIT EIGHTdFIVEdFOURdNINEdONEdSEVENdSIX
dTHREEdTWOcNUMBER EIGHT HUNDREDdEIGHTYdFIFTYdFIVE HUNDREDdFORTYdFOUR HUNDREDdNINE HUNDREDdNINETY
dONE HUNDREDdSEVEN HUNDREDdSEVENTYdSIX HUNDREDdSIXTYdTENdTHIRTYdTHREE HUNDREDdTWENTYdTWO HUNDRED
cTHOUSANDS MARKbFRACTION ONE HALFbFULL STOPbMORPHOLOGICAL DIVIDERbOLD NUBIAN DIRECT QUESTION MARK
dFULL STOPdINDIRECT QUESTION MARKdVERSE DIVIDERbSMALL LETTER AKHMIMIC KHEIdALFAdBOHAIRIC KHEI
dCROSSED SHEIdCRYPTOGRAMMIC EIEeGANGIAeNIeSHEIdDALDAdDEIdDIALECT-P ALEFeHORIeKAPAeNIdEIEdFEIdFI
dGAMMAdGANGIAdHATEdHORIdIAUDAdKAPAdKHEIdKHIdKSIdL-SHAPED HAdLAULAdMIdNIdOdOLD COPTIC AINfDJAfESH
fGANGIAfHAfHATfHEIfHORIfOOUfSHEIfSHIMAeNUBIAN NGIfNYIfSHIMAfWAUdOOUdPIdPSIdROdSAMPIdSHEIdSHIMAdSIMA
dSOUdTAUdTHETHEdUAdVIDAdZATAbSYMBOL KAIcKHI ROcMI ROcPI ROcSHIMA SIMAcSTAUROScTAU ROaCOPYLEFT SYMBOL
aCOPYRIGHT SIGNaCORALaCORNISH VERSE DIVIDERaCORRESPONDS TOaCOUCH AND LAMPaCOUNTERBOREaCOUNTERSINK
aCOUNTING ROD TENS DIGIT EIGHTeFIVEeFOUReNINEeONEeSEVENeSIXeTHREEeTWOcUNIT DIGIT EIGHTeFIVEeFOUR
eNINEeONEeSEVENeSIXeTHREEeTWOaCOUPLE WITH HEARTaCOWbFACEaCRaCRABaCREDIT CARDaCRESCENT MOONaCRICKET
bBAT AND BALLaCROCODILEaCROISSANTaCROSS MARKbOF JERUSALEMcLORRAINEbPATTY WITH LEFT CROSSBAR
dRIGHT CROSSBARbPOMMEEcWITH HALF-CIRCLE BELOWaCROSSED FLAGSbNEGATIVE SQUARED LATIN CAPITAL LETTER P
bSWORDSaCROSSING LANESaCROWNaCRUTCHaCRUZEIRO SIGNaCRYING CAT FACEbFACEaCRYSTAL BALLaCSIaCUBE ROOT
aCUCUMBERaCUNEIFORM NUMERIC SIGN EIGHT ASHeDISHeGESH2eSHAR2eUfVARIANT FORMeVARIANT FORM USSUgUSSU3
dELAMITE FIFTYeFORTYeONE THIRDeTWO THIRDSdFIVE ASHfTENUeBAN2fVARIANT FORMeBURUeDISHeGESH2eGESHU
eSHAR2eSHARUeSIXTHS DISHeUfVARIANT FORMdFOUR ASHfTENUeBAN2fVARIANT FORMeBURUeDISHeGESH2eGESHUeSHAR2
eSHARUeUfVARIANT FORMeVARIANT FORM LIMMUhAhBgLIMMU4dNIGIDAESHdNIGIDAMINdNINE ASHeDISHeGESH2eSHAR2eU
fVARIANT FORMeVARIANT FORM ILIMMUhAgILIMMU3gILIMMU4dOLD ASSYRIAN ONE QUARTERgSIXTHdONE BAN2eBURU
eEIGHTH ASHeESHE3eGESH2eGESHUeHALF GUReQUARTER ASHfGUReSHARUeTHIRD DISHfVARIANT FORM AdSEVEN ASH
eDISHeGESH2eSHAR2eUfVARIANT FORMeVARIANT FORM IMIN AhBgIMIN3dSHAR2 TIMES GAL PLUS DISHhMINdSIX ASH
fTENUeDISHeGESH2eSHAR2eUfVARIANT FORMeVARIANT FORM ASH9dTHREE ASHfTENUeBAN2eBURUfVARIANT FORMeDISH
eGESH2eGESHUeSHAR2fVARIANT FORMeSHARUfVARIANT FORMeVARIANT FORM ESH16gESH21dTWO ASHfTENUeBAN2eBURU
eESHE3eGESH2eGESHUeSHAR2eSHARUeTHIRDS DISHfVARIANT FORM AbPUNCTUATION SIGN DIAGONAL COLONeQUADCOLON
eTRICOLONdOLD ASSYRIAN WORD DIVIDERdVERTICAL COLONbSIGN AdTIMES AeBADeGAN2 TENUeHAeIGIeLAGAR GUNU
eMUSHeSAGcA2cABdGUNUdTIMES ASH2eDUN3 GUNUeGALeGAN2 TENUeHAeIGI GUNUeIMINeLAGABeNUNfTENUeSHESHeSHU2
eU PLUS U PLUS UcAB2dTIMES AeBALAGeGAN2 TENUeME PLUS ENeSHA3eTAK4cADdTIMES ESH2cAKdTIMES ERIN2
eSHITA PLUS GISHcALdTIMES ALeDIM2eGISHeHAeKAD3eKIeSHEeUSHcALANcALEPHcAMARdTIMES KUGeSHEcANdOVER AN
dPLUS NAGA OPPOSING AN PLUS NAGAfSQUAREDdTHREE TIMEScANSHEcAPINcARADdTIMES KURcARKABcASAL2cASH
dKABA TENUdOVER ASH OVER ASHhCROSSING ASH OVER ASH OVER ASHfTUG2 OVER TUG2 TUG2 OVER TUG2 PAP
dZIDA TENUcASH2cASHGABcBAcBADdTIMES DISH TENUcBAG3cBAHAR2dTIMES AB2eNIeZAcBALdOVER BALcBALAGcBAR
cBARA2cBIdTIMES AeGAReIGI GUNUcBUdCROSSING BUdOVER BU ABfTIMES NA2fUNcBULUGdOVER BULUGcBURcBUR2cDA
dTIMES TAK4cDAGdKISIM5 TIMES A PLUS MASHfAMARfBALAGfBIfGAgPLUS MASHfGIfGIR2fGUDfHAfIRgPLUS LUfKAKfLA
fLUgPLUS MASH2fLUMfNEfPAP PLUS PAPfSIfTAK4fU2 PLUS GIR2hMASHfUSHdTIMES KURcDAG3cDAMcDARcDARA3cDARA4
cDIcDIBcDIMdTIMES IGIeSHEeU U UcDIM2dTIMES UDcDINdKASKAL U GUNU DISHcDISHdPLUS SHUcDUdGUNUdOVER DU
dSHESHIGcDUBdTIMES ESH2eSHEcDUB2cDUGdTIMES ANSHEeASHfAT LEFTeDINeDUNeERIN2eGAeGIeGIR2 GUNUeGISHeHA
eHIeIGI GUNUeKASKALeKUReKUSHU2fPLUS KASKALeLAK-020eLAMfTIMES KUReLUH PLUS GISHeMASHeMESeMIeNIePIeSHE
eSI GUNUcDUGUDcDUHcDUNcDUN3dGUNUeGUNUcDUN4cDUR2cEdOVER E NUN OVER NUNdTIMES PAPcE2
dTIMES A PLUS HA PLUS DAeGAReKUReMIePAPeSALeSHEeUcEDINcEGIRcELcENdCROSSING ENdOPPOSING ENdSQUARED
dTIMES GAN2fTENUeMEcERENcERIN2dXcESH2dCROSSING ESH2cEZENdSHESHIG TIMES ASHfHIfIGI GUNUfLAfLALfMEfMES
fSUdTIMES AfPLUS LALhTIMES LALeANeBADeDUN3 GUNUgGUNUeGUDeHAfGUNUeIGI GUNUeKASKALfSQUAREDeKU3eLA
eLAL TIMES LALeLIeLUeSHEeSUeU2eUDcGAdGUNUcGA2dOVER GA2dTIMES A PLUS DA PLUS HAgHAgIGI
eAB2 TENU PLUS TABeANfPLUS KAK PLUS AeASHeASH2fPLUS GALeBADeBAHAR2eBAR PLUS RAeBURfPLUS RAeDAeDI
eDIM GUNUfTIMES SHEeDUBeDUG TIMES IGI GUNUgKASKALeELfPLUS LAeENfTIMES GAN2 TENUeERENeGAeGAN2 TENU
eGARfPLUS DIgNEeGIeGI4fPLUS AeGIR2 PLUS SUeHA PLUS AgLU PLUS ESH2eHALfPLUS LAeHI PLUS LIeHUB2
eIGI GUNUeISH PLUS HU PLUS ASHeKAKeKASKALeKIDfPLUS LALeKU3 PLUS ANeKUSHU2 PLUS KASKALeLAeLAM
fTIMES KUReLUHeME PLUS ENeMIeMUSHeNEfPLUS E2gGIeNUNfOVER NUNePAeSALeSAReSHEfPLUS TUReSHIDeSHIMeSUM
eTAK4eUeUDfPLUS DUeZIZ2cGABAdCROSSING GABAdROTATED NINETY DEGREEScGADdOVER GAD GAR OVER GARcGAL
dGAD OVER GAD GAR OVER GARcGALAMcGAMcGANcGAN2dCROSSING GAN2dOVER GAN2dTENUcGARcGAR3cGASHANcGE22
cGESHTINdTIMES KUReUcGIdCROSSING GIdTIMES EeUcGI4dCROSSING GI4dOVER GI4cGIDIMcGIGcGIR2dGUNUcGIR3
dTIMES A PLUS IGIeGAN2 TENUeIGIeLU PLUS IGIePAcGISALcGISHdCROSSING GISHdTENUdTIMES BAD
eGISH CROSSING GISHeTAK4cGUdCROSSING GUcGU2dGUNUdTIMES IGI GUNUeKAKfTIMES IGI GUNUeNUNeSAL PLUS TUG2
cGUDdOVER GUD LUGALdPLUS GISH TIMES TAK4dTIMES A PLUS KUReKURcGULcGUMdTIMES SHEcGURcGUR7cGURUN
cGURUSHcHAdGUNUdTENUeGUNUcHALcHIdTIMES ASHfOVER HI TIMES ASHeASH2eBADeDISHeGADeKINeNUNeSHEeUcHUcHUB2
dTIMES ANeHALeKASKALeLISHeUDcHUL2cHUSHcIdAcIBcIDIMdOVER IDIM BURfSQUAREDcIGcIGIdDIBdGUNU
dOVER IGI SHIR OVER SHIR UD OVER UDdRIcILdTIMES GAN2 TENUcIL2cIMdCROSSING IMdOPPOSING IMdSQUARED
dTIMES TAK4cIMINcINcIRcISHcKAdTIMES AeADfPLUS KU3eANSHEeASH2eASH3eBADeBALAGeBAReBIeBUeERIN2eESH2eGA
eGALeGAN2 TENUeGARfPLUS SHA3 PLUS AeGIeGIR2eGISHfCROSSING GISHfPLUS SAReGUeGUDeGUR7eHI TIMES ASH2
eIGIeIMeKAeKAKeKIeKIDeLIeLUeLUMeMEfPLUS DUgGIgTEeMIfPLUS NUNUZeNEeNUNePAePIeRUeSAeSAReSHAeSHEeSHID
eSHUeSHULeSIGeSUHUReTAReTUeUfU UeU2eUDeUMUM TIMES PAeUReUR2eUSHeZIcKA2dCROSSING KA2cKABcKAD2cKAD3
cKAD4cKAD5dOVER KAD5cKAKdTIMES IGI GUNUcKALdCROSSING KALdTIMES BADcKAM2cKAM4cKAP ELAMITEcKASKAL
dLAGAB TIMES U OVER LAGAB TIMES UdOVER KASKAL LAGAB TIMES U OVER LAGAB TIMES UcKESH2cKIdTIMES BADeU
eUDcKIDcKINcKISALcKISHcKISIM5dOVER KISIM5cKUdOVER HI TIMES ASH2 KU OVER HI TIMES ASH2cKU3cKU4
dVARIANT FORMcKU7cKULdGUNUcKUNcKURdOPPOSING KURcKUSHU2cKWU318cLAcLAGABdSQUAREDdTIMES A
fPLUS DA PLUS HAgGARgLALeALeANeASH ZIDA TENUeBADeBIeDAReENeGAeGAReGIeGUDfPLUS GUDeHAeHAL
eHI TIMES NUNeIGI GUNUeIMfPLUS HAgLUeKIeKINeKU3eKULfPLUS HI PLUS AeLAGABeLISHeLUeLULeMEfPLUS ENeMUSH
eNEeSHE PLUS SUMeSHITA PLUS GISH PLUS ERIN2hTENUeSHU2fPLUS SHU2eSUMeTAGeTAK4
eTE PLUS A PLUS SU PLUS NAeUfPLUS AgU PLUS UeU2 PLUS ASHeUDeUSHeZU OVER ZUcLAGARdGUNU
eOVER LAGAR GUNU SHEdTIMES SHEfPLUS SUMcLAHSHUcLAK-003cLAK-021cLAK-025cLAK-030cLAK-050cLAK-051
cLAK-062cLAK-079 OVER LAK-079 GUNUcLAK-080cLAK-081 OVER LAK-081cLAK-092cLAK-130cLAK-142cLAK-210
cLAK-219cLAK-220cLAK-225cLAK-228cLAK-238cLAK-265cLAK-266cLAK-343cLAK-347cLAK-348cLAK-383cLAK-384
cLAK-390cLAK-441cLAK-449dTIMES GUeIGIePAP PLUS LU3gPAP PLUS LU3eU2 PLUS BAcLAK-450cLAK-457cLAK-470
cLAK-483cLAK-490cLAK-492cLAK-493cLAK-495cLAK-550cLAK-608cLAK-617dTIMES ASHeBADeDUN3 GUNU GUNUeKU3eLA
eTAReTEeU2eUDeURUDAcLAK-636cLAK-648dTIMES DUBeGAeIGIfGUNUeNIePAP PLUS PAP PLUS LU3eSHESH PLUS KIeUD
eURUDAcLAK-724cLAK-749cLALdTIMES LALcLAMdTIMES KURfPLUS RUcLIcLILcLIMMU2cLISHcLUdTIMES BADcLU2
dCROSSING LU2dGUNU TIMES ASHdOPPOSING LU2dSHESHIGeTIMES BADdSQUAREDdTENUdTIMES ALeBADeDISHeESH2
fPLUS LALfTENUeGAN2 TENUeHALeHI TIMES BADeIMeKAD2eKAD3fPLUS ASHeKIeLA PLUS ASHeLAGABeME PLUS ENeNE
eNUePAPfPLUS PAP PLUS LU3eSHUeSI PLUS ASHeSIK2 PLUS BUeTAK4eTUG2cLU3cLUGALdOPPOSING LUGALdOVER LUGAL
dSHESHIGcLUHcLULcLUMdOVER LUMfGAR OVER GARcMAdGUNUdTIMES TAK4cMA2cMAHcMARcMASHcMASH2cMEcMEScMESHcMI
dPLUS ZA7cMINcMUdOVER MUcMUGdGUNUcMUNSUBcMURGU2cMUSHdCROSSING MUSHdOVER MUSHfTIMES A PLUS NAgGAgKAK
dTIMES AeKUReZAcMUSH3dGUNUdTIMES AfPLUS DIeDIeZAcNAcNA2cNA4cNAGAdINVERTEDdOPPOSING NAGA
dTIMES SHU TENUcNAGARcNAMdNUTILLUcNAM2cNEdSHESHIGdTIMES AeUDcNIdTIMES EcNI2cNIMdTIMES GAN2 TENU
eGAR PLUS GAN2 TENUcNINcNIN9cNINDA2dTIMES ANeASHfPLUS ASHeBALeDIM GUNUeGIeGISHeGUDeGULeHIeKESH2
eLAK-050eMASHeME PLUS GAN2 TENUeNEeNUNePAP PLUS PAPeSHEfPLUS A ANgASHhPLUS ASHeUfPLUS UeU2 PLUS ASH
eURUDAeUSHcNISAGcNUcNU11dOVER NU11 BUR OVER BURdROTATED NINETY DEGREESdTENUcNUNdCROSSING NUN
fLAGAR OVER LAGARdLAGAR TIMES GARfMASHfSALgOVER NUN LAGAR TIMES SALfUSHdOVER NUNdTENUcNUNUZ
dAB2 TIMES ASHGABfBIfDUGfGUDfIGI GUNUfKAD3fLAfNEfSILA3fU2dKISIM5 TIMES BIgUcPAcPADcPANcPAPcPESH2
dASTERISKcPIdCROSSING PIdTIMES AeABeBIeBUeEeIeIBeUeU2cPIR2cPIRIGdOPPOSING PIRIGdTIMES KALeUDeZAcRA
cRABcRIcRUcSAcSAGdGUNUeTIMES HAdNUTILLUdOVER SAGdTIMES AeDUeDUBeENeHAeIGI GUNUeKAKeKUReLUMeMIeNUN
eSALeSHE AT LEFTeSHIDeTABeTAK4eU2eUBeUMeUReUSHcSALdLAGAB TIMES ASH2cSANGA2cSARcSHAcSHA3dTIMES AeBAD
eGISHeNEeSHU2eTUReUfPLUS AcSHA6dTENUcSHAB6cSHAR2cSHEdHUdOVER SHEfGAD OVER GAD GAR OVER GAR
fTAB OVER TAB GAR OVER GARdPLUS HUB2eNAM2eSARcSHEG9cSHENcSHESHcSHESH2cSHESHLAMcSHIDdTIMES AeIMcSHIM
dTIMES AeBALeBULUGeDINeGAReIGIfGUNUeKUSHU2eLULeMUGeSALcSHINIGcSHIRdOVER SHIR BUR OVER BURdTENUcSHITA
cSHUdOVER INVERTED SHUcSHU2dPLUS DUG TIMES NIeE2 TIMES ANcSHUBURcSIdGUNUdTIMES TAK4cSIGcSIG4
dOVER SIG4 SHU2cSIK2cSILA3cSUdOVER SUcSUDcSUD2cSUHURcSUMcSUMASHcSURcSUR9cTAdASTERISKdGUNUdTIMES HI
eMIcTABdOVER TAB NI OVER NI DISH OVER DISHdSQUAREDcTAGdTIMES BIeGUDeSHEeSHUeTUG2eUDcTAK4dPLUS SAG
cTARcTEdGUNUcTIdTENUcTI2cTILcTIRdOVER TIRfGAD OVER GAD GAR OVER GARdTIMES TAK4cTUcTUG2cTUKcTUM
dTIMES GAN2 TENUeTHREE DISHcTURdOVER TUR ZA OVER ZAcUdGUDdOVER U PA OVER PA GAR OVER GAR
fSUR OVER SURfU REVERSED OVER U REVERSEDdUeUcU2cUBcUDdGUNUdKUSHU2dSHESHIGeTIMES BADdTIMES BADeMI
eU PLUS U PLUS UjGUNUcUDUGcUMdTIMES LAGABeMEfPLUS DAeSHA3eUcUMBINcUMUMdTIMES KASKALePAcUNdGUNUcUR
dCROSSING URdSHESHIGcUR2dINVERTEDdTIMES A PLUS HAgNAeALeHAeNUNeU2fPLUS ASHgBIeUDcUR4cURIcURI3cURU
dTIMES AeASHGABeBAReDARA3eDUNeGAeGALeGAN2 TENUeGAReGUeHAeIGIeIMeISHeKIeLAK-668eLU3eLUMeMINePAeSHE
eSIG4eTUeU PLUS GUDeUDeURUDAcURUDAdTIMES UcUSHdTIMES AeKUeKUReTAK4cUSH2cUSHUMXcUSHXcUTUKIcUZ3
dTIMES KASKALcUZUcZAdSQUARED TIMES KURdTENUcZA7cZAGcZAMXcZE2cZIdOVER ZIcZI3cZIBdKABA TENUcZIGcZIZ2
cZUdOVER ZU PLUS SARcZU5dTIMES AeTHREE DISH TENUcZUBURcZUMaCUP ON BLACK SQUAREbWITH STRAWaCUPCAKE
aCUPIDOaCURLING STONEaCURLY BRACKET EXTENSIONbLOGICAL ANDcORbLOOPaCURRENCY EXCHANGEbSIGN
aCURRY AND RICEaCURVED STEM PARAGRAPH SIGN ORNAMENTaCUSTARDaCUSTOMSaCUT OF MEATaCYCLONEaCYLINDRICITY
aCYPRIOT SYLLABLE AcEcIcJAcJOcKAcKEcKIcKOcKUcLAcLEcLIcLOcLUcMAcMEcMIcMOcMUcNAcNEcNIcNOcNUcOcPAcPEcPI
cPOcPUcRAcREcRIcROcRUcSAcSEcSIcSOcSUcTAcTEcTIcTOcTUcUcWAcWEcWIcWOcXAcXEcZAcZO
aCYPRO-MINOAN SIGN CM001cCM002cCM004cCM005cCM006cCM007cCM008cCM009cCM010cCM011cCM012cCM012BcCM013
cCM015cCM017cCM019cCM021cCM023cCM024cCM025cCM026cCM027cCM028cCM029cCM030cCM033cCM034cCM035cCM036
cCM037cCM038cCM039cCM040cCM041cCM044cCM046cCM047cCM049cCM050cCM051cCM052cCM053cCM054cCM055cCM056
cCM058cCM059cCM060cCM061cCM062cCM063cCM064cCM066cCM067cCM068cCM069cCM070cCM071cCM072cCM073cCM074
cCM075cCM075BcCM076cCM078cCM079cCM080cCM081cCM082cCM083cCM084cCM085cCM086cCM087cCM088cCM089cCM090
cCM091cCM092cCM094cCM095cCM096cCM097cCM098cCM099cCM100cCM101cCM102cCM103cCM104cCM105cCM107cCM108
cCM109cCM110cCM112cCM114cCM301cCM302aCYRILLIC CAPITAL LETTER AeWITH BREVEfDIAERESISdABKHASIAN CHE
fWITH DESCENDEReDZEeHAdALEUT KAdBARRED OfWITH DIAERESISdBASHKIR KAdBEdBIG YUSdBINOCULAR O
dBLENDED YUSdBROAD OMEGAdBYELORUSSIAN-UKRAINIAN IdCCHEdCHEeWITH DESCENDERfDIAERESISfVERTICAL STROKE
dCLOSED LITTLE YUSdCROSSED OdDCHEdDEdDJEdDJERVdDOUBLE MONOCULAR OeOdDWEdDZEdDZELOdDZHEdDZWEdDZZE
dDZZHEdEeWITH DIAERESISdEFdELeWITH DESCENDERfHOOKfMIDDLE HOOKfTAILdEMeWITH TAILdENeWITH DESCENDER
fHOOKfLEFT HOOKfMIDDLE HOOKfTAILdEReWITH TICKdESeWITH DESCENDERdFITAdGHEeWITH DESCENDERfMIDDLE HOOK
fSTROKEgAND HOOKfUPTURNdGJEdHAeWITH DESCENDERfHOOKfSTROKEdHARD SIGNdHWEdIeWITH DIAERESISfGRAVE
fMACRONdIEeWITH BREVEfGRAVEdIOdIOTAdIOTIFIED AeBIG YUSeCLOSED LITTLE YUSeEeLITTLE YUSeYATdIZHITSA
eWITH DOUBLE GRAVE ACCENTdJEdKAeWITH DESCENDERfHOOKfSTROKEfVERTICAL STROKEdKHAKASSIAN CHEdKJE
dKOMI DEeDJEeDZJEeLJEeNJEeSJEeTJEeZJEdKOPPAdKSIdLHAdLITTLE YUSdLJEdMONOCULAR OdMONOGRAPH UK
dNEUTRAL YERdNJEdOeWITH DIAERESISdOMEGAeWITH TITLOdOTdPEeWITH DESCENDERfMIDDLE HOOKdPSIdQA
dREVERSED DZEeTSEeYUeZEdRHAdROUND OMEGAdSCHWAeWITH DIAERESISdSEMISOFT SIGNdSHAdSHCHAdSHHA
eWITH DESCENDERdSHORT IfWITH TAILeUdSHWEdSOFT DEeELeEMeSIGNdSTRAIGHT UfWITH STROKEdTCHEdTE
eWITH DESCENDERfMIDDLE HOOKdTSEdTSHEdTSSEdTSWEdTWEdUeWITH DIAERESISfDOUBLE ACUTEfMACRONdUK
dUKRAINIAN IEdVEdWEdYAdYAEdYATdYERUeWITH BACK YERfDIAERESISdYIdYNdYUdZEeWITH DESCENDERfDIAERESIS
dZEMLYAdZHEeWITH BREVEfDESCENDERfDIAERESISdZHWEcLIGATURE A IEdEN GHEdTE TSEbKAVYKA
bLETTER MULTIOCULAR OcPALOCHKAcSMALL CAPITAL ELbPAYEROKbSMALL LETTER AeWITH BREVEfDIAERESIS
dABKHASIAN CHEfWITH DESCENDEReDZEeHAdALEUT KAdBARRED OfWITH DIAERESISdBASHKIR KAdBEdBIG YUS
dBINOCULAR OdBLENDED YUSdBROAD OMEGAdBYELORUSSIAN-UKRAINIAN IdCCHEdCHEeWITH DESCENDERfDIAERESIS
fVERTICAL STROKEdCLOSED LITTLE YUSdCROSSED OdDCHEdDEdDJEdDJERVdDOUBLE MONOCULAR OeOdDWEdDZEdDZELO
dDZHEdDZWEdDZZEdDZZHEdEeWITH DIAERESISdEFdELeWITH DESCENDERfHOOKfMIDDLE HOOKfTAILdEMeWITH TAILdEN
eWITH DESCENDERfHOOKfLEFT HOOKfMIDDLE HOOKfTAILdEReWITH TICKdESeWITH DESCENDERdFITAdGHE
eWITH DESCENDERfMIDDLE HOOKfSTROKEgAND HOOKfUPTURNdGJEdHAeWITH DESCENDERfHOOKfSTROKEdHARD SIGNdHWEdI
eWITH DIAERESISfGRAVEfMACRONdIEeWITH BREVEfGRAVEdIOdIOTAdIOTIFIED AeBIG YUSeCLOSED LITTLE YUSeE
eLITTLE YUSeYATdIZHITSAeWITH DOUBLE GRAVE ACCENTdJEdKAeWITH DESCENDERfHOOKfSTROKEfVERTICAL STROKE
dKHAKASSIAN CHEdKJEdKOMI DEeDJEeDZJEeLJEeNJEeSJEeTJEeZJEdKOPPAdKSIdLHAdLITTLE YUSdLJEdLONG-LEGGED DE
dMONOCULAR OdMONOGRAPH UKdNARROW OdNEUTRAL YERdNJEdOeWITH DIAERESISdOMEGAeWITH TITLOdOTdPALOCHKAdPE
eWITH DESCENDERfMIDDLE HOOKdPSIdQAdREVERSED DZEeTSEeYUeZEdRHAdROUND OMEGAdROUNDED VEdSCHWA
eWITH DIAERESISdSEMISOFT SIGNdSHAdSHCHAdSHHAeWITH DESCENDERdSHORT IfWITH TAILeUdSHWEdSOFT DEeELeEM
eSIGNdSTRAIGHT UfWITH STROKEdTALL HARD SIGNeTEeYATdTCHEdTEeWITH DESCENDERfMIDDLE HOOK
dTHREE-LEGGED TEdTSEdTSHEdTSSEdTSWEdTWEdUeWITH DIAERESISfDOUBLE ACUTEfMACRONdUKdUKRAINIAN IE
dUNBLENDED UKdVEdWEdWIDE ESdYAdYAEdYATdYERUeWITH BACK YERfDIAERESISdYIdYNdYUdZEeWITH DESCENDER
fDIAERESISdZEMLYAdZHEeWITH BREVEfDESCENDERfDIAERESISdZHWEcLIGATURE A IEdEN GHEdTE TSEbTHOUSANDS SIGN
aDAGGERbKNIFEbWITH LEFT GUARDcRIGHT GUARDaDALET SYMBOLaDANCERaDANGOaDARK SHADEbSUNGLASSES
aDASH SYMBOLbWITH LEFT UPTURNaDASHED LOW LINEbOVERLINEbTRIANGLE-HEADED RIGHTWARDS ARROW
aDATA LINK ESCAPEaDC1aDC2aDC3aDC4aDCSaDEAF PERSONaDECIDUOUS TREEaDECIMAL EXPONENT SYMBOL
bSEPARATOR KEY SYMBOLaDECREASE FONT SIZE SYMBOLaDEERaDEGREE CELSIUSbFAHRENHEITbSIGNaDELaDELETE
aDELIVERY TRUCKaDELTA EQUAL TOaDENTISTRY SYMBOL LIGHT DOWN AND HORIZONTALgWITH CIRCLEhTRIANGLEhWAVE
dUP AND HORIZONTALgWITH CIRCLEhTRIANGLEhWAVEdVERTICAL AND BOTTOM LEFTgRIGHTfTOP LEFTgRIGHTfWAVE
eWITH CIRCLEfTRIANGLEaDEPARTMENT STOREaDERELICT HOUSE BUILDINGaDESCENDING NODE
aDESERET CAPITAL LETTER AYdBEEdCHEEdDEEdEFdELdEMdENdENGdERdESdESHdETHdEWdGAYdHdJEEdKAYdLONG AeAHeEeI
eOeOOdOIdOWdPEEdSHORT AeAHeEeIeOeOOdTEEdTHEEdVEEdWUdYEEdZEEdZHEEbSMALL LETTER AYdBEEdCHEEdDEEdEFdEL
dEMdENdENGdERdESdESHdETHdEWdGAYdHdJEEdKAYdLONG AeAHeEeIeOeOOdOIdOWdPEEdSHORT AeAHeEeIeOeOOdTEEdTHEE
dVEEdWUdYEEdZEEdZHEEaDESERTbISLANDaDESKTOP COMPUTERbWINDOWaDEVANAGARI ABBREVIATION SIGNbACUTE ACCENT
bCARETbDANDAbDIGIT EIGHTcFIVEcFOURcNINEcONEcSEVENcSIXcTHREEcTWOcZERObDOUBLE DANDAbGAP FILLER
bGRAVE ACCENTbHEADSTROKEbJAIN OMbLETTER AcAAcAIcAUcAWcAYcBAcBBAcBHAcCAcCANDRA AdEdOcCHAcDAcDDAcDDDA
cDDDHAcDDHAcDHAcEcFAcGAcGGAcGHAcGHHAcGLOTTAL STOPcHAcHEAVY YAcIcIIcJAcJHAcJJAcKAcKHAcKHHAcLAcLLA
cLLLAcMAcMARWARI DDAcNAcNGAcNNAcNNNAcNYAcOcOEcOOEcPAcPHAcQAcRAcRHAcRRAcSAcSHAcSHORT AdEdOcSSAcTAcTHA
cTTAcTTHAcUcUEcUUcUUEcVAcVOCALIC LdLLdRdRRcYAcYYAcZAcZHAbOMbSIGN ANUSVARAcAVAGRAHAcCANDRABINDU
dAVAGRAHAdTHREEdTWOdVIRAMAcDOUBLE CANDRABINDU VIRAMAcHIGH SPACING DOTcINVERTED CANDRABINDUcNUKTA
cPUSHPIKAcSIDDHAMcSPACING CANDRABINDUcVIRAMAcVISARGAbSTRESS SIGN ANUDATTAdUDATTAbVOWEL SIGN AAdAIdAU
dAWdAYdCANDRA EeLONG EeOdEdIdIIdOdOEdOOEdPRISHTHAMATRA EdSHORT EeOdUdUEdUUdUUEdVOCALIC LeLLeReRR
aDEVICE CONTROL FOURcONEcSTRINGcTHREEcTWOaDIAERESISaDIAMETER SIGNaDIAMOND OPERATOR
bSHAPE WITH A DOT INSIDEbTARGETbWITH BOTTOM HALF BLACKcLEFT HALF BLACKcRIGHT HALF BLACK
cTOP HALF BLACKaDIE FACE-1bFACE-2bFACE-3bFACE-4bFACE-5bFACE-6aDIESEL LOCOMOTIVEaDIFFERENCE BETWEEN
aDIGIT EIGHTcCOMMAcFULL STOPbFIVEcCOMMAcFULL STOPbFOURcCOMMAcFULL STOPbNINEcCOMMAcFULL STOPbONE
cCOMMAcFULL STOPbSEVENcCOMMAcFULL STOPbSIXcCOMMAcFULL STOPbTHREEcCOMMAcFULL STOPbTWOcCOMMAcFULL STOP
bZEROcCOMMAcFULL STOPaDIGRAM FOR EARTHcEARTHLY HEAVENdHUMANcGREATER YANGdYINcHEAVENLY EARTH
cHUMAN EARTHcLESSER YANGdYINaDIMENSION ORIGINaDINGBAT CIRCLED SANS-SERIF DIGIT EIGHTeFIVEeFOUReNINE
eONEeSEVENeSIXeTHREEeTWOeZEROdNUMBER TENbNEGATIVE CIRCLED DIGIT EIGHTeFIVEeFOUReNINEeONEeSEVENeSIX
eTHREEeTWOdNUMBER TENdSANS-SERIF DIGIT EIGHTfFIVEfFOURfNINEfONEfSEVENfSIXfTHREEfTWOfZEROeNUMBER TEN
aDIRECT CURRENT SYMBOL FORM TWObHITaDISABLED CARaDISAPPOINTED BUT RELIEVED FACEbFACE
aDISCONTINUOUS UNDERLINE SYMBOLaDISGUISED FACEaDITTO MARKaDIVES AKURU DIGIT EIGHTdFIVEdFOURdNINEdONE
dSEVENdSIXdTHREEdTWOdZEROcDOUBLE DANDAcEND OF TEXT MARKcGAP FILLERcINITIAL RAcLETTER AdAAdBAdBHAdCA
dCHAdDAdDDAdDDHAdDHAdEdGAdGHAdHAdIdIIdJAdKAdKHAdLAdLLAdMAdNAdNGAdNNAdNYAdOdPAdPHAdRAdSAdSHAdSSAdTA
dTHAdTTAdUdUUdVAdYAdYYAdZAcMEDIAL RAdYAcPREFIXED NASAL SIGNcSIGN ANUSVARAdCANDRABINDUdHALANTAdNUKTA
cVIRAMAcVOWEL SIGN AAeAIeEeIeIIeOeUeUUaDIVIDESaDIVING MASKaDIVISION SIGNbSLASHbTIMESaDIVORCE SYMBOL
aDIYA LAMPaDIZZY FACEbSYMBOLaDLEaDNA DOUBLE HELIXaDO NOT LITTER SYMBOLaDOCUMENTbWITH PICTUREcTEXT
dAND PICTUREaDODOaDOES NOT CONTAIN AS MEMBEReNORMAL SUBGROUPgOR EQUALcDIVIDE
dWITH REVERSED NEGATION SLASHcFORCEcPRECEDEdOR EQUALcPROVEcSUCCEEDdOR EQUALaDOGbFACE
aDOGRA ABBREVIATION SIGNbLETTER AcAAcAIcAUcBAcBHAcCAcCHAcDAcDDAcDDHAcDHAcEcGAcGHAcHAcIcIIcJAcJHAcKA
cKHAcLAcMAcNAcNGAcNNAcNYAcOcPAcPHAcRAcRRAcSAcSHAcSSAcTAcTHAcTTAcTTHAcUcUUcVAcYAbSIGN ANUSVARAcNUKTA
cVIRAMAcVISARGAbVOWEL SIGN AAdAIdAUdEdIdIIdOdUdUUdVOCALIC ReRRaDOLLAR SIGNaDOLPHIN
aDOMINO TILE HORIZONTAL BACKcHORIZONTAL-00-00cHORIZONTAL-00-01cHORIZONTAL-00-02cHORIZONTAL-00-03
cHORIZONTAL-00-04cHORIZONTAL-00-05cHORIZONTAL-00-06cHORIZONTAL-01-00cHORIZONTAL-01-01
cHORIZONTAL-01-02cHORIZONTAL-01-03cHORIZONTAL-01-04cHORIZONTAL-01-05cHORIZONTAL-01-06
cHORIZONTAL-02-00cHORIZONTAL-02-01cHORIZONTAL-02-02cHORIZONTAL-02-03cHORIZONTAL-02-04
cHORIZONTAL-02-05cHORIZONTAL-02-06cHORIZONTAL-03-00cHORIZONTAL-03-01cHORIZONTAL-03-02
cHORIZONTAL-03-03cHORIZONTAL-03-04cHORIZONTAL-03-05cHORIZONTAL-03-06cHORIZONTAL-04-00
cHORIZONTAL-04-01cHORIZONTAL-04-02cHORIZONTAL-04-03cHORIZONTAL-04-04cHORIZONTAL-04-05
cHORIZONTAL-04-06cHORIZONTAL-05-00cHORIZONTAL-05-01cHORIZONTAL-05-02cHORIZONTAL-05-03
cHORIZONTAL-05-04cHORIZONTAL-05-05cHORIZONTAL-05-06cHORIZONTAL-06-00cHORIZONTAL-06-01
cHORIZONTAL-06-02cHORIZONTAL-06-03cHORIZONTAL-06-04cHORIZONTAL-06-05cHORIZONTAL-06-06cVERTICAL BACK
cVERTICAL-00-00cVERTICAL-00-01cVERTICAL-00-02cVERTICAL-00-03cVERTICAL-00-04cVERTICAL-00-05
cVERTICAL-00-06cVERTICAL-01-00cVERTICAL-01-01cVERTICAL-01-02cVERTICAL-01-03cVERTICAL-01-04
cVERTICAL-01-05cVERTICAL-01-06cVERTICAL-02-00cVERTICAL-02-01cVERTICAL-02-02cVERTICAL-02-03
cVERTICAL-02-04cVERTICAL-02-05cVERTICAL-02-06cVERTICAL-03-00cVERTICAL-03-01cVERTICAL-03-02
cVERTICAL-03-03cVERTICAL-03-04cVERTICAL-03-05cVERTICAL-03-06cVERTICAL-04-00cVERTICAL-04-01
cVERTICAL-04-02cVERTICAL-04-03cVERTICAL-04-04cVERTICAL-04-05cVERTICAL-04-06cVERTICAL-05-00
cVERTICAL-05-01cVERTICAL-05-02cVERTICAL-05-03cVERTICAL-05-04cVERTICAL-05-05cVERTICAL-05-06
cVERTICAL-06-00cVERTICAL-06-01cVERTICAL-06-02cVERTICAL-06-03cVERTICAL-06-04cVERTICAL-06-05
cVERTICAL-06-06aDONG SIGNaDOORaDOT ABOVEbMINUSbOPERATORbPLUSaDOTTED CIRCLEbCROSSbFENCEbLINE FACE
bOBELOSbRIGHT-POINTING ANGLEbSOLIDUSbSQUAREbTRANSPOSITION MARKERaDOUBLE ACUTE ACCENT
bCIRCLED DIGIT EIGHTdFIVEdFOURdNINEdONEdSEVENdSIXdTHREEdTWOcNUMBER TENbCOLON EQUALbCURLY LOOPbDAGGER
bDOWN TACKbEXCLAMATION MARKbHIGH-REVERSED-9 QUOTATION MARKbHYPHENbINTEGRALbINTERSECTION
bLEFT ARC GREATER-THAN BRACKETbLOGICAL ANDcORbLOW LINEbLOW-9 QUOTATION MARK
bLOW-REVERSED-9 QUOTATION MARKbNESTED GREATER-THANcLESS-THANdWITH UNDERBARbOBLIQUE HYPHENbPLUS
bPRECEDESbPRIMEcQUOTATION MARKbQUESTION MARKbRIGHT ARC LESS-THAN BRACKETbSOLIDUS OPERATOR
bSQUARE INTERSECTIONcUNIONbSTACKED COMMAbSTROKE NOT SIGNbSUBSETbSUCCEEDSbSUPERSETbSUSPENSION MARK
bUNIONbUP TACKbVERTICAL BARdDOUBLE LEFT TURNSTILEeRIGHT TURNSTILEdLEFT TURNSTILEcLINEbWAVY OVERLINE
aDOUBLE-ENDED MULTIMAPaDOUBLE-LINE EQUAL TO OR GREATER-THANeLESS-THAN
bSLANTED EQUAL TO OR GREATER-THANfLESS-THANcGREATER-THAN OR EQUAL TOcLESS-THAN OR EQUAL TO
aDOUBLE-STRUCK CAPITAL CcGAMMAcHcNcPcPIcQcRcZbITALIC CAPITAL DcSMALL DdEdIdJbN-ARY SUMMATION
bSMALL GAMMAcPIaDOUBLED FEMALE SIGNbMALE SIGNbSYMBOLaDOUGHNUTaDOVE OF PEACEaDOWN ARROWHEADbFISH TAIL
bRIGHT DIAGONAL ELLIPSISbTACKcWITH CIRCLE BELOWaDOWN-POINTING RED TRIANGLEbSMALL RED TRIANGLE
bTRIANGLE WITH LEFT HALF BLACKdRIGHT HALF BLACKaDOWNWARD FACING HOOKdWITH DOTcNOTCHED HOOKeWITH DOT
aDOWNWARDS ANCORAbARROWcAND RIGHT ONE EIGHTH BLOCKcFROM BARcLEFTWARDS OF UPWARDS ARROWcTO BAR
cWITH CORNER LEFTWARDSdDOUBLE STROKEdEQUILATERAL ARROWHEADdHORIZONTAL STROKE
dLARGE TRIANGLE ARROWHEADdMEDIUM TRIANGLE ARROWHEADdNOTCHED TAILdSMALL EQUILATERAL ARROWHEAD
eTRIANGLE ARROWHEADdTIP LEFTWARDSeRIGHTWARDSbBLACK ARROWcCIRCLED WHITE ARROWbCOMPRESSED ARROW
bDASHED ARROWbDOUBLE ARROWbFINGER-POST ARROW
bHARPOON WITH BARB LEFT BESIDE DOWNWARDS HARPOON WITH BARB RIGHTgUPWARDS HARPOON WITH BARB RIGHT
fFROM BARfTO BAReLEFTWARDSeRIGHT FROM BARfTO BAReRIGHTWARDSbHEAVY ARROWcCOMPRESSED ARROW
bPAIRED ARROWSbQUADRUPLE ARROWbROCKETbSANS-SERIF ARROWbSQUARED ARROWbTRIANGLE ARROWHEAD
bTRIANGLE-HEADED ARROWdLEFTWARDS OF UPWARDS TRIANGLE-HEADED ARROWdTO BARdWITH BOLD SHAFT
eDOUBLE HORIZONTAL STROKEeHEAVY SHAFTeLONG TIP LEFTWARDSgRIGHTWARDSeMEDIUM SHAFTeNARROW SHAFT
eVERY HEAVY SHAFTcDASHED ARROWcPAIRED ARROWScZIGZAG ARROWbTRIPLE ARROWbTWO HEADED ARROW
bTWO-HEADED ARROW WITH TRIANGLE ARROWHEADSbWHITE ARROWdWITHIN TRIANGLE ARROWHEADbZIGZAG ARROW
aDRACHMA SIGNaDRAFTING POINT RIGHTWARDS ARROWaDRAGONbFACEaDRESSaDRIVE SLOW SIGNaDROMEDARY CAMEL
aDROOLING FACEaDROP OF BLOODaDROPLETaDRUM WITH DRUMSTICKSaDUCKaDUMPLING
aDUPLOYAN AFFIX ATTACHED E HOOKdI HOOKdLEFT-TO-RIGHT SECANTdSECANTdTAILdTANGENTeHOOKcHIGH ACUTE
dCIRCLEdDOTdGRAVEdLINEdLONG GRAVEdTIGHT ACUTEdVERTICALeSECANTdWAVEcLEFT HORIZONTAL SECANTcLOW ACUTE
dARROWdCIRCLEdDOTdGRAVEdLINEdLONG GRAVEdTIGHT ACUTEdVERTICALeSECANTdWAVEcMID HORIZONTAL SECANT
dVERTICAL SECANTcRIGHT HORIZONTAL SECANTbDOUBLE MARKbLETTER AcAOUcBcDdScDHcEcEEcEUcFdNcGdR ScHcHLcI
cIEcJdMeSdNeSdSeWITH DOTdWITH DOTeDOTS INSIDE AND ABOVEcKdMdR ScKKcLcLHcLONG IdUcMdNeSdSdWITH DOTcN
dMeSdSdWITH DOTcNASAL AdIdOdUcOcOAcOOHcOUcOWcPdNcPERNIN AMdANcRdScRHcROMANIAN IdUcSdJeSdKeRdMdNdPeR
dSdTeRdWITH DOTfBELOWcSHORT IcSLOAN ANdDHdEEdEHdENdJdONdOWdUcTdR SdScTHcUdNcUHcUIcVcVOCALIC McWdRcWA
cWEIcWHcWIcWOcWOWcXcXWcYEbPUNCTUATION CHINOOK FULL STOPbSIGN O WITH CROSSbTHICK LETTER SELECTORaDVD
"

end RepoAudit.Text.CharName
