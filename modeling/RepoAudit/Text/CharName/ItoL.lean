/-! # Names of characters from I to L

The names that start with these letters, in the order of their words.  A small letter starts each
name and tells how many words it shares with the name before it: none for `a`, one for `b`.
-/

namespace RepoAudit.Text.CharName

def fromItoL : String := "
aI LOVE YOU HAND SIGNaICE CREAMbCUBEbHOCKEY STICK AND PUCKbSKATEaIDENTICAL TOcAND SLANTED PARALLEL
bWITH DOT ABOVEaIDENTIFICATION CARDaIDEOGRAPHIC ANNOTATION BOTTOM MARKcEARTH MARKcFIRST MARK
cFOUR MARKcFOURTH MARKcHEAVEN MARKcLINKING MARKcMAN MARKcMIDDLE MARKcONE MARKcREVERSE MARK
cSECOND MARKcTHIRD MARKcTHREE MARKcTOP MARKcTWO MARKbCLOSING MARKbCOMMAbDEPARTING TONE MARK
bDESCRIPTION CHARACTER ABOVE TO BELOWfMIDDLE AND BELOWdFULL SURROUNDdLEFT TO MIDDLE AND RIGHTfRIGHT
dOVERLAIDdSURROUND FROM ABOVEfBELOWfLEFTfLOWER LEFTfUPPER LEFTgRIGHTbENTERING TONE MARKbFULL STOP
bHALF FILL SPACEbITERATION MARKbLEVEL TONE MARKbNUMBER ZERObRISING TONE MARKbSPACEbTALLY MARK FIVE
dFOURdONEdTHREEdTWObTELEGRAPH LINE FEED SEPARATOR SYMBOLcSYMBOL FOR APRILeAUGUSTeDAY EIGHTfEIGHTEEN
fELEVENfFIFTEENfFIVEfFOURfFOURTEENfNINEfNINETEENfONEfSEVENfSEVENTEENfSIXfSIXTEENfTENfTHIRTEENfTHIRTY
fTHIRTY-ONEfTHREEfTWELVEfTWENTYfTWENTY-EIGHTfTWENTY-FIVEfTWENTY-FOURfTWENTY-NINEfTWENTY-ONE
fTWENTY-SEVENfTWENTY-SIXfTWENTY-THREEfTWENTY-TWOfTWOeDECEMBEReFEBRUARYeHOUR EIGHTfEIGHTEENfELEVEN
fFIFTEENfFIVEfFOURfFOURTEENfNINEfNINETEENfONEfSEVENfSEVENTEENfSIXfSIXTEENfTENfTHIRTEENfTHREEfTWELVE
fTWENTYfTWENTY-FOURfTWENTY-ONEfTWENTY-THREEfTWENTY-TWOfTWOfZEROeJANUARYeJULYeJUNEeMARCHeMAYeNOVEMBER
eOCTOBEReSEPTEMBERbVARIATION INDICATORaIMAGE OFcOR APPROXIMATELY EQUAL TOaIMP
aIMPERIAL ARAMAIC LETTER ALEPHdAYINdBETHdDALETHdGIMELdHEdHETHdKAPHdLAMEDHdMEMdNUNdPEdQOPHdRESHdSADHE
dSAMEKHdSHINdTAWdTETHdWAWdYODHdZAYINcNUMBER ONEeHUNDREDeTHOUSANDdTENeTHOUSANDdTHREEdTWENTYdTWO
cSECTION SIGNaINBOX TRAYaINCOMING ENVELOPEaINCOMPLETE INFINITYaINCREASE FONT SIZE SYMBOL
aINCREASES ASaINCREMENTaINDaINDEXbPOINTING AT THE VIEWERaINDIAN RUPEE SIGN
aINDIC SIYAQ ALTERNATE LAKH MARKcFRACTION ONE HALFeQUARTERdTHREE QUARTERScLAKH MARK
cNUMBER ALTERNATE ONEeTEN THOUSANDeTWOdEIGHTeHUNDREDeTHOUSANDdEIGHTYeTHOUSANDdFIFTYeTHOUSANDdFIVE
eHUNDREDeTHOUSANDdFORTYeTHOUSANDdFOUReHUNDREDeTHOUSANDdKARORdKARORANdLAKHdLAKHANdNINEeHUNDRED
eTHOUSANDdNINETYeTHOUSANDdONEeHUNDREDeTHOUSANDdPREFIXED EIGHTeFIVEeFOUReNINEeONEeSEVENeSIXeTHREEeTWO
dSEVENeHUNDREDeTHOUSANDdSEVENTYeTHOUSANDdSIXeHUNDREDeTHOUSANDdSIXTYeTHOUSANDdTENeTHOUSANDdTHIRTY
eTHOUSANDdTHREEeHUNDREDeTHOUSANDdTWENTYeTHOUSANDdTWOeHUNDREDeTHOUSANDcPLACEHOLDERcRUPEE MARK
aINFINITYbNEGATED WITH VERTICAL BARaINFORMATION DESK PERSONbSEPARATOR FOURcONEcTHREEcTWObSOURCE
aINHIBIT ARABIC FORM SHAPINGbSYMMETRIC SWAPPINGaINPUT SYMBOL FOR LATIN CAPITAL LETTERSeLETTERS
eSMALL LETTERSdNUMBERSdSYMBOLSaINSCRIPTIONAL PAHLAVI LETTER ALEPHdBETHdDALETHdGIMELdHEdHETHdKAPH
dLAMEDHdMEM-QOPHdNUNdPEdSADHEdSAMEKHdSHINdTAWdTETHdWAW-AYIN-RESHdYODHdZAYINcNUMBER FOURdONEeHUNDRED
eTHOUSANDdTENdTHREEdTWENTYdTWObPARTHIAN LETTER ALEPHdAYINdBETHdDALETHdGIMELdHEdHETHdKAPHdLAMEDHdMEM
dNUNdPEdQOPHdRESHdSADHEdSAMEKHdSHINdTAWdTETHdWAWdYODHdZAYINcNUMBER FOURdONEeHUNDREDeTHOUSANDdTEN
dTHREEdTWENTYdTWOaINSERTION SYMBOLaINTEGRALbAROUND A POINT OPERATORbAVERAGE WITH SLASHbEXTENSION
bWITH DOUBLE STROKEcINTERSECTIONcLEFTWARDS ARROW WITH HOOKcOVERBARcTIMES SIGNcUNDERBARcUNION
aINTERCALATEaINTERIOR PRODUCTaINTERLINEAR ANNOTATION ANCHORcSEPARATORcTERMINATOR
aINTERLOCKED FEMALE AND MALE SIGNaINTERROBANGaINTERSECTIONbABOVE BAR ABOVE UNIONcUNION
bBESIDE AND JOINED WITH INTERSECTIONbWITH DOTcLOGICAL ANDcOVERBARaINVERSE BULLETbCHECK MARK
bCHECKER BOARD FILLbDOWNWARDS ARROW WITH TIP LEFTWARDSbMEDIUM SHADEbWHITE CIRCLE
aINVERTED EXCLAMATION MARKbINTERROBANGbLAZY SbLOW KAVYKAdWITH KAVYKA ABOVEbOHM SIGNbPENTAGRAM
bQUESTION MARKbUNDERTIEaINVISIBLE PLUSbSEPARATORbTIMESaIZAKAYA LANTERNaJACK-O-LANTERN
aJAPANESE BANK SYMBOLbCASTLEbDOLLSbGOBLINbINDUSTRIAL STANDARD SYMBOLbOGREbPOST OFFICE
bSYMBOL FOR BEGINNERaJARaJAVANESE CONSONANT SIGN CAKRAdKERETdPENGKALbDIGIT EIGHTcFIVEcFOURcNINEcONE
cSEVENcSIXcTHREEcTWOcZERObLEFT RERENGGANbLETTER AcAIcBAdMURDAcCAdMURDAcDAdMAHAPRANAcDDAdMAHAPRANAcE
cGAdMURDAcHAcIdKAWIcIIcJAdMAHAPRANAcKAdMURDAdSASAKcLAcMAcNAdMURDAcNGAdLELETeRASWADIcNYAdMURDAcOcPA
dCEREKdMURDAcRAdAGUNGcSAdMAHAPRANAdMURDAcTAdMURDAcTTAdMAHAPRANAcUcWAcYAbPADA ADEGdADEGcANDAP
cISEN-ISENcLINGSAcLUHURcLUNGSIcMADYAcPANGKATcPISELEHcTIRTA TUMETEScWINDUbPANGKONbPANGRANGKEP
bRIGHT RERENGGANbSIGN CECAKdTELUcLAYARcPANYANGGAcWIGNYANbTURNED PADA PISELEHbVOWEL SIGN DIRGA MURE
dPEPETdSUKUeMENDUTdTALINGdTARUNGdTOLONGdWULUeMELIKaJEANSaJIGSAW PUZZLE PIECEaJOINaJOYSTICKaJUGGLING
aJUNOaJUPITERaKAABAaKAITHI ABBREVIATION SIGNbDANDAbDOUBLE DANDAcSECTION MARKbENUMERATION SIGN
bLETTER AcAAcAIcAUcBAcBHAcCAcCHAcDAcDDAcDDDHAcDDHAcDHAcEcGAcGHAcHAcIcIIcJAcJHAcKAcKHAcLAcMAcNAcNGA
cNNAcNYAcOcPAcPHAcRAcRHAcSAcSHAcSSAcTAcTHAcTTAcTTHAcUcUUcVAcYAbNUMBER SIGNdABOVEbSECTION MARK
bSIGN ANUSVARAcCANDRABINDUcNUKTAcVIRAMAcVISARGAbVOWEL SIGN AAdAIdAUdEdIdIIdOdUdUUdVOCALIC RaKANGAROO
aKANGXI RADICAL AGAINcANDcARRIVEcARROWcAXEcBADGERcBAMBOOcBEANcBIGcBIRDcBITTERcBLACKcBLOODcBLUEcBOAT
cBODYcBOLT OF CLOTHcBONEcBOWcBRANCHcBRISTLEcBRUSHcCARTcCAULDRONcCAVEcCHILDcCITYcCLANcCLAWcCLIFF
cCLOTHEScCOLORcCOMPAREcCORPSEcCOVERcCOWcDEATHcDEERcDIPPERcDISHcDISTINGUISHcDIVINATIONcDO NOTcDOG
cDOORcDOTcDOTTED CLIFFdTENTcDOUBLE XcDOWN BOXcDRAGONcDRUMcDRYcEARcEARTHcEATcEIGHTcEMBROIDERY
cENCLOSUREcENTERcEVENcEVENINGcEYEcFACEcFANGcFATHERcFEATHERcFIELDcFIGHTcFIREcFISHcFLUTEcFLYcFOOT
cFRAGRANTcFROGcFURcGATEcGHOSTcGOdSLOWLYcGOLDcGRAINcGRASScHAIRcHALBERDcHALF TREE TRUNKcHANDcHEAD
cHEARTcHEMPcHIDING ENCLOSUREcHOOKcHORNcHORSEcICEcINCHcINSECTcJADEcJARcKNIFEcLACKcLAMEcLEAFcLEATHER
cLEEKcLEGScLIDcLIFEcLINEcLONGdSTRIDEcMANcMEATcMELONcMILLETcMINISTERcMOONcMORNINGcMORTARcMOUND
cMOUNTAINcMOUTHcNETcNOSEcNOTcOLDcONEcONESELFcOPEN BOXcOPPOSEcPIGcPLOWcPOWERcPRIVATEcPROFOUNDcRAIN
cRAPcRATcREDcRICEcRIGHT OPEN BOXcRIVERcROOFcRUNcSACRIFICIAL WINEcSALTcSAYcSCHOLARcSCRIPTcSEALcSECOND
cSEEcSELFcSHEEPcSHELLcSHOOTcSHORT TAILED BIRDdTHREADcSICKNESScSILKcSKINcSLASHcSLAVEcSLICEcSMALL
cSNOUTcSOUNDcSPEARcSPEECHcSPIRITcSPOONcSPROUTcSQUAREcSTANDcSTEAMcSTEPcSTONEcSTOPcSTOPPINGcSUNcSWEET
cTABLEcTALLcTANNED LEATHERcTENcTIGERcTILEcTONGUEcTOOTHcTRACKcTREEcTRIPODcTURBANcTURTLEcTWOdHANDScUSE
cVALLEYcVILLAGEcWALKdENCLOSUREcWATERcWEAPONcWESTcWHEATcWHITEcWINDcWINEcWOMANcWORKcWRAPcWRONGcYELLOW
aKANNADA AI LENGTH MARKbDIGIT EIGHTcFIVEcFOURcNINEcONEcSEVENcSIXcTHREEcTWOcZERObLENGTH MARKbLETTER A
cAAcAIcAUcBAcBHAcCAcCHAcDAcDDAcDDHAcDHAcEcEEcFAcGAcGHAcHAcIcIIcJAcJHAcKAcKHAcLAcLLAcLLLAcMAcNA
cNAKAARA POLLUcNGAcNNAcNYAcOcOOcPAcPHAcRAcRRAcSAcSHAcSSAcTAcTHAcTTAcTTHAcUcUUcVAcVOCALIC LdLLdRdRR
cYAbSIGN ANUSVARAcAVAGRAHAcCANDRABINDUcJIHVAMULIYAcNUKTAcSIDDHAMcSPACING CANDRABINDUcUPADHMANIYA
cVIRAMAcVISARGAbVOWEL SIGN AAdAIdAUdEdEEdIdIIdOdOOdUdUUdVOCALIC LeLLeReRRaKATAKANA DIGRAPH KOTO
bITERATION MARKbLETTER AcARCHAIC EdWUdYEdYIcBAcBEcBIcBOcBUcDAcDEcDIcDOcDUcEcGAcGEcGIcGOcGUcHAcHEcHI
cHOcHUcIcKAcKEcKIcKOcKUcMAcMEcMIcMINNAN NASALIZED TONE-1eTONE-2eTONE-3eTONE-4eTONE-5eTONE-7eTONE-8
dTONE-2dTONE-3dTONE-4dTONE-5dTONE-7dTONE-8cMOcMUcNcNAcNEcNIcNOcNUcOcPAcPEcPIcPOcPUcRAcREcRIcROcRUcSA
cSEcSIcSMALL AdEdHAdHEdHIdHOdHUdIdKAdKEdKUdMUdNdNUdOdRAdREdRIdROdRUdSIdSUdTOdTUdUdWAdWEdWIdWOdYAdYO
dYUcSOcSUcTAcTEcTIcTOcTUcUcVAcVEcVIcVOcVUcWAcWEcWIcWOcYAcYOcYUcZAcZEcZIcZOcZUbMIDDLE DOT
bVOICED ITERATION MARKaKATAKANA-HIRAGANA DOUBLE HYPHENbPROLONGED SOUND MARKbSEMI-VOICED SOUND MARK
bVOICED SOUND MARKaKAYAH LI DIGIT EIGHTdFIVEdFOURdNINEdONEdSEVENdSIXdTHREEdTWOdZEROcLETTER AdBAdCA
dDAdGAdHAdHTAdIdKAdKHAdLAdMAdNAdNGAdNYAdOEdOOdPAdPHAdRAdSAdSHAdTAdTHAdVAdWAdYAdZAcSIGN CWIdSHYA
cTONE CALYAePLOPHUdPLOPHUcVOWEL EdEEdOdUdUEaKELVIN SIGNaKEYaKEYBOARDbAND MOUSEaKEYCAP TEN
aKHAROSHTHI DIGIT FOURcONEcTHREEcTWObFRACTION ONE HALFbLETTER AcBAcBHAcCAcCHAcDAcDDAcDDHAcDHAcGAcGHA
cHAcJAcKAcKHAcKKAcLAcMAcNAcNNAcNYAcPAcPHAcRAcSAcSHAcSSAcTAcTHAcTTAcTTHAcTTTAcTTTHAcVAcVHAcYAcZA
bNUMBER ONE HUNDREDdTHOUSANDcTENcTWENTYbPUNCTUATION CIRCLEcCRESCENT BARcDANDAcDOTcDOUBLE DANDAcLINES
cLOTUScMANGALAMcSMALL CIRCLEbSIGN ANUSVARAcBAR ABOVEcCAUDAcDOT BELOWcDOUBLE RING BELOWcVISARGA
bVIRAMAbVOWEL LENGTH MARKcSIGN EdIdOdUdVOCALIC RaKHITAN SMALL SCRIPT FILLER
aKHMER CURRENCY SYMBOL RIELbDIGIT EIGHTcFIVEcFOURcNINEcONEcSEVENcSIXcTHREEcTWOcZERO
bINDEPENDENT VOWEL LYdLYYdQAAdQAIdQAQdQAUdQEdQIdQIIdQOO TYPE ONEfTWOdQUdQUKdQUUdQUUVdRYdRYY
bLETTER BAcCAcCHAcCHOcCOcDAcDOcHAcKAcKHAcKHOcKOcLAcLOcMOcNGOcNNOcNOcNYOcPHAcPHOcPOcQAcROcSAcSHAcSSO
cTAcTHAcTHOcTOcTTHAcTTHOcVOcYObSIGN AHSDAcATTHACANcAVAKRAHASANYAcBANTOCcBARIYOOSANcBATHAMASATcBEYYAL
cCAMNUC PII KUUHcCOENGcKAKABATcKHANcKOOMUUTcLEK TOOcMUUSIKATOANcNIKAHITcPHNAEK MUANcREAHMUKcROBAT
cSAMYOK SANNYAcTOANDAKHIATcTRIISAPcVIRIAMcYUUKALEAPINTUbSYMBOL BEI KOETdROCcBUON KOETdROCcDAP KOET
dROCcDAP-BEI KOETdROCcDAP-BUON KOETdROCcDAP-MUOY KOETdROCcDAP-PII KOETdROCcDAP-PRAM KOETdROC
cLEK ATTAK BEIeBUONeMUOYePIIePRAMePRAM-BEIePRAM-BUONePRAM-MUOYePRAM-PIIeSONcMUOY KOETdROCcPATHAMASAT
cPII KOETdROCcPRAM KOETdROCcPRAM-BEI KOETdROCcPRAM-BUON KOETdROCcPRAM-MUOY KOETdROCcPRAM-PII KOET
dROCcTUTEYASATbVOWEL INHERENT AAdAQcSIGN AAdAEdAIdAUdEdIdIEdIIdOEdOOdUdUAdUUdYdYAdYY
aKHOJKI ABBREVIATION SIGNbDANDAbDOUBLE DANDAcSECTION MARKbLETTER AcAAcAIcAUcBAcBBAcBHAcCAcCHAcDAcDDA
cDDDAcDDHAcDHAcEcGAcGGAcGHAcHAcIcJAcJJAcKAcKHAcLAcLLAcMAcNAcNGAcNNAcNYAcOcPAcPHAcRAcSAcTAcTHAcTTA
cTTHAcUcVAcYAbSECTION MARKbSIGN ANUSVARAcNUKTAcSHADDAcSUKUNcVIRAMAbVOWEL SIGN AAdAIdAUdEdIdIIdOdU
bWORD SEPARATORaKHUDAWADI DIGIT EIGHTcFIVEcFOURcNINEcONEcSEVENcSIXcTHREEcTWOcZERObLETTER AcAAcAIcAU
cBAcBBAcBHAcCAcCHAcDAcDDAcDDDAcDDHAcDHAcEcGAcGGAcGHAcHAcIcIIcJAcJHAcJJAcKAcKHAcLAcMAcNAcNGAcNNAcNYA
cOcPAcPHAcRAcRRAcSAcSHAcTAcTHAcTTAcTTHAcUcUUcVAcYAbSIGN ANUSVARAcNUKTAcVIRAMAbVOWEL SIGN AAdAIdAUdE
dIdIIdOdUdUUaKIMONOaKIP SIGNaKISSbMARKaKISSING CAT FACE WITH CLOSED EYESbFACEcWITH CLOSED EYES
dSMILING EYESaKITEaKIWIFRUITaKNEELING PERSONaKNOTaKOALAaKOREAN STANDARD SYMBOLaKRONOSaL B BAR SYMBOL
aLAB COATaLABELaLACROSSE STICK AND BALLaLADDERaLADY BEETLEaLANGUAGE TAGaLAO CANCELLATION MARK
bDIGIT EIGHTcFIVEcFOURcNINEcONEcSEVENcSIXcTHREEcTWOcZERObELLIPSISbHO MOcNObKO LAbLETTER BOcCOcDO
cFO FAYdFONdSUNGdTAMcHO SUNGdTAMcKHMU GOdNYOcKHO SUNGdTAMcKOcLOdLINGdLOOTcMOcNGOcNOcNYOcOcPALI BHA
dCHAdDDAdDDHAdDHAdGHAdJHAdLLAdNNAdNYAdTTAdTTHAcPHO SUNGdTAMcPOcROcSANSKRIT SHAdSSAcSO SUNGdTAM
cTHO SUNGdTAMcTOcWOcYObNIGGAHITAbSEMIVOWEL SIGN LOdNYObSIGN PALI VIRAMAbTONE MAI CATAWAdEKdTHOdTI
bVOWEL SIGN AdAAdAIdAMdAYdEdEIdIdIIdMAI KANeKONdOdUdUUdYdYYaLARGE BLUE CIRCLEcDIAMONDcSQUARE
bBROWN CIRCLEcSQUAREbCIRCLEbDOWN TACKbGREEN CIRCLEcSQUAREbLEFT TRIANGLE OPERATOR
bONE DOT OVER TWO DOTS PUNCTUATIONcRING OVER TWO RINGS PUNCTUATIONbORANGE CIRCLEcDIAMONDcSQUARE
bPURPLE CIRCLEcSQUAREbRED CIRCLEcSQUAREbTRIPLE VERTICAL BAR OPERATOR
bTWO DOTS OVER ONE DOT PUNCTUATIONcRINGS OVER ONE RING PUNCTUATIONbUP TACKbYELLOW CIRCLEcSQUARE
aLARGER THANcOR EQUAL TOaLARI SIGNaLAST QUARTER MOONdSYMBOLdWITH FACEaLATIN CAPITAL LETTER A
eWITH ACUTEfBREVEgAND ACUTEhDOT BELOWhGRAVEhHOOK ABOVEhTILDEfCARONfCIRCUMFLEXgAND ACUTEhDOT BELOW
hGRAVEhHOOK ABOVEhTILDEfDIAERESISgAND MACRONfDOT ABOVEhAND MACRONgBELOWfDOUBLE GRAVEfGRAVE
fHOOK ABOVEfINVERTED BREVEfMACRONfOGONEKfRING ABOVEhAND ACUTEgBELOWfSTROKEfTILDEdAAdAEeWITH ACUTE
fMACRONdAFRICAN DdALPHAdANGLICANA WdAOdAUdAVeWITH HORIZONTAL BARdAYdBeWITH DOT ABOVEgBELOWfFLOURISH
fHOOKfLINE BELOWfSTROKEfTOPBARdBETAdBROKEN LdCeWITH ACUTEfBARfCARONfCEDILLAgAND ACUTEfCIRCUMFLEX
fDOT ABOVEfHOOKfPALATAL HOOKfSTROKEdCHIdCLOSED INSULAR GdCONdCUATRILLOeWITH COMMAdDeWITH CARON
fCEDILLAfCIRCUMFLEX BELOWfDOT ABOVEgBELOWfHOOKfLINE BELOWfSHORT STROKE OVERLAYfSMALL LETTER Z
iWITH CARONfSTROKEfTOPBARdDZeWITH CARONdEeWITH ACUTEfBREVEfCARONfCEDILLAgAND BREVEfCIRCUMFLEX
gAND ACUTEhDOT BELOWhGRAVEhHOOK ABOVEhTILDEgBELOWfDIAERESISfDOT ABOVEgBELOWfDOUBLE GRAVEfGRAVE
fHOOK ABOVEfINVERTED BREVEfMACRONgAND ACUTEhGRAVEfOGONEKfSTROKEfTILDEgBELOWdEGYPTOLOGICAL AINeALEF
dENGdESHdETdETHdEZHeREVERSEDeWITH CARONdFeWITH DOT ABOVEfHOOKfSTROKEdGeWITH ACUTEfBREVEfCARON
fCEDILLAfCIRCUMFLEXfDOT ABOVEfHOOKfMACRONfOBLIQUE STROKEfSTROKEdGAMMAdGHAdGLOTTAL AeIeSTOPeUdH
eWITH BREVE BELOWfCARONfCEDILLAfCIRCUMFLEXfDESCENDERfDIAERESISfDOT ABOVEgBELOWfHOOKfSTROKEdHALF H
dHENGdHWAIRdIeWITH ACUTEfBREVEfCARONfCIRCUMFLEXfDIAERESISgAND ACUTEfDOT ABOVEgBELOWfDOUBLE GRAVE
fGRAVEfHOOK ABOVEfINVERTED BREVEfMACRONfOGONEKfSTROKEfTILDEgBELOWdINSULAR DeFeGeReSeTdIOTAdISdJ
eWITH CIRCUMFLEXfCROSSED-TAILfSTROKEdKeWITH ACUTEfCARONfCEDILLAfDESCENDERfDIAGONAL STROKEfDOT BELOW
fHOOKfLINE BELOWfOBLIQUE STROKEfSTROKEgAND DIAGONAL STROKEdLeWITH ACUTEfBARfBELTfCARONfCEDILLA
fCIRCUMFLEX BELOWfDOT BELOWhAND MACRONfDOUBLE BARfHIGH STROKEfLINE BELOWfMIDDLE DOTgTILDE
fSMALL LETTER JfSTROKEdLJdMeWITH ACUTEfDOT ABOVEgBELOWfHOOKdMIDDLE SCOTS SdMIDDLE-WELSH LLeVdN
eWITH ACUTEfCARONfCEDILLAfCIRCUMFLEX BELOWfDESCENDERfDOT ABOVEgBELOWfGRAVEfLEFT HOOKfLINE BELOW
fLONG RIGHT LEGfOBLIQUE STROKEfSMALL LETTER JfTILDEdNJdOeWITH ACUTEfBREVEfCARONfCIRCUMFLEXgAND ACUTE
hDOT BELOWhGRAVEhHOOK ABOVEhTILDEfDIAERESISgAND MACRONfDOT ABOVEhAND MACRONgBELOWfDOUBLE ACUTEgGRAVE
fGRAVEfHOOK ABOVEfHORNgAND ACUTEhDOT BELOWhGRAVEhHOOK ABOVEhTILDEfINVERTED BREVEfLONG STROKE OVERLAY
fLOOPfMACRONgAND ACUTEhGRAVEfMIDDLE TILDEfOGONEKgAND MACRONfSTROKEgAND ACUTEfTILDEgAND ACUTE
hDIAERESIShMACRONdOIdOLD POLISH OdOMEGAdOOdOPEN EeOdOUdPeWITH ACUTEfDOT ABOVEfFLOURISHfHOOK
fSQUIRREL TAILfSTROKEgTHROUGH DESCENDERdQeWITH DIAGONAL STROKEfSTROKE THROUGH DESCENDERdReROTUNDA
eWITH ACUTEfCARONfCEDILLAfDOT ABOVEgBELOWhAND MACRONfDOUBLE GRAVEfINVERTED BREVEfLINE BELOW
fOBLIQUE STROKEfSTROKEfTAILdREVERSED C WITH DOTeEeHALF HeOPEN EdRUM ROTUNDAdSeWITH ACUTE
gAND DOT ABOVEfCARONgAND DOT ABOVEfCEDILLAfCIRCUMFLEXfCOMMA BELOWfDOT ABOVEgBELOWhAND DOT ABOVEfHOOK
fOBLIQUE STROKEfSHORT STROKE OVERLAYfSWASH TAILdSALTILLOdSCHWAdSCRIPT GdSHARP SdSIGMOID S
dSMALL CAPITAL IeQ WITH HOOK TAILdTeWITH CARONfCEDILLAfCIRCUMFLEX BELOWfCOMMA BELOWfDIAGONAL STROKE
fDOT ABOVEgBELOWfHOOKfLINE BELOWfRETROFLEX HOOKfSTROKEdTHORNeWITH STROKEgTHROUGH DESCENDERdTONE FIVE
eSIXeTWOdTRESILLOdTURNED AeALPHAeHeINSULAR GeKeLeMeTeVdTZdUeBAReWITH ACUTEfBREVEfCARONfCIRCUMFLEX
gBELOWfDIAERESISgAND ACUTEhCARONhGRAVEhMACRONgBELOWfDOT BELOWfDOUBLE ACUTEgGRAVEfGRAVEfHOOK ABOVE
fHORNgAND ACUTEhDOT BELOWhGRAVEhHOOK ABOVEhTILDEfINVERTED BREVEfMACRONgAND DIAERESISfOGONEK
fRING ABOVEfSTROKEfTILDEgAND ACUTEgBELOWdUPSILONdVeWITH DIAGONAL STROKEfDOT BELOWfHOOKfTILDEdVEND
dVISIGOTHIC ZdVOLAPUK AEeOEeUEdVYdWeWITH ACUTEfCIRCUMFLEXfDIAERESISfDOT ABOVEgBELOWfGRAVEfHOOKdWYNN
dXeWITH DIAERESISfDOT ABOVEdYeWITH ACUTEfCIRCUMFLEXfDIAERESISfDOT ABOVEgBELOWfGRAVEfHOOKgABOVEfLOOP
fMACRONfSTROKEfTILDEdYOGHdZeWITH ACUTEfCARONfCIRCUMFLEXfDESCENDERfDOT ABOVEgBELOWfHOOKfLINE BELOW
fPALATAL HOOKfSTROKEfSWASH TAILcLIGATURE IJdOEbCROSSbEPIGRAPHIC LETTER ARCHAIC MdI LONGAdINVERTED M
dREVERSED FePdSIDEWAYS IbLETTER AINcALVEOLAR CLICKcBIDENTAL PERCUSSIVEcBILABIAL CLICKdPERCUSSIVE
cDENTAL CLICKcGLOTTAL STOPeWITH STROKEcINVERTED GLOTTAL STOPfWITH CURLgSTROKEcLATERAL CLICK
cPHARYNGEAL VOICED FRICATIVEcRETROFLEX CLICKeWITH RETROFLEX HOOKcREVERSED ESH LOOP
dGLOTTAL STOP WITH STROKEcSINOLOGICAL DOTcSMALL CAPITAL AeAEeBeBARRED BeCeDeEeETHeEZHeFeGfWITH HOOK
eHeIeINVERTED ReJeKeLfWITH BELTgSTROKEeMeNeOeOEeOPEN OeOUePeQeRfWITH RIGHT LEGeREVERSED NfReRUMeSeT
eTURNED EfGfKfMfReUeVeWeYeZcSTRETCHED CeWITH CURLcTWO WITH STROKEcVOICED LARYNGEAL SPIRANTcWYNNcYR
bSMALL CAPITAL LETTER I WITH STROKEeU WITH STROKEcLETTER AeREVERSED-SCHWAeWITH ACUTEfBREVEgAND ACUTE
hDOT BELOWhGRAVEhHOOK ABOVEhTILDEfCARONfCIRCUMFLEXgAND ACUTEhDOT BELOWhGRAVEhHOOK ABOVEhTILDE
fDIAERESISgAND MACRONfDOT ABOVEhAND MACRONgBELOWfDOUBLE GRAVEfGRAVEfHOOK ABOVEfINVERTED BREVEfMACRON
fOGONEKfRETROFLEX HOOKfRIGHT HALF RINGfRING ABOVEhAND ACUTEgBELOWfSTROKEfTILDEdAAdAEeWITH ACUTE
fMACRONdALPHAeWITH RETROFLEX HOOKdANGLICANA WdAOdAUdAVeWITH HORIZONTAL BARdAYdBeWITH DOT ABOVEgBELOW
fFLOURISHfHOOKfLINE BELOWfMIDDLE TILDEfPALATAL HOOKfSTROKEfTOPBARdBARRED ALPHAeEeOdBASELINE ESHdBETA
dBLACKLETTER EeOfWITH STROKEdBOTTOM HALF OdBROKEN LdCeWITH ACUTEfBARfCARONfCEDILLAgAND ACUTE
fCIRCUMFLEXfCURLfDOT ABOVEfHOOKfPALATAL HOOKfRETROFLEX HOOKfSTROKEdCHIeWITH LOW LEFT SERIF
gRIGHT RINGdCLOSED INSULAR GeOMEGAeOPEN EeREVERSED OPEN EdCONdCUATRILLOeWITH COMMAdDeWITH CARON
fCEDILLAfCIRCUMFLEX BELOWfCURLfDOT ABOVEgBELOWfHOOKgAND TAILfLINE BELOWfMIDDLE TILDEfPALATAL HOOK
fSHORT STROKE OVERLAYfSTROKEfTAILfTOPBARdDB DIGRAPHdDELTAdDEZH DIGRAPHfWITH PALATAL HOOK
gRETROFLEX HOOKdDOTLESS IeJfWITH STROKEhAND HOOKdDOUBLE RfWITH CROSSED-TAILeTHORNeWYNNdDUMdDZ
eDIGRAPHfWITH CURLgRETROFLEX HOOKeWITH CARONdEeWITH ACUTEfBREVEfCARONfCEDILLAgAND BREVEfCIRCUMFLEX
gAND ACUTEhDOT BELOWhGRAVEhHOOK ABOVEhTILDEgBELOWfDIAERESISfDOT ABOVEgBELOWfDOUBLE GRAVEfFLOURISH
fGRAVEfHOOK ABOVEfINVERTED BREVEfMACRONgAND ACUTEhGRAVEfNOTCHfOGONEKfRETROFLEX HOOKfSTROKEfTILDE
gBELOWdEGYPTOLOGICAL AINeALEFdENGeWITH CROSSED-TAILfPALATAL HOOKdESHeWITH CURLfDOUBLE BARhAND CURL
fPALATAL HOOKfRETROFLEX HOOKdETdETHdEZHeREVERSEDeWITH CARONfCURLfPALATAL HOOKfRETROFLEX HOOKfTAILdF
eWITH DOT ABOVEfHOOKfMIDDLE TILDEfPALATAL HOOKfSTROKEdFENG DIGRAPHfWITH TRILLdGeWITH ACUTEfBREVE
fCARONfCEDILLAfCIRCUMFLEXfDOT ABOVEfHOOKfMACRONfOBLIQUE STROKEfPALATAL HOOKfSTROKEdGAMMAdGHA
dGLOTTAL AeIeSTOPeUdHeWITH BREVE BELOWfCARONfCEDILLAfCIRCUMFLEXfDESCENDERfDIAERESISfDOT ABOVEgBELOW
fHOOKfLINE BELOWfPALATAL HOOKfSTROKEdHALF HdHENGeWITH HOOKdHVdIeWITH ACUTEfBREVEfCARONfCIRCUMFLEX
fDIAERESISgAND ACUTEfDOT BELOWfDOUBLE GRAVEfGRAVEfHOOK ABOVEfINVERTED BREVEfMACRONfOGONEK
fRETROFLEX HOOKfSTROKEgAND RETROFLEX HOOKfTILDEgBELOWdINSULAR DeFeGeReSeTdINVERTED ALPHAeOEdIOTA
eWITH STROKEdIOTIFIED EdISdJeWITH CARONfCIRCUMFLEXfCROSSED-TAILfSTROKEdKeWITH ACUTEfCARONfCEDILLA
fDESCENDERfDIAGONAL STROKEfDOT BELOWfHOOKfLINE BELOWfOBLIQUE STROKEfPALATAL HOOKfSTROKE
gAND DIAGONAL STROKEdKRAdLeWITH ACUTEfBARfBELTgAND PALATAL HOOKfCARONfCEDILLAfCIRCUMFLEX BELOWfCURL
fDOT BELOWhAND MACRONfDOUBLE BARgMIDDLE TILDEfFISHHOOKfHIGH STROKEfINVERTED LAZY SfLINE BELOW
fMIDDLE DOTgRINGgTILDEfPALATAL HOOKfRETROFLEX HOOKhAND BELTfSTROKEdLAMBDA WITH STROKEdLENIS FdLEZH
eWITH RETROFLEX HOOKdLJdLONG SfWITH DIAGONAL STROKEgDOT ABOVEgHIGH STROKEdLS DIGRAPHdLUMdLZ DIGRAPH
dMeWITH ACUTEfCROSSED-TAILfDOT ABOVEgBELOWfHOOKfMIDDLE TILDEfPALATAL HOOKdMIDDLE SCOTS S
dMIDDLE-WELSH LLeVdMUMdNePRECEDED BY APOSTROPHEeWITH ACUTEfCARONfCEDILLAfCIRCUMFLEX BELOW
fCROSSED-TAILfCURLfDESCENDERfDOT ABOVEgBELOWfGRAVEfLEFT HOOKfLINE BELOWfLONG RIGHT LEGfMIDDLE TILDE
fOBLIQUE STROKEfPALATAL HOOKfRETROFLEX HOOKfTILDEdNJdNUMdOeWITH ACUTEfBREVEfCARONfCIRCUMFLEX
gAND ACUTEhDOT BELOWhGRAVEhHOOK ABOVEhTILDEfDIAERESISgAND MACRONfDOT ABOVEhAND MACRONgBELOW
fDOUBLE ACUTEgGRAVEfGRAVEfHOOK ABOVEfHORNgAND ACUTEhDOT BELOWhGRAVEhHOOK ABOVEhTILDEfINVERTED BREVE
fLONG STROKE OVERLAYfLOOPfLOW RING INSIDEfMACRONgAND ACUTEhGRAVEfOGONEKgAND MACRONfRETROFLEX HOOK
fSTROKEgAND ACUTEfTILDEgAND ACUTEhDIAERESIShMACRONdOIdOLD POLISH OdOMEGAdOOdOPEN E
fWITH RETROFLEX HOOKeOfWITH RETROFLEX HOOKgSTROKEeOEdOUdPeWITH ACUTEfDOT ABOVEfFLOURISHfHOOK
fMIDDLE TILDEfPALATAL HOOKfSQUIRREL TAILfSTROKEgTHROUGH DESCENDERdPHIdQeWITH DIAGONAL STROKEfHOOK
gTAILfSTROKE THROUGH DESCENDERdQP DIGRAPHdReROTUNDAeWITH ACUTEfCARONfCEDILLAfCROSSED-TAILfDOT ABOVE
gBELOWhAND MACRONfDOUBLE GRAVEfFISHHOOKgAND MIDDLE TILDEhPALATAL HOOKfINVERTED BREVEfLINE BELOW
fLONG LEGfMIDDLE TILDEfOBLIQUE STROKEfPALATAL HOOKfSTROKEfTAILeWITHOUT HANDLEdRAMS HORNdREVERSED C
fWITH DOTeEeENGeHALF HeKeOPEN EgWITH HOOKhRETROFLEX HOOKeR WITH FISHHOOKeSCRIPT GdRUMeROTUNDAdS
eWITH ACUTEgAND DOT ABOVEfCARONgAND DOT ABOVEfCEDILLAfCIRCUMFLEXfCOMMA BELOWfCURLfDOT ABOVEgBELOW
hAND DOT ABOVEfHOOKfMIDDLE TILDEfOBLIQUE STROKEfPALATAL HOOKfSHORT STROKE OVERLAYfSWASH TAIL
dSAKHA YATdSALTILLOdSCHWAeWITH HOOKfRETROFLEX HOOKdSCRIPT GfWITH CROSSED-TAILeRfWITH RINGdSHARP S
dSIDEWAYS DIAERESIZED UeOfWITH STROKEeOPEN OeTURNED MeUdSIGMOID SdSQUAT REVERSED ESHdSTIRRUP RdT
eWITH CARONfCEDILLAfCIRCUMFLEX BELOWfCOMMA BELOWfCURLfDIAERESISfDIAGONAL STROKEfDOT ABOVEgBELOWfHOOK
gAND RETROFLEX HOOKfLINE BELOWfMIDDLE TILDEfPALATAL HOOKfRETROFLEX HOOKfSTROKEdTAILLESS PHI
dTC DIGRAPH WITH CURLdTESH DIGRAPHfWITH PALATAL HOOKgRETROFLEX HOOKdTH WITH STRIKETHROUGHdTHORN
eWITH STROKEgTHROUGH DESCENDERdTONE FIVEeSIXeTWOdTOP HALF OdTRESILLOdTS DIGRAPHfWITH RETROFLEX HOOK
dTUMdTURNED AeAEeALPHAeDELTAeEeGeHfWITH FISHHOOKhAND TAILeIeINSULAR GeKeLeMfWITH LONG LEGeO OPEN-O
gWITH STROKEeOEfWITH HORIZONTAL STROKEgSTROKEeOPEN EeRfWITH HOOKgLONG LEGiAND RETROFLEX HOOK
gMIDDLE TILDEgPALATAL HOOKgTAILeTfWITH CURLeUIeVeWeYfWITH BELTdTZdUeBARfWITH SHORT RIGHT LEG
eWITH ACUTEfBREVEfCARONfCIRCUMFLEXgBELOWfDIAERESISgAND ACUTEhCARONhGRAVEhMACRONgBELOWfDOT BELOW
fDOUBLE ACUTEgGRAVEfGRAVEfHOOK ABOVEfHORNgAND ACUTEhDOT BELOWhGRAVEhHOOK ABOVEhTILDEfINVERTED BREVE
fLEFT HOOKfMACRONgAND DIAERESISfOGONEKfRETROFLEX HOOKfRING ABOVEfSHORT RIGHT LEGfSTROKEfTILDE
gAND ACUTEgBELOWdUEdUIdUMdUOdUPSILONeWITH STROKEdVeWITH CURLfDIAGONAL STROKEfDOT BELOWfHOOK
fPALATAL HOOKfRIGHT HOOKfTILDEdVENDdVISIGOTHIC ZdVOLAPUK AEeOEeUEdVYdWeWITH ACUTEfCIRCUMFLEX
fDIAERESISfDOT ABOVEgBELOWfGRAVEfHOOKfRING ABOVEdXeWITH DIAERESISfDOT ABOVEfLONG LEFT LEG
iAND LOW RIGHT RINGiWITH SERIFfLOW RIGHT RINGfPALATAL HOOKdYeWITH ACUTEfCIRCUMFLEXfDIAERESIS
fDOT ABOVEgBELOWfGRAVEfHOOKgABOVEfLOOPfMACRONfRING ABOVEfSHORT RIGHT LEGfSTROKEfTILDEdYOGHdZ
eWITH ACUTEfCARONfCIRCUMFLEXfCURLfDESCENDERfDOT ABOVEgBELOWfHOOKfLINE BELOWfMIDDLE TILDE
fPALATAL HOOKfRETROFLEX HOOKfSTROKEfSWASH TAILcLIGATURE FFdFFIdFFLdFIdFLdIJdLONG S TdOEdST
bSUBSCRIPT SMALL LETTER AeEeHeIeJeKeLeMeNeOePeReSeSCHWAeTeUeVeXaLEAF FLUTTERING IN WINDaLEAFY GREEN
aLEDGERaLEFT AND LOWER AND RIGHT TRIANGULAR THREE QUARTERS BLOCKdONE EIGHTH BLOCK
cRIGHT DOUBLE TURNSTILEdTACKdTRIANGULAR HALF BLOCKcUPPER AND RIGHT TRIANGULAR THREE QUARTERS BLOCK
dONE EIGHTH BLOCKbANGER BUBBLEbANGLE BRACKETdWITH DOTbARC LESS-THAN BRACKETbARROW WITH CIRCLED PLUS
dSMALL CIRCLEbBARB DOWN RIGHT BARB DOWN HARPOONfUP HARPOONcUP RIGHT BARB DOWN HARPOONfUP HARPOON
bBLACK LENTICULAR BRACKETcTORTOISE SHELL BRACKETbCEILINGbCLOSED ENTRYbCORNER BRACKETbCURLY BRACKET
dLOWER HOOKdMIDDLE PIECEdUPPER HOOKbDOTTED SUBSTITUTION BRACKETbDOUBLE ANGLE BRACKETcPARENTHESIS
cQUOTATION MARKcWIGGLY FENCEbFISH TAILbFIVE EIGHTHS BLOCKbFLOORbHALF BLACK CIRCLEdSTARcBLOCKcCIRCLE
dWITH DOTeFOUR DOTSeTHREE DOTSeTWO DOTScFOLDERcINVERSE MEDIUM SHADE AND RIGHT HALF BLOCK
cMEDIUM SHADEcRUNNING MANbHAND TELEPHONE RECEIVERbLOW PARAPHRASE BRACKETbLUGGAGEbMULTIMAP
bNORMAL FACTOR SEMIDIRECT PRODUCTbONE EIGHTH BLOCKcQUARTER BLOCKbOUTER JOINbPARENTHESIScEXTENSION
cLOWER HOOKcUPPER HOOKbRAISED OMISSION BRACKETbRIGHT ARROWdTHROUGH SMALL CIRCLE
dWITH DOUBLE VERTICAL STROKEeSTROKEeVERTICAL STROKEcBLACK ARROWcDOUBLE ARROWeWITH STROKE
fVERTICAL STROKEcOPEN-HEADED ARROWcSANS-SERIF ARROWcTRIANGLE-HEADED ARROWcWAVE ARROWcWHITE ARROW
bS-SHAPED BAG DELIMITERbSEMIDIRECT PRODUCTbSEVEN EIGHTHS BLOCKbSIDEWAYS U BRACKET
bSINGLE QUOTATION MARKbSPEECH BUBBLEbSQUARE BRACKETdEXTENSIONdLOWER CORNERdUPPER CORNER
dWITH DOUBLE STROKEeQUILLeSTROKEeTICK IN BOTTOM CORNERgTOP CORNEReUNDERBARbSUBSTITUTION BRACKETbTACK
bTHIRD WHITE RIGHT POINTING INDEXbTHOUGHT BUBBLEbTHREE EIGHTHS BLOCKcQUARTERS BLOCK
bTORTOISE SHELL BRACKETbTRANSPOSITION BRACKETbTRIANGLE BESIDE VERTICAL BAR
bTRIANGULAR ONE QUARTER BLOCKbVERTICAL BAR WITH QUILLcBOX LINEbWHITE CORNER BRACKETcCURLY BRACKET
cLENTICULAR BRACKETcPARENTHESIScSQUARE BRACKETcTORTOISE SHELL BRACKETbWIGGLY FENCEbWRITING HAND
aLEFT-FACING ARMENIAN ETERNITY SIGNbFISTbSVASTI SIGNdWITH DOTSaLEFT-HANDED INTERLACED PENTAGRAM
aLEFT-POINTING ANGLE BRACKETbCURVED ANGLE BRACKETbDOUBLE ANGLE QUOTATION MARKbMAGNIFYING GLASS
aLEFT-SHADED WHITE RIGHTWARDS ARROWaLEFT-SIDE ARC ANTICLOCKWISE ARROWaLEFT-TO-RIGHT EMBEDDING
bISOLATEbMARKbOVERRIDEaLEFTWARDS ARROWcABOVE ALMOST EQUAL TOdREVERSE ALMOST EQUAL TOeTILDE OPERATOR
dSHORT RIGHTWARDS ARROWdTILDE OPERATORcAND UPPER AND LOWER ONE EIGHTH BLOCKcFROM BAR
eTO BLACK DIAMONDcOVER RIGHTWARDS ARROWcTHROUGH LESS-THANdSUBSETdXcTO BAR
eOVER RIGHTWARDS ARROW TO BARdBLACK DIAMONDcWITH DOTTED STEMdDOUBLE VERTICAL STROKE
dEQUILATERAL ARROWHEADdHOOKdLARGE TRIANGLE ARROWHEADdLOOPdMEDIUM TRIANGLE ARROWHEADdNOTCHED TAIL
dPLUS BELOWdSMALL EQUILATERAL ARROWHEADeTRIANGLE ARROWHEADdSTROKEdTAILeWITH DOUBLE VERTICAL STROKE
fVERTICAL STROKEdTIP DOWNWARDSeUPWARDSdVERTICAL STROKEbARROW-TAILbBACK-TILTED SHADOWED WHITE ARROW
bBLACK ARROWcCIRCLED WHITE ARROWbBOTTOM-SHADED WHITE ARROWbCOMPRESSED ARROWbDASHED ARROW
bDOUBLE ARROWdFROM BARdWITH STROKEeVERTICAL STROKEcARROW-TAILcDASH ARROWbFINGER-POST ARROW
bFRONT-TILTED SHADOWED WHITE ARROWbHANDbHARPOON OVER RIGHTWARDS HARPOON
cWITH BARB DOWN ABOVE RIGHTWARDS HARPOON WITH BARB DOWNfBELOW LONG DASHfFROM BARfTO BAReDOWNWARDS
eUP ABOVE LEFTWARDS HARPOON WITH BARB DOWNgLONG DASHgRIGHTWARDS HARPOON WITH BARB UPfFROM BARfTO BAR
eUPWARDSbHEAVY ARROWcCOMPRESSED ARROWbLEFT-SHADED WHITE ARROWbOPEN-HEADED ARROWbPAIRED ARROWS
bQUADRUPLE ARROWbRIGHT-SHADED WHITE ARROWbROCKETbSANS-SERIF ARROWbSQUARED ARROWbSQUIGGLE ARROW
bTOP SHADED WHITE ARROWbTRIANGLE ARROWHEADbTRIANGLE-HEADED ARROW
dOVER RIGHTWARDS TRIANGLE-HEADED ARROWdTO BARdWITH BOLD SHAFTeDOUBLE HORIZONTAL STROKE
fVERTICAL STROKEeHEAVY SHAFTeLONG TIP DOWNWARDSgUPWARDSeMEDIUM SHAFTeNARROW SHAFTeVERY HEAVY SHAFT
cDASHED ARROWcPAIRED ARROWSbTRIPLE ARROWcDASH ARROWbTWO HEADED ARROWbTWO-HEADED ARROW FROM BAR
dWITH DOUBLE VERTICAL STROKEeTAILfWITH DOUBLE VERTICAL STROKEgVERTICAL STROKEeTRIANGLE ARROWHEADS
eVERTICAL STROKEcTRIPLE DASH ARROWbWAVE ARROWbWHITE ARROWdWITHIN TRIANGLE ARROWHEADaLEGaLEMONaLEO
aLEOPARDaLEPCHA CONSONANT SIGN KdKANGdLdMdNdNYIN-DOdPdRdTbDIGIT EIGHTcFIVEcFOURcNINEcONEcSEVENcSIX
cTHREEcTWOcZERObLETTER AcBAcBLAcCAcCHAcDAcDDAcDZAcFAcFLAcGAcGLAcHAcHLAcJAcKAcKHAcKLAcLAcMAcMLAcNA
cNGAcNYAcPAcPHAcPLAcRAcSAcSHAcTAcTHAcTSAcTSHAcTTAcTTHAcVAcWAcYAbPUNCTUATION CER-WA
cNYET THYOOM TA-ROLcTA-ROLcTSHOOKdCER-WAbSIGN NUKTAcRANbSUBJOINED LETTER RAdYAbVOWEL SIGN AAdEdIdO
dOOdUdUUaLESS-THAN ABOVE DOUBLE-LINE EQUAL ABOVE GREATER-THANcGREATER-THAN ABOVE DOUBLE-LINE EQUAL
cLEFTWARDS ARROWcSIMILAR ABOVE GREATER-THANdOR EQUAL
cSLANTED EQUAL ABOVE GREATER-THAN ABOVE SLANTED EQUALbAND NOT APPROXIMATEcSINGLE-LINE NOT EQUAL TO
bBUT NOT EQUAL TOdEQUIVALENT TObCLOSED BY CURVEeABOVE SLANTED EQUALbEQUAL TO OR GREATER-THAN
bOR APPROXIMATEcEQUAL TOcEQUIVALENT TOcGREATER-THANcSLANTED EQUAL TOfWITH DOT ABOVEiRIGHThINSIDE
bOVER EQUAL TObSIGNbWITH CIRCLE INSIDEcDOTcQUESTION MARK ABOVEaLEVEL SLIDERaLFaLIBRA
aLIGATURE OPEN ET ORNAMENTaLIGHT CHECK MARKbEIGHT SPOKED ASTERISKbFIVE POINTED BLACK STAR
cSPOKED ASTERISKbFOUR POINTED BLACK CUSPeSTARbGREEK CROSSbLEFT TORTOISE SHELL BRACKET ORNAMENTbRAIL
bRIGHT TORTOISE SHELL BRACKET ORNAMENTbSALTIREbSHADEbSIX SPOKED ASTERISKbTHREE POINTED BLACK STAR
bTWELVE POINTED BLACK STARbVERTICAL BARbWHITE SQUAREaLIGHTNINGbMOODcBUBBLEaLIMBU DIGIT EIGHTcFIVE
cFOURcNINEcONEcSEVENcSIXcTHREEcTWOcZERObEXCLAMATION MARKbLETTER BAcBHAcCAcCHAcDAcDHAcGAcGHAcGYANcHA
cJAcJHAcKAcKHAcLAcMAcNAcNGAcPAcPHAcRAcSAcSHAcSSAcTAcTHAcTRAcWAcYAcYANbQUESTION MARKbSIGN KEMPHRENG
cLOOcMUKPHRENGcSA-IbSMALL LETTER ANUSVARAdKAdLAdMAdNAdNGAdPAdRAdTAbSUBJOINED LETTER RAdWAdYA
bVOWEL SIGN AdAIdAUdEdEEdIdOdOOdUbVOWEL-CARRIER LETTERaLIMITED LIABILITY SIGNaLINE FEED
bINTEGRATION NOT INCLUDING THE POLEcWITH RECTANGULAR PATH AROUND POLEdSEMICIRCULAR PATH AROUND POLE
bSEPARATORbTABULATIONcSETaLINEAR A SIGN A028BdA100-102dA120BdA131CdA301dA302dA303dA304dA305dA306
dA307dA308dA309AdA309BdA309CdA310dA311dA312dA313AdA313BdA313CdA314dA315dA316dA317dA318dA319dA320
dA321dA322dA323dA324dA325dA326dA327dA328dA329dA330dA331dA332dA333dA334dA335dA336dA337dA338dA339dA340
dA341dA342dA343dA344dA345dA346dA347dA348dA349dA350dA351dA352dA353dA354dA355dA356dA357dA358dA359dA360
dA361dA362dA363dA364dA365dA366dA367dA368dA369dA370dA371dA400-VASdA401-VASdA402-VASdA403-VASdA404-VAS
dA405-VASdA406-VASdA407-VASdA408-VASdA409-VASdA410-VASdA411-VASdA412-VASdA413-VASdA414-VASdA415-VAS
dA416-VASdA417-VASdA418-VASdA501dA502dA503dA504dA505dA506dA508dA509dA510dA511dA512dA513dA515dA516
dA520dA521dA523dA524dA525dA526dA527dA528dA529dA530dA531dA532dA534dA535dA536dA537dA538dA539dA540dA541
dA542dA545dA547dA548dA549dA550dA551dA552dA553dA554dA555dA556dA557dA559dA563dA564dA565dA566dA568dA569
dA570dA571dA572dA573dA574dA575dA576dA577dA578dA579dA580dA581dA582dA583dA584dA585dA586dA587dA588dA589
dA591dA592dA594dA595dA596dA598dA600dA601dA602dA603dA604dA606dA608dA609dA610dA611dA612dA613dA614dA615
dA616dA617dA618dA619dA620dA621dA622dA623dA624dA626dA627dA628dA629dA634dA637dA638dA640dA642dA643dA644
dA645dA646dA648dA649dA651dA652dA653dA654dA655dA656dA657dA658dA659dA660dA661dA662dA663dA664dA701 A
dA702 BdA703 DdA704 EdA705 FdA706 HdA707 JdA708 KdA709 LdA709-2 L2dA709-3 L3dA709-4 L4dA709-6 L6
dA710 WdA711 XdA712 YdA713 OMEGAdA714 ABBdA715 BBdA717 DDdA726 EYYYdA732 JEdA800dA801dA802dA803dA804
dA805dA806dA807dAB001dAB002dAB003dAB004dAB005dAB006dAB007dAB008dAB009dAB010dAB011dAB013dAB016dAB017
dAB020dAB021dAB021FdAB021MdAB022dAB022FdAB022MdAB023dAB023MdAB024dAB026dAB027dAB028dAB029dAB030
dAB031dAB034dAB037dAB038dAB039dAB040dAB041dAB044dAB045dAB046dAB047dAB048dAB049dAB050dAB051dAB053
dAB054dAB055dAB056dAB057dAB058dAB059dAB060dAB061dAB065dAB066dAB067dAB069dAB070dAB073dAB074dAB076
dAB077dAB078dAB079dAB080dAB081dAB082dAB085dAB086dAB087dAB118dAB120dAB122dAB123dAB131AdAB131BdAB164
dAB171dAB180dAB188dAB191bB IDEOGRAM B100 MANdB102 WOMANdB104 DEERdB105 EQUIDdB105F MARE
dB105M STALLIONdB106F EWEdB106M RAMdB107F SHE-GOATdB107M HE-GOATdB108F SOWdB108M BOARdB109F COW
dB109M BULLdB120 WHEATdB121 BARLEYdB122 OLIVEdB123 SPICEdB125 CYPERUSdB130 OILdB131 WINEdB132
dB140 BRONZEdB141 GOLDdB142dB145 WOOLdB146dB150dB151 HORNdB152dB153dB154dB157dB158dB159 CLOTHdB160
dB161dB162 GARMENTdB163 ARMOURdB164dB165dB166dB167dB168dB169dB170dB171dB172dB173 MONTHdB174
dB176 TREEdB177dB178dB179dB180dB181dB182dB183dB184dB185dB189dB190dB191 HELMETdB220 FOOTSTOOL
dB225 BATHTUBdB230 SPEARdB231 ARROWdB232dB233 SWORDdB234dB236dB240 WHEELED CHARIOTdB241 CHARIOT
dB242 CHARIOT FRAMEdB243 WHEELdB245dB246dB248dB249dB251dB252dB253dB254 DARTdB255dB256dB257dB258dB259
dVESSEL B155eB200eB201eB202eB203eB204eB205eB206eB207eB208eB209eB210eB211eB212eB213eB214eB215eB216
eB217eB218eB219eB221eB222eB226eB227eB228eB229eB250eB305cMONOGRAM B127 KAPOdB128 KANAKOdB133 AREPA
dB135 MERIdB156 TURO2dB247 DIPTEcSYLLABLE B001 DAdB002 ROdB003 PAdB004 TEdB005 TOdB006 NAdB007 DI
dB008 AdB009 SEdB010 UdB011 POdB012 SOdB013 MEdB014 DOdB015 MOdB016 QAdB017 ZAdB020 ZOdB021 QI
dB023 MUdB024 NEdB025 A2dB026 RUdB027 REdB028 IdB029 PU2dB030 NIdB031 SAdB032 QOdB033 RA3dB036 JO
dB037 TIdB038 EdB039 PIdB040 WIdB041 SIdB042 WOdB043 A3dB044 KEdB045 DEdB046 JEdB048 NWAdB050 PU
dB051 DUdB052 NOdB053 RIdB054 WAdB055 NUdB057 JAdB058 SUdB059 TAdB060 RAdB061 OdB062 PTEdB065 JU
dB066 TA2dB067 KIdB068 RO2dB069 TUdB070 KOdB071 DWEdB072 PEdB073 MIdB074 ZEdB075 WEdB076 RA2dB077 KA
dB078 QEdB080 MAdB081 KUdB085 AUdB087 TWEdB090 DWOdB091 TWOcSYMBOL B018dB019dB022dB034dB047dB049
dB056dB063dB064dB079dB082dB083dB086dB089aLINK SYMBOLaLINKED PAPERCLIPSaLION FACEaLIPSaLIPSTICK
aLIRA SIGNaLISU LETTER AcAEcBAcCAcCHAcDAcDZAcEcEUcFAcGAcGHAcHAcHHAcIcJAcKAcKHAcLAcMAcNAcNGAcOcOEcPA
cPHAcSAcSHAcTAcTHAcTONE MYA BOeCYAeJEUeNAeTIdNA POcTSAcTSHAcUcUEcUHcWAcXAcYAcYHAcZAcZHA
bPUNCTUATION COMMAcFULL STOPaLIVRE TOURNOIS SIGNaLIZARDaLLAMAaLOBSTERaLOCKbWITH INK PEN
aLOCKING-SHIFT ONEbZEROaLOGICAL ANDcWITH DOT ABOVEdDOUBLE OVERBAReUNDERBARdHORIZONTAL DASH
dMIDDLE STEMdUNDERBARbORcOVERLAPPING LOGICAL ANDcWITH DOT ABOVEdDOUBLE OVERBAReUNDERBAR
dHORIZONTAL DASHdMIDDLE STEMaLOLLIPOPaLONG DASH FROM LEFT MEMBER OF DOUBLE VERTICALbDIVISIONbDRUM
bLEFT RIGHT ARROWdDOUBLE ARROWcTACKbLEFTWARDS ARROWdFROM BARcDOUBLE ARROWeFROM BARcSQUIGGLE ARROW
bRIGHT TACKbRIGHTWARDS ARROWdFROM BARcDOUBLE ARROWeFROM BARcSQUIGGLE ARROWaLOTION BOTTLEaLOTUS
aLOUDLY CRYING FACEaLOVE HOTELbLETTERaLOW ASTERISKbBATTERYbBRIGHTNESS SYMBOL
bDOUBLE PRIME QUOTATION MARKbKAVYKAcWITH DOTbLINEaLOWER BLADE SCISSORSbFIVE EIGHTHS BLOCKbHALF BLOCK
cCIRCLEcINVERSE WHITE CIRCLEcMEDIUM SHADEbLEFT BALLPOINT PEN
cBLOCK DIAGONAL LOWER MIDDLE LEFT TO LOWER CENTREjRIGHTeUPPER CENTRE TO LOWER MIDDLE RIGHTiRIGHT
hUPPER MIDDLE RIGHTfLEFT TO LOWER CENTREiMIDDLE RIGHThUPPER MIDDLE RIGHTfMIDDLE LEFT TO LOWER CENTRE
jMIDDLE RIGHTjRIGHTcCRAYONcFOUNTAIN PENcPAINTBRUSHcPENCILcQUADRANT CIRCULAR ARC
cSEMICIRCULAR ANTICLOCKWISE ARROWcTRIANGLEcTRIANGULAR MEDIUM SHADEbONE EIGHTH BLOCKcQUARTER BLOCK
bRIGHT BLOCK DIAGONAL LOWER CENTRE TO LOWER MIDDLE RIGHThUPPER MIDDLE RIGHTiRIGHT
fLEFT TO LOWER MIDDLE RIGHThUPPER CENTREiMIDDLE RIGHTfMIDDLE LEFT TO UPPER CENTREjMIDDLE RIGHTjRIGHT
eUPPER MIDDLE LEFT TO UPPER CENTREjRIGHTcCORNER WITH DOTcDROP-SHADOWED WHITE SQUAREcPENCIL
cQUADRANT CIRCULAR ARCcSEMICIRCULAR CLOCKWISE ARROWcSHADOWED WHITE CIRCLEeSQUAREcTRIANGLE
cTRIANGULAR MEDIUM SHADEbSEVEN EIGHTHS BLOCKbTHREE EIGHTHS BLOCKcQUARTERS BLOCK
bTRIANGULAR ONE QUARTER BLOCKaLOZENGEbDIVIDED BY HORIZONTAL RULEaLREaLRIaLRMaLROaLUGGAGEaLUNGS
aLYCIAN LETTER AcANcBcBHcDcEcENcGcHcIcJcKcKKcLcMcMMcNcNNcPcQcRcScTcTHcTTcUcWcXcZaLYDIAN LETTER AcAN
cBcCcDcEcENcFcGcIcKcLcLYcMcNcNNcOcQcRcScSScTcTTcUcVcYbTRIANGULAR MARKaLYING FACE
"

end RepoAudit.Text.CharName
