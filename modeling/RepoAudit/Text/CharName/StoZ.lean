/-! # Names of characters from S to Z

The names that start with these letters, in the order of their words.  A small letter starts each
name and tells how many words it shares with the name before it: none for `a`, one for `b`.
-/

namespace RepoAudit.Text.CharName

def fromStoZ : String := "
aS IN TRIANGLEaSAFETY PINbVESTaSAGITTARIUSaSAILBOATaSAKE BOTTLE AND CUPaSALT SHAKERaSALTIRE
aSALUTING FACEaSAMARITAN ABBREVIATION MARKbLETTER ALAFcBAAcBITcDALATcFIcGAMANcINcITcIYcKAAFcLABAT
cMIMcNUNcQUFcRISHcSHANcSINGAATcTAAFcTITcTSAADIYcYUTcZENbMARK DAGESHcEPENTHETIC YUTcINcIN-ALAF
cNEQUDAAcOCCLUSIONbMODIFIER LETTER EPENTHETIC YUTdIdSHORT AbPUNCTUATION AFSAAQcANGEDcANNAAUcARKAANU
cATMAAUcBAUcMELODIC QITSAcNEQUDAAcQITSAcSHIYYAALAAcSOF MASHFAATcTURUcZAEFcZIQAAbVOWEL SIGN AdAAdEdI
dLONG AeAAeEeIeUdOdOVERLONG AeAAdSHORT AdSUKUNdUaSANDWICH
aSANS-SERIF HEAVY DOUBLE COMMA QUOTATION MARK ORNAMENTdTURNED COMMA QUOTATION MARK ORNAMENT
cLOW DOUBLE COMMA QUOTATION MARK ORNAMENTbINTERROBANG ORNAMENTaSARIaSATELLITEbANTENNAaSATURN
aSAURASHTRA CONSONANT SIGN HAARUbDANDAbDIGIT EIGHTcFIVEcFOURcNINEcONEcSEVENcSIXcTHREEcTWOcZERO
bDOUBLE DANDAbLETTER AcAAcAIcAUcBAcBHAcCAcCHAcDAcDDAcDDHAcDHAcEcEEcGAcGHAcHAcIcIIcJAcJHAcKAcKHAcLA
cLLAcMAcNAcNGAcNNAcNYAcOcOOcPAcPHAcRAcSAcSHAcSSAcTAcTHAcTTAcTTHAcUcUUcVAcVOCALIC LdLLdRdRRcYA
bSIGN ANUSVARAcCANDRABINDUcVIRAMAcVISARGAbVOWEL SIGN AAdAIdAUdEdEEdIdIIdOdOOdUdUUdVOCALIC LeLLeReRR
aSAUROPODaSAXOPHONEaSCALESaSCARFaSCHOOLbSATCHELaSCIaSCOOTERaSCORPIONaSCORPIUSaSCREENaSCREWDRIVER
aSCRIPT CAPITAL BcEcFcHcIcLcMcPcRbLIGATURE ET ORNAMENTbSMALL EcGcLcOaSCROLLaSCRUPLEaSEALaSEAT
aSECOND PLACE MEDALaSECTION SIGNaSECTORaSEDNAaSEE-NO-EVIL MONKEYaSEEDLINGaSEGMENT
aSEGMENTED DIGIT EIGHTcFIVEcFOURcNINEcONEcSEVENcSIXcTHREEcTWOcZEROaSELFIEaSEMICOLON
aSEMIDIRECT PRODUCT WITH BOTTOM CLOSEDaSEMISEXTILEaSEPARATED SYMBOL
aSERIOUS FACE WITH SYMBOLS COVERING MOUTHaSERVICE MARKaSESAME DOTaSESQUIQUADRATEaSET MINUS
bTRANSMIT STATEaSEWING NEEDLEaSEXTILEaSGCaSHADOWED WHITE CIRCLEcLATIN CROSScSTARaSHALLOW PAN OF FOOD
aSHAMROCKaSHARADA ABBREVIATION SIGNbCONTINUATION SIGNbDANDAbDIGIT EIGHTcFIVEcFOURcNINEcONEcSEVENcSIX
cTHREEcTWOcZERObDOUBLE DANDAbEKAMbEXTRA SHORT VOWEL MARKbHEADSTROKEbLETTER AcAAcAIcAUcBAcBHAcCAcCHA
cDAcDDAcDDHAcDHAcEcGAcGHAcHAcIcIIcJAcJHAcKAcKHAcLAcLLAcMAcNAcNGAcNNAcNYAcOcPAcPHAcRAcSAcSHAcSSAcTA
cTHAcTTAcTTHAcUcUUcVAcVOCALIC LdLLdRdRRcYAbOMbSANDHI MARKbSECTION MARK-1cMARK-2bSEPARATOR
bSIGN ANUSVARAcAVAGRAHAcCANDRABINDUcINVERTED CANDRABINDUcJIHVAMULIYAcNUKTAcSIDDHAMcUPADHMANIYA
cVIRAMAcVISARGAbSUTRA MARKbVOWEL MODIFIER MARKcSIGN AAdAIdAUdEdIdIIdOdPRISHTHAMATRA EdUdUUdVOCALIC L
eLLeReRRaSHARKaSHAVED ICEaSHAVIAN LETTER ADOcAGEcAHcAIRcAREcARRAYcASHcAWEcBIBcCHURCHcDEADcEARcEAT
cEGGcERRcFEEcGAGcHA-HAcHUNGcIANcICEcIFcJUDGEcKICKcLOLLcMEASUREcMIMEcNUNcOAKcOILcONcOOZEcORcOUTcPEEP
cROARcSOcSUREcTHEYcTHIGHcTOTcUPcVOWcWOEcWOOLcYEAcYEWcZOOaSHEEPaSHIELDaSHIFT INbOUTaSHINTO SHRINE
aSHIPaSHOCKED FACE WITH EXPLODING HEADaSHOOTING STARaSHOPPING BAGSbTROLLEY
aSHORT BACKSLANTED SOUTH ARROWbBENT ARROW POINTING DOWNWARDS THEN NORTH EASTbDOWN TACKdWITH OVERBAR
bLEFT TACKbRIGHTWARDS ARROW ABOVE LEFTWARDS ARROWbSLANTED NORTH ARROWbUP TACKdABOVE SHORT DOWN TACK
dWITH UNDERBARaSHORTCAKEaSHORTHAND FORMAT CONTINUING OVERLAPcDOWN STEPcLETTER OVERLAPcUP STEPaSHORTS
aSHOULDERED OPEN BOXaSHOWERaSHRIMPaSHRUGaSHUFFLE PRODUCTaSHYaSIaSIDDHAM DANDAbDOUBLE DANDA
bEND OF TEXT MARKbLETTER AcAAcAIcALTERNATE UcAUcBAcBHAcCAcCHAcDAcDDAcDDHAcDHAcEcGAcGHAcHAcIcIIcJA
cJHAcKAcKHAcLAcMAcNAcNGAcNNAcNYAcOcPAcPHAcRAcSAcSHAcSSAcTAcTHAcTHREE-CIRCLE ALTERNATE IcTTAcTTHA
cTWO-CIRCLE ALTERNATE IeIIcUcUUcVAcVOCALIC LdLLdRdRRcYAbREPETITION MARK-1cMARK-2cMARK-3
bSECTION MARK DOUBLE RINGfWITH RAYSdWITH CIRCLES AND FOUR ENCLOSURESgRAYSgTWO ENCLOSURES
eDOUBLE CRESCENTSeQUADRUPLE CRESCENTSeRAYS AND DOTTED CRESCENTShDOUBLE CRESCENTShTRIPLE CRESCENTS
eSEPTUPLE CRESCENTSeTRIDENT AND DOTTED CRESCENTSgU-SHAPED ORNAMENTSeTRIPLE CRESCENTSbSEPARATOR BAR
cDOTbSIGN ANUSVARAcCANDRABINDUcNUKTAcSIDDHAMcVIRAMAcVISARGAbVOWEL SIGN AAdAIdALTERNATE UeUUdAUdEdI
dIIdOdUdUUdVOCALIC ReRRaSIDEWAYS BLACK DOWN POINTING INDEXcLEFT POINTING INDEXcRIGHT POINTING INDEX
cUP POINTING INDEXbWHITE DOWN POINTING INDEXcLEFT POINTING INDEXcRIGHT POINTING INDEX
cUP POINTING INDEXaSIGN OF THE HORNSaSIGNWRITING AIR BLOW SMALL ROTATIONScBLOWING OUT
cSUCK SMALL ROTATIONScSUCKING INbBREATH EXHALEcINHALEbBRUSH BETWEENcMULTIPLEcSINGLEbCHEEKS NEUTRAL
cPUFFEDcSUCKEDbCOLONbCOMMAbDREAMY EYEBROWS DOWN NEUTRALdNEUTRAL DOWNeUPdUP NEUTRAL
bDYNAMIC ARROWHEAD LARGEdSMALLcEVERY OTHER TIMEcFASTcGRADUALcRELAXEDcSIMULTANEOUSdALTERNATINGcSLOW
cTENSEbEARSbEXCITEMENTbEYE BLINK MULTIPLEdSINGLEcWINKbEYEBROWS STRAIGHT DOWNdNEUTRALdUP
bEYEGAZE-FLOORPLANE CURVEDcSTRAIGHTdALTERNATINGdDOUBLEbEYEGAZE-WALLPLANE CIRCLINGcCURVEDcSTRAIGHT
dALTERNATINGdDOUBLEbEYELASHES DOWNcFLUTTERINGcUPbEYES CLOSEDcHALF CLOSEDdOPENcOPENcSQUEEZED
cWIDE OPENcWIDENING MOVEMENTbFACE DIRECTION POSITION NOSE FORWARD TILTINGfUP OR DOWNiTILTING
bFILL MODIFIER-2cMODIFIER-3cMODIFIER-4cMODIFIER-5cMODIFIER-6bFINGERbFLICK LARGE MULTIPLEdSINGLE
cSEQUENTIALcSMALL MULTIPLEdSINGLEbFLOORPLANE SHOULDER HIP MOVEbFOREHEAD CONTACTcNEUTRALcWRINKLED
bFULL STOPbGRASP BETWEENcMULTIPLEcSINGLEbHAIRbHAND-ANGLEcINDEXdMIDDLE LITTLEeRINGdRING LITTLEfOUT
dTHUMBeINeOUTcLITTLE INDEXeTHUMB INDEX THUMBhOUTdUPcMIDDLE RING LITTLEfINfOUT
cRING DOWN MIDDLE THUMB INDEX CROSSdLITTLEbHAND-CIRCLEcINDEXdBENTdHINGEdMIDDLEeCROSS LITTLEeCROSSED
eLITTLEeRINGeTHUMBdRING LITTLEcLITTLE INDEXdUPcMIDDLE RING LITTLEfBENTdUPcRING LITTLEbHAND-CLAW
cFOUR FINGERS CONJOINEDcINDEX THUMB CURVE THUMB INSIDEcMIDDLE RING LITTLE CONJOINEDgSIDEcNO THUMB
cTHUMB FORWARDdSIDEbHAND-CUPcFIVE FINGERS SPREADfOPENcINDEXdRING LITTLEdTHUMBeOPEN
cMIDDLE RING LITTLEcNO THUMBcOPENdNO THUMBdTHUMB FORWARDeSIDEcTHUMB FORWARDdSIDEbHAND-CURLICUE
cINDEX RING LITTLE ONcMIDDLE RING LITTLE ONcOPENbHAND-FISTcFOUR FINGERS CONJOINED BENTcHEELcINDEX
dBENTeOVER MIDDLEdCUPPEDdHINGEDeLOWeMIDDLE UPgTHUMB SIDEdMIDDLEeBENTfTHUMB STRAIGHTeCONJOINEDfCUPPED
gTHUMB FORWARDfHINGEDgTHUMB SIDEfINDEX BENTfMIDDLE BENTfTHUMB FORWARDgSIDEhBENThCONJOINED
eCROSS LITTLEeCROSSEDfTHUMB SIDEeHINGEDfSPREAD THUMB SIDEeLITTLEeRAISED KNUCKLESeRINGfBENTfCONJOINED
eSTRAIGHT THUMB BENTeTHUMBfANGLEDgOUTfBENTfCIRCLEDfCONJOINED HINGEDfCUPPEDfHINGEDfHOOKED
eUP SPREAD THUMB FORWARDdRAISED KNUCKLEdRING LITTLEdTHUMB ANGLED IN MIDDLE UPfOUT MIDDLE UPeCIRCLE
eCIRCLED MIDDLE UPeCUPPED MIDDLE UPeCURLICUEeCURVE THUMB INSIDEgUNDEReFORWARD INDEX BENTgSTRAIGHT
eHOOKeHOOKED MIDDLE HINGEDgUPeSIDEfBOTH BENTfINDEX BENTgHINGEfTHUMB BENTgCONJOINEDgDIAGONAL
dUP MIDDLE HINGEDgTHUMB CONJOINEDhSIDEcLITTLE BENTdDOWNeOTHERS CIRCLEDeRIPPLE CURVEDfSTRAIGHTdINDEX
eTHUMBdRAISED KNUCKLEdTHUMBdTOUCHES THUMBdUPcMIDDLE BENT OVER INDEXdDOWNdLITTLEdRAISED KNUCKLE
dRING LITTLEdTHUMB ANGLED INDEX UPfOUT INDEX CROSSEDhUPeCIRCLED INDEX HINGEDgUPeCUPPED INDEX UP
eHOOKED INDEX UPeLITTLEdUPeTHUMB SIDEcRING DOWNdINDEXdLITTLEdMIDDLEeCONJOINEDeRAISED KNUCKLES
dRAISED KNUCKLEdTHUMBdUPcTHUMBdBETWEEN INDEX MIDDLEgSTRAIGHTeMIDDLE RINGeRING LITTLEdFORWARDdHEEL
dOVER FOUR RAISED KNUCKLESeTWO FINGERSdSIDE BENTeCONJOINEDeDIAGONALdUNDER FOUR FINGERSeINDEX BENT
eLITTLE UPeTHREE FINGERSeTWO FINGERSbHAND-FLATcBETWEEN PALM FACINGScFIVE FINGERS SPREADfBENT
fFOUR BENTfHINGEDgNO THUMBgTHUMB SIDEfTHUMB FORWARDcFOUR FINGERSeBENTeCONJOINEDfSPLITeHINGEDcHEEL
dFIVE FINGERS SPREADgBENTgFOUR BENTdTHUMB SIDEcSPLIT CENTREeTHUMB SIDEgBENTdINDEX THUMB SIDEdLITTLE
cTHUMB BENTdFORWARDdSIDEbHAND-HINGEcFIVE FINGERS SPREAD OPENcFOUR FINGERS CONJOINEDcINDEXdHINGED
dMIDDLE LITTLEeRINGfCONJOINEDdRING LITTLEdTHUMBeLARGEeOPENeSIDEeSMALLcLITTLEdINDEXeTHUMBdTHUMB
cMIDDLEdRING LITTLEcNO THUMBcOPENdNO THUMBdTHUMB FORWARDeSIDEcRINGdDOWN INDEX THUMB HOOK MIDDLE
cSMALLcTHUMB BETWEEN MIDDLE RINGdSIDEeTOUCHING INDEXbHAND-HOOKcCURLICUEcINDEX RING LITTLE INfOUT
fUNDERcMIDDLE RING LITTLE CONJOINEDgINgOUTdTHUMBcRING THUMBbHAND-OVALcFIVE FINGERS SPREADcINDEX
cLITTLE UPcNO THUMBcRING LITTLEcTHUMB FORWARDdSIDEbHEADcMOVEMENT CIRCLEcMOVEMENT-FLOORPLANE CURVE
dSTRAIGHTcMOVEMENT-WALLPLANE CURVEdSTRAIGHTdTILTcRIMbLIMB COMBINATIONcLENGTH-1cLENGTH-2cLENGTH-3
cLENGTH-4cLENGTH-5cLENGTH-6cLENGTH-7bLIP LOWER OVER UPPERcUPPER OVER LOWERbLIPS PRESSED TOGETHER
bLOCATION DEPTHcHEAD NECKcHEIGHTcLIMBS DIGITScTORSOcWIDTHbLOCATION-FLOORPLANE SPACE
bLOCATION-WALLPLANE SPACEbMOUTH CLOSED CONTACTdFORWARDdNEUTRALcCORNERScFROWNdOPENdWRINKLEDcKISS
dFORWARDdWRINKLEDcOPEN CIRCLEdFORWARDdOVALeWRINKLEDeYAWNdRECTANGLEeWRINKLEDeYAWNdWRINKLEDcSMILEdOPEN
dWRINKLEDcTENSEdFORWARDdSUCKEDcWRINKLES DOUBLEdSINGLEbMOVEMENT-DIAGONAL AWAY LARGEdLARGESTdMEDIUM
dSMALLcBETWEEN AWAY LARGEeLARGESTeMEDIUMeSMALLdTOWARDS LARGEeLARGESTeMEDIUMeSMALLcTOWARDS LARGE
dLARGESTdMEDIUMdSMALLbMOVEMENT-FLOORPLANE ARM CIRCLE HITTING WALL LARGE DOUBLEhSINGLEgMEDIUM DOUBLE
hSINGLEgSMALL DOUBLEhSINGLEcBENDcBOX LARGEdMEDIUMdSMALLcCHECKcCORNER LARGEdMEDIUMdSMALLcCROSS
cCURVE COMBINEDdHITTING CEILING LARGEfSMALLeFLOOR LARGEfSMALLdLARGEdLARGESTdMEDIUMdSMALL
cDOUBLE ALTERNATINGeWRIST FLEXdSTRAIGHTdWRIST FLEXcFINGER CIRCLES HITTING WALL DOUBLEgSINGLEdCONTACT
cHUMP HITTING CEILING LARGE DOUBLEgTRIPLEfSMALL DOUBLEgTRIPLEeFLOOR LARGE DOUBLEfSMALL DOUBLE
fTRIPLE LARGE TRIPLEgSMALL TRIPLEdSMALLcJAWcLOOP HITTING CEILING LARGE DOUBLEgSINGLEfSMALL DOUBLE
gSINGLEeFLOOR LARGE DOUBLEgSINGLEfSMALL DOUBLEgSINGLEdSMALLcPEAKS LARGEdMEDIUMdSMALL
cSHAKING PARALLELcSINGLE STRAIGHT LARGEeLARGESTeMEDIUMeSMALLdWRIST FLEXcTRIPLE ALTERNATING MOVEMENT
eWRIST FLEXdSTRAIGHT MOVEMENTdWRIST FLEXcWAVE HITTING CEILING LARGEfSMALLeFLOOR LARGEfSMALLdLARGE
dSMALLdSNAKEcWRIST CIRCLE HITTING WALL DOUBLEgSINGLEcZIGZAG LARGEdMEDIUMdSMALL
bMOVEMENT-HINGE DOWN SEQUENTIALcSIDE TO SIDE SCISSORScUP DOWN ALTERNATING LARGEfSMALLeLARGEeSMALL
dSEQUENTIALbMOVEMENT-WALLPLANE ARM CIRCLE MEDIUM DOUBLEfSINGLEeSMALL DOUBLEfSINGLEcBEND LARGEdMEDIUM
dSMALLcBOX LARGEdMEDIUMdSMALLcCHECK LARGEdMEDIUMdSMALLcCORNER LARGEdMEDIUMdROTATIONdSMALLcCROSS
cCURVE HALF-CIRCLE LARGEeLARGESTeMEDIUMeSMALLdHITTING CHESTeFRONT WALLdQUARTER LARGEeLARGESTeMEDIUM
eSMALLdTHEN STRAIGHTdTHREE-QUARTER CIRCLE MEDIUMfSMALLcCURVED CROSS MEDIUMeSMALLcDOUBLE ALTERNATING
eWRIST FLEXdSTRAIGHTdWRIST FLEXcFINGER CIRCLES DOUBLEeSINGLEdCONTACTcHUMP HITTING CHESTeFRONT WALL
dLARGEdMEDIUMdSMALLcJAWcLOOP HITTING CHESTeFRONT WALLdLARGEdMEDIUMdSMALLeDOUBLEcPEAKS LARGEdMEDIUM
dSMALLcSHAKINGcSINGLE STRAIGHT LARGEeLARGESTeMEDIUMeSMALLdWRIST FLEXcTRIPLE ALTERNATINGeWRIST FLEX
dSTRAIGHT MOVEMENTdWRIST FLEXcWAVE CURVE DOUBLE LARGEfMEDIUMfSMALLeTRIPLE LARGEfMEDIUMfSMALL
dDIAGONAL PATH LARGEfMEDIUMfSMALLdHITTING CHESTeFRONT WALLcWRIST CIRCLE FRONT DOUBLEfSINGLE
cZIGZAG LARGEdMEDIUMdSMALLbNECKbNOSE CONTACTcNEUTRALcWIGGLEScWRINKLESbPARENTHESIS
bROTATION MODIFIER-10cMODIFIER-11cMODIFIER-12cMODIFIER-13cMODIFIER-14cMODIFIER-15cMODIFIER-16
cMODIFIER-2cMODIFIER-3cMODIFIER-4cMODIFIER-5cMODIFIER-6cMODIFIER-7cMODIFIER-8cMODIFIER-9
bROTATION-FLOORPLANE ALTERNATINGdHITTING CEILINGeFLOORcDOUBLEdHITTING CEILINGeFLOORcSINGLE
dHITTING CEILINGeFLOORbROTATION-WALLPLANE ALTERNATEcALTERNATING HITTING CHESTeFRONT WALLcDOUBLE
dHITTING CHESTeFRONT WALLcSINGLEdHITTING CHESTeFRONT WALLbRUB BETWEENcMULTIPLEcSINGLEbSEMICOLON
bSHOULDER HIP POSITIONSdSPINEcTILTING FROM WAISTbSQUEEZE FLICK ALTERNATINGcLARGE MULTIPLEdSINGLE
cSEQUENTIALcSMALL MULTIPLEdSINGLEbSTRIKE BETWEENcMULTIPLEcSINGLEbSURFACE BETWEENcSYMBOLSbTEETH
cBITE LIPScMOVEMENTcON LIPSeMOVEMENTdTONGUEeMOVEMENTbTENSE CHEEKS HIGHdLOWdMIDDLE
bTONGUE CENTRE INSIDE MOUTHdSTICKING OUTcINSIDE MOUTH RELAXEDcLICKING LIPScMOVES AGAINST CHEEK
cSTICKING OUT FARcTIP BETWEEN LIPSdTOUCHING INSIDE MOUTHbTORSO-FLOORPLANE TWISTING
bTORSO-WALLPLANE CURVED BENDcSTRAIGHT STRETCHbTOUCH BETWEENcMULTIPLEcSINGLE
bTRAVEL-FLOORPLANE ROTATION-FLOORPLANE ALTERNATINGdDOUBLEdSINGLEcROTATION-WALLPLANE ALTERNATING
dDOUBLEdSINGLEcSHAKINGbTRAVEL-WALLPLANE ARM SPIRAL DOUBLEeSINGLEeTRIPLE
cROTATION-FLOORPLANE ALTERNATINGdDOUBLEdSINGLEcROTATION-WALLPLANE ALTERNATINGdDOUBLEdSINGLEcSHAKING
bUPPER BODY TILTING FROM HIP JOINTSbWALLPLANE SHOULDER HIP MOVEaSILHOUETTE OF JAPAN
aSIMILAR ABOVE GREATER-THAN ABOVE EQUALS SIGNcLESS-THAN ABOVE EQUALS SIGNbMINUS SIMILAR
bOR GREATER-THANcLESS-THANaSINE WAVEaSINGLE CHARACTER INTRODUCERbGRAPHIC CHARACTER INTRODUCER
bHIGH-REVERSED-9 QUOTATION MARKbLEFT-POINTING ANGLE QUOTATION MARKbLOW-9 QUOTATION MARK
bRIGHT-POINTING ANGLE QUOTATION MARKbSHIFT THREEcTWOaSINGLE-SHIFT-2aSINGLE-SHIFT-3
aSINHALA ARCHAIC DIGIT EIGHTdFIVEdFOURdNINEdONEdSEVENdSIXdTHREEdTWOcNUMBER EIGHTYdFIFTYdFORTYdNINETY
dONE HUNDREDeTHOUSANDdSEVENTYdSIXTYdTENdTHIRTYdTWENTYbLETTER AAYANNAcAEEYANNAcAEYANNAcAIYANNA
cALPAPRAANA BAYANNAdCAYANNAdDAYANNAdDDAYANNAdGAYANNAdJAYANNAdKAYANNAdPAYANNAdTAYANNAdTTAYANNA
cAMBA BAYANNAcAUYANNAcAYANNAcDANTAJA LAYANNAdNAYANNAdSAYANNAcEEYANNAcEYANNAcFAYANNAcHAYANNAcIIYANNA
cILUUYANNAcILUYANNAcIRUUYANNAcIRUYANNAcIYANNAcKANTAJA NAASIKYAYAcMAHAAPRAANA BAYANNAdCAYANNAdDAYANNA
dDDAYANNAdGAYANNAdJAYANNAdKAYANNAdPAYANNAdTAYANNAdTTAYANNAcMAYANNAcMUURDHAJA LAYANNAdNAYANNAdSAYANNA
cOOYANNAcOYANNAcRAYANNAcSANYAKA DAYANNAdDDAYANNAdGAYANNAdJAYANNAcTAALUJA NAASIKYAYA
dSANYOOGA NAAKSIKYAYAdSAYANNAcUUYANNAcUYANNAcVAYANNAcYAYANNAbLITH DIGIT EIGHTdFIVEdFOURdNINEdONE
dSEVENdSIXdTHREEdTWOdZERObPUNCTUATION KUNDDALIYAbSIGN AL-LAKUNAcANUSVARAYAcCANDRABINDUcVISARGAYA
bVOWEL SIGN AELA-PILLAdDIGA AEDA-PILLAeGAETTA-PILLAeGAYANUKITTAeIS-PILLAeKOMBUVAePAA-PILLA
dGAETTA-PILLAdGAYANUKITTAdKETTI AEDA-PILLAeIS-PILLAePAA-PILLAdKOMBU DEKAdKOMBUVAeHAA AELA-PILLA
fDIGA AELA-PILLAfGAYANUKITTAaSIX PETALLED BLACK AND WHITE FLORETTEbPOINTED BLACK STARcPINWHEEL STAR
cSTAR WITH MIDDLE DOTaSIX-PER-EM SPACEaSIXTEEN POINTED ASTERISKaSKATEBOARDaSKI AND SKI BOOTaSKIER
aSKULLbAND CROSSBONESaSKUNKaSLANTED EQUAL TO OR GREATER-THANfWITH DOT INSIDEeLESS-THAN
fWITH DOT INSIDEbNORTH ARROW WITH HOOKED HEADeHORIZONTAL TAILaSLAVONIC ASTERISKaSLED
aSLEEPING ACCOMMODATIONbFACEbSYMBOLaSLEEPY FACEaSLEUTH OR SPYaSLICE OF PIZZAaSLIGHTLY FROWNING FACE
bSMILING FACEaSLOPEaSLOPING LARGE ANDcORaSLOT MACHINEaSLOTHaSMALL AIRPLANEbAMPERSANDbASTERISK
bBLUE DIAMONDbCOLONbCOMMAbCOMMERCIAL ATbCONTAINS AS MEMBERcWITH OVERBAR
dVERTICAL BAR AT END OF HORIZONTAL STROKEbDOLLAR SIGNbELEMENT OFdWITH OVERBAR
eVERTICAL BAR AT END OF HORIZONTAL STROKEbEM DASHbEQUALS SIGNbEXCLAMATION MARKbFULL STOP
bGREATER-THAN SIGNbHYPHEN-MINUSbIDEOGRAPHIC COMMAbLEFT CURLY BRACKETcPARENTHESIS
cTORTOISE SHELL BRACKETbLESS-THAN SIGNbNUMBER SIGNbORANGE DIAMONDbPERCENT SIGNbPLUS SIGN
bQUESTION MARKbREVERSE SOLIDUSbRIGHT CURLY BRACKETcPARENTHESIScTORTOISE SHELL BRACKET
bROMAN NUMERAL EIGHTdELEVENdFIFTYdFIVEeHUNDREDdFOURdNINEdONEeHUNDREDeTHOUSANDdSEVENdSIXdTENdTHREE
dTWELVEdTWObSEMICOLONbTILDEbTWO DOTS OVER ONE DOT PUNCTUATIONbVEE WITH UNDERBARaSMALLER THAN
cOR EQUAL TOaSMASH PRODUCTaSMILEaSMILING CAT FACE WITH HEART-SHAPED EYESeOPEN MOUTHbFACE WITH HALO
dHEART-SHAPED EYESdHORNSdOPEN MOUTHfAND COLD SWEATgSMILING EYESgTIGHTLY-CLOSED EYESdSMILING EYES
fAND HAND COVERING MOUTHgTHREE HEARTSdSUNGLASSESdTEARaSMIRKING FACEaSMOKING SYMBOLaSNAILaSNAKE
aSNEEZING FACEaSNOW CAPPED MOUNTAINaSNOWBOARDERaSNOWFLAKEaSNOWMANbWITHOUT SNOWaSOaSOCCER BALLaSOCKS
aSOFT HYPHENbICE CREAMbSHELL FLOPPY DISKaSOFTBALLaSOFTWARE-FUNCTION SYMBOL
aSOGDIAN COMBINING CURVE ABOVEdBELOWcDOT ABOVEdBELOWcHOOK ABOVEdBELOWcLONG HOOK BELOWcRESH BELOW
cSTROKE BELOWcTWO DOTS ABOVEeBELOWbINDEPENDENT SHINbLETTER ALEPHcAYINcBETHcFETHcGIMELcHEcHETHcKAPH
cLAMEDHcLESHcMEMcNUNcPEcRESH-AYINcSADHEcSAMEKHcSHINcTAWcWAWcYODHcZAYINbNUMBER ONEdHUNDREDcTENcTWENTY
bPUNCTUATION CIRCLE WITH DOTcHALF CIRCLE WITH DOTcTWO CIRCLES WITH DOTSdVERTICAL BARSfWITH DOTSaSOH
aSOLID QUILT SQUARE ORNAMENTeIN BLACK SQUAREaSOLIDUSbWITH OVERBARaSOM SIGN
aSOON WITH RIGHTWARDS ARROW ABOVEaSORA SOMPENG DIGIT EIGHTdFIVEdFOURdNINEdONEdSEVENdSIXdTHREEdTWO
dZEROcLETTER AHdBAHdCAHdDAHdEEHdEHdGAHdHAHdIHdJAHdKAHdLAHdMAEdMAHdNAHdNGAHdNYAHdOHdPAHdRAHdSAHdTAH
dUHdVAHdYAHaSOSaSOUND RECORDING COPYRIGHTaSOUTH EAST ARROWdAND SOUTH WEST ARROW
dCROSSING NORTH EAST ARROWdTO CORNERdWITH HOOKcBLACK ARROWcDOUBLE ARROWcPOINTING BUDdLEAFdVINE LEAF
cSANS-SERIF ARROWcTRIANGLE-HEADED ARROWeTO BARcWHITE ARROWbWEST ARROWdAND NORTH WEST ARROWdWITH HOOK
cBLACK ARROWcDOUBLE ARROWcPOINTING BUDdLEAFdVINE LEAFcSANS-SERIF ARROWcTRIANGLE-HEADED ARROWeTO BAR
cWHITE ARROWaSOYOMBO CLUSTER-INITIAL LETTER LAdRAdSAdSHAbFINAL CONSONANT SIGN -AeBeDeGeKeLeMeNeNGeR
eSeSHbGEMINATION MARKbHEAD MARK WITH MOON AND SUNhAND FLAMEiTRIPLE FLAMEbLETTER -AcAcBAcBHAcCAcCHA
cDAcDDAcDDHAcDHAcDZAcGAcGHAcHAcJAcJHAcKAcKHAcKSSAcLAcMAcNAcNGAcNNAcNYAcPAcPHAcRAcSAcSHAcSSAcTAcTHA
cTSAcTSHAcTTAcTTHAcVAcYAcZAcZHAbMARK DOUBLE SHADcPLUTAcSHADcTSHEGbSIGN ANUSVARAcJIHVAMULIYA
cUPADHMANIYAcVISARGAbSUBJOINERbTERMINAL MARK-1cMARK-2bVOWEL LENGTH MARKcSIGN AIdAUdEdIdOdOEdUdUE
dVOCALIC LeRaSPaSPAaSPACEaSPAGHETTIaSPARKLEaSPARKLESaSPARKLING HEARTaSPEAK-NO-EVIL MONKEYaSPEAKER
bWITH CANCELLATION STROKEcONE SOUND WAVEcTHREE SOUND WAVESaSPEAKING HEAD IN SILHOUETTE
aSPEECH BALLOONaSPEEDBOATaSPESMILO SIGNaSPHERICAL ANGLEcOPENING LEFTdUPaSPIDERbWEB
aSPIRAL CALENDAR PADbNOTE PADbSHELLaSPLASHING SWEAT SYMBOLaSPONGEaSPOOL OF THREADaSPOONaSPORTS MEDAL
aSPOUTING WHALEaSQUARE A OVER MbAARUbAMbANPEAbAPAATObARUHUAbAUbBAARERUbBARbBEETAbBIRUbBORUTObBQ
bBUSSYERUbC OVER KGbCALbCAPbCCbCDbCMcCUBEDcSQUAREDbCObCORPORATIONbCUPbDAbDAASUbDBbDESIbDJbDLbDM
cCUBEDcSQUAREDbDORUbEEKAAbERA NAME HEISEIdMEIZIdREIWAdSYOUWAdTAISYOUbERGbESUKUUDObEVbFMbFOOT
bFOUR CORNERSbGALbGANMAbGARONbGBbGHZbGIGAbGINIIbGIRUDAAbGPAbGURAMUbGURAMUTONbGYbHAbHAITUbHEKUTAARU
bHERUTUbHGbHIRAGANA HOKAbHONbHOONbHOORUbHPbHPAbHUARADDObHUIITObHURANbHZbIMAGE OFdOR EQUAL TO
eNOT EQUAL TObINbININGUbINTIbIUbK OHMbKAbKAIRIbKARATTObKARORIIbKBbKCALbKEESUbKGbKHZbKIRObKIROGURAMU
bKIROMEETORUbKIROWATTObKKbKLbKMcCAPITALcCUBEDcSQUAREDbKOOPObKORUNAbKPAbKTbKUROONEbKURUZEIRObKVbKW
bKYURIIbLEFT OPEN BOX OPERATORbLMbLNbLOGbLOZENGEbLXbM CUBEDcOHMcOVER SeSQUAREDcSQUAREDbMAbMAHHA
bMAIKURObMAIRUbMANSYONbMARUKUbMBcSMALLbMEETORUbMEGAbMEGATONbMGbMHZbMIKURONbMILbMIRIbMIRIBAARUbMLbMM
cCUBEDcSQUAREDbMOLbMPAbMSbMU AcFcGcLcMcScVcWbMVcMEGAbMWcMEGAbNAbNANObNFbNMbNOTTObNSbNVbNWbONSUbOOMU
bORIGINAL OFdOR EQUAL TOeNOT EQUAL TObOVbPAcAMPSbPAASENTObPAATUbPCbPEEZIbPENIHIbPENSUbPESObPFbPH
bPIASUTORUbPIKObPIKURUbPMbPOINTObPONDObPOSITION INDICATORbPPMbPRbPSbPVbPWbRADcOVER SeSQUAREDbREMU
bRENTOGENbRIGHT OPEN BOX OPERATORbRIRAbRITTORUbROOTbRUPIIbRUUBURUbSAIKURUbSANTIIMUbSENTIbSENTO
bSIRINGUbSRbSVbTARGETbTHZbTONbUONbV OVER MbWATTObWBbWITH BOTTOM HALF BLACKcCONTOURED OUTLINE
cDIAGONAL CROSSHATCH FILLcHORIZONTAL FILLcLEFT HALF BLACKcLOWER LEFT DIAGONAL HALF BLACK
dRIGHT DIAGONAL HALF BLACKcORTHOGONAL CROSSHATCH FILLcRIGHT HALF BLACKcTOP HALF BLACK
cUPPER LEFT DIAGONAL HALF BLACKeTO LOWER RIGHT FILLdRIGHT DIAGONAL HALF BLACKeTO LOWER LEFT FILL
cVERTICAL FILLbYAADObYAARUbYUANaSQUARED ASTERISKbCJK UNIFIED IDEOGRAPH-4E00dIDEOGRAPH-4E09
dIDEOGRAPH-4E2DdIDEOGRAPH-4E8CdIDEOGRAPH-4EA4dIDEOGRAPH-518DdIDEOGRAPH-521DdIDEOGRAPH-524D
dIDEOGRAPH-5272dIDEOGRAPH-53CCdIDEOGRAPH-53F3dIDEOGRAPH-5408dIDEOGRAPH-5439dIDEOGRAPH-55B6
dIDEOGRAPH-58F0dIDEOGRAPH-591AdIDEOGRAPH-5929dIDEOGRAPH-5B57dIDEOGRAPH-5DE6dIDEOGRAPH-5F8C
dIDEOGRAPH-624BdIDEOGRAPH-6253dIDEOGRAPH-6295dIDEOGRAPH-6307dIDEOGRAPH-6355dIDEOGRAPH-6599
dIDEOGRAPH-65B0dIDEOGRAPH-6620dIDEOGRAPH-6708dIDEOGRAPH-6709dIDEOGRAPH-6E80dIDEOGRAPH-6F14
dIDEOGRAPH-7121dIDEOGRAPH-751FdIDEOGRAPH-7533dIDEOGRAPH-7981dIDEOGRAPH-7A7AdIDEOGRAPH-7D42
dIDEOGRAPH-89E3dIDEOGRAPH-8CA9dIDEOGRAPH-8D70dIDEOGRAPH-904AdIDEOGRAPH-914DbCLbCOOLbDOT OPERATOR
bEIGHT KbFALLING DIAGONAL SLASHbFIVE POINT ONEbFOUR DOT PUNCTUATIONcKbFREEbHCbHDRbHI-RESbHVbID
bKATAKANA DEcKOKOcSAbKEYbLATIN CAPITAL LETTER AeBeCeDeEeFeGeHeIeJeKeLeMeNeOePeQeReSeTeUeVeWeXeYeZ
cSMALL LETTER DbLOGICAL ANDcORbLOSSLESSbMINUSbMVbNEWbNGbOKbONE HUNDRED TWENTY PbPLUSbPPV
bRISING DIAGONAL SLASHbSALTIREbSDbSECOND SCREENbSEVEN POINT ONEbSHVbSIXTY PbSMALL CIRCLEbSOSbSQUARE
bSSbTHREE DbTIMESbTWENTY-TWO POINT TWObTWO KbUHDbUP WITH EXCLAMATION MARKbVODbVSbWC
aSQUAT BLACK RIGHTWARDS ARROWaSQUIDaSS2aSS3aSSAaSTaSTADIUMaSTAFF OF AESCULAPIUScHERMES
aSTAMPED ENVELOPEaSTANDING PERSONaSTAR AND CRESCENTbEQUALSbOF DAVIDbOPERATORbWITH LEFT HALF BLACK
cRIGHT HALF BLACKaSTART OF GUARDED AREAcHEADINGcPROTECTED AREAcSELECTED AREAcSTRINGcTEXTaSTATION
aSTATUE OF LIBERTYaSTEAM LOCOMOTIVEaSTEAMING BOWLaSTENOGRAPHIC FULL STOPaSTETHOSCOPEaSTICK FIGURE
cLEANING LEFTdRIGHTcWITH ARMS RAISEDdDRESSaSTOCK CHARTaSTOPWATCHaSTRAIGHT RULERaSTRAIGHTNESS
aSTRAWBERRYaSTRESS OUTLINED WHITE STARaSTRICTLY EQUIVALENT TOaSTRING TERMINATORaSTS
aSTUDIO MICROPHONEaSTUFFED FLATBREADaSTUPAaSTXaSUBaSUBSCRIPT EIGHTbEQUALS SIGNbFIVEbFOUR
bLEFT PARENTHESISbMINUSbNINEbONEbPLUS SIGNbRIGHT PARENTHESISbSEVENbSIXbTHREEbTWObZERO
aSUBSET ABOVE RIGHTWARDS ARROWcSUBSETcSUPERSETbOFcABOVE ALMOST EQUAL TOdEQUALS SIGNdNOT EQUAL TO
dTILDE OPERATORcOR EQUAL TOfWITH DOT ABOVEcWITH NOT EQUAL TObWITH DOTcMULTIPLICATION SIGN BELOW
cPLUS SIGN BELOWaSUBSTITUTEaSUCCEEDSbABOVE ALMOST EQUAL TOcEQUALS SIGNcNOT ALMOST EQUAL TOdEQUAL TO
cSINGLE-LINE EQUALS SIGNdNOT EQUAL TObBUT NOT EQUIVALENT TObOR EQUAL TOcEQUIVALENT TObUNDER RELATION
aSUMMATION BOTTOMbTOPbWITH INTEGRALaSUNbBEHIND CLOUDbWITH FACEaSUNDANESE AVAGRAHA
bCONSONANT SIGN PAMINGKALdPANYAKRAdPANYIKUdPASANGAN MAeWAbDIGIT EIGHTcFIVEcFOURcNINEcONEcSEVENcSIX
cTHREEcTWOcZERObLETTER AcAEcBAcBHAcCAcDAcEcEUcFAcFINAL KdMcGAcHAcIcJAcKAcKHAcLAcLEUcMAcNAcNGAcNYAcO
cPAcQAcRAcREUcSAcSYAcTAcUcVAcWAcXAcYAcZAbPUNCTUATION BINDU BA SATANGAdCAKRAdDA SATANGAdKA SATANGA
dLEU SATANGAdPANGLONGdPURNAMAdSURYAbSIGN PAMAAEHcPANGLAYARcPANGWISADcPANYECEKcVIRAMA
bVOWEL SIGN PAMEPETdPANAELAENGdPANEULEUNGdPANGHULUdPANOLONGdPANYUKUaSUNFLOWERaSUNRISEbOVER MOUNTAINS
aSUNSET OVER BUILDINGSaSUPERHEROaSUPERSCRIPT EIGHTbEQUALS SIGNbFIVEbFOURbLATIN SMALL LETTER IeN
bLEFT PARENTHESISbMINUSbNINEbONEbPLUS SIGNbRIGHT PARENTHESISbSEVENbSIXbTHREEbTWObZERO
aSUPERSET ABOVE LEFTWARDS ARROWcSUBSETcSUPERSETbBESIDE AND JOINED BY DASH WITH SUBSETcSUBSETbOF
cABOVE ALMOST EQUAL TOdEQUALS SIGNdNOT EQUAL TOdTILDE OPERATORcOR EQUAL TOfWITH DOT ABOVE
cWITH NOT EQUAL TObPRECEDING SOLIDUSbWITH DOTcMULTIPLICATION SIGN BELOWcPLUS SIGN BELOWaSUPERVILLAIN
aSURFACE INTEGRALaSURFERaSUSHIaSUSPENSION RAILWAYaSWANaSWASH AMPERSAND ORNAMENTaSWIMMERaSWUNG DASH
aSYLOTI NAGRI LETTER AdBHOdBOdCHOdCOdDDHOdDDOdDHOdDOdEdGHOdGOdHOdIdJHOdJOdKHOdKOdLOdMOdNOdOdPHOdPO
dROdRROdSOdTHOdTOdTTHOdTTOdUcPOETRY MARK-1dMARK-2dMARK-3dMARK-4cSIGN ALTERNATE HASANTAdANUSVARA
dDVISVARAdHASANTAcVOWEL SIGN AeEeIeOOeUaSYMBOL FOR ACKNOWLEDGEcBACKSPACEcBELLcCANCELcCARRIAGE RETURN
cDATA LINK ESCAPEcDELETEdFORM TWOcDEVICE CONTROL FOUReONEeTHREEeTWOcEND OF MEDIUMeTEXTeTRANSMISSION
fBLOCKcENQUIRYcESCAPEcFILE SEPARATORcFORM FEEDcGROUP SEPARATORcHORIZONTAL TABULATIONcLINE FEED
cMARKS CHAPTERcNEGATIVE ACKNOWLEDGEcNEWLINEcNULLcRECORD SEPARATORcSAMARITAN SOURCEcSHIFT INdOUT
cSPACEcSTART OF HEADINGeTEXTcSUBSTITUTEdFORM TWOcSYNCHRONOUS IDLEcTYPE A ELECTRONICScUNIT SEPARATOR
cVERTICAL TABULATIONaSYMMETRYaSYNaSYNAGOGUEaSYNCHRONOUS IDLEaSYRIAC ABBREVIATION MARKbBARREKH
bCOLON SKEWED LEFTdRIGHTbCONTRACTIONbDOTTED ZLAMA ANGULARdHORIZONTALbEND OF PARAGRAPHbESASA ABOVE
cBELOWbFEMININE DOTbHARKLEAN ASTERISCUScMETOBELUScOBELUSbHBASA ABOVEcBELOWbHBASA-ESASA DOTTED
bHORIZONTAL COLONbLETTER ALAPHcBETHcDALATHcDOTLESS DALATH RISHcEcFINAL SEMKATHcGAMALdGARSHUNIcHE
cHETHcKAPHcLAMADHcMALAYALAM BHAdJAdLLAdLLLAdNGAdNNAdNNNAdNYAdRAdSSAdTTAcMIMcNUNcPEcPERSIAN BHETH
dDHALATHdGHAMALcQAPHcREVERSED PEcRISHcSADHEcSEMKATHcSHINcSOGDIAN FEdKHAPHdZHAINcSUPERSCRIPT ALAPH
cTAWcTETHdGARSHUNIcWAWcYUDHdHEcZAINbMUSICbOBLIQUE LINE ABOVEdBELOWbPTHAHA ABOVEcBELOWcDOTTED
bQUSHSHAYAbRBASA ABOVEcBELOWbRUKKAKHAbRWAHAbSUBLINEAR COLONdSKEWED LEFTeRIGHTcFULL STOP
bSUPRALINEAR COLONdSKEWED LEFTcFULL STOPbTHREE DOTS ABOVEdBELOWbTWO VERTICAL DOTS ABOVEeBELOW
bZQAPHA ABOVEcBELOWcDOTTEDaSYRINGEaT-REXaT-SHIRTaTABaTABLE TENNIS PADDLE AND BALLaTACOaTAG AMPERSAND
bAPOSTROPHEbASTERISKbCIRCUMFLEX ACCENTbCOLONbCOMMAbCOMMERCIAL ATbDIGIT EIGHTcFIVEcFOURcNINEcONE
cSEVENcSIXcTHREEcTWOcZERObDOLLAR SIGNbEQUALS SIGNbEXCLAMATION MARKbFULL STOPbGRAVE ACCENT
bGREATER-THAN SIGNbHYPHEN-MINUSbLATIN CAPITAL LETTER AeBeCeDeEeFeGeHeIeJeKeLeMeNeOePeQeReSeTeUeVeWeX
eYeZcSMALL LETTER AeBeCeDeEeFeGeHeIeJeKeLeMeNeOePeQeReSeTeUeVeWeXeYeZbLEFT CURLY BRACKETcPARENTHESIS
cSQUARE BRACKETbLESS-THAN SIGNbLOW LINEbNUMBER SIGNbPERCENT SIGNbPLUS SIGNbQUESTION MARK
bQUOTATION MARKbREVERSE SOLIDUSbRIGHT CURLY BRACKETcPARENTHESIScSQUARE BRACKETbSEMICOLONbSOLIDUS
bSPACEbTILDEbVERTICAL LINEaTAGALOG LETTER AcARCHAIC RAcBAcDAcGAcHAcIcKAcLAcMAcNAcNGAcPAcRAcSAcTAcU
cWAcYAbSIGN PAMUDPODcVIRAMAbVOWEL SIGN IdUaTAGBANWA LETTER AcBAcDAcGAcIcKAcLAcMAcNAcNGAcPAcSAcTAcU
cWAcYAbVOWEL SIGN IdUaTAI LE LETTER AdAIdAUEdEdEEdEHdFAdHAdIdKAdKHAdLAdMAdNAdNGAdOdOOdPAdPHAdQAdSA
dTAdTHAdTONE-2dTONE-3dTONE-4dTONE-5dTONE-6dTSAdTSHAdUdUEdVAdXAdYAbTHAM COMBINING CRYPTOGRAMMIC DOT
cCONSONANT SIGN BAeFINAL NGAeHIGH RATHA OR LOW PAeLA TANG LAIeLOW PAeMAeMEDIAL LAfRAeSA
cHORA DIGIT EIGHTeFIVEeFOUReNINEeONEeSEVENeSIXeTHREEeTWOeZEROcLETTER AdBAdDAdEEdGREAT SAdHIGH CAeCHA
eFAeHAeKAeKHAeKXAePAePHAeRATHAeSAeSHAeSSAeTAeTHAeYAdIdIIdLAdLAEdLLAdLOW CAeCHAeFAeHAeKAeKHAeKXAePA
ePHAeRATHAeSAeTAeTHAeYAdLUEdMAdNAdNGAdNYAdOOdRAdRANAdRATAdRUEdUdUUdWAcSIGN CAANGdDOKMAIdHANGdHOY
dKAANdKAANKUUdKEOWdKHUEN TONE-3eTONE-4eTONE-5dKHUEN-LUE KARANdMAI KANGfLAIeSAMeYAMOKdRA HAAM
dREVERSED ROTATED RANAdSAKOTdSATKAANdSATKAANKUUdSAWANdTONE-1dTONE-2dWIANGdWIANGWAAKcTHAM DIGIT EIGHT
eFIVEeFOUReNINEeONEeSEVENeSIXeTHREEeTWOeZEROcVOWEL SIGN AeAAeAEeAIeEeIeIIeMAI SATeOeOA ABOVEfBELOW
eOOeOYeTALL AAeTHAM AIeUeUEeUUeUUEbVIET LETTER HIGH BOeCHOeCOeDOeFOeGOeHOeKHHOeKHOeKOeLOeMOeNGOeNO
eNYOeOePHOePOeROeSOeTHOeTOeVOeYOdLOW BOeCHOeCOeDOeFOeGOeHOeKHHOeKHOeKOeLOeMOeNGOeNOeNYOeOePHOePOeRO
eSOeTHOeTOeVOeYOcMAI KANGdKHITcSYMBOL HO HOIdKOI KOIdKONdNUENGdSAMcTONE MAI EKeNUENGeSONGeTHO
cVOWEL AAdAMdANdAUEdAYdEdIdIAdOdUdUAdUEdUEAaTAKEOUT BOXaTAKRI ABBREVIATION SIGNbDIGIT EIGHTcFIVE
cFOURcNINEcONEcSEVENcSIXcTHREEcTWOcZERObLETTER AcAAcAIcARCHAIC KHAcAUcBAcBHAcCAcCHAcDAcDDAcDDHAcDHA
cEcGAcGHAcHAcIcIIcJAcJHAcKAcKHAcLAcMAcNAcNGAcNNAcNYAcOcPAcPHAcRAcRRAcSAcSHAcTAcTHAcTTAcTTHAcUcUUcVA
cYAbSIGN ANUSVARAcNUKTAcVIRAMAcVISARGAbVOWEL SIGN AAdAIdAUdEdIdIIdOdUdUUaTALLY MARK FIVEcONEaTAMALE
aTAMIL AND ODD SIGNbAS ABOVE SIGNbAU LENGTH MARKbCREDIT SIGNbCURRENT SIGNbDAY SIGNbDEBIT SIGN
bDIGIT EIGHTcFIVEcFOURcNINEcONEcSEVENcSIXcTHREEcTWOcZERObDRY CULTIVATION SIGN
bFRACTION DOWNSCALING FACTOR KIIZHcONE EIGHTHdEIGHTIETHdFIFTHdFORTIETHdHALF-1dHALF-2
dONE-HUNDRED-AND-SIXTIETHdQUARTERdSIXTEENTH-1dSIXTEENTH-2dSIXTY-FOURTHdTENTHdTHIRTY-SECOND
dTHREE-HUNDRED-AND-TWENTIETHdTWENTIETHcTHREE EIGHTIETHSdQUARTERSdSIXTEENTHSdSIXTY-FOURTHSdTWENTIETHS
bIN POSSESSION SIGNbLAND SIGNbLETTER AcAAcAIcAUcCAcEcEEcHAcIcIIcJAcKAcLAcLLAcLLLAcMAcNAcNGAcNNAcNNNA
cNYAcOcOOcPAcRAcRRAcSAcSHAcSSAcTAcTTAcUcUUcVAcYAbMONTH SIGNbNUMBER ONE HUNDREDdTHOUSANDcSIGNcTENbOM
bPUNCTUATION END OF TEXTbRUPEE SIGNbSALT PAN SIGNbSIGN AAZHAAKKUcANUSVARAcCEVITUcKAACUcKURUNIcKUZHI
cMUKKURUNIcMUTHALIYAcMUUVUZHAKKUcNELcPAARAMcPANAMcPATHAKKUcPONcUZHAKKUcVAKAIYARAAcVARAAKANcVELI
cVIRAMAcVISARGAbSPENT SIGNbSTARTING FROM SIGNbTOTAL SIGNbTRADITIONAL CREDIT SIGNcNUMBER SIGN
bVOWEL SIGN AAdAIdAUdEdEEdIdIIdOdOOdUdUUbWET CULTIVATION SIGNbYEAR SIGNaTANABATA TREEaTANGERINE
aTANGSA DIGIT EIGHTcFIVEcFOURcNINEcONEcSEVENcSIXcTHREEcTWOcZERObLETTER ACcAQcAWCcAWQcAWXcAWZcAXcAZ
cBAcCAcCHAcDAcDHAcECcEQcEXcEZcFAcFINAL NGcGAcGHAcHAcHTAcHTTAcICcIQcIXcIZcKAcKHAcLAcLONG UEXcMAcMCcMQ
cMXcMZcNAcNGAcNHAcNYAcOCcOQcOXcOZcPAcPHAcRAcSAcSHAcSHORT AWXdUEZcTAcTHAcTSAcUCcUECcUEQcUEXcUEZcUIC
cUIQcUIUCcUIUQcUIUXcUIUZcUIXcUIZcUQcUXcUZcVCcVQcVXcVZcWAcXAcYAcZAaTANGUT COMPONENT-001bCOMPONENT-002
bCOMPONENT-003bCOMPONENT-004bCOMPONENT-005bCOMPONENT-006bCOMPONENT-007bCOMPONENT-008bCOMPONENT-009
bCOMPONENT-010bCOMPONENT-011bCOMPONENT-012bCOMPONENT-013bCOMPONENT-014bCOMPONENT-015bCOMPONENT-016
bCOMPONENT-017bCOMPONENT-018bCOMPONENT-019bCOMPONENT-020bCOMPONENT-021bCOMPONENT-022bCOMPONENT-023
bCOMPONENT-024bCOMPONENT-025bCOMPONENT-026bCOMPONENT-027bCOMPONENT-028bCOMPONENT-029bCOMPONENT-030
bCOMPONENT-031bCOMPONENT-032bCOMPONENT-033bCOMPONENT-034bCOMPONENT-035bCOMPONENT-036bCOMPONENT-037
bCOMPONENT-038bCOMPONENT-039bCOMPONENT-040bCOMPONENT-041bCOMPONENT-042bCOMPONENT-043bCOMPONENT-044
bCOMPONENT-045bCOMPONENT-046bCOMPONENT-047bCOMPONENT-048bCOMPONENT-049bCOMPONENT-050bCOMPONENT-051
bCOMPONENT-052bCOMPONENT-053bCOMPONENT-054bCOMPONENT-055bCOMPONENT-056bCOMPONENT-057bCOMPONENT-058
bCOMPONENT-059bCOMPONENT-060bCOMPONENT-061bCOMPONENT-062bCOMPONENT-063bCOMPONENT-064bCOMPONENT-065
bCOMPONENT-066bCOMPONENT-067bCOMPONENT-068bCOMPONENT-069bCOMPONENT-070bCOMPONENT-071bCOMPONENT-072
bCOMPONENT-073bCOMPONENT-074bCOMPONENT-075bCOMPONENT-076bCOMPONENT-077bCOMPONENT-078bCOMPONENT-079
bCOMPONENT-080bCOMPONENT-081bCOMPONENT-082bCOMPONENT-083bCOMPONENT-084bCOMPONENT-085bCOMPONENT-086
bCOMPONENT-087bCOMPONENT-088bCOMPONENT-089bCOMPONENT-090bCOMPONENT-091bCOMPONENT-092bCOMPONENT-093
bCOMPONENT-094bCOMPONENT-095bCOMPONENT-096bCOMPONENT-097bCOMPONENT-098bCOMPONENT-099bCOMPONENT-100
bCOMPONENT-101bCOMPONENT-102bCOMPONENT-103bCOMPONENT-104bCOMPONENT-105bCOMPONENT-106bCOMPONENT-107
bCOMPONENT-108bCOMPONENT-109bCOMPONENT-110bCOMPONENT-111bCOMPONENT-112bCOMPONENT-113bCOMPONENT-114
bCOMPONENT-115bCOMPONENT-116bCOMPONENT-117bCOMPONENT-118bCOMPONENT-119bCOMPONENT-120bCOMPONENT-121
bCOMPONENT-122bCOMPONENT-123bCOMPONENT-124bCOMPONENT-125bCOMPONENT-126bCOMPONENT-127bCOMPONENT-128
bCOMPONENT-129bCOMPONENT-130bCOMPONENT-131bCOMPONENT-132bCOMPONENT-133bCOMPONENT-134bCOMPONENT-135
bCOMPONENT-136bCOMPONENT-137bCOMPONENT-138bCOMPONENT-139bCOMPONENT-140bCOMPONENT-141bCOMPONENT-142
bCOMPONENT-143bCOMPONENT-144bCOMPONENT-145bCOMPONENT-146bCOMPONENT-147bCOMPONENT-148bCOMPONENT-149
bCOMPONENT-150bCOMPONENT-151bCOMPONENT-152bCOMPONENT-153bCOMPONENT-154bCOMPONENT-155bCOMPONENT-156
bCOMPONENT-157bCOMPONENT-158bCOMPONENT-159bCOMPONENT-160bCOMPONENT-161bCOMPONENT-162bCOMPONENT-163
bCOMPONENT-164bCOMPONENT-165bCOMPONENT-166bCOMPONENT-167bCOMPONENT-168bCOMPONENT-169bCOMPONENT-170
bCOMPONENT-171bCOMPONENT-172bCOMPONENT-173bCOMPONENT-174bCOMPONENT-175bCOMPONENT-176bCOMPONENT-177
bCOMPONENT-178bCOMPONENT-179bCOMPONENT-180bCOMPONENT-181bCOMPONENT-182bCOMPONENT-183bCOMPONENT-184
bCOMPONENT-185bCOMPONENT-186bCOMPONENT-187bCOMPONENT-188bCOMPONENT-189bCOMPONENT-190bCOMPONENT-191
bCOMPONENT-192bCOMPONENT-193bCOMPONENT-194bCOMPONENT-195bCOMPONENT-196bCOMPONENT-197bCOMPONENT-198
bCOMPONENT-199bCOMPONENT-200bCOMPONENT-201bCOMPONENT-202bCOMPONENT-203bCOMPONENT-204bCOMPONENT-205
bCOMPONENT-206bCOMPONENT-207bCOMPONENT-208bCOMPONENT-209bCOMPONENT-210bCOMPONENT-211bCOMPONENT-212
bCOMPONENT-213bCOMPONENT-214bCOMPONENT-215bCOMPONENT-216bCOMPONENT-217bCOMPONENT-218bCOMPONENT-219
bCOMPONENT-220bCOMPONENT-221bCOMPONENT-222bCOMPONENT-223bCOMPONENT-224bCOMPONENT-225bCOMPONENT-226
bCOMPONENT-227bCOMPONENT-228bCOMPONENT-229bCOMPONENT-230bCOMPONENT-231bCOMPONENT-232bCOMPONENT-233
bCOMPONENT-234bCOMPONENT-235bCOMPONENT-236bCOMPONENT-237bCOMPONENT-238bCOMPONENT-239bCOMPONENT-240
bCOMPONENT-241bCOMPONENT-242bCOMPONENT-243bCOMPONENT-244bCOMPONENT-245bCOMPONENT-246bCOMPONENT-247
bCOMPONENT-248bCOMPONENT-249bCOMPONENT-250bCOMPONENT-251bCOMPONENT-252bCOMPONENT-253bCOMPONENT-254
bCOMPONENT-255bCOMPONENT-256bCOMPONENT-257bCOMPONENT-258bCOMPONENT-259bCOMPONENT-260bCOMPONENT-261
bCOMPONENT-262bCOMPONENT-263bCOMPONENT-264bCOMPONENT-265bCOMPONENT-266bCOMPONENT-267bCOMPONENT-268
bCOMPONENT-269bCOMPONENT-270bCOMPONENT-271bCOMPONENT-272bCOMPONENT-273bCOMPONENT-274bCOMPONENT-275
bCOMPONENT-276bCOMPONENT-277bCOMPONENT-278bCOMPONENT-279bCOMPONENT-280bCOMPONENT-281bCOMPONENT-282
bCOMPONENT-283bCOMPONENT-284bCOMPONENT-285bCOMPONENT-286bCOMPONENT-287bCOMPONENT-288bCOMPONENT-289
bCOMPONENT-290bCOMPONENT-291bCOMPONENT-292bCOMPONENT-293bCOMPONENT-294bCOMPONENT-295bCOMPONENT-296
bCOMPONENT-297bCOMPONENT-298bCOMPONENT-299bCOMPONENT-300bCOMPONENT-301bCOMPONENT-302bCOMPONENT-303
bCOMPONENT-304bCOMPONENT-305bCOMPONENT-306bCOMPONENT-307bCOMPONENT-308bCOMPONENT-309bCOMPONENT-310
bCOMPONENT-311bCOMPONENT-312bCOMPONENT-313bCOMPONENT-314bCOMPONENT-315bCOMPONENT-316bCOMPONENT-317
bCOMPONENT-318bCOMPONENT-319bCOMPONENT-320bCOMPONENT-321bCOMPONENT-322bCOMPONENT-323bCOMPONENT-324
bCOMPONENT-325bCOMPONENT-326bCOMPONENT-327bCOMPONENT-328bCOMPONENT-329bCOMPONENT-330bCOMPONENT-331
bCOMPONENT-332bCOMPONENT-333bCOMPONENT-334bCOMPONENT-335bCOMPONENT-336bCOMPONENT-337bCOMPONENT-338
bCOMPONENT-339bCOMPONENT-340bCOMPONENT-341bCOMPONENT-342bCOMPONENT-343bCOMPONENT-344bCOMPONENT-345
bCOMPONENT-346bCOMPONENT-347bCOMPONENT-348bCOMPONENT-349bCOMPONENT-350bCOMPONENT-351bCOMPONENT-352
bCOMPONENT-353bCOMPONENT-354bCOMPONENT-355bCOMPONENT-356bCOMPONENT-357bCOMPONENT-358bCOMPONENT-359
bCOMPONENT-360bCOMPONENT-361bCOMPONENT-362bCOMPONENT-363bCOMPONENT-364bCOMPONENT-365bCOMPONENT-366
bCOMPONENT-367bCOMPONENT-368bCOMPONENT-369bCOMPONENT-370bCOMPONENT-371bCOMPONENT-372bCOMPONENT-373
bCOMPONENT-374bCOMPONENT-375bCOMPONENT-376bCOMPONENT-377bCOMPONENT-378bCOMPONENT-379bCOMPONENT-380
bCOMPONENT-381bCOMPONENT-382bCOMPONENT-383bCOMPONENT-384bCOMPONENT-385bCOMPONENT-386bCOMPONENT-387
bCOMPONENT-388bCOMPONENT-389bCOMPONENT-390bCOMPONENT-391bCOMPONENT-392bCOMPONENT-393bCOMPONENT-394
bCOMPONENT-395bCOMPONENT-396bCOMPONENT-397bCOMPONENT-398bCOMPONENT-399bCOMPONENT-400bCOMPONENT-401
bCOMPONENT-402bCOMPONENT-403bCOMPONENT-404bCOMPONENT-405bCOMPONENT-406bCOMPONENT-407bCOMPONENT-408
bCOMPONENT-409bCOMPONENT-410bCOMPONENT-411bCOMPONENT-412bCOMPONENT-413bCOMPONENT-414bCOMPONENT-415
bCOMPONENT-416bCOMPONENT-417bCOMPONENT-418bCOMPONENT-419bCOMPONENT-420bCOMPONENT-421bCOMPONENT-422
bCOMPONENT-423bCOMPONENT-424bCOMPONENT-425bCOMPONENT-426bCOMPONENT-427bCOMPONENT-428bCOMPONENT-429
bCOMPONENT-430bCOMPONENT-431bCOMPONENT-432bCOMPONENT-433bCOMPONENT-434bCOMPONENT-435bCOMPONENT-436
bCOMPONENT-437bCOMPONENT-438bCOMPONENT-439bCOMPONENT-440bCOMPONENT-441bCOMPONENT-442bCOMPONENT-443
bCOMPONENT-444bCOMPONENT-445bCOMPONENT-446bCOMPONENT-447bCOMPONENT-448bCOMPONENT-449bCOMPONENT-450
bCOMPONENT-451bCOMPONENT-452bCOMPONENT-453bCOMPONENT-454bCOMPONENT-455bCOMPONENT-456bCOMPONENT-457
bCOMPONENT-458bCOMPONENT-459bCOMPONENT-460bCOMPONENT-461bCOMPONENT-462bCOMPONENT-463bCOMPONENT-464
bCOMPONENT-465bCOMPONENT-466bCOMPONENT-467bCOMPONENT-468bCOMPONENT-469bCOMPONENT-470bCOMPONENT-471
bCOMPONENT-472bCOMPONENT-473bCOMPONENT-474bCOMPONENT-475bCOMPONENT-476bCOMPONENT-477bCOMPONENT-478
bCOMPONENT-479bCOMPONENT-480bCOMPONENT-481bCOMPONENT-482bCOMPONENT-483bCOMPONENT-484bCOMPONENT-485
bCOMPONENT-486bCOMPONENT-487bCOMPONENT-488bCOMPONENT-489bCOMPONENT-490bCOMPONENT-491bCOMPONENT-492
bCOMPONENT-493bCOMPONENT-494bCOMPONENT-495bCOMPONENT-496bCOMPONENT-497bCOMPONENT-498bCOMPONENT-499
bCOMPONENT-500bCOMPONENT-501bCOMPONENT-502bCOMPONENT-503bCOMPONENT-504bCOMPONENT-505bCOMPONENT-506
bCOMPONENT-507bCOMPONENT-508bCOMPONENT-509bCOMPONENT-510bCOMPONENT-511bCOMPONENT-512bCOMPONENT-513
bCOMPONENT-514bCOMPONENT-515bCOMPONENT-516bCOMPONENT-517bCOMPONENT-518bCOMPONENT-519bCOMPONENT-520
bCOMPONENT-521bCOMPONENT-522bCOMPONENT-523bCOMPONENT-524bCOMPONENT-525bCOMPONENT-526bCOMPONENT-527
bCOMPONENT-528bCOMPONENT-529bCOMPONENT-530bCOMPONENT-531bCOMPONENT-532bCOMPONENT-533bCOMPONENT-534
bCOMPONENT-535bCOMPONENT-536bCOMPONENT-537bCOMPONENT-538bCOMPONENT-539bCOMPONENT-540bCOMPONENT-541
bCOMPONENT-542bCOMPONENT-543bCOMPONENT-544bCOMPONENT-545bCOMPONENT-546bCOMPONENT-547bCOMPONENT-548
bCOMPONENT-549bCOMPONENT-550bCOMPONENT-551bCOMPONENT-552bCOMPONENT-553bCOMPONENT-554bCOMPONENT-555
bCOMPONENT-556bCOMPONENT-557bCOMPONENT-558bCOMPONENT-559bCOMPONENT-560bCOMPONENT-561bCOMPONENT-562
bCOMPONENT-563bCOMPONENT-564bCOMPONENT-565bCOMPONENT-566bCOMPONENT-567bCOMPONENT-568bCOMPONENT-569
bCOMPONENT-570bCOMPONENT-571bCOMPONENT-572bCOMPONENT-573bCOMPONENT-574bCOMPONENT-575bCOMPONENT-576
bCOMPONENT-577bCOMPONENT-578bCOMPONENT-579bCOMPONENT-580bCOMPONENT-581bCOMPONENT-582bCOMPONENT-583
bCOMPONENT-584bCOMPONENT-585bCOMPONENT-586bCOMPONENT-587bCOMPONENT-588bCOMPONENT-589bCOMPONENT-590
bCOMPONENT-591bCOMPONENT-592bCOMPONENT-593bCOMPONENT-594bCOMPONENT-595bCOMPONENT-596bCOMPONENT-597
bCOMPONENT-598bCOMPONENT-599bCOMPONENT-600bCOMPONENT-601bCOMPONENT-602bCOMPONENT-603bCOMPONENT-604
bCOMPONENT-605bCOMPONENT-606bCOMPONENT-607bCOMPONENT-608bCOMPONENT-609bCOMPONENT-610bCOMPONENT-611
bCOMPONENT-612bCOMPONENT-613bCOMPONENT-614bCOMPONENT-615bCOMPONENT-616bCOMPONENT-617bCOMPONENT-618
bCOMPONENT-619bCOMPONENT-620bCOMPONENT-621bCOMPONENT-622bCOMPONENT-623bCOMPONENT-624bCOMPONENT-625
bCOMPONENT-626bCOMPONENT-627bCOMPONENT-628bCOMPONENT-629bCOMPONENT-630bCOMPONENT-631bCOMPONENT-632
bCOMPONENT-633bCOMPONENT-634bCOMPONENT-635bCOMPONENT-636bCOMPONENT-637bCOMPONENT-638bCOMPONENT-639
bCOMPONENT-640bCOMPONENT-641bCOMPONENT-642bCOMPONENT-643bCOMPONENT-644bCOMPONENT-645bCOMPONENT-646
bCOMPONENT-647bCOMPONENT-648bCOMPONENT-649bCOMPONENT-650bCOMPONENT-651bCOMPONENT-652bCOMPONENT-653
bCOMPONENT-654bCOMPONENT-655bCOMPONENT-656bCOMPONENT-657bCOMPONENT-658bCOMPONENT-659bCOMPONENT-660
bCOMPONENT-661bCOMPONENT-662bCOMPONENT-663bCOMPONENT-664bCOMPONENT-665bCOMPONENT-666bCOMPONENT-667
bCOMPONENT-668bCOMPONENT-669bCOMPONENT-670bCOMPONENT-671bCOMPONENT-672bCOMPONENT-673bCOMPONENT-674
bCOMPONENT-675bCOMPONENT-676bCOMPONENT-677bCOMPONENT-678bCOMPONENT-679bCOMPONENT-680bCOMPONENT-681
bCOMPONENT-682bCOMPONENT-683bCOMPONENT-684bCOMPONENT-685bCOMPONENT-686bCOMPONENT-687bCOMPONENT-688
bCOMPONENT-689bCOMPONENT-690bCOMPONENT-691bCOMPONENT-692bCOMPONENT-693bCOMPONENT-694bCOMPONENT-695
bCOMPONENT-696bCOMPONENT-697bCOMPONENT-698bCOMPONENT-699bCOMPONENT-700bCOMPONENT-701bCOMPONENT-702
bCOMPONENT-703bCOMPONENT-704bCOMPONENT-705bCOMPONENT-706bCOMPONENT-707bCOMPONENT-708bCOMPONENT-709
bCOMPONENT-710bCOMPONENT-711bCOMPONENT-712bCOMPONENT-713bCOMPONENT-714bCOMPONENT-715bCOMPONENT-716
bCOMPONENT-717bCOMPONENT-718bCOMPONENT-719bCOMPONENT-720bCOMPONENT-721bCOMPONENT-722bCOMPONENT-723
bCOMPONENT-724bCOMPONENT-725bCOMPONENT-726bCOMPONENT-727bCOMPONENT-728bCOMPONENT-729bCOMPONENT-730
bCOMPONENT-731bCOMPONENT-732bCOMPONENT-733bCOMPONENT-734bCOMPONENT-735bCOMPONENT-736bCOMPONENT-737
bCOMPONENT-738bCOMPONENT-739bCOMPONENT-740bCOMPONENT-741bCOMPONENT-742bCOMPONENT-743bCOMPONENT-744
bCOMPONENT-745bCOMPONENT-746bCOMPONENT-747bCOMPONENT-748bCOMPONENT-749bCOMPONENT-750bCOMPONENT-751
bCOMPONENT-752bCOMPONENT-753bCOMPONENT-754bCOMPONENT-755bCOMPONENT-756bCOMPONENT-757bCOMPONENT-758
bCOMPONENT-759bCOMPONENT-760bCOMPONENT-761bCOMPONENT-762bCOMPONENT-763bCOMPONENT-764bCOMPONENT-765
bCOMPONENT-766bCOMPONENT-767bCOMPONENT-768bITERATION MARKaTAPE CARTRIDGEbDRIVEaTAURUSaTAXI
aTEACUP WITHOUT HANDLEaTEAPOTaTEAR-OFF CALENDARaTEARDROP-BARBED RIGHTWARDS ARROW
aTEARDROP-SPOKED ASTERISKaTEDDY BEARaTELEPHONE LOCATION SIGNbON TOP OF MODEMbRECEIVERcWITH PAGE
bRECORDERbSIGNaTELESCOPEaTELEVISIONaTELUGU AI LENGTH MARKbDIGIT EIGHTcFIVEcFOURcNINEcONEcSEVENcSIX
cTHREEcTWOcZERObFRACTION DIGIT ONE FOR EVEN POWERS OF FOURfODD POWERS OF FOUR
dTHREE FOR EVEN POWERS OF FOURfODD POWERS OF FOURdTWO FOR EVEN POWERS OF FOURfODD POWERS OF FOUR
dZERO FOR ODD POWERS OF FOURbLENGTH MARKbLETTER AcAAcAIcAUcBAcBHAcCAcCHAcDAcDDAcDDHAcDHAcDZAcEcEEcGA
cGHAcHAcIcIIcJAcJHAcKAcKHAcLAcLLAcLLLAcMAcNAcNAKAARA POLLUcNGAcNNAcNYAcOcOOcPAcPHAcRAcRRAcRRRAcSA
cSHAcSSAcTAcTHAcTSAcTTAcTTHAcUcUUcVAcVOCALIC LdLLdRdRRcYAbSIGN ANUSVARAcAVAGRAHAcCANDRABINDU
cCOMBINING ANUSVARA ABOVEdCANDRABINDU ABOVEcNUKTAcSIDDHAMcTUUMUcVIRAMAcVISARGAbVOWEL SIGN AAdAIdAUdE
dEEdIdIIdOdOOdUdUUdVOCALIC LeLLeReRRaTENGE SIGNaTENNIS RACQUET AND BALLaTENTaTEST TUBE
aTETRAGRAM FOR ACCUMULATIONcADVANCEcAGGRAVATIONcASCENTcBARRIERcBOLD RESOLUTIONcBRANCHING OUTcCENTRE
cCHANGEcCLOSED MOUTHcCLOSENESScCLOSUREcCOMPLETIONcCOMPLIANCEcCONSTANCYcCONTACTcCONTENTION
cCONTRARIETYcDARKENINGcDECISIVENESScDEFECTIVENESS OR DISTORTIONcDEPARTUREcDIFFICULTIEScDIMINISHMENT
cDIMMINGcDIVERGENCEcDOUBTcDUTIEScEASEcEMBELLISHMENTcENCOUNTERScENDEAVOURcENLARGEMENTcETERNITY
cEXHAUSTIONcFAILUREcFLIGHTcFOLLOWINGcFOSTERINGcFULL CIRCLEcFULLNESScGATHERINGdINcGOING TO MEET
cGREATNESScGUARDEDNESScHARDNESScHOLDING BACKcINCREASEcINNERcJOYcKEEPING SMALLcKINSHIPcLABOURING
cLAW OR MODELcLEGIONcMASSINGcMEASUREcMIREDcON THE VERGEcOPPOSITIONcPACKINGcPATTERNcPENETRATION
cPURITYcREACHcRELEASEcRESIDENCEcRESISTANCEcRESPONSEcRITUALcSEVERANCEcSINKINGcSTOPPAGEcSTOVEcSTRENGTH
cUNITYcVASTNESS OR WASTINGcWAITINGcWATCHcYOUTHFULNESSaTHAANA AABAAFILIbABAFILIbEBEFILIbEEBEEFILI
bEYBEYFILIbIBIFILIbLETTER AINUcALIFUcBAAcCHAVIYANIcDAADHUcDAVIYANIcDHAALUcFAAFUcGAAFUcGHAINU
cGNAVIYANIcHAAcHHAAcJAVIYANIcKAAFUcKHAAcLAAMUcLHAVIYANIcMEEMUcNAAcNOONUcPAVIYANIcQAAFUcRAAcSAADHU
cSEENUcSHAVIYANIcSHEENUcTAVIYANIcTHAAcTHAALUcTOcTTAAcVAAVUcWAAVUcYAAcZAAcZAVIYANIcZObOABOAFILI
bOBOFILIbOOBOOFILIbSUKUNbUBUFILIaTHAI CHARACTER ANGKHANKHUcBO BAIMAIcCHO CHANdCHANGdCHINGdCHOE
cDO CHADAdDEKcFO FAdFANcFONGMANcHO HIPdNOKHUKcKHO KHAIdKHONdKHUATdKHWAIdRAKHANGcKHOMUTcKO KAI
cLAKKHANGYAOcLO CHULAdLINGcLUcMAI CHATTAWAdEKdHAN-AKATdTHOdTRIcMAITAIKHUcMAIYAMOKcMO MAcNGO NGU
cNIKHAHITcNO NENdNUcO ANGcPAIYANNOIcPHINTHUcPHO PHANdPHUNGdSAMPHAOcPO PLAcRO RUAcRUcSARA AdAAdAE
dAI MAIMALAIeMAIMUANdAMdEdIdIIdOdUdUEdUEEdUUcSO RUSIdSALAdSOdSUAcTHANTHAKHATcTHO NANGMONTHOdPHUTHAO
dTHAHANdTHANdTHONGdTHUNGcTO PATAKdTAOcWO WAENcYAMAKKANcYO YAKdYINGbCURRENCY SYMBOL BAHTbDIGIT EIGHT
cFIVEcFOURcNINEcONEcSEVENcSIXcTHREEcTWOcZEROaTHERE DOES NOT EXISTbEXISTSaTHEREFOREaTHERMODYNAMIC
aTHERMOMETERaTHIN GREEK CROSSbSALTIREbSPACEaTHINKING FACEaTHIRD PLACE MEDALaTHONG SANDAL
aTHOUGHT BALLOONaTHREE BUTTON MOUSEbCONSECUTIVE EQUALS SIGNSbDIMENSIONAL ANGLEbDOT PUNCTUATION
bLEFTWARDS ARROWSbLINES CONVERGING LEFTdRIGHTbNETWORKED COMPUTERSbPOINTED BLACK STARbRAYS ABOVE
cBELOWcLEFTcRIGHTbRIGHTWARDS ARROWSbSPEECH BUBBLESaTHREE-D BOTTOM-LIGHTED RIGHTWARDS ARROWHEAD
bLEFT-LIGHTED DOWNWARDS EQUILATERAL ARROWHEADbRIGHT-LIGHTED UPWARDS EQUILATERAL ARROWHEAD
bTOP-LIGHTED LEFTWARDS EQUILATERAL ARROWHEADcRIGHTWARDS ARROWHEADdEQUILATERAL ARROWHEAD
aTHREE-EM DASHaTHREE-PER-EM SPACEaTHUMBS DOWN SIGNbUP SIGNaTHUNDER CLOUD AND RAINaTHUNDERSTORM
aTIBETAN ASTROLOGICAL SIGN -KHYUD PAdSDONG TSHUGSdSGRA GCAN -CHAR RTAGSbCANTILLATION SIGN CANG TE-U
dHEAVY BEATdLIGHT BEATdSBUB -CHALbDIGIT EIGHTcFIVEcFOURcHALF EIGHTdFIVEdFOURdNINEdONEdSEVENdSIX
dTHREEdTWOdZEROcNINEcONEcSEVENcSIXcTHREEcTWOcZERObKU RU KHAeBZHI MIG CANbLETTER -AcAcBAcBHAcCAcCHA
cDAcDDAcDDHAcDHAcDZAcDZHAcFIXED-FORM RAcGAcGHAcHAcJAcKAcKHAcKKAcKSSAcLAcMAcNAcNGAcNNAcNYAcPAcPHAcRA
cRRAcSAcSHAcSSAcTAcTHAcTSAcTSHAcTTAcTTHAcWAcYAcZAcZHAbLOGOTYPE SIGN CHAD RTAGSdLHAG RTAGS
bMARK ANG KHANG GYASeGYONcBKA- SHOG GI MGO RGYANeYIG MGOcBSDUS RTAGScBSKA- SHOG GI MGO RGYAN
cBSKUR YIG MGOcCARET -DZUD RTAGS BZHI MIG CANfME LONG CANdYIG MGO PHUR SHAD MAcCHE MGO
cCLOSING BRDA RNYING YIG MGO SGAB MAdYIG MGO SGAB MAcDELIMITER TSHEG BSTARcGTER TSHEG
dYIG MGO -UM GTER TSHEG MAgRNAM BCAD MAfTRUNCATED AcGUG RTAGS GYASeGYONcHALANTA
cINITIAL BRDA RNYING YIG MGO MDUN MAdYIG MGO MDUN MAcINTERSYLLABIC TSHEGcLEADING MCHAN RTAGS
cMNYAM YIG GI MGO RGYANcNGAS BZUNG NYI ZLAeSGOR RTAGScNYIS SHADdTSHEGeSHADcPALUTAcRGYA GRAM SHAD
cRIN CHEN SPUNGS SHADcSBRUL SHADcSHADcTRAILING MCHAN RTAGScTSA -PHRUcTSHEG SHAD
cYIG MGO TSHEG SHAD MAbSIGN GRU CAN RGYINGSdMED RGYINGScINVERTED MCHU CANcLCE TSA CANcLCI RTAGS
cMAR TSHEScMCHU CANcNYI ZLA NAA DAcRDEL DKAR GCIGeGNYISeGSUMeRDEL NAGdNAG GCIGeGNYISeGSUMeRDEL DKAR
cRJES SU NGA ROcRNAM BCADcSNA LDANcYANG RTAGScYAR TSHESbSUBJOINED LETTER -AdAdBAdBHAdCAdCHAdDAdDDA
dDDHAdDHAdDZAdDZHAdFIXED-FORM RAeWAeYAdGAdGHAdHAdJAdKAdKHAdKSSAdLAdMAdNAdNGAdNNAdNYAdPAdPHAdRAdSA
dSHAdSSAdTAdTHAdTSAdTSHAdTTAdTTHAdWAdYAdZAdZHAcSIGN INVERTED MCHU CANdLCE TSA CANdMCHU CAN
bSYLLABLE OMbSYMBOL DRIL BUcNOR BUeBZHI -KHYILeGSUM -KHYILeNYIS -KHYILcPADMA GDANcPHUR PAcRDO RJE
eRGYA GRAMbVOWEL SIGN AAdEdEEdIdIIdOdOOdREVERSED IeIIdUdUUdVOCALIC LeLLeReRRaTICKET
aTIE OVER INFINITYaTIFINAGH CONSONANT JOINERbLETTER AHAGGAR YAZHcAYER YAGHcBERBER ACADEMY YAHeYAJ
cTAWELLEMET YAZcTUAREG YAGHdYAGNdYAHdYAKdYAKHdYANGdYAQdYAZHcYAcYAAcYABcYABHcYACHcYADcYADDcYADDHcYADH
cYAFcYAGcYAGHcYAGHHcYAHcYAHHcYAJcYAKcYAKHcYAKHHcYALcYAMcYANcYAPcYAQcYARcYARRcYAScYASHcYASScYATcYATH
cYATTcYAVcYAWcYAYcYAZcYAZHcYAZZcYEcYEYcYIcYOcYUbMODIFIER LETTER LABIALIZATION MARKbSEPARATOR MARK
aTIGERbFACEaTIGHT TRIFOLIATE SNOWFLAKEaTILDEbOPERATORcABOVE LEFTWARDS ARROWdRIGHTWARDS ARROW
cWITH DOT ABOVEdRISING DOTSbWITH DOT ABOVEdBELOWcRING ABOVEaTIMER CLOCKaTIMES WITH LEFT HALF BLACK
cRIGHT HALF BLACKaTINYbTWO DOTS OVER ONE DOT PUNCTUATIONaTIRED FACEaTIRHUTA ABBREVIATION SIGNbANJI
bDIGIT EIGHTcFIVEcFOURcNINEcONEcSEVENcSIXcTHREEcTWOcZERObGVANGbLETTER AcAAcAIcAUcBAcBHAcCAcCHAcDA
cDDAcDDHAcDHAcEcGAcGHAcHAcIcIIcJAcJHAcKAcKHAcLAcMAcNAcNGAcNNAcNYAcOcPAcPHAcRAcSAcSHAcSSAcTAcTHAcTTA
cTTHAcUcUUcVAcVOCALIC LdLLdRdRRcYAbOMbSIGN ANUSVARAcAVAGRAHAcCANDRABINDUcNUKTAcVIRAMAcVISARGA
bVOWEL SIGN AAdAIdAUdEdIdIIdOdSHORT EeOdUdUUdVOCALIC LeLLeReRRaTIRONIAN SIGN CAPITAL ETcETaTOILET
aTOKYO TOWERaTOMATOaTONGUEaTOOLBOXaTOOTHaTOOTHBRUSHaTOP ARC ANTICLOCKWISE ARROWeWITH PLUS
cCLOCKWISE ARROW WITH MINUSbCURLY BRACKETbHALF BLACK CIRCLEcINTEGRALcLEFT PARENTHESIS
cRIGHT PARENTHESIScSECTION SIGNbHATbLEFT CORNERcCROPcHALF BRACKETbPARENTHESISbRIGHT CORNERcCROP
cHALF BRACKETbSQUARE BRACKETbTORTOISE SHELL BRACKETbWITH UPWARDS ARROW ABOVE
aTORTOISE SHELL BRACKETED CJK UNIFIED IDEOGRAPH-4E09fIDEOGRAPH-4E8CfIDEOGRAPH-52DDfIDEOGRAPH-5B89
fIDEOGRAPH-6253fIDEOGRAPH-6557fIDEOGRAPH-672CfIDEOGRAPH-70B9fIDEOGRAPH-76D7dLATIN CAPITAL LETTER S
aTOTAL RUNOUTaTOTO LETTER AcAEcBAcBREATHY AEdEdEOdIdIUcCHAcDAcEcEOcGAcHAcIcIUcJAcKAcLAcMAcNAcNGAcO
cPAcRAcSAcTAcUcWAcYAbSIGN RISING TONEaTRACKBALLaTRACTORaTRADE MARK SIGNaTRAINaTRAMbCARaTRANSPLUTO
aTRANSVERSAL INTERSECTIONaTRIANGLE WITH DOT ABOVEcROUNDED CORNERScSERIFS AT BOTTOMcUNDERBAR
aTRIANGLE-HEADED RIGHTWARDS ARROWaTRIANGULAR BULLETbFLAG ON POSTbRULERaTRICOLONaTRIDENT EMBLEM
aTRIGRAM FOR EARTHcFIREcHEAVENcLAKEcMOUNTAINcTHUNDERcWATERcWINDaTRIPLE COLON OPERATORbDAGGER
bHORIZONTAL BAR WITH DOUBLE VERTICAL STROKEeTRIPLE VERTICAL STROKEbINTEGRALbNESTED GREATER-THAN
cLESS-THANbPLUSbPRIMEbSOLIDUS BINARY RELATIONbTILDEbVERTICAL BAR BINARY RELATIONdDELIMITER
dRIGHT TURNSTILEdWITH HORIZONTAL STROKEaTROLLaTROLLEYBUSaTROPHYaTROPICAL DRINKbFISHaTRUE
bLIGHT MOON ARTAaTRUMPETaTUGRIK SIGNaTULIPaTUMBLER GLASSaTURKEYaTURKISH LIRA SIGNaTURNED AMPERSAND
bANGLEbBLACK PENTAGONcSHOGI PIECEbCAPITAL FbCOMMAbDAGGERbDIGIT THREEcTWObGREEK SMALL LETTER IOTA
bNORTH EAST POINTING LEAFcWEST POINTING LEAFbNOT SIGNbOK HAND SIGNbSANS-SERIF CAPITAL GdLdY
bSEMICOLONbSMALL FbSOUTH EAST POINTING LEAFcWEST POINTING LEAFbWHITE SHOGI PIECEaTURTLE
aTWELVE POINTED BLACK STARaTWISTED RIGHTWARDS ARROWSaTWO ASTERISKS ALIGNED VERTICALLYbBUTTON MOUSE
bCONSECUTIVE EQUALS SIGNSbDOT LEADERcPUNCTUATIONbDOTS OVER ONE DOT PUNCTUATIONbHEARTS
bINTERSECTING LOGICAL ANDdORbJOINED SQUARESbLOGICAL AND OPERATORcOR OPERATORbMEN HOLDING HANDS
bSPEECH BUBBLESbWOMEN HOLDING HANDSaTWO-EM DASHaUGARITIC LETTER AINcALPAcBETAcDELTAcDHALcGAMLAcGHAIN
cHOcHOTAcIcKAFcKHAcLAMDAcMEMcNUNcPUcQOPAcRASHAcSADEcSAMKAcSHINcSSUcTETcTHANNAcTOcUcWOcYODcZETAcZU
bWORD DIVIDERaUMBRELLAbON GROUNDbWITH RAIN DROPSaUNAMUSED FACEaUNCERTAINTY SIGNaUNDERTIEaUNDO SYMBOL
aUNICORN FACEaUNIONbABOVE BAR ABOVE INTERSECTIONcINTERSECTIONbBESIDE AND JOINED WITH UNION
bWITH LOGICAL ORcMINUS SIGNcOVERBARaUNIT SEPARATORaUNITED SYMBOLaUNIVERSAL RECYCLING SYMBOL
aUNMARRIED PARTNERSHIP SYMBOLaUP ARROW THROUGH CIRCLEbARROWHEADcBETWEEN TWO HORIZONTAL BARS
cIN A RECTANGLE BOXbBARB LEFT DOWN BARB LEFT HARPOONfRIGHT HARPOONcRIGHT DOWN BARB LEFT HARPOON
fRIGHT HARPOONbDOWN ARROWdWITH BASEcBLACK ARROWcDOUBLE ARROWcSANS-SERIF ARROWcTRIANGLE-HEADED ARROW
cWHITE ARROWbFISH TAILbRIGHT DIAGONAL ELLIPSISbTACKcWITH CIRCLE ABOVEaUP-POINTING AIRPLANE
bMILITARY AIRPLANEbRED TRIANGLEbSMALL AIRPLANEcRED TRIANGLEbTRIANGLE WITH LEFT HALF BLACK
dRIGHT HALF BLACKaUPPER AND LEFT AND LOWER TRIANGULAR THREE QUARTERS BLOCKcLOWER ONE EIGHTH BLOCK
dTRIANGULAR HALF BLOCKcRIGHT AND LOWER TRIANGULAR THREE QUARTERS BLOCKbBLADE SCISSORS
bFIVE EIGHTHS BLOCKbHALF BLOCKdAND LOWER HALF INVERSE MEDIUM SHADEcCIRCLE
cINVERSE MEDIUM SHADE AND LOWER HALF BLOCKdWHITE CIRCLEcMEDIUM SHADE
bLEFT BLOCK DIAGONAL LOWER CENTRE TO LOWER MIDDLE RIGHThUPPER MIDDLE RIGHTiRIGHT
fLEFT TO LOWER MIDDLE RIGHThUPPER CENTREiMIDDLE RIGHTfMIDDLE LEFT TO UPPER CENTREjMIDDLE RIGHTjRIGHT
eUPPER MIDDLE LEFT TO UPPER CENTREjRIGHTcCORNER WITH DOTcOR LOWER RIGHT CURLY BRACKET SECTION
cQUADRANT CIRCULAR ARCcTO LOWER RIGHT FILLcTRIANGLEcTRIANGULAR MEDIUM SHADEbONE EIGHTH BLOCK
cQUARTER BLOCKbRIGHT BLOCK DIAGONAL LOWER MIDDLE LEFT TO LOWER CENTREjRIGHT
eUPPER CENTRE TO LOWER MIDDLE RIGHTiRIGHThUPPER MIDDLE RIGHTfLEFT TO LOWER CENTREiMIDDLE RIGHT
hUPPER MIDDLE RIGHTfMIDDLE LEFT TO LOWER CENTREjMIDDLE RIGHTjRIGHTcDROP-SHADOWED WHITE SQUARE
cOR LOWER LEFT CURLY BRACKET SECTIONcPENCILcQUADRANT CIRCULAR ARCcSHADOWED WHITE CIRCLEeSQUARE
cTO LOWER LEFT FILLcTRIANGLEcTRIANGULAR MEDIUM SHADEbSEVEN EIGHTHS BLOCKbTHREE EIGHTHS BLOCK
cQUARTERS BLOCKbTRIANGULAR ONE QUARTER BLOCKaUPSIDE-DOWN FACEaUPWARDS ANCORAbARROW
cAND RIGHT ONE EIGHTH BLOCKcFROM BARcLEFTWARDS OF DOWNWARDS ARROWcTO BARcWITH DOUBLE STROKE
dEQUILATERAL ARROWHEADdHORIZONTAL STROKEdLARGE TRIANGLE ARROWHEADdMEDIUM TRIANGLE ARROWHEAD
dNOTCHED TAILdSMALL EQUILATERAL ARROWHEADeTRIANGLE ARROWHEADdTIP LEFTWARDSeRIGHTWARDSbBLACK ARROW
cCIRCLED WHITE ARROWbCOMPRESSED ARROWbDASHED ARROWbDOUBLE ARROWbFINGER-POST ARROW
bHARPOON WITH BARB LEFT BESIDE DOWNWARDS HARPOON WITH BARB RIGHTgUPWARDS HARPOON WITH BARB RIGHT
fFROM BARfTO BAReLEFTWARDSeRIGHT FROM BARfTO BAReRIGHTWARDSbHEAVY ARROWcCOMPRESSED ARROW
bPAIRED ARROWSbQUADRUPLE ARROWbROCKETbSANS-SERIF ARROWbSQUARED ARROWbTRIANGLE ARROWHEAD
bTRIANGLE-HEADED ARROWdLEFTWARDS OF DOWNWARDS TRIANGLE-HEADED ARROWdTO BARdWITH BOLD SHAFT
eDOUBLE HORIZONTAL STROKEeHEAVY SHAFTeLONG TIP LEFTWARDSgRIGHTWARDSeMEDIUM SHAFTeNARROW SHAFT
eVERY HEAVY SHAFTcDASHED ARROWcPAIRED ARROWSbTRIPLE ARROWbTWO HEADED ARROW
bTWO-HEADED ARROW FROM SMALL CIRCLEdWITH TRIANGLE ARROWHEADSbWHITE ARROWdFROM BAR
fWITH HORIZONTAL BARdON PEDESTALfWITH HORIZONTAL BARgVERTICAL BARdWITHIN TRIANGLE ARROWHEAD
cDOUBLE ARROWeON PEDESTALaURANUSaUSaVAI COMMAbDIGIT EIGHTcFIVEcFOURcNINEcONEcSEVENcSIXcTHREEcTWO
cZERObFULL STOPbQUESTION MARKbSYLLABLE AcANcBAcBEcBEEcBHAcBHEcBHEEcBHIcBHOcBHOOcBHUcBIcBOcBOOcBUcCA
cCEcCEEcCIcCOcCOOcCUcDAcDEcDEEcDHAcDHEcDHEEcDHHAcDHHEcDHHEEcDHHIcDHHOcDHHOOcDHHUcDHIcDHOcDHOOcDHUcDI
cDOcDOOcDUcEcEEcEENcENcFAcFEcFEEcFIcFOcFOOcFUcGAcGBAcGBEcGBEEcGBENcGBIcGBOcGBONcGBOOcGBUcGEcGEEcGEN
cGIcGOcGOOcGUcHAcHANcHEcHEEcHENcHIcHINcHOcHONcHOOcHUcHUNcIcINcJAcJEcJEEcJIcJOcJOOcJUcKAcKANcKEcKEE
cKIcKOcKOOcKPAcKPANcKPEcKPEEcKPENcKPIcKPOcKPOOcKPUcKUcLAcLEcLEEcLENGTHENERcLIcLOcLOOcLUcMAcMBAcMBE
cMBEEcMBIcMBOcMBOOcMBUcMEcMEEcMGBAcMGBEcMGBEEcMGBIcMGBOcMGBOOcMGBUcMIcMOcMOOcMUcNAcNDAcNDEcNDEEcNDI
cNDOcNDOLE DOdFAdKAdMAdSOOcNDOOcNDUcNEcNEEcNGcNGANcNGENcNGGAcNGGEcNGGEEcNGGENcNGGIcNGGOcNGGOOcNGGU
cNGONcNIcNJAcNJEcNJEEcNJIcNJOcNJOOcNJUcNOcNOOcNUcNYAcNYEcNYEEcNYIcNYOcNYOOcNYUcOcONcOOcOONcPAcPEcPEE
cPIcPOcPOOcPUcRAcREcREEcRIcROcROOcRUcSAcSEcSEEcSHAcSHEcSHEEcSHIcSHOcSHOOcSHUcSIcSOcSOOcSUcTAcTEcTEE
cTHAcTHEcTHEEcTHIcTHOcTHOOcTHUcTIcTOcTOOcTUcUcUNcVAcVEcVEEcVIcVOcVOOcVUcWAcWANcWEcWEEcWEENcWENcWI
cWINcWOcWONcWOOcWOONcWUcWUNcYAcYEcYEEcYIcYOcYOOcYUcZAcZEcZEEcZHAcZHEcZHEEcZHIcZHOcZHOOcZHUcZIcZOcZOO
cZUbSYMBOL BANGcDANGcDO-OcDOONGcFAAcFEENGcJONGcKEENGcKUNGcNIIcTAAcTINGcTONGaVAMPIRE
aVARIATION SELECTOR-1bSELECTOR-10bSELECTOR-100bSELECTOR-101bSELECTOR-102bSELECTOR-103bSELECTOR-104
bSELECTOR-105bSELECTOR-106bSELECTOR-107bSELECTOR-108bSELECTOR-109bSELECTOR-11bSELECTOR-110
bSELECTOR-111bSELECTOR-112bSELECTOR-113bSELECTOR-114bSELECTOR-115bSELECTOR-116bSELECTOR-117
bSELECTOR-118bSELECTOR-119bSELECTOR-12bSELECTOR-120bSELECTOR-121bSELECTOR-122bSELECTOR-123
bSELECTOR-124bSELECTOR-125bSELECTOR-126bSELECTOR-127bSELECTOR-128bSELECTOR-129bSELECTOR-13
bSELECTOR-130bSELECTOR-131bSELECTOR-132bSELECTOR-133bSELECTOR-134bSELECTOR-135bSELECTOR-136
bSELECTOR-137bSELECTOR-138bSELECTOR-139bSELECTOR-14bSELECTOR-140bSELECTOR-141bSELECTOR-142
bSELECTOR-143bSELECTOR-144bSELECTOR-145bSELECTOR-146bSELECTOR-147bSELECTOR-148bSELECTOR-149
bSELECTOR-15bSELECTOR-150bSELECTOR-151bSELECTOR-152bSELECTOR-153bSELECTOR-154bSELECTOR-155
bSELECTOR-156bSELECTOR-157bSELECTOR-158bSELECTOR-159bSELECTOR-16bSELECTOR-160bSELECTOR-161
bSELECTOR-162bSELECTOR-163bSELECTOR-164bSELECTOR-165bSELECTOR-166bSELECTOR-167bSELECTOR-168
bSELECTOR-169bSELECTOR-17bSELECTOR-170bSELECTOR-171bSELECTOR-172bSELECTOR-173bSELECTOR-174
bSELECTOR-175bSELECTOR-176bSELECTOR-177bSELECTOR-178bSELECTOR-179bSELECTOR-18bSELECTOR-180
bSELECTOR-181bSELECTOR-182bSELECTOR-183bSELECTOR-184bSELECTOR-185bSELECTOR-186bSELECTOR-187
bSELECTOR-188bSELECTOR-189bSELECTOR-19bSELECTOR-190bSELECTOR-191bSELECTOR-192bSELECTOR-193
bSELECTOR-194bSELECTOR-195bSELECTOR-196bSELECTOR-197bSELECTOR-198bSELECTOR-199bSELECTOR-2
bSELECTOR-20bSELECTOR-200bSELECTOR-201bSELECTOR-202bSELECTOR-203bSELECTOR-204bSELECTOR-205
bSELECTOR-206bSELECTOR-207bSELECTOR-208bSELECTOR-209bSELECTOR-21bSELECTOR-210bSELECTOR-211
bSELECTOR-212bSELECTOR-213bSELECTOR-214bSELECTOR-215bSELECTOR-216bSELECTOR-217bSELECTOR-218
bSELECTOR-219bSELECTOR-22bSELECTOR-220bSELECTOR-221bSELECTOR-222bSELECTOR-223bSELECTOR-224
bSELECTOR-225bSELECTOR-226bSELECTOR-227bSELECTOR-228bSELECTOR-229bSELECTOR-23bSELECTOR-230
bSELECTOR-231bSELECTOR-232bSELECTOR-233bSELECTOR-234bSELECTOR-235bSELECTOR-236bSELECTOR-237
bSELECTOR-238bSELECTOR-239bSELECTOR-24bSELECTOR-240bSELECTOR-241bSELECTOR-242bSELECTOR-243
bSELECTOR-244bSELECTOR-245bSELECTOR-246bSELECTOR-247bSELECTOR-248bSELECTOR-249bSELECTOR-25
bSELECTOR-250bSELECTOR-251bSELECTOR-252bSELECTOR-253bSELECTOR-254bSELECTOR-255bSELECTOR-256
bSELECTOR-26bSELECTOR-27bSELECTOR-28bSELECTOR-29bSELECTOR-3bSELECTOR-30bSELECTOR-31bSELECTOR-32
bSELECTOR-33bSELECTOR-34bSELECTOR-35bSELECTOR-36bSELECTOR-37bSELECTOR-38bSELECTOR-39bSELECTOR-4
bSELECTOR-40bSELECTOR-41bSELECTOR-42bSELECTOR-43bSELECTOR-44bSELECTOR-45bSELECTOR-46bSELECTOR-47
bSELECTOR-48bSELECTOR-49bSELECTOR-5bSELECTOR-50bSELECTOR-51bSELECTOR-52bSELECTOR-53bSELECTOR-54
bSELECTOR-55bSELECTOR-56bSELECTOR-57bSELECTOR-58bSELECTOR-59bSELECTOR-6bSELECTOR-60bSELECTOR-61
bSELECTOR-62bSELECTOR-63bSELECTOR-64bSELECTOR-65bSELECTOR-66bSELECTOR-67bSELECTOR-68bSELECTOR-69
bSELECTOR-7bSELECTOR-70bSELECTOR-71bSELECTOR-72bSELECTOR-73bSELECTOR-74bSELECTOR-75bSELECTOR-76
bSELECTOR-77bSELECTOR-78bSELECTOR-79bSELECTOR-8bSELECTOR-80bSELECTOR-81bSELECTOR-82bSELECTOR-83
bSELECTOR-84bSELECTOR-85bSELECTOR-86bSELECTOR-87bSELECTOR-88bSELECTOR-89bSELECTOR-9bSELECTOR-90
bSELECTOR-91bSELECTOR-92bSELECTOR-93bSELECTOR-94bSELECTOR-95bSELECTOR-96bSELECTOR-97bSELECTOR-98
bSELECTOR-99aVECTOR OR CROSS PRODUCTaVEDIC SIGN ANUSVARA ANTARGOMUKHAdBAHIRGOMUKHAdUBHAYATO MUKHA
dVAMAGOMUKHAeWITH TAILcARDHAVISARGAcATIKRAMAcDOUBLE ANUSVARA ANTARGOMUKHAcHEXIFORM LONG ANUSVARA
cJIHVAMULIYAcLONG ANUSVARAcNIHSHVASAcREVERSED VISARGA ANUDATTAeUDATTAcROTATED ARDHAVISARGA
cRTHANG LONG ANUSVARAcTIRYAKcUPADHMANIYAcVISARGA ANUDATTAeWITH TAILdSVARITAdUDATTAeWITH TAIL
cYAJURVEDIC MIDLINE SVARITAbTONE ATHARVAVEDIC INDEPENDENT SVARITAcCANDRA ABOVEdBELOWcDOT BELOW
cDOUBLE RING ABOVEdSVARITAcKARSHANAcKATHAKA ANUDATTAcPRENKHAcRIGVEDIC KASHMIRI INDEPENDENT SVARITA
cRING ABOVEcSHARAcTHREE DOTS BELOWcTRIPLE SVARITAcTWO DOTS BELOW
cYAJURVEDIC AGGRAVATED INDEPENDENT SVARITAdINDEPENDENT SVARITAdKATHAKA INDEPENDENT SVARITAgSCHROEDER
aVERSICLEaVERTICAL BAR BESIDE RIGHT TRIANGLEcDOUBLE LEFT TURNSTILEcTRIPLE RIGHT TURNSTILE
cWITH HORIZONTAL STROKEbELLIPSISbFOUR DOTSbIDEOGRAPHIC ITERATION MARKbKANA REPEAT MARKeLOWER HALF
eUPPER HALFdWITH VOICED SOUND MARKhUPPER HALFbLINEcEXTENSIONcWITH CIRCLE ABOVEeBELOWdMIDDLE DOT
bMALE WITH STROKE SIGNbONE EIGHTH BLOCK-2dBLOCK-3dBLOCK-4dBLOCK-5dBLOCK-6dBLOCK-7bSIX DOTSbTAB KEY
bTABULATIONcSETbTILDEbTRAFFIC LIGHTbZIGZAG LINEaVERY BOLD GREEK CROSSbHEAVY EIGHT POINTED BLACK STAR
dSPOKED ASTERISKcFIVE SPOKED ASTERISKcGREEK CROSScREVERSE SOLIDUScSALTIREcSIX SPOKED ASTERISK
cSOLIDUScWHITE CIRCLEdSQUAREbMUCH GREATER-THANcLESS-THANaVESTAaVIBRATION MODEaVICTORY HAND
aVIDEO CAMERAbGAMEaVIDEOCASSETTEaVIETNAMESE ALTERNATE READING MARK CAeNHAYaVIEWDATA SQUAREaVIOLIN
aVIRGOaVITHKUQI CAPITAL LETTER AdBBEdBEdCEdCHEdDEdDHEdEdEIdFEdGAdHAdHHAdIdIJEdJEdKAdLAdLLAdMEdNEdNJE
dOdPEdQAdREdSEdSHEdTEdTHEdUdVEdXEdYdZEbSMALL LETTER AdBBEdBEdCEdCHEdDEdDHEdEdEIdFEdGAdHAdHHAdIdIJE
dJEdKAdLAdLLAdMEdNEdNJEdOdPEdQAdREdSEdSHEdTEdTHEdUdVEdXEdYdZEaVOIDED GREEK CROSSaVOLCANOaVOLLEYBALL
aVOLUME INTEGRALaVS1aVS10aVS100aVS101aVS102aVS103aVS104aVS105aVS106aVS107aVS108aVS109aVS11aVS110
aVS111aVS112aVS113aVS114aVS115aVS116aVS117aVS118aVS119aVS12aVS120aVS121aVS122aVS123aVS124aVS125
aVS126aVS127aVS128aVS129aVS13aVS130aVS131aVS132aVS133aVS134aVS135aVS136aVS137aVS138aVS139aVS14aVS140
aVS141aVS142aVS143aVS144aVS145aVS146aVS147aVS148aVS149aVS15aVS150aVS151aVS152aVS153aVS154aVS155
aVS156aVS157aVS158aVS159aVS16aVS160aVS161aVS162aVS163aVS164aVS165aVS166aVS167aVS168aVS169aVS17aVS170
aVS171aVS172aVS173aVS174aVS175aVS176aVS177aVS178aVS179aVS18aVS180aVS181aVS182aVS183aVS184aVS185
aVS186aVS187aVS188aVS189aVS19aVS190aVS191aVS192aVS193aVS194aVS195aVS196aVS197aVS198aVS199aVS2aVS20
aVS200aVS201aVS202aVS203aVS204aVS205aVS206aVS207aVS208aVS209aVS21aVS210aVS211aVS212aVS213aVS214
aVS215aVS216aVS217aVS218aVS219aVS22aVS220aVS221aVS222aVS223aVS224aVS225aVS226aVS227aVS228aVS229aVS23
aVS230aVS231aVS232aVS233aVS234aVS235aVS236aVS237aVS238aVS239aVS24aVS240aVS241aVS242aVS243aVS244
aVS245aVS246aVS247aVS248aVS249aVS25aVS250aVS251aVS252aVS253aVS254aVS255aVS256aVS26aVS27aVS28aVS29
aVS3aVS30aVS31aVS32aVS33aVS34aVS35aVS36aVS37aVS38aVS39aVS4aVS40aVS41aVS42aVS43aVS44aVS45aVS46aVS47
aVS48aVS49aVS5aVS50aVS51aVS52aVS53aVS54aVS55aVS56aVS57aVS58aVS59aVS6aVS60aVS61aVS62aVS63aVS64aVS65
aVS66aVS67aVS68aVS69aVS7aVS70aVS71aVS72aVS73aVS74aVS75aVS76aVS77aVS78aVS79aVS8aVS80aVS81aVS82aVS83
aVS84aVS85aVS86aVS87aVS88aVS89aVS9aVS90aVS91aVS92aVS93aVS94aVS95aVS96aVS97aVS98aVS99aVTaVTSaVULCANUS
aVULGAR FRACTION FIVE EIGHTHSdSIXTHScFOUR FIFTHScONE EIGHTHdFIFTHdHALFdNINTHdQUARTERdSEVENTHdSIXTH
dTENTHdTHIRDcSEVEN EIGHTHScTHREE EIGHTHSdFIFTHSdQUARTERScTWO FIFTHSdTHIRDScZERO THIRDSaWAFFLE
aWANCHO DIGIT EIGHTcFIVEcFOURcNINEcONEcSEVENcSIXcTHREEcTWOcZERObLETTER AcAAcAANcAANGcANGcAUcBAcCAcDA
cEcENcFAcGAcHAcIcINGcJAcKAcKHAcLAcLLHAcMAcNAcNGAcNYAcOcONcONGcPAcPHAcRAcSAcSHAcTAcTHAcTRAcTSAcUcUEN
cVAcWAcYAcYIHcZAbNGUN SIGNbTONE KOIcKOINIcTUPcTUPNIaWANING CRESCENT MOON SYMBOLbGIBBOUS MOON SYMBOL
aWARANG CITI CAPITAL LETTER AeAMeANGeATeBUeDAeEeENNeENYeGAeHAReHIYOeHOLOeHORReIIeKOeNGAAeNUNGeOeODD
ePUeSIIeSSUUeTTEeUCeUUeVIYOeWIeYAeYOeYUeYUJcDIGIT EIGHTdFIVEdFOURdNINEdONEdSEVENdSIXdTHREEdTWOdZERO
cNUMBER EIGHTYdFIFTYdFORTYdNINETYdSEVENTYdSIXTYdTENdTHIRTYdTWENTYcOMcSMALL LETTER AeAMeANGeATeBUeDA
eEeENNeENYeGAeHAReHIYOeHOLOeHORReIIeKOeNGAAeNUNGeOeODDePUeSIIeSSUUeTTEeUCeUUeVIYOeWIeYAeYOeYUeYUJ
aWARNING SIGNaWASTEBASKETaWATCHaWATER BUFFALObCLOSETbPOLObWAVEaWATERMELON
aWAVE ARROW POINTING DIRECTLY LEFTeRIGHTbDASHaWAVING BLACK FLAGbHAND SIGNbWHITE FLAGaWAVY DASHbLINE
bLOW LINEbOVERLINEaWAXING CRESCENT MOON SYMBOLbGIBBOUS MOON SYMBOLaWEARY CAT FACEbFACEaWEDDING
aWEDGE-TAILED RIGHTWARDS ARROWaWEIERSTRASS ELLIPTIC FUNCTIONaWEIGHT LIFTERaWEST SYRIAC CROSSaWHALE
aWHEELbOF DHARMAaWHEELCHAIR SYMBOLaWHITE ARROW SHAFT WIDTH ONEeTWO THIRDSbBULLETbCHESS BISHOP
dROTATED NINETY DEGREESeTWO HUNDRED SEVENTY DEGREEScEQUIHOPPERdROTATED NINETY DEGREEScKING
dROTATED NINETY DEGREESeTWO HUNDRED SEVENTY DEGREEScKNIGHTdROTATED FORTY-FIVE DEGREESeNINETY DEGREES
eONE HUNDRED THIRTY-FIVE DEGREESeTHREE HUNDRED FIFTEEN DEGREESeTWO HUNDRED SEVENTY DEGREES
gTWENTY-FIVE DEGREEScKNIGHT-BISHOPcKNIGHT-QUEENcKNIGHT-ROOKcPAWNdROTATED NINETY DEGREES
eTWO HUNDRED SEVENTY DEGREEScQUEENdROTATED NINETY DEGREESeTWO HUNDRED SEVENTY DEGREEScROOK
dROTATED NINETY DEGREESeTWO HUNDRED SEVENTY DEGREEScTURNED BISHOPdKINGdKNIGHTdPAWNdQUEENdROOKbCIRCLE
cCONTAINING BLACK SMALL CIRCLEcWITH DOT RIGHTdDOWN ARROWdLOWER LEFT QUADRANTeRIGHT QUADRANTdTWO DOTS
dUPPER LEFT QUADRANTeRIGHT QUADRANTbCLUB SUITbCONCAVE-SIDED DIAMONDdWITH LEFTWARDS TICK
eRIGHTWARDS TICKbDIAMONDcCONTAINING BLACK MEDIUM DIAMONDeSMALL DIAMONDeVERY SMALL DIAMONDcIN SQUARE
cSUITcWITH CENTRED DOTbDOWN POINTING BACKHAND INDEXdINDEXdLEFT HAND INDEX
bDOWN-POINTING SMALL TRIANGLEcTRIANGLEbDRAUGHTS KINGcMANbEXCLAMATION MARK ORNAMENTbFLAG
cWITH HORIZONTAL MIDDLE BLACK STRIPEbFLORETTEbFLOWERbFOUR POINTED CUSPdSTARbFROWNING FACE
bHARD SHELL FLOPPY DISKbHEARTcSUITbHEAVY CHECK MARKcSALTIRE WITH ROUNDED CORNERSbHEXAGON
bHORIZONTAL ELLIPSEbHOURGLASSbLARGE SQUAREbLATIN CROSSbLEFT LANE MERGEcPOINTING BACKHAND INDEXdINDEX
bLEFT-POINTING POINTERcSMALL TRIANGLEcTRIANGLEbLOZENGE CONTAINING BLACK SMALL LOZENGEbMEDIUM DIAMOND
cLOZENGEcSMALL SQUAREcSQUAREcSTARbMOON SELENAbNIBbPARALLELOGRAMbPENNANTbPENTAGON
bQUESTION MARK ORNAMENTbRECTANGLEbRIGHT POINTING BACKHAND INDEXdINDEXbRIGHT-POINTING PENTAGON
cPOINTERcSMALL TRIANGLEcTRIANGLEbSCISSORSbSESAME DOTbSHOGI PIECEbSMALL LOZENGEcSQUAREcSTAR
bSMILING FACEbSPADE SUITbSQUAREcBUTTONcCONTAINING BLACK MEDIUM SQUAREeSMALL SQUAREeVERY SMALL SQUARE
cWITH CENTRE VERTICAL LINEdLEFTWARDS TICKdLOWER LEFT QUADRANTeRIGHT QUADRANTdRIGHTWARDS TICK
dROUNDED CORNERSdUPPER LEFT QUADRANTeRIGHT QUADRANTdVERTICAL BISECTING LINEbSTARbSUNcBEHIND CLOUD
eWITH RAINcWITH RAYSdSMALL CLOUDbTELEPHONEbTOUCHTONE TELEPHONEbTRAPEZIUM
bTRIANGLE CONTAINING SMALL WHITE TRIANGLEbTWO-WAY LEFT WAY TRAFFICbUP POINTING BACKHAND INDEXdINDEX
bUP-POINTING CHEVRONcSMALL TRIANGLEcTRIANGLEdWITH DOTbVERTICAL BARcELLIPSEcRECTANGLE
bVERY SMALL SQUAREaWHITE-FEATHERED RIGHTWARDS ARROWaWIDE-HEADED DOWNWARDS BARB ARROW
cHEAVY BARB ARROWcLIGHT BARB ARROWcMEDIUM BARB ARROWcVERY HEAVY BARB ARROWbLEFTWARDS BARB ARROW
cHEAVY BARB ARROWcLIGHT BARB ARROWcMEDIUM BARB ARROWcVERY HEAVY BARB ARROWbNORTH EAST BARB ARROW
dHEAVY BARB ARROWdLIGHT BARB ARROWdMEDIUM BARB ARROWdVERY HEAVY BARB ARROWcWEST BARB ARROW
dHEAVY BARB ARROWdLIGHT BARB ARROWdMEDIUM BARB ARROWdVERY HEAVY BARB ARROWbRIGHTWARDS BARB ARROW
cHEAVY BARB ARROWcLIGHT BARB ARROWcMEDIUM BARB ARROWcVERY HEAVY BARB ARROWbSOUTH EAST BARB ARROW
dHEAVY BARB ARROWdLIGHT BARB ARROWdMEDIUM BARB ARROWdVERY HEAVY BARB ARROWcWEST BARB ARROW
dHEAVY BARB ARROWdLIGHT BARB ARROWdMEDIUM BARB ARROWdVERY HEAVY BARB ARROWbUPWARDS BARB ARROW
cHEAVY BARB ARROWcLIGHT BARB ARROWcMEDIUM BARB ARROWcVERY HEAVY BARB ARROWaWIGGLY VERTICAL LINE
aWILTED FLOWERaWIND BLOWING FACEbCHIMEaWINDOWaWINE GLASSaWINKING FACEaWIRED KEYBOARDaWJaWOLF FACE
aWOMANbWITH BUNNY EARSaWOMANS BOOTSbCLOTHESbHATbSANDALaWOMENS SYMBOLaWON SIGNaWOODaWORD JOINER
bSEPARATOR MIDDLE DOTaWORLD MAPaWORMaWORRIED FACEaWRAPPED PRESENTaWREATH PRODUCTaWRENCHaWRESTLERS
aWRITING HANDaX IN A RECTANGLE BOXaX-RAYaXIANGQI BLACK CANNONcCHARIOTcELEPHANTcGENERALcHORSE
cMANDARINcSOLDIERbRED CANNONcCHARIOTcELEPHANTcGENERALcHORSEcMANDARINcSOLDIERaXORaYAWNING FACE
aYELLOW HEARTaYEN SIGNaYEZIDI COMBINING HAMZA MARKcMADDA MARKbHYPHENATION MARKbLETTER BEcCHHIMcCHIM
cCIMcDADcDALcELIFcETcEWcEYNcFAcGAFcHAYcHHAcJAcKAFcKHAFcLAMdWITH DOT ABOVEcMIMcNUNcOWcPEcPHEcQAFcRA
cRHAcSADcSEcSHINcSINcTAcTHEcUMcVAdALTERNATE FORMcWAWcXAcXHEYNcYOTdWITH CIRCUMFLEX ABOVEcZAcZALcZE
aYI RADICAL BBUTcBURcCHEcCIPcCUOPcCYcCYPcCYTcDDURcDUcGAcGEPcGGOPcGGUOcGOTcHMOcHXITcHXOPcHXUOcJJIE
cJJUTcJJYcJOcKEcKITcLIcLIEcLYRcMIcMOPcNBIEcNYIPcNYOPcNZUPcOPcPUTcPYTcQOTcSHATcSHOPcSHURcSHYcSSIcTAT
cTUcVEPcVURcWOcYITcYOcZAcZOTcZUPcZURcZZIETbSYLLABLE AcAPcATcAXcBAcBAPcBATcBAXcBBAcBBAPcBBATcBBAXcBBE
cBBEPcBBEXcBBIcBBIEcBBIEPcBBIETcBBIEXcBBIPcBBITcBBIXcBBOcBBOPcBBOTcBBOXcBBUcBBUOcBBUOPcBBUOXcBBUP
cBBURcBBURXcBBUTcBBUXcBBYcBBYPcBBYTcBBYXcBEcBEPcBEXcBIcBIEcBIEPcBIETcBIEXcBIPcBITcBIXcBOcBOPcBOTcBOX
cBUcBUOcBUOPcBUOXcBUPcBURcBURXcBUTcBUXcBYcBYPcBYRcBYRXcBYTcBYXcCAcCAPcCATcCAXcCEcCEPcCEXcCHAcCHAP
cCHATcCHAXcCHEcCHEPcCHETcCHEXcCHOcCHOPcCHOTcCHOXcCHUcCHUOcCHUOPcCHUOTcCHUOXcCHUPcCHURcCHURXcCHUXcCHY
cCHYPcCHYRcCHYRXcCHYTcCHYXcCIcCIEcCIEPcCIETcCIEXcCIPcCITcCIXcCOcCOPcCOTcCOXcCUcCUOcCUOPcCUOXcCUPcCUR
cCURXcCUTcCUXcCYcCYPcCYRcCYRXcCYTcCYXcDAcDAPcDATcDAXcDDAcDDAPcDDATcDDAXcDDEcDDEPcDDEXcDDIcDDIEcDDIEP
cDDIEXcDDIPcDDITcDDIXcDDOcDDOPcDDOTcDDOXcDDUcDDUOcDDUOPcDDUOXcDDUPcDDURcDDURXcDDUTcDDUXcDEcDEPcDEX
cDIcDIEcDIEPcDIEXcDIPcDITcDIXcDOcDOPcDOTcDOXcDUcDUOcDUOXcDUPcDURcDURXcDUTcDUXcEcEXcFAcFAPcFATcFAXcFI
cFIPcFITcFIXcFOcFOPcFOXcFUcFUPcFURcFURXcFUTcFUXcFYcFYPcFYTcFYXcGAcGAPcGATcGAXcGEcGEPcGETcGEXcGGA
cGGAPcGGATcGGAXcGGEcGGEPcGGETcGGEXcGGIcGGIEcGGIEPcGGIEXcGGITcGGIXcGGOcGGOPcGGOTcGGOXcGGUcGGUOcGGUOP
cGGUOTcGGUOXcGGUPcGGURcGGURXcGGUTcGGUXcGIcGIEcGIEPcGIETcGIEXcGIPcGITcGIXcGOcGOPcGOTcGOXcGUcGUOcGUOP
cGUOTcGUOXcGUPcGURcGURXcGUTcGUXcHAcHAPcHATcHAXcHEcHEPcHEXcHIEcHIEXcHITcHLAcHLAPcHLATcHLAXcHLEcHLEP
cHLEXcHLIcHLIEcHLIEPcHLIEXcHLIPcHLITcHLIXcHLOcHLOPcHLOXcHLUcHLUOcHLUOPcHLUOXcHLUPcHLURcHLURXcHLUT
cHLUXcHLYcHLYPcHLYRcHLYRXcHLYTcHLYXcHMAcHMAPcHMATcHMAXcHMIcHMIEcHMIEPcHMIEXcHMIPcHMITcHMIXcHMOcHMOP
cHMOTcHMOXcHMUcHMUOcHMUOPcHMUOXcHMUPcHMURcHMURXcHMUTcHMUXcHMYcHMYPcHMYRcHMYRXcHMYXcHNAcHNAPcHNAT
cHNAXcHNEcHNEPcHNEXcHNIcHNIEcHNIEPcHNIETcHNIEXcHNIPcHNITcHNIXcHNOPcHNOTcHNOXcHNUOcHNUOXcHNUTcHOcHOP
cHOTcHOXcHUOcHUOPcHUOTcHUOXcHXAcHXAPcHXATcHXAXcHXEcHXEPcHXEXcHXIcHXIEcHXIEPcHXIETcHXIEXcHXIPcHXIT
cHXIXcHXOcHXOPcHXOTcHXOXcHXUOcHXUOPcHXUOTcHXUOXcIcIEcIEPcIETcIEXcIPcITcITERATION MARKcIXcJIcJIEcJIEP
cJIETcJIEXcJIPcJITcJIXcJJIcJJIEcJJIEPcJJIETcJJIEXcJJIPcJJITcJJIXcJJOcJJOPcJJOTcJJOXcJJUcJJUOcJJUOP
cJJUOXcJJUPcJJURcJJURXcJJUTcJJUXcJJYcJJYPcJJYTcJJYXcJOcJOPcJOTcJOXcJUcJUOcJUOPcJUOTcJUOXcJUPcJUR
cJURXcJUTcJUXcJYcJYPcJYRcJYRXcJYTcJYXcKAcKAPcKATcKAXcKEcKEPcKETcKEXcKIcKIEcKIEPcKIEXcKIPcKITcKIXcKO
cKOPcKOTcKOXcKUcKUOcKUOPcKUOXcKUPcKURcKURXcKUTcKUXcLAcLAPcLATcLAXcLEcLEPcLEXcLIcLIEcLIEPcLIETcLIEX
cLIPcLITcLIXcLOcLOPcLOTcLOXcLUcLUOcLUOPcLUOTcLUOXcLUPcLURcLURXcLUTcLUXcLYcLYPcLYRcLYRXcLYTcLYXcMA
cMAPcMATcMAXcMEcMEXcMGAcMGAPcMGATcMGAXcMGEcMGEPcMGEXcMGIEcMGIEXcMGOcMGOPcMGOTcMGOXcMGUcMGUOcMGUOP
cMGUOXcMGUPcMGURcMGURXcMGUTcMGUXcMIcMIEcMIEPcMIEXcMIPcMITcMIXcMOcMOPcMOTcMOXcMUcMUOcMUOPcMUOTcMUOX
cMUPcMURcMURXcMUTcMUXcMYcMYPcMYTcMYXcNAcNAPcNAXcNBAcNBAPcNBATcNBAXcNBIcNBIEcNBIEPcNBIEXcNBIPcNBIT
cNBIXcNBOcNBOPcNBOTcNBOXcNBUcNBUPcNBURcNBURXcNBUTcNBUXcNBYcNBYPcNBYRcNBYRXcNBYTcNBYXcNDAcNDAPcNDAT
cNDAXcNDEcNDEPcNDEXcNDIcNDIEcNDIEXcNDIPcNDITcNDIXcNDOcNDOPcNDOTcNDOXcNDUcNDUPcNDURcNDURXcNDUTcNDUX
cNEcNEPcNEXcNGAcNGAPcNGATcNGAXcNGEcNGEPcNGEXcNGIEcNGIEPcNGIEXcNGOcNGOPcNGOTcNGOXcNGUOcNGUOTcNGUOXcNI
cNIEcNIEPcNIEXcNIPcNITcNIXcNJIcNJIEcNJIEPcNJIETcNJIEXcNJIPcNJITcNJIXcNJOcNJOPcNJOTcNJOXcNJUcNJUO
cNJUOXcNJUPcNJURcNJURXcNJUXcNJYcNJYPcNJYRcNJYRXcNJYTcNJYXcNOcNOPcNOTcNOXcNRAcNRAPcNRATcNRAXcNREcNREP
cNRETcNREXcNROcNROPcNROXcNRUcNRUPcNRURcNRURXcNRUTcNRUXcNRYcNRYPcNRYRcNRYRXcNRYTcNRYXcNUcNUOcNUOP
cNUOXcNUPcNURcNURXcNUTcNUXcNYIcNYIEcNYIEPcNYIETcNYIEXcNYIPcNYITcNYIXcNYOcNYOPcNYOTcNYOXcNYUcNYUO
cNYUOPcNYUOXcNYUPcNYUTcNYUXcNZAcNZAPcNZATcNZAXcNZEcNZEXcNZIcNZIEcNZIEPcNZIEXcNZIPcNZITcNZIXcNZOP
cNZOXcNZUcNZUOcNZUOXcNZUPcNZURcNZURXcNZUXcNZYcNZYPcNZYRcNZYRXcNZYTcNZYXcOcOPcOTcOXcPAcPAPcPATcPAXcPI
cPIEcPIEPcPIEXcPIPcPITcPIXcPOcPOPcPOTcPOXcPUcPUOcPUOPcPUOXcPUPcPURcPURXcPUTcPUXcPYcPYPcPYRcPYRXcPYT
cPYXcQIcQIEcQIEPcQIETcQIEXcQIPcQITcQIXcQOcQOPcQOTcQOXcQUcQUOcQUOPcQUOTcQUOXcQUPcQURcQURXcQUTcQUXcQY
cQYPcQYRcQYRXcQYTcQYXcRAcRAPcRATcRAXcREcREPcREXcROcROPcROTcROXcRRAcRRAXcRREcRREPcRRETcRREXcRROcRROP
cRROTcRROXcRRUcRRUOcRRUOXcRRUPcRRURcRRURXcRRUTcRRUXcRRYcRRYPcRRYRcRRYRXcRRYTcRRYXcRUcRUOcRUOPcRUOX
cRUPcRURcRURXcRUTcRUXcRYcRYPcRYRcRYRXcRYTcRYXcSAcSAPcSATcSAXcSEcSEPcSEXcSHAcSHAPcSHATcSHAXcSHEcSHEP
cSHETcSHEXcSHOcSHOPcSHOTcSHOXcSHUcSHUOcSHUOPcSHUOXcSHUPcSHURcSHURXcSHUTcSHUXcSHYcSHYPcSHYRcSHYRX
cSHYTcSHYXcSIcSIEcSIEPcSIEXcSIPcSITcSIXcSOcSOPcSOTcSOXcSSAcSSAPcSSATcSSAXcSSEcSSEPcSSEXcSSIcSSIE
cSSIEPcSSIEXcSSIPcSSITcSSIXcSSOcSSOPcSSOTcSSOXcSSUcSSUPcSSUTcSSUXcSSYcSSYPcSSYRcSSYRXcSSYTcSSYXcSU
cSUOcSUOPcSUOXcSUPcSURcSURXcSUTcSUXcSYcSYPcSYRcSYRXcSYTcSYXcTAcTAPcTATcTAXcTEcTEPcTEXcTIcTIEcTIEP
cTIEXcTIPcTITcTIXcTOcTOPcTOTcTOXcTUcTUOcTUOPcTUOTcTUOXcTUPcTURcTURXcTUTcTUXcUOcUOPcUOXcVAcVAPcVAT
cVAXcVEPcVEXcVIcVIEcVIEPcVIETcVIEXcVIPcVITcVIXcVOcVOPcVOTcVOXcVUcVUPcVURcVURXcVUTcVUXcVYcVYPcVYR
cVYRXcVYTcVYXcWAcWAPcWATcWAXcWEcWEPcWEXcWOcWOPcWOXcWUcWUOcWUOPcWUOXcXIcXIEcXIEPcXIETcXIEXcXIPcXIT
cXIXcXOcXOPcXOTcXOXcXUOcXUOXcXYcXYPcXYRcXYRXcXYTcXYXcYIcYIEcYIEPcYIETcYIEXcYIPcYITcYIXcYOcYOPcYOT
cYOXcYUcYUOcYUOPcYUOTcYUOXcYUPcYURcYURXcYUTcYUXcYYcYYPcYYRcYYRXcYYTcYYXcZAcZAPcZATcZAXcZEcZEPcZEX
cZHAcZHAPcZHATcZHAXcZHEcZHEPcZHETcZHEXcZHOcZHOPcZHOTcZHOXcZHUcZHUOcZHUOPcZHUOXcZHUPcZHURcZHURXcZHUT
cZHUXcZHYcZHYPcZHYRcZHYRXcZHYTcZHYXcZIcZIEcZIEPcZIEXcZIPcZITcZIXcZOcZOPcZOTcZOXcZUcZUOcZUOPcZUOXcZUP
cZURcZURXcZUTcZUXcZYcZYPcZYRcZYRXcZYTcZYXcZZAcZZAPcZZATcZZAXcZZEcZZEPcZZEXcZZIcZZIEcZZIEPcZZIET
cZZIEXcZZIPcZZITcZZIXcZZOcZZOPcZZOXcZZUcZZUPcZZURcZZURXcZZUXcZZYcZZYPcZZYRcZZYRXcZZYTcZZYXaYIN YANG
aYO-YOaZ NOTATION BAG MEMBERSHIPcDOMAIN ANTIRESTRICTIONcLEFT BINDING BRACKETdIMAGE BRACKET
cRANGE ANTIRESTRICTIONcRELATIONAL COMPOSITIONcRIGHT BINDING BRACKETdIMAGE BRACKETcSCHEMA COMPOSITION
dPIPINGdPROJECTIONcSPOTcTYPE COLONaZANABAZAR SQUARE CLOSING DOUBLE-LINED HEAD MARKdHEAD MARK
cCLUSTER-FINAL LETTER LAeRAeVAeYAcCLUSTER-INITIAL LETTER RAcFINAL CONSONANT MARK
cINITIAL DOUBLE-LINED HEAD MARKdHEAD MARKcLETTER -AdAdBAdBHAdCAdCHAdDAdDDAdDDHAdDHAdDZAdDZHAdGAdGHA
dHAdJAdKAdKHAdKSSAdLAdMAdNAdNGAdNNAdNYAdPAdPHAdRAdSAdSHAdSSAdTAdTHAdTSAdTSHAdTTAdTTHAdVAdYAdZAdZHA
cMARK DOUBLE SHADdLONG TSHEGdSHADdTSHEGcSIGN ANUSVARAdCANDRA WITH ORNAMENTdCANDRABINDUeWITH ORNAMENT
dVIRAMAdVISARGAcSUBJOINERcVOWEL LENGTH MARKdSIGN AIeAUeEeIeOeOEeREVERSED IeUeUEaZEBRA FACE
aZERO WIDTH JOINERcNO-BREAK SPACEcNON-JOINERcSPACEaZEUSaZIPPER-MOUTH FACE
aZNAMENNY COMBINING ATTACHING VERTICAL OMETcLOWER TONAL RANGE INDICATORcMARK BORZAYAdCHASHKAePOLNAYA
dCURVED OMETdDEMESTVENNY ZADERZHKAdDVOETOCHIEdGORAZDO NIZKO ON LEFTgRIGHTfS KRYZHEM ON LEFTiRIGHT
eVYSOKOdKACHKAdKRYZHeON LEFTdKUPNAYAdLOMKAdMALO POVYSHE ON LEFTgRIGHTfS KHOKHLOM ON LEFTiRIGHT
gKRYZHEMfSTRANNOdNIZKO ON LEFTfRIGHTeS KRYZHEM ON LEFThRIGHTdOBLACHKOdONdOTSECHKAdPODCHASHIE
eWITH VERTICAL STROKEdPODVERTKAdPOVYSHE ON LEFTfRIGHTeS KHOKHLOM ON LEFThRIGHTfKRYZHEMeSTRANNOdRAVNO
dRAZSEKAdSKOBAdSOROCHYA NOZHKAdSREDNE ON LEFTfRIGHTdSTRANNO MALO POVYSHEdTIKHAYAdTOCHKA
dTSATA ON LEFTfRIGHTeS KRYZHEMdUDARKAdVYSOKO ON LEFTfRIGHTeS KHOKHLOM ON LEFThRIGHTfKRYZHEM
dZADERZHKAdZELOdZEVOKcTONAL RANGE MARK MRACHNOfSVETLOfTRESVETLObNEUME CHASHKAcCHELYUSTKA
cDEMESTVENNY KLYUCHcDERBITSAcDOUBLE ZAPYATAYAcDUDAcDVA V CHELNUcFITAcGOLUBCHIK BORZYdMRACHNYdSVETLY
dTIKHYdTRESVETLYcKHAMILOcKLYUCHcKOBYLAcKRYUKdTIKHYcKRYZHcKUFISMAcMECHIKdKLYUCHENEPOSTOYANNY
dKLYUCHEPOVODNYdKLYUCHEVOYdPOVODNYcNEMKAcOBLAKOcOSOKAdKLYUCHEVAYA NEPOSTOYANNAYAeSVETLAYA
dKRYUKOVAYA SVETLAYAdSVETLAYAdTRESVETLAYAcPALKAcPARAKLITcPAUKcPEREVODKAdNEPOSTOYANNAYAcPODCHASHIE
cPOLKULIZMYcREVERSED CHELYUSTKAcROGcSKAMEYTSA DVOECHELNAYA KLYUCHEVAYAeNEPOSTOYANNAYAePROSTAYA
eSVETLAYAdKLYUCHENEPOSTOYANNAYAdKLYUCHEVAYA SVETLAYAeTIKHAYAdMRACHNAYAdSVETLAYAdTIKHAYAdTRESVETLAYA
cSLOZHITIEdS KRYZHEMeZAPYATOYdZAKRYTOEcSTATYAdNEPOSTOYANNAYAdS DVUMYA ZAPYATYMIeKRYZHEMfI ZAPYATOY
eROGOMeZAPYATOYfI KRYZHEMgPODCHASHIEMdZAKRYTAYAeS ZAPYATOYcSTOPITSAdS OCHKOMdWITH SOROCHYA NOZHKA
cSTRELA DVOECHELNAYAeKLYUCHEVAYAdDVOECHELNOKRYZHEVAYAdDVOECHELNOPOVODNAYAeKLYUCHEVAYAdGROMNAYA
eWITH SINGLE ZAPYATAYAdGROMOKRYZHEVAYAePOVODNAYAdGROMOPOVODNAYAeWITH DOUBLE ZAPYATAYA
fSINGLE ZAPYATAYAdKLYUCHENEPOSTOYANNAYAdKLYUCHEPOVODNAYAdKRYUKOVAYAeGROMNAYAfWITH SINGLE ZAPYATAYA
eGROMOKRYZHEVAYAfPOVODNAYAeGROMOPOVODNAYAfWITH DOUBLE ZAPYATAYAgSINGLE ZAPYATAYAePOVODNAYAeTRYASKA
dKRYZHEVAYAdMRACHNOTIKHAYAdNEPOSTOYANNAYAdPOLUPOVODNAYAdPOVODNAYAdPROSTAYAdTIKHAYA PUTNAYA
dTRYASOGLASNAYAdTRYASOPOVODNAYAdTRYASOSTRELNAYAcVRAKHIYA KLYUCHEVAYA MRACHNAYAePROSTAYAeSVETLAYA
eTRESVETLAYAdMRACHNAYAdPROSTAYAdSVETLAYAdTRESVETLAYAcZANOZHEKcZAPYATAYAcZMEYTSA
bPRIZNAK MODIFIER DIRECTION FLIPdKRYZHdLEVEL-2dLEVEL-3dROGaZOMBIEaZWJaZWNBSPaZWNJaZWSP
"

end RepoAudit.Text.CharName
