/-! # Names of characters from E to H

The names that start with these letters, in the order of their words.  A small letter starts each
name and tells how many words it shares with the name before it: none for `a`, one for `b`.
-/

namespace RepoAudit.Text.CharName

def fromEtoH : String := "
aE-MAIL SYMBOLaEAGLEaEARbOF MAIZEcRICEbWITH HEARING AIDaEARTHbGLOBE AMERICAScASIA-AUSTRALIA
cEUROPE-AFRICAbGROUNDaEAST SYRIAC CROSSaEDITORIAL CORONISaEGGaEGYPTIAN HIEROGLYPH A001cA002cA003
cA004cA005cA005AcA006cA006AcA006BcA007cA008cA009cA010cA011cA012cA013cA014cA014AcA015cA016cA017cA017A
cA018cA019cA020cA021cA022cA023cA024cA025cA026cA027cA028cA029cA030cA031cA032cA032AcA033cA034cA035
cA036cA037cA038cA039cA040cA040AcA041cA042cA042AcA043cA043AcA044cA045cA045AcA046cA047cA048cA049cA050
cA051cA052cA053cA054cA055cA056cA057cA058cA059cA060cA061cA062cA063cA064cA065cA066cA067cA068cA069cA070
cAA001cAA002cAA003cAA004cAA005cAA006cAA007cAA007AcAA007BcAA008cAA009cAA010cAA011cAA012cAA013cAA014
cAA015cAA016cAA017cAA018cAA019cAA020cAA021cAA022cAA023cAA024cAA025cAA026cAA027cAA028cAA029cAA030
cAA031cAA032cB001cB002cB003cB004cB005cB005AcB006cB007cB008cB009cBEGIN SEGMENTcC001cC002cC002AcC002B
cC002CcC003cC004cC005cC006cC007cC008cC009cC010cC010AcC011cC012cC013cC014cC015cC016cC017cC018cC019
cC020cC021cC022cC023cC024cD001cD002cD003cD004cD005cD006cD007cD008cD008AcD009cD010cD011cD012cD013
cD014cD015cD016cD017cD018cD019cD020cD021cD022cD023cD024cD025cD026cD027cD027AcD028cD029cD030cD031
cD031AcD032cD033cD034cD034AcD035cD036cD037cD038cD039cD040cD041cD042cD043cD044cD045cD046cD046AcD047
cD048cD048AcD049cD050cD050AcD050BcD050CcD050DcD050EcD050FcD050GcD050HcD050IcD051cD052cD052AcD053
cD054cD054AcD055cD056cD057cD058cD059cD060cD061cD062cD063cD064cD065cD066cD067cD067AcD067BcD067CcD067D
cD067EcD067FcD067GcD067HcE001cE002cE003cE004cE005cE006cE007cE008cE008AcE009cE009AcE010cE011cE012
cE013cE014cE015cE016cE016AcE017cE017AcE018cE019cE020cE020AcE021cE022cE023cE024cE025cE026cE027cE028
cE028AcE029cE030cE031cE032cE033cE034cE034AcE036cE037cE038cEND SEGMENTcF001cF001AcF002cF003cF004cF005
cF006cF007cF008cF009cF010cF011cF012cF013cF013AcF014cF015cF016cF017cF018cF019cF020cF021cF021AcF022
cF023cF024cF025cF026cF027cF028cF029cF030cF031cF031AcF032cF033cF034cF035cF036cF037cF037AcF038cF038A
cF039cF040cF041cF042cF043cF044cF045cF045AcF046cF046AcF047cF047AcF048cF049cF050cF051cF051AcF051B
cF051CcF052cF053cG001cG002cG003cG004cG005cG006cG006AcG007cG007AcG007BcG008cG009cG010cG011cG011AcG012
cG013cG014cG015cG016cG017cG018cG019cG020cG020AcG021cG022cG023cG024cG025cG026cG026AcG027cG028cG029
cG030cG031cG032cG033cG034cG035cG036cG036AcG037cG037AcG038cG039cG040cG041cG042cG043cG043AcG044cG045
cG045AcG046cG047cG048cG049cG050cG051cG052cG053cG054cH001cH002cH003cH004cH005cH006cH006AcH007cH008
cHORIZONTAL JOINERcI001cI002cI003cI004cI005cI005AcI006cI007cI008cI009cI009AcI010cI010AcI011cI011A
cI012cI013cI014cI015cINSERT AT BOTTOM ENDfSTARTeTOP ENDfSTARTcK001cK002cK003cK004cK005cK006cK007
cK008cL001cL002cL002AcL003cL004cL005cL006cL006AcL007cL008cM001cM001AcM001BcM002cM003cM003AcM004cM005
cM006cM007cM008cM009cM010cM010AcM011cM012cM012AcM012BcM012CcM012DcM012EcM012FcM012GcM012HcM013cM014
cM015cM015AcM016cM016AcM017cM017AcM018cM019cM020cM021cM022cM022AcM023cM024cM024AcM025cM026cM027cM028
cM028AcM029cM030cM031cM031AcM032cM033cM033AcM033BcM034cM035cM036cM037cM038cM039cM040cM040AcM041cM042
cM043cM044cN001cN002cN003cN004cN005cN006cN007cN008cN009cN010cN011cN012cN013cN014cN015cN016cN017cN018
cN018AcN018BcN019cN020cN021cN022cN023cN024cN025cN025AcN026cN027cN028cN029cN030cN031cN032cN033cN033A
cN034cN034AcN035cN035AcN036cN037cN037AcN038cN039cN040cN041cN042cNL001cNL002cNL003cNL004cNL005cNL005A
cNL006cNL007cNL008cNL009cNL010cNL011cNL012cNL013cNL014cNL015cNL016cNL017cNL017AcNL018cNL019cNL020
cNU001cNU002cNU003cNU004cNU005cNU006cNU007cNU008cNU009cNU010cNU010AcNU011cNU011AcNU012cNU013cNU014
cNU015cNU016cNU017cNU018cNU018AcNU019cNU020cNU021cNU022cNU022AcO001cO001AcO002cO003cO004cO005cO005A
cO006cO006AcO006BcO006CcO006DcO006EcO006FcO007cO008cO009cO010cO010AcO010BcO010CcO011cO012cO013cO014
cO015cO016cO017cO018cO019cO019AcO020cO020AcO021cO022cO023cO024cO024AcO025cO025AcO026cO027cO028cO029
cO029AcO030cO030AcO031cO032cO033cO033AcO034cO035cO036cO036AcO036BcO036CcO036DcO037cO038cO039cO040
cO041cO042cO043cO044cO045cO046cO047cO048cO049cO050cO050AcO050BcO051cOVERLAY MIDDLEcP001cP001AcP002
cP003cP003AcP004cP005cP006cP007cP008cP009cP010cP011cQ001cQ002cQ003cQ004cQ005cQ006cQ007cR001cR002
cR002AcR003cR003AcR003BcR004cR005cR006cR007cR008cR009cR010cR010AcR011cR012cR013cR014cR015cR016cR016A
cR017cR018cR019cR020cR021cR022cR023cR024cR025cR026cR027cR028cR029cS001cS002cS002AcS003cS004cS005
cS006cS006AcS007cS008cS009cS010cS011cS012cS013cS014cS014AcS014BcS015cS016cS017cS017AcS018cS019cS020
cS021cS022cS023cS024cS025cS026cS026AcS026BcS027cS028cS029cS030cS031cS032cS033cS034cS035cS035AcS036
cS037cS038cS039cS040cS041cS042cS043cS044cS045cS046cT001cT002cT003cT003AcT004cT005cT006cT007cT007A
cT008cT008AcT009cT009AcT010cT011cT011AcT012cT013cT014cT015cT016cT016AcT017cT018cT019cT020cT021cT022
cT023cT024cT025cT026cT027cT028cT029cT030cT031cT032cT032AcT033cT033AcT034cT035cT036cU001cU002cU003
cU004cU005cU006cU006AcU006BcU007cU008cU009cU010cU011cU012cU013cU014cU015cU016cU017cU018cU019cU020
cU021cU022cU023cU023AcU024cU025cU026cU027cU028cU029cU029AcU030cU031cU032cU032AcU033cU034cU035cU036
cU037cU038cU039cU040cU041cU042cV001cV001AcV001BcV001CcV001DcV001EcV001FcV001GcV001HcV001IcV002cV002A
cV003cV004cV005cV006cV007cV007AcV007BcV008cV009cV010cV011cV011AcV011BcV011CcV012cV012AcV012BcV013
cV014cV015cV016cV017cV018cV019cV020cV020AcV020BcV020CcV020DcV020EcV020FcV020GcV020HcV020IcV020J
cV020KcV020LcV021cV022cV023cV023AcV024cV025cV026cV027cV028cV028AcV029cV029AcV030cV030AcV031cV031A
cV032cV033cV033AcV034cV035cV036cV037cV037AcV038cV039cV040cV040AcVERTICAL JOINERcW001cW002cW003cW003A
cW004cW005cW006cW007cW008cW009cW009AcW010cW010AcW011cW012cW013cW014cW014AcW015cW016cW017cW017AcW018
cW018AcW019cW020cW021cW022cW023cW024cW024AcW025cX001cX002cX003cX004cX004AcX004BcX005cX006cX006AcX007
cX008cX008AcY001cY001AcY002cY003cY004cY005cY006cY007cY008cZ001cZ002cZ002AcZ002BcZ002CcZ002DcZ003
cZ003AcZ003BcZ004cZ004AcZ005cZ005AcZ006cZ007cZ008cZ009cZ010cZ011cZ012cZ013cZ014cZ015cZ015AcZ015B
cZ015CcZ015DcZ015EcZ015FcZ015GcZ015HcZ015IcZ016cZ016AcZ016BcZ016CcZ016DcZ016EcZ016FcZ016GcZ016H
aEIGHT PETALLED OUTLINED BLACK FLORETTEbPOINTED BLACK STARcPINWHEEL STARcRECTILINEAR BLACK STAR
bSPOKED ASTERISKbTEARDROP-SPOKED PROPELLER ASTERISKaEIGHTH NOTEaEJECT SYMBOLaELBASAN LETTER AcBEcCE
cCHEcDEcDHEcEcEIcFEcGEcGHAMMAcGHEcGJEcHEcIcJEcKEcKHEcLEcLLEcMEcNAcNDEcNEcNJEcOcPEcQEcREcRREcSEcSHE
cTEcTHEcUcVEcXEcYcZEcZHEaELECTRIC ARROWbLIGHT BULBbPLUGbTORCHaELECTRICAL INTERSECTIONaELEMENT OF
cOPENING DOWNWARDSdUPWARDScWITH DOT ABOVEdLONG HORIZONTAL STROKEdOVERBARdTWO HORIZONTAL STROKES
dUNDERBARdVERTICAL BAR AT END OF HORIZONTAL STROKEaELEPHANTaELEVATORaELFaELYMAIC LETTER ALEPHcAYIN
cBETHcDALETHcGIMELcHEcHETHcKAPHcLAMEDHcMEMcNUNcPEcQOPHcRESHcSADHEcSAMEKHcSHINcTAWcTETHcWAWcYODH
cZAYINbLIGATURE ZAYIN-YODHaEM DASHbQUADbSPACEaEMOJI COMPONENT BALDcCURLY HAIRcRED HAIRcWHITE HAIR
bMODIFIER FITZPATRICK TYPE-1-2dTYPE-3dTYPE-4dTYPE-5dTYPE-6aEMPHASIS SYMBOLaEMPTY DOCUMENTbNESTbNOTE
cPADcPAGEbPAGEbPAGESbSETcWITH LEFT ARROW ABOVEdOVERBARdRIGHT ARROW ABOVEdSMALL CIRCLE ABOVEaEN DASH
bQUADbSPACEaEND OF GUARDED AREAcLINEcMEDIUMcPROOFcPROTECTED AREAcSELECTED AREAcTEXTcTRANSMISSION
dBLOCKbWITH LEFTWARDS ARROW ABOVEaENQaENQUIRYaENTER SYMBOLaENVELOPEbWITH DOWNWARDS ARROW ABOVE
cLIGHTNINGaEOLaEOMaEOTaEPAaEQUAL AND PARALLEL TObTO BY DEFINITIONcOR GREATER-THANdLESS-THANdPRECEDES
dSUCCEEDSaEQUALS COLONbSIGNcABOVE LEFTWARDS ARROWdPLUS SIGNdRIGHTWARDS ARROWdTILDE OPERATOR
cAND SLANTED PARALLELfWITH TILDE ABOVEcWITH BUMPY ABOVEdDOT BELOWdINFINITY BELOW
dTWO DOTS ABOVE AND TWO DOTS BELOWbWITH ASTERISKaEQUIANGULAR TOaEQUIVALENT TObWITH FOUR DOTS ABOVE
aERASE TO THE LEFTdRIGHTaERIS FORM ONEcTWOaERROR-BARRED BLACK CIRCLEcDIAMONDcSQUAREbWHITE CIRCLE
cDIAMONDcSQUAREaESAaESCaESCAPEaESTIMATED SYMBOLaESTIMATESaETBaETHIOPIC COLON
bCOMBINING GEMINATION AND VOWEL LENGTH MARKdMARKcVOWEL LENGTH MARKbCOMMAbDIGIT EIGHTcFIVEcFOURcNINE
cONEcSEVENcSIXcTHREEcTWObFULL STOPbNUMBER EIGHTYcFIFTYcFORTYcHUNDREDcNINETYcSEVENTYcSIXTYcTEN
dTHOUSANDcTHIRTYcTWENTYbPARAGRAPH SEPARATORbPREFACE COLONbQUESTION MARKbSECTION MARKbSEMICOLON
bSYLLABLE BAcBAAcBBAcBBAAcBBEcBBEEcBBIcBBOcBBUcBEcBEEcBIcBOcBOAcBUcBWAcBWEcBWEEcBWIcCAcCAAcCCAcCCAA
cCCEcCCEEcCCHAcCCHAAcCCHEcCCHEEcCCHHAcCCHHAAcCCHHEcCCHHEEcCCHHIcCCHHOcCCHHUcCCHIcCCHOcCCHUcCCIcCCO
cCCUcCEcCEEcCHAcCHAAcCHEcCHEEcCHIcCHOcCHOAcCHUcCHWAcCIcCOcCOAcCUcCWAcDAcDAAcDDAcDDAAcDDEcDDEEcDDHAA
cDDHEcDDHEEcDDHIcDDHOcDDHUcDDIcDDOcDDOAcDDUcDDWAcDEcDEEcDIcDOcDOAcDUcDWAcDZAAcDZEcDZEEcDZIcDZOcDZU
cFAcFAAcFEcFEEcFIcFOcFUcFWAcFWEcFWEEcFWIcFYAcGAcGAAcGEcGEEcGGAcGGAAcGGEcGGEEcGGIcGGOcGGUcGGWAcGGWAA
cGGWEcGGWEEcGGWIcGIcGLOTTAL AdAAdEdEEdIdOdOAdUdWAcGOcGOAcGUcGURAGE BWEEdBWIdFWEEdFWIdGWEdGWEEdGWI
dHHWAdKWEdKWEEdKWIdMWEEdMWIdPWEEdPWIdQWEdQWEEdQWIcGWAcGWAAcGWEcGWEEcGWIcGYAcGYAAcGYEcGYEEcGYIcGYO
cGYUcHAcHAAcHEcHEEcHHAcHHAAcHHEcHHEEcHHIcHHOcHHUcHHWAcHHWEcHHWEEcHHWIcHHYAcHHYAAcHHYEcHHYEEcHHYI
cHHYOcHHYUcHIcHOcHOAcHUcJAcJAAcJEcJEEcJIcJOcJOAcJUcJWAcKAcKAAcKEcKEEcKIcKOcKOAcKUcKWAcKWAAcKWEcKWEE
cKWIcKXAcKXAAcKXEcKXEEcKXIcKXOcKXUcKXWAcKXWAAcKXWEcKXWEEcKXWIcKYAcKYAAcKYEcKYEEcKYIcKYOcKYUcLAcLAA
cLEcLEEcLIcLOcLOAcLUcLWAcMAcMAAcMEcMEEcMIcMOcMOAcMUcMWAcMWEcMWEEcMWIcMYAcNAcNAAcNEcNEEcNIcNOcNOAcNU
cNWAcNYAcNYAAcNYEcNYEEcNYIcNYOcNYOAcNYUcNYWAcPAcPAAcPEcPEEcPHAcPHAAcPHARYNGEAL AdAAdEdEEdIdOdUcPHE
cPHEEcPHIcPHOcPHOAcPHUcPHWAcPIcPOcPOAcPUcPWAcPWEcPWEEcPWIcQAcQAAcQEcQEEcQHAcQHAAcQHEcQHEEcQHIcQHO
cQHUcQHWAcQHWAAcQHWEcQHWEEcQHWIcQIcQOcQOAcQUcQWAcQWAAcQWEcQWEEcQWIcQYAcQYAAcQYEcQYEEcQYIcQYOcQYUcRA
cRAAcREcREEcRIcROcROAcRUcRWAcRYAcSAcSAAcSEcSEBATBEIT BWAdFWAdMWAdPWAcSEEcSHAcSHAAcSHEcSHEEcSHIcSHO
cSHOAcSHUcSHWAcSIcSOcSOAcSSAcSSAAcSSEcSSEEcSSIcSSOcSSUcSUcSWAcSZAcSZAAcSZEcSZEEcSZIcSZOcSZUcSZWAcTA
cTAAcTEcTEEcTHAcTHAAcTHEcTHEEcTHIcTHOcTHOAcTHUcTHWAcTIcTOcTOAcTSAcTSAAcTSEcTSEEcTSIcTSOcTSUcTSWA
cTTHAAcTTHEcTTHEEcTTHIcTTHOcTTHUcTUcTWAcTZAcTZAAcTZEcTZEEcTZIcTZOcTZOAcTZUcVAcVAAcVEcVEEcVIcVOcVU
cVWAcWAcWAAcWEcWEEcWIcWOcWOAcWUcXAcXAAcXEcXEEcXIcXOcXOAcXUcXWAcXWAAcXWEcXWEEcXWIcXYAcXYAAcXYEcXYEE
cXYIcXYOcXYUcYAcYAAcYEcYEEcYIcYOcYOAcYUcZAcZAAcZEcZEEcZHAcZHAAcZHEcZHEEcZHIcZHOcZHUcZHWAcZIcZOcZOA
cZUcZWAcZZAcZZAAcZZEcZZEEcZZIcZZOcZZUbTONAL MARK CHIRETdDERETdDERET-HIDETdDIFATdHIDETdKENATdKURT
dRIKRIKdSHORT RIKRIKdYIZETbWORDSPACEaETXaEULER CONSTANTaEURO SIGNaEURO-CURRENCY SIGNaEUROPEAN CASTLE
bPOST OFFICEaEVERGREEN TREEaEXCESSaEXCLAMATION MARKbQUESTION MARKaEXPRESSIONLESS FACE
aEXTENDED ARABIC-INDIC DIGIT EIGHTdFIVEdFOURdNINEdONEdSEVENdSIXdTHREEdTWOdZERO
aEXTRATERRESTRIAL ALIENaEXTREMELY HEAVY FIVE SPOKED ASTERISKcGREEK CROSScSALTIREcSIX SPOKED ASTERISK
cWHITE CIRCLEdSQUAREaEYEaEYEGLASSESaEYESaFACE HOLDING BACK TEARSbMASSAGEbPALM
bSAVOURING DELICIOUS FOODbSCREAMING IN FEARbTHROWING A KISSbWITH COLD SWEATcCOWBOY HAT
cDIAGONAL MOUTHcFINGER COVERING CLOSED LIPScHEAD-BANDAGEcLOOK OF TRIUMPHcMEDICAL MASKcMONOCLE
cNO GOOD GESTUREcOK GESTUREcONE EYEBROW RAISEDcOPEN EYES AND HAND OVER MOUTHdMOUTHeAND COLD SWEAT
eVOMITINGcPARTY HORN AND PARTY HATcPEEKING EYEcPLEADING EYEScROLLING EYEScSTUCK-OUT TONGUE
eAND TIGHTLY-CLOSED EYESfWINKING EYEcTEARS OF JOYcTHERMOMETERcUNEVEN EYES AND WAVY MOUTH
bWITHOUT MOUTHaFACSIMILE SIGNaFACTORYaFAIRYaFALAFELaFALLEN LEAF
aFALLING DIAGONAL CROSSING NORTH EAST ARROWdRISING DIAGONALcIN WHITE CIRCLE IN BLACK SQUAREaFAMILY
aFARSI SYMBOLaFATHER CHRISTMASaFAX ICONbMACHINEaFEARFUL FACEaFEATHERaFEMALE SIGN
aFEMININE ORDINAL INDICATORaFENCERaFERRIS WHEELaFERRYaFFaFIELD HOCKEY STICK AND BALLaFIGURE DASH
bSPACEaFILE CABINETbFOLDERbSEPARATORaFILM FRAMESbPROJECTORaFINITE PART INTEGRALaFIREbENGINE
bEXTINGUISHERaFIRECRACKERaFIREWORK SPARKLERaFIREWORKSaFIRST PLACE MEDALbQUARTER MOONdSYMBOL
dWITH FACEbSTRONG ISOLATEaFISHbCAKE WITH SWIRL DESIGNaFISHEYEaFISHING POLE AND FISHaFISTED HAND SIGN
aFIVE DOT MARKcPUNCTUATIONaFLAG IN HOLEaFLAMINGOaFLAT SHOEaFLATBREADaFLATNESSaFLEUR-DE-LIS
aFLEXED BICEPSaFLOPPY DISKaFLORAL HEARTaFLOWERbPLAYING CARDSbPUNCTUATION MARKaFLUSHED FACEaFLY
aFLYING DISCbENVELOPEbSAUCERaFOGaFOGGYaFOLDERaFONDUEaFOOTaFOOTPRINTSaFOR ALLaFORCESaFORK AND KNIFE
dWITH PLATEaFORKED PARAGRAPHOSaFORKINGaFORM FEEDaFORTUNE COOKIEaFOUNTAIN
aFOUR BALLOON-SPOKED ASTERISKbCLUB-SPOKED ASTERISKbCORNER ARROWS CIRCLING ANTICLOCKWISEbDOT MARK
cPUNCTUATIONbLEAF CLOVERbPOINTED BLACK STARbTEARDROP-SPOKED ASTERISKaFOUR-PER-EM SPACEaFOURTH ROOT
aFOX FACEaFRACTION NUMERATOR ONEbSLASHaFRAME WITH AN XcPICTUREcTILESaFREEZING FACEaFRENCH FRANC SIGN
bFRIESaFRIED SHRIMPaFROG FACEaFRONT-FACING BABY CHICKaFRONT-TILTED SHADOWED WHITE RIGHTWARDS ARROW
aFROWNaFROWNING FACE WITH OPEN MOUTHaFSaFSIaFUEL PUMPaFULL BLOCKbMOON SYMBOLcWITH FACEbOUTER JOIN
bSTOPaFULLWIDTH AMPERSANDbAPOSTROPHEbASTERISKbBROKEN BARbCENT SIGNbCIRCUMFLEX ACCENTbCOLONbCOMMA
bCOMMERCIAL ATbDIGIT EIGHTcFIVEcFOURcNINEcONEcSEVENcSIXcTHREEcTWOcZERObDOLLAR SIGNbEQUALS SIGN
bEXCLAMATION MARKbFULL STOPbGRAVE ACCENTbGREATER-THAN SIGNbHYPHEN-MINUSbLATIN CAPITAL LETTER AeBeCeD
eEeFeGeHeIeJeKeLeMeNeOePeQeReSeTeUeVeWeXeYeZcSMALL LETTER AeBeCeDeEeFeGeHeIeJeKeLeMeNeOePeQeReSeTeU
eVeWeXeYeZbLEFT CURLY BRACKETcPARENTHESIScSQUARE BRACKETcWHITE PARENTHESISbLESS-THAN SIGNbLOW LINE
bMACRONbNOT SIGNbNUMBER SIGNbPERCENT SIGNbPLUS SIGNbPOUND SIGNbQUESTION MARKbQUOTATION MARK
bREVERSE SOLIDUSbRIGHT CURLY BRACKETcPARENTHESIScSQUARE BRACKETcWHITE PARENTHESISbSEMICOLONbSOLIDUS
bTILDEbVERTICAL LINEbWON SIGNbYEN SIGNaFUNCTION APPLICATIONaFUNERAL URNaFUSEaFVS1aFVS2aFVS3aFVS4
aGAME DIEaGARLICaGEARbWITH HANDLESbWITHOUT HUBaGEM STONEaGEMINIaGENIEaGEOMETRIC PROPORTION
aGEOMETRICALLY EQUAL TObEQUIVALENT TOaGEORGIAN CAPITAL LETTER AENdANdBANdCANdCHARdCHINdCILdDONdEN
dGANdGHANdHAEdHARdHEdHIEdHOEdINdJHANdJILdKANdKHARdLASdMANdNARdONdPARdPHARdQARdRAEdSANdSHINdTANdTAR
dUNdVINdWEdXANdYNdZENdZHARbLETTER AENcAINcANcBANcCANcCHARcCHINcCILcDONcELIFIcENcFIcGANcGHANcHAEcHAR
cHARD SIGNcHEcHIEcHOEcINcJHANcJILcKANcKHARcLABIAL SIGNcLAScMANcNARcONcPARcPHARcQARcRAEcSANcSHINcTAN
cTARcTURNED GANcUNcVINcWEcXANcYNcZENcZHARbMTAVRULI CAPITAL LETTER AENeAINeANeBANeCANeCHAReCHINeCIL
eDONeELIFIeENeFIeGANeGHANeHAEeHAReHARD SIGNeHEeHIEeHOEeINeJHANeJILeKANeKHAReLABIAL SIGNeLASeMANeNAR
eONePARePHAReQAReRAEeSANeSHINeTANeTAReTURNED GANeUNeVINeWEeXANeYNeZENeZHARbPARAGRAPH SEPARATOR
bSMALL LETTER AENdANdBANdCANdCHARdCHINdCILdDONdENdGANdGHANdHAEdHARdHEdHIEdHOEdINdJHANdJILdKANdKHAR
dLASdMANdNARdONdPARdPHARdQARdRAEdSANdSHINdTANdTARdUNdVINdWEdXANdYNdZENdZHARaGERMAN PENNY SIGN
aGETA MARKaGHOSTaGIMEL SYMBOLaGIRAFFE FACEaGIRLaGIRLS SYMBOLaGLAGOLITIC CAPITAL LETTER AZUdBIG YUS
dBUKYdCAUDATE CHRIVIdCHRIVIdDJERVIdDOBROdDZELOdFITAdFRITUdGLAGOLIdHERUdIdINITIAL IZHE
dIOTATED BIG YUSeSMALL YUSdIZHEdIZHITSAdKAKOdLATINATE MYSLITEdLJUDIJEdMYSLITEdNASHIdONUdOTUdPE
dPOKOJIdRITSIdSHAdSHTAdSHTAPICdSLOVOdSMALL YUSfWITH TAILdSPIDERY HAdTROKUTASTI AdTSIdTVRIDOdUKUdVEDE
dYATIdYERIdYERUdYESTUdYOdYUdZEMLJAdZHIVETEbSMALL LETTER AZUdBIG YUSdBUKYdCAUDATE CHRIVIdCHRIVI
dDJERVIdDOBROdDZELOdFITAdFRITUdGLAGOLIdHERUdIdINITIAL IZHEdIOTATED BIG YUSeSMALL YUSdIZHEdIZHITSA
dKAKOdLATINATE MYSLITEdLJUDIJEdMYSLITEdNASHIdONUdOTUdPEdPOKOJIdRITSIdSHAdSHTAdSHTAPICdSLOVO
dSMALL YUSfWITH TAILdSPIDERY HAdTROKUTASTI AdTSIdTVRIDOdUKUdVEDEdYATIdYERIdYERUdYESTUdYOdYUdZEMLJA
dZHIVETEaGLASS OF MILKaGLEICH STARKaGLOBE WITH MERIDIANSaGLOVESaGLOWING STARaGOAL NETaGOATaGOGGLES
aGOLFERaGORILLAaGOTHIC LETTER AHSAcAIHVUScBAIRKANcDAGScEIScFAIHUcGIBAcHAGLcHWAIRcIGGWScIUJAcJER
cKUSMAcLAGUScMANNAcNAUTHScNINE HUNDREDcNINETYcOTHALcPAIRTHRAcQAIRTHRAcRAIDAcSAUILcTEIWScTHIUTHcURUS
cWINJAaGRADUATION CAPaGRANTHA AU LENGTH MARKbLETTER AcAAcAIcAUcBAcBHAcCAcCHAcDAcDDAcDDHAcDHAcEEcGA
cGHAcHAcIcIIcJAcJHAcKAcKHAcLAcLLAcMAcNAcNGAcNNAcNYAcOOcPAcPHAcRAcSAcSHAcSSAcTAcTHAcTTAcTTHAcUcUUcVA
cVEDIC ANUSVARAdDOUBLE ANUSVARAcVOCALIC LdLLdRdRRcYAbOMbSIGN ANUSVARAcAVAGRAHAcCANDRABINDU
cCOMBINING ANUSVARA ABOVEcNUKTAcPLUTAcVIRAMAcVISARGAbVOWEL SIGN AAdAIdAUdEEdIdIIdOOdUdUUdVOCALIC L
eLLeReRRaGRAPESaGRAVE ACCENTaGREATER-THAN ABOVE DOUBLE-LINE EQUAL ABOVE LESS-THAN
cLESS-THAN ABOVE DOUBLE-LINE EQUALcRIGHTWARDS ARROWcSIMILAR ABOVE LESS-THANdOR EQUAL
cSLANTED EQUAL ABOVE LESS-THAN ABOVE SLANTED EQUALbAND NOT APPROXIMATEcSINGLE-LINE NOT EQUAL TO
bBESIDE LESS-THANbBUT NOT EQUAL TOdEQUIVALENT TObCLOSED BY CURVEeABOVE SLANTED EQUAL
bEQUAL TO OR LESS-THANbOR APPROXIMATEcEQUAL TOcEQUIVALENT TOcLESS-THANcSLANTED EQUAL TO
fWITH DOT ABOVEiLEFThINSIDEbOVER EQUAL TObOVERLAPPING LESS-THANbSIGNbWITH CIRCLE INSIDEcDOT
cQUESTION MARK ABOVEaGREEK ACROPHONIC ATTIC FIFTYeSTATERSeTALENTSeTHOUSANDfSTATERSdFIVEeHUNDRED
fSTATERSfTALENTSeSTATERSeTALENTSeTHOUSANDfTALENTSdONE DRACHMAeHALFeHUNDRED STATERSfTALENTSeQUARTER
eTHOUSAND STATERSfTALENTSdTEN MNASeSTATERSeTALENTSeTHOUSAND STATERScCARYSTIAN FIVE HUNDRED
cCYRENAIC TWO DRACHMAScDELPHIC FIVE MNAScEPIDAUREAN FIVE HUNDREDdTWOeDRACHMAScHERAEUM ONE PLETHRON
cHERMIONIAN FIFTYdONEdTENcMESSENIAN TENcNAXIAN FIVE HUNDREDcSTRATIAN FIFTY MNAScTHESPIAN FIFTY
dFIVE HUNDREDeTHOUSANDdONEeHUNDREDeTHOUSANDdTENdTHIRTYdTHREE HUNDREDdTWOcTROEZENIAN FIFTY
eALTERNATE FORMdFIVEeHUNDREDdTENeALTERNATE FORMbANO TELEIAbAROURA SIGNbARTABE SIGNbBETA SYMBOL
bCAPITAL DOTTED LUNATE SIGMA SYMBOLcKAI SYMBOLcLETTER ALPHAeWITH DASIAgAND OXIAiAND PROSGEGRAMMENI
hPERISPOMENIiAND PROSGEGRAMMENIhPROSGEGRAMMENIhVARIAiAND PROSGEGRAMMENIfMACRONfOXIAfPROSGEGRAMMENI
fPSILIgAND OXIAiAND PROSGEGRAMMENIhPERISPOMENIiAND PROSGEGRAMMENIhPROSGEGRAMMENIhVARIA
iAND PROSGEGRAMMENIfTONOSfVARIAfVRACHYdARCHAIC SAMPIdBETAdCHIdDELTAdEPSILONeWITH DASIAgAND OXIA
hVARIAfOXIAfPSILIgAND OXIAhVARIAfTONOSfVARIAdETAeWITH DASIAgAND OXIAiAND PROSGEGRAMMENIhPERISPOMENI
iAND PROSGEGRAMMENIhPROSGEGRAMMENIhVARIAiAND PROSGEGRAMMENIfOXIAfPROSGEGRAMMENIfPSILIgAND OXIA
iAND PROSGEGRAMMENIhPERISPOMENIiAND PROSGEGRAMMENIhPROSGEGRAMMENIhVARIAiAND PROSGEGRAMMENIfTONOS
fVARIAdGAMMAdHETAdIOTAeWITH DASIAgAND OXIAhPERISPOMENIhVARIAfDIALYTIKAfMACRONfOXIAfPSILIgAND OXIA
hPERISPOMENIhVARIAfTONOSfVARIAfVRACHYdKAPPAdLAMDAdMUdNUdOMEGAeWITH DASIAgAND OXIAiAND PROSGEGRAMMENI
hPERISPOMENIiAND PROSGEGRAMMENIhPROSGEGRAMMENIhVARIAiAND PROSGEGRAMMENIfOXIAfPROSGEGRAMMENIfPSILI
gAND OXIAiAND PROSGEGRAMMENIhPERISPOMENIiAND PROSGEGRAMMENIhPROSGEGRAMMENIhVARIAiAND PROSGEGRAMMENI
fTONOSfVARIAdOMICRONeWITH DASIAgAND OXIAhVARIAfOXIAfPSILIgAND OXIAhVARIAfTONOSfVARIA
dPAMPHYLIAN DIGAMMAdPHIdPIdPSIdRHOeWITH DASIAdSANdSHOdSIGMAdTAUdTHETAdUPSILONeWITH DASIAgAND OXIA
hPERISPOMENIhVARIAfDIALYTIKAfMACRONfOXIAfTONOSfVARIAfVRACHYdXIdYOTdZETAcLUNATE SIGMA SYMBOL
cREVERSED DOTTED LUNATE SIGMA SYMBOLdLUNATE SIGMA SYMBOLcTHETA SYMBOLbDASIAcAND OXIAdPERISPOMENI
dVARIAbDIALYTIKA AND OXIAdPERISPOMENIdVARIAcTONOSbDRACHMA SIGNbFIVE OBOLS SIGNbFOUR OBOLS SIGN
bGRAMMA SIGNbINDICTION SIGNbINSTRUMENTAL NOTATION SYMBOL-1dSYMBOL-11dSYMBOL-12dSYMBOL-13dSYMBOL-14
dSYMBOL-17dSYMBOL-18dSYMBOL-19dSYMBOL-2dSYMBOL-23dSYMBOL-24dSYMBOL-25dSYMBOL-26dSYMBOL-27dSYMBOL-29
dSYMBOL-30dSYMBOL-32dSYMBOL-36dSYMBOL-37dSYMBOL-38dSYMBOL-39dSYMBOL-4dSYMBOL-40dSYMBOL-42dSYMBOL-43
dSYMBOL-45dSYMBOL-47dSYMBOL-48dSYMBOL-49dSYMBOL-5dSYMBOL-50dSYMBOL-51dSYMBOL-52dSYMBOL-53dSYMBOL-54
dSYMBOL-7dSYMBOL-8bKAI SYMBOLbKAPPA SYMBOLbKORONISbKYATHOS BASE SIGNbLETTER ARCHAIC KOPPAcDIGAMMA
cKOPPAcSAMPIcSMALL CAPITAL GAMMAeLAMDAeOMEGAePIePSIeRHOcSTIGMAcYOTbLITRA SIGNbLOWER NUMERAL SIGN
bLUNATE EPSILON SYMBOLcSIGMA SYMBOLbMETRETES SIGNbMUSICAL LEIMMAbNUMERAL SIGNbOBOL SIGN
bONE HALF SIGNeALTERNATE FORMcQUARTER SIGNbOUNKIA SIGNbOXIAbPERISPOMENIbPHI SYMBOLbPI SYMBOL
bPROSGEGRAMMENIbPSILIcAND OXIAdPERISPOMENIdVARIAbQUESTION MARKbREVERSED LUNATE EPSILON SYMBOL
bRHO SYMBOLcWITH STROKE SYMBOLbSINUSOID SIGNbSMALL DOTTED LUNATE SIGMA SYMBOLcLETTER ALPHA
eWITH DASIAgAND OXIAiAND YPOGEGRAMMENIhPERISPOMENIiAND YPOGEGRAMMENIhVARIAiAND YPOGEGRAMMENI
hYPOGEGRAMMENIfMACRONfOXIAgAND YPOGEGRAMMENIfPERISPOMENIgAND YPOGEGRAMMENIfPSILIgAND OXIA
iAND YPOGEGRAMMENIhPERISPOMENIiAND YPOGEGRAMMENIhVARIAiAND YPOGEGRAMMENIhYPOGEGRAMMENIfTONOSfVARIA
gAND YPOGEGRAMMENIfVRACHYfYPOGEGRAMMENIdARCHAIC KOPPAeSAMPIdBETAdCHIdDELTAdDIGAMMAdEPSILON
eWITH DASIAgAND OXIAhVARIAfOXIAfPSILIgAND OXIAhVARIAfTONOSfVARIAdETAeWITH DASIAgAND OXIA
iAND YPOGEGRAMMENIhPERISPOMENIiAND YPOGEGRAMMENIhVARIAiAND YPOGEGRAMMENIhYPOGEGRAMMENIfOXIA
gAND YPOGEGRAMMENIfPERISPOMENIgAND YPOGEGRAMMENIfPSILIgAND OXIAiAND YPOGEGRAMMENIhPERISPOMENI
iAND YPOGEGRAMMENIhVARIAiAND YPOGEGRAMMENIhYPOGEGRAMMENIfTONOSfVARIAgAND YPOGEGRAMMENIfYPOGEGRAMMENI
dFINAL SIGMAdGAMMAdHETAdIOTAeWITH DASIAgAND OXIAhPERISPOMENIhVARIAfDIALYTIKAgAND OXIAhPERISPOMENI
hTONOShVARIAfMACRONfOXIAfPERISPOMENIfPSILIgAND OXIAhPERISPOMENIhVARIAfTONOSfVARIAfVRACHYdKAPPAdKOPPA
dLAMDAdMUdNUdOMEGAeWITH DASIAgAND OXIAiAND YPOGEGRAMMENIhPERISPOMENIiAND YPOGEGRAMMENIhVARIA
iAND YPOGEGRAMMENIhYPOGEGRAMMENIfOXIAgAND YPOGEGRAMMENIfPERISPOMENIgAND YPOGEGRAMMENIfPSILIgAND OXIA
iAND YPOGEGRAMMENIhPERISPOMENIiAND YPOGEGRAMMENIhVARIAiAND YPOGEGRAMMENIhYPOGEGRAMMENIfTONOSfVARIA
gAND YPOGEGRAMMENIfYPOGEGRAMMENIdOMICRONeWITH DASIAgAND OXIAhVARIAfOXIAfPSILIgAND OXIAhVARIAfTONOS
fVARIAdPAMPHYLIAN DIGAMMAdPHIdPIdPSIdRHOeWITH DASIAfPSILIdSAMPIdSANdSHOdSIGMAdSTIGMAdTAUdTHETA
dUPSILONeWITH DASIAgAND OXIAhPERISPOMENIhVARIAfDIALYTIKAgAND OXIAhPERISPOMENIhTONOShVARIAfMACRON
fOXIAfPERISPOMENIfPSILIgAND OXIAhPERISPOMENIhVARIAfTONOSfVARIAfVRACHYdXIdZETA
cREVERSED DOTTED LUNATE SIGMA SYMBOLdLUNATE SIGMA SYMBOLbSUBSCRIPT SMALL LETTER BETAeCHIeGAMMAePHI
eRHObSYMBOL TAU RHObTALENT SIGNbTHETA SYMBOLbTHREE OBOLS SIGNcQUARTERS SIGNbTONOSbTRYBLION BASE SIGN
bTWO OBOLS SIGNcTHIRDS SIGNbUPSILON WITH ACUTE AND HOOK SYMBOLdDIAERESIS AND HOOK SYMBOLdHOOK SYMBOL
bVARIAbVOCAL NOTATION SYMBOL-1dSYMBOL-10dSYMBOL-11dSYMBOL-12dSYMBOL-13dSYMBOL-14dSYMBOL-15dSYMBOL-16
dSYMBOL-17dSYMBOL-18dSYMBOL-19dSYMBOL-2dSYMBOL-20dSYMBOL-21dSYMBOL-22dSYMBOL-23dSYMBOL-24dSYMBOL-3
dSYMBOL-4dSYMBOL-5dSYMBOL-50dSYMBOL-51dSYMBOL-52dSYMBOL-53dSYMBOL-54dSYMBOL-6dSYMBOL-7dSYMBOL-8
dSYMBOL-9bXESTES SIGNbYEAR SIGNbYPOGEGRAMMENIbZERO SIGNaGREEN APPLEbBOOKbHEARTbSALADaGRIMACING FACE
aGRINNING CAT FACE WITH SMILING EYESbFACEcWITH ONE LARGE AND ONE SMALL EYEdSMILING EYESdSTAR EYES
aGROUP MARKbSEPARATORaGROWING HEARTaGSaGUARANI SIGNaGUARDSMANaGUIDE DOGaGUITAR
aGUJARATI ABBREVIATION SIGNbDIGIT EIGHTcFIVEcFOURcNINEcONEcSEVENcSIXcTHREEcTWOcZERObLETTER AcAAcAI
cAUcBAcBHAcCAcCHAcDAcDDAcDDHAcDHAcEcGAcGHAcHAcIcIIcJAcJHAcKAcKHAcLAcLLAcMAcNAcNGAcNNAcNYAcOcPAcPHA
cRAcSAcSHAcSSAcTAcTHAcTTAcTTHAcUcUUcVAcVOCALIC LdLLdRdRRcYAcZHAbOMbRUPEE SIGNbSIGN ANUSVARAcAVAGRAHA
cCANDRABINDUcCIRCLE NUKTA ABOVEcMADDAHcNUKTAcSHADDAcSUKUNcTHREE-DOT NUKTA ABOVE
cTWO-CIRCLE NUKTA ABOVEcVIRAMAcVISARGAbVOWEL CANDRA EdOcSIGN AAdAIdAUdCANDRA EeOdEdIdIIdOdUdUU
dVOCALIC LeLLeReRRaGUNJALA GONDI DIGIT EIGHTdFIVEdFOURdNINEdONEdSEVENdSIXdTHREEdTWOdZEROcLETTER AdAA
dAIdAUdBAdBHAdCAdCHAdDAdDDAdDDHAdDHAdEEdGAdGHAdHAdIdIIdJAdJHAdKAdKHAdLAdLLAdMAdNAdNGAdOOdPAdPHAdRA
dSAdTAdTHAdTTAdTTHAdUdUUdVAdYAcOMcSIGN ANUSVARAdVISARGAcVIRAMAcVOWEL SIGN AAeAIeAUeEEeIeIIeOOeUeUU
aGURMUKHI ABBREVIATION SIGNbADDAKbDIGIT EIGHTcFIVEcFOURcNINEcONEcSEVENcSIXcTHREEcTWOcZERObEK ONKAR
bIRIbLETTER AcAAcAIcAUcBAcBHAcCAcCHAcDAcDDAcDDHAcDHAcEEcFAcGAcGHAcGHHAcHAcIcIIcJAcJHAcKAcKHAcKHHAcLA
cLLAcMAcNAcNGAcNNAcNYAcOOcPAcPHAcRAcRRAcSAcSHAcTAcTHAcTTAcTTHAcUcUUcVAcYAcZAbSIGN ADAK BINDIcBINDI
cNUKTAcUDAATcVIRAMAcVISARGAcYAKASHbTIPPIbURAbVOWEL SIGN AAdAIdAUdEEdIdIIdOOdUdUUaHADESaHAIR SPACE
aHAIRCUTaHALFWIDTH BLACK SQUAREbDOWNWARDS ARROWbFORMS LIGHT VERTICALbHANGUL FILLERcLETTER AdAE
dCHIEUCHdCIEUCdEdEOdEUdHIEUHdIdIEUNGdKHIEUKHdKIYEOKdKIYEOK-SIOSdMIEUMdNIEUNdNIEUN-CIEUCdNIEUN-HIEUH
dOdOEdPHIEUPHdPIEUPdPIEUP-SIOSdRIEULdRIEUL-HIEUHdRIEUL-KIYEOKdRIEUL-MIEUMdRIEUL-PHIEUPHdRIEUL-PIEUP
dRIEUL-SIOSdRIEUL-THIEUTHdSIOSdSSANGCIEUCdSSANGKIYEOKdSSANGPIEUPdSSANGSIOSdSSANGTIKEUTdTHIEUTH
dTIKEUTdUdWAdWAEdWEdWEOdWIdYAdYAEdYEdYEOdYIdYOdYUbIDEOGRAPHIC COMMAcFULL STOPbKATAKANA LETTER AdEdHA
dHEdHIdHOdHUdIdKAdKEdKIdKOdKUdMAdMEdMIdMOdMUdNdNAdNEdNIdNOdNUdOdRAdREdRIdROdRUdSAdSEdSIdSMALL AeEeI
eOeTUeUeYAeYOeYUdSOdSUdTAdTEdTIdTOdTUdUdWAdWOdYAdYOdYUcMIDDLE DOTcSEMI-VOICED SOUND MARK
cVOICED SOUND MARKbKATAKANA-HIRAGANA PROLONGED SOUND MARKbLEFT CORNER BRACKETbLEFTWARDS ARROW
bRIGHT CORNER BRACKETbRIGHTWARDS ARROWbUPWARDS ARROWbWHITE CIRCLEaHAMBURGERaHAMMERbAND PICKcSICKLE
cWRENCHaHAMSAaHAMSTER FACEaHAND WITH INDEX AND MIDDLE FINGERS CROSSEDdFINGER AND THUMB CROSSED
aHANDBAGaHANDBALLaHANDSHAKEaHANGUL CHOSEONG CEONGCHIEUMCHIEUCHcCEONGCHIEUMCIEUCcCEONGCHIEUMSIOS
cCEONGCHIEUMSSANGCIEUCcCEONGCHIEUMSSANGSIOScCHIEUCHcCHIEUCH-HIEUHcCHIEUCH-KHIEUKHcCHITUEUMCHIEUCH
cCHITUEUMCIEUCcCHITUEUMSIOScCHITUEUMSSANGCIEUCcCHITUEUMSSANGSIOScCIEUCcCIEUC-IEUNGcFILLERcHIEUH
cHIEUH-SIOScIEUNGcIEUNG-CHIEUCHcIEUNG-CIEUCcIEUNG-HIEUHcIEUNG-KIYEOKcIEUNG-MIEUMcIEUNG-PANSIOS
cIEUNG-PHIEUPHcIEUNG-PIEUPcIEUNG-RIEULcIEUNG-SIOScIEUNG-THIEUTHcIEUNG-TIKEUTcKAPYEOUNMIEUM
cKAPYEOUNPHIEUPHcKAPYEOUNPIEUPcKAPYEOUNRIEULcKAPYEOUNSSANGPIEUPcKHIEUKHcKIYEOKcKIYEOK-TIKEUTcMIEUM
cMIEUM-KIYEOKcMIEUM-PIEUPcMIEUM-SIOScMIEUM-TIKEUTcNIEUNcNIEUN-CIEUCcNIEUN-HIEUHcNIEUN-KIYEOK
cNIEUN-PIEUPcNIEUN-SIOScNIEUN-TIKEUTcPANSIOScPHIEUPHcPHIEUPH-HIEUHcPHIEUPH-PIEUPcPIEUPcPIEUP-CHIEUCH
cPIEUP-CIEUCcPIEUP-HIEUHcPIEUP-KHIEUKHcPIEUP-KIYEOKcPIEUP-NIEUNcPIEUP-PHIEUPHcPIEUP-SIOS
cPIEUP-SIOS-CIEUCcPIEUP-SIOS-KIYEOKcPIEUP-SIOS-PIEUPcPIEUP-SIOS-THIEUTHcPIEUP-SIOS-TIKEUT
cPIEUP-SSANGSIOScPIEUP-THIEUTHcPIEUP-TIKEUTcRIEULcRIEUL-CIEUCcRIEUL-HIEUHcRIEUL-KAPYEOUNPIEUP
cRIEUL-KHIEUKHcRIEUL-KIYEOKcRIEUL-MIEUMcRIEUL-NIEUNcRIEUL-PIEUPcRIEUL-SIOScRIEUL-SSANGKIYEOK
cRIEUL-SSANGPIEUPcRIEUL-SSANGTIKEUTcRIEUL-TIKEUTcSIOScSIOS-CHIEUCHcSIOS-CIEUCcSIOS-HIEUHcSIOS-IEUNG
cSIOS-KHIEUKHcSIOS-KIYEOKcSIOS-MIEUMcSIOS-NIEUNcSIOS-PHIEUPHcSIOS-PIEUPcSIOS-PIEUP-KIYEOKcSIOS-RIEUL
cSIOS-SSANGSIOScSIOS-THIEUTHcSIOS-TIKEUTcSSANGCIEUCcSSANGCIEUC-HIEUHcSSANGHIEUHcSSANGIEUNG
cSSANGKIYEOKcSSANGNIEUNcSSANGPIEUPcSSANGRIEULcSSANGSIOScSSANGSIOS-PIEUPcSSANGTHIEUTHcSSANGTIKEUT
cSSANGYEORINHIEUHcTHIEUTHcTIKEUTcTIKEUT-CIEUCcTIKEUT-KIYEOKcTIKEUT-MIEUMcTIKEUT-PIEUPcTIKEUT-RIEUL
cTIKEUT-SIOScYEORINHIEUHcYESIEUNGbDOUBLE DOT TONE MARKbFILLERbJONGSEONG CHIEUCHcCIEUCcCIEUC-PIEUP
cCIEUC-SSANGPIEUPcHIEUHcHIEUH-MIEUMcHIEUH-NIEUNcHIEUH-PIEUPcHIEUH-RIEULcIEUNGcIEUNG-KHIEUKH
cIEUNG-KIYEOKcIEUNG-SSANGKIYEOKcKAPYEOUNMIEUMcKAPYEOUNPHIEUPHcKAPYEOUNPIEUPcKAPYEOUNRIEULcKHIEUKH
cKIYEOKcKIYEOK-CHIEUCHcKIYEOK-HIEUHcKIYEOK-KHIEUKHcKIYEOK-NIEUNcKIYEOK-PIEUPcKIYEOK-RIEUL
cKIYEOK-SIOScKIYEOK-SIOS-KIYEOKcMIEUMcMIEUM-CHIEUCHcMIEUM-CIEUCcMIEUM-HIEUHcMIEUM-KIYEOKcMIEUM-NIEUN
cMIEUM-PANSIOScMIEUM-PIEUPcMIEUM-PIEUP-SIOScMIEUM-RIEULcMIEUM-SIOScMIEUM-SSANGNIEUNcMIEUM-SSANGSIOS
cNIEUNcNIEUN-CHIEUCHcNIEUN-CIEUCcNIEUN-HIEUHcNIEUN-KIYEOKcNIEUN-PANSIOScNIEUN-RIEULcNIEUN-SIOS
cNIEUN-THIEUTHcNIEUN-TIKEUTcPANSIOScPANSIOS-KAPYEOUNPIEUPcPANSIOS-PIEUPcPHIEUPHcPHIEUPH-PIEUP
cPHIEUPH-SIOScPHIEUPH-THIEUTHcPIEUPcPIEUP-CHIEUCHcPIEUP-CIEUCcPIEUP-HIEUHcPIEUP-MIEUMcPIEUP-PHIEUPH
cPIEUP-RIEULcPIEUP-RIEUL-PHIEUPHcPIEUP-SIOScPIEUP-SIOS-TIKEUTcPIEUP-TIKEUTcRIEULcRIEUL-HIEUH
cRIEUL-KAPYEOUNPIEUPcRIEUL-KHIEUKHcRIEUL-KIYEOKcRIEUL-KIYEOK-HIEUHcRIEUL-KIYEOK-SIOScRIEUL-MIEUM
cRIEUL-MIEUM-HIEUHcRIEUL-MIEUM-KIYEOKcRIEUL-MIEUM-SIOScRIEUL-NIEUNcRIEUL-PANSIOScRIEUL-PHIEUPH
cRIEUL-PIEUPcRIEUL-PIEUP-HIEUHcRIEUL-PIEUP-PHIEUPHcRIEUL-PIEUP-SIOScRIEUL-PIEUP-TIKEUTcRIEUL-SIOS
cRIEUL-SSANGKIYEOKcRIEUL-SSANGSIOScRIEUL-THIEUTHcRIEUL-TIKEUTcRIEUL-TIKEUT-HIEUHcRIEUL-YEORINHIEUH
cRIEUL-YEORINHIEUH-HIEUHcRIEUL-YESIEUNGcSIOScSIOS-CHIEUCHcSIOS-CIEUCcSIOS-HIEUHcSIOS-KAPYEOUNPIEUP
cSIOS-KIYEOKcSIOS-MIEUMcSIOS-PANSIOScSIOS-PIEUPcSIOS-RIEULcSIOS-THIEUTHcSIOS-TIKEUTcSSANGCIEUC
cSSANGIEUNGcSSANGKIYEOKcSSANGMIEUMcSSANGNIEUNcSSANGPIEUPcSSANGRIEULcSSANGRIEUL-KHIEUKHcSSANGSIOS
cSSANGSIOS-KIYEOKcSSANGSIOS-TIKEUTcSSANGTIKEUTcSSANGTIKEUT-PIEUPcSSANGYESIEUNGcTHIEUTHcTIKEUT
cTIKEUT-CHIEUCHcTIKEUT-CIEUCcTIKEUT-KIYEOKcTIKEUT-PIEUPcTIKEUT-RIEULcTIKEUT-SIOScTIKEUT-SIOS-KIYEOK
cTIKEUT-THIEUTHcYEORINHIEUHcYESIEUNGcYESIEUNG-HIEUHcYESIEUNG-KHIEUKHcYESIEUNG-KIYEOKcYESIEUNG-MIEUM
cYESIEUNG-PANSIOScYESIEUNG-SIOScYESIEUNG-SSANGKIYEOKbJUNGSEONG AcA-EUcA-OcA-UcAEcARAEAcARAEA-A
cARAEA-EcARAEA-EOcARAEA-IcARAEA-UcEcEOcEO-EUcEO-OcEO-UcEUcEU-AcEU-EcEU-EOcEU-EUcEU-OcEU-UcFILLERcI
cI-AcI-ARAEAcI-EUcI-IcI-OcI-O-IcI-UcI-YAcI-YA-OcI-YAEcI-YEcI-YEOcI-YOcI-YUcOcO-EcO-EOcO-OcO-O-IcO-U
cO-YAcO-YAEcO-YEcO-YEOcOEcSSANGARAEAcUcU-AcU-AEcU-EO-EUcU-I-IcU-UcU-YEcU-YEOcWAcWAEcWEcWEOcWIcYA
cYA-OcYA-UcYA-YOcYAEcYEcYEOcYEO-OcYEO-UcYEO-YAcYIcYI-UcYOcYO-AcYO-AEcYO-EOcYO-IcYO-OcYO-YAcYO-YAE
cYO-YEOcYUcYU-AcYU-AEcYU-EcYU-EOcYU-IcYU-OcYU-UcYU-YEcYU-YEObLETTER AcAEcARAEAcARAEAEcCHIEUCHcCIEUC
cEcEOcEUcHIEUHcIcIEUNGcKAPYEOUNMIEUMcKAPYEOUNPHIEUPHcKAPYEOUNPIEUPcKAPYEOUNSSANGPIEUPcKHIEUKHcKIYEOK
cKIYEOK-SIOScMIEUMcMIEUM-PANSIOScMIEUM-PIEUPcMIEUM-SIOScNIEUNcNIEUN-CIEUCcNIEUN-HIEUHcNIEUN-PANSIOS
cNIEUN-SIOScNIEUN-TIKEUTcOcOEcPANSIOScPHIEUPHcPIEUPcPIEUP-CIEUCcPIEUP-KIYEOKcPIEUP-SIOS
cPIEUP-SIOS-KIYEOKcPIEUP-SIOS-TIKEUTcPIEUP-THIEUTHcPIEUP-TIKEUTcRIEULcRIEUL-HIEUHcRIEUL-KIYEOK
cRIEUL-KIYEOK-SIOScRIEUL-MIEUMcRIEUL-PANSIOScRIEUL-PHIEUPHcRIEUL-PIEUPcRIEUL-PIEUP-SIOScRIEUL-SIOS
cRIEUL-THIEUTHcRIEUL-TIKEUTcRIEUL-YEORINHIEUHcSIOScSIOS-CIEUCcSIOS-KIYEOKcSIOS-NIEUNcSIOS-PIEUP
cSIOS-TIKEUTcSSANGCIEUCcSSANGHIEUHcSSANGIEUNGcSSANGKIYEOKcSSANGNIEUNcSSANGPIEUPcSSANGSIOS
cSSANGTIKEUTcTHIEUTHcTIKEUTcUcWAcWAEcWEcWEOcWIcYAcYAEcYEcYEOcYEORINHIEUHcYESIEUNGcYESIEUNG-PANSIOS
cYESIEUNG-SIOScYIcYOcYO-IcYO-YAcYO-YAEcYUcYU-IcYU-YEcYU-YEObSINGLE DOT TONE MARK
aHANGZHOU NUMERAL EIGHTcFIVEcFOURcNINEcONEcSEVENcSIXcTENcTHIRTYcTHREEcTWENTYcTWO
aHANIFI ROHINGYA DIGIT EIGHTdFIVEdFOURdNINEdONEdSEVENdSIXdTHREEdTWOdZEROcLETTER AdBAdCAdDAdDDAdFAdGA
dHAdJAdKAdKHAdKINNA WAeYAdLAdMAdNAdNGAdNYAdPAdRAdRRAdSAdSHAdTAdTTAdVAdWAdYAdZAcMARK NA KHONNAdSAKIN
cSIGN HARBAHAYdTAHALAdTANAdTASSIcVOWEL AdEdIdOdUaHANUNOO LETTER AcBAcDAcGAcHAcIcKAcLAcMAcNAcNGAcPA
cRAcSAcTAcUcWAcYAbSIGN PAMUDPODbVOWEL SIGN IdUaHAPPY PERSON RAISING ONE HANDaHARD DISK
aHATCHING CHICKaHATRAN LETTER ALEPHcAYNcBETHcDALETH-RESHcGIMELcHEcHETHcKAPHcLAMEDHcMEMcNUNcPEcQOPH
cSADHEcSAMEKHcSHINcTAWcTETHcWAWcYODHcZAYNbNUMBER FIVEcONEdHUNDREDcTENcTWENTYaHEADPHONEaHEADSTONE
bGRAVEYARD SYMBOLaHEAR-NO-EVIL MONKEYaHEART DECORATIONbHANDSbWITH ARROWcRIBBONcTIP ON THE LEFT
aHEAVY AMPERSAND ORNAMENTbARROW SHAFT WIDTH ONEfHALFfTHIRDeTWO THIRDSbASTERISKbBALLOT X
bBLACK CURVED DOWNWARDS AND RIGHTWARDS ARROWdUPWARDS AND RIGHTWARDS ARROWcHEART
bBLACK-FEATHERED NORTH EAST ARROWcRIGHTWARDS ARROWcSOUTH EAST ARROWbCHECK MARKbCHEVRON SNOWFLAKE
bCIRCLEcWITH CIRCLE INSIDEdSTROKE AND TWO DOTS ABOVEbCIRCLED SALTIRE
bCONCAVE-POINTED BLACK RIGHTWARDS ARROWbDASHED TRIANGLE-HEADED RIGHTWARDS ARROWbDIVISION SIGN
bDOLLAR SIGNbDOUBLE COMMA QUOTATION MARK ORNAMENTcTURNED COMMA QUOTATION MARK ORNAMENT
bDOWNWARDS ARROW WITH EQUILATERAL ARROWHEADeLARGE EQUILATERAL ARROWHEADbEIGHT POINTED BLACK STAR
dPINWHEEL STARdRECTILINEAR BLACK STARcSPOKED ASTERISKcTEARDROP-SPOKED PROPELLER ASTERISKbEQUALS SIGN
bEXCLAMATION MARK ORNAMENTdSYMBOLbFIVE POINTED BLACK STARcSPOKED ASTERISK
bFOUR BALLOON-SPOKED ASTERISKbGREEK CROSSbHEART EXCLAMATION MARK ORNAMENTbHORIZONTAL FILL
bINTERROBANG ORNAMENTbLARGE CIRCLEbLATIN CROSSbLEFT-POINTING ANGLE BRACKET ORNAMENT
dQUOTATION MARK ORNAMENTbLEFTWARDS ARROW WITH EQUILATERAL ARROWHEADeLARGE EQUILATERAL ARROWHEAD
bLIGATURE OPEN ET ORNAMENTbLOW DOUBLE COMMA QUOTATION MARK ORNAMENT
cSINGLE COMMA QUOTATION MARK ORNAMENTbLOWER RIGHT-SHADOWED WHITE RIGHTWARDS ARROWbMINUS SIGN
bMULTIPLICATION XbNORTH EAST ARROWdPOINTING BUDeVINE LEAFcWEST POINTING BUDeVINE LEAF
bOPEN CENTRE CROSSbOUTLINED BLACK STARbOVAL WITH OVAL INSIDEbPLUS SIGN
bRIGHT-POINTING ANGLE BRACKET ORNAMENTdQUOTATION MARK ORNAMENTbRIGHTWARDS ARROW
dWITH EQUILATERAL ARROWHEADeLARGE EQUILATERAL ARROWHEADbROUND-TIPPED RIGHTWARDS ARROWbSALTIRE
bSANS-SERIF INTERROBANG ORNAMENTbSCRIPT LIGATURE ET ORNAMENTbSINGLE COMMA QUOTATION MARK ORNAMENT
cTURNED COMMA QUOTATION MARK ORNAMENTbSIX POINTED BLACK STARcSPOKED ASTERISKbSOUTH EAST ARROW
dPOINTING BUDeVINE LEAFcWEST POINTING BUDeVINE LEAFbSPARKLEbTEARDROP-SHANKED RIGHTWARDS ARROW
bTEARDROP-SPOKED ASTERISKcPINWHEEL ASTERISKbTRIANGLE-HEADED RIGHTWARDS ARROW
bTWELVE POINTED BLACK STARdPINWHEEL STARbUPPER RIGHT-SHADOWED WHITE RIGHTWARDS ARROW
bUPWARDS ARROW WITH EQUILATERAL ARROWHEADeLARGE EQUILATERAL ARROWHEADbVERTICAL BAR
bWEDGE-TAILED RIGHTWARDS ARROWbWHITE CIRCLEcDOWN-POINTING TRIANGLEcSQUARE
bWIDE-HEADED RIGHTWARDS ARROWaHEBREW ACCENT ATNAH HAFUKHcDARGAcDEHIcETNAHTAcGERESHdMUQDAMcGERSHAYIM
cILUYcMAHAPAKHcMERKHAdKEFULAcMUNAHcOLEcPASHTAcPAZERcQADMAcQARNEY PARAcREVIAcSEGOLcSHALSHELET
cTELISHA GEDOLAdQETANAcTEVIRcTIPEHAcYERAH BEN YOMOcYETIVcZAQEF GADOLdQATANcZARQAcZINORbLETTER ALEF
dWITH MAPIQePATAHeQAMATScALTERNATIVE AYINdPLUS SIGNcAYINcBETdWITH DAGESHeRAFEcDALETdWITH DAGESH
cFINAL KAFeWITH DAGESHdMEMdNUNdPEeWITH DAGESHdTSADIcGIMELdWITH DAGESHcHEdWITH MAPIQcHETcKAF
dWITH DAGESHeRAFEcLAMEDdWITH DAGESHcMEMdWITH DAGESHcNUNdWITH DAGESHcPEdWITH DAGESHeRAFEcQOF
dWITH DAGESHcRESHdWITH DAGESHcSAMEKHdWITH DAGESHcSHINdWITH DAGESHfAND SHIN DOTgSIN DOTeSHIN DOT
eSIN DOTcTAVdWITH DAGESHcTETdWITH DAGESHcTSADIdWITH DAGESHcVAVdWITH DAGESHeHOLAMcWIDE ALEFdDALET
dFINAL MEMdHEdKAFdLAMEDdRESHdTAVcYODdWITH DAGESHeHIRIQcZAYINdWITH DAGESHbLIGATURE ALEF LAMED
cYIDDISH DOUBLE VAVeYODdVAV YODdYOD YOD PATAHbMARK LOWER DOTcMASORA CIRCLEcUPPER DOT
bPOINT DAGESH OR MAPIQcHATAF PATAHdQAMATSdSEGOLcHIRIQcHOLAMdHASER FOR VAVcJUDEO-SPANISH VARIKAcMETEG
cPATAHcQAMATSdQATANcQUBUTScRAFEcSEGOLcSHEVAcSHIN DOTcSIN DOTcTSEREbPUNCTUATION GERESHcGERSHAYIM
cMAQAFcNUN HAFUKHAcPASEQcSOF PASUQbYOD TRIANGLEaHEDGEHOGaHELICOPTERaHELLSCHREIBER PAUSE SYMBOL
aHELM SYMBOLaHELMET WITH WHITE CROSSaHENTAIGANA LETTER A-1cA-2cA-3cA-WOcE-1cE-2cE-3cE-4cE-5cE-6cHA-1
cHA-10cHA-11cHA-2cHA-3cHA-4cHA-5cHA-6cHA-7cHA-8cHA-9cHE-1cHE-2cHE-3cHE-4cHE-5cHE-6cHE-7cHI-1cHI-2
cHI-3cHI-4cHI-5cHI-6cHI-7cHO-1cHO-2cHO-3cHO-4cHO-5cHO-6cHO-7cHO-8cHU-1cHU-2cHU-3cI-1cI-2cI-3cI-4
cKA-1cKA-10cKA-11cKA-2cKA-3cKA-4cKA-5cKA-6cKA-7cKA-8cKA-9cKA-KEcKE-1cKE-2cKE-3cKE-4cKE-5cKE-6cKI-1
cKI-2cKI-3cKI-4cKI-5cKI-6cKI-7cKI-8cKO-1cKO-2cKO-3cKO-KIcKU-1cKU-2cKU-3cKU-4cKU-5cKU-6cKU-7cMA-1
cMA-2cMA-3cMA-4cMA-5cMA-6cMA-7cME-1cME-2cME-MAcMI-1cMI-2cMI-3cMI-4cMI-5cMI-6cMI-7cMO-1cMO-2cMO-3
cMO-4cMO-5cMO-6cMU-1cMU-2cMU-3cMU-4cN-MU-MO-1cN-MU-MO-2cNA-1cNA-2cNA-3cNA-4cNA-5cNA-6cNA-7cNA-8cNA-9
cNE-1cNE-2cNE-3cNE-4cNE-5cNE-6cNE-KOcNI-1cNI-2cNI-3cNI-4cNI-5cNI-6cNI-7cNI-TEcNO-1cNO-2cNO-3cNO-4
cNO-5cNU-1cNU-2cNU-3cO-1cO-2cO-3cRA-1cRA-2cRA-3cRA-4cRE-1cRE-2cRE-3cRE-4cRI-1cRI-2cRI-3cRI-4cRI-5
cRI-6cRI-7cRO-1cRO-2cRO-3cRO-4cRO-5cRO-6cRU-1cRU-2cRU-3cRU-4cRU-5cRU-6cSA-1cSA-2cSA-3cSA-4cSA-5cSA-6
cSA-7cSA-8cSE-1cSE-2cSE-3cSE-4cSE-5cSI-1cSI-2cSI-3cSI-4cSI-5cSI-6cSO-1cSO-2cSO-3cSO-4cSO-5cSO-6cSO-7
cSU-1cSU-2cSU-3cSU-4cSU-5cSU-6cSU-7cSU-8cTA-1cTA-2cTA-3cTA-4cTE-1cTE-2cTE-3cTE-4cTE-5cTE-6cTE-7cTE-8
cTE-9cTI-1cTI-2cTI-3cTI-4cTI-5cTI-6cTI-7cTO-1cTO-2cTO-3cTO-4cTO-5cTO-6cTO-RAcTU-1cTU-2cTU-3cTU-4
cTU-TOcU-1cU-2cU-3cU-4cU-5cWA-1cWA-2cWA-3cWA-4cWA-5cWE-1cWE-2cWE-3cWE-4cWI-1cWI-2cWI-3cWI-4cWI-5
cWO-1cWO-2cWO-3cWO-4cWO-5cWO-6cWO-7cYA-1cYA-2cYA-3cYA-4cYA-5cYA-YOcYO-1cYO-2cYO-3cYO-4cYO-5cYO-6
cYU-1cYU-2cYU-3cYU-4aHERBaHERMITIAN CONJUGATE MATRIXaHEXAGRAM FOR ABUNDANCEcAFTER COMPLETION
cAPPROACHcBEFORE COMPLETIONcBITING THROUGHcBREAKTHROUGHcCOMING TO MEETcCONFLICTcCONTEMPLATION
cDARKENING OF THE LIGHTcDECREASEcDELIVERANCEcDEVELOPMENTcDIFFICULTY AT THE BEGINNINGcDISPERSION
cDURATIONcENTHUSIASMcFELLOWSHIPcFOLLOWINGcGATHERING TOGETHERcGRACEcGREAT POSSESSIONdPOWER
dPREPONDERANCEdTAMINGcHOLDING TOGETHERcINCREASEcINFLUENCEcINNER TRUTHcINNOCENCEcLIMITATIONcMODESTY
cMOUTH CORNERScOBSTRUCTIONcOPPOSITIONcOPPRESSIONcPEACEcPROGRESScPUSHING UPWARDcRETREATcRETURN
cREVOLUTIONcSMALL PREPONDERANCEdTAMINGcSPLITTING APARTcSTANDSTILLcTHE ABYSMAL WATERdARMY
dAROUSING THUNDERdCAULDRONdCLINGING FIREdCREATIVE HEAVENdFAMILYdGENTLE WINDdJOYOUS LAKE
dKEEPING STILL MOUNTAINdMARRYING MAIDENdRECEPTIVE EARTHdWANDERERdWELLcTREADINGcWAITING
cWORK ON THE DECAYEDcYOUTHFUL FOLLYaHIBISCUSaHIGH BRIGHTNESS SYMBOLbOCTET PRESETbVOLTAGE SIGN
aHIGH-HEELED SHOEaHIGH-SPEED TRAINcWITH BULLET NOSEaHIKING BOOTaHINDU TEMPLEaHIPPOPOTAMUS
aHIRAGANA DIGRAPH YORIbITERATION MARKbLETTER AcARCHAIC WUdYEcBAcBEcBIcBOcBUcDAcDEcDIcDOcDUcEcGAcGE
cGIcGOcGUcHAcHEcHIcHOcHUcIcKAcKEcKIcKOcKUcMAcMEcMIcMOcMUcNcNAcNEcNIcNOcNUcOcPAcPEcPIcPOcPUcRAcREcRI
cROcRUcSAcSEcSIcSMALL AdEdIdKAdKEdOdTUdUdWAdWEdWIdWOdYAdYOdYUcSOcSUcTAcTEcTIcTOcTUcUcVUcWAcWEcWIcWO
cYAcYOcYUcZAcZEcZIcZOcZUbVOICED ITERATION MARKaHISTORIC SITEaHOCHOaHOLEaHOLLOW QUILT SQUARE ORNAMENT
eIN BLACK SQUAREaHOMOTHETICaHONEY POTaHONEYBEEaHOOKaHOPaHORIZONTAL BARbBLACK HEXAGONcOCTAGON
bELLIPSISbLINE EXTENSIONbMALE WITH STROKE SIGNbONE EIGHTH BLOCK-1358dBLOCK-2dBLOCK-3dBLOCK-4dBLOCK-5
dBLOCK-6dBLOCK-7bSCAN LINE-1cLINE-3cLINE-7cLINE-9bTAB KEYbTABULATIONcSETcWITH JUSTIFICATION
bTRAFFIC LIGHTaHORSEbFACEbRACINGaHOSPITALaHOT BEVERAGEbDOGbPEPPERbSPRINGSaHOTELaHOURGLASS
bWITH FLOWING SANDaHOUSEbBUILDINGbBUILDINGSbWITH GARDENaHRYVNIA SIGNaHTaHTJaHTSaHUGGING FACE
aHUNDRED POINTS SYMBOLaHUSHED FACEaHUTaHYGIEAaHYPHENbBULLETbWITH DIAERESISaHYPHEN-MINUS
aHYPHENATION POINTaHYPODIASTOLEaHYSTERESIS SYMBOL
"

end RepoAudit.Text.CharName
