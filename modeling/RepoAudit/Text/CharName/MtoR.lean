/-! # Names of characters from M to R

The names that start with these letters, in the order of their words.  A small letter starts each
name and tells how many words it shares with the name before it: none for `a`, one for `b`.
-/

namespace RepoAudit.Text.CharName

def fromMtoR : String := "
aMACRONaMAGEaMAGIC WANDaMAGNETaMAHAJANI ABBREVIATION SIGNbLETTER AcBAcBHAcCAcCHAcDAcDDAcDDHAcDHAcE
cGAcGHAcHAcIcJAcJHAcKAcKHAcLAcMAcNAcNNAcNYAcOcPAcPHAcRAcRRAcSAcTAcTHAcTTAcTTHAcUcVAbLIGATURE SHRI
bSECTION MARKbSIGN NUKTAaMAHJONG TILE AUTUMNcBACKcBAMBOOcCHRYSANTHEMUMcEAST WINDcEIGHT OF BAMBOOS
eCHARACTERSeCIRCLEScFIVE OF BAMBOOSeCHARACTERSeCIRCLEScFOUR OF BAMBOOSeCHARACTERSeCIRCLES
cGREEN DRAGONcJOKERcNINE OF BAMBOOSeCHARACTERSeCIRCLEScNORTH WINDcONE OF BAMBOOSeCHARACTERSeCIRCLES
cORCHIDcPLUMcRED DRAGONcSEVEN OF BAMBOOSeCHARACTERSeCIRCLEScSIX OF BAMBOOSeCHARACTERSeCIRCLES
cSOUTH WINDcSPRINGcSUMMERcTHREE OF BAMBOOSeCHARACTERSeCIRCLEScTWO OF BAMBOOSeCHARACTERSeCIRCLES
cWEST WINDcWHITE DRAGONcWINTERaMAKASAR ANGKAbEND OF SECTIONbLETTER AcBAcCAcDAcGAcJAcKAcLAcMAcNAcNGA
cNYAcPAcRAcSAcTAcVAcYAbPASSIMBANGbVOWEL SIGN EdIdOdUaMALAYALAM AU LENGTH MARKbDATE MARKbDIGIT EIGHT
cFIVEcFOURcNINEcONEcSEVENcSIXcTHREEcTWOcZERObFRACTION ONE EIGHTHdFIFTHdFORTIETHdHALF
dONE-HUNDRED-AND-SIXTIETHdQUARTERdSIXTEENTHdTENTHdTWENTIETHcTHREE EIGHTIETHSdQUARTERSdSIXTEENTHS
dTWENTIETHSbLETTER AcAAcAIcARCHAIC IIcAUcBAcBHAcCAcCHAcCHILLU KdLdLLdLLLdMdNdNNdRRdYcDAcDDAcDDHAcDHA
cDOT REPHcEcEEcGAcGHAcHAcIcIIcJAcJHAcKAcKHAcLAcLLAcLLLAcMAcNAcNGAcNNAcNNNAcNYAcOcOOcPAcPHAcRAcRRAcSA
cSHAcSSAcTAcTHAcTTAcTTHAcTTTAcUcUUcVAcVEDIC ANUSVARAcVOCALIC LdLLdRdRRcYAbNUMBER ONE HUNDRED
dTHOUSANDcTENbSIGN ANUSVARAcAVAGRAHAcCANDRABINDUcCIRCULAR VIRAMAcCOMBINING ANUSVARA ABOVEcPARA
cVERTICAL BAR VIRAMAcVIRAMAcVISARGAbVOWEL SIGN AAdAIdAUdEdEEdIdIIdOdOOdUdUUdVOCALIC LeLLeReRR
aMALE AND FEMALE SIGNbSIGNbWITH STROKE AND MALE AND FEMALE SIGNdSIGNaMALTESE CROSSaMAMMOTHaMAN
bAND WOMAN HOLDING HANDSbDANCINGbIN BUSINESS SUIT LEVITATINGcTUXEDObWITH GUA PI MAOcTURBAN
aMANAT SIGNaMANDAIC AFFRICATION MARKbGEMINATION MARKbLETTER ABcADcAGcAHcAINcAKcAKSAcALcAMcANcAPcAQ
cARcAScASHcASZcATcATTcAZcDUSHENNAcHALQAcINcITcKADcUSHENNAbPUNCTUATIONbVOCALIZATION MARKaMANGO
aMANICHAEAN ABBREVIATION MARK ABOVEdBELOWbLETTER AAYINcALEPHcAYINcBETHcBHETHcDALETHcDHAMEDHcFE
cGHIMELcGIMELcHEcHETHcJAYINcJHAYINcKAPHcKHAPHcLAMEDHcMEMcNUNcPEcQHOPHcQOPHcRESHcSADHEcSAMEKHcSHIN
cSSHINcTAWcTETHcTHAMEDHcWAWcXAPHcXOPHcYODHcZAYINcZHAYINbNUMBER FIVEcONEdHUNDREDcTENcTWENTY
bPUNCTUATION DOTdWITHIN DOTcDOUBLE DOT WITHIN DOTcFLEURONcLINE FILLERcSTARcTWO DOTSbSIGN UD
aMANS SHOEaMANTELPIECE CLOCKaMANUAL WHEELCHAIRaMAP SYMBOL FOR LIGHTHOUSEaMAPLE LEAF
aMARCHEN HEAD MARKbLETTER -AcAcBAcCAcCHAcDAcDZAcGAcHAcJAcKAcKHAcLAcMAcNAcNGAcNYAcPAcPHAcRAcSAcSHAcTA
cTHAcTSAcTSHAcWAcYAcZAcZHAbMARK SHADbSIGN ANUSVARAcCANDRABINDUbSUBJOINED LETTER AdBAdCAdCHAdDAdDZA
dGAdHAdJAdKAdKHAdLAdMAdNAdNGAdNYAdPAdPHAdRAdSAdSHAdTAdTHAdTSAdTSHAdWAdYAdZAdZHAbVOWEL SIGN AAdEdIdO
dUaMARRIAGE SYMBOLaMARTIAL ARTS UNIFORMaMASARAM GONDI DIGIT EIGHTdFIVEdFOURdNINEdONEdSEVENdSIXdTHREE
dTWOdZEROcLETTER AdAAdAIdAUdBAdBHAdCAdCHAdDAdDDAdDDHAdDHAdEdGAdGHAdHAdIdIIdJAdJHAdJNYAdKAdKHAdKSSA
dLAdLLAdMAdNAdNGAdNNAdNYAdOdPAdPHAdRAdSAdSHAdSSAdTAdTHAdTRAdTTAdTTHAdUdUUdVAdYAcRA-KARAcREPHA
cSIGN ANUSVARAdCANDRAdHALANTAdNUKTAdVISARGAcVIRAMAcVOWEL SIGN AAeAIeAUeEeIeIIeOeUeUUeVOCALIC R
aMASCULINE ORDINAL INDICATORaMASK WORK SYMBOLaMASU MARKaMATE DRINKaMATHEMATICAL BOLD CAPITAL AdALPHA
dBdBETAdCdCHIdDdDELTAdDIGAMMAdEdEPSILONdETAdFdGdGAMMAdHdIdIOTAdJdKdKAPPAdLdLAMDAdMdMUdNdNUdOdOMEGA
dOMICRONdPdPHIdPIdPSIdQdRdRHOdSdSIGMAdTdTAUdTHETAeSYMBOLdUdUPSILONdVdWdXdXIdYdZdZETAcDIGIT EIGHT
dFIVEdFOURdNINEdONEdSEVENdSIXdTHREEdTWOdZEROcEPSILON SYMBOLcFRAKTUR CAPITAL AeBeCeDeEeFeGeHeIeJeKeL
eMeNeOePeQeReSeTeUeVeWeXeYeZdSMALL AeBeCeDeEeFeGeHeIeJeKeLeMeNeOePeQeReSeTeUeVeWeXeYeZ
cITALIC CAPITAL AeALPHAeBeBETAeCeCHIeDeDELTAeEeEPSILONeETAeFeGeGAMMAeHeIeIOTAeJeKeKAPPAeLeLAMDAeMeMU
eNeNUeOeOMEGAeOMICRONePePHIePIePSIeQeReRHOeSeSIGMAeTeTAUeTHETAfSYMBOLeUeUPSILONeVeWeXeXIeYeZeZETA
dEPSILON SYMBOLdKAPPA SYMBOLdNABLAdPARTIAL DIFFERENTIALdPHI SYMBOLdPI SYMBOLdRHO SYMBOLdSMALL A
eALPHAeBeBETAeCeCHIeDeDELTAeEeEPSILONeETAeFeFINAL SIGMAeGeGAMMAeHeIeIOTAeJeKeKAPPAeLeLAMDAeMeMUeNeNU
eOeOMEGAeOMICRONePePHIePIePSIeQeReRHOeSeSIGMAeTeTAUeTHETAeUeUPSILONeVeWeXeXIeYeZeZETAdTHETA SYMBOL
cKAPPA SYMBOLcNABLAcPARTIAL DIFFERENTIALcPHI SYMBOLcPI SYMBOLcRHO SYMBOLcSCRIPT CAPITAL AeBeCeDeEeF
eGeHeIeJeKeLeMeNeOePeQeReSeTeUeVeWeXeYeZdSMALL AeBeCeDeEeFeGeHeIeJeKeLeMeNeOePeQeReSeTeUeVeWeXeYeZ
cSMALL AdALPHAdBdBETAdCdCHIdDdDELTAdDIGAMMAdEdEPSILONdETAdFdFINAL SIGMAdGdGAMMAdHdIdIOTAdJdKdKAPPAdL
dLAMDAdMdMUdNdNUdOdOMEGAdOMICRONdPdPHIdPIdPSIdQdRdRHOdSdSIGMAdTdTAUdTHETAdUdUPSILONdVdWdXdXIdYdZ
dZETAcTHETA SYMBOLbDOUBLE-STRUCK CAPITAL AdBdDdEdFdGdIdJdKdLdMdOdSdTdUdVdWdXdYcDIGIT EIGHTdFIVEdFOUR
dNINEdONEdSEVENdSIXdTHREEdTWOdZEROcSMALL AdBdCdDdEdFdGdHdIdJdKdLdMdNdOdPdQdRdSdTdUdVdWdXdYdZ
bFALLING DIAGONALbFRAKTUR CAPITAL AdBdDdEdFdGdJdKdLdMdNdOdPdQdSdTdUdVdWdXdYcSMALL AdBdCdDdEdFdGdHdI
dJdKdLdMdNdOdPdQdRdSdTdUdVdWdXdYdZbITALIC CAPITAL AdALPHAdBdBETAdCdCHIdDdDELTAdEdEPSILONdETAdFdG
dGAMMAdHdIdIOTAdJdKdKAPPAdLdLAMDAdMdMUdNdNUdOdOMEGAdOMICRONdPdPHIdPIdPSIdQdRdRHOdSdSIGMAdTdTAUdTHETA
eSYMBOLdUdUPSILONdVdWdXdXIdYdZdZETAcEPSILON SYMBOLcKAPPA SYMBOLcNABLAcPARTIAL DIFFERENTIAL
cPHI SYMBOLcPI SYMBOLcRHO SYMBOLcSMALL AdALPHAdBdBETAdCdCHIdDdDELTAdDOTLESS IeJdEdEPSILONdETAdF
dFINAL SIGMAdGdGAMMAdIdIOTAdJdKdKAPPAdLdLAMDAdMdMUdNdNUdOdOMEGAdOMICRONdPdPHIdPIdPSIdQdRdRHOdSdSIGMA
dTdTAUdTHETAdUdUPSILONdVdWdXdXIdYdZdZETAcTHETA SYMBOLbLEFT ANGLE BRACKETcDOUBLE ANGLE BRACKET
cFLATTENED PARENTHESIScWHITE SQUARE BRACKETdTORTOISE SHELL BRACKETbMONOSPACE CAPITAL AdBdCdDdEdFdGdH
dIdJdKdLdMdNdOdPdQdRdSdTdUdVdWdXdYdZcDIGIT EIGHTdFIVEdFOURdNINEdONEdSEVENdSIXdTHREEdTWOdZEROcSMALL A
dBdCdDdEdFdGdHdIdJdKdLdMdNdOdPdQdRdSdTdUdVdWdXdYdZbRIGHT ANGLE BRACKETcDOUBLE ANGLE BRACKET
cFLATTENED PARENTHESIScWHITE SQUARE BRACKETdTORTOISE SHELL BRACKETbRISING DIAGONAL
bSANS-SERIF BOLD CAPITAL AeALPHAeBeBETAeCeCHIeDeDELTAeEeEPSILONeETAeFeGeGAMMAeHeIeIOTAeJeKeKAPPAeL
eLAMDAeMeMUeNeNUeOeOMEGAeOMICRONePePHIePIePSIeQeReRHOeSeSIGMAeTeTAUeTHETAfSYMBOLeUeUPSILONeVeWeXeXI
eYeZeZETAdDIGIT EIGHTeFIVEeFOUReNINEeONEeSEVENeSIXeTHREEeTWOeZEROdEPSILON SYMBOLdITALIC CAPITAL A
fALPHAfBfBETAfCfCHIfDfDELTAfEfEPSILONfETAfFfGfGAMMAfHfIfIOTAfJfKfKAPPAfLfLAMDAfMfMUfNfNUfOfOMEGA
fOMICRONfPfPHIfPIfPSIfQfRfRHOfSfSIGMAfTfTAUfTHETAgSYMBOLfUfUPSILONfVfWfXfXIfYfZfZETAeEPSILON SYMBOL
eKAPPA SYMBOLeNABLAePARTIAL DIFFERENTIALePHI SYMBOLePI SYMBOLeRHO SYMBOLeSMALL AfALPHAfBfBETAfCfCHI
fDfDELTAfEfEPSILONfETAfFfFINAL SIGMAfGfGAMMAfHfIfIOTAfJfKfKAPPAfLfLAMDAfMfMUfNfNUfOfOMEGAfOMICRONfP
fPHIfPIfPSIfQfRfRHOfSfSIGMAfTfTAUfTHETAfUfUPSILONfVfWfXfXIfYfZfZETAeTHETA SYMBOLdKAPPA SYMBOLdNABLA
dPARTIAL DIFFERENTIALdPHI SYMBOLdPI SYMBOLdRHO SYMBOLdSMALL AeALPHAeBeBETAeCeCHIeDeDELTAeEeEPSILON
eETAeFeFINAL SIGMAeGeGAMMAeHeIeIOTAeJeKeKAPPAeLeLAMDAeMeMUeNeNUeOeOMEGAeOMICRONePePHIePIePSIeQeReRHO
eSeSIGMAeTeTAUeTHETAeUeUPSILONeVeWeXeXIeYeZeZETAdTHETA SYMBOLcCAPITAL AdBdCdDdEdFdGdHdIdJdKdLdMdNdO
dPdQdRdSdTdUdVdWdXdYdZcDIGIT EIGHTdFIVEdFOURdNINEdONEdSEVENdSIXdTHREEdTWOdZEROcITALIC CAPITAL AeBeC
eDeEeFeGeHeIeJeKeLeMeNeOePeQeReSeTeUeVeWeXeYeZdSMALL AeBeCeDeEeFeGeHeIeJeKeLeMeNeOePeQeReSeTeUeVeWeX
eYeZcSMALL AdBdCdDdEdFdGdHdIdJdKdLdMdNdOdPdQdRdSdTdUdVdWdXdYdZbSCRIPT CAPITAL AdCdDdGdJdKdNdOdPdQdS
dTdUdVdWdXdYdZcSMALL AdBdCdDdFdHdIdJdKdLdMdNdPdQdRdSdTdUdVdWdXdYdZaMAXIMIZEaMAYAN NUMERAL EIGHT
cEIGHTEENcELEVENcFIFTEENcFIVEcFOURcFOURTEENcNINEcNINETEENcONEcSEVENcSEVENTEENcSIXcSIXTEENcTEN
cTHIRTEENcTHREEcTWELVEcTWOcZEROaMEASURED ANGLEcOPENING LEFT
cWITH OPEN ARM ENDING IN ARROW POINTING DOWN AND LEFTlRIGHTjLEFT AND DOWNlUPjRIGHT AND DOWNlUP
jUP AND LEFTlRIGHTbBYbRIGHT ANGLE WITH DOTaMEAT ON BONEaMECHANICAL ARMbLEG
aMEDEFAIDRIN CAPITAL LETTER AdAIdATIUdBdCdDdEdFdGdHdHPdIdJdKdKPdLdMdNdNGdNYdOdOEdPdQdRdSdTdUdVdWdXdY
dYUdZbCOMMAbDIGIT EIGHTcFIVEcFOURcNINEcONEdALTERNATE FORMcSEVENcSIXcTHREEdALTERNATE FORMcTWO
dALTERNATE FORMcZERObEXCLAMATION OHbFULL STOPbNUMBER EIGHTEENcELEVENcFIFTEENcFOURTEENcNINETEEN
cSEVENTEENcSIXTEENcTENcTHIRTEENcTWELVEbSMALL LETTER AdAIdATIUdBdCdDdEdFdGdHdHPdIdJdKdKPdLdMdNdNGdNY
dOdOEdPdQdRdSdTdUdVdWdXdYdYUdZbSYMBOL AIVAaMEDIEVAL COMMAbEXCLAMATION MARKbQUESTION MARK
aMEDIUM BLACK CIRCLEbBOLD WHITE CIRCLEbEIGHT POINTED BLACK STARcSPOKED ASTERISKbFIVE SPOKED ASTERISK
bFLATTENED LEFT PARENTHESIS ORNAMENTcRIGHT PARENTHESIS ORNAMENTbFOUR POINTED BLACK STAR
dPINWHEEL STARbGREEK CROSSbLEFT CURLY BRACKET ORNAMENTcPARENTHESIS ORNAMENT
bLEFT-POINTING ANGLE BRACKET ORNAMENTbMATHEMATICAL SPACEbRIGHT CURLY BRACKET ORNAMENT
cPARENTHESIS ORNAMENTbRIGHT-POINTING ANGLE BRACKET ORNAMENTbSALTIREbSHADEbSIX POINTED BLACK STAR
cSPOKED ASTERISKbSMALL WHITE CIRCLEbTHREE POINTED BLACK STARdPINWHEEL STARbVERTICAL BARbWHITE CIRCLE
cSQUAREaMEETEI MAYEK AHANG KHUDAMcANJIcAPUN IYEKcCHEIKHANcCHEIKHEIcDIGIT EIGHTdFIVEdFOURdNINEdONE
dSEVENdSIXdTHREEdTWOdZEROcLETTER ATIYAdBAdBHAMdCHAdCHILdDDAdDDHAdDHOUdDILdEdGHOUdGOKdHUKdIeLONSUM
dJHAMdJILdKHOUdKOKeLONSUMdLAIeLONSUMdMITeLONSUMdNAeLONSUMdNGOUeLONSUMdNNAdNYAdOdPAeLONSUMdPHAMdRAI
dSAMdSHAdSSAdTHOUdTILeLONSUMdTTAdTTHAdUNdWAIdYANGcLUM IYEKcSYLLABLE REPETITION MARKcVIRAMA
cVOWEL SIGN AAIeAAUeANAPeAUeCHEINAPeIIeINAPeNUNGeONAPeSOUNAPeUNAPeUUeVISARGAeYENAP
cWORD REPETITION MARKaMELONaMELTING FACEaMEMOaMENDE KIKAKUI COMBINING NUMBER HUNDRED THOUSANDS
eHUNDREDSeMILLIONSeTEENSeTEN THOUSANDSeTENSeTHOUSANDScDIGIT EIGHTdFIVEdFOURdNINEdONEdSEVENdSIXdTHREE
dTWOcSYLLABLE M001 KIdM002 KAdM003 KUdM004 WIdM005 WAdM006 WUdM007 MINdM008 MANdM009 MUNdM010 BI
dM011 BAdM012 BUdM013 IdM014 AdM015 UdM016 DIdM017 DAdM018 DUdM019 SIdM020 SAdM021 SUdM022 TI
dM023 TAdM024 TUdM025 LIdM026 LAdM027 LUdM028 JIdM029 JAdM030 JUdM031 YIdM032 YAdM033 YUdM034 FI
dM035 FAdM036 FUdM037 NINdM038 NANdM039 NUNdM040 HEEdM041 HAdM042 HOOdM043 NGGAdM044 KPEEdM045 WO
dM046 HUANdM047 MBEEdM048 KOdM049 WVAdM050 PUdM051 PEdM052 HENdM053 HINdM054 LOOdM055 TEdM056 GBA
dM057 NGONdM058 NYANdM059 MENdM060 NYONdM061 WVIdM062 MBAdM063 JOdM064 NDOdM065 KEEdM066 PO
dM067 NDOOdM068 PIdM069 TOdM070 GBOdM071 GBOOdM072 MBEdM073 LEdM074 KPUdM075 FEdM076 KOOdM077 VO
dM078 FEEdM079 SOdM080 YEdM081 PEEdM082 NGGUdM083 HEEIdM084 LEEdM085 VEdM086 LONG NGGEdM087 HUN
dM088 FOdM089 DEEdM090 NGGIdM091 TEEdM092 KPAdM093 GBEEdM094 MONdM095 KEdM096 HEdM097 BEdM098 NYEN
dM099 PAdM100 EdM101 FANdM102 POOdM103 BOOdM104 TOOdM105 LONG MBOOdM106 LONG NGGOOdM107 GBEdM108 KPE
dM109 YEEdM110 LONG LEdM111 GAdM112 KPOOdM113 JEdM114 WOOdM115 NGGEEdM116 SEdM117 NENdM118 WE
dM119 NDEdM120 NGGOdM121 YOdM122 MBUdM123 NDIdM124 GBIdM125 NDUdM126 WEEdM127 NGGUAdM128 HOOU
dM129 NDAdM130 HANdM131 INdM132 KPIdM133 FOOdM134 NJOOdM135 INdM136 SOOdM137 EIdM138 BOdM139 WVE
dM140 HOdM141 YOOdM142 LONG MBOdM143 WEIdM144 VOOdM145 MBIdM146 NGGEdM147 OdM148 GBUdM149 NJEE
dM150 BEEdM151 VUdM152 NJAdM153 LOdM154 MUANdM155 GIdM156 NGGOOdM157 JEEdM158 KPOdM159 NGGAA
dM160 JOOdM161 LONG MBEdM162 SEEdM163 EEdM164 NYINdM165 OOdM166 GUEIdM167 GUANdM168 GUdM169 NON
dM170 NYUNdM171 RAdM172 MBOOdM173 VEEdM174 MBOdM175 LONG JOdM176 HIdM177 NGUANdM178 ENdM179 KUA
dM180 DOOdM181 DOdM182 VIdM183 LONG NGGOdM184 NGENdM185 VAdM186 HUdM187 MBUUdM188 MBEEdM189 MUEN
dM190 GEEdM191 NDEEdM192 NJUdM193 HONdM194 WUIdM195 ANdM196 SIAdM197 FUAaMENORAH WITH NINE BRANCHES
aMENS SYMBOLaMERCURYaMEROITIC CURSIVE FRACTION EIGHT TWELFTHSdELEVEN TWELFTHSdFIVE TWELFTHS
dFOUR TWELFTHSdNINE TWELFTHSdONE HALFeTWELFTHdSEVEN TWELFTHSdSIX TWELFTHSdTEN TWELFTHS
dTHREE TWELFTHSdTWO TWELFTHScLETTER AdARCHAIC SAdBAdDAdEdHHAdIdKAdKHAdLAdMAdNAdNEdOdPAdQAdRAdSAdSE
dTAdTEdTOdWAdYAcLOGOGRAM IMNdRMTcNUMBER EIGHTeHUNDREDfTHOUSANDeTHOUSANDdEIGHTY THOUSANDdFIFTY
eTHOUSANDdFIVEeHUNDREDfTHOUSANDeTHOUSANDdFORTYeTHOUSANDdFOUReHUNDREDfTHOUSANDeTHOUSANDdNINEeHUNDRED
fTHOUSANDeTHOUSANDdNINETY THOUSANDdONEeHUNDREDfTHOUSANDeTHOUSANDdSEVENeHUNDREDfTHOUSANDeTHOUSAND
dSEVENTYeTHOUSANDdSIXeHUNDREDfTHOUSANDeTHOUSANDdSIXTYeTHOUSANDdTENeTHOUSANDdTHIRTYeTHOUSANDdTHREE
eHUNDREDfTHOUSANDeTHOUSANDdTWENTYeTHOUSANDdTWOeHUNDREDfTHOUSANDeTHOUSANDbHIEROGLYPHIC LETTER AdBA
dBA-2dDAdEdHHAdIdKAdKHAdLAdMAdNAdNA-2dNEdNE-2dOdPAdQAdRAdRA-2dSAdSA-2dSEdTAdTA-2dTEdTE-2dTOdWAdYA
cSYMBOL VIDJdVIDJ-2aMERPERSONaMESSAGE WAITINGaMETRICAL BREVEbLONG OVER SHORTdTWO SHORTSbPENTASEME
bSHORT OVER LONGbTETRASEMEbTRISEMEbTWO SHORTS JOINEDdOVER LONGaMETROaMIAO LETTER AHcARCHAIC MAdNA
dNGAdZZAcBAcBRIcDAcDDAcDLHAcDLHYAcDZAcDZHAcDZYIcDZZAcFAcGAcGHAcGHHAcHAcHHAcKAcLAcLHAcLHYAcLYAcMAcMHA
cNAcNASALIZATIONcNGAcNGHAcNHAcNNAcNNHAcNYAcNYHAcPAcPLAcQAcQGAcREFORMED TONE-1dTONE-2dTONE-4dTONE-5
dTONE-6dTONE-8dTSHAcRTEcSAcSHAcSSAcSYIcTAcTEcTLHAcTLHYAcTONE-2cTONE-3cTONE-4cTONE-5cTONE-6cTONE-7
cTONE-8cTSAcTSEcTSHAcTSSAcTTAcVAcVFAcWAcXAcYI DZHAdKAdNNAdPAdTAdTSAdTSHAdTTAcZAcZHAcZSAcZSHAcZZA
cZZSAcZZSYAcZZYAbSIGN ASPIRATIONcCONSONANT MODIFIER BARcREFORMED ASPIRATIONdVOICINGbTONE ABOVEcBELOW
cRIGHTcTOP RIGHTbVOWEL SIGN AdAAdAEdAEEdAHHdAIdANdANGdAUdEdEAdEIdENdENGdERdERRdIdIAdIANdIANGdIEdIG
dIIdINGdIOdIONGdIUdNdNGdOdOERdOEYdOGdOOdOUdROUNDED EReERRdUdUAdUANdUANGdUEIdUIdUNGdUOGdUUdVWdWdWOdY
dYIdYUIaMICR DASH SYMBOLbON US SYMBOLaMICRO SIGNaMICROBEaMICROPHONEaMICROSCOPEaMIDDLE DOT
bTHIRD WHITE RIGHT POINTING INDEXaMIDLINE HORIZONTAL ELLIPSISaMILITARY HELMETbMEDALaMILKY WAY
aMILL SIGNaMINIBUSaMINIDISCaMINIMIZEaMINUS SIGNcIN TRIANGLEcWITH COMMA ABOVEdDOT BELOWdFALLING DOTS
dRISING DOTSbTILDEaMINUS-OR-PLUS SIGNaMINYaMIRRORbBALLaMMSPaMOBILE PHONEcOFF
cWITH RIGHTWARDS ARROW AT LEFTaMODELSaMODERN PENTATHLONaMODI ABBREVIATION SIGNbDANDAbDIGIT EIGHT
cFIVEcFOURcNINEcONEcSEVENcSIXcTHREEcTWOcZERObDOUBLE DANDAbLETTER AcAAcAIcAUcBAcBHAcCAcCHAcDAcDDA
cDDHAcDHAcEcGAcGHAcHAcIcIIcJAcJHAcKAcKHAcLAcLLAcMAcNAcNGAcNNAcNYAcOcPAcPHAcRAcSAcSHAcSSAcTAcTHAcTTA
cTTHAcUcUUcVAcVOCALIC LdLLdRdRRcYAbSIGN ANUSVARAcARDHACANDRAcHUVAcVIRAMAcVISARGAbVOWEL SIGN AAdAIdAU
dEdIdIIdOdUdUUdVOCALIC LeLLeReRRaMODIFIER BREVE WITH INVERTED BREVEbLETTER ACUTE ACCENT
cALVEOLAR CLICKcAPOSTROPHEcBEGIN HIGH TONEdLOW TONEcBILABIAL CLICKcCAPITAL AdAEdBdBARRED BdCdDdEdFdG
dHeWITH STROKEdIdJdKdLdMdNdOdOUdPdQdRdREVERSED EeNdTdUdVdWcCENTRED LEFT HALF RINGdRIGHT HALF RING
cCHINESE TONE YANG PINGfQUfRUfSHANGeYIN PINGfQUfRUfSHANGcCIRCUMFLEX ACCENTcCOLONcCROSS ACCENT
cCYRILLIC ENdHARD SIGNdSOFT SIGNcDENTAL CLICKcDOT HORIZONTAL BARdSLASHdVERTICAL BAR
cDOUBLE APOSTROPHEdPRIMEcDOWN ARROWHEADdTACKcEND HIGH TONEdLOW TONE
cEXTRA-HIGH DOTTED LEFT-STEM TONE BAReTONE BARdLEFT-STEM TONE BARdTONE BAR
cEXTRA-LOW DOTTED LEFT-STEM TONE BAReTONE BARdLEFT-STEM TONE BARdTONE BARcGEORGIAN NARcGLOTTAL STOP
eWITH STROKEcGRAVE ACCENTcHALF TRIANGULAR COLONcHIGH DOTTED LEFT-STEM TONE BAReTONE BAR
dLEFT-STEM TONE BARdTONE BARcLATERAL CLICKcLEFT ARROWHEADdHALF RINGdTACKcLOW ACUTE ACCENT
dCIRCUMFLEX ACCENTdDOTTED LEFT-STEM TONE BAReTONE BARdDOWN ARROWHEADdGRAVE ACCENT
dINVERTED EXCLAMATION MARKdLEFT ARROWeARROWHEADdLEFT-STEM TONE BARdMACRONdRIGHT ARROWHEADdRINGdTILDE
dTONE BARdUP ARROWHEADdVERTICAL LINEcLOWER RIGHT CORNER ANGLEcMACRONcMID DOTTED LEFT-STEM TONE BAR
eTONE BARdLEFT-STEM TONE BARdTONE BARcMIDDLE DOUBLE ACUTE ACCENTeGRAVE ACCENTdGRAVE ACCENT
cMINUS SIGNcOPEN SHELFcPLUS SIGNcPRIMEcRAISED COLONdDOWN ARROWdEXCLAMATION MARK
dINVERTED EXCLAMATION MARKdUP ARROWcRETROFLEX CLICK WITH RETROFLEX HOOKcREVERSED COMMAdGLOTTAL STOP
fWITH STROKEcRHOTIC HOOKcRIGHT ARROWHEADdHALF RINGdTACKcSHELFcSHORT EQUALS SIGNcSMALL AdAEdAINdALPHA
dBeWITH HOOKdBARRED OdBETAdBOTTOM HALF OdCeWITH CURLdCAPITAL AAeBeGfWITH HOOKeHeIfWITH STROKE
eINVERTED ReLfWITH BELTeNeOEeReUeYdCHIdCLOSED OMEGAeREVERSED OPEN EdDeWITH HOOKgAND TAILfTAILdDELTA
dDEZH DIGRAPHdDOTLESS J WITH STROKEhAND HOOKdDZ DIGRAPHfWITH CURLgRETROFLEX HOOKdEdENGdESHdETHdEZHdF
dFENG DIGRAPHdGeWITH HOOKdGAMMAdGREEK GAMMAePHIdHeWITH HOOKfSTROKEdHENGeWITH HOOKdI WITH STROKEdIOTA
dJeWITH CROSSED-TAILdKdLeWITH BELTfINVERTED LAZY SfMIDDLE TILDEfPALATAL HOOKfRETROFLEX HOOKhAND BELT
dLEZHeWITH RETROFLEX HOOKdLIGATURE OEdLS DIGRAPHdLZ DIGRAPHdMeWITH HOOKdN WITH LEFT HOOK
fRETROFLEX HOOKdOeWITH STROKEdOPEN EeOdPdPHIdQdReWITH FISHHOOKfTAILdRAMS HORNdREVERSED E
eGLOTTAL STOPeOPEN EdSeWITH CURLfHOOKdSCHWAdSCRIPT GdSIDEWAYS UdTeWITH PALATAL HOOKfRETROFLEX HOOK
dTC DIGRAPH WITH CURLdTESH DIGRAPHdTHETAdTOP HALF OdTS DIGRAPHfWITH RETROFLEX HOOKdTURNED AeAEeALPHA
eHeIeMfWITH LONG LEGeOPEN EeRfWITH HOOKgLONG LEGiAND RETROFLEX HOOKeVeWeYfWITH BELTdUeBAR
eWITH LEFT HOOKdUPSILONdVeWITH HOOKfRIGHT HOOKdWdXdYdZeWITH CURLfRETROFLEX HOOKcSTRESS AND HIGH TONE
eLOW TONEcSUPERSCRIPT HALF TRIANGULAR COLONdTRIANGULAR COLONcTRIANGULAR COLONcTURNED COMMA
cUNASPIRATEDcUP ARROWHEADdTACKcUScVERTICAL LINEcVOICINGcYANG DEPARTING TONE MARK
cYIN DEPARTING TONE MARKaMODULO TWO SUMaMONEY BAGbWITH WINGSaMONEY-MOUTH FACEaMONGOLIAN BIRGA
cWITH DOUBLE ORNAMENTdORNAMENTbCOLONbCOMMAbDIGIT EIGHTcFIVEcFOURcNINEcONEcSEVENcSIXcTHREEcTWOcZERO
bDOUBLE BIRGA WITH ORNAMENTbELLIPSISbFOUR DOTSbFREE VARIATION SELECTOR FOUReONEeTHREEeTWObFULL STOP
bINVERTED BIRGAdWITH DOUBLE ORNAMENTbLETTER AcALI GALI AeAHeANUSVARA ONEeBALUDAeCAeDAeDAGALGAeDAMARU
eDDAeHALF UfYAeIeINVERTED UBADAMAeKAeNGAeNNAePAePHAeSSAeTAeTHREE BALUDAeTTAeTTHAeUBADAMAeVISARGA ONE
eZAeZHAcANGcBAcCHAdWITH TWO DOTScCHIcDAcEcEEcFAcGAcHAAcIcJAcKAcKHAcLAcLHAcMAcMANCHU ALI GALI BHAfCA
fCYAfDDHAfDHAfGHAfJHAfLHAfNGAfSSAfTAfTTAfZAfZHAdFAdIdKAdRAdZHAcNAcOcOEcPAcQAcRAcSAcSHAcSIBE ANGdCHA
dDAdEdFAdGAdGAAdHAdHAAdIdIYdJAdKAdPAdRAAdSHAdTAdTSAdUdUEdZAdZHAcTAcTODO ALI GALI TAfZHAdANGdBAdCHA
dDAdDZAdEdGAdGAAdHAAdIdJAdJIAdKAdLONG VOWEL SIGNdMAdNIAdOdOEdPAdQAdTAdTSAdUdUEdWAdYAcTSAcUcUEcWAcYA
cZAcZHIcZRAbMANCHU COMMAcFULL STOPbNIRUGUbROTATED BIRGAdWITH DOUBLE ORNAMENTeORNAMENT
bSIBE SYLLABLE BOUNDARY MARKERbSWIRL BIRGAdWITH DOUBLE ORNAMENTeORNAMENTbTODO SOFT HYPHEN
bTRIPLE BIRGA WITH ORNAMENTbTURNED SWIRL BIRGA WITH DOUBLE ORNAMENTbVOWEL SEPARATORaMONKEYbFACE
aMONOGRAM FOR EARTHcYANGcYINaMONORAILaMONOSTABLE SYMBOLaMOOD BUBBLEaMOON CAKEbVIEWING CEREMONY
aMOSQUEaMOSQUITOaMOTHER CHRISTMASaMOTOR BOATbSCOOTERaMOTORIZED WHEELCHAIRaMOTORWAYaMOUNT FUJI
aMOUNTAINbBICYCLISTbCABLEWAYbRAILWAYaMOUSEbFACEbTRAPaMOUTHaMOVIE CAMERAaMOYAIaMRO DANDAbDIGIT EIGHT
cFIVEcFOURcNINEcONEcSEVENcSIXcTHREEcTWOcZERObDOUBLE DANDAbLETTER AcBAcCHUcDAcDAIcEcEAcHAIcHAOcKEAAE
cKHAIcKOcLAcLANcMAEMcMIMcNGIcNINcOcOLcOOcPAcPHIcRIcROcSHIcTAcTEKcTHEAcWAcYOaMUCH GREATER-THAN
bLESS-THANaMULTANI LETTER AcBAcBHAcCAcCHAcDAcDDAcDDDAcDDHAcDHAcEcGAcGHAcHAcIcJAcJJAcKAcKHAcLAcMAcNA
cNNAcNYAcPAcPHAcRAcRHAcRRAcSAcTAcTHAcTTAcTTHAcUcVAcYAbSECTION MARKaMULTIMAPaMULTIPLE MUSICAL NOTES
aMULTIPLICATION SIGNcIN DOUBLE CIRCLEdLEFT HALF CIRCLEdRIGHT HALF CIRCLEdTRIANGLEcWITH DOT ABOVE
dUNDERBARbXaMULTISETbMULTIPLICATIONbUNIONaMUSHROOMaMUSIC FLAT SIGNbNATURAL SIGNbSHARP SIGN
aMUSICAL KEYBOARDcWITH JACKSbNOTEbSCOREbSYMBOL ARPEGGIATO DOWNdUPcBEGIN BEAMdPHRASEdSLURdTIEcBRACE
cBRACKETcBREATH MARKcBREVEcBREVISdRESTcC CLEFcCAESURAcCIRCLE X NOTEHEADcCLIMACUScCLIVIS
cCLUSTER NOTEHEAD BLACKeWHITEcCODAcCOMBINING ACCENTdACCENT-STACCATOdAUGMENTATION DOTdBENDdDOIT
dDOUBLE TONGUEdDOWN BOWdFLAG-1dFLAG-2dFLAG-3dFLAG-4dFLAG-5dFLIPdHARMONICdLOUREdMARCATO
dMARCATO-STACCATOdRIPdSMEARdSNAP PIZZICATOdSPRECHGESANG STEMdSTACCATISSIMOdSTACCATOdSTEMdTENUTO
dTREMOLO-1dTREMOLO-2dTREMOLO-3dTRIPLE TONGUEdUP BOWcCOMMON TIMEcCRESCENDOcCROIXcCUT TIMEcDA CAPO
cDAL SEGNOcDAMPdALLcDASHED BARLINEcDECRESCENDOcDEGREE SLASHcDOUBLE BARLINEdFLATdSHARPcDRUM CLEF-1
dCLEF-2cEIGHTH NOTEdRESTcEND BEAMdOF STIMMEdPHRASEdSLURdTIEcF CLEFeOTTAVA ALTAfBASSAcFERMATAdBELOW
cFINAL BARLINEcFINGERED TREMOLO-1dTREMOLO-2dTREMOLO-3cFIVE-LINE STAFFcFLAT DOWNdUPcFORTE
cFOUR-LINE STAFFcFOUR-STRING FRETBOARDcFUSA BLACKdWHITEcG CLEFeOTTAVA ALTAfBASSAcGLISSANDO DOWNdUP
cGRACE NOTE NO SLASHeSLASHcGREGORIAN C CLEFdF CLEFcHALF NOTEdPEDAL MARKdRESTcHAUPTSTIMME
cINVERTED TURNcKIEVAN C CLEFdEIGHTH NOTE STEM DOWNgUPdEND OF PIECEdFINAL NOTEdFLAT SIGNdHALF NOTE
dQUARTER NOTE STEM DOWNgUPdRECITATIVE MARKdWHOLE NOTEcKORONcLEFT REPEAT SIGNcLONGAdIMPERFECTA REST
dPERFECTA RESTcMAXIMAcMEZZOcMINIMAdBLACKdRESTcMOON NOTEHEAD BLACKeWHITEcMULTI REST
cMULTIPLE MEASURE RESTcNATURAL DOWNdUPcNEBENSTIMMEcNOTEHEAD BLACKcNULL NOTEHEAD
cONE HUNDRED TWENTY-EIGHTH NOTEfRESTcONE-LINE STAFFcORNAMENT STROKE-1dSTROKE-10dSTROKE-11dSTROKE-2
dSTROKE-3dSTROKE-4dSTROKE-5dSTROKE-6dSTROKE-7dSTROKE-8dSTROKE-9cOTTAVA ALTAdBASSA
cPARENTHESIS NOTEHEADcPEDAL MARKdUP MARKcPES SUBPUNCTIScPIANOcPLUS NOTEHEADcPODATUScPORRECTUSdFLEXUS
cQUARTER NOTEdRESTdTONE FLATeSHARPcQUINDICESIMA ALTAdBASSAcREPEAT DOTScREPEATED FIGURE-1dFIGURE-2
dFIGURE-3cREVERSE FINAL BARLINEcRIGHT REPEAT SIGNcRINFORZANDOcSCANDICUSdFLEXUScSEGNO
cSEMIBREVIS BLACKdRESTdWHITEcSEMIMINIMA BLACKdRESTdWHITEcSHARP DOWNdUPcSHORT BARLINEcSINGLE BARLINE
cSIX-LINE STAFFcSIX-STRING FRETBOARDcSIXTEENTH NOTEdRESTcSIXTY-FOURTH NOTEdRESTcSORIcSQUARE B
dNOTEHEAD BLACKeWHITEcSUBITOcTEMPUS IMPERFECTUM CUM PROLATIONE IMPERFECTAhDIMINUTION-1hDIMINUTION-2
hDIMINUTION-3gPERFECTAdPERFECTUM CUM PROLATIONE IMPERFECTAgPERFECTAhDIMINUTION-1cTHIRTY-SECOND NOTE
dRESTcTHREE-LINE STAFFcTORCULUSdRESUPINUScTRcTRIANGLE NOTEHEAD DOWN BLACKfWHITEeLEFT BLACKfWHITE
eRIGHT BLACKfWHITEeUP BLACKfRIGHT BLACKgWHITEfWHITEcTRIANGLE-ROUND NOTEHEAD DOWN BLACKfWHITEcTURN
dSLASHdUPcTWO-LINE STAFFcVIRGAcVOID NOTEHEADcWHOLE NOTEdRESTcWITH FINGERNAILScX NOTEHEADcZaMVSaMW
aMYANMAR CONSONANT SIGN MEDIAL HAeRAeWAeYAdMON MEDIAL LAfMAfNAdSHAN MEDIAL WAbDIGIT EIGHTcFIVEcFOUR
cNINEcONEcSEVENcSIXcTHREEcTWOcZERObLETTER AcAITON RAcAUcBAcBHAcCAcCHAcDAcDDAcDDHAcDHAcE
cEASTERN PWO KAREN GHWAfNNAfYWAcGAcGHAcGREAT SAcHAcIcIIcJAcJHAcKAcKHAcKHAMTI CAdCHAdDDAdDDHAdDHAdFA
dGAdHAdHHAdJAdJHAdLLAdNAdNYAdRAdSAdTTAdTTHAdXAdZAcLAcLLAcMAcMON BBAdBBEdEdJHAdNGAcNAcNGAcNNAcNNYA
cNYAcOcPAcPHAcRAcRUMAI PALAUNG FAcSAcSGAW KAREN SHAcSHAcSHAN AdBAdBHAdCAdCHAdDAdFAdGAdGHAdHAdJHAdKA
dKHAdNAdNNAdNYAdPHAdTHAdZAcSHWE PALAUNG CHAeSHAcSSAcTAcTAI LAING BAeBHAeDAeDDAeDDHAeDHAeFAeGAeGHAeJA
eJHAeLLAeNNAeNYAcTHAcTTAcTTHAcUcUUcVOCALIC LdLLdRdRRcWAcWESTERN PWO KAREN PWAfTHAcYA
bLOGOGRAM KHAMTI HMdOAYdQNbMODIFIER LETTER KHAMTI REDUPLICATIONdSHAN REDUPLICATIONbSHAN DIGIT EIGHT
dFIVEdFOURdNINEdONEdSEVENdSIXdTHREEdTWOdZERObSIGN ANUSVARAcASATcDOT BELOWcKHAMTI TONE-1dTONE-3
cLITTLE SECTIONcPAO KAREN TONEcRUMAI PALAUNG TONE-5cSECTIONcSHAN COUNCIL EMPHATIC TONEeTONE-2eTONE-3
dSAWdTONE-2dTONE-3dTONE-5dTONE-6cTAI LAING TONE-2eTONE-5cVIRAMAcVISARGAcWESTERN PWO KAREN TONE-1
fTONE-2fTONE-3fTONE-4fTONE-5bSYMBOL AFOREMENTIONEDcAITON EXCLAMATIONdONEdTWOcCOMPLETEDcGENITIVE
cLOCATIVEcSHAN EXCLAMATIONdONEbTAI LAING DIGIT EIGHTeFIVEeFOUReNINEeONEeSEVENeSIXeTHREEeTWOeZERO
bTONE MARK SGAW KAREN HATHIfKE PHObVOWEL SIGN AAdAIdAITON AeAIdEeABOVEdGEBA KAREN IdIdIIdKAYAH EEeOE
eUdMON IIeOdSGAW KAREN EUdSHAN AAeEfABOVEeFINAL YdTALL AAdUdUUdVOCALIC LeLLeReRR
dWESTERN PWO KAREN EUgUEaN-ARY CIRCLED DOT OPERATORcPLUS OPERATORcTIMES OPERATORbCOPRODUCT
bINTERSECTIONbLOGICAL ANDcORbPRODUCTbSQUARE INTERSECTION OPERATORcUNION OPERATORbSUMMATION
bTIMES OPERATORbUNIONcOPERATOR WITH DOTePLUSbWHITE VERTICAL BARaNABATAEAN CRUCIFORM NUMBER FOUR
bLETTER ALEPHcAYINcBETHcDALETHcFINAL ALEPHdBETHdHEdKAPHdLAMEDHdMEMdNUNdSHINdYODHcGIMELcHEcHETHcKAPH
cLAMEDHcMEMcNUNcPEcQOPHcRESHcSADHEcSAMEKHcSHINcTAWcTETHcWAWcYODHcZAYINbNUMBER FIVEcFOURcONEdHUNDRED
cTENcTHREEcTWENTYcTWOaNABLAaNAIL POLISHaNAIRA SIGNaNAKaNAME BADGEaNANDaNANDINAGARI HEADSTROKE
bLETTER AcAAcAIcAUcBAcBHAcCAcCHAcDAcDDAcDDHAcDHAcEcGAcGHAcHAcIcIIcJAcJHAcKAcKHAcLAcLLAcMAcNAcNGAcNNA
cNYAcOcPAcPHAcRAcRRAcSAcSHAcSSAcTAcTHAcTTAcTTHAcUcUUcVAcVOCALIC RdRRcYAbSIGN ANUSVARAcAVAGRAHA
cSIDDHAMcVIRAMAcVISARGAbVOWEL SIGN AAdAIdAUdEdIdIIdOdPRISHTHAMATRA EdUdUUdVOCALIC ReRR
aNARROW NO-BREAK SPACEaNATIONAL DIGIT SHAPESbPARKaNAUSEATED FACEaNAZAR AMULETaNBHaNBSPaNECKTIE
aNEGATED DOUBLE VERTICAL BAR DOUBLE RIGHT TURNSTILEaNEGATIVE ACKNOWLEDGEbCIRCLED DIGIT ZERO
cLATIN CAPITAL LETTER AfBfCfDfEfFfGfHfIfJfKfLfMfNfOfPfQfRfSfTfUfVfWfXfYfZcNUMBER EIGHTEENdELEVEN
dFIFTEENdFOURTEENdNINETEENdSEVENTEENdSIXTEENdTHIRTEENdTWELVEdTWENTYcSQUAREcTRIANGLEbDIAGONAL CROSS
cDIAMONDcMIDDLE RIGHT TO LOWER CENTREbSQUARED ABcCROSS MARKcICcLATIN CAPITAL LETTER AfBfCfDfEfFfGfH
fIfJfKfLfMfNfOfPfQfRfSfTfUfVfWfXfYfZcPAcQUESTION MARKcSAcWCaNEITHER A SUBSET OF NOR EQUAL TO
cSUPERSET OF NOR EQUAL TObAPPROXIMATELY NOR ACTUALLY EQUAL TObGREATER-THAN NOR EQUAL TO
dEQUIVALENT TOdLESS-THANbLESS-THAN NOR EQUAL TOdEQUIVALENT TOdGREATER-THANaNELaNEPTUNEbFORM TWO
aNERD FACEaNESSUSaNEST WITH EGGSaNESTING DOLLSaNEUTERaNEUTRAL CHESS BISHOPdROTATED NINETY DEGREES
eTWO HUNDRED SEVENTY DEGREEScEQUIHOPPERdROTATED NINETY DEGREEScKINGdROTATED NINETY DEGREES
eTWO HUNDRED SEVENTY DEGREEScKNIGHTdROTATED FORTY-FIVE DEGREESeNINETY DEGREES
eONE HUNDRED THIRTY-FIVE DEGREESeTHREE HUNDRED FIFTEEN DEGREESeTWO HUNDRED SEVENTY DEGREES
gTWENTY-FIVE DEGREEScPAWNdROTATED NINETY DEGREESeTWO HUNDRED SEVENTY DEGREEScQUEEN
dROTATED NINETY DEGREESeTWO HUNDRED SEVENTY DEGREEScROOKdROTATED NINETY DEGREES
eTWO HUNDRED SEVENTY DEGREEScTURNED BISHOPdKINGdKNIGHTdPAWNdQUEENdROOKbFACEaNEW LINEbMOON SYMBOL
cWITH FACEbSHEQEL SIGNbTAI LUE DIGIT EIGHTeFIVEeFOUReNINEeONEeSEVENeSIXeTHREEeTWOeZERO
dLETTER FINAL BfDfKfMfNfNGfVeHIGH BAfDAfFAfHAfKAfKVAfLAfMAfNAfNGAfPAfPHAfQAfSAfSUAfTAfTHAfTSAfVAfXA
fXVAfYAeLOW BAfDAfFAfHAfKAfKVAfLAfMAfNAfNGAfPAfPHAfQAfSAfSUAfTAfTHAfTSAfVAfXAfXVAfYAdSIGN LAEeLAEV
dTHAM DIGIT ONEdTONE MARK-1eMARK-2dVOWEL SIGN AAfAAYfAEfAYfEfIIfIYfOfOAfOAYfOYfUfUEfUEYfUUfUY
fVOWEL SHORTENERaNEWA ABBREVIATION SIGNbCOMMAbDANDAbDIGIT EIGHTcFIVEcFOURcNINEcONEcSEVENcSIXcTHREE
cTWOcZERObDOUBLE COMMAcDANDAbGAP FILLERbINSERTION SIGNbLETTER AcAAcAIcAUcBAcBHAcCAcCHAcDAcDDAcDDHA
cDHAcEcGAcGHAcHAcIcIIcJAcJHAcKAcKHAcLAcLHAcMAcMHAcNAcNGAcNGHAcNHAcNNAcNYAcNYHAcOcPAcPHAcRAcRHAcSA
cSHAcSSAcTAcTHAcTTAcTTHAcUcUUcVEDIC ANUSVARAcVOCALIC LdLLdRdRRcWAcYAbOMbPLACEHOLDER MARKbSANDHI MARK
bSIDDHIbSIGN ANUSVARAcAVAGRAHAcCANDRABINDUcFINAL ANUSVARAcJIHVAMULIYAcNUKTAcUPADHMANIYAcVIRAMA
cVISARGAbVOWEL SIGN AAdAIdAUdEdIdIIdOdUdUUdVOCALIC LeLLeReRRaNEWLINE LEFTbRIGHTaNEWSPAPERaNEXT LINE
bPAGEaNIGHT WITH STARSaNINJAaNKO COMBINING DOUBLE DOT ABOVEcLONG DESCENDING TONEdHIGH TONEdLOW TONE
dRISING TONEcNASALIZATION MARKcSHORT HIGH TONEdLOW TONEdRISING TONEbCOMMAbDANTAYALANbDIGIT EIGHT
cFIVEcFOURcNINEcONEcSEVENcSIXcTHREEcTWOcZERObDOROME SIGNbEXCLAMATION MARKbHIGH TONE APOSTROPHE
bLAJANYALANbLETTER AcBAcCHAcDAcDAGBASINNAcEcEEcFAcGBAcHAcIcJAcJONA CHAdJAdRAcKAcLAcMAcNcNAdWOLOSO
cNYAdWOLOSOcOcOOcPAcRAcRRAcSAcTAcUcWAcYAbLOW TONE APOSTROPHEbSYMBOL GBAKURUNENcOO DENNENbTAMAN SIGN
aNLaNNBSPaNO BICYCLESbBREAK HEREbENTRYcSIGNbMOBILE PHONESbONE UNDER EIGHTEEN SYMBOLbPEDESTRIANS
bPIRACYbSMOKING SYMBOLaNO-BREAK SPACEaNOMINAL DIGIT SHAPESaNOMISMA SIGNaNON-BREAKING HYPHEN
aNON-POTABLE WATER SYMBOLaNONFORKINGaNORaNORDIC MARK SIGNaNORMAL SUBGROUP OFdOR EQUAL TO
aNORTH EAST AND SOUTH WEST ARROWcARROWdAND SOUTH EAST ARROWdCROSSING NORTH WEST ARROW
eSOUTH EAST ARROWdWITH HOOKcBLACK ARROWcDOUBLE ARROWcPOINTING BUDdLEAFdVINE LEAFcSANS-SERIF ARROW
cTRIANGLE-HEADED ARROWeTO BARcWHITE ARROWbINDIC FRACTION ONE EIGHTHeHALFeQUARTEReSIXTEENTH
dTHREE QUARTERSeSIXTEENTHScPLACEHOLDER MARKcQUANTITY MARKcQUARTER MARKcRUPEE MARK
bWEST AND SOUTH EAST ARROWcARROWdAND NORTH EAST ARROWdCROSSING NORTH EAST ARROWdTO CORNEReLONG BAR
dWITH HOOKcBLACK ARROWcDOUBLE ARROWcPOINTING BUDdLEAFdVINE LEAFcSANS-SERIF ARROW
cTRIANGLE-HEADED ARROWeTO BARcWHITE ARROWaNORTHEAST-POINTING AIRPLANEaNOSEaNOT A SUBSET OF
cSUPERSET OFbALMOST EQUAL TObAN ELEMENT OFbASYMPTOTICALLY EQUAL TObCHECK MARKbEQUAL TObEQUIVALENT TO
bGREATER-THANbIDENTICAL TObLESS-THANbNORMAL SUBGROUP OFeOR EQUAL TObPARALLEL TObSIGN
bSQUARE IMAGE OF OR EQUAL TOcORIGINAL OF OR EQUAL TObTILDEbTRUE
aNOTCHED LEFT SEMICIRCLE WITH THREE DOTSbLOWER RIGHT-SHADOWED WHITE RIGHTWARDS ARROW
bRIGHT SEMICIRCLE WITH THREE DOTSbUPPER RIGHT-SHADOWED WHITE RIGHTWARDS ARROWaNOTEbPADbPAGEaNOTEBOOK
bWITH DECORATIVE COVERaNULaNULLaNUMBER EIGHTEEN FULL STOPbELEVEN FULL STOPbFIFTEEN FULL STOP
bFOURTEEN FULL STOPbNINETEEN FULL STOPbSEVENTEEN FULL STOPbSIGNbSIXTEEN FULL STOPbTEN FULL STOP
bTHIRTEEN FULL STOPbTWELVE FULL STOPbTWENTY FULL STOPaNUMERO SIGNaNUSHU ITERATION MARKaNUT AND BOLT
aNYIAKENG PUACHUE HMONG CIRCLED CAdDIGIT EIGHTeFIVEeFOUReNINEeONEeSEVENeSIXeTHREEeTWOeZEROdLETTER A
eAAeCAeDAeDLAeEeEEeFAeGAeHAeHAHeIeKAeLAeMAeMLAeNAeNCAeNKAeNPAeNPLAeNQAeNRAeNTAeNTSAeNTXAeNYAeOeOOePA
ePLAeQAeRAeRRAeSAeTAeTSAeTXAeUeVAeWeXAeXYAeYAeZAdLOGOGRAM NYAJdSIGN FOR ANIMALfINVERTEBRATEfLOCATION
fPERSONfTHINGeXW XWdSYLLABLE LENGTHENERdTONE-BdTONE-DdTONE-GdTONE-JdTONE-MdTONE-SdTONE-V
aOBJECT REPLACEMENT CHARACTERaOBLIQUE ANGLE OPENING DOWNdUPbHYPHENaOBSERVER EYE SYMBOL
aOCR AMOUNT OF CHECKbBELT BUCKLEbBOW TIEbBRANCH BANK IDENTIFICATIONbCHAIRbCUSTOMER ACCOUNT NUMBER
bDASHbDOUBLE BACKSLASHbFORKbHOOKbINVERTED FORKaOCTAGONAL SIGNaOCTOPUSaODENaOFFICE BUILDING
aOGHAM FEATHER MARKbLETTER AILMcBEITHcCEIRTcCOLLcDAIRcEABHADHcEADHADHcEAMHANCHOLLcFEARNcGORTcIFIN
cIODHADHcLUIScMUINcNGEADALcNIONcONNcORcPEITHcRUIScSAILcSTRAIFcTINNEcUATHcUILLEANNcUR
bREVERSED FEATHER MARKbSPACE MARKaOGONEKaOHM SIGNaOIL DRUMaOK HAND SIGNaOL CHIKI AHADcDIGIT EIGHT
dFIVEdFOURdNINEdONEdSEVENdSIXdTHREEdTWOdZEROcGAAHLAA TTUDDAAGcLETTER AAJdAAKdAAMdAAWdAGdALdANGdAT
dEDDdENdEPdERRdIHdINYdIRdISdLAdLAAdLEdLIdLOdLUdOBdOHdOTTdOVdUCdUDdUNNdUYcMU TTUDDAG
cMU-GAAHLAA TTUDDAAGcPHAARKAAcPUNCTUATION DOUBLE MUCAADdMUCAADcRELAAaOLD CHINESE HOOK MARK
cITERATION MARKbHUNGARIAN CAPITAL LETTER AeAAeAKeAMBeANDeCLOSE EeEeEBeECeECHeECSeEDeEEeEFeEGeEGYeEH
eEJeEKeELeELYeEMeEMPeENeENCeENTeENT-SHAPED SIGNeENYeEPeEReESeESZeETeETYeEVeEZeEZSeIeIIeNIKOLSBURG OE
fUEeOeOEEeOOeRUDIMENTA OEfUEeSHORT EReUeUNKeUSeUUcNUMBER FIFTYdFIVEdONEeHUNDREDeTHOUSANDdTEN
cSMALL LETTER AeAAeAKeAMBeANDeCLOSE EeEeEBeECeECHeECSeEDeEEeEFeEGeEGYeEHeEJeEKeELeELYeEMeEMPeENeENC
eENTeENT-SHAPED SIGNeENYeEPeEReESeESZeETeETYeEVeEZeEZSeIeIIeNIKOLSBURG OEfUEeOeOEEeOOeRUDIMENTA OE
fUEeSHORT EReUeUNKeUSeUUbITALIC LETTER AdBEdCHEdDEdEdEFdEKSdELdEMdENdERdERSdESdESHdESSdHEdIdIIdKAdKE
dKHEdKUdNORTHERN TSEdOdPEdPHEdSHEdSOUTHERN TSEdTEdTHEdUdUUdVEdYEdZEcNUMERAL FIFTYdFIVEdONEdTENbKEY
bNORTH ARABIAN LETTER AINeALEFeBEHeDADeDALeES-1eES-2eES-3eFEHeGEEMeGHAINeHAHeHEHeKAFeKHAHeLAMeMEEM
eNOONeQAFeREHeSADeTAHeTEHeTHALeTHEHeWAWeYEHeZAHeZAINdNUMBER ONEeTENeTWENTYbPERMIC LETTER ANdBUR
dCHERYdDOIdDZHOIdDZITAdEdEFdGAIdHAdIdIAdIEdKOKEdLEIdMENOEdNENOEdOdOOdPEEIdREIdSHCHOOIdSHOOIdSIIdTAI
dTSIUdUdVERdVOOIdYAdYATdYERdYERIdYERUdYRYdYUdZATAdZHOIbPERSIAN NUMBER HUNDREDdONEdTENdTWENTYdTWO
cSIGN AdAURAMAZDAAdAURAMAZDAA-2dAURAMAZDAAHAdBAdBAGAdBUUMISHdCAdDAdDAHYAAUSHdDAHYAAUSH-2dDIdDUdFAdGA
dGUdHAdIdJAdJIdKAdKUdLAdMAdMIdMUdNAdNUdPAdRAdRUdSAdSHAdSSAdTAdTHAdTUdUdVAdVIdXAdXSHAAYATHIYAdYAdZA
cWORD DIVIDERbPERSONAL COMPUTERbSOGDIAN FRACTION ONE HALFcLETTER ALEPHdALTERNATE AYINdAYINdBETH
dFINAL ALEPHeBETHeHEeNUNfWITH VERTICAL TAILeSADHEfWITH VERTICAL TAILeTAWfWITH VERTICAL TAILdGIMELdHE
dHETHdKAPHdLAMEDHdMEMdNUNdPEdRESH-AYIN-DALETHdSADHEdSAMEKHdSHINdTAWdWAWdYODHdZAYIN
cLIGATURE AYIN-DALETHcNUMBER FIVEdFOURdONEeHUNDREDdTENdTHIRTYdTHREEdTWENTYdTWO
bSOUTH ARABIAN LETTER ALEFeAYNeBETHeDALETHeDHADHEeDHALETHeFEeGHAYNeGIMELeHEeHETHeKAPHeKHETHeLAMEDH
eMEMeNUNeQOPHeRESHeSADHEeSAMEKHeSATeSHINeTAWeTETHeTHAWeTHETHeWAWeYODHeZAYNdNUMBER FIFTYeONE
dNUMERIC INDICATORbTURKIC LETTER ORKHON AeABeADeAEBeAEDeAEGeAEKeAELeAENeAEReAESeAETeAEYeAGeALeANeAQ
eAReASeASHeATeAYeBASHeECeELTeEMeENCeENGeENTeENYeEPeESHeEZeIeICeIQeOeOEeOEKeOPeOQeOTdYENISEI AeABeAD
eAEeAEBeAEGeAEKeAENeAENGeAETeAEYeAGeALeANGeAQeAReASHeATeAYeEeECeENCeENTeENYeESHeEZeIeIQeOEeOEKeOQ
bUYGHUR COMBINING DOT ABOVEeBELOWdTWO DOTS ABOVEfBELOWcLETTER ALEPHdBETHdFINAL HETHdGIMEL-HETHdKAPH
dLAMEDHdLESHdMEMdNUNdPEdRESHdSADHEdSAMEKHdSHINdTAWdWAWdYODHdZAYINcPUNCTUATION BARdFOUR DOTSdTWO BARS
eDOTSaOLDER ADULTbMANbWOMANaOLIVEaOM SYMBOLaON WITH EXCLAMATION MARK WITH LEFT RIGHT ARROW ABOVE
aONCOMING AUTOMOBILEbBUSbFIRE ENGINEbPOLICE CARbTAXIaONE BUTTON MOUSEbDOT LEADER
cOVER TWO DOTS PUNCTUATIONaONE-PIECE SWIMSUITaONIONaOPEN BOOKbBOXbCENTRE ASTERISKcBLACK STARcCROSS
cTEARDROP-SPOKED ASTERISKbFILE FOLDERbFOLDERbHANDS SIGNbLOCKbMAILBOX WITH LOWERED FLAGdRAISED FLAG
bSUBSETbSUPERSETaOPEN-CIRCUIT-OUTPUT H-TYPE SYMBOLbL-TYPE SYMBOLaOPEN-OUTLINED RIGHTWARDS ARROW
aOPERATING SYSTEM COMMANDaOPHIUCHUSaOPPOSITIONaOPTICAL DISCcICONaOPTION KEYaOR WITH DOT INSIDE
aORANGE BOOKbHEARTaORANGUTANaORIGINAL OFaORIYA AI LENGTH MARKbAU LENGTH MARKbDIGIT EIGHTcFIVEcFOUR
cNINEcONEcSEVENcSIXcTHREEcTWOcZERObFRACTION ONE EIGHTHdHALFdQUARTERdSIXTEENTHcTHREE QUARTERS
dSIXTEENTHSbISSHARbLETTER AcAAcAIcAUcBAcBHAcCAcCHAcDAcDDAcDDHAcDHAcEcGAcGHAcHAcIcIIcJAcJHAcKAcKHAcLA
cLLAcMAcNAcNGAcNNAcNYAcOcPAcPHAcRAcRHAcRRAcSAcSHAcSSAcTAcTHAcTTAcTTHAcUcUUcVAcVOCALIC LdLLdRdRRcWA
cYAcYYAbSIGN ANUSVARAcAVAGRAHAcCANDRABINDUcNUKTAcOVERLINEcVIRAMAcVISARGAbVOWEL SIGN AAdAIdAUdEdIdII
dOdUdUUdVOCALIC LeLLeReRRaORNATE LEFT PARENTHESISbRIGHT PARENTHESISaORTHODOX CROSS
aOSAGE CAPITAL LETTER AdAHdAIdAINdBRAdCHAdDHAdEdEHCHAdEHKAdEHPAdEHTAdEHTSAdEINdGHAdHAdHYAdIdKAdKHA
dKYAdLAdMAdNAdOdOINdPAdSAdSHAdTAdTSAdTSHAdUdWAdZAdZHAbSMALL LETTER AdAHdAIdAINdBRAdCHAdDHAdEdEHCHA
dEHKAdEHPAdEHTAdEHTSAdEINdGHAdHAdHYAdIdKAdKHAdKYAdLAdMAdNAdOdOINdPAdSAdSHAdTAdTSAdTSHAdUdWAdZAdZHA
aOSCaOSMANYA DIGIT EIGHTcFIVEcFOURcNINEcONEcSEVENcSIXcTHREEcTWOcZERObLETTER AcAAcALEFcBAcCAYNcDEEL
cDHAcEcEEcFAcGAcHAcIcJAcKAAFcKHAcLAANcMIINcNUUNcOcOOcQAAFcRAcSAcSHIINcTAcUcWAWcXAcYAaOTTER
aOTTOMAN SIYAQ ALTERNATE NUMBER EIGHTeFIVEeFOURfHUNDREDeNINEeSEVENeSIXfHUNDREDeTENfTHOUSANDeTHREE
eTWOfTHOUSANDcFRACTION ONE HALFeSIXTHcMARRATANcNUMBER EIGHTeHUNDREDeTHOUSANDdEIGHTYeTHOUSANDdFIFTY
eTHOUSANDdFIVEeHUNDREDeTHOUSANDdFORTYeTHOUSANDdFOUReHUNDREDeTHOUSANDdNINEeHUNDREDeTHOUSANDdNINETY
eTHOUSANDdONEeHUNDREDeTHOUSANDdSEVENeHUNDREDeTHOUSANDdSEVENTYeTHOUSANDdSIXeHUNDREDeTHOUSANDdSIXTY
eTHOUSANDdTENeTHOUSANDdTHIRTYeTHOUSANDdTHREEeHUNDREDeTHOUSANDdTWENTYeTHOUSANDdTWOeHUNDREDeTHOUSAND
aOUNCE SIGNaOUTBOX TRAYaOUTLINED BLACK STARbGREEK CROSSbLATIN CROSSbWHITE STARaOVERHEATED FACE
aOVERLAPaOVERLAPPING BLACK SQUARESbWHITE AND BLACK SQUAREScSQUARESaOVERLINEaOWLaOXaOYSTERaPACKAGE
aPADaPADDING CHARACTERaPAGEbFACING UPbWITH CIRCLED TEXTcCURLaPAGERaPAGESaPAGODA
aPAHAWH HMONG CLAN SIGN FAJeHAMeHAWJeKHABeKOOeKWMeLAUJeLISeMUASePHABeTHOJeTSABeTSHEEJeTSWBeVAJeVWJ
eXYOOJeYAJeYEEGcCONSONANT AUdCAUdCHAUdHAUdHLAUdHNAUdLAUdMAUdNAUdNCHAUdNKAUdNLAUdNTHAUdNTSAUdPLHAU
dQHAUdRAUdVAUdXAUdYAUcDIGIT EIGHTdFIVEdFOURdNINEdONEdSEVENdSIXdTHREEdTWOdZEROcMARK CIM HOMeKESeKHAV
eSOeSUAMeTAUMeTUBcNUMBER HUNDRED MILLIONSdHUNDREDSdMILLIONSdTEN BILLIONSeTHOUSANDSdTENSdTRILLIONS
cSIGN AVdCIM CHEEMeCUAM TSHOOJeHAIS LUS NTOG NTOGeNRES TOSePUB DAWBeTSOV ROGeTXWVfCHWVdHLIdHNUB
dIB YAMdLOSdMEEJ SUABeTSEEBdMUSdNQIGdNTUJdTAUdTHIRD-STAGE HLIdTXHEEJ CEEVdVOS FEEMeLUBeNRUAeSEEV
eTHIABeTHOMeTSHAB CEEBdXAUSdXIABdXYEEM FAIBeNTXIVeRHOeTOVdXYOOdZWJ THAJcVOWEL KAABdKAAVdKABdKAIB
dKAIVdKAUBdKAUVdKAVdKAWBdKAWVdKEBdKEEBdKEEVdKEVdKIABdKIAVdKIBdKIVdKOBdKOOBdKOOVdKOVdKUABdKUAVdKUB
dKUVdKWBdKWVaPALLASaPALM BRANCHbDOWN HANDbTREEbUP HANDaPALMS UP TOGETHER
aPALMYRENE LEFT-POINTING FLEURONbLETTER ALEPHcAYINcBETHcDALETHcFINAL NUNcGIMELcHEcHETHcKAPHcLAMEDH
cMEMcNUNcPEcQOPHcRESHcSADHEcSAMEKHcSHINcTAWcTETHcWAWcYODHcZAYINbNUMBER FIVEcFOURcONEcTENcTHREE
cTWENTYcTWObRIGHT-POINTING FLEURONaPANCAKESaPANDA FACEaPAPERCLIPaPARACHUTEaPARAGRAPH SEPARATOR
aPARAGRAPHOSaPARAGRAPHUS MARKaPARALLEL TObWITH HORIZONTAL STROKEcTILDE OPERATOR
aPARENTHESIZED DIGIT EIGHTcFIVEcFOURcNINEcONEcSEVENcSIXcTHREEcTWObHANGUL CHIEUCHdAcCIEUCdAdUcHIEUHdA
cIEUNGdAcKHIEUKHdAcKIYEOKdAcMIEUMdAcNIEUNdAcPHIEUPHdAcPIEUPdAcRIEULdAcSIOSdAcTHIEUTHdAcTIKEUTdA
bIDEOGRAPH ALLIANCEcCALLcCONGRATULATIONcEARTHcEIGHTcENTERPRISEcFESTIVALcFINANCIALcFIREcFIVEcFOUR
cHAVEcLABORcMETALcMOONcNAMEcNINEcONEcREACHcREPRESENTcRESOURCEcRESTcSELFcSEVENcSIXcSOCIETYcSPECIAL
cSTOCKcSTUDYcSUNcSUPERVISEcTENcTHREEcTWOcWATERcWOODbKOREAN CHARACTER O HUdOJEON
bLATIN CAPITAL LETTER AeBeCeDeEeFeGeHeIeJeKeLeMeNeOePeQeReSeTeUeVeWeXeYeZcSMALL LETTER AeBeCeDeEeFeG
eHeIeJeKeLeMeNeOePeQeReSeTeUeVeWeXeYeZbNUMBER EIGHTEENcELEVENcFIFTEENcFOURTEENcNINETEENcSEVENTEEN
cSIXTEENcTENcTHIRTEENcTWELVEcTWENTYaPARROTaPART ALTERNATION MARKaPARTIAL DIFFERENTIALbLINE BACKWARD
cDOWNcFORWARDcUPaPARTIALLY-RECYCLED PAPER SYMBOLaPARTNERSHIP SIGNaPARTY POPPERaPASSED SYMBOL
aPASSENGER SHIPaPASSIVE-PULL-DOWN-OUTPUT SYMBOLaPASSIVE-PULL-UP-OUTPUT SYMBOLaPASSPORT CONTROL
aPAU CIN HAU GLOTTAL STOPfFINALfVARIANTdLETTER AeBAeCAeCHAeDAeEeFAeFINAL KfLfMfNfNGfPfTfWfYeGAeHAeI
eIAeKAeKHAeLAeMAeNAeNGAeOePAePHAeRAeSAeTAeTHAeUeUAeVAeZAdLOW-FALLING TONEfFINALfLONGgFINAL
dMID-LEVEL TONEfFINALfLONG FINALdRISING TONEfFINALfLONGgFINALdSANDHI GLOTTAL STOPgFINALeTONEfFINAL
fLONGgFINALaPAW PRINTSaPDFaPDIaPEACE SYMBOLaPEACHaPEACOCKaPEANUTSaPEARaPEDESTRIAN
aPEN OVER STAMPED ENVELOPEaPENCILaPENGUINaPENSIVE FACEaPENTAGRAMaPEOPLE HUGGINGaPER MILLE SIGNbSIGN
bTEN THOUSAND SIGNaPERCENT SIGNaPERFORMING ARTSaPERMANENT PAPER SIGNaPERPENDICULARbWITH S
aPERSEVERING FACEaPERSON BOWING DEEPLYbCLIMBINGbDOING CARTWHEELbFROWNINGbIN LOTUS POSITION
cSTEAMY ROOMbRAISING BOTH HANDS IN CELEBRATIONbWITH BALLcBLOND HAIRcCROWNcFOLDED HANDScHEADSCARF
cPOUTING FACEaPERSONAL COMPUTERaPERSPECTIVEaPESETA SIGNaPESO SIGNaPETRI DISH
aPHAGS-PA DOUBLE HEAD MARKbLETTER AcALTERNATE YAcASPIRATED FAcBAcCAcCANDRABINDUcCHAcDAcDDAcDZAcEcEE
cFAcGAcGGAcHAcIcJAcKAcKHAcLAcMAcNAcNGAcNNAcNYAcOcPAcPHAcQAcRAcSAcSHAcSMALL AcTAcTHAcTSAcTSHAcTTA
cTTHAcUcVOICED HAcVOICELESS SHAcWAcXAcYAcZAcZHAbMARK DOUBLE SHADcSHADbSINGLE HEAD MARK
bSUBJOINED LETTER RAdWAdYAbSUPERFIXED LETTER RAaPHAISTOS DISC SIGN ARROWdBEEdBEEHIVEdBOOMERANGdBOW
dBULLS LEGdCAPTIVEdCARPENTRY PLANEdCATdCHILDdCLUBdCOLUMNdCOMBdCOMBINING OBLIQUE STROKEdDOLIUMdDOVE
dEAGLEdFLUTEdGAUNTLETdGRATERdHELMETdHIDEdHORNdLIDdLILYdMANACLESdMATTOCKdOX BACKdPAPYRUSdPEDESTRIAN
dPLANE TREEdPLUMED HEADdRAMdROSETTEdSAWdSHIELDdSHIPdSLINGdSMALL AXEdSTRAINERdTATTOOED HEADdTIARA
dTUNNYdVINEdWAVY BANDdWOMANaPHILIPPINE DOUBLE PUNCTUATIONbSINGLE PUNCTUATIONaPHOENICIAN LETTER AIN
cALFcBETcDELTcGAMLcHEcHETcKAFcLAMDcMEMcNUNcPEcQOFcROSHcSADEcSEMKcSHINcTAUcTETcWAUcYODcZAIbNUMBER ONE
dHUNDREDcTENcTHREEcTWENTYcTWObWORD SEPARATORaPHOLUSaPICKaPICKUP TRUCKaPIEaPIGbFACEbNOSEaPILCROW SIGN
aPILE OF POOaPILLaPINATAaPINCHED FINGERSaPINCHING HANDaPINE DECORATIONaPINEAPPLEaPINWHEEL STAR
aPISCESaPISTOLaPITCHFORKbWITH TEE TOPaPLACARDaPLACE OF INTEREST SIGNcWORSHIPaPLANCK CONSTANT
cOVER TWO PIaPLAYGROUND SLIDEaPLAYING CARD ACE OF CLUBSeDIAMONDSeHEARTSeSPADEScBACKcBLACK JOKER
cEIGHT OF CLUBSeDIAMONDSeHEARTSeSPADEScFIVE OF CLUBSeDIAMONDSeHEARTSeSPADEScFOOLcFOUR OF CLUBS
eDIAMONDSeHEARTSeSPADEScJACK OF CLUBSeDIAMONDSeHEARTSeSPADEScKING OF CLUBSeDIAMONDSeHEARTSeSPADES
cKNIGHT OF CLUBSeDIAMONDSeHEARTSeSPADEScNINE OF CLUBSeDIAMONDSeHEARTSeSPADEScQUEEN OF CLUBSeDIAMONDS
eHEARTSeSPADEScRED JOKERcSEVEN OF CLUBSeDIAMONDSeHEARTSeSPADEScSIX OF CLUBSeDIAMONDSeHEARTSeSPADES
cTEN OF CLUBSeDIAMONDSeHEARTSeSPADEScTHREE OF CLUBSeDIAMONDSeHEARTSeSPADEScTRUMP-1cTRUMP-10cTRUMP-11
cTRUMP-12cTRUMP-13cTRUMP-14cTRUMP-15cTRUMP-16cTRUMP-17cTRUMP-18cTRUMP-19cTRUMP-2cTRUMP-20cTRUMP-21
cTRUMP-3cTRUMP-4cTRUMP-5cTRUMP-6cTRUMP-7cTRUMP-8cTRUMP-9cTWO OF CLUBSeDIAMONDSeHEARTSeSPADES
cWHITE JOKERaPLDaPLUaPLUNGERaPLUS SIGNcABOVE EQUALS SIGNcIN LEFT HALF CIRCLEdRIGHT HALF CIRCLE
dTRIANGLEcWITH BLACK TRIANGLEdCIRCUMFLEX ACCENT ABOVEdDOT BELOWdSMALL CIRCLE ABOVEdSUBSCRIPT TWO
dTILDE ABOVEeBELOWaPLUS-MINUS SIGNaPLUTObFORM FIVEcFOURcTHREEcTWOaPMaPOCKET CALCULATORaPOLICE CAR
bCARS REVOLVING LIGHTbOFFICERaPOODLEaPOP DIRECTIONAL FORMATTINGcISOLATEaPOPCORNaPORTABLE STEREO
aPOSEIDONaPOSITION INDICATORaPOSTAL HORNbMARKcFACEaPOSTBOXaPOT OF FOODaPOTABLE WATER SYMBOLaPOTATO
aPOTTED PLANTaPOUCHaPOULTRY LEGaPOUND SIGNaPOURING LIQUIDaPOUTING CAT FACEbFACEaPOWER ON SYMBOL
bON-OFF SYMBOLbSLEEP SYMBOLbSYMBOLaPRAYER BEADSaPRECEDESbABOVE ALMOST EQUAL TOcEQUALS SIGN
cNOT ALMOST EQUAL TOdEQUAL TOcSINGLE-LINE EQUALS SIGNdNOT EQUAL TObBUT NOT EQUIVALENT TObOR EQUAL TO
cEQUIVALENT TObUNDER RELATIONaPREGNANT MANbPERSONbWOMANaPRESCRIPTION TAKE
aPRESENTATION FORM FOR VERTICAL COLONeCOMMAeEM DASHeEN DASHeEXCLAMATION MARKeHORIZONTAL ELLIPSIS
eIDEOGRAPHIC COMMAfFULL STOPeLEFT ANGLE BRACKETfBLACK LENTICULAR BRACKETfCORNER BRACKET
fCURLY BRACKETfDOUBLE ANGLE BRACKETfPARENTHESISfSQUARE BRACKETfTORTOISE SHELL BRACKET
fWHITE CORNER BRACKETgLENTICULAR BRACKETeLOW LINEeQUESTION MARKeRIGHT ANGLE BRACKET
fBLACK LENTICULAR BRACKETfCORNER BRACKETfCURLY BRACKETfDOUBLE ANGLE BRACKETfPARENTHESIS
fSQUARE BRACKETfTORTOISE SHELL BRACKETfWHITE CORNER BRACKETgLENTICULAR BRACKEThBRAKCETeSEMICOLON
eTWO DOT LEADEReWAVY LOW LINEaPRETZELaPREVIOUS PAGEaPRIMEaPRINCEaPRINCESSaPRINT SCREEN SYMBOL
aPRINTERbICONaPRIVACY MESSAGEaPRIVATE USE ONEcTWObUSE-1bUSE-2aPROBING CANEaPROHIBITED SIGN
aPROJECTIVEaPROPERTY LINEaPROPORTIONaPROPORTIONAL TOaPROSERPINAaPSALTER PAHLAVI FOUR DOTS WITH CROSS
fDOTcLETTER ALEPHdBETHdDALETHdGIMELdHEdHETHdKAPHdLAMEDHdMEM-QOPHdNUNdPEdSADHEdSAMEKHdSHINdTAW
dWAW-AYIN-RESHdYODHdZAYINcNUMBER FOURdONEeHUNDREDdTENdTHREEdTWENTYdTWOcSECTION MARK
cTURNED SECTION MARKaPU1aPU2aPUBLIC ADDRESS LOUDSPEAKERaPUNCTUATION SPACEaPUNCTUS ELEVATUS MARK
aPURPLE HEARTaPURSEaPUSHPINaPUT LITTER IN ITS PLACE SYMBOLaQUADRANT LOWER LEFTcRIGHTbUPPER LEFT
dAND LOWER LEFT AND LOWER RIGHTfRIGHTeUPPER RIGHT AND LOWER LEFTiRIGHTcRIGHTdAND LOWER LEFT
gAND LOWER RIGHTaQUADRUPLE INTEGRAL OPERATORbPRIMEaQUARTER NOTEaQUATERNION INTEGRAL OPERATOR
aQUESTION EXCLAMATION MARKbMARKaQUESTIONED EQUAL TOaQUINCUNXaQUOTATION MARKaRABBITbFACEaRACCOON
aRACING CARbMOTORCYCLEaRADICAL SYMBOL BOTTOMaRADIObBUTTONaRADIOACTIVE SIGNaRAILWAY CARbTRACKaRAIN
aRAINBOWaRAISED BACK OF HANDbCOMMAbDOTbDOTTED INTERPOLATION MARKERbFISTbHANDcWITH FINGERS SPLAYED
dPART BETWEEN MIDDLE AND RING FINGERSbINTERPOLATION MARKERbMC SIGNbMD SIGNbMR SIGNbSQUAREaRAMaRAT
aRATIOaRAZORaRECEIPTaRECORD SEPARATORaRECREATIONAL VEHICLEaRECYCLED PAPER SYMBOL
aRECYCLING SYMBOL FOR GENERIC MATERIALSdTYPE-1 PLASTICSdTYPE-2 PLASTICSdTYPE-3 PLASTICS
dTYPE-4 PLASTICSdTYPE-5 PLASTICSdTYPE-6 PLASTICSdTYPE-7 PLASTICSaRED APPLEbGIFT ENVELOPE
aREFERENCE MARKaREGIONAL INDICATOR SYMBOL LETTER AeBeCeDeEeFeGeHeIeJeKeLeMeNeOePeQeReSeTeUeVeWeXeYeZ
aREGISTERED SIGNaREJANG CONSONANT SIGN HdNdNGdRbLETTER AcBAcCAcDAcGAcHAcJAcKAcLAcMAcMBAcNAcNDAcNGA
cNGGAcNYAcNYJAcPAcRAcSAcTAcWAcYAbSECTION MARKbVIRAMAbVOWEL SIGN AIdAUdEdEAdEUdIdOdUaRELIEVED FACE
aREMINDER RIBBONaREPLACEMENT CHARACTERaRESPONSEaRESTRICTED LEFT ENTRY-1cENTRY-2aRESTROOMaRETURN LEFT
bRIGHTbSYMBOLaREVERSE CHECKER BOARDbINDEXbLIGHT FOUR POINTED PINWHEEL STARbLINE FEEDbSOLIDUS
cOPERATORcPRECEDING SUBSETcWITH HORIZONTAL STROKEbTILDE OPERATOR ABOVE LEFTWARDS ARROW
eRIGHTWARDS ARROWaREVERSED ANGLEcWITH UNDERBARbCOMMAbDOUBLE PRIMEdQUOTATION MARKcSTROKE NOT SIGN
bEMPTY SETbFORKED PARAGRAPHOSbHAND WITH MIDDLE FINGER EXTENDEDbNOT SIGNbPILCROW SIGNbPRIME
bQUESTION MARKbRAISED HAND WITH FINGERS SPLAYEDbRIGHT ANGLEbROTATED FLORAL HEART BULLET
bSANS-SERIF CAPITAL LbSEMICOLONbTHUMBS DOWN SIGNcUP SIGNbTILDEcEQUALSbTRIPLE PRIMEbVICTORY HAND
aREVOLVING HEARTSaRHINOCEROSaRIaRIAL SIGNaRIBBONbARROW DOWN LEFTdRIGHTcLEFT DOWNdUPcRIGHT DOWNdUP
cUP LEFTdRIGHTaRICE BALLbCRACKERaRIFLEaRIGHT AND LOWER ONE EIGHTH BLOCKcUPPER ONE EIGHTH BLOCK
bANGER BUBBLEbANGLEcBRACKETdWITH DOTcDOTTED SUBSTITUTION MARKERcSUBSTITUTION MARKER
cVARIANT WITH SQUAREcWITH ARCdDOWNWARDS ZIGZAG ARROWbARC GREATER-THAN BRACKET
bARROW WITH CIRCLED PLUSdSMALL CIRCLEbBLACK LENTICULAR BRACKETcTORTOISE SHELL BRACKETbCEILING
bCORNER BRACKETbCURLY BRACKETdLOWER HOOKdMIDDLE PIECEdUPPER HOOKbDOTTED SUBSTITUTION BRACKET
bDOUBLE ANGLE BRACKETcARROW WITH ROUNDED HEADcPARENTHESIScQUOTATION MARKcWIGGLY FENCEbFISH TAIL
bFIVE EIGHTHS BLOCKbFLOORbHALF BLACK CIRCLEdSTARcBLOCKcFOLDERcMEDIUM SHADEcRUNNING MAN
bHAND TELEPHONE RECEIVERbLOW PARAPHRASE BRACKETbNORMAL FACTOR SEMIDIRECT PRODUCTbONE EIGHTH BLOCK
cQUARTER BLOCKbOPEN SQUARED DOTbOUTER JOINbPARENTHESIScEXTENSIONcLOWER HOOKcUPPER HOOK
bRAISED OMISSION BRACKETbS-SHAPED BAG DELIMITERbSEMIDIRECT PRODUCTbSEVEN EIGHTHS BLOCK
bSIDEWAYS U BRACKETbSINGLE QUOTATION MARKbSPEAKERcWITH ONE SOUND WAVEdTHREE SOUND WAVES
bSPEECH BUBBLEbSQUARE BRACKETdEXTENSIONdLOWER CORNERdUPPER CORNERdWITH DOUBLE STROKEeQUILLeSTROKE
eTICK IN BOTTOM CORNERgTOP CORNEReUNDERBARbSUBSTITUTION BRACKETbTACK
bTHIRD WHITE RIGHT POINTING INDEXbTHOUGHT BUBBLEbTHREE EIGHTHS BLOCKcQUARTERS BLOCK
bTORTOISE SHELL BRACKETbTRANSPOSITION BRACKETbTRIANGLEcABOVE LEFT TRIANGLE
bTRIANGULAR ONE QUARTER BLOCKbVERTICAL BAR WITH QUILLcBOX LINEbWHITE CORNER BRACKETcCURLY BRACKET
cLENTICULAR BRACKETcPARENTHESIScSQUARE BRACKETcTORTOISE SHELL BRACKETbWIGGLY FENCE
aRIGHT-FACING ARMENIAN ETERNITY SIGNbFISTbSVASTI SIGNdWITH DOTSaRIGHT-HANDED INTERLACED PENTAGRAM
aRIGHT-POINTING ANGLE BRACKETbCURVED ANGLE BRACKETbDOUBLE ANGLE QUOTATION MARKbMAGNIFYING GLASS
aRIGHT-SHADED WHITE RIGHTWARDS ARROWaRIGHT-SIDE ARC CLOCKWISE ARROWaRIGHT-TO-LEFT EMBEDDINGbISOLATE
bMARKbOVERRIDEaRIGHTHAND INTERIOR PRODUCTaRIGHTWARDS ARROWcABOVE ALMOST EQUAL TO
dREVERSE ALMOST EQUAL TOeTILDE OPERATORdSHORT LEFTWARDS ARROWdTILDE OPERATOR
cAND UPPER AND LOWER ONE EIGHTH BLOCKcFROM BAReTO BLACK DIAMONDcOVER LEFTWARDS ARROW
cTHROUGH GREATER-THANdSUPERSETdXcTO BARdBLACK DIAMONDcWITH CORNER DOWNWARDSdDOTTED STEM
dDOUBLE VERTICAL STROKEdEQUILATERAL ARROWHEADdHOOKdLARGE TRIANGLE ARROWHEADdLOOP
dMEDIUM TRIANGLE ARROWHEADdNOTCHED TAILdPLUS BELOWdSMALL EQUILATERAL ARROWHEADeTRIANGLE ARROWHEAD
dSTROKEdTAILeWITH DOUBLE VERTICAL STROKEfVERTICAL STROKEdTIP DOWNWARDSeUPWARDSdVERTICAL STROKE
bARROW-TAILbBACK-TILTED SHADOWED WHITE ARROWbBLACK ARROWcCIRCLED WHITE ARROW
bBOTTOM SHADED WHITE ARROWbCOMPRESSED ARROWbDASHED ARROWbDOUBLE ARROWdFROM BARdWITH STROKE
eVERTICAL STROKEcARROW-TAILcDASH ARROWbFINGER-POST ARROWbFRONT-TILTED SHADOWED WHITE ARROWbHAND
bHARPOON OVER LEFTWARDS HARPOONcWITH BARB DOWN ABOVE LEFTWARDS HARPOON WITH BARB DOWN
fBELOW LONG DASHfFROM BARfTO BAReDOWNWARDSeUP ABOVE LEFTWARDS HARPOON WITH BARB UPgLONG DASH
gRIGHTWARDS HARPOON WITH BARB DOWNfFROM BARfTO BAReUPWARDSbHEAVY ARROWcCOMPRESSED ARROW
bLEFT-SHADED WHITE ARROWbOPEN-HEADED ARROWbPAIRED ARROWSbQUADRUPLE ARROWbRIGHT-SHADED WHITE ARROW
bROCKETbSANS-SERIF ARROWbSQUARED ARROWbSQUIGGLE ARROWbTOP SHADED WHITE ARROWbTRIANGLE ARROWHEAD
bTRIANGLE-HEADED ARROWdOVER LEFTWARDS TRIANGLE-HEADED ARROWdTO BARdWITH BOLD SHAFT
eDOUBLE HORIZONTAL STROKEfVERTICAL STROKEeHEAVY SHAFTeLONG TIP DOWNWARDSgUPWARDSeMEDIUM SHAFT
eNARROW SHAFTeVERY HEAVY SHAFTcDASHED ARROWcPAIRED ARROWSbTRIPLE ARROWcDASH ARROWbTWO HEADED ARROW
bTWO-HEADED ARROW FROM BARdWITH DOUBLE VERTICAL STROKEeTAILfWITH DOUBLE VERTICAL STROKE
gVERTICAL STROKEeTRIANGLE ARROWHEADSeVERTICAL STROKEcTRIPLE DASH ARROWbWAVE ARROWbWHITE ARROW
dFROM WALLdWITHIN TRIANGLE ARROWHEADaRINGbABOVEbBUOYbEQUAL TObIN EQUAL TObOPERATORbPOINT
aRINGED PLANETaRINGING BELLaRISING DIAGONAL CROSSING FALLING DIAGONALdSOUTH EAST ARROWaRLEaRLIaRLM
aRLOaROASTED SWEET POTATOaROBOT FACEaROCKaROCKETaROLL OF PAPERaROLLED-UP NEWSPAPERaROLLER COASTER
bSKATEaROLLING ON THE FLOOR LAUGHINGaROMAN AS SIGNbCENTURIAL SIGNbDENARIUS SIGNbDIMIDIA SEXTULA SIGN
bDUPONDIUS SIGNbNUMERAL EIGHTcELEVENcFIFTYdEARLY FORMdTHOUSANDcFIVEdHUNDREDdTHOUSANDcFOURcNINEcONE
dHUNDREDeTHOUSANDdTHOUSANDeC DcREVERSED ONE HUNDREDcSEVENcSIXdLATE FORMcTENdTHOUSANDcTHREEcTWELVE
cTWObQUINARIUS SIGNbSEMUNCIA SIGNbSESTERTIUS SIGNbSEXTANS SIGNbSEXTULA SIGNbSILIQUA SIGNbUNCIA SIGN
aROOSTERaROSEaROSETTEaROTATED CAPITAL QbFLORAL HEART BULLETbHEAVY BLACK HEART BULLET
bLIGHT FOUR POINTED BLACK CUSPbWHITE FOUR POINTED CUSPaROUND PUSHPINbTARGETaROUNDED SYMBOL FOR CAI
dFUdLUdSHOUdSHUANGXIdXIaROWBOATaRSaRUBLE SIGNaRUGBY FOOTBALLaRULE-DELAYEDaRUMI DIGIT EIGHTcFIVEcFOUR
cNINEcONEcSEVENcSIXcTHREEcTWObFRACTION ONE HALFdQUARTERdTHIRDcTWO THIRDSbNUMBER EIGHT HUNDREDcEIGHTY
cFIFTYcFIVE HUNDREDcFORTYcFOUR HUNDREDcNINE HUNDREDcNINETYcONE HUNDREDcSEVEN HUNDREDcSEVENTY
cSIX HUNDREDcSIXTYcTENcTHIRTYcTHREE HUNDREDcTWENTYcTWO HUNDREDaRUNIC ARLAUG SYMBOLbBELGTHOR SYMBOL
bCROSS PUNCTUATIONbLETTER AC AcAESCcALGIZ EOLHXcANSUZ AcBERKANAN BEORC BJARKAN BcCcCALCcCEALCcCEN
cCWEORTHcDcDAGAZ DAEG DcDOTTED-LcDOTTED-NcDOTTED-PcEcEARcEHWAZ EH EcENGcETHcFEHU FEOH FE F
cFRANKS CASKET ACeAESCeEHeISeOScGcGARcGEBO GYFU GcGERcHAEGL HcHAGLAZ HcICELANDIC-YRcINGcINGWAZcIOR
cISAZ IS ISS IcIWAZ EOHcJERAN JcKcKAUN KcKAUNAcLAUKAZ LAGU LOGR LcLONG-BRANCH-AR AE
cLONG-BRANCH-HAGALL HcLONG-BRANCH-MADR McLONG-BRANCH-OSS OcLONG-BRANCH-YRcMANNAZ MAN M
cNAUDIZ NYD NAUD NcOcOEcONcOOcOPEN-PcOS OcOTHALAN ETHEL OcPERTHO PEORTH PcQcRAIDO RAD REID RcSH
cSHORT-TWIG-AR AcSHORT-TWIG-BJARKAN BcSHORT-TWIG-HAGALL HcSHORT-TWIG-MADR McSHORT-TWIG-NAUD N
cSHORT-TWIG-OSS OcSHORT-TWIG-SOL ScSHORT-TWIG-TYR TcSHORT-TWIG-YRcSIGEL LONG-BRANCH-SOL ScSOWILO S
cSTANcTHURISAZ THURS THORNcTIWAZ TIR TYR TcURUZ UR UcVcWcWUNJO WYNN WcXcYcYRcZbMULTIPLE PUNCTUATION
bSINGLE PUNCTUATIONbTVIMADUR SYMBOLaRUNNERaRUNNING SHIRT WITH SASHaRUPEE SIGN
aRUSSIAN ASTROLOGICAL SYMBOL BINOVILEdNOVILEdQUINTILEdSENTAGONdTREDECILEdVIGINTILE
"

end RepoAudit.Text.CharName
