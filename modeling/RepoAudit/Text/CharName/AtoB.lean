/-! # Names of characters from A to B

The names that start with these letters, in the order of their words.  A small letter starts each
name and tells how many words it shares with the name before it: none for `a`, one for `b`.
-/

namespace RepoAudit.Text.CharName

def fromAtoB : String := "
aABACUSaAC CURRENTaACCORDIONaACCOUNT OFaACKaACKNOWLEDGEaACTIVATE ARABIC FORM SHAPING
bSYMMETRIC SWAPPINGaACUTE ACCENTbANGLEaADDRESSED TO THE SUBJECTaADHESIVE BANDAGEaADI SHAKTI
aADLAM ALIF LENGTHENERbCAPITAL LETTER ALIFdBAdBHEdCHIdDAALIdDHAdEdFAdGAdGBEdHAdIdJIIMdKAFdKHAdKPO
dLAAMdMIIMdNHAdNUNdNYAdOdPEdQAAFdRAdSHAdSINNYIIYHEdTUdUdVAdWAWdYAdYHEdZALbCONSONANT MODIFIER
bDIGIT EIGHTcFIVEcFOURcNINEcONEcSEVENcSIXcTHREEcTWOcZERObGEMINATE CONSONANT MODIFIERbGEMINATION MARK
bHAMZAbINITIAL EXCLAMATION MARKcQUESTION MARKbNASALIZATION MARKbNUKTAbSMALL LETTER ALIFdBAdBHEdCHI
dDAALIdDHAdEdFAdGAdGBEdHAdIdJIIMdKAFdKHAdKPOdLAAMdMIIMdNHAdNUNdNYAdOdPEdQAAFdRAdSHAdSINNYIIYHEdTUdU
dVAdWAWdYAdYHEdZALbVOWEL LENGTHENERaADMETOSaADMISSION TICKETSaADULTaAEGEAN CHECK MARK
bDRY MEASURE FIRST SUBUNITbLIQUID MEASURE FIRST SUBUNITbMEASURE SECOND SUBUNITcTHIRD SUBUNIT
bNUMBER EIGHTdHUNDREDdTHOUSANDcEIGHTYdTHOUSANDcFIFTYdTHOUSANDcFIVEdHUNDREDdTHOUSANDcFORTYdTHOUSAND
cFOURdHUNDREDdTHOUSANDcNINEdHUNDREDdTHOUSANDcNINETYdTHOUSANDcONEdHUNDREDdTHOUSANDcSEVENdHUNDRED
dTHOUSANDcSEVENTYdTHOUSANDcSIXdHUNDREDdTHOUSANDcSIXTYdTHOUSANDcTENdTHOUSANDcTHIRTYdTHOUSANDcTHREE
dHUNDREDdTHOUSANDcTWENTYdTHOUSANDcTWOdHUNDREDdTHOUSANDbWEIGHT BASE UNITcFIRST SUBUNITcFOURTH SUBUNIT
cSECOND SUBUNITcTHIRD SUBUNITbWORD SEPARATOR DOTdLINEaAERIAL TRAMWAYaAFGHANI SIGN
aAHOM CONSONANT SIGN MEDIAL LAeLIGATING RAeRAbDIGIT EIGHTcFIVEcFOURcNINEcONEcSEVENcSIXcTHREEcTWO
cZERObLETTER AcALTERNATE BAdGAdTAcBAcBHAcCAcCHAcDAcDDAcDDHAcDHAcGAcGHAcHAcJAcJHAcKAcKHAcLAcLLAcMAcNA
cNGAcNNAcNYAcPAcPHAcRAcSAcTAcTHAcTTAcTTHAbNUMBER TENcTWENTYbSIGN KILLERcRULAIcSECTIONcSMALL SECTION
bSYMBOL VIbVOWEL SIGN AdAAdAIdAMdAWdEdIdIIdOdUdUUaAIRPLANEbARRIVINGbDEPARTUREaAKTIESELSKAB
aALARM CLOCKaALCHEMICAL SYMBOL FOR AIRdALEMBICdALKALIdALKALI-2dALUMdAMALGAMdANTIMONY OREdAQUA REGIA
eREGIA-2eVITAEeVITAE-2dAQUAFORTISdARSENICdASHESdAURIPIGMENTdBATH OF MARYfVAPOURSdBISMUTH ORE
dBLACK SULFURdBORAXdBORAX-2dBORAX-3dBRICKdCADUCEUSdCALXdCAPUT MORTUUMdCINNABARdCOPPER ANTIMONIATE
eOREdCROCUS OF COPPERfCOPPER-2fIRONdCRUCIBLEdCRUCIBLE-2dCRUCIBLE-3dCRUCIBLE-4dCRUCIBLE-5dDAY-NIGHT
dDISSOLVEdDISSOLVE-2dDISTILLdEARTHdFIREdGOLDdGUMdHALF DRAMeOUNCEdHORSE DUNGdHOURdIRON OREeORE-2
dIRON-COPPER OREdLEAD OREdLODESTONEdMARCASITEdMERCURY SUBLIMATEeSUBLIMATE-2eSUBLIMATE-3dMONTHdNIGHT
dNITREdOILdPHILOSOPHERS SULFURdPOT ASHESdPOWDERdPOWDERED BRICKdPRECIPITATEdPURIFYdPUTREFACTION
dQUICK LIMEdQUINTESSENCEdREALGARdREALGAR-2dREGULUSeOF ANTIMONYfANTIMONY-2fIRONdREGULUS-2dREGULUS-3
dREGULUS-4dRETORTdROCK SALTeSALT-2dSAL-AMMONIACdSALTeOF ANTIMONYfCOPPER ANTIMONIATEdSCEPTER OF JOVE
dSILVERdSOAPdSPIRITdSTARRED TRIDENTdSTRATUM SUPER STRATUMfSTRATUM-2dSUBLIMATE OF ANTIMONYfCOPPER
fSALT OF ANTIMONYhCOPPERdSUBLIMATIONdSULFURdTARTARdTARTAR-2dTIN OREdTINCTUREdTRIDENTdTUTTYdURINE
dVERDIGRISdVINEGAReOF ANTIMONYdVINEGAR-2dVINEGAR-3dVITRIOLdVITRIOL-2dWATERdWAXaALEF SYMBOLaALEMBIC
aALERTaALIEN MONSTERaALL AROUND-PROFILEbEQUAL TOaALMaALMOST EQUAL OR EQUAL TOcTO
dWITH CIRCUMFLEX ACCENTaALTERNATE ONE-WAY LEFT WAY TRAFFICaALTERNATIVE KEY SYMBOL
aAMALGAMATION OR COPRODUCTaAMBULANCEaAMERICAN FOOTBALLaAMPERSANDaAMPHORAaANATOLIAN HIEROGLYPH A001
cA002cA003cA004cA005cA006cA007cA008cA009cA010cA010AcA011cA012cA013cA014cA015cA016cA017cA018cA019
cA020cA021cA022cA023cA024cA025cA026cA026AcA027cA028cA029cA030cA031cA032cA033cA034cA035cA036cA037
cA038cA039cA039AcA040cA041cA041AcA042cA043cA044cA045cA045AcA046cA046AcA046BcA047cA048cA049cA050cA051
cA052cA053cA054cA055cA056cA057cA058cA059cA060cA061cA062cA063cA064cA065cA066cA066AcA066BcA066CcA067
cA068cA069cA070cA071cA072cA073cA074cA075cA076cA077cA078cA079cA080cA081cA082cA083cA084cA085cA086cA087
cA088cA089cA090cA091cA092cA093cA094cA095cA096cA097cA097AcA098cA098AcA099cA100cA100AcA101cA101AcA102
cA102AcA103cA104cA104AcA104BcA104CcA105cA105AcA105BcA106cA107cA107AcA107BcA107CcA108cA109cA110cA110A
cA110BcA111cA112cA113cA114cA115cA115AcA116cA117cA118cA119cA120cA121cA122cA123cA124cA125cA125AcA126
cA127cA128cA129cA130cA131cA132cA133cA134cA135cA135AcA136cA137cA138cA139cA140cA141cA142cA143cA144
cA145cA146cA147cA148cA149cA150cA151cA152cA153cA154cA155cA156cA157cA158cA159cA160cA161cA162cA163cA164
cA165cA166cA167cA168cA169cA170cA171cA172cA173cA174cA175cA176cA177cA178cA179cA180cA181cA182cA183cA184
cA185cA186cA187cA188cA189cA190cA191cA192cA193cA194cA195cA196cA197cA198cA199cA200cA201cA202cA202A
cA202BcA203cA204cA205cA206cA207cA207AcA208cA209cA209AcA210cA211cA212cA213cA214cA215cA215AcA216cA216A
cA217cA218cA219cA220cA221cA222cA223cA224cA225cA226cA227cA227AcA228cA229cA230cA231cA232cA233cA234
cA235cA236cA237cA238cA239cA240cA241cA242cA243cA244cA245cA246cA247cA248cA249cA250cA251cA252cA253cA254
cA255cA256cA257cA258cA259cA260cA261cA262cA263cA264cA265cA266cA267cA267AcA268cA269cA270cA271cA272
cA273cA274cA275cA276cA277cA278cA279cA280cA281cA282cA283cA284cA285cA286cA287cA288cA289cA289AcA290
cA291cA292cA293cA294cA294AcA295cA296cA297cA298cA299cA299AcA300cA301cA302cA303cA304cA305cA306cA307
cA308cA309cA309AcA310cA311cA312cA313cA314cA315cA316cA317cA318cA319cA320cA321cA322cA323cA324cA325
cA326cA327cA328cA329cA329AcA330cA331cA332AcA332BcA332CcA333cA334cA335cA336cA336AcA336BcA336CcA337
cA338cA339cA340cA341cA342cA343cA344cA345cA346cA347cA348cA349cA350cA351cA352cA353cA354cA355cA356cA357
cA358cA359cA359AcA360cA361cA362cA363cA364cA364AcA365cA366cA367cA368cA368AcA369cA370cA371cA371AcA372
cA373cA374cA375cA376cA377cA378cA379cA380cA381cA381AcA382cA383 RA OR RIcA383AcA384cA385cA386cA386A
cA387cA388cA389cA390cA391cA392cA393 EIGHTcA394cA395cA396cA397cA398cA399cA400cA401cA402cA403cA404
cA405cA406cA407cA408cA409cA410 BEGIN LOGOGRAM MARKcA410A END LOGOGRAM MARKcA411cA412cA413cA414cA415
cA416cA417cA418cA419cA420cA421cA422cA423cA424cA425cA426cA427cA428cA429cA430cA431cA432cA433cA434cA435
cA436cA437cA438cA439cA440cA441cA442cA443cA444cA445cA446cA447cA448cA449cA450cA450AcA451cA452cA453
cA454cA455cA456cA457cA457AcA458cA459cA460cA461cA462cA463cA464cA465cA466cA467cA468cA469cA470cA471
cA472cA473cA474cA475cA476cA477cA478cA479cA480cA481cA482cA483cA484cA485cA486cA487cA488cA489cA490cA491
cA492cA493cA494cA495cA496cA497cA501cA502cA503cA504cA505cA506cA507cA508cA509cA510cA511cA512cA513cA514
cA515cA516cA517cA518cA519cA520cA521cA522cA523cA524cA525cA526cA527cA528cA529cA530aANATOMICAL HEART
aANCHORaAND WITH DOTaANGER SYMBOLaANGLEbWITH S INSIDEcUNDERBARaANGRY FACEaANGSTROM SIGN
aANGUISHED FACEaANKHaANTaANTENNA WITH BARSaANTICLOCKWISE CLOSED CIRCLE ARROWbCONTOUR INTEGRAL
bDOWNWARDS AND UPWARDS OPEN CIRCLE ARROWSbGAPPED CIRCLE ARROWbINTEGRATIONbOPEN CIRCLE ARROW
bTOP SEMICIRCLE ARROWbTRIANGLE-HEADED BOTTOM U-SHAPED ARROWcLEFT U-SHAPED ARROWcOPEN CIRCLE ARROW
cRIGHT U-SHAPED ARROWcTOP U-SHAPED ARROWaAPCaAPL FUNCTIONAL SYMBOL ALPHAeUNDERBARdBACKSLASH BAR
dCIRCLE BACKSLASHeDIAERESISeJOTeSTAReSTILEeUNDERBARdCOMMA BARdDEL DIAERESISeSTILEeTILDEdDELTA STILE
eUNDERBARdDIAMOND UNDERBARdDOWN CARET TILDEeSHOE STILEeTACK JOTfUNDERBARdDOWNWARDS VANE
dEPSILON UNDERBARdGREATER-THAN DIAERESISdI-BEAMdIOTAeUNDERBARdJOT DIAERESISeUNDERBARdLEFT SHOE STILE
dLEFTWARDS VANEdOMEGAeUNDERBARdQUADeBACKSLASHeCIRCLEeCOLONeDELeDELTAeDIAMONDeDIVIDEeDOWN CARET
eDOWNWARDS ARROWeEQUALeGREATER-THANeJOTeLEFTWARDS ARROWeLESS-THANeNOT EQUALeQUESTION
eRIGHTWARDS ARROWeSLASHeUP CARETeUPWARDS ARROWdQUOTE QUADeUNDERBARdRHOdRIGHTWARDS VANE
dSEMICOLON UNDERBARdSLASH BARdSQUISH QUADdSTAR DIAERESISdSTILE TILDEdTILDE DIAERESISdUP CARET TILDE
eSHOE JOTeTACK DIAERESISfJOTfOVERBARdUPWARDS VANEdZILDEaAPOLLONaAPOSTROPHE
aAPPLICATION PROGRAM COMMANDaAPPROACHES THE LIMITaAPPROXIMATELY BUT NOT ACTUALLY EQUAL TO
bEQUAL OR EQUAL TOcTOdOR THE IMAGE OFaAQUARIUSaARABIC BASELINE ROUND DOTbCOMMAbCURLY DAMMAcDAMMATAN
cFATHAcFATHATANcKASRAcKASRATANbDAMMAcISOLATED FORMcMEDIAL FORMcWITH DOTbDAMMATANcISOLATED FORM
bDATE SEPARATORbDECIMAL SEPARATORbDISPUTED END OF AYAHbDOUBLE RIGHT ARROWHEAD ABOVEfWITH DOT
bDOUBLED MADDAbEMPTY CENTRE HIGH STOPdLOW STOPbEND OF AYAHdTEXT MARKbFATHAcISOLATED FORMcMEDIAL FORM
cWITH DOT ABOVEdRINGdTWO DOTSbFATHATANcISOLATED FORMbFIVE POINTED STARbFOOTNOTE MARKERbFULL STOP
bHALF MADDA OVER MADDAbHAMZA ABOVEcBELOWbINVERTED DAMMAbKASRAcISOLATED FORMcMEDIAL FORM
cWITH DOT BELOWbKASRATANcISOLATED FORMbLARGE CIRCLE BELOWcROUND DOT ABOVEeBELOWeINSIDE CIRCLE BELOW
bLEFT ARROWHEAD ABOVEdBELOWbLETTER AEcAFRICAN FEHdNOONdQAFeWITH THREE DOTS ABOVEcAINdFINAL FORM
dINITIAL FORMdISOLATED FORMdMEDIAL FORMdWITH THREE DOTS ABOVEgBELOWgPOINTING DOWNWARDS ABOVE
eTWO DOTS ABOVEgVERTICALLY ABOVEcALEFdFINAL FORMdISOLATED FORMdMAKSURAeFINAL FORMeISOLATED FORM
dWASLAeFINAL FORMeISOLATED FORMdWITH ATTACHED BOTTOM RIGHT KASRAiAND DOT ABOVEjLEFT RINGfFATHAfKASRA
fLEFT HAMZAgROUND DOTfRIGHT HAMZAgROUND DOTfROUND DOT ABOVEhBELOWfTOP RIGHT FATHAiAND DOT ABOVE
jLEFT RINGeDOT ABOVEeEXTENDED ARABIC-INDIC DIGIT THREE ABOVEhTWO ABOVEeHAMZA ABOVEgFINAL FORM
gISOLATED FORMfBELOWgFINAL FORMgISOLATED FORMeLEFT MIDDLE STROKEeMADDA ABOVEgFINAL FORM
gISOLATED FORMeRIGHT MIDDLE STROKEhAND DOT ABOVEiLEFT RINGeWAVY HAMZA ABOVEgBELOWcBEEHdFINAL FORM
dINITIAL FORMdISOLATED FORMdMEDIAL FORMcBEHdFINAL FORMdINITIAL FORMdISOLATED FORMdMEDIAL FORM
dWITH DOT BELOW AND THREE DOTS ABOVEeHAMZA ABOVEeINVERTED SMALL V BELOWeSMALL MEEM ABOVEfVgBELOW
eTHREE DOTS HORIZONTALLY BELOWgPOINTING UPWARDS BELOWjAND TWO DOTS ABOVE
eTWO DOTS BELOW AND DOT ABOVEcBEHEHdFINAL FORMdINITIAL FORMdISOLATED FORMdMEDIAL FORMcDADdFINAL FORM
dINITIAL FORMdISOLATED FORMdMEDIAL FORMdWITH DOT BELOWcDAHALdFINAL FORMdISOLATED FORMcDALdFINAL FORM
dISOLATED FORMdWITH DOT BELOWgAND SMALL TAHeFOUR DOTS ABOVEeINVERTED SMALL V BELOWfVeRING
eTHREE DOTS ABOVE DOWNWARDSgBELOWeTWO DOTS VERTICALLY BELOW AND SMALL TAHcDDAHALdFINAL FORM
dISOLATED FORMcDDALdFINAL FORMdISOLATED FORMcDOTLESS BEHdFEHdQAFcDULdFINAL FORMdISOLATED FORMcDYEH
dFINAL FORMdINITIAL FORMdISOLATED FORMdMEDIAL FORMcEdFINAL FORMdINITIAL FORMdISOLATED FORM
dMEDIAL FORMcFARSI YEHeFINAL FORMeINITIAL FORMeISOLATED FORMeMEDIAL FORM
eWITH EXTENDED ARABIC-INDIC DIGIT FOUR BELOWiTHREE ABOVEiTWO ABOVEfINVERTED VfTHREE DOTS ABOVE
fTWO DOTS ABOVEcFEHdFINAL FORMdINITIAL FORMdISOLATED FORMdMEDIAL FORMdWITH DOT BELOW
gAND THREE DOTS ABOVEfMOVED BELOWeTHREE DOTS BELOWgPOINTING UPWARDS BELOWeTWO DOTS BELOWcGAF
dFINAL FORMdINITIAL FORMdISOLATED FORMdMEDIAL FORMdWITH INVERTED STROKEeRINGeTHREE DOTS ABOVE
eTWO DOTS BELOWcGHAINdFINAL FORMdINITIAL FORMdISOLATED FORMdMEDIAL FORMdWITH DOT BELOW
eTHREE DOTS ABOVEcGRAFcGUEHdFINAL FORMdINITIAL FORMdISOLATED FORMdMEDIAL FORMcHAHdFINAL FORM
dINITIAL FORMdISOLATED FORMdMEDIAL FORMdWITH EXTENDED ARABIC-INDIC DIGIT FOUR BELOWeHAMZA ABOVE
eINVERTED SMALL V BELOWeSMALL ARABIC LETTER TAH ABOVEiAND TWO DOTSiBELOWeTHREE DOTS ABOVE
gPOINTING UPWARDS BELOWeTWO DOTS ABOVEgVERTICAL ABOVEcHAMZAdISOLATED FORMcHEHdDOACHASHMEEeFINAL FORM
eINITIAL FORMeISOLATED FORMeMEDIAL FORMdFINAL FORMdGOALeFINAL FORMeINITIAL FORMeISOLATED FORM
eMEDIAL FORMeWITH HAMZA ABOVEdINITIAL FORMdISOLATED FORMdMEDIAL FORMdWITH INVERTED VeYEH ABOVE
gFINAL FORMgISOLATED FORMcHIGH HAMZAeALEFeWAWeYEHcJEEMdFINAL FORMdINITIAL FORMdISOLATED FORM
dMEDIAL FORMdWITH THREE DOTS ABOVEgBELOWeTWO DOTS ABOVEcJEHdFINAL FORMdISOLATED FORMcKAFdFINAL FORM
dINITIAL FORMdISOLATED FORMdMEDIAL FORMdWITH DOT ABOVEfBELOWeRINGeTHREE DOTS BELOWeTWO DOTS ABOVE
cKASHMIRI YEHcKEHEHdFINAL FORMdINITIAL FORMdISOLATED FORMdMEDIAL FORMdWITH DOT ABOVEeSMALL V
eTHREE DOTS ABOVEgBELOWgPOINTING UPWARDS BELOWeTWO DOTS ABOVEgVERTICALLY BELOWcKHAHdFINAL FORM
dINITIAL FORMdISOLATED FORMdMEDIAL FORMcKIRGHIZ OEeFINAL FORMeISOLATED FORMdYUeFINAL FORM
eISOLATED FORMcLAMdFINAL FORMdINITIAL FORMdISOLATED FORMdMEDIAL FORMdWITH BAReDOT ABOVEeDOUBLE BAR
eSMALL ARABIC LETTER TAH ABOVEfVeTHREE DOTS ABOVEgBELOWcLOW ALEFcMARKcMEEMdFINAL FORMdINITIAL FORM
dISOLATED FORMdMEDIAL FORMdWITH DOT ABOVEfBELOWeTHREE DOTS ABOVEcNGdFINAL FORMdINITIAL FORM
dISOLATED FORMdMEDIAL FORMcNGOEHdFINAL FORMdINITIAL FORMdISOLATED FORMdMEDIAL FORMcNOONdFINAL FORM
dGHUNNAeFINAL FORMeISOLATED FORMdINITIAL FORMdISOLATED FORMdMEDIAL FORMdWITH DOT BELOW
eINVERTED SMALL VeRINGeSMALL TAHfVeTHREE DOTS ABOVEeTWO DOTS BELOWcNYEHdFINAL FORMdINITIAL FORM
dISOLATED FORMdMEDIAL FORMcOEdFINAL FORMdISOLATED FORMcPEHdFINAL FORMdINITIAL FORMdISOLATED FORM
dMEDIAL FORMdWITH SMALL MEEM ABOVEfVcPEHEHdFINAL FORMdINITIAL FORMdISOLATED FORMdMEDIAL FORMcQAF
dFINAL FORMdINITIAL FORMdISOLATED FORMdMEDIAL FORMdWITH DOT ABOVEfBELOWgAND NO DOTS ABOVE
eTHREE DOTS ABOVEcREHdFINAL FORMdISOLATED FORMdWITH DOT BELOWgAND DOT ABOVEeFOUR DOTS ABOVE
eHAMZA ABOVEeINVERTED VeLOOPeRINGeSMALL ARABIC LETTER TAH AND TWO DOTSfNOON ABOVEfVgBELOWeSTROKE
eTWO DOTS ABOVEgVERTICALLY ABOVEcRNOONdFINAL FORMdINITIAL FORMdISOLATED FORMdMEDIAL FORM
cROHINGYA YEHcRREHdFINAL FORMdISOLATED FORMcSADdFINAL FORMdINITIAL FORMdISOLATED FORMdMEDIAL FORM
dWITH THREE DOTS ABOVEgBELOWeTWO DOTS BELOWcSEENdFINAL FORMdINITIAL FORMdISOLATED FORMdMEDIAL FORM
dWITH DOT BELOW AND DOT ABOVEeEXTENDED ARABIC-INDIC DIGIT FOUR ABOVEeFOUR DOTS ABOVEeINVERTED V
eSMALL ARABIC LETTER TAH AND TWO DOTSeTHREE DOTS BELOWhAND THREE DOTS ABOVE
eTWO DOTS VERTICALLY ABOVEcSHEENdFINAL FORMdINITIAL FORMdISOLATED FORMdMEDIAL FORMdWITH DOT BELOW
cSTRAIGHT WAWcSUPERSCRIPT ALEFcSWASH KAFcTAHdFINAL FORMdINITIAL FORMdISOLATED FORMdMEDIAL FORM
dWITH DOT BELOWeTHREE DOTS ABOVEgBELOWeTWO DOTS ABOVEcTCHEHdFINAL FORMdINITIAL FORMdISOLATED FORM
dMEDIAL FORMdWITH DOT ABOVEeSMALL VcTCHEHEHdFINAL FORMdINITIAL FORMdISOLATED FORMdMEDIAL FORMcTEH
dFINAL FORMdINITIAL FORMdISOLATED FORMdMARBUTAeFINAL FORMeGOALeISOLATED FORMdMEDIAL FORMdWITH RING
eSMALL TEH ABOVEfVeTHREE DOTS ABOVE DOWNWARDScTEHEHdFINAL FORMdINITIAL FORMdISOLATED FORM
dMEDIAL FORMcTHALdFINAL FORMdISOLATED FORMcTHEHdFINAL FORMdINITIAL FORMdISOLATED FORMdMEDIAL FORM
cTHIN YEHcTTEHdFINAL FORMdINITIAL FORMdISOLATED FORMdMEDIAL FORMdWITH SMALL VcTTEHEHdFINAL FORM
dINITIAL FORMdISOLATED FORMdMEDIAL FORMcUdFINAL FORMdISOLATED FORMdWITH HAMZA ABOVEgISOLATED FORM
cUIGHUR KAZAKH KIRGHIZ ALEF MAKSURA INITIAL FORMhMEDIAL FORMcVEdFINAL FORMdISOLATED FORMcVEH
dFINAL FORMdINITIAL FORMdISOLATED FORMdMEDIAL FORMcWAWdFINAL FORMdISOLATED FORMdWITH DOT ABOVE
fWITHINeEXTENDED ARABIC-INDIC DIGIT THREE ABOVEhTWO ABOVEeHAMZA ABOVEgFINAL FORMgISOLATED FORMeRING
eTWO DOTS ABOVEcYEHdBARREEeFINAL FORMeISOLATED FORMeWITH EXTENDED ARABIC-INDIC DIGIT THREE ABOVE
iTWO ABOVEfHAMZA ABOVEhFINAL FORMhISOLATED FORMdFINAL FORMdINITIAL FORMdISOLATED FORMdMEDIAL FORM
dWITH HAMZA ABOVEgFINAL FORMgINITIAL FORMgISOLATED FORMgMEDIAL FORMeSMALL VeTAILeTHREE DOTS BELOW
eTWO DOTS BELOW AND DOT ABOVEiHAMZA ABOVEiSMALL NOON ABOVEcYUdFINAL FORMdISOLATED FORMcZAH
dFINAL FORMdINITIAL FORMdISOLATED FORMdMEDIAL FORMcZAINdFINAL FORMdISOLATED FORM
dWITH INVERTED V ABOVEbLIGATURE AIN WITH ALEF MAKSURA FINAL FORMgISOLATED FORMeJEEM INITIAL FORM
fISOLATED FORMfWITH MEEM FINAL FORMhINITIAL FORMeMEEM INITIAL FORMfISOLATED FORM
fWITH ALEF MAKSURA FINAL FORMgMEEM FINAL FORMhINITIAL FORMgYEH FINAL FORMeYEH FINAL FORM
fISOLATED FORMcAKBAR ISOLATED FORMcALAYHAA AS-SALAAMcALAYHE ISOLATED FORMcALAYHI AS-SALAAM
dAS-SALAATU WAS-SALAAMcALAYHIM AS-SALAAMcALAYHIMAA AS-SALAAM
cALEF MAKSURA WITH SUPERSCRIPT ALEF FINAL FORMhISOLATED FORMdWITH FATHATAN FINAL FORMfISOLATED FORM
cALLAH ISOLATED FORMcAZZA WA JALLcBEH WITH ALEF MAKSURA FINAL FORMgISOLATED FORMeHAH INITIAL FORM
fISOLATED FORMfWITH YEH FINAL FORMeHEH INITIAL FORMfMEDIAL FORMeJEEM INITIAL FORMfISOLATED FORM
eKHAH INITIAL FORMfISOLATED FORMfWITH YEH FINAL FORMeMEEM FINAL FORMfINITIAL FORMfISOLATED FORM
fMEDIAL FORMeNOON FINAL FORMeREH FINAL FORMeYEH FINAL FORMfISOLATED FORMeZAIN FINAL FORM
cBISMILLAH AR-RAHMAN AR-RAHEEMcDAD WITH ALEF MAKSURA FINAL FORMgISOLATED FORMeHAH INITIAL FORM
fISOLATED FORMfWITH ALEF MAKSURA FINAL FORMgYEH FINAL FORMeJEEM INITIAL FORMfISOLATED FORM
eKHAH INITIAL FORMfISOLATED FORMfWITH MEEM FINAL FORMhINITIAL FORMeMEEM INITIAL FORMfISOLATED FORM
eREH FINAL FORMfISOLATED FORMeYEH FINAL FORMfISOLATED FORMcFEH WITH ALEF MAKSURA FINAL FORM
gISOLATED FORMeHAH INITIAL FORMfISOLATED FORMeJEEM INITIAL FORMfISOLATED FORMeKHAH INITIAL FORM
fISOLATED FORMfWITH MEEM FINAL FORMhINITIAL FORMeMEEM INITIAL FORMfISOLATED FORMfWITH YEH FINAL FORM
eYEH FINAL FORMfISOLATED FORMcGHAIN WITH ALEF MAKSURA FINAL FORMgISOLATED FORMeJEEM INITIAL FORM
fISOLATED FORMeMEEM INITIAL FORMfISOLATED FORMfWITH ALEF MAKSURA FINAL FORMgMEEM FINAL FORM
gYEH FINAL FORMeYEH FINAL FORMfISOLATED FORMcHAH WITH ALEF MAKSURA FINAL FORMgISOLATED FORM
eJEEM INITIAL FORMfISOLATED FORMfWITH YEH FINAL FORMeMEEM INITIAL FORMfISOLATED FORM
fWITH ALEF MAKSURA FINAL FORMgYEH FINAL FORMeYEH FINAL FORMfISOLATED FORM
cHEH WITH ALEF MAKSURA ISOLATED FORMeJEEM INITIAL FORMfISOLATED FORMeMEEM INITIAL FORMfISOLATED FORM
fWITH JEEM INITIAL FORMgMEEM INITIAL FORMeSUPERSCRIPT ALEF INITIAL FORMeYEH ISOLATED FORM
cJALLAJALALOUHOUcJEEM WITH ALEF MAKSURA FINAL FORMgISOLATED FORMeHAH INITIAL FORMfISOLATED FORM
fWITH ALEF MAKSURA FINAL FORMgYEH FINAL FORMeMEEM INITIAL FORMfISOLATED FORM
fWITH ALEF MAKSURA FINAL FORMgHAH FINAL FORMhINITIAL FORMgYEH FINAL FORMeYEH FINAL FORM
fISOLATED FORMcKAF WITH ALEF FINAL FORMfISOLATED FORMfMAKSURA FINAL FORMgISOLATED FORM
eHAH INITIAL FORMfISOLATED FORMeJEEM INITIAL FORMfISOLATED FORMeKHAH INITIAL FORMfISOLATED FORM
eLAM FINAL FORMfINITIAL FORMfISOLATED FORMfMEDIAL FORMeMEEM FINAL FORMfINITIAL FORMfISOLATED FORM
fMEDIAL FORMfWITH MEEM FINAL FORMhINITIAL FORMgYEH FINAL FORMeYEH FINAL FORMfISOLATED FORM
cKHAH WITH ALEF MAKSURA FINAL FORMgISOLATED FORMeHAH ISOLATED FORMeJEEM INITIAL FORMfISOLATED FORM
eMEEM INITIAL FORMfISOLATED FORMeYEH FINAL FORMfISOLATED FORMcLAM WITH ALEF FINAL FORMfISOLATED FORM
fMAKSURA FINAL FORMgISOLATED FORMfWITH HAMZA ABOVE FINAL FORMiISOLATED FORMhBELOW FINAL FORM
iISOLATED FORMgMADDA ABOVE FINAL FORMiISOLATED FORMeHAH INITIAL FORMfISOLATED FORM
fWITH ALEF MAKSURA FINAL FORMgMEEM FINAL FORMhINITIAL FORMgYEH FINAL FORMeHEH INITIAL FORM
eJEEM INITIAL FORMfISOLATED FORMfWITH JEEM FINAL FORMhINITIAL FORMgMEEM FINAL FORMhINITIAL FORM
gYEH FINAL FORMeKHAH INITIAL FORMfISOLATED FORMfWITH MEEM FINAL FORMhINITIAL FORMeMEEM FINAL FORM
fINITIAL FORMfISOLATED FORMfMEDIAL FORMfWITH HAH FINAL FORMhINITIAL FORMgYEH FINAL FORM
eYEH FINAL FORMfISOLATED FORMcMEEM WITH ALEF FINAL FORMfMAKSURA ISOLATED FORMeHAH INITIAL FORM
fISOLATED FORMfWITH JEEM INITIAL FORMgMEEM INITIAL FORMgYEH FINAL FORMeJEEM INITIAL FORM
fISOLATED FORMfWITH HAH INITIAL FORMgKHAH INITIAL FORMgMEEM INITIAL FORMgYEH FINAL FORM
eKHAH INITIAL FORMfISOLATED FORMfWITH JEEM INITIAL FORMgMEEM INITIAL FORMgYEH FINAL FORM
eMEEM FINAL FORMfINITIAL FORMfISOLATED FORMfWITH YEH FINAL FORMeYEH ISOLATED FORM
cMOHAMMAD ISOLATED FORMcNOON WITH ALEF MAKSURA FINAL FORMgISOLATED FORMeHAH INITIAL FORM
fISOLATED FORMfWITH ALEF MAKSURA FINAL FORMgMEEM INITIAL FORMgYEH FINAL FORMeHEH INITIAL FORM
fMEDIAL FORMeJEEM INITIAL FORMfISOLATED FORMfWITH ALEF MAKSURA FINAL FORMgHAH FINAL FORM
hINITIAL FORMgMEEM FINAL FORMhINITIAL FORMgYEH FINAL FORMeKHAH INITIAL FORMfISOLATED FORM
eMEEM FINAL FORMfINITIAL FORMfISOLATED FORMfMEDIAL FORMfWITH ALEF MAKSURA FINAL FORMgYEH FINAL FORM
eNOON FINAL FORMeREH FINAL FORMeYEH FINAL FORMfISOLATED FORMeZAIN FINAL FORM
cQAF WITH ALEF MAKSURA FINAL FORMgISOLATED FORMeHAH INITIAL FORMfISOLATED FORMeMEEM INITIAL FORM
fISOLATED FORMfWITH HAH FINAL FORMhINITIAL FORMgMEEM FINAL FORMgYEH FINAL FORMeYEH FINAL FORM
fISOLATED FORMcQALA USED AS KORANIC STOP SIGN ISOLATED FORMcQUDDISA SIRRAHcRADI ALLAAHU ANHeANHAA
eANHUMeANHUMAAeANHUNNAcRAHIMAHU ALLAAHcRAHIMAHUM ALLAAHcRASOUL ISOLATED FORM
cREH WITH SUPERSCRIPT ALEF ISOLATED FORMcSAD WITH ALEF MAKSURA FINAL FORMgISOLATED FORM
eHAH INITIAL FORMfISOLATED FORMfWITH HAH FINAL FORMhINITIAL FORMgYEH FINAL FORMeKHAH INITIAL FORM
eMEEM INITIAL FORMfISOLATED FORMfWITH MEEM FINAL FORMhINITIAL FORMeREH FINAL FORMfISOLATED FORM
eYEH FINAL FORMfISOLATED FORMcSALAAMUHU ALAYNAAcSALAM ISOLATED FORMcSALLA ISOLATED FORM
dUSED AS KORANIC STOP SIGN ISOLATED FORMcSALLALLAAHU ALAYHI WA-AALIHcSALLALLAHOU ALAYHE WASALLAM
cSALLALLAHU ALAYHI WAAALIHEE WA-SALLAMcSEEN WITH ALEF MAKSURA FINAL FORMgISOLATED FORM
eHAH INITIAL FORMfISOLATED FORMfMEDIAL FORMfWITH JEEM INITIAL FORMeHEH INITIAL FORMfMEDIAL FORM
eJEEM INITIAL FORMfISOLATED FORMfMEDIAL FORMfWITH ALEF MAKSURA FINAL FORMgHAH INITIAL FORM
eKHAH INITIAL FORMfISOLATED FORMfMEDIAL FORMfWITH ALEF MAKSURA FINAL FORMgYEH FINAL FORM
eMEEM INITIAL FORMfISOLATED FORMfMEDIAL FORMfWITH HAH FINAL FORMhINITIAL FORMgJEEM INITIAL FORM
gMEEM FINAL FORMhINITIAL FORMeREH FINAL FORMfISOLATED FORMeYEH FINAL FORMfISOLATED FORM
cSHADDA WITH DAMMA ISOLATED FORMfMEDIAL FORMeDAMMATAN ISOLATED FORMeFATHA ISOLATED FORMfMEDIAL FORM
eKASRA ISOLATED FORMfMEDIAL FORMeKASRATAN ISOLATED FORMeSUPERSCRIPT ALEF ISOLATED FORM
cSHEEN WITH ALEF MAKSURA FINAL FORMgISOLATED FORMeHAH FINAL FORMfINITIAL FORMfISOLATED FORM
fMEDIAL FORMfWITH MEEM FINAL FORMhINITIAL FORMgYEH FINAL FORMeHEH INITIAL FORMfMEDIAL FORM
eJEEM FINAL FORMfINITIAL FORMfISOLATED FORMfMEDIAL FORMfWITH YEH FINAL FORMeKHAH FINAL FORM
fINITIAL FORMfISOLATED FORMfMEDIAL FORMeMEEM FINAL FORMfINITIAL FORMfISOLATED FORMfMEDIAL FORM
fWITH KHAH FINAL FORMhINITIAL FORMgMEEM FINAL FORMhINITIAL FORMeREH FINAL FORMfISOLATED FORM
eYEH FINAL FORMfISOLATED FORMcSUBHAANAHU WA TAAALAAcTABAARAKA WA-TAAALAA
cTAH WITH ALEF MAKSURA FINAL FORMgISOLATED FORMeHAH INITIAL FORMfISOLATED FORMeMEEM INITIAL FORM
fISOLATED FORMfMEDIAL FORMfWITH HAH FINAL FORMhINITIAL FORMgMEEM INITIAL FORMgYEH FINAL FORM
eYEH FINAL FORMfISOLATED FORMcTEH WITH ALEF MAKSURA FINAL FORMgISOLATED FORMeHAH INITIAL FORM
fISOLATED FORMfWITH JEEM FINAL FORMhINITIAL FORMgMEEM INITIAL FORMeHEH INITIAL FORMfMEDIAL FORM
eJEEM INITIAL FORMfISOLATED FORMfWITH ALEF MAKSURA FINAL FORMgMEEM INITIAL FORMgYEH FINAL FORM
eKHAH INITIAL FORMfISOLATED FORMfWITH ALEF MAKSURA FINAL FORMgMEEM INITIAL FORMgYEH FINAL FORM
eMEEM FINAL FORMfINITIAL FORMfISOLATED FORMfMEDIAL FORMfWITH ALEF MAKSURA FINAL FORM
gHAH INITIAL FORMgJEEM INITIAL FORMgKHAH INITIAL FORMgYEH FINAL FORMeNOON FINAL FORMeREH FINAL FORM
eYEH FINAL FORMfISOLATED FORMeZAIN FINAL FORMcTHAL WITH SUPERSCRIPT ALEF ISOLATED FORM
cTHEH WITH ALEF MAKSURA FINAL FORMgISOLATED FORMeHEH MEDIAL FORMeJEEM ISOLATED FORMeMEEM FINAL FORM
fINITIAL FORMfISOLATED FORMfMEDIAL FORMeNOON FINAL FORMeREH FINAL FORMeYEH FINAL FORMfISOLATED FORM
eZAIN FINAL FORMcUIGHUR KIRGHIZ YEH WITH HAMZA ABOVE WITH ALEF MAKSURA FINAL FORMlINITIAL FORM
lISOLATED FORMcWASALLAM ISOLATED FORMcYEH WITH ALEF MAKSURA FINAL FORMgISOLATED FORM
eHAH INITIAL FORMfISOLATED FORMfWITH YEH FINAL FORMeHAMZA ABOVE WITH AE FINAL FORMiISOLATED FORM
hALEF FINAL FORMiISOLATED FORMiMAKSURA FINAL FORMjISOLATED FORMhE FINAL FORMiINITIAL FORM
iISOLATED FORMhHAH INITIAL FORMiISOLATED FORMhHEH INITIAL FORMiMEDIAL FORMhJEEM INITIAL FORM
iISOLATED FORMhKHAH INITIAL FORMhMEEM FINAL FORMiINITIAL FORMiISOLATED FORMiMEDIAL FORM
hNOON FINAL FORMhOE FINAL FORMiISOLATED FORMhREH FINAL FORMhU FINAL FORMiISOLATED FORM
hWAW FINAL FORMiISOLATED FORMhYEH FINAL FORMiISOLATED FORMhYU FINAL FORMiISOLATED FORM
hZAIN FINAL FORMeHEH INITIAL FORMfMEDIAL FORMeJEEM INITIAL FORMfISOLATED FORMfWITH YEH FINAL FORM
eKHAH INITIAL FORMfISOLATED FORMeMEEM FINAL FORMfINITIAL FORMfISOLATED FORMfMEDIAL FORM
fWITH MEEM FINAL FORMhINITIAL FORMgYEH FINAL FORMeNOON FINAL FORMeREH FINAL FORMeYEH FINAL FORM
fISOLATED FORMeZAIN FINAL FORMcZAH WITH MEEM INITIAL FORMfISOLATED FORMfMEDIAL FORMbMADDA WAAJIB
bMADDAH ABOVEbMARK NOON GHUNNAcSIDEWAYS NOON GHUNNAbMATHEMATICAL AINcALEFcBEHcDADcDALcDOTLESS BEH
dFEHdNOONdQAFcDOUBLE-STRUCK AINdBEHdDADdDALdFEHdGHAINdHAHdJEEMdKHAHdLAMdMEEMdNOONdQAFdREHdSADdSEEN
dSHEENdTAHdTEHdTHALdTHEHdWAWdYEHdZAHdZAINcFEHcGHAINcHAHcINITIAL AINdBEHdDADdFEHdGHAINdHAHdHEHdJEEM
dKAFdKHAHdLAMdMEEMdNOONdQAFdSADdSEENdSHEENdTEHdTHEHdYEHcJEEMcKAFcKHAHcLAMcLOOPED AINdALEFdBEHdDAD
dDALdFEHdGHAINdHAHdHEHdJEEMdKHAHdLAMdMEEMdNOONdQAFdREHdSADdSEENdSHEENdTAHdTEHdTHALdTHEHdWAWdYEHdZAH
dZAINcMEEMcNOONcOPERATOR HAH WITH DALdMEEM WITH HAH WITH TATWEELcQAFcREHcSADcSEENcSHEEN
cSTRETCHED AINdBEHdDADdDOTLESS BEHeFEHdFEHdGHAINdHAHdHEHdJEEMdKAFdKHAHdMEEMdNOONdQAFdSADdSEENdSHEEN
dTAHdTEHdTHEHdYEHdZAHcTAHcTAILED AINdDADdDOTLESS NOONeQAFdGHAINdHAHdJEEMdKHAHdLAMdNOONdQAFdSADdSEEN
dSHEENdYEHcTEHcTHALcTHEHcWAWcYEHcZAHcZAINbNUMBER MARK ABOVEcSIGNbOPEN DAMMATANcFATHATANcKASRATAN
bPERCENT SIGNbPIASTRE MARK ABOVEbPLACE OF SAJDAHbPOETIC VERSE SIGNbPOUND MARK ABOVEbQUESTION MARK
bRAISED ROUND DOTbRAYbREVERSED DAMMAbRIGHT ARROWHEAD ABOVEeWITH DOTdBELOW
bROUNDED HIGH STOP WITH FILLED CENTREbSEMICOLONbSHADDAcISOLATED FORMcMEDIAL FORM
bSIGN ALAYHE ASSALLAMcMISRAcRADI ALLAHOU ANHUcRAHMATULLAH ALAYHEcSAFHAcSALLALLAHOU ALAYHE WASSALLAM
cSAMVATcSANAHcSINDHI AMPERSANDdPOSTPOSITION MENcTAKHALLUSbSMALL DAMMAcFARSI YEHcFATHAcHIGH AIN
dDOTLESS HEAD OF KHAHdFARSI YEHdFOOTNOTE MARKERdJEEMdLAM ALEFdLIGATURE ALEF WITH LAM WITH YEH
eQAF WITH LAM WITH ALEF MAKSURAeSAD WITH LAM WITH ALEF MAKSURAdMADDAdMEEM INITIAL FORMeISOLATED FORM
dNOONeWITH KASRAdQAFdROUNDED ZEROdSADdSEENdSIGN SAFHAdTAHdTHREE DOTSdUPRIGHT RECTANGULAR ZEROdWAW
dWORD AL-JUZeAN-NISFeAR-RUBeAS-SAJDAeATH-THALATHAeQIFeSAHeSAKTAeWAQFAdYEHeBARREE WITH TWO DOTS BELOW
dZAHdZAINcKASRAcLOW MEEMdNOON WITH KASRAdSEENdWAWdWORD IMAALAeISHMAAMeTASHEELcWAWcYEH
bSTART OF RUB EL HIZBbSUBSCRIPT ALEFbSUKUNcBELOWcISOLATED FORMcMEDIAL FORM
bSUPERSCRIPT ALEF MOKHASSASbSYMBOL DOT ABOVEdBELOWcDOUBLE VERTICAL BAR BELOWcFOUR DOTS ABOVEeBELOW
cRINGcSMALL TAH ABOVEeBELOWcTHREE DOTS ABOVEeBELOWePOINTING DOWNWARDS ABOVEgBELOWcTWO DOTS ABOVE
eBELOWeVERTICALLY ABOVEfBELOWcWASLA ABOVEbTAIL FRAGMENTbTATWEELcWITH FATHATAN ABOVEdOVERSTRUCK HAMZA
eWAWdTWO DOTS BELOWbTHOUSANDS SEPARATORbTONE LOOP ABOVEdBELOWcONE DOT ABOVEeBELOWcTWO DOTS ABOVE
eBELOWbTRIPLE DOT PUNCTUATION MARKbTURNED DAMMA BELOWbVERTICAL TAILbVOWEL SIGN DOT BELOW
dINVERTED SMALL V ABOVEdSMALL V ABOVEbWAVY HAMZA BELOWbZWARAKAYaARABIC-INDIC CUBE ROOTbDIGIT EIGHT
cFIVEcFOURcNINEcONEcSEVENcSIXcTHREEcTWOcZERObFOURTH ROOTbPER MILLE SIGNcTEN THOUSAND SIGNaARCaARIES
aARMENIAN ABBREVIATION MARKbAPOSTROPHEbCAPITAL LETTER AYBdBENdCAdCHAdCHEHdCOdDAdECHdEHdETdFEHdGHAD
dGIMdHOdINIdJAdJHEHdKEHdKENdLIWNdMENdNOWdOHdPEHdPIWRdRAdREHdSEHdSHAdTIWNdTOdVEWdVOdXEHdYIdYIWNdZA
dZHEbCOMMAbDRAM SIGNbEMPHASIS MARKbEXCLAMATION MARKbFULL STOPbHYPHENbMODIFIER LETTER LEFT HALF RING
bQUESTION MARKbSMALL LETTER AYBdBENdCAdCHAdCHEHdCOdDAdECHdEHdETdFEHdGHADdGIMdHOdINIdJAdJHEHdKEHdKEN
dLIWNdMENdNOWdOHdPEHdPIWRdRAdREHdSEHdSHAdTIWNdTOdTURNED AYBdVEWdVOdXEHdYIeWITH STROKEdYIWNdZAdZHE
cLIGATURE ECH YIWNdMEN ECHeINIeNOWeXEHdVEW NOWaARROW POINTING DOWNWARDS THEN CURVING LEFTWARDS
fRIGHTWARDScRIGHTWARDS THEN CURVING DOWNWARDSfSOUTH WESTfUPWARDScUPWARDS THEN NORTH WEST
aARROWHEAD-SHAPED POINTERaARTICULATED LORRYaARTIST PALETTEaASCENDING NODEaASCIA SYMBOLaASSERTION
aASTERISKbOPERATORaASTERISMaASTONISHED FACEaASTRAEAaASTRONOMICAL SYMBOL FOR URANUS
aASYMPTOTICALLY EQUAL TOaATHLETIC SHOEaATOM SYMBOLaAUBERGINEaAUSTRAL SIGNaAUTO RICKSHAW
aAUTOMATED TELLER MACHINEaAUTOMOBILEaAVESTAN ABBREVIATION MARKbLETTER AcAAcAANcAAOcAEcAEEcANcAOcBE
cBHEcCEcDEcDHEcEcEEcFEcGEcGGEcGHEcHEcHMEcIcIIcJEcKEcLEcMEcNEcNGEcNGVEcNGYEcNNEcNYEcOcOOcPEcREcSEcSHE
cSHYEcSSHEcTEcTHEcTTEcUcUUcVEcXEcXVEcXYEcYEcYYEcZEcZHEaAVOCADOaAXEaBABYbANGELbBOTTLEbCHICKbSYMBOL
aBACK OF ENVELOPEbWITH LEFTWARDS ARROW ABOVEaBACK-TILTED SHADOWED WHITE RIGHTWARDS ARROW
aBACKSLANTED SOUTH ARROW WITH HOOKED TAILeHORIZONTAL TAILaBACKSPACEaBACONaBACTRIAN CAMELaBADGER
aBADMINTON RACQUET AND SHUTTLECOCKaBAGELaBAGGAGE CLAIMaBAGUETTE BREADaBALINESE ADEG ADEG
bCARIK PAMUNGKAHcPARERENcSIKIbDIGIT EIGHTcFIVEcFOURcNINEcONEcSEVENcSIXcTHREEcTWOcZERObLETTER AIKARA
cAKARAdTEDUNGcARCHAIC JNYAcASYURA SASAKcBAdKEMBANGcCAdLACAcDAdMADUdMURDA ALPAPRANAeMAHAPRANA
cEF SASAKcEKARAcGAdGORAcHAcIKARAdTEDUNGcJAdJERAcKAdMAHAPRANAcKAF SASAKcKHOT SASAKcLAdLENGAeTEDUNGcMA
cNAdRAMBATcNGAcNYAcOKARAdTEDUNGcPAdKAPALcRAdREPAeTEDUNGcSAdSAGAdSAPAcTAdLATIKdMURDA MAHAPRANAdTAWA
cTZIR SASAKcUKARAdTEDUNGcVE SASAKcWAcYAcZAL SASAKbMUSICAL SYMBOL COMBINING BENDEeENDEPeGONGeJEGOGAN
eKEMPLIfWITH JEGOGANeKEMPULfWITH JEGOGANeTEGEHdDAENGdDAINGdDANGeGEDEeSURANGdDENGdDEUNGdDINGdDONG
dDUNGdLEFT-HAND CLOSED PLAKfPLUKeOPEN PANGfPINGfPUNGdRIGHT-HAND CLOSED TAKfTUKeOPEN DAGfDUGbPAMADA
cLANTANGbPAMENENGbPANTIcLANTANGbSIGN BISAHcCECEKcREREKANcSURANGcULU CANDRAdRICEMbVOWEL SIGN LA LENGA
fTEDUNGdPEPETeTEDUNGdRA REPAfTEDUNGdSUKUeILUTdTALINGeREPAfTEDUNGeTEDUNGdTEDUNGdULUeSARIbWINDU
aBALL OF YARNaBALLET SHOESaBALLOONaBALLOON-SPOKED ASTERISKaBALLOT BOLD SCRIPT XbBOXcWITH BALLOT
dBOLD CHECKeSCRIPT XdCHECKdLIGHT XdSCRIPT XdXbSCRIPT XbXaBAMUM COLONbCOMBINING MARK KOQNDON
dTUKWENTISbCOMMAbFULL STOPbLETTER AcEEcFAAMAEcFEEcFOMcFUcIcKAcKENcKETcKEUXcKIcKOcKOGHOMcKOVUUcKPAcKU
cKYEEcLAcLEEEEcLIcLOQcLUcMcMAcMBAAcMBENcMEEEEcMENcMIcMOcMUcNAcNDAAcNGAcNGGAcNGKWAENcNIcNJAEMcNJEE
cNJUAEcNSHAcNTEEcNTUUcNUcNUAEcNYIcOcPAcPEEcPEUXcPHASE-A FIRIdGBIEE FONdGHEUAEGHEUAEdGHEUAERAEdKAFA
dKAQdKETdKEUKEUTNDAdKPOQdKUOQdLAPAQdLET KUTdLOMMAEdLUdLUAEPdMAEKEUPdMAEMdMAEMBGBIEEdMAEMKPEN
dMAEMVEUXdMAENYIdMAESIdMANSUAEdMAP PIEETdMBANYIdMBAQdMEUNJOMNDEUQdMGBASAdMON NGGEUAETdMOOMEUT
dMOOMPUQdMVEUAENGAMdNAA MFONdNAQdNDA LEERAEWAdNDAANGGEUAETdNENdNGANGUdNGGENdNGKUE MFONdNGKUENZEUM
dNIKAdNJAMdNKAARAEdNKINDIdNSHAdNSHIEEdNTAPeMFAAeNTAAdNTOQPENdNYETdNYIdNYIT MONGKEUAEQdNZA MFON
dNZUN MEUTdPA LEERAEWAdPAAMdPAARAEdPAMSHAEdPASHAEdPETdPON MFON PIPAEMBAfPIPAEMGBIEEePA NJI PIPAEMBA
gPIPAEMGBIEEdPUPdROMdSEUNYAMdSHINDA PA NJIdSHIRAEdSHOQ NSHUT YUMdSHUENSHUETdSHUMdSISAdSONJAMdSOQdSOT
dSUUdTEUAENdTEUTEUWENdTITA MFONdTU MAEMBAdTUAEPdU YUQ NAEdUNKNOWNdVEEcPHASE-B FEEdFEUXdGHEUGHEN
dGHEUGHEUAEMdKAMdKEUAEMdKEUPUQdKEUYEUXdKIEEMdKIQdLAANAEdLAM NSHUT NYAMdLETdLOM NTEUMdMAeNJEUAENA
eNJUQAdMBA MAELEEdMBAARAEdMBEURIdMBIT MBAAKETdMBUOQdMEUQdMEUT NGGEETdMFIYAQdMFON TEUAEQdMONTIEEN
dNDU NJAAdNGGAAMdNGGEU MBUdNGGUOQeLARGEdNGKINDI MVOPdNGOMdNSENdNSHUETdNTIEE SHEUOQdNYAEMAEdNYI NTEUM
dPARUMdPEESHIdPITdPUNGAAMdSAKEUAEdSET TUdSHET NJAQdSHEUAEQTUdSIEEdSUEdTAAMdTU MAEMGBIEEeNSIEEdVEUM
dWUAETdYAFU LEERAEWAdYEURAEcPHASE-C BUNGdFUEdGBAYIdGHAPdGHARAEdKAAdKEN FATIGUEeLAWdKETdKEUKAQdKEUM
dKEUSEUXdKEUSHEUAEPdKPARAQdKUOP NKAARAEdKUTdLAMdLAPdLIQdLUdMA KEUAERIeNSIEEdMAEMBAdMAESI
dMBAA CABBAGE-TREEePICKETdMBANYIdMBEEKEETdMBERAEdMBEUMdMBEUXdMBIdMBIRIEENdMBITdMBUAEMdMBUEdMGBASAQ
dMIEEdMUAEdNANSANAQdNAQdNDAMdNDAPdNDEUAEREEdNDEUTdNDIDAdNDOMBUdNGAQdNGGENdNGGUdNGGUAEN NYAMdNGGUEET
dNGGUMdNGGUONdNGKAQdNGKUE MAEMBAdNGOMdNJAEMdNJAMdNJEEEEdNJEUXdNJUEQdNSAdNSEUAENdNSHAQdNSOMdNSUN
dNSUOT NGOMdNTAAdNTENdNTEUNGBAdNTU MBITdNYIR MKPARAQ MEUNdNZAdNZEUMdPENdPINdPIRIEENdRUdSETFONdSEUX
dSHIQdSHUEQdSUAETdTAASHAEdTETdTEUTEUXdTITA YUEdTITUAEPdVEUAEPENdVEUXdWANGKUOQdWUPdYAAdYEUQdYU MUOMAE
dYUMdYUWOQcPHASE-D FAAdFEUFEUAETdGHAAdGHEUAEdKETdKEUAETMEUNdKEUMdKEUOT MBUAEdKEUPdKUdKUNdKUOMdKUQ
dKWAETdKYEEdLEEEEdLETdLEUAEPdLEUMdLIEEdLOQdLUMdMdMAENJETdMALEERIdMBAAeSEVENdMBUOdMEEEEdMEUNdMEUT
dMFEUAEdMFEUTdMFIEEdMFOdMFONdMGBEUNdMGBIEEdMGBOFUMdMONIdMUdMVOPdNDAMdNDEEdNDEUXdNDONdNGGAAMdNGGAAMAE
dNGGAPdNGGEUXdNGGUOMdNGGWAENdNGKAPdNGKEUAEQdNGKEURIdNGKIEEdNGKUNdNGKYEEdNIdNJAPdNJEUAEMdNJEUTdNJI
dNJIEEdNJUEQdNSHEEdNSHUTdNSIEEPdNSIEETdNSUMdNTEEdNTEUMdNTUUdNUdNYAMdNYETdNYIdNYUEdPAPdPEEdPEUTAEdPIP
dPUQdPUUTdRAEMdREN MUCHeOLDdRIIdSAPdSAQdSEUAEQdSHEEdSHEUAEdSHEUXdSHIIdSHOQdSHUdSOTdSUAEdSUEdSUUdTAE
dTEEEEdTEUAENdTEUNdTEUTdTIdTOQdTUdTUOTdWAPdWUAENdYAEMMAEdYENdYUOMdYUOPdYUWOQcPHASE-E AdFAdFAQdFEE
dFOMdFU CALLeIeREMEDYdFUEdFUETdGBETdGBEUXdGHAAMAEdGHETdGHEUAEdGHEUNdGHEUXdGHOMdIdKETdKEUAEdKEUXdKI
dKOdKPEUXdKUETdKUOPdKUTdLAAMdLAPdLAQdLEUAEMdLOMdLOONdLOOTdLOQdLUdMAdMAEdMAEMdMAPdMAQdMBEEdMBEUMdMEN
dMFEUQdMGBAdMGBENdMIdMIEEdMONdMUAEdMVIdNAdNAEdNDAA MY HOUSEeSOFTNESSdNDAPdNDIAQdNDIQdNDUNdNGA
dNGEUREUTdNGGEEEEdNGGEUAEdNGGEUAETdNGGUAESHAE NYAMdNGGUPdNGGURAEdNGKAdNGKAAMIdNGKEUAEMdNGKEUXdNGKUM
dNGKUPdNGOPdNGOQdNGUAEdNGUAETdNJAEMLIdNJEEeEPOCHdNJEUXdNKOMdNSHIEEdNSHUEdNSHUOPdNTAPdNTUM
dNYI BETWEENeCLEAVERdNZAQdNZUQdOdPA PEOPLEePLURALdPAAdPAAMdPEEMdPEUTdPEUXdPIdPIEEQdPIETdPOdPOONdPU
dPUAEdPUAQdPUEdPUMdRAEdRAQdREUXdRIMGBAdSAAdSEEdSETdSHEUAEQdSHIQdSHOdSHOQdSOMdSUAENdTAAdTAAQ
dTAEN NTEUMdTAMdTAQdTENdTEUdTEUAEQdTOOdTOONdTOQdTUAEdTUMdTUMAEdVEEdVEUAEdVOMdWEUXdWUEdWUOdYAPdYEUAE
dYEUAETdYEUMdYEUXdYIEEdYITdYOQ COVEReSWIMMINGdYUAENdYUEQdYUNdYUQcPHASE-F EEdFOMdKAdKENdKETdKOdKPAdKU
dKYEEdLAdLIdLOQdMdMAdMBAAdMBENdMEEEEdMOdNDAAdNGGAdNGKWAENdNIdNJAEMdNJUAEdNSHAdNTEEdNUdNUAEdNYIdPEE
dPEUXdPUAEdREEdRENdREUXdRIEEdRIIdRUdSAMBAdSEUXdSHIIdSHOdSHUdSIdSUUdTAAdTAEdTETdUdVUEQdWAdWUEdYAdYOQ
cPIcPUAEcPUEcRAEcREEcRENcREUXcRIEEcRIIcRUcSAMBAcSEUXcSHEUXcSHIIcSHOcSHUcSIcSUUcTAAcTAEcTENcTETcTIcU
cWAcWUEcYAcYOQcYUQbNJAEMLIbQUESTION MARKbSEMICOLONaBANANAaBANJOaBANKaBANKNOTE WITH DOLLAR SIGN
cEURO SIGNcPOUND SIGNcYEN SIGNaBAR CHARTbOF SOAPaBARBER POLEaBASEBALLaBASKETaBASKETBALL AND HOOP
aBASSA VAH COMBINING HIGH TONEdHIGH-LOW TONEdLOW TONEdLOW-MID TONEdMID TONEcFULL STOPcLETTER AdBAdCE
dDHIIdDOdEdEEdENNIdFAdGAHdGBUdHWAHdIdJOdKAdKPAHdMBEdOdOOdPAdSEdTOdUdUWUdVUdWAdWADDAdYEINdYIEdZOaBAT
aBATAK CONSONANT SIGN HdNGbLETTER AcBAcCAcDAcGAcHAcIcJAcKARO BAcLAcMAcMANDAILING HAdNAdSAcMBAcNAcNDA
cNGAcNORTHERN TAcNYAcPAcPAKPAK WAcRAcSAcSIMALUNGUN AdGAdHAdLAdMAdPAdRAdSAdWAdYAcSOUTHERN TAcUcWAcYA
bPANGOLATbPANONGONANbSIGN TOMPIbSYMBOL BINDU JUDULdNA METEKdPANGOLATdPINARBORASbVOWEL SIGN EdEEdI
dKARO IeOdOdPAKPAK EdUeFOR SIMALUNGUN SAaBATHaBATHTUBaBATTERYaBEACH WITH UMBRELLA
aBEAMED ASCENDING MUSICAL NOTESbDESCENDING MUSICAL NOTESbEIGHTH NOTESbSIXTEENTH NOTESaBEANS
aBEAR FACEaBEARDED PERSONaBEATING HEARTaBEAVERaBECAUSEaBEDaBEER MUGaBEETLEaBELaBELLbPEPPERbSYMBOL
bWITH CANCELLATION STROKEaBELLHOP BELLaBENGALI ABBREVIATION SIGNbANJIbAU LENGTH MARK
bCURRENCY DENOMINATOR SIXTEENcNUMERATOR FOURdONEeLESS THAN THE DENOMINATORdTHREEdTWObDIGIT EIGHT
cFIVEcFOURcNINEcONEcSEVENcSIXcTHREEcTWOcZERObGANDA MARKbISSHARbLETTER AcAAcAIcAUcBAcBHAcCAcCHAcDA
cDDAcDDHAcDHAcEcGAcGHAcHAcIcIIcJAcJHAcKAcKHAcKHANDA TAcLAcMAcNAcNGAcNNAcNYAcOcPAcPHAcRA
dWITH LOWER DIAGONALeMIDDLE DIAGONALcRHAcRRAcSAcSHAcSSAcTAcTHAcTTAcTTHAcUcUUcVEDIC ANUSVARA
cVOCALIC LdLLdRdRRcYAcYYAbRUPEE MARKcSIGNbSANDHI MARKbSIGN ANUSVARAcAVAGRAHAcCANDRABINDUcNUKTA
cVIRAMAcVISARGAbVOWEL SIGN AAdAIdAUdEdIdIIdOdUdUUdVOCALIC LeLLeReRR
aBENT ARROW POINTING DOWNWARDS THEN NORTH EASTaBENTO BOXaBENZENE RINGcWITH CIRCLEaBET SYMBOLaBETWEEN
aBEVERAGE BOXaBHAIKSUKI DANDAbDIGIT EIGHTcFIVEcFOURcNINEcONEcSEVENcSIXcTHREEcTWOcZERObDOUBLE DANDA
bGAP FILLER-1cFILLER-2bHUNDREDS UNIT MARKbLETTER AcAAcAIcAUcBAcBHAcCAcCHAcDAcDDAcDDHAcDHAcEcGAcGHA
cHAcIcIIcJAcJHAcKAcKHAcLAcMAcNAcNGAcNNAcNYAcOcPAcPHAcRAcSAcSHAcSSAcTAcTHAcTTAcTTHAcUcUUcVAcVOCALIC L
dRdRRcYAbNUMBER EIGHTcEIGHTYcFIFTYcFIVEcFORTYcFOURcNINEcNINETYcONEcSEVENcSEVENTYcSIXcSIXTYcTEN
cTHIRTYcTHREEcTWENTYcTWObSIGN ANUSVARAcAVAGRAHAcCANDRABINDUcVIRAMAcVISARGAbVOWEL SIGN AAdAIdAUdEdI
dIIdOdUdUUdVOCALIC LeReRRbWORD SEPARATORaBICYCLEaBICYCLISTaBIG REVERSE SOLIDUSbSOLIDUSaBIKINI
aBILLED CAPaBILLIARDSaBIOHAZARD SIGNaBIRDaBIRTHDAY CAKEaBISONaBITCOIN SIGNaBITING LIPaBLACK BOWTIE
bCENTRE WHITE STARbCHESS BISHOPdROTATED NINETY DEGREESeTWO HUNDRED SEVENTY DEGREEScEQUIHOPPER
dROTATED NINETY DEGREEScKINGdROTATED NINETY DEGREESeTWO HUNDRED SEVENTY DEGREEScKNIGHT
dROTATED FORTY-FIVE DEGREESeNINETY DEGREESeONE HUNDRED THIRTY-FIVE DEGREES
eTHREE HUNDRED FIFTEEN DEGREESeTWO HUNDRED SEVENTY DEGREESgTWENTY-FIVE DEGREEScKNIGHT-BISHOP
cKNIGHT-QUEENcKNIGHT-ROOKcPAWNdROTATED NINETY DEGREESeTWO HUNDRED SEVENTY DEGREEScQUEEN
dROTATED NINETY DEGREESeTWO HUNDRED SEVENTY DEGREEScROOKdROTATED NINETY DEGREES
eTWO HUNDRED SEVENTY DEGREEScTURNED BISHOPdKINGdKNIGHTdPAWNdQUEENdROOKbCIRCLEcFOR RECORD
cWITH DOWN ARROWdTWO WHITE DOTSdWHITE DOT RIGHTbCLUB SUITbCROSS ON SHIELD
bCURVED DOWNWARDS AND LEFTWARDS ARROWeRIGHTWARDS ARROWcLEFTWARDS AND DOWNWARDS ARROWeUPWARDS ARROW
cRIGHTWARDS AND DOWNWARDS ARROWeUPWARDS ARROWcUPWARDS AND LEFTWARDS ARROWeRIGHTWARDS ARROWbDIAMOND
cCENTREDcMINUS WHITE XcON CROSScSUITcWITH DOWN ARROWbDOWN POINTING BACKHAND INDEX
bDOWN-POINTING DOUBLE TRIANGLEcISOSCELES RIGHT TRIANGLEcSMALL TRIANGLEcTRIANGLE
bDOWNWARDS EQUILATERAL ARROWHEADbDRAUGHTS KINGcMANbDROPLETbFLAGbFLORETTEbFOLDERbFOUR POINTED STAR
bHARD SHELL FLOPPY DISKbHEARTcSUITbHEXAGONbHORIZONTAL ELLIPSEbHOURGLASSbLARGE CIRCLEcSQUARE
bLEFT LANE MERGEcPOINTING BACKHAND INDEXdINDEXbLEFT-POINTING DOUBLE TRIANGLEeWITH VERTICAL BAR
cISOSCELES RIGHT TRIANGLEcPOINTERcSMALL TRIANGLEcTRIANGLEbLEFTWARDS BULLETcEQUILATERAL ARROWHEAD
bLOWER LEFT TRIANGLEcRIGHT TRIANGLEbLOZENGEbMEDIUM DIAMONDcDOWN-POINTING TRIANGLEeCENTRED
cLEFT-POINTING TRIANGLEeCENTREDcLOZENGEcRIGHT-POINTING TRIANGLEeCENTREDcSMALL DIAMONDdLOZENGEdSQUARE
cSQUAREcUP-POINTING TRIANGLEeCENTREDbMOON LILITHbNIBbOCTAGONbPARALLELOGRAMbPENNANTbPENTAGONbPUSHPIN
bQUESTION MARK ORNAMENTbRECTANGLEbRIGHT POINTING BACKHAND INDEXdINDEXbRIGHT-POINTING DOUBLE TRIANGLE
eWITH VERTICAL BARcISOSCELES RIGHT TRIANGLEcPENTAGONcPOINTERcSMALL TRIANGLEcTRIANGLE
dWITH DOUBLE VERTICAL BARbRIGHTWARDS ARROWcARROWHEADcBULLETcEQUILATERAL ARROWHEADbROSETTE
bSAFETY SCISSORSbSCISSORSbSHOGI PIECEbSKULL AND CROSSBONESbSLIGHTLY SMALL CIRCLEdSQUARE
bSMALL DIAMONDcLOZENGEcSQUAREcSTARbSMILING FACEbSNOWMANbSPADE SUITbSQUAREcBUTTONcCENTREDcFOR STOP
bSTARbSUN WITH RAYSbTELEPHONEbTINY DIAMONDcLOZENGEcSQUAREbTOUCHTONE TELEPHONEbTRUCK
bTWO-WAY LEFT WAY TRAFFICbUNIVERSAL RECYCLING SYMBOLbUP POINTING BACKHAND INDEX
bUP-POINTING DOUBLE TRIANGLEcISOSCELES RIGHT TRIANGLEcSMALL TRIANGLEcTRIANGLEbUPPER LEFT TRIANGLE
cRIGHT TRIANGLEbUPWARDS EQUILATERAL ARROWHEADbVERTICAL ELLIPSEcRECTANGLEbVERY SMALL DIAMONDdLOZENGE
dSQUAREaBLACK-FEATHERED NORTH EAST ARROWbRIGHTWARDS ARROWbSOUTH EAST ARROWaBLACK-LETTER CAPITAL CcH
cIcRcZaBLANK SYMBOLaBLOCK SEXTANT-1bSEXTANT-12bSEXTANT-123bSEXTANT-1234bSEXTANT-12345bSEXTANT-12346
bSEXTANT-1235bSEXTANT-12356bSEXTANT-1236bSEXTANT-124bSEXTANT-1245bSEXTANT-12456bSEXTANT-1246
bSEXTANT-125bSEXTANT-1256bSEXTANT-126bSEXTANT-13bSEXTANT-134bSEXTANT-1345bSEXTANT-13456bSEXTANT-1346
bSEXTANT-1356bSEXTANT-136bSEXTANT-14bSEXTANT-145bSEXTANT-1456bSEXTANT-146bSEXTANT-15bSEXTANT-156
bSEXTANT-16bSEXTANT-2bSEXTANT-23bSEXTANT-234bSEXTANT-2345bSEXTANT-23456bSEXTANT-2346bSEXTANT-235
bSEXTANT-2356bSEXTANT-236bSEXTANT-24bSEXTANT-245bSEXTANT-2456bSEXTANT-25bSEXTANT-256bSEXTANT-26
bSEXTANT-3bSEXTANT-34bSEXTANT-345bSEXTANT-3456bSEXTANT-346bSEXTANT-35bSEXTANT-356bSEXTANT-36
bSEXTANT-4bSEXTANT-45bSEXTANT-456bSEXTANT-46bSEXTANT-5bSEXTANT-56bSEXTANT-6aBLOSSOMaBLOWFISH
aBLUE BOOKbHEARTaBLUEBERRIESaBOARaBOLD EIGHT SPOKED ASTERISKbFIVE SPOKED ASTERISKbGREEK CROSS
bSALTIREbSIX SPOKED ASTERISKbWHITE CIRCLEcSQUAREaBOMaBOMBaBONEaBOOKaBOOKMARKbTABSaBOOKSaBOOMERANG
aBOPOMOFO FINAL LETTER GdHdKdPdTbLETTER AcAHcAIcAINNcAMcANcANGcANNcAUcAUNNcBcBUcCcCHcDcEcEEcEHcEIcEN
cENGcENNcERcFcGcGHcGNcGUcGWcHcIcIHcIMcINNcINNNcIRcIUcJcJIcKcKWcLcLHcMcNcNGcNGGcNNcOdWITH DOT ABOVE
cOEcOMcONGcONNcOOcOUcPcQcRcScSHcTcUcUNNcVcXcZcZHcZIcZYaBOTTLE WITH POPPING CORK
aBOTTOM ARC ANTICLOCKWISE ARROWbCURLY BRACKETbHALF BLACK CIRCLEcINTEGRALcLEFT PARENTHESIS
cRIGHT PARENTHESISbLEFT CORNERcCROPcHALF BRACKETbPARENTHESISbRIGHT CORNERcCROPcHALF BRACKET
bSQUARE BRACKETdOVER TOP SQUARE BRACKETbTORTOISE SHELL BRACKETaBOUQUETbOF FLOWERSaBOW AND ARROW
aBOWL OF HYGIEIAbWITH SPOONaBOWLINGaBOWTIEbWITH LEFT HALF BLACKcRIGHT HALF BLACK
aBOX DRAWINGS DOUBLE DOWN AND HORIZONTALfLEFTfRIGHTdHORIZONTALdUP AND HORIZONTALfLEFTfRIGHTdVERTICAL
eAND HORIZONTALfLEFTfRIGHTcDOWN DOUBLE AND HORIZONTAL SINGLEfLEFT SINGLEfRIGHT SINGLE
dHEAVY AND HORIZONTAL LIGHTfLEFT LIGHTgUP LIGHTfRIGHT LIGHTgUP LIGHTfUP HORIZONTAL LIGHT
dLIGHT AND HORIZONTAL HEAVYfLEFT HEAVYgUP HEAVYfRIGHT HEAVYgUP HEAVYfUP HORIZONTAL HEAVY
dSINGLE AND HORIZONTAL DOUBLEfLEFT DOUBLEfRIGHT DOUBLEcHEAVY DOUBLE DASH HORIZONTALfVERTICALdDOWN
eAND HORIZONTALfLEFTfRIGHTdHORIZONTALdLEFTeAND LIGHT RIGHTdQUADRUPLE DASH HORIZONTALfVERTICALdRIGHT
dTRIPLE DASH HORIZONTALfVERTICALdUPeAND HORIZONTALfLEFTfLIGHT DOWNfRIGHTdVERTICALeAND HORIZONTAL
fLEFTfRIGHTcLEFT DOWN HEAVY AND RIGHT UP LIGHTdHEAVY AND RIGHT DOWN LIGHTgUP LIGHTgVERTICAL LIGHT
dLIGHT AND RIGHT DOWN HEAVYgUP HEAVYgVERTICAL HEAVYdUP HEAVY AND RIGHT DOWN LIGHT
cLIGHT ARC DOWN AND LEFTgRIGHTeUP AND LEFTgRIGHTdDIAGONAL CROSSeDIAMONDeMIDDLE LEFT TO LOWER CENTRE
jTO MIDDLE RIGHThUPPER CENTRE TO MIDDLE RIGHTmTO LOWER CENTREfRIGHT TO LOWER CENTRE
hUPPER CENTRE TO MIDDLE LEFT TO LOWER CENTREeUPPER CENTRE TO MIDDLE LEFT
jAND MIDDLE RIGHT TO LOWER CENTREjTO LOWER CENTREmTO MIDDLE RIGHTiRIGHT
jAND MIDDLE LEFT TO LOWER CENTREjTO LOWER CENTREmTO MIDDLE LEFTfLEFT TO LOWER RIGHT
fRIGHT TO LOWER LEFTdDOUBLE DASH HORIZONTALfVERTICALdDOWNeAND HORIZONTALfLEFTfRIGHTdHORIZONTAL
eWITH VERTICAL STROKEdLEFTeAND HEAVY RIGHTdQUADRUPLE DASH HORIZONTALfVERTICALdRIGHT
dTRIPLE DASH HORIZONTALfVERTICALdUPeAND HEAVY DOWNfHORIZONTALfLEFTfRIGHTdVERTICALeAND HORIZONTAL
fLEFTfRIGHTcRIGHT DOWN HEAVY AND LEFT UP LIGHTdHEAVY AND LEFT DOWN LIGHTgUP LIGHTgVERTICAL LIGHT
dLIGHT AND LEFT DOWN HEAVYgUP HEAVYgVERTICAL HEAVYdUP HEAVY AND LEFT DOWN LIGHT
cUP DOUBLE AND HORIZONTAL SINGLEfLEFT SINGLEfRIGHT SINGLEdHEAVY AND DOWN HORIZONTAL LIGHT
fHORIZONTAL LIGHTfLEFT DOWN LIGHTgLIGHTfRIGHT DOWN LIGHTgLIGHTdLIGHT AND DOWN HORIZONTAL HEAVY
fHORIZONTAL HEAVYfLEFT DOWN HEAVYgHEAVYfRIGHT DOWN HEAVYgHEAVYdSINGLE AND HORIZONTAL DOUBLE
fLEFT DOUBLEfRIGHT DOUBLEcVERTICAL DOUBLE AND HORIZONTAL SINGLEfLEFT SINGLEfRIGHT SINGLE
dHEAVY AND HORIZONTAL LIGHTfLEFT LIGHTfRIGHT LIGHTdLIGHT AND HORIZONTAL HEAVYfLEFT HEAVYfRIGHT HEAVY
dSINGLE AND HORIZONTAL DOUBLEfLEFT DOUBLEfRIGHT DOUBLEaBOXING GLOVEaBOYaBOYS SYMBOLaBPHaBRAHMI DANDA
bDIGIT EIGHTcFIVEcFOURcNINEcONEcSEVENcSIXcTHREEcTWOcZERObDOUBLE DANDAbLETTER AcAAcAIcAUcBAcBHAcCA
cCHAcDAcDDAcDDHAcDHAcEcGAcGHAcHAcIcIIcJAcJHAcKAcKHAcLAcLLAcMAcNAcNGAcNNAcNYAcOcOLD TAMIL LLAeLLLA
eNNNAeRRAeSHORT EfOcPAcPHAcRAcSAcSHAcSSAcTAcTHAcTTAcTTHAcUcUUcVAcVOCALIC LdLLdRdRRcYAbNUMBER EIGHT
cEIGHTYcFIFTYcFIVEcFORTYcFOURcJOINERcNINEcNINETYcONEdHUNDREDdTHOUSANDcSEVENcSEVENTYcSIXcSIXTYcTEN
cTHIRTYcTHREEcTWENTYcTWObPUNCTUATION CRESCENT BARcDOTcDOUBLE DOTcLINEcLOTUSbSIGN ANUSVARA
cCANDRABINDUcJIHVAMULIYAcOLD TAMIL VIRAMAcUPADHMANIYAcVISARGAbVIRAMAbVOWEL SIGN AAdAIdAU
dBHATTIPROLU AAdEdIdIIdOdOLD TAMIL SHORT EgOdUdUUdVOCALIC LeLLeReRRaBRAILLE PATTERN BLANKcDOTS-1
cDOTS-12cDOTS-123cDOTS-1234cDOTS-12345cDOTS-123456cDOTS-1234567cDOTS-12345678cDOTS-1234568
cDOTS-123457cDOTS-1234578cDOTS-123458cDOTS-12346cDOTS-123467cDOTS-1234678cDOTS-123468cDOTS-12347
cDOTS-123478cDOTS-12348cDOTS-1235cDOTS-12356cDOTS-123567cDOTS-1235678cDOTS-123568cDOTS-12357
cDOTS-123578cDOTS-12358cDOTS-1236cDOTS-12367cDOTS-123678cDOTS-12368cDOTS-1237cDOTS-12378cDOTS-1238
cDOTS-124cDOTS-1245cDOTS-12456cDOTS-124567cDOTS-1245678cDOTS-124568cDOTS-12457cDOTS-124578
cDOTS-12458cDOTS-1246cDOTS-12467cDOTS-124678cDOTS-12468cDOTS-1247cDOTS-12478cDOTS-1248cDOTS-125
cDOTS-1256cDOTS-12567cDOTS-125678cDOTS-12568cDOTS-1257cDOTS-12578cDOTS-1258cDOTS-126cDOTS-1267
cDOTS-12678cDOTS-1268cDOTS-127cDOTS-1278cDOTS-128cDOTS-13cDOTS-134cDOTS-1345cDOTS-13456cDOTS-134567
cDOTS-1345678cDOTS-134568cDOTS-13457cDOTS-134578cDOTS-13458cDOTS-1346cDOTS-13467cDOTS-134678
cDOTS-13468cDOTS-1347cDOTS-13478cDOTS-1348cDOTS-135cDOTS-1356cDOTS-13567cDOTS-135678cDOTS-13568
cDOTS-1357cDOTS-13578cDOTS-1358cDOTS-136cDOTS-1367cDOTS-13678cDOTS-1368cDOTS-137cDOTS-1378cDOTS-138
cDOTS-14cDOTS-145cDOTS-1456cDOTS-14567cDOTS-145678cDOTS-14568cDOTS-1457cDOTS-14578cDOTS-1458
cDOTS-146cDOTS-1467cDOTS-14678cDOTS-1468cDOTS-147cDOTS-1478cDOTS-148cDOTS-15cDOTS-156cDOTS-1567
cDOTS-15678cDOTS-1568cDOTS-157cDOTS-1578cDOTS-158cDOTS-16cDOTS-167cDOTS-1678cDOTS-168cDOTS-17
cDOTS-178cDOTS-18cDOTS-2cDOTS-23cDOTS-234cDOTS-2345cDOTS-23456cDOTS-234567cDOTS-2345678cDOTS-234568
cDOTS-23457cDOTS-234578cDOTS-23458cDOTS-2346cDOTS-23467cDOTS-234678cDOTS-23468cDOTS-2347cDOTS-23478
cDOTS-2348cDOTS-235cDOTS-2356cDOTS-23567cDOTS-235678cDOTS-23568cDOTS-2357cDOTS-23578cDOTS-2358
cDOTS-236cDOTS-2367cDOTS-23678cDOTS-2368cDOTS-237cDOTS-2378cDOTS-238cDOTS-24cDOTS-245cDOTS-2456
cDOTS-24567cDOTS-245678cDOTS-24568cDOTS-2457cDOTS-24578cDOTS-2458cDOTS-246cDOTS-2467cDOTS-24678
cDOTS-2468cDOTS-247cDOTS-2478cDOTS-248cDOTS-25cDOTS-256cDOTS-2567cDOTS-25678cDOTS-2568cDOTS-257
cDOTS-2578cDOTS-258cDOTS-26cDOTS-267cDOTS-2678cDOTS-268cDOTS-27cDOTS-278cDOTS-28cDOTS-3cDOTS-34
cDOTS-345cDOTS-3456cDOTS-34567cDOTS-345678cDOTS-34568cDOTS-3457cDOTS-34578cDOTS-3458cDOTS-346
cDOTS-3467cDOTS-34678cDOTS-3468cDOTS-347cDOTS-3478cDOTS-348cDOTS-35cDOTS-356cDOTS-3567cDOTS-35678
cDOTS-3568cDOTS-357cDOTS-3578cDOTS-358cDOTS-36cDOTS-367cDOTS-3678cDOTS-368cDOTS-37cDOTS-378cDOTS-38
cDOTS-4cDOTS-45cDOTS-456cDOTS-4567cDOTS-45678cDOTS-4568cDOTS-457cDOTS-4578cDOTS-458cDOTS-46cDOTS-467
cDOTS-4678cDOTS-468cDOTS-47cDOTS-478cDOTS-48cDOTS-5cDOTS-56cDOTS-567cDOTS-5678cDOTS-568cDOTS-57
cDOTS-578cDOTS-58cDOTS-6cDOTS-67cDOTS-678cDOTS-68cDOTS-7cDOTS-78cDOTS-8aBRAINaBREAD
aBREAK PERMITTED HEREaBREAST-FEEDINGaBREVEaBRICKaBRIDE WITH VEILaBRIDGE AT NIGHTaBRIEFCASEaBRIEFS
aBROCCOLIaBROKEN BARbCIRCLE WITH NORTHWEST ARROWbHEARTaBROOMaBROWN HEARTaBSaBUBBLE TEAaBUBBLES
aBUCKETaBUGaBUGINESE END OF SECTIONbLETTER AcBAcCAcDAcGAcHAcJAcKAcLAcMAcMPAcNAcNGAcNGKAcNRAcNYAcNYCA
cPAcRAcSAcTAcVAcYAbPALLAWAbVOWEL SIGN AEdEdIdOdUaBUHID LETTER AcBAcDAcGAcHAcIcKAcLAcMAcNAcNGAcPAcRA
cSAcTAcUcWAcYAbVOWEL SIGN IdUaBUILDING CONSTRUCTIONaBULLETbOPERATORaBULLHORNbWITH SOUND WAVES
aBULLSEYEaBURRITOaBUSbSTOPaBUST IN SILHOUETTEaBUSTS IN SILHOUETTEaBUTTERaBUTTERFLYaBYTE ORDER MARK
aBYZANTINE MUSICAL SYMBOL AGOGI ARGIeARGOTERIeGORGIeGORGOTERIeMESIeMETRIAePOLI ARGIfGORGI
dANATRICHISMAdANTIKENOKYLISMAdANTIKENOMAdAPESO EKFONITIKONeEXO NEOdAPLIdAPODERMA ARCHAIONeNEO
dAPOSTROFOI SYNDESMOS NEOeTELOUS ICHIMATOSdAPOSTROFOSeDIPLIeNEOdAPOTHEMAdARGONdARGOSYNTHETON
dARKTIKO DIeGAeKEeNIePAeVOUeZOdCHAMILIdCHAMILONdCHOREVMA ARCHAIONeNEOdCHROA KLITONeSPATHIeZYGOS
dDASEIAdDIARGONdDIASTOLI APLI MEGALIfMIKRIeDIPLIeTHESEOSdDIESIS APLI DYO DODEKATA
eDIGRAMMOS EX DODEKATAeMONOGRAMMOS TESSERA DODEKATAeTETARTIMORIONeTRIGRAMMOS OKTO DODEKATA
eTRITIMORIONdDIFTOGGOS OUdDIGORGONePARESTIGMENON ARISTERA ANOgKATOfDEXIAdDIGRAMMA GGdDIPLIeARCHAION
dDYOdEKSTREPTONdELAFRONdENARXIS KAI FTHORA VOUdENDOFONONdEPEGERMAdETERON ARGOSYNTHETONePARAKALESMA
dEXO EKFONITIKONdFANEROSIS DIFONIASeMONOFONIASeTETRAFONIASdFHTORA SKLIRON CHROMA VASIS
dFTHORA ARCHAIONfDEYTEROU ICHOUeDIATONIKI DIfKEfNANAfNI ANOgKATOfPAfZOeENARMONIOS ANTIFONIA
eI YFESIS TETARTIMORIONeMALAKON CHROMA DIFONIASgMONOFONIASeNAOS ICHOSeNENANOeSKLIRON CHROMA SYNAFI
gVASISfDIATONON DIdGENIKI DIESISeYFESISdGORGON ARCHAIONeNEO ANOfKATOePARESTIGMENON ARISTERAfDEXIA
dGORGOSYNTHETONdGORTHMIKON N APLOUNfDIPLOUNdGRONTHISMATAdICHADINdIMIDIARGONdIMIFONONdIMIFTHORA
dIMIFTHORONdISAKIA TELOUS ICHIMATOSdISON ARCHAIONeNEOdKATAVA TROMIKONdKATAVASMAdKATHISTI
dKENTIMA ARCHAIONeNEO ANOfKATOfMESOdKENTIMATAeARCHAIONeNEO ANOfKATOfMESOdKLASMAeANOeKATOdKONTEVMA
eALLOdKORONISdKOUFISMAdKRATIMA ALLOeARCHAIONeNEOdKRATIMATAdKRATIMOKOUFISMAdKRATIMOYPORROONdKREMASTI
dKYLISMAdLEIMMA DYO CHRONONeENOS CHRONOUeIMISEOS CHRONOUeTESSARON CHRONONeTRION CHRONONdLEMOI
dLYGISMAdMARTYRIA ALLI DEYTEROS ICHOSfPROTOS ICHOSeDEYTEROS ICHOSeLEGETOS ICHOSePLAGIOS ICHOS
fTETARTOS ICHOSePROTOS ICHOSePROTOVARYS ICHOSeTETARTOS ICHOSfLEGETOS ICHOSeTRIFONIASeTRITOS ICHOS
eVARYS ICHOSdMIKRON ISONdNANAdOLIGON ARCHAIONeNEOdOMALONdOXEIA DIPLIeEKFONITIKONeNEOdOXEIAI ARCHAION
dOYRANISMA ARCHAIONeNEOdPARAKALESMA ARCHAIONeNEOdPARAKLITIKIeARCHAIONeNEOdPARICHONdPELASTONeNEO
dPERISPOMENIdPETASMAdPETASTIdPETASTOKOUFISMAdPIASMA ARCHAIONeNEOdPSIFISTOLYGISMAdPSIFISTONeNEO
dPSIFISTOPARAKALESMAdPSIFISTOSYNAGMAdPSILIdPSILONdRAPISMAdREVMAdSAXIMATAdSEISMAeNEOdSIMANSIS ARSEOS
fDISIMOUfTETRASIMOUfTRISIMOUeTHESEOSfDISIMOUfTETRASIMOUfTRISIMOUdSTAVROSeAPODEXIAdSTIGMA
dSTRAGGISMATAdSYNAGMA ARCHAIONeMETA STAVROUeNEOdSYNEVMAdSYRMAdSYRMATIKIdTELEIAdTESSERAdTETRAPLI
dTHEMAeAPLOUNdTHEMATISMOS ESOeEXOdTHES KAI APOTHESdTHITAdTINAGMAdTRIAdTRIGORGONdTRIPLI
dTROMIKOLYGISMAdTROMIKON ALLOeARCHAIONeNEOdTROMIKOPARAKALESMAdTROMIKOPSIFISTONdTROMIKOSYNAGMA
dVAREIA DIPLIeEKFONITIKONeNEOdVAREIAI ARCHAIONdVATHYdXIRON KLASMAdYFEN ANOeKATO
dYFESIS APLI DYO DODEKATAeDIGRAMMOS EX DODEKATAeMONOGRAMMOS TESSERA DODEKATA
eTRIGRAMMOS OKTO DODEKATAeTRITIMORIONdYPOKRISISeDIPLIdYPORROIdYPSILI
"

end RepoAudit.Text.CharName
