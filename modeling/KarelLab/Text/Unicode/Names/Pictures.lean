namespace KarelLab.Text.Unicode

def pictureNames : String :=
  "1B000=KATAKANA_LETTER_ARCHAIC_E HIRAGANA_LETTER_ARCHAIC_YE HENTAIGANA_LETTER_A-1 d2 d3 dWO cI-1
    d2 d3 d4 cU-1 d2 d3 d4 d5 cE-2 d3 d4 d5 d6 cO-1 d2 d3 cKA-1 d2 d3 d4 d5 d6 d7 d8 d9 d10 d11 dKE
    cKI-1 d2 d3 d4 d5 d6 d7 d8 cKU-1 d2 d3 d4 d5 d6 d7 cKE-1 d2 d3 d4 d5 d6 cKO-1 d2 d3 dKI cSA-1 d2
    d3 d4 d5 d6 d7 d8 cSI-1 d2 d3 d4 d5 d6 cSU-1 d2 d3 d4 d5 d6 d7 d8 cSE-1 d2 d3 d4 d5 cSO-1 d2 d3
    d4 d5 d6 d7 cTA-1 d2 d3 d4 cTI-1 d2 d3 d4 d5 d6 d7 cTU-1 d2 d3 d4 dTO cTE-1 d2 d3 d4 d5 d6 d7 d8
    d9 cTO-1 d2 d3 d4 d5 d6 dRA cNA-1 d2 d3 d4 d5 d6 d7 d8 d9 cNI-1 d2 d3 d4 d5 d6 d7 dTE cNU-1 d2
    d3 cNE-1 d2 d3 d4 d5 d6 dKO cNO-1 d2 d3 d4 d5 cHA-1 d2 d3 d4 d5 d6 d7 d8 d9 d10 d11 cHI-1 d2 d3
    d4 d5 d6 d7 cHU-1 d2 d3 cHE-1 d2 d3 d4 d5 d6 d7 cHO-1 d2 d3 d4 d5 d6 d7 d8 cMA-1 d2 d3 d4 d5 d6
    d7 cMI-1 d2 d3 d4 d5 d6 d7 cMU-1 d2 d3 d4 cME-1 d2 dMA cMO-1 d2 d3 d4 d5 d6 cYA-1 d2 d3 d4 d5
    dYO cYU-1 d2 d3 d4 cYO-1 d2 d3 d4 d5 d6 cRA-1 d2 d3 d4 cRI-1 d2 d3 d4 d5 d6 d7 cRU-1 d2 d3 d4 d5
    d6 cRE-1 d2 d3 d4 cRO-1 d2 d3 d4 d5 d6 cWA-1 d2 d3 d4 d5 cWI-1 d2 d3 d4 d5 cWE-1 d2 d3 d4 cWO-1
    d2 d3 d4 d5 d6 d7 cN-MU-MO-1 f2 HIRAGANA_LETTER_ARCHAIC_WU KATAKANA_LETTER_ARCHAIC_YI dYE dWU
    1B150=HIRAGANA_LETTER_SMALL_WI dWE dWO 1B164=KATAKANA_LETTER_SMALL_WI dWE dWO dN
    1BC00=DUPLOYAN_LETTER_H cX cP cT cF cK cL cB cD cV cG cR cP_N cD_S cF_N cK_M cR_S cTH cSLOAN_DH
    cb cKK cSLOAN_J cHL cLH cRH cM cN cJ cS cM_N cN_M cbJ_ cS_J cM_WITH_DOT ccN_ ccJ_
    eDOTS_INSIDE_AND_ABOVE cS_WITH_DOT eDOT_BELOW cM_S cbN_ cbJ_ cbS_ cbM_N_ cbN_M_ ccJ_ cbS_J_
    cJ_S_WITH_DOT dN dN_S cS_T dT_R dP dP_R cT_S dbR_ cW cWH cW_R cS_N dM cK_R_S ccG_ cS_K dK_R cA
    cSLOAN_OW cOA cO cAOU cI cE cIE cSHORT_I cUI cEE cSLOAN_EH cROMANIAN_I cSLOAN_EE cLONG_I cYE cU
    cEU cXW cU_N cLONG_U cbROMANIAN_ cUH cSLOAN_U cOOH cOW cOU cWA cWO cWI cWEI cWOW cNASAL_U dO dI
    dA cPERNIN_AN dAM cSLOAN_EN dAN dON cVOCALIC_M 1BC70=bAFFIX_LEFT_HORIZONTAL_SECANT ccMID_
    ccRIGHT_ cbLOW_VERTICAL_ ccMID_ ccHIGH_ cbATTACHED_ dbLEFT-TO-RIGHT_ dTANGENT dTAIL dE_HOOK dbI_
    dbTANGENT_ 1BC80=cHIGH_ACUTE dbTIGHT_ dGRAVE dbLONG_ dDOT dCIRCLE dLINE dWAVE dVERTICAL
    1BC90=cLOW_ACUTE dbTIGHT_ dGRAVE dbLONG_ dDOT dCIRCLE dLINE dWAVE dVERTICAL dARROW
    1BC9C=bSIGN_O_WITH_CROSS bTHICK_LETTER_SELECTOR bDOUBLE_MARK bPUNCTUATION_CHINOOK_FULL_STOP
    SHORTHAND_FORMAT_LETTER_OVERLAP cbCONTINUING_ cDOWN_STEP cbUP_
    1CF00=ZNAMENNY_COMBINING_MARK_GORAZDO_NIZKO_S_KRYZHEM_ON_LEFT df dcTSATA_ dcGORAZDO_NIZKO_ dd
    dcSREDNE_ dcMALO_POVYSHE_ dd dcVYSOKO_ dcMALO_POVYSHE_S_KHOKHLOM_ df deVYSOKO_
    dGORAZDO_NIZKO_S_KRYZHEM_ON_RIGHT df dcTSATA_ dcGORAZDO_NIZKO_ dd dcSREDNE_ dcMALO_POVYSHE_ dd
    dcVYSOKO_ dcMALO_POVYSHE_S_KHOKHLOM_ df deVYSOKO_ dTSATA_S_KRYZHEM dcMALO_POVYSHE_
    dSTRANNO_MALO_POVYSHE dPOVYSHE_S_KRYZHEM eSTRANNO dVYSOKO_S_KRYZHEM dMALO_POVYSHE_STRANNO
    dGORAZDO_VYSOKO dZELO dON dRAVNO dTIKHAYA dBORZAYA dUDARKA dPODVERTKA dLOMKA dKUPNAYA dKACHKA
    dZEVOK dSKOBA dRAZSEKA dKRYZH_ON_LEFT 1CF30=cTONAL_RANGE_MARK_MRACHNO fSVETLO fTRESVETLO
    cMARK_ZADERZHKA dbDEMESTVENNY_ dOTSECHKA dPODCHASHIE dPODCHASHIE_WITH_VERTICAL_STROKE dCHASHKA
    dCHASHKA_POLNAYA dOBLACHKO dSOROCHYA_NOZHKA dTOCHKA dDVOETOCHIE cATTACHING_VERTICAL_OMET
    cbMARK_CURVED_ dKRYZH cLOWER_TONAL_RANGE_INDICATOR bPRIZNAK_MODIFIER_LEVEL-2 e3 dDIRECTION_FLIP
    dKRYZH dROG 1CF50=bNEUME_KRYUK cKRYUK_TIKHY cPARAKLIT cDVA_V_CHELNU cKLYUCH cZANOZHEK cSTOPITSA
    cSTOPITSA_S_OCHKOM cPEREVODKA cPEREVODKA_NEPOSTOYANNAYA cSTOPITSA_WITH_SOROCHYA_NOZHKA
    cCHELYUSTKA cPALKA cZAPYATAYA cGOLUBCHIK_BORZY dTIKHY dMRACHNY dSVETLY dTRESVETLY
    cVRAKHIYA_PROSTAYA dMRACHNAYA dSVETLAYA dTRESVETLAYA dKLYUCHEVAYA_PROSTAYA eMRACHNAYA eSVETLAYA
    eTRESVETLAYA cDOUBLE_ZAPYATAYA cREVERSED_CHELYUSTKA cDERBITSA cKHAMILO cCHASHKA cPODCHASHIE
    cSKAMEYTSA_MRACHNAYA dSVETLAYA dTRESVETLAYA dTIKHAYA cDEMESTVENNY_KLYUCH
    cSKAMEYTSA_KLYUCHEVAYA_SVETLAYA dKLYUCHENEPOSTOYANNAYA dKLYUCHEVAYA_TIKHAYA
    dDVOECHELNAYA_PROSTAYA eSVETLAYA eNEPOSTOYANNAYA eKLYUCHEVAYA cSLOZHITIE cSLOZHITIE_S_ZAPYATOY
    dZAKRYTOE dS_KRYZHEM cKRYZH cROG cFITA cKOBYLA cZMEYTSA cSTATYA cSTATYA_S_ZAPYATOY eKRYZHEM
    ebZAPYATOY_I_ eKRYZHEM_I_ZAPYATOY dZAKRYTAYA dZAKRYTAYA_S_ZAPYATOY dS_ROGOM eDVUMYA_ZAPYATYMI
    eZAPYATOY_I_PODCHASHIEM cPOLKULIZMY cSTATYA_NEPOSTOYANNAYA cSTRELA_PROSTAYA dMRACHNOTIKHAYA
    dKRYZHEVAYA dPOLUPOVODNAYA dPOVODNAYA dNEPOSTOYANNAYA dKLYUCHEPOVODNAYA dKLYUCHENEPOSTOYANNAYA
    dTIKHAYA_PUTNAYA dDVOECHELNAYA dDVOECHELNOKRYZHEVAYA dDVOECHELNOPOVODNAYA
    dDVOECHELNAYA_KLYUCHEVAYA dbDVOECHELNOPOVODNAYA_ dGROMNAYA_WITH_SINGLE_ZAPYATAYA
    ddGROMOPOVODNAYA_ dGROMNAYA dGROMOPOVODNAYA dGROMOPOVODNAYA_WITH_DOUBLE_ZAPYATAYA
    dGROMOKRYZHEVAYA dGROMOKRYZHEVAYA_POVODNAYA cMECHIK cMECHIK_POVODNY dKLYUCHEVOY dKLYUCHEPOVODNY
    dKLYUCHENEPOSTOYANNY cSTRELA_TRYASOGLASNAYA dTRYASOPOVODNAYA dTRYASOSTRELNAYA cOSOKA
    cOSOKA_SVETLAYA dTRESVETLAYA dKRYUKOVAYA_SVETLAYA dbKLYUCHEVAYA_ eNEPOSTOYANNAYA
    cSTRELA_KRYUKOVAYA dKRYUKOVAYA_POVODNAYA eGROMNAYA_WITH_SINGLE_ZAPYATAYA edGROMOPOVODNAYA_
    eGROMNAYA eGROMOPOVODNAYA eGROMOPOVODNAYA_WITH_DOUBLE_ZAPYATAYA eGROMOKRYZHEVAYA
    eGROMOKRYZHEVAYA_POVODNAYA eTRYASKA cKUFISMA cOBLAKO cDUDA cNEMKA cPAUK
    1D000=BYZANTINE_MUSICAL_SYMBOL_PSILI dDASEIA dPERISPOMENI dOXEIA_EKFONITIKON eDIPLI
    dVAREIA_EKFONITIKON eDIPLI dKATHISTI dSYRMATIKI dPARAKLITIKI dYPOKRISIS dYPOKRISIS_DIPLI
    dKREMASTI dAPESO_EKFONITIKON dbEXO_ dTELEIA dKENTIMATA dAPOSTROFOS dAPOSTROFOS_DIPLI dSYNEVMA
    dTHITA dOLIGON_ARCHAION dbGORGON_ dPSILON dCHAMILON dVATHY dISON_ARCHAION dbKENTIMA_
    dbKENTIMATA_ dSAXIMATA dPARICHON dSTAVROS_APODEXIA dOXEIAI_ARCHAION dbVAREIAI_ dbAPODERMA_
    dAPOTHEMA dKLASMA dREVMA dPIASMA_ARCHAION dTINAGMA dANATRICHISMA dSEISMA dSYNAGMA_ARCHAION
    eMETA_STAVROU dOYRANISMA_ARCHAION dTHEMA dLEMOI dDYO dTRIA dTESSERA dKRATIMATA dAPESO_EXO_NEO
    dFTHORA_ARCHAION dIMIFTHORA dTROMIKON_ARCHAION dKATAVA_TROMIKON dPELASTON dPSIFISTON dKONTEVMA
    dCHOREVMA_ARCHAION dRAPISMA dPARAKALESMA_ARCHAION dbPARAKLITIKI_ dICHADIN dNANA dPETASMA
    dKONTEVMA_ALLO dbTROMIKON_ dSTRAGGISMATA dGRONTHISMATA dISON_NEO dbOLIGON_ dbOXEIA_ dPETASTI
    dKOUFISMA dPETASTOKOUFISMA dKRATIMOKOUFISMA dPELASTON_NEO dKENTIMATA_NEO_ANO dcKENTIMA_ dYPSILI
    dAPOSTROFOS_NEO dbAPOSTROFOI_SYNDESMOS_ dYPORROI dKRATIMOYPORROON dELAFRON dCHAMILI dMIKRON_ISON
    dVAREIA_NEO dbPIASMA_ dbPSIFISTON_ dOMALON dANTIKENOMA dLYGISMA dPARAKLITIKI_NEO dbPARAKALESMA_
    dETERON_PARAKALESMA dKYLISMA dANTIKENOKYLISMA dTROMIKON_NEO dEKSTREPTON dSYNAGMA_NEO dSYRMA
    dCHOREVMA_NEO dEPEGERMA dSEISMA_NEO dXIRON_KLASMA dTROMIKOPSIFISTON dPSIFISTOLYGISMA
    dTROMIKOLYGISMA dTROMIKOPARAKALESMA dPSIFISTOPARAKALESMA dTROMIKOSYNAGMA dPSIFISTOSYNAGMA
    dGORGOSYNTHETON dARGOSYNTHETON dbETERON_ dOYRANISMA_NEO dTHEMATISMOS_ESO eEXO dTHEMA_APLOUN
    dTHES_KAI_APOTHES dKATAVASMA dENDOFONON dYFEN_KATO eANO dSTAVROS dKLASMA_ANO dDIPLI_ARCHAION
    dbKRATIMA_ eALLO eNEO dbAPODERMA_ dAPLI dDIPLI dTRIPLI dTETRAPLI dKORONIS dLEIMMA_ENOS_CHRONOU
    eDYO_CHRONON ebTRION_ ebTESSARON_ eIMISEOS_CHRONOU dGORGON_NEO_ANO ePARESTIGMENON_ARISTERA
    fDEXIA dDIGORGON dDIGORGON_PARESTIGMENON_ARISTERA_KATO gANO fDEXIA dTRIGORGON dARGON dIMIDIARGON
    dDIARGON dAGOGI_POLI_ARGI eARGOTERI eARGI eMETRIA eMESI eGORGI eGORGOTERI ePOLI_GORGI
    dMARTYRIA_PROTOS_ICHOS ecALLI_ ebDEYTEROS_ ecALLI_ ebTRITOS_ eTRIFONIAS eTETARTOS_ICHOS
    fbLEGETOS_ ec ebPLAGIOS_ dISAKIA_TELOUS_ICHIMATOS dcAPOSTROFOI_ dFANEROSIS_TETRAFONIAS
    eMONOFONIAS eDIFONIAS dMARTYRIA_VARYS_ICHOS ebPROTOVARYS_ ebPLAGIOS_TETARTOS_
    dGORTHMIKON_N_APLOUN fDIPLOUN dENARXIS_KAI_FTHORA_VOU dIMIFONON dIMIFTHORON
    dFTHORA_ARCHAION_DEYTEROU_ICHOU eDIATONIKI_PA fNANA eNAOS_ICHOS eDIATONIKI_DI
    ebSKLIRON_DIATONON_ eDIATONIKI_KE fZO fNI_KATO gANO eMALAKON_CHROMA_DIFONIAS gMONOFONIAS
    dFHTORA_SKLIRON_CHROMA_VASIS dFTHORA_SKLIRON_CHROMA_SYNAFI eNENANO dCHROA_ZYGOS eKLITON eSPATHI
    dFTHORA_I_YFESIS_TETARTIMORION eENARMONIOS_ANTIFONIA dYFESIS_TRITIMORION dbDIESIS_
    eTETARTIMORION eAPLI_DYO_DODEKATA ebMONOGRAMMOS_TESSERA_ ebDIGRAMMOS_EX_ ebTRIGRAMMOS_OKTO_
    dbYFESIS_APLI_DYO_ ebMONOGRAMMOS_TESSERA_ ebDIGRAMMOS_EX_ ebTRIGRAMMOS_OKTO_ dGENIKI_DIESIS
    eYFESIS dDIASTOLI_APLI_MIKRI fMEGALI eDIPLI eTHESEOS dbSIMANSIS_ eTHESEOS_DISIMOU fTRISIMOU
    fTETRASIMOU eARSEOS eARSEOS_DISIMOU fTRISIMOU fTETRASIMOU dDIGRAMMA_GG dDIFTOGGOS_OU dSTIGMA
    dARKTIKO_PA eVOU eGA eDI eKE eZO eNI dKENTIMATA_NEO_MESO dcKENTIMA_ dKENTIMATA_NEO_KATO
    dcKENTIMA_ dbKLASMA_ dbGORGON_NEO_ 1D100=MUSICAL_SYMBOL_SINGLE_BARLINE cbDOUBLE_ cbFINAL_
    ccREVERSE_ cbDASHED_ cbSHORT_ cLEFT_REPEAT_SIGN ccRIGHT_ cREPEAT_DOTS cDAL_SEGNO cDA_CAPO cSEGNO
    cCODA cREPEATED_FIGURE-1 e2 e3 cFERMATA cFERMATA_BELOW cBREATH_MARK cCAESURA cBRACE cBRACKET
    cONE-LINE_STAFF ccTWO- ccTHREE- ccFOUR- ccFIVE- ccSIX- dSTRING_FRETBOARD ccFOUR- cG_CLEF
    dCLEF_OTTAVA_ALTA fBASSA cC_CLEF cbF_ dCLEF_OTTAVA_ALTA fBASSA cDRUM_CLEF-1 e2
    1D129=cMULTIPLE_MEASURE_REST cDOUBLE_SHARP dFLAT cFLAT_UP dDOWN cNATURAL_UP dDOWN cSHARP_UP
    dDOWN cQUARTER_TONE_SHARP eFLAT cCOMMON_TIME cbCUT_ cOTTAVA_ALTA dBASSA cQUINDICESIMA_ALTA
    dBASSA cMULTI_REST cbWHOLE_ cbHALF_ cbQUARTER_ cbEIGHTH_ cbSIXTEENTH_ cbTHIRTY-SECOND_
    cbSIXTY-FOURTH_ cbONE_HUNDRED_TWENTY-EIGHTH_ cX_NOTEHEAD cbPLUS_ cbCIRCLE_X_
    cSQUARE_NOTEHEAD_WHITE eBLACK cTRIANGLE_NOTEHEAD_UP_WHITE fBLACK eLEFT_WHITE fBLACK eRIGHT_WHITE
    fBLACK eDOWN_WHITE fBLACK eUP_RIGHT_WHITE gBLACK cMOON_NOTEHEAD_WHITE eBLACK
    cTRIANGLE-ROUND_NOTEHEAD_DOWN_WHITE gBLACK cPARENTHESIS_NOTEHEAD cbVOID_ cNOTEHEAD_BLACK
    cNULL_NOTEHEAD cCLUSTER_NOTEHEAD_WHITE eBLACK cBREVE cWHOLE_NOTE cbHALF_ cbQUARTER_ cbEIGHTH_
    cbSIXTEENTH_ cbTHIRTY-SECOND_ cbSIXTY-FOURTH_ cbONE_HUNDRED_TWENTY-EIGHTH_ cCOMBINING_STEM
    dbSPRECHGESANG_ dTREMOLO-1 e2 e3 cFINGERED_TREMOLO-1 e2 e3 cCOMBINING_AUGMENTATION_DOT dFLAG-1
    e2 e3 e4 e5 cBEGIN_BEAM cbEND_ cBEGIN_TIE cbEND_ cBEGIN_SLUR cbEND_ cBEGIN_PHRASE cbEND_
    cCOMBINING_ACCENT dSTACCATO dTENUTO dSTACCATISSIMO dMARCATO dMARCATO-STACCATO dbACCENT- dLOURE
    cARPEGGIATO_UP dDOWN cCOMBINING_DOIT dRIP dFLIP dSMEAR dBEND dDOUBLE_TONGUE dbTRIPLE_
    cRINFORZANDO cSUBITO cZ cPIANO cMEZZO cFORTE cCRESCENDO cDECRESCENDO cGRACE_NOTE_SLASH ebNO_ cTR
    cTURN cbINVERTED_ cTURN_SLASH dUP cORNAMENT_STROKE-1 e2 e3 e4 e5 e6 e7 e8 e9 e10 e11
    cHAUPTSTIMME cNEBENSTIMME cEND_OF_STIMME cDEGREE_SLASH cCOMBINING_DOWN_BOW dbUP_ dHARMONIC
    dSNAP_PIZZICATO cPEDAL_MARK dbUP_ cbHALF_PEDAL_ cGLISSANDO_UP dDOWN cWITH_FINGERNAILS cDAMP
    cDAMP_ALL cMAXIMA cLONGA cBREVIS cSEMIBREVIS_WHITE dBLACK cMINIMA cMINIMA_BLACK
    cSEMIMINIMA_WHITE dBLACK cFUSA_WHITE dBLACK cLONGA_PERFECTA_REST dbIMPERFECTA_ cbBREVIS_
    cbSEMIBREVIS_ cbMINIMA_ cbSEMIMINIMA_ cTEMPUS_PERFECTUM_CUM_PROLATIONE_PERFECTA gIMPERFECTA
    gPERFECTA_DIMINUTION-1 dIMPERFECTUM_CUM_PROLATIONE_PERFECTA gIMPERFECTA gIMPERFECTA_DIMINUTION-1
    i2 i3 cCROIX cGREGORIAN_C_CLEF dbF_ cSQUARE_B cVIRGA cPODATUS cCLIVIS cSCANDICUS cCLIMACUS
    cTORCULUS cPORRECTUS cPORRECTUS_FLEXUS cbSCANDICUS_ cTORCULUS_RESUPINUS cPES_SUBPUNCTIS
    cKIEVAN_C_CLEF dEND_OF_PIECE dFINAL_NOTE dRECITATIVE_MARK dWHOLE_NOTE dbHALF_
    dQUARTER_NOTE_STEM_DOWN gUP dEIGHTH_NOTE_STEM_DOWN gUP dFLAT_SIGN cSORI cKORON
    1D200=GREEK_VOCAL_NOTATION_SYMBOL-1 e2 e3 e4 e5 e6 e7 e8 e9 e10 e11 e12 e13 e14 e15 e16 e17 e18
    e19 e20 e21 e22 e23 e24 e50 e51 e52 e53 e54 bINSTRUMENTAL_NOTATION_SYMBOL-1 e2 e4 e5 e7 e8 e11
    e12 e13 e14 e17 e18 e19 e23 e24 e25 e26 e27 e29 e30 e32 e36 e37 e38 e39 e40 e42 e43 e45 e47 e48
    e49 e50 e51 e52 e53 e54 COMBINING_GREEK_MUSICAL_TRISEME dTETRASEME dPENTASEME
    GREEK_MUSICAL_LEIMMA 1D2E0=MAYAN_NUMERAL_ZERO cONE cTWO cTHREE cFOUR cFIVE cSIX cSEVEN cEIGHT
    cNINE cTEN cELEVEN cTWELVE cTHIRTEEN cFOURTEEN cFIFTEEN cSIXTEEN cSEVENTEEN cEIGHTEEN cNINETEEN
    1D300=MONOGRAM_FOR_EARTH abDIGRAM_FOR_HEAVENLY_ cbHUMAN_ cEARTHLY_HEAVEN dHUMAN cEARTH
    TETRAGRAM_FOR_CENTRE cFULL_CIRCLE cMIRED cBARRIER cKEEPING_SMALL cCONTRARIETY cASCENT
    cOPPOSITION cBRANCHING_OUT cDEFECTIVENESS_OR_DISTORTION cDIVERGENCE cYOUTHFULNESS cINCREASE
    cPENETRATION cREACH cCONTACT cHOLDING_BACK cWAITING cFOLLOWING cADVANCE cRELEASE cRESISTANCE
    cEASE cJOY cCONTENTION cENDEAVOUR cDUTIES cCHANGE cDECISIVENESS cBOLD_RESOLUTION cPACKING
    cLEGION cCLOSENESS cKINSHIP cGATHERING cSTRENGTH cPURITY cFULLNESS cRESIDENCE cLAW_OR_MODEL
    cRESPONSE cGOING_TO_MEET cENCOUNTERS cSTOVE cGREATNESS cENLARGEMENT cPATTERN cRITUAL cFLIGHT
    cVASTNESS_OR_WASTING cCONSTANCY cMEASURE cETERNITY cUNITY cDIMINISHMENT cCLOSED_MOUTH
    cGUARDEDNESS cGATHERING_IN cMASSING cACCUMULATION cEMBELLISHMENT cDOUBT cWATCH cSINKING cINNER
    cDEPARTURE cDARKENING cDIMMING cEXHAUSTION cSEVERANCE cSTOPPAGE cHARDNESS cCOMPLETION cCLOSURE
    cFAILURE cAGGRAVATION cCOMPLIANCE cON_THE_VERGE cDIFFICULTIES cLABOURING cFOSTERING
    1D360=COUNTING_ROD_UNIT_DIGIT_ONE eTWO eTHREE eFOUR eFIVE eSIX eSEVEN eEIGHT eNINE
    cTENS_DIGIT_ONE eTWO eTHREE eFOUR eFIVE eSIX eSEVEN eEIGHT eNINE IDEOGRAPHIC_TALLY_MARK_ONE dTWO
    dTHREE dFOUR dFIVE TALLY_MARK_ONE cFIVE 1D400=MATHEMATICAL_BOLD_CAPITAL_A dB dC dD dE dF dG dH
    dI dJ dK dL dM dN dO dP dQ dR dS dT dU dV dW dX dY dZ cSMALL_A dB dC dD dE dF dG dH dI dJ dK dL
    dM dN dO dP dQ dR dS dT dU dV dW dX dY dZ bITALIC_CAPITAL_A dB dC dD dE dF dG dH dI dJ dK dL dM
    dN dO dP dQ dR dS dT dU dV dW dX dY dZ cSMALL_A dB dC dD dE dF dG 1D456=dI dJ dK dL dM dN dO dP
    dQ dR dS dT dU dV dW dX dY dZ bBOLD_ITALIC_CAPITAL_A eB eC eD eE eF eG eH eI eJ eK eL eM eN eO
    eP eQ eR eS eT eU eV eW eX eY eZ dSMALL_A eB eC eD eE eF eG eH eI eJ eK eL eM eN eO eP eQ eR eS
    eT eU eV eW eX eY eZ bSCRIPT_CAPITAL_A 1D49E=dC dD 1D4A2=dG 1D4A5=dJ dK 1D4A9=dN dO dP dQ
    1D4AE=dS dT dU dV dW dX dY dZ cSMALL_A dB dC dD 1D4BB=dF 1D4BD=dH dI dJ dK dL dM dN 1D4C5=dP dQ
    dR dS dT dU dV dW dX dY dZ bBOLD_SCRIPT_CAPITAL_A eB eC eD eE eF eG eH eI eJ eK eL eM eN eO eP
    eQ eR eS eT eU eV eW eX eY eZ dSMALL_A eB eC eD eE eF eG eH eI eJ eK eL eM eN eO eP eQ eR eS eT
    eU eV eW eX eY eZ bFRAKTUR_CAPITAL_A dB 1D507=dD dE dF dG 1D50D=dJ dK dL dM dN dO dP dQ 1D516=dS
    dT dU dV dW dX dY 1D51E=cSMALL_A dB dC dD dE dF dG dH dI dJ dK dL dM dN dO dP dQ dR dS dT dU dV
    dW dX dY dZ bDOUBLE-STRUCK_CAPITAL_A eB 1D53B=eD eE eF eG 1D540=eI eJ eK eL eM 1D546=eO 1D54A=eS
    eT eU eV eW eX eY 1D552=dSMALL_A eB eC eD eE eF eG eH eI eJ eK eL eM eN eO eP eQ eR eS eT eU eV
    eW eX eY eZ bBOLD_FRAKTUR_CAPITAL_A eB eC eD eE eF eG eH eI eJ eK eL eM eN eO eP eQ eR eS eT eU
    eV eW eX eY eZ dSMALL_A eB eC eD eE eF eG eH eI eJ eK eL eM eN eO eP eQ eR eS eT eU eV eW eX eY
    eZ bSANS-SERIF_CAPITAL_A eB eC eD eE eF eG eH eI eJ eK eL eM eN eO eP eQ eR eS eT eU eV eW eX eY
    eZ dSMALL_A eB eC eD eE eF eG eH eI eJ eK eL eM eN eO eP eQ eR eS eT eU eV eW eX eY eZ
    dBOLD_CAPITAL_A fB fC fD fE fF fG fH fI fJ fK fL fM fN fO fP fQ fR fS fT fU fV fW fX fY fZ
    eSMALL_A fB fC fD fE fF fG fH fI fJ fK fL fM fN fO fP fQ fR fS fT fU fV fW fX fY fZ
    dITALIC_CAPITAL_A fB fC fD fE fF fG fH fI fJ fK fL fM fN fO fP fQ fR fS fT fU fV fW fX fY fZ
    eSMALL_A fB fC fD fE fF fG fH fI fJ fK fL fM fN fO fP fQ fR fS fT fU fV fW fX fY fZ
    dBOLD_ITALIC_CAPITAL_A gB gC gD gE gF gG gH gI gJ gK gL gM gN gO gP gQ gR gS gT gU gV gW gX gY
    gZ fSMALL_A gB gC gD gE gF gG gH gI gJ gK gL gM gN gO gP gQ gR gS gT gU gV gW gX gY gZ
    bMONOSPACE_CAPITAL_A dB dC dD dE dF dG dH dI dJ dK dL dM dN dO dP dQ dR dS dT dU dV dW dX dY dZ
    cSMALL_A dB dC dD dE dF dG dH dI dJ dK dL dM dN dO dP dQ dR dS dT dU dV dW dX dY dZ
    bITALIC_SMALL_DOTLESS_I eJ 1D6A8=bBOLD_CAPITAL_ALPHA dBETA dGAMMA dDELTA dEPSILON dZETA dETA
    dTHETA dIOTA dKAPPA dLAMDA dMU dNU dXI dOMICRON dPI dRHO dTHETA_SYMBOL dSIGMA dTAU dUPSILON dPHI
    dCHI dPSI dOMEGA cNABLA cSMALL_ALPHA dBETA dGAMMA dDELTA dEPSILON dZETA dETA dTHETA dIOTA dKAPPA
    dLAMDA dMU dNU dXI dOMICRON dPI dRHO dFINAL_SIGMA db dTAU dUPSILON dPHI dCHI dPSI dOMEGA
    cPARTIAL_DIFFERENTIAL cEPSILON_SYMBOL cbTHETA_ cbKAPPA_ cbPHI_ cbRHO_ cbPI_
    bITALIC_CAPITAL_ALPHA dBETA dGAMMA dDELTA dEPSILON dZETA dETA dTHETA dIOTA dKAPPA dLAMDA dMU dNU
    dXI dOMICRON dPI dRHO dTHETA_SYMBOL dSIGMA dTAU dUPSILON dPHI dCHI dPSI dOMEGA cNABLA
    cSMALL_ALPHA dBETA dGAMMA dDELTA dEPSILON dZETA dETA dTHETA dIOTA dKAPPA dLAMDA dMU dNU dXI
    dOMICRON dPI dRHO dFINAL_SIGMA db dTAU dUPSILON dPHI dCHI dPSI dOMEGA cPARTIAL_DIFFERENTIAL
    cEPSILON_SYMBOL cbTHETA_ cbKAPPA_ cbPHI_ cbRHO_ cbPI_ bBOLD_ITALIC_CAPITAL_ALPHA eBETA eGAMMA
    eDELTA eEPSILON eZETA eETA eTHETA eIOTA eKAPPA eLAMDA eMU eNU eXI eOMICRON ePI eRHO
    eTHETA_SYMBOL eSIGMA eTAU eUPSILON ePHI eCHI ePSI eOMEGA dNABLA dSMALL_ALPHA eBETA eGAMMA eDELTA
    eEPSILON eZETA eETA eTHETA eIOTA eKAPPA eLAMDA eMU eNU eXI eOMICRON ePI eRHO eFINAL_SIGMA eb
    eTAU eUPSILON ePHI eCHI ePSI eOMEGA dPARTIAL_DIFFERENTIAL dEPSILON_SYMBOL dbTHETA_ dbKAPPA_
    dbPHI_ dbRHO_ dbPI_ bSANS-SERIF_BOLD_CAPITAL_ALPHA fBETA fGAMMA fDELTA fEPSILON fZETA fETA
    fTHETA fIOTA fKAPPA fLAMDA fMU fNU fXI fOMICRON fPI fRHO fTHETA_SYMBOL fSIGMA fTAU fUPSILON fPHI
    fCHI fPSI fOMEGA eNABLA eSMALL_ALPHA fBETA fGAMMA fDELTA fEPSILON fZETA fETA fTHETA fIOTA fKAPPA
    fLAMDA fMU fNU fXI fOMICRON fPI fRHO fFINAL_SIGMA fb fTAU fUPSILON fPHI fCHI fPSI fOMEGA
    ePARTIAL_DIFFERENTIAL eEPSILON_SYMBOL ebTHETA_ ebKAPPA_ ebPHI_ ebRHO_ ebPI_
    eITALIC_CAPITAL_ALPHA gBETA gGAMMA gDELTA gEPSILON gZETA gETA gTHETA gIOTA gKAPPA gLAMDA gMU gNU
    gXI gOMICRON gPI gRHO gTHETA_SYMBOL gSIGMA gTAU gUPSILON gPHI gCHI gPSI gOMEGA fNABLA
    fSMALL_ALPHA gBETA gGAMMA gDELTA gEPSILON gZETA gETA gTHETA gIOTA gKAPPA gLAMDA gMU gNU gXI
    gOMICRON gPI gRHO gFINAL_SIGMA gb gTAU gUPSILON gPHI gCHI gPSI gOMEGA fPARTIAL_DIFFERENTIAL
    fEPSILON_SYMBOL fbTHETA_ fbKAPPA_ fbPHI_ fbRHO_ fbPI_ bBOLD_CAPITAL_DIGAMMA cbSMALL_
    1D7CE=cDIGIT_ZERO dONE dTWO dTHREE dFOUR dFIVE dSIX dSEVEN dEIGHT dNINE
    bDOUBLE-STRUCK_DIGIT_ZERO eONE eTWO eTHREE eFOUR eFIVE eSIX eSEVEN eEIGHT eNINE
    bSANS-SERIF_DIGIT_ZERO eONE eTWO eTHREE eFOUR eFIVE eSIX eSEVEN eEIGHT eNINE dBOLD_DIGIT_ZERO
    fONE fTWO fTHREE fFOUR fFIVE fSIX fSEVEN fEIGHT fNINE bMONOSPACE_DIGIT_ZERO dONE dTWO dTHREE
    dFOUR dFIVE dSIX dSEVEN dEIGHT dNINE SIGNWRITING_HAND-FIST_INDEX cbCIRCLE_ cbCUP_ cbOVAL_
    cbHINGE_ cbANGLE_ cFIST_INDEX_BENT ccCIRCLE_ ccFIST_THUMB_UNDER_ dINDEX_RAISED_KNUCKLE eCUPPED
    eHINGED eHINGED_LOW cCIRCLE_INDEX_HINGE cFIST_INDEX_MIDDLE ccCIRCLE_ cFIST_INDEX_MIDDLE_BENT
    fRAISED_KNUCKLES fHINGED ecUP_ eHINGED_MIDDLE_UP eMIDDLE_CONJOINED fCONJOINED_INDEX_BENT
    gbMIDDLE_ gCUPPED gHINGED fCROSSED cdCIRCLE_ cFIST_MIDDLE_BENT_OVER_INDEX
    dINDEX_BENT_OVER_MIDDLE eMIDDLE_THUMB cdCIRCLE_ cFIST_INDEX_MIDDLE_STRAIGHT_THUMB_BENT
    fBENT_THUMB_STRAIGHT fTHUMB_BENT fHINGED_SPREAD_THUMB_SIDE ecUP_MIDDLE_HINGED_ iCONJOINED
    eHINGED_MIDDLE_UP_THUMB_SIDE eMIDDLE_UP_SPREAD_THUMB_FORWARD fTHUMB_CUPPED gCIRCLED gHOOKED
    gHINGED dTHUMB_BETWEEN_INDEX_MIDDLE_STRAIGHT dINDEX_MIDDLE_CONJOINED_THUMB_SIDE hSIDE_CONJOINED
    iBENT dMIDDLE_THUMB_HOOKED_INDEX_UP dbINDEX_THUMB_HOOKED_MIDDLE_
    eMIDDLE_CONJOINED_HINGED_THUMB_SIDE fcCROSSED_ fCONJOINED_THUMB_FORWARD gcCUPPED_
    dMIDDLE_THUMB_CUPPED_INDEX_UP dbINDEX_THUMB_CUPPED_MIDDLE_ dbMIDDLE_THUMB_CIRCLED_INDEX_ hHINGED
    dINDEX_THUMB_ANGLED_OUT_MIDDLE_UP gcIN_ fcCIRCLED_ eMIDDLE_THUMB_CONJOINED_HINGED gANGLED_OUT
    gANGLED dMIDDLE_THUMB_ANGLED_OUT_INDEX_UP iCROSSED gINDEX_UP dINDEX_THUMB_HOOKED_MIDDLE_HINGED
    cFLAT_FOUR_FINGERS eFINGERS_BENT fHINGED fCONJOINED fCONJOINED_SPLIT
    cCLAW_FOUR_FINGERS_CONJOINED cFIST_FOUR_FINGERS_CONJOINED_BENT cHINGE_FOUR_FINGERS_CONJOINED
    cFLAT_FIVE_FINGERS_SPREAD ddHEEL_ dFIVE_FINGERS_SPREAD_FOUR_BENT dfHEEL_ dbFIVE_FINGERS_SPREAD_
    deHEEL_ dFIVE_FINGERS_SPREAD_THUMB_FORWARD cCUP_FIVE_FINGERS_SPREAD fSPREAD_OPEN ceHINGE_
    cOVAL_FIVE_FINGERS_SPREAD cFLAT_FIVE_FINGERS_SPREAD_HINGED gHINGED_THUMB_SIDE hNO_THUMB cFLAT
    cFLAT_BETWEEN_PALM_FACINGS dHEEL dTHUMB_SIDE dcHEEL_ dTHUMB_BENT eFORWARD
    dSPLIT_INDEX_THUMB_SIDE eCENTRE eCENTRE_THUMB_SIDE gSIDE_BENT eLITTLE cCLAW cCLAW_THUMB_SIDE
    dNO_THUMB dTHUMB_FORWARD cHOOK_CURLICUE cHOOK cCUP_OPEN cCUP cCUP_OPEN_THUMB_SIDE dc
    dOPEN_NO_THUMB dc dOPEN_THUMB_FORWARD dc cCURLICUE_OPEN cCURLICUE cCIRCLE cOVAL cOVAL_THUMB_SIDE
    dNO_THUMB dTHUMB_FORWARD cHINGE_OPEN dOPEN_THUMB_FORWARD cHINGE cHINGE_SMALL dOPEN_THUMB_SIDE dc
    dOPEN_NO_THUMB dc dTHUMB_SIDE_TOUCHING_INDEX eBETWEEN_MIDDLE_RING cANGLE cFIST_INDEX_MIDDLE_RING
    cdCIRCLE_ cdHINGE_ cdANGLE_ cHINGE_LITTLE cFIST_INDEX_MIDDLE_RING_BENT gCONJOINED ceHINGE_
    cFIST_LITTLE_DOWN eDOWN_RIPPLE_STRAIGHT gCURVED fOTHERS_CIRCLED eUP dcTHUMB_UNDER_ ccCIRCLE_
    ccOVAL_ ccANGLE_ cFIST_LITTLE_RAISED_KNUCKLE eBENT eTOUCHES_THUMB eb ccHINGE_
    cbFIST_LITTLE_INDEX_ cdHINGE_ cANGLE_LITTLE_INDEX_THUMB_INDEX_THUMB_OUT hTHUMB
    cFIST_LITTLE_INDEX ccCIRCLE_ ccHINGE_ ccANGLE_ cFIST_INDEX_MIDDLE_LITTLE cdCIRCLE_ cdHINGE_
    dRING cANGLE_INDEX_MIDDLE_LITTLE cbFIST_INDEX_MIDDLE_CROSS_ ceCIRCLE_ cFIST_RING_DOWN
    cHINGE_RING_DOWN_INDEX_THUMB_HOOK_MIDDLE cANGLE_RING_DOWN_MIDDLE_THUMB_INDEX_CROSS cFIST_RING_UP
    eRAISED_KNUCKLE eLITTLE ccCIRCLE_ ccOVAL_ ccANGLE_ cFIST_RING_MIDDLE eMIDDLE_CONJOINED
    fRAISED_KNUCKLES eINDEX eTHUMB ccHOOK_ cFIST_INDEX_RING_LITTLE cdCIRCLE_
    cCURLICUE_INDEX_RING_LITTLE_ON cHOOK_INDEX_RING_LITTLE_OUT gIN gUNDER cCUP_INDEX_RING_LITTLE
    cdHINGE_ cANGLE_INDEX_RING_LITTLE_OUT fLITTLE cFIST_MIDDLE_DOWN cHINGE_MIDDLE cFIST_MIDDLE_UP
    ccCIRCLE_ cFIST_MIDDLE_RAISED_KNUCKLE eUP_THUMB_SIDE cHOOK_MIDDLE_THUMB
    cFIST_MIDDLE_THUMB_LITTLE eb ebRING_ cdCIRCLE_ cCURLICUE_MIDDLE_RING_LITTLE_ON
    cCUP_MIDDLE_RING_LITTLE cdHINGE_ cANGLE_MIDDLE_RING_LITTLE_OUT gIN fLITTLE
    cCIRCLE_MIDDLE_RING_LITTLE_BENT cCLAW_MIDDLE_RING_LITTLE_CONJOINED gCONJOINED_SIDE
    cHOOK_MIDDLE_RING_LITTLE_CONJOINED_OUT hIN gCONJOINED cHINGE_INDEX_HINGED cFIST_INDEX_THUMB_SIDE
    cdHINGE_ cFIST_INDEX_THUMB_SIDE_THUMB_DIAGONAL hCONJOINED hBENT gbINDEX_ gbBOTH_ gINDEX_HINGE
    fFORWARD_INDEX_STRAIGHT hBENT fHOOK fCURLICUE fCURVE_THUMB_INSIDE cfCLAW_
    cFIST_INDEX_THUMB_CURVE_THUMB_UNDER fCIRCLE cCUP_INDEX_THUMB eTHUMB_OPEN cdHINGE_ fLARGE eTHUMB
    eTHUMB_SMALL cANGLE_INDEX_THUMB_OUT fIN eTHUMB cbFIST_ dTHUMB_HEEL eSIDE_DIAGONAL fCONJOINED
    fBENT eFORWARD eBETWEEN_INDEX_MIDDLE fMIDDLE_RING fRING_LITTLE eUNDER_TWO_FINGERS ecOVER_
    ebUNDER_THREE_ fbFOUR_ eOVER_FOUR_RAISED_KNUCKLES cFIST cFIST_HEEL bTOUCH_SINGLE cMULTIPLE
    cBETWEEN bGRASP_SINGLE cMULTIPLE cBETWEEN bSTRIKE_SINGLE cMULTIPLE cBETWEEN bBRUSH_SINGLE
    cMULTIPLE cBETWEEN bRUB_SINGLE cMULTIPLE cBETWEEN bSURFACE_SYMBOLS cBETWEEN
    bSQUEEZE_LARGE_SINGLE cbSMALL_ cLARGE_MULTIPLE cbSMALL_ cSEQUENTIAL bFLICK_LARGE_SINGLE cbSMALL_
    cLARGE_MULTIPLE cbSMALL_ cSEQUENTIAL bSQUEEZE_FLICK_ALTERNATING bMOVEMENT-HINGE_UP_DOWN_LARGE
    fSMALL eSEQUENTIAL dbDOWN_ dUP_DOWN_ALTERNATING_LARGE gSMALL dSIDE_TO_SIDE_SCISSORS
    cWALLPLANE_FINGER_CONTACT ccFLOORPLANE_ cWALLPLANE_SINGLE_STRAIGHT_SMALL fMEDIUM fLARGE fLARGEST
    eWRIST_FLEX dDOUBLE_STRAIGHT eWRIST_FLEX eALTERNATING eALTERNATING_WRIST_FLEX dCROSS
    dTRIPLE_STRAIGHT_MOVEMENT eWRIST_FLEX eALTERNATING eALTERNATING_WRIST_FLEX dBEND_SMALL eMEDIUM
    eLARGE dCORNER_SMALL eMEDIUM eLARGE eROTATION dCHECK_SMALL eMEDIUM eLARGE dBOX_SMALL eMEDIUM
    eLARGE dZIGZAG_SMALL eMEDIUM eLARGE dPEAKS_SMALL eMEDIUM eLARGE
    bTRAVEL-WALLPLANE_ROTATION-WALLPLANE_SINGLE fDOUBLE fALTERNATING eFLOORPLANE_SINGLE fDOUBLE
    fALTERNATING dSHAKING dARM_SPIRAL_SINGLE fDOUBLE fTRIPLE bMOVEMENT-DIAGONAL_AWAY_SMALL eMEDIUM
    eLARGE eLARGEST dTOWARDS_SMALL eMEDIUM eLARGE eLARGEST dBETWEEN_AWAY_SMALL fMEDIUM fLARGE
    fLARGEST eTOWARDS_SMALL fMEDIUM fLARGE fLARGEST cFLOORPLANE_SINGLE_STRAIGHT_SMALL fMEDIUM fLARGE
    fLARGEST eWRIST_FLEX dDOUBLE_STRAIGHT eWRIST_FLEX eALTERNATING eALTERNATING_WRIST_FLEX dCROSS
    dTRIPLE_STRAIGHT_MOVEMENT eWRIST_FLEX eALTERNATING_MOVEMENT fWRIST_FLEX dBEND dCORNER_SMALL
    eMEDIUM eLARGE dCHECK dBOX_SMALL eMEDIUM eLARGE dZIGZAG_SMALL eMEDIUM eLARGE dPEAKS_SMALL
    eMEDIUM eLARGE bTRAVEL-FLOORPLANE_ROTATION-FLOORPLANE_SINGLE fDOUBLE fALTERNATING
    eWALLPLANE_SINGLE fDOUBLE fALTERNATING dSHAKING bMOVEMENT-WALLPLANE_CURVE_QUARTER_SMALL fMEDIUM
    fLARGE fLARGEST eHALF-CIRCLE_SMALL gMEDIUM gLARGE gLARGEST eTHREE-QUARTER_CIRCLE_SMALL hMEDIUM
    dHUMP_SMALL eMEDIUM eLARGE dLOOP_SMALL eMEDIUM eLARGE eSMALL_DOUBLE dWAVE_CURVE_DOUBLE_SMALL
    gMEDIUM gLARGE fTRIPLE_SMALL gMEDIUM gLARGE dCURVE_THEN_STRAIGHT dCURVED_CROSS_SMALL fMEDIUM
    bROTATION-WALLPLANE_SINGLE dDOUBLE dALTERNATE bMOVEMENT-WALLPLANE_SHAKING
    dCURVE_HITTING_FRONT_WALL ddHUMP_ ddLOOP_ ddWAVE_ bdROTATION-WALLPLANE_SINGLE_ ddDOUBLE_
    ddALTERNATING_ bMOVEMENT-WALLPLANE_CURVE_HITTING_CHEST dcHUMP_ dcLOOP_ dcWAVE_
    bcROTATION-WALLPLANE_SINGLE_ dcDOUBLE_ dcALTERNATING_
    bMOVEMENT-WALLPLANE_WAVE_DIAGONAL_PATH_SMALL gMEDIUM gLARGE
    cFLOORPLANE_CURVE_HITTING_CEILING_SMALL gLARGE dHUMP_HITTING_CEILING_SMALL_DOUBLE gbLARGE_
    gSMALL_TRIPLE gbLARGE_ dLOOP_HITTING_CEILING_SMALL_SINGLE gbLARGE_ gSMALL_DOUBLE gbLARGE_
    dWAVE_HITTING_CEILING_SMALL gLARGE bROTATION-FLOORPLANE_SINGLE_HITTING_CEILING dcDOUBLE_
    dcALTERNATING_ bMOVEMENT-FLOORPLANE_CURVE_HITTING_FLOOR_SMALL gLARGE
    dHUMP_HITTING_FLOOR_SMALL_DOUBLE gbLARGE_ gTRIPLE_SMALL_TRIPLE hbLARGE_
    dLOOP_HITTING_FLOOR_SMALL_SINGLE gbLARGE_ gSMALL_DOUBLE gbLARGE_ dWAVE_HITTING_FLOOR_SMALL
    gLARGE bROTATION-FLOORPLANE_SINGLE_HITTING_FLOOR dcDOUBLE_ dcALTERNATING_
    bMOVEMENT-FLOORPLANE_CURVE_SMALL eMEDIUM eLARGE eLARGEST eCOMBINED dHUMP_SMALL dbLOOP_
    dWAVE_SNAKE eSMALL eLARGE bROTATION-FLOORPLANE_SINGLE dDOUBLE dALTERNATING
    bMOVEMENT-FLOORPLANE_SHAKING_PARALLEL cWALLPLANE_ARM_CIRCLE_SMALL_SINGLE fbMEDIUM_ fSMALL_DOUBLE
    fbMEDIUM_ cFLOORPLANE_ARM_CIRCLE_HITTING_WALL_SMALL_SINGLE hbMEDIUM_ hbLARGE_ hSMALL_DOUBLE
    hbMEDIUM_ hbLARGE_ cWALLPLANE_WRIST_CIRCLE_FRONT_SINGLE gDOUBLE
    cFLOORPLANE_WRIST_CIRCLE_HITTING_WALL_SINGLE hDOUBLE cWALLPLANE_FINGER_CIRCLES_SINGLE fDOUBLE
    cFLOORPLANE_FINGER_CIRCLES_HITTING_WALL_SINGLE hDOUBLE bDYNAMIC_ARROWHEAD_SMALL dLARGE cFAST
    cSLOW cTENSE cRELAXED cSIMULTANEOUS cSIMULTANEOUS_ALTERNATING cEVERY_OTHER_TIME cGRADUAL bHEAD
    bHEAD_RIM cMOVEMENT-WALLPLANE_STRAIGHT eTILT dFLOORPLANE_STRAIGHT dWALLPLANE_CURVE dbFLOORPLANE_
    cMOVEMENT_CIRCLE bFACE_DIRECTION_POSITION_NOSE_FORWARD_TILTING fUP_OR_DOWN hDOWN_TILTING
    bEYEBROWS_STRAIGHT_UP dNEUTRAL dDOWN bbDREAMY_EYEBROWS_NEUTRAL_ dDOWN_NEUTRAL dbUP_ dNEUTRAL_UP
    bFOREHEAD_NEUTRAL cCONTACT cWRINKLED bEYES_OPEN cSQUEEZED cCLOSED bEYE_BLINK_SINGLE dMULTIPLE
    bEYES_HALF_OPEN cbWIDE_ cHALF_CLOSED cWIDENING_MOVEMENT bEYE_WINK bEYELASHES_UP cDOWN
    cFLUTTERING bEYEGAZE-WALLPLANE_STRAIGHT dSTRAIGHT_DOUBLE eALTERNATING cFLOORPLANE_STRAIGHT
    dSTRAIGHT_DOUBLE eALTERNATING cWALLPLANE_CURVED cbFLOORPLANE_ cWALLPLANE_CIRCLING bCHEEKS_PUFFED
    cNEUTRAL cSUCKED bTENSE_CHEEKS_HIGH dMIDDLE dLOW bEARS bNOSE_NEUTRAL cCONTACT cWRINKLES cWIGGLES
    bAIR_BLOWING_OUT cSUCKING_IN cBLOW_SMALL_ROTATIONS ccSUCK_ bBREATH_INHALE cEXHALE
    bMOUTH_CLOSED_NEUTRAL dFORWARD dCONTACT cSMILE cSMILE_WRINKLED dOPEN cFROWN cFROWN_WRINKLED
    dOPEN cOPEN_CIRCLE dFORWARD dWRINKLED dOVAL dOVAL_WRINKLED eYAWN dRECTANGLE dRECTANGLE_WRINKLED
    eYAWN cKISS cKISS_FORWARD dWRINKLED cTENSE cTENSE_FORWARD dSUCKED bLIPS_PRESSED_TOGETHER
    bLIP_LOWER_OVER_UPPER cUPPER_OVER_LOWER bMOUTH_CORNERS cWRINKLES_SINGLE dDOUBLE
    bTONGUE_STICKING_OUT_FAR cLICKING_LIPS cbTIP_BETWEEN_ dTOUCHING_INSIDE_MOUTH
    cINSIDE_MOUTH_RELAXED cMOVES_AGAINST_CHEEK cCENTRE_STICKING_OUT dINSIDE_MOUTH bTEETH
    bTEETH_MOVEMENT cON_TONGUE dTONGUE_MOVEMENT dLIPS dLIPS_MOVEMENT cBITE_LIPS
    bMOVEMENT-WALLPLANE_JAW cbFLOORPLANE_ bNECK bHAIR bEXCITEMENT bSHOULDER_HIP_SPINE dPOSITIONS
    bWALLPLANE_SHOULDER_HIP_MOVE bdFLOORPLANE_ bSHOULDER_TILTING_FROM_WAIST
    bTORSO-WALLPLANE_STRAIGHT_STRETCH dCURVED_BEND cFLOORPLANE_TWISTING
    bUPPER_BODY_TILTING_FROM_HIP_JOINTS bLIMB_COMBINATION cLENGTH-1 d2 d3 d4 d5 d6 d7 bFINGER
    bLOCATION-WALLPLANE_SPACE cbFLOORPLANE_ bLOCATION_HEIGHT cWIDTH cDEPTH cHEAD_NECK cTORSO
    cLIMBS_DIGITS bCOMMA bFULL_STOP bSEMICOLON bCOLON bPARENTHESIS 1DA9B=bFILL_MODIFIER-2 d3 d4 d5
    d6 1DAA1=bROTATION_MODIFIER-2 d3 d4 d5 d6 d7 d8 d9 d10 d11 d12 d13 d14 d15 d16
    1DF00=LATIN_SMALL_LETTER_FENG_DIGRAPH_WITH_TRILL dREVERSED_SCRIPT_G
    bbLETTER_SMALL_CAPITAL_TURNED_ bSMALL_LETTER_REVERSED_K bLETTER_SMALL_CAPITAL_L_WITH_BELT
    bSMALL_LETTER_LEZH_WITH_RETROFLEX_HOOK dTURNED_Y_WITH_BELT dREVERSED_ENG
    dTURNED_R_WITH_LONG_LEG_AND_RETROFLEX_HOOK ddT_WITH_HOOK_ bcLETTER_RETROFLEX_CLICK_WITH_
    bSMALL_LETTER_ESH_WITH_DOUBLE_BAR gBAR_AND_CURL dbTURNED_T_WITH_ bcLETTER_INVERTED_GLOTTAL_STOP_
    ccSTRETCHED_C_ cSMALL_CAPITAL_TURNED_K bSMALL_LETTER_L_WITH_FISHHOOK
    dDEZH_DIGRAPH_WITH_PALATAL_HOOK dcL_WITH_BELT_AND_ dcENG_WITH_ ddTURNED_R_
    dcR_WITH_FISHHOOK_AND_ dcTESH_DIGRAPH_WITH_ ddEZH_ dbDEZH_DIGRAPH_WITH_RETROFLEX_
    dcI_WITH_STROKE_AND_ dcO_WITH_ ddTESH_DIGRAPH_ ddC_ dS_WITH_CURL
    1E000=COMBINING_GLAGOLITIC_LETTER_AZU dBUKY dVEDE dGLAGOLI dDOBRO dYESTU dZHIVETE 1E008=dZEMLJA
    dIZHE dbINITIAL_ dI dDJERVI dKAKO dLJUDIJE dMYSLITE dNASHI dONU dPOKOJI dRITSI dSLOVO dTVRIDO
    dUKU dFRITU dHERU 1E01B=dSHTA dTSI dCHRIVI dSHA dYERU dYERI dYATI 1E023=dYU dSMALL_YUS 1E026=dYO
    dIOTATED_SMALL_YUS dbBIG_ dcIOTATED_ dFITA 1E100=NYIAKENG_PUACHUE_HMONG_LETTER_MA eTSA eNTA eTA
    eHA eNA eXA eNKA eCA eLA eSA eZA eNCA eNTSA eKA eDA eNYA eNRA eVA eNTXA eTXA eFA eRA eQA eYA
    eNQA ePA eXYA eNPA eDLA eNPLA eHAH eMLA ePLA eGA eRRA eA eAA eI eU eO eOO eE eEE eW
    1E130=dTONE-B eM eJ eV eS eG eD dSIGN_FOR_PERSON fTHING fLOCATION fANIMAL fINVERTEBRATE eXW_XW
    dSYLLABLE_LENGTHENER 1E140=dDIGIT_ZERO eONE eTWO eTHREE eFOUR eFIVE eSIX eSEVEN eEIGHT eNINE
    1E14E=dLOGOGRAM_NYAJ dCIRCLED_CA 1E290=TOTO_LETTER_PA cBA cTA cDA cKA cGA cMA cNA cNGA cSA cCHA
    cYA cWA cJA cHA cRA cLA cI cbBREATHY_ cIU cbBREATHY_ cU cE cbBREATHY_ cEO cbBREATHY_ cO cAE
    cbBREATHY_ cA bSIGN_RISING_TONE 1E2C0=WANCHO_LETTER_AA cA cBA cCA cDA cGA cYA cPHA cLA cNA cPA
    cTA cTHA cFA cSA cSHA cJA cZA cWA cVA cKA cO cAU cRA cMA cKHA cHA cE cI cNGA cU cLLHA cTSA cTRA
    cONG cAANG cANG cING cON cEN cAAN cNYA cUEN cYIH bTONE_TUP cTUPNI cKOI cKOINI bDIGIT_ZERO cONE
    cTWO cTHREE cFOUR cFIVE cSIX cSEVEN cEIGHT cNINE 1E2FF=bNGUN_SIGN 1E7E0=ETHIOPIC_SYLLABLE_HHYA
    cHHYU cHHYI cHHYAA cHHYEE cHHYE cHHYO 1E7E8=cGURAGE_HHWA cHHWI cHHWEE cHHWE 1E7ED=cGURAGE_MWI
    dMWEE 1E7F0=dQWI dQWEE dQWE dBWI dBWEE dKWI dKWEE dKWE dGWI dGWEE dGWE dFWI dFWEE dPWI dPWEE
    1E800=MENDE_KIKAKUI_SYLLABLE_M001_KI dM002_KA dM003_KU dM065_KEE dM095_KE dM076_KOO dM048_KO
    dM179_KUA dM004_WI dM005_WA dM006_WU dM126_WEE dM118_WE dM114_WOO dM045_WO dM194_WUI dM143_WEI
    dM061_WVI dM049_WVA dM139_WVE dM007_MIN dM008_MAN dM009_MUN dM059_MEN dM094_MON dM154_MUAN
    dM189_MUEN dM010_BI dM011_BA dM012_BU dM150_BEE dM097_BE dM103_BOO dM138_BO dM013_I dM014_A
    dM015_U dM163_EE dM100_E dM165_OO dM147_O dM137_EI dM131_IN dbM135_ dM195_AN dM178_EN dM019_SI
    dM020_SA dM021_SU dM162_SEE dM116_SE dM136_SOO dM079_SO dM196_SIA dM025_LI dM026_LA dM027_LU
    dM084_LEE dM073_LE dM054_LOO dM153_LO dM110_LONG_LE dM016_DI dM017_DA dM018_DU dM089_DEE
    dM180_DOO dM181_DO dM022_TI dM023_TA dM024_TU dM091_TEE dM055_TE dM104_TOO dM069_TO dM028_JI
    dM029_JA dM030_JU dM157_JEE dM113_JE dM160_JOO dM063_JO dbM175_LONG_ dM031_YI dM032_YA dM033_YU
    dM109_YEE dM080_YE dM141_YOO dM121_YO dM034_FI dM035_FA dM036_FU dM078_FEE dM075_FE dM133_FOO
    dM088_FO dM197_FUA dM101_FAN dM037_NIN dM038_NAN dM039_NUN dM117_NEN dM169_NON dM176_HI dM041_HA
    dM186_HU dM040_HEE dM096_HE dM042_HOO dM140_HO dM083_HEEI dM128_HOOU dM053_HIN dM130_HAN
    dM087_HUN dM052_HEN dM193_HON dM046_HUAN dM090_NGGI dM043_NGGA dM082_NGGU dM115_NGGEE dM146_NGGE
    dM156_NGGOO dM120_NGGO dM159_NGGAA dM127_NGGUA dM086_LONG_NGGE dM106_LONG_NGGOO dM183_LONG_NGGO
    dM155_GI dM111_GA dM168_GU dM190_GEE dM166_GUEI dM167_GUAN dM184_NGEN dM057_NGON dM177_NGUAN
    dM068_PI dM099_PA dM050_PU dM081_PEE dM051_PE dM102_POO dM066_PO dM145_MBI dM062_MBA dM122_MBU
    dM047_MBEE dbM188_ dM072_MBE dM172_MBOO dM174_MBO dM187_MBUU dM161_LONG_MBE dM105_LONG_MBOO
    dM142_LONG_MBO dM132_KPI dM092_KPA dM074_KPU dM044_KPEE dM108_KPE dM112_KPOO dM158_KPO dM124_GBI
    dM056_GBA dM148_GBU dM093_GBEE dM107_GBE dM071_GBOO dM070_GBO dM171_RA dM123_NDI dM129_NDA
    dM125_NDU dM191_NDEE dM119_NDE dM067_NDOO dM064_NDO dM152_NJA dM192_NJU dM149_NJEE dM134_NJOO
    dM182_VI dM185_VA dM151_VU dM173_VEE dM085_VE dM144_VOO dM077_VO dM164_NYIN dM058_NYAN
    dM170_NYUN dM098_NYEN dM060_NYON 1E8C7=cDIGIT_ONE dTWO dTHREE dFOUR dFIVE dSIX dSEVEN dEIGHT
    dNINE cCOMBINING_NUMBER_TEENS eTENS eHUNDREDS eTHOUSANDS ebTEN_ ebHUNDRED_ eMILLIONS
    1E900=ADLAM_CAPITAL_LETTER_ALIF dDAALI dLAAM dMIIM dBA dSINNYIIYHE dPE dBHE dRA dE dFA dI dO
    dDHA dYHE dWAW dNUN dKAF dYA dU dJIIM dCHI dHA dQAAF dGA dNYA dTU dNHA dVA dKHA dGBE dZAL dKPO
    dSHA bSMALL_LETTER_ALIF dDAALI dLAAM dMIIM dBA dSINNYIIYHE dPE dBHE dRA dE dFA dI dO dDHA dYHE
    dWAW dNUN dKAF dYA dU dJIIM dCHI dHA dQAAF dGA dNYA dTU dNHA dVA dKHA dGBE dZAL dKPO dSHA
    bALIF_LENGTHENER bbVOWEL_ bGEMINATION_MARK bHAMZA bCONSONANT_MODIFIER bcGEMINATE_ bNUKTA
    bNASALIZATION_MARK 1E950=bDIGIT_ZERO cONE cTWO cTHREE cFOUR cFIVE cSIX cSEVEN cEIGHT cNINE
    1E95E=bINITIAL_EXCLAMATION_MARK cbQUESTION_ 1EC71=INDIC_SIYAQ_NUMBER_ONE dTWO dTHREE dFOUR dFIVE
    dSIX dSEVEN dEIGHT dNINE dTEN dTWENTY dTHIRTY dFORTY dFIFTY dSIXTY dSEVENTY dEIGHTY dNINETY
    dONE_HUNDRED dbTWO_ dbTHREE_ dbFOUR_ dbFIVE_ dbSIX_ dbSEVEN_ dbEIGHT_ dbNINE_ dONE_THOUSAND
    dbTWO_ dbTHREE_ dbFOUR_ dbFIVE_ dbSIX_ dbSEVEN_ dbEIGHT_ dbNINE_ dbTEN_ dbTWENTY_ dbTHIRTY_
    dbFORTY_ dbFIFTY_ dbSIXTY_ dbSEVENTY_ dbEIGHTY_ dbNINETY_ dLAKH dLAKHAN cLAKH_MARK cNUMBER_KAROR
    dKARORAN dPREFIXED_ONE eTWO eTHREE eFOUR eFIVE eSIX eSEVEN eEIGHT eNINE cPLACEHOLDER
    cFRACTION_ONE_QUARTER eHALF dTHREE_QUARTERS cRUPEE_MARK cNUMBER_ALTERNATE_ONE eTWO eTEN_THOUSAND
    cALTERNATE_LAKH_MARK 1ED01=OTTOMAN_SIYAQ_NUMBER_ONE dTWO dTHREE dFOUR dFIVE dSIX dSEVEN dEIGHT
    dNINE dTEN dTWENTY dTHIRTY dFORTY dFIFTY dSIXTY dSEVENTY dEIGHTY dNINETY dONE_HUNDRED dbTWO_
    dbTHREE_ dbFOUR_ dbFIVE_ dbSIX_ dbSEVEN_ dbEIGHT_ dbNINE_ dONE_THOUSAND dbTWO_ dbTHREE_ dbFOUR_
    dbFIVE_ dbSIX_ dbSEVEN_ dbEIGHT_ dbNINE_ dbTEN_ dbTWENTY_ dbTHIRTY_ dbFORTY_ dbFIFTY_ dbSIXTY_
    dbSEVENTY_ dbEIGHTY_ dbNINETY_ cMARRATAN cALTERNATE_NUMBER_TWO eTHREE eFOUR eFIVE eSIX eSEVEN
    eEIGHT eNINE eTEN eFOUR_HUNDRED ebSIX_ eTWO_THOUSAND ebTEN_ cFRACTION_ONE_HALF eSIXTH
    1EE00=ARABIC_MATHEMATICAL_ALEF cBEH cJEEM cDAL 1EE05=cWAW cZAIN cHAH cTAH cYEH cKAF cLAM cMEEM
    cNOON cSEEN cAIN cFEH cSAD cQAF cREH cSHEEN cTEH cTHEH cKHAH cTHAL cDAD cZAH cGHAIN cDOTLESS_BEH
    dNOON dFEH dQAF 1EE21=cINITIAL_BEH dJEEM 1EE24=dHEH 1EE27=dHAH 1EE29=dYEH dKAF dLAM dMEEM dNOON
    dSEEN dAIN dFEH dSAD dQAF 1EE34=dSHEEN dTEH dTHEH dKHAH 1EE39=dDAD 1EE3B=dGHAIN
    1EE42=cTAILED_JEEM 1EE47=dHAH 1EE49=dYEH 1EE4B=dLAM 1EE4D=dNOON dSEEN dAIN 1EE51=dSAD dQAF
    1EE54=dSHEEN 1EE57=dKHAH 1EE59=dDAD 1EE5B=dGHAIN 1EE5D=dDOTLESS_NOON 1EE5F=eQAF
    1EE61=cSTRETCHED_BEH dJEEM 1EE64=dHEH 1EE67=dHAH dTAH dYEH dKAF 1EE6C=dMEEM dNOON dSEEN dAIN
    dFEH dSAD dQAF 1EE74=dSHEEN dTEH dTHEH dKHAH 1EE79=dDAD dZAH dGHAIN dDOTLESS_BEH 1EE7E=eFEH
    1EE80=cLOOPED_ALEF dBEH dJEEM dDAL dHEH dWAW dZAIN dHAH dTAH dYEH 1EE8B=dLAM dMEEM dNOON dSEEN
    dAIN dFEH dSAD dQAF dREH dSHEEN dTEH dTHEH dKHAH dTHAL dDAD dZAH dGHAIN 1EEA1=cDOUBLE-STRUCK_BEH
    eJEEM eDAL 1EEA5=eWAW eZAIN eHAH eTAH eYEH 1EEAB=eLAM eMEEM eNOON eSEEN eAIN eFEH eSAD eQAF eREH
    eSHEEN eTEH eTHEH eKHAH eTHAL eDAD eZAH eGHAIN 1EEF0=cOPERATOR_MEEM_WITH_HAH_WITH_TATWEEL
    dHAH_WITH_DAL 1F000=MAHJONG_TILE_EAST_WIND cbSOUTH_ cbWEST_ cbNORTH_ cRED_DRAGON cbGREEN_
    cbWHITE_ cONE_OF_CHARACTERS ccTWO_ ccTHREE_ ccFOUR_ ccFIVE_ ccSIX_ ccSEVEN_ ccEIGHT_ ccNINE_
    cONE_OF_BAMBOOS ccTWO_ ccTHREE_ ccFOUR_ ccFIVE_ ccSIX_ ccSEVEN_ ccEIGHT_ ccNINE_ cONE_OF_CIRCLES
    ccTWO_ ccTHREE_ ccFOUR_ ccFIVE_ ccSIX_ ccSEVEN_ ccEIGHT_ ccNINE_ cPLUM cORCHID cBAMBOO
    cCHRYSANTHEMUM cSPRING cSUMMER cAUTUMN cWINTER cJOKER cBACK 1F030=abDOMINO_TILE_HORIZONTAL_
    cHORIZONTAL-00-00 e01 e02 e03 e04 e05 e06 d01-00 e01 e02 e03 e04 e05 e06 d02-00 e01 e02 e03 e04
    e05 e06 d03-00 e01 e02 e03 e04 e05 e06 d04-00 e01 e02 e03 e04 e05 e06 d05-00 e01 e02 e03 e04 e05
    e06 d06-00 e01 e02 e03 e04 e05 e06 cVERTICAL_BACK cVERTICAL-00-00 e01 e02 e03 e04 e05 e06 d01-00
    e01 e02 e03 e04 e05 e06 d02-00 e01 e02 e03 e04 e05 e06 d03-00 e01 e02 e03 e04 e05 e06 d04-00 e01
    e02 e03 e04 e05 e06 d05-00 e01 e02 e03 e04 e05 e06 d06-00 e01 e02 e03 e04 e05 e06
    1F0A0=PLAYING_CARD_BACK cACE_OF_SPADES ccTWO_ ccTHREE_ ccFOUR_ ccFIVE_ ccSIX_ ccSEVEN_ ccEIGHT_
    ccNINE_ ccTEN_ ccJACK_ ccKNIGHT_ ccQUEEN_ ccKING_ 1F0B1=cACE_OF_HEARTS ccTWO_ ccTHREE_ ccFOUR_
    ccFIVE_ ccSIX_ ccSEVEN_ ccEIGHT_ ccNINE_ ccTEN_ ccJACK_ ccKNIGHT_ ccQUEEN_ ccKING_ cRED_JOKER
    1F0C1=cACE_OF_DIAMONDS ccTWO_ ccTHREE_ ccFOUR_ ccFIVE_ ccSIX_ ccSEVEN_ ccEIGHT_ ccNINE_ ccTEN_
    ccJACK_ ccKNIGHT_ ccQUEEN_ ccKING_ cBLACK_JOKER 1F0D1=cACE_OF_CLUBS ccTWO_ ccTHREE_ ccFOUR_
    ccFIVE_ ccSIX_ ccSEVEN_ ccEIGHT_ ccNINE_ ccTEN_ ccJACK_ ccKNIGHT_ ccQUEEN_ ccKING_ cWHITE_JOKER
    cFOOL cTRUMP-1 d2 d3 d4 d5 d6 d7 d8 d9 d10 d11 d12 d13 d14 d15 d16 d17 d18 d19 d20 d21
    1F100=DIGIT_ZERO_FULL_STOP cCOMMA bbONE_ bbTWO_ bbTHREE_ bbFOUR_ bbFIVE_ bbSIX_ bbSEVEN_
    bbEIGHT_ bbNINE_ DINGBAT_CIRCLED_SANS-SERIF_DIGIT_ZERO bfNEGATIVE_ CIRCLED_ZERO_WITH_SLASH
    bANTICLOCKWISE_ARROW bDOLLAR_SIGN_WITH_OVERLAID_BACKSLASH PARENTHESIZED_LATIN_CAPITAL_LETTER_A
    eB eC eD eE eF eG eH eI eJ eK eL eM eN eO eP eQ eR eS eT eU eV eW eX eY eZ
    TORTOISE_SHELL_BRACKETED_LATIN_CAPITAL_LETTER_S CIRCLED_ITALIC_LATIN_CAPITAL_LETTER_C fR bCD bWZ
    COPYLEFT_SYMBOL SQUARED_LATIN_CAPITAL_LETTER_A eB eC eD eE eF eG eH eI eJ eK eL eM eN eO eP eQ
    eR eS eT eU eV eW eX eY eZ bHV bMV bSD bSS bPPV bWC NEGATIVE_CIRCLED_LATIN_CAPITAL_LETTER_A fB
    fC fD fE fF fG fH fI fJ fK fL fM fN fO fP fQ fR fS fT fU fV fW fX fY fZ RAISED_MC_SIGN bbMD_
    bbMR_ CIRCLED_CC bC_WITH_OVERLAID_BACKSLASH bHUMAN_FIGURE
    NEGATIVE_SQUARED_LATIN_CAPITAL_LETTER_A fB fC fD fE fF fG fH fI fJ fK fL fM fN fO fP fQ fR fS fT
    fU fV fW fX fY fZ CROSSED_NEGATIVE_SQUARED_LATIN_CAPITAL_LETTER_P NEGATIVE_SQUARED_IC cPA cSA
    cAB cWC SQUARE_DJ SQUARED_CL bCOOL bFREE bID bNEW bNG bOK bSOS bUP_WITH_EXCLAMATION_MARK bVS
    bTHREE_D bSECOND_SCREEN bTWO_K bbFOUR_ bbEIGHT_ bFIVE_POINT_ONE bcSEVEN_ bTWENTY-TWO_POINT_TWO
    bSIXTY_P bbONE_HUNDRED_TWENTY_ bLATIN_SMALL_LETTER_D bHC bHDR bHI-RES bLOSSLESS bSHV bUHD bVOD
    MASK_WORK_SYMBOL 1F1E6=REGIONAL_INDICATOR_SYMBOL_LETTER_A eB eC eD eE eF eG eH eI eJ eK eL eM eN
    eO eP eQ eR eS eT eU eV eW eX eY eZ SQUARE_HIRAGANA_HOKA SQUARED_KATAKANA_KOKO cSA
    1F210=bCJK_UNIFIED_IDEOGRAPH-624B e5B57 e53CC bKATAKANA_DE bCJK_UNIFIED_IDEOGRAPH-4E8C e591A
    e89E3 e5929 e4EA4 e6620 e7121 e6599 e524D e5F8C e518D e65B0 e521D e7D42 e751F e8CA9 e58F0 e5439
    e6F14 e6295 e6355 e4E00 e4E09 e904A e5DE6 e4E2D e53F3 e6307 e8D70 e6253 e7981 e7A7A e5408 e6E80
    e6709 e6708 e7533 e5272 e55B6 e914D 1F240=TORTOISE_SHELL_BRACKETED_CJK_UNIFIED_IDEOGRAPH-672C
    g4E09 g4E8C g5B89 g70B9 g6253 g76D7 g52DD g6557 1F250=CIRCLED_IDEOGRAPH_ADVANTAGE cACCEPT
    1F260=ROUNDED_SYMBOL_FOR_FU dLU dSHOU dXI dSHUANGXI dCAI 1F300=CYCLONE FOGGY CLOSED_UMBRELLA
    NIGHT_WITH_STARS SUNRISE_OVER_MOUNTAINS SUNRISE CITYSCAPE_AT_DUSK SUNSET_OVER_BUILDINGS RAINBOW
    BRIDGE_AT_NIGHT WATER_WAVE VOLCANO MILKY_WAY EARTH_GLOBE_EUROPE-AFRICA cAMERICAS cASIA-AUSTRALIA
    GLOBE_WITH_MERIDIANS NEW_MOON_SYMBOL acWAXING_CRESCENT_ acFIRST_QUARTER_ acWAXING_GIBBOUS_
    acFULL_ acWANING_GIBBOUS_ acLAST_QUARTER_ acWANING_CRESCENT_ CRESCENT_MOON NEW_MOON_WITH_FACE
    adFIRST_QUARTER_ aeLAST_ adFULL_ acSUN_ GLOWING_STAR abSHOOTING_ THERMOMETER BLACK_DROPLET
    WHITE_SUN bSUN_WITH_SMALL_CLOUD cbBEHIND_ dCLOUD_WITH_RAIN ad cSNOW cLIGHTNING cTORNADO FOG
    WIND_BLOWING_FACE HOT_DOG TACO BURRITO CHESTNUT SEEDLING EVERGREEN_TREE abDECIDUOUS_ abPALM_
    CACTUS HOT_PEPPER TULIP CHERRY_BLOSSOM ROSE HIBISCUS SUNFLOWER BLOSSOM EAR_OF_MAIZE cRICE HERB
    FOUR_LEAF_CLOVER MAPLE_LEAF abFALLEN_ LEAF_FLUTTERING_IN_WIND MUSHROOM TOMATO AUBERGINE GRAPES
    MELON WATERMELON TANGERINE LEMON BANANA PINEAPPLE RED_APPLE abGREEN_ PEAR PEACH CHERRIES
    STRAWBERRY HAMBURGER SLICE_OF_PIZZA MEAT_ON_BONE POULTRY_LEG RICE_CRACKER bBALL COOKED_RICE
    abCURRY_AND_ STEAMING_BOWL SPAGHETTI BREAD FRENCH_FRIES ROASTED_SWEET_POTATO DANGO ODEN SUSHI
    FRIED_SHRIMP FISH_CAKE_WITH_SWIRL_DESIGN SOFT_ICE_CREAM SHAVED_ICE ICE_CREAM DOUGHNUT COOKIE
    CHOCOLATE_BAR CANDY LOLLIPOP CUSTARD HONEY_POT SHORTCAKE BENTO_BOX POT_OF_FOOD COOKING
    FORK_AND_KNIFE TEACUP_WITHOUT_HANDLE SAKE_BOTTLE_AND_CUP WINE_GLASS abCOCKTAIL_ TROPICAL_DRINK
    BEER_MUG CLINKING_BEER_MUGS BABY_BOTTLE FORK_AND_KNIFE_WITH_PLATE BOTTLE_WITH_POPPING_CORK
    POPCORN RIBBON WRAPPED_PRESENT BIRTHDAY_CAKE JACK-O-LANTERN CHRISTMAS_TREE FATHER_CHRISTMAS
    FIREWORKS FIREWORK_SPARKLER BALLOON PARTY_POPPER CONFETTI_BALL TANABATA_TREE CROSSED_FLAGS
    PINE_DECORATION JAPANESE_DOLLS CARP_STREAMER WIND_CHIME MOON_VIEWING_CEREMONY SCHOOL_SATCHEL
    GRADUATION_CAP HEART_WITH_TIP_ON_THE_LEFT BOUQUET_OF_FLOWERS MILITARY_MEDAL REMINDER_RIBBON
    MUSICAL_KEYBOARD_WITH_JACKS STUDIO_MICROPHONE LEVEL_SLIDER CONTROL_KNOBS
    BEAMED_ASCENDING_MUSICAL_NOTES bcDESCENDING_ FILM_FRAMES ADMISSION_TICKETS CAROUSEL_HORSE
    FERRIS_WHEEL ROLLER_COASTER FISHING_POLE_AND_FISH MICROPHONE MOVIE_CAMERA CINEMA HEADPHONE
    ARTIST_PALETTE TOP_HAT CIRCUS_TENT TICKET CLAPPER_BOARD PERFORMING_ARTS VIDEO_GAME DIRECT_HIT
    SLOT_MACHINE BILLIARDS GAME_DIE BOWLING FLOWER_PLAYING_CARDS MUSICAL_NOTE MULTIPLE_MUSICAL_NOTES
    SAXOPHONE GUITAR MUSICAL_KEYBOARD TRUMPET VIOLIN MUSICAL_SCORE RUNNING_SHIRT_WITH_SASH
    TENNIS_RACQUET_AND_BALL SKI_AND_SKI_BOOT BASKETBALL_AND_HOOP CHEQUERED_FLAG SNOWBOARDER RUNNER
    SURFER SPORTS_MEDAL TROPHY HORSE_RACING AMERICAN_FOOTBALL abRUGBY_ SWIMMER WEIGHT_LIFTER GOLFER
    RACING_MOTORCYCLE bCAR CRICKET_BAT_AND_BALL VOLLEYBALL FIELD_HOCKEY_STICK_AND_BALL
    ICE_HOCKEY_STICK_AND_PUCK TABLE_TENNIS_PADDLE_AND_BALL SNOW_CAPPED_MOUNTAIN CAMPING
    BEACH_WITH_UMBRELLA BUILDING_CONSTRUCTION HOUSE_BUILDINGS CITYSCAPE DERELICT_HOUSE_BUILDING
    abCLASSICAL_ DESERT DESERT_ISLAND NATIONAL_PARK STADIUM HOUSE_BUILDING bWITH_GARDEN
    OFFICE_BUILDING JAPANESE_POST_OFFICE acEUROPEAN_ HOSPITAL BANK AUTOMATED_TELLER_MACHINE HOTEL
    abLOVE_ CONVENIENCE_STORE SCHOOL DEPARTMENT_STORE FACTORY IZAKAYA_LANTERN JAPANESE_CASTLE
    abEUROPEAN_ WHITE_PENNANT abBLACK_ WAVING_WHITE_FLAG bbBLACK_ ROSETTE abBLACK_ LABEL
    BADMINTON_RACQUET_AND_SHUTTLECOCK BOW_AND_ARROW AMPHORA EMOJI_MODIFIER_FITZPATRICK_TYPE-1-2 e3
    e4 e5 e6 RAT MOUSE OX WATER_BUFFALO COW TIGER LEOPARD RABBIT CAT DRAGON CROCODILE WHALE SNAIL
    SNAKE HORSE RAM GOAT SHEEP MONKEY ROOSTER CHICKEN DOG PIG BOAR ELEPHANT OCTOPUS SPIRAL_SHELL BUG
    ANT HONEYBEE LADY_BEETLE FISH abTROPICAL_ BLOWFISH TURTLE HATCHING_CHICK abBABY_ acFRONT-FACING_
    BIRD PENGUIN KOALA POODLE DROMEDARY_CAMEL abBACTRIAN_ DOLPHIN MOUSE_FACE abCOW_ abTIGER_
    abRABBIT_ abCAT_ abDRAGON_ SPOUTING_WHALE HORSE_FACE abMONKEY_ abDOG_ abPIG_ abFROG_ abHAMSTER_
    abWOLF_ abBEAR_ abPANDA_ PIG_NOSE PAW_PRINTS CHIPMUNK EYES EYE EAR NOSE MOUTH TONGUE
    WHITE_UP_POINTING_BACKHAND_INDEX bdDOWN_ bdLEFT_ bdRIGHT_ FISTED_HAND_SIGN acWAVING_ acOK_
    abTHUMBS_UP_ bbDOWN_ abCLAPPING_HANDS_ acOPEN_ CROWN WOMANS_HAT EYEGLASSES NECKTIE T-SHIRT JEANS
    DRESS KIMONO BIKINI WOMANS_CLOTHES PURSE HANDBAG POUCH MANS_SHOE abATHLETIC_ abHIGH-HEELED_
    WOMANS_SANDAL bBOOTS FOOTPRINTS BUST_IN_SILHOUETTE acBUSTS_ BOY GIRL MAN WOMAN FAMILY
    MAN_AND_WOMAN_HOLDING_HANDS acTWO_MEN_ bcWOMEN_ POLICE_OFFICER WOMAN_WITH_BUNNY_EARS
    BRIDE_WITH_VEIL PERSON_WITH_BLOND_HAIR MAN_WITH_GUA_PI_MAO cTURBAN OLDER_MAN bWOMAN BABY
    CONSTRUCTION_WORKER PRINCESS JAPANESE_OGRE bGOBLIN GHOST BABY_ANGEL EXTRATERRESTRIAL_ALIEN
    ALIEN_MONSTER IMP SKULL INFORMATION_DESK_PERSON GUARDSMAN DANCER LIPSTICK NAIL_POLISH
    FACE_MASSAGE HAIRCUT BARBER_POLE SYRINGE PILL KISS_MARK LOVE_LETTER RING GEM_STONE KISS BOUQUET
    COUPLE_WITH_HEART WEDDING BEATING_HEART abBROKEN_ TWO_HEARTS SPARKLING_HEART abGROWING_
    HEART_WITH_ARROW BLUE_HEART abGREEN_ abYELLOW_ abPURPLE_ HEART_WITH_RIBBON REVOLVING_HEARTS
    HEART_DECORATION DIAMOND_SHAPE_WITH_A_DOT_INSIDE ELECTRIC_LIGHT_BULB ANGER_SYMBOL BOMB
    SLEEPING_SYMBOL abCOLLISION_ abSPLASHING_SWEAT_ DROPLET DASH_SYMBOL PILE_OF_POO FLEXED_BICEPS
    DIZZY_SYMBOL SPEECH_BALLOON abTHOUGHT_ WHITE_FLOWER HUNDRED_POINTS_SYMBOL MONEY_BAG
    CURRENCY_EXCHANGE HEAVY_DOLLAR_SIGN CREDIT_CARD BANKNOTE_WITH_YEN_SIGN cbDOLLAR_ cbEURO_
    cbPOUND_ MONEY_WITH_WINGS CHART_WITH_UPWARDS_TREND_AND_YEN_SIGN SEAT PERSONAL_COMPUTER BRIEFCASE
    MINIDISC FLOPPY_DISK OPTICAL_DISC DVD FILE_FOLDER acOPEN_ PAGE_WITH_CURL bFACING_UP CALENDAR
    abTEAR-OFF_ CARD_INDEX CHART_WITH_UPWARDS_TREND cbDOWNWARDS_ BAR_CHART CLIPBOARD PUSHPIN
    abROUND_ PAPERCLIP STRAIGHT_RULER abTRIANGULAR_ BOOKMARK_TABS LEDGER NOTEBOOK
    NOTEBOOK_WITH_DECORATIVE_COVER CLOSED_BOOK abOPEN_ abGREEN_ abBLUE_ abORANGE_ BOOKS NAME_BADGE
    SCROLL MEMO TELEPHONE_RECEIVER PAGER FAX_MACHINE SATELLITE_ANTENNA PUBLIC_ADDRESS_LOUDSPEAKER
    CHEERING_MEGAPHONE OUTBOX_TRAY abINBOX_ PACKAGE E-MAIL_SYMBOL INCOMING_ENVELOPE
    ENVELOPE_WITH_DOWNWARDS_ARROW_ABOVE CLOSED_MAILBOX_WITH_LOWERED_FLAG dbRAISED_ aeOPEN_
    dbLOWERED_ POSTBOX POSTAL_HORN NEWSPAPER MOBILE_PHONE bPHONE_WITH_RIGHTWARDS_ARROW_AT_LEFT
    VIBRATION_MODE MOBILE_PHONE_OFF NO_MOBILE_PHONES ANTENNA_WITH_BARS CAMERA CAMERA_WITH_FLASH
    VIDEO_CAMERA TELEVISION RADIO VIDEOCASSETTE FILM_PROJECTOR PORTABLE_STEREO PRAYER_BEADS
    TWISTED_RIGHTWARDS_ARROWS abCLOCKWISE_RIGHTWARDS_AND_LEFTWARDS_OPEN_CIRCLE_
    gARROWS_WITH_CIRCLED_ONE_OVERLAY bDOWNWARDS_AND_UPWARDS_OPEN_CIRCLE_ARROWS agANTICLOCKWISE_
    LOW_BRIGHTNESS_SYMBOL acHIGH_ SPEAKER_WITH_CANCELLATION_STROKE SPEAKER
    SPEAKER_WITH_ONE_SOUND_WAVE cTHREE_SOUND_WAVES BATTERY ELECTRIC_PLUG
    LEFT-POINTING_MAGNIFYING_GLASS adRIGHT- LOCK_WITH_INK_PEN CLOSED_LOCK_WITH_KEY ab LOCK abOPEN_
    BELL BELL_WITH_CANCELLATION_STROKE BOOKMARK LINK_SYMBOL RADIO_BUTTON
    BACK_WITH_LEFTWARDS_ARROW_ABOVE aeEND_ acON_WITH_EXCLAMATION_MARK_WITH_LEFT_RIGHT_
    acSOON_WITH_RIGHTWARDS_ acTOP_WITH_UPWARDS_ NO_ONE_UNDER_EIGHTEEN_SYMBOL KEYCAP_TEN
    INPUT_SYMBOL_FOR_LATIN_CAPITAL_LETTERS ebSMALL_ dNUMBERS dSYMBOLS dLATIN_LETTERS FIRE
    ELECTRIC_TORCH WRENCH HAMMER NUT_AND_BOLT HOCHO PISTOL MICROSCOPE TELESCOPE CRYSTAL_BALL
    SIX_POINTED_STAR_WITH_MIDDLE_DOT JAPANESE_SYMBOL_FOR_BEGINNER TRIDENT_EMBLEM BLACK_SQUARE_BUTTON
    acWHITE_ LARGE_RED_CIRCLE bbBLUE_ bORANGE_DIAMOND bbBLUE_ abSMALL_ORANGE_ bbBLUE_
    UP-POINTING_RED_TRIANGLE adDOWN- acUP-POINTING_SMALL_ aeDOWN- LOWER_RIGHT_SHADOWED_WHITE_CIRCLE
    aeUPPER_ CIRCLED_CROSS_POMMEE CROSS_POMMEE_WITH_HALF-CIRCLE_BELOW bPOMMEE
    NOTCHED_LEFT_SEMICIRCLE_WITH_THREE_DOTS beRIGHT_ SYMBOL_FOR_MARKS_CHAPTER WHITE_LATIN_CROSS
    acHEAVY_ abCELTIC_ OM_SYMBOL DOVE_OF_PEACE KAABA MOSQUE SYNAGOGUE MENORAH_WITH_NINE_BRANCHES
    BOWL_OF_HYGIEIA CLOCK_FACE_ONE_OCLOCK cbTWO_ cbTHREE_ cbFOUR_ cbFIVE_ cbSIX_ cbSEVEN_ cbEIGHT_
    cbNINE_ cbTEN_ cbELEVEN_ cbTWELVE_ cONE-THIRTY cbTWO- cbTHREE- cbFOUR- cbFIVE- cbSIX- cbSEVEN-
    cbEIGHT- cbNINE- cbTEN- cbELEVEN- cbTWELVE- RIGHT_SPEAKER bSPEAKER_WITH_ONE_SOUND_WAVE
    dTHREE_SOUND_WAVES BULLHORN BULLHORN_WITH_SOUND_WAVES RINGING_BELL BOOK CANDLE MANTELPIECE_CLOCK
    BLACK_SKULL_AND_CROSSBONES NO_PIRACY HOLE MAN_IN_BUSINESS_SUIT_LEVITATING SLEUTH_OR_SPY
    DARK_SUNGLASSES SPIDER SPIDER_WEB JOYSTICK MAN_DANCING LEFT_HAND_TELEPHONE_RECEIVER
    TELEPHONE_RECEIVER_WITH_PAGE RIGHT_HAND_TELEPHONE_RECEIVER WHITE_TOUCHTONE_TELEPHONE acBLACK_
    TELEPHONE_ON_TOP_OF_MODEM CLAMSHELL_MOBILE_PHONE BACK_OF_ENVELOPE abSTAMPED_
    ENVELOPE_WITH_LIGHTNING FLYING_ENVELOPE abPEN_OVER_STAMPED_ LINKED_PAPERCLIPS BLACK_PUSHPIN
    LOWER_LEFT_PENCIL cBALLPOINT_PEN cbFOUNTAIN_ cPAINTBRUSH cCRAYON LEFT_WRITING_HAND
    TURNED_OK_HAND_SIGN RAISED_HAND_WITH_FINGERS_SPLAYED afREVERSED_ bTHUMBS_UP_SIGN cbDOWN_
    bVICTORY_HAND bHAND_WITH_MIDDLE_FINGER_EXTENDED
    RAISED_HAND_WITH_PART_BETWEEN_MIDDLE_AND_RING_FINGERS WHITE_DOWN_POINTING_LEFT_HAND_INDEX
    abSIDEWAYS_WHITE_LEFT_POINTING_ ccRIGHT_ bcBLACK_LEFT_ ccRIGHT_ abBLACK_LEFT_POINTING_BACKHAND_
    bdRIGHT_ abSIDEWAYS_WHITE_UP_POINTING_ ccDOWN_ bcBLACK_UP_ ccDOWN_ abBLACK_UP_POINTING_BACKHAND_
    bdDOWN_ bHEART DESKTOP_COMPUTER KEYBOARD_AND_MOUSE THREE_NETWORKED_COMPUTERS PRINTER
    POCKET_CALCULATOR BLACK_HARD_SHELL_FLOPPY_DISK aeWHITE_ adSOFT_ TAPE_CARTRIDGE WIRED_KEYBOARD
    ONE_BUTTON_MOUSE acTWO_ acTHREE_ TRACKBALL OLD_PERSONAL_COMPUTER HARD_DISK SCREEN PRINTER_ICON
    abFAX_ abOPTICAL_DISC_ DOCUMENT_WITH_TEXT cTEXT_AND_PICTURE cb acFRAME_ cTILES cAN_X
    BLACK_FOLDER ab abOPEN_ CARD_INDEX_DIVIDERS bFILE_BOX FILE_CABINET EMPTY_NOTE bNOTE_PAGE cPAD
    NOTE NOTE_PAGE bPAD EMPTY_DOCUMENT bPAGE bPAGES DOCUMENT PAGE PAGES WASTEBASKET SPIRAL_NOTE_PAD
    bbCALENDAR_ DESKTOP_WINDOW MINIMIZE MAXIMIZE OVERLAP CLOCKWISE_RIGHT_AND_LEFT_SEMICIRCLE_ARROWS
    CANCELLATION_X INCREASE_FONT_SIZE_SYMBOL adDECREASE_ COMPRESSION OLD_KEY ROLLED-UP_NEWSPAPER
    PAGE_WITH_CIRCLED_TEXT STOCK_CHART DAGGER_KNIFE LIPS SPEAKING_HEAD_IN_SILHOUETTE
    THREE_RAYS_ABOVE cBELOW cLEFT cRIGHT LEFT_SPEECH_BUBBLE acRIGHT_ TWO_SPEECH_BUBBLES acTHREE_
    LEFT_THOUGHT_BUBBLE acRIGHT_ abLEFT_ANGER_ acRIGHT_ abMOOD_ acLIGHTNING_ bMOOD
    BALLOT_BOX_WITH_BALLOT bSCRIPT_X bcBOX_WITH_ bcBOLD_ bdBOX_WITH_ LIGHT_CHECK_MARK
    BALLOT_BOX_WITH_BOLD_CHECK WORLD_MAP MOUNT_FUJI TOKYO_TOWER STATUE_OF_LIBERTY
    SILHOUETTE_OF_JAPAN MOYAI GRINNING_FACE bFACE_WITH_SMILING_EYES FACE_WITH_TEARS_OF_JOY
    SMILING_FACE_WITH_OPEN_MOUTH eMOUTH_AND_SMILING_EYES gCOLD_SWEAT gTIGHTLY-CLOSED_EYES dHALO
    dHORNS WINKING_FACE SMILING_FACE_WITH_SMILING_EYES FACE_SAVOURING_DELICIOUS_FOOD RELIEVED_FACE
    SMILING_FACE_WITH_HEART-SHAPED_EYES dSUNGLASSES SMIRKING_FACE abNEUTRAL_ abEXPRESSIONLESS_
    abUNAMUSED_ FACE_WITH_COLD_SWEAT PENSIVE_FACE abCONFUSED_ abCONFOUNDED_ abKISSING_
    FACE_THROWING_A_KISS KISSING_FACE_WITH_SMILING_EYES dbCLOSED_ FACE_WITH_STUCK-OUT_TONGUE
    eTONGUE_AND_WINKING_EYE gTIGHTLY-CLOSED_EYES DISAPPOINTED_FACE abWORRIED_ abANGRY_ abPOUTING_
    abCRYING_ abPERSEVERING_ FACE_WITH_LOOK_OF_TRIUMPH DISAPPOINTED_BUT_RELIEVED_FACE
    FROWNING_FACE_WITH_OPEN_MOUTH ANGUISHED_FACE abFEARFUL_ abWEARY_ abSLEEPY_ abTIRED_ abGRIMACING_
    abLOUDLY_CRYING_ FACE_WITH_OPEN_MOUTH HUSHED_FACE FACE_WITH_OPEN_MOUTH_AND_COLD_SWEAT
    bSCREAMING_IN_FEAR ASTONISHED_FACE abFLUSHED_ abSLEEPING_ abDIZZY_ FACE_WITHOUT_MOUTH
    bWITH_MEDICAL_MASK GRINNING_CAT_FACE_WITH_SMILING_EYES CAT_FACE_WITH_TEARS_OF_JOY
    SMILING_CAT_FACE_WITH_OPEN_MOUTH eHEART-SHAPED_EYES CAT_FACE_WITH_WRY_SMILE
    KISSING_CAT_FACE_WITH_CLOSED_EYES POUTING_CAT_FACE acCRYING_ acWEARY_ abSLIGHTLY_FROWNING_
    bbSMILING_ abUPSIDE-DOWN_ FACE_WITH_ROLLING_EYES cNO_GOOD_GESTURE cbOK_ PERSON_BOWING_DEEPLY
    SEE-NO-EVIL_MONKEY adHEAR- adSPEAK- HAPPY_PERSON_RAISING_ONE_HAND
    PERSON_RAISING_BOTH_HANDS_IN_CELEBRATION bFROWNING bWITH_POUTING_FACE cFOLDED_HANDS
    NORTH_WEST_POINTING_LEAF adSOUTH_ acNORTH_EAST_ adSOUTH_ acTURNED_NORTH_WEST_ bdSOUTH_
    bcNORTH_EAST_ bdSOUTH_ abNORTH_WEST_POINTING_VINE_ aeSOUTH_ adNORTH_EAST_ aeSOUTH_
    adHEAVY_NORTH_WEST_ beSOUTH_ bdNORTH_EAST_ beSOUTH_ NORTH_WEST_POINTING_BUD adSOUTH_
    acNORTH_EAST_ adSOUTH_ acHEAVY_NORTH_WEST_ bdSOUTH_ bcNORTH_EAST_ bdSOUTH_
    HOLLOW_QUILT_SQUARE_ORNAMENT dORNAMENT_IN_BLACK_SQUARE SOLID_QUILT_SQUARE_ORNAMENT
    dORNAMENT_IN_BLACK_SQUARE LEFTWARDS_ROCKET abUPWARDS_ abRIGHTWARDS_ abDOWNWARDS_
    SCRIPT_LIGATURE_ET_ORNAMENT aeHEAVY_ acLIGATURE_OPEN_ aeHEAVY_ bbAMPERSAND_ acSWASH_
    abSANS-SERIF_HEAVY_DOUBLE_TURNED_COMMA_QUOTATION_MARK_ ee dfLOW_ abHEAVY_INTERROBANG_
    acSANS-SERIF_ aeHEAVY_ VERY_HEAVY_SOLIDUS cbREVERSE_ CHECKER_BOARD acREVERSE_ ROCKET HELICOPTER
    STEAM_LOCOMOTIVE RAILWAY_CAR HIGH-SPEED_TRAIN cTRAIN_WITH_BULLET_NOSE TRAIN METRO LIGHT_RAIL
    STATION TRAM TRAM_CAR BUS abONCOMING_ TROLLEYBUS BUS_STOP MINIBUS AMBULANCE FIRE_ENGINE
    POLICE_CAR acONCOMING_ TAXI abONCOMING_ AUTOMOBILE abONCOMING_ RECREATIONAL_VEHICLE
    DELIVERY_TRUCK ARTICULATED_LORRY TRACTOR MONORAIL MOUNTAIN_RAILWAY abSUSPENSION_
    MOUNTAIN_CABLEWAY AERIAL_TRAMWAY SHIP ROWBOAT SPEEDBOAT HORIZONTAL_TRAFFIC_LIGHT acVERTICAL_
    CONSTRUCTION_SIGN POLICE_CARS_REVOLVING_LIGHT TRIANGULAR_FLAG_ON_POST DOOR NO_ENTRY_SIGN
    SMOKING_SYMBOL acNO_ abPUT_LITTER_IN_ITS_PLACE_ abDO_NOT_LITTER_ abPOTABLE_WATER_ adNON- BICYCLE
    NO_BICYCLES BICYCLIST abMOUNTAIN_ PEDESTRIAN NO_PEDESTRIANS CHILDREN_CROSSING MENS_SYMBOL
    abWOMENS_ RESTROOM BABY_SYMBOL TOILET WATER_CLOSET SHOWER BATH BATHTUB PASSPORT_CONTROL CUSTOMS
    BAGGAGE_CLAIM LEFT_LUGGAGE TRIANGLE_WITH_ROUNDED_CORNERS PROHIBITED_SIGN
    CIRCLED_INFORMATION_SOURCE BOYS_SYMBOL abGIRLS_ COUCH_AND_LAMP SLEEPING_ACCOMMODATION
    SHOPPING_BAGS BELLHOP_BELL BED PLACE_OF_WORSHIP OCTAGONAL_SIGN SHOPPING_TROLLEY STUPA PAGODA
    HINDU_TEMPLE HUT ELEVATOR 1F6DD=PLAYGROUND_SLIDE WHEEL RING_BUOY HAMMER_AND_WRENCH SHIELD
    OIL_DRUM MOTORWAY RAILWAY_TRACK MOTOR_BOAT UP-POINTING_MILITARY_AIRPLANE cb cbSMALL_ ac
    abNORTHEAST-POINTING_ AIRPLANE_DEPARTURE bARRIVING 1F6F0=SATELLITE ONCOMING_FIRE_ENGINE
    DIESEL_LOCOMOTIVE PASSENGER_SHIP SCOOTER abMOTOR_ CANOE SLED FLYING_SAUCER SKATEBOARD
    AUTO_RICKSHAW PICKUP_TRUCK ROLLER_SKATE 1F700=ALCHEMICAL_SYMBOL_FOR_QUINTESSENCE dAIR dFIRE
    dEARTH dWATER dAQUAFORTIS dAQUA_REGIA eREGIA-2 eVITAE eVITAE-2 dVINEGAR dVINEGAR-2 e3 dSULFUR
    dbPHILOSOPHERS_ dbBLACK_ dMERCURY_SUBLIMATE eSUBLIMATE-2 f3 dCINNABAR dSALT dNITRE dVITRIOL
    dVITRIOL-2 dROCK_SALT eSALT-2 dGOLD dSILVER dIRON_ORE eORE-2 dCROCUS_OF_IRON dcREGULUS_
    dCOPPER_ORE dcIRON- dSUBLIMATE_OF_COPPER dcCROCUS_ fCOPPER-2 dCOPPER_ANTIMONIATE dcSALT_OF_
    dSUBLIMATE_OF_SALT_OF_COPPER dVERDIGRIS dTIN_ORE dbLEAD_ dbANTIMONY_ dSUBLIMATE_OF_ANTIMONY
    dcSALT_ ddSUBLIMATE_OF_ dcVINEGAR_ dcREGULUS_ fANTIMONY-2 dREGULUS dREGULUS-2 e3 e4 dALKALI
    dALKALI-2 dMARCASITE dSAL-AMMONIAC dARSENIC dREALGAR dREALGAR-2 dAURIPIGMENT dBISMUTH_ORE
    dTARTAR dTARTAR-2 dQUICK_LIME dBORAX dBORAX-2 e3 dALUM dOIL dSPIRIT dTINCTURE dGUM dWAX dPOWDER
    dCALX dTUTTY dCAPUT_MORTUUM dSCEPTER_OF_JOVE dCADUCEUS dTRIDENT dbSTARRED_ dLODESTONE dSOAP
    dURINE dHORSE_DUNG dASHES dbPOT_ dBRICK dbPOWDERED_ dAMALGAM dSTRATUM_SUPER_STRATUM fSTRATUM-2
    dSUBLIMATION dPRECIPITATE dDISTILL dDISSOLVE dDISSOLVE-2 dPURIFY dPUTREFACTION dCRUCIBLE
    dCRUCIBLE-2 e3 e4 e5 dALEMBIC dBATH_OF_MARY fVAPOURS dRETORT dHOUR dNIGHT dbDAY- dMONTH
    dHALF_DRAM eOUNCE 1F780=BLACK_LEFT-POINTING_ISOSCELES_RIGHT_TRIANGLE beUP- beRIGHT- beDOWN-
    bSLIGHTLY_SMALL_CIRCLE abMEDIUM_BOLD_WHITE_ ad acHEAVY_ adVERY_ adEXTREMELY_
    abWHITE_CIRCLE_CONTAINING_BLACK_SMALL_ ROUND_TARGET BLACK_TINY_SQUARE bbSLIGHTLY_SMALL_
    abLIGHT_WHITE_ acMEDIUM_ acBOLD_ acHEAVY_ adVERY_ adEXTREMELY_
    abWHITE_SQUARE_CONTAINING_BLACK_VERY_SMALL_ ebMEDIUM_ SQUARE_TARGET BLACK_TINY_DIAMOND
    bbVERY_SMALL_ bcMEDIUM_ acWHITE_DIAMOND_CONTAINING_BLACK_VERY_ ebMEDIUM_ DIAMOND_TARGET
    BLACK_TINY_LOZENGE bbVERY_SMALL_ bcMEDIUM_ acWHITE_LOZENGE_CONTAINING_BLACK_ THIN_GREEK_CROSS
    acLIGHT_ acMEDIUM_ acBOLD_ adVERY_ bcHEAVY_ adEXTREMELY_ THIN_SALTIRE abLIGHT_ abMEDIUM_ abBOLD_
    abHEAVY_ acVERY_ acEXTREMELY_ LIGHT_FIVE_SPOKED_ASTERISK adMEDIUM_ adBOLD_ adHEAVY_ aeVERY_
    aeEXTREMELY_ acLIGHT_SIX_ adMEDIUM_ adBOLD_ adHEAVY_ aeVERY_ aeEXTREMELY_ acLIGHT_EIGHT_
    adMEDIUM_ adBOLD_ adHEAVY_ aeVERY_ LIGHT_THREE_POINTED_BLACK_STAR aeMEDIUM_ ae
    abMEDIUM_THREE_POINTED_PINWHEEL_ abLIGHT_FOUR_POINTED_BLACK_ aeMEDIUM_ ae
    abMEDIUM_FOUR_POINTED_PINWHEEL_ aeREVERSE_LIGHT_ abLIGHT_FIVE_POINTED_BLACK_ aeHEAVY_
    adMEDIUM_SIX_ aeHEAVY_ abSIX_POINTED_PINWHEEL_ abMEDIUM_EIGHT_POINTED_BLACK_ aeHEAVY_ afVERY_
    abHEAVY_EIGHT_POINTED_PINWHEEL_ abLIGHT_TWELVE_POINTED_BLACK_ aeHEAVY_ dbPINWHEEL_
    CIRCLED_TRIANGLE acNEGATIVE_ CIRCLED_SQUARE acNEGATIVE_ 1F7E0=LARGE_ORANGE_CIRCLE bbYELLOW_
    bbGREEN_ bbPURPLE_ bbBROWN_ bRED_SQUARE bbBLUE_ bbORANGE_ bbYELLOW_ bbGREEN_ bbPURPLE_ bbBROWN_
    1F7F0=HEAVY_EQUALS_SIGN 1F800=LEFTWARDS_ARROW_WITH_SMALL_TRIANGLE_ARROWHEAD afUPWARDS_
    afRIGHTWARDS_ afDOWNWARDS_ acLEFTWARDS_ARROW_WITH_MEDIUM_ afUPWARDS_ afRIGHTWARDS_ afDOWNWARDS_
    acLEFTWARDS_ARROW_WITH_LARGE_ afUPWARDS_ afRIGHTWARDS_ afDOWNWARDS_
    1F810=abLEFTWARDS_ARROW_WITH_SMALL_EQUILATERAL_ afUPWARDS_ afRIGHTWARDS_ afDOWNWARDS_
    acLEFTWARDS_ARROW_WITH_ aeUPWARDS_ aeRIGHTWARDS_ aeDOWNWARDS_ aeHEAVY_LEFTWARDS_ beUPWARDS_
    beRIGHTWARDS_ beDOWNWARDS_ bcLEFTWARDS_ARROW_WITH_LARGE_ bfUPWARDS_ bfRIGHTWARDS_ bfDOWNWARDS_
    LEFTWARDS_TRIANGLE-HEADED_ARROW_WITH_NARROW_SHAFT agUPWARDS_ agRIGHTWARDS_ agDOWNWARDS_
    abLEFTWARDS_TRIANGLE-HEADED_ARROW_WITH_MEDIUM_ agUPWARDS_ agRIGHTWARDS_ agDOWNWARDS_
    abLEFTWARDS_TRIANGLE-HEADED_ARROW_WITH_BOLD_ agUPWARDS_ agRIGHTWARDS_ agDOWNWARDS_
    abLEFTWARDS_TRIANGLE-HEADED_ARROW_WITH_HEAVY_ agUPWARDS_ agRIGHTWARDS_ agDOWNWARDS_
    acLEFTWARDS_TRIANGLE-HEADED_ARROW_WITH_VERY_ ahUPWARDS_ ahRIGHTWARDS_ ahDOWNWARDS_
    LEFTWARDS_FINGER-POST_ARROW adUPWARDS_ adRIGHTWARDS_ adDOWNWARDS_ abLEFTWARDS_SQUARED_
    acUPWARDS_ acRIGHTWARDS_ acDOWNWARDS_ abLEFTWARDS_COMPRESSED_ acUPWARDS_ acRIGHTWARDS_
    acDOWNWARDS_ acLEFTWARDS_HEAVY_ adUPWARDS_ adRIGHTWARDS_ adDOWNWARDS_ abLEFTWARDS_HEAVY_
    acUPWARDS_ acRIGHTWARDS_ acDOWNWARDS_ 1F850=abLEFTWARDS_SANS-SERIF_ adUPWARDS_ adRIGHTWARDS_
    adDOWNWARDS_ adNORTH_WEST_ bdEAST_ aeSOUTH_ bdWEST_ adLEFT_RIGHT_ adUP_DOWN_
    1F860=abWIDE-HEADED_LEFTWARDS_LIGHT_BARB_ cdUPWARDS_ cdRIGHTWARDS_ cdDOWNWARDS_ cdNORTH_WEST_
    ddEAST_ ceSOUTH_ ddWEST_ ccLEFTWARDS_ ccUPWARDS_ ccRIGHTWARDS_ ccDOWNWARDS_ ccNORTH_WEST_
    dcEAST_ cdSOUTH_ dcWEST_ ccLEFTWARDS_MEDIUM_ cdUPWARDS_ cdRIGHTWARDS_ cdDOWNWARDS_ cdNORTH_WEST_
    ddEAST_ ceSOUTH_ ddWEST_ ccLEFTWARDS_HEAVY_ cdUPWARDS_ cdRIGHTWARDS_ cdDOWNWARDS_ cdNORTH_WEST_
    ddEAST_ ceSOUTH_ ddWEST_ cdLEFTWARDS_VERY_ ceUPWARDS_ ceRIGHTWARDS_ ceDOWNWARDS_ ceNORTH_WEST_
    deEAST_ cfSOUTH_ deWEST_ 1F890=LEFTWARDS_TRIANGLE_ARROWHEAD acUPWARDS_ acRIGHTWARDS_
    acDOWNWARDS_ acLEFTWARDS_WHITE_ARROW_WITHIN_ afUPWARDS_ afRIGHTWARDS_ afDOWNWARDS_
    LEFTWARDS_ARROW_WITH_NOTCHED_TAIL aeUPWARDS_ aeRIGHTWARDS_ aeDOWNWARDS_
    HEAVY_ARROW_SHAFT_WIDTH_ONE eTWO_THIRDS eONE_HALF fTHIRD LEFTWARDS_BOTTOM-SHADED_WHITE_ARROW
    adRIGHTWARDS_BOTTOM_ adLEFTWARDS_TOP_ aeRIGHTWARDS_ adLEFTWARDS_LEFT- adRIGHTWARDS_RIGHT-
    aeLEFTWARDS_ adRIGHTWARDS_LEFT- acLEFTWARDS_BACK-TILTED_SHADOWED_ afRIGHTWARDS_
    aeLEFTWARDS_FRONT- afRIGHTWARDS_ WHITE_ARROW_SHAFT_WIDTH_ONE eTWO_THIRDS
    1F8B0=ARROW_POINTING_UPWARDS_THEN_NORTH_WEST cbRIGHTWARDS_THEN_CURVING_SOUTH_
    1F900=CIRCLED_CROSS_FORMEE_WITH_FOUR_DOTS ebTWO_ cFORMEE LEFT_HALF_CIRCLE_WITH_FOUR_DOTS
    ebTHREE_ ebTWO_ eDOT cCIRCLE DOWNWARD_FACING_HOOK cbNOTCHED_ cHOOK_WITH_DOT cdNOTCHED_
    PINCHED_FINGERS WHITE_HEART abBROWN_ PINCHING_HAND ZIPPER-MOUTH_FACE acMONEY-
    FACE_WITH_THERMOMETER NERD_FACE abTHINKING_ FACE_WITH_HEAD-BANDAGE ROBOT_FACE abHUGGING_
    SIGN_OF_THE_HORNS CALL_ME_HAND abRAISED_BACK_OF_ LEFT-FACING_FIST acRIGHT- HANDSHAKE
    HAND_WITH_INDEX_AND_MIDDLE_FINGERS_CROSSED I_LOVE_YOU_HAND_SIGN FACE_WITH_COWBOY_HAT CLOWN_FACE
    abNAUSEATED_ ROLLING_ON_THE_FLOOR_LAUGHING DROOLING_FACE abLYING_ FACE_PALM SNEEZING_FACE
    FACE_WITH_ONE_EYEBROW_RAISED GRINNING_FACE_WITH_STAR_EYES dONE_LARGE_AND_ONE_SMALL_EYE
    FACE_WITH_FINGER_COVERING_CLOSED_LIPS SERIOUS_FACE_WITH_SYMBOLS_COVERING_MOUTH
    acSMILING_FACE_WITH_SMILING_EYES_AND_HAND_ FACE_WITH_OPEN_MOUTH_VOMITING
    SHOCKED_FACE_WITH_EXPLODING_HEAD PREGNANT_WOMAN BREAST-FEEDING PALMS_UP_TOGETHER SELFIE PRINCE
    MAN_IN_TUXEDO MOTHER_CHRISTMAS SHRUG PERSON_DOING_CARTWHEEL JUGGLING FENCER MODERN_PENTATHLON
    WRESTLERS WATER_POLO HANDBALL DIVING_MASK WILTED_FLOWER DRUM_WITH_DRUMSTICKS CLINKING_GLASSES
    TUMBLER_GLASS SPOON GOAL_NET RIFLE FIRST_PLACE_MEDAL acSECOND_ acTHIRD_ BOXING_GLOVE
    MARTIAL_ARTS_UNIFORM CURLING_STONE LACROSSE_STICK_AND_BALL SOFTBALL FLYING_DISC CROISSANT
    AVOCADO CUCUMBER BACON POTATO CARROT BAGUETTE_BREAD GREEN_SALAD SHALLOW_PAN_OF_FOOD
    STUFFED_FLATBREAD EGG GLASS_OF_MILK PEANUTS KIWIFRUIT PANCAKES DUMPLING FORTUNE_COOKIE
    TAKEOUT_BOX CHOPSTICKS BOWL_WITH_SPOON CUP_WITH_STRAW COCONUT BROCCOLI PIE PRETZEL CUT_OF_MEAT
    SANDWICH CANNED_FOOD LEAFY_GREEN MANGO MOON_CAKE BAGEL
    SMILING_FACE_WITH_SMILING_EYES_AND_THREE_HEARTS YAWNING_FACE SMILING_FACE_WITH_TEAR
    FACE_WITH_PARTY_HORN_AND_PARTY_HAT cUNEVEN_EYES_AND_WAVY_MOUTH OVERHEATED_FACE abFREEZING_ NINJA
    DISGUISED_FACE FACE_HOLDING_BACK_TEARS bWITH_PLEADING_EYES SARI LAB_COAT GOGGLES HIKING_BOOT
    FLAT_SHOE CRAB LION_FACE SCORPION TURKEY UNICORN_FACE EAGLE DUCK BAT SHARK OWL FOX_FACE
    BUTTERFLY DEER GORILLA LIZARD RHINOCEROS SHRIMP SQUID GIRAFFE_FACE abZEBRA_ HEDGEHOG SAUROPOD
    T-REX CRICKET KANGAROO LLAMA PEACOCK HIPPOPOTAMUS PARROT RACCOON LOBSTER MOSQUITO MICROBE BADGER
    SWAN MAMMOTH DODO SLOTH OTTER ORANGUTAN SKUNK FLAMINGO OYSTER BEAVER BISON SEAL GUIDE_DOG
    PROBING_CANE EMOJI_COMPONENT_RED_HAIR cbCURLY_ cBALD cWHITE_HAIR BONE LEG FOOT TOOTH SUPERHERO
    SUPERVILLAIN SAFETY_VEST EAR_WITH_HEARING_AID MOTORIZED_WHEELCHAIR abMANUAL_ MECHANICAL_ARM bLEG
    CHEESE_WEDGE CUPCAKE SALT_SHAKER BEVERAGE_BOX GARLIC ONION FALAFEL WAFFLE BUTTER MATE_DRINK
    ICE_CUBE BUBBLE_TEA TROLL STANDING_PERSON abKNEELING_ abDEAF_ FACE_WITH_MONOCLE ADULT CHILD
    OLDER_ADULT BEARDED_PERSON PERSON_WITH_HEADSCARF bIN_STEAMY_ROOM bCLIMBING bIN_LOTUS_POSITION
    MAGE FAIRY VAMPIRE MERPERSON ELF GENIE ZOMBIE BRAIN ORANGE_HEART BILLED_CAP SCARF GLOVES COAT
    SOCKS RED_GIFT_ENVELOPE FIRECRACKER JIGSAW_PUZZLE_PIECE TEST_TUBE PETRI_DISH DNA_DOUBLE_HELIX
    COMPASS ABACUS FIRE_EXTINGUISHER TOOLBOX BRICK MAGNET LUGGAGE LOTION_BOTTLE SPOOL_OF_THREAD
    BALL_OF_YARN SAFETY_PIN TEDDY_BEAR BROOM BASKET ROLL_OF_PAPER BAR_OF_SOAP SPONGE RECEIPT
    NAZAR_AMULET NEUTRAL_CHESS_KING cQUEEN cROOK cBISHOP cKNIGHT cPAWN
    WHITE_CHESS_KNIGHT_ROTATED_FORTY-FIVE_DEGREES agBLACK_ agNEUTRAL_
    abWHITE_CHESS_KING_ROTATED_NINETY_ cdQUEEN_ cdROOK_ cdBISHOP_ cdKNIGHT_ cdPAWN_
    adBLACK_CHESS_KING_ cdQUEEN_ cdROOK_ cdBISHOP_ cdKNIGHT_ cdPAWN_ adNEUTRAL_CHESS_KING_ cdQUEEN_
    cdROOK_ cdBISHOP_ cdKNIGHT_ cdPAWN_ abWHITE_CHESS_KNIGHT_ROTATED_ONE_HUNDRED_THIRTY-FIVE_
    aiBLACK_ aiNEUTRAL_ WHITE_CHESS_TURNED_KING dQUEEN dROOK dBISHOP dKNIGHT dPAWN
    BLACK_CHESS_TURNED_KING dQUEEN dROOK dBISHOP dKNIGHT dPAWN NEUTRAL_CHESS_TURNED_KING dQUEEN
    dROOK dBISHOP dKNIGHT dPAWN WHITE_CHESS_KNIGHT_ROTATED_TWO_HUNDRED_TWENTY-FIVE_DEGREES aiBLACK_
    aiNEUTRAL_ abWHITE_CHESS_KING_ROTATED_TWO_HUNDRED_SEVENTY_ cfQUEEN_ cfROOK_ cfBISHOP_ cfKNIGHT_
    cfPAWN_ afBLACK_CHESS_KING_ cfQUEEN_ cfROOK_ cfBISHOP_ cfKNIGHT_ cfPAWN_ afNEUTRAL_CHESS_KING_
    cfQUEEN_ cfROOK_ cfBISHOP_ cfKNIGHT_ cfPAWN_ abWHITE_CHESS_KNIGHT_ROTATED_THREE_HUNDRED_FIFTEEN_
    ahBLACK_ ahNEUTRAL_ WHITE_CHESS_EQUIHOPPER acBLACK_ acNEUTRAL_
    WHITE_CHESS_EQUIHOPPER_ROTATED_NINETY_DEGREES afBLACK_ afNEUTRAL_ WHITE_CHESS_KNIGHT-QUEEN dROOK
    dBISHOP BLACK_CHESS_KNIGHT-QUEEN dROOK dBISHOP 1FA60=XIANGQI_RED_GENERAL cMANDARIN cELEPHANT
    cHORSE cCHARIOT cCANNON cSOLDIER bBLACK_GENERAL cMANDARIN cELEPHANT cHORSE cCHARIOT cCANNON
    cSOLDIER 1FA70=BALLET_SHOES ONE-PIECE_SWIMSUIT BRIEFS SHORTS THONG_SANDAL 1FA78=DROP_OF_BLOOD
    ADHESIVE_BANDAGE STETHOSCOPE X-RAY CRUTCH 1FA80=YO-YO KITE PARACHUTE BOOMERANG MAGIC_WAND PINATA
    NESTING_DOLLS 1FA90=RINGED_PLANET CHAIR RAZOR AXE DIYA_LAMP BANJO MILITARY_HELMET ACCORDION
    LONG_DRUM COIN CARPENTRY_SAW SCREWDRIVER LADDER HOOK MIRROR WINDOW PLUNGER SEWING_NEEDLE KNOT
    BUCKET MOUSE_TRAP TOOTHBRUSH HEADSTONE PLACARD ROCK MIRROR_BALL IDENTIFICATION_CARD LOW_BATTERY
    HAMSA 1FAB0=FLY WORM BEETLE COCKROACH POTTED_PLANT WOOD FEATHER LOTUS CORAL EMPTY_NEST
    NEST_WITH_EGGS 1FAC0=ANATOMICAL_HEART LUNGS PEOPLE_HUGGING PREGNANT_MAN bPERSON
    PERSON_WITH_CROWN 1FAD0=BLUEBERRIES BELL_PEPPER OLIVE FLATBREAD TAMALE FONDUE TEAPOT
    POURING_LIQUID BEANS JAR 1FAE0=MELTING_FACE abSALUTING_ FACE_WITH_OPEN_EYES_AND_HAND_OVER_MOUTH
    cPEEKING_EYE cDIAGONAL_MOUTH DOTTED_LINE_FACE BITING_LIP BUBBLES
    1FAF0=HAND_WITH_INDEX_FINGER_AND_THUMB_CROSSED RIGHTWARDS_HAND abLEFTWARDS_ abPALM_DOWN_ bbUP_
    INDEX_POINTING_AT_THE_VIEWER HEART_HANDS 1FB00=BLOCK_SEXTANT-1 c2 c12 c3 c13 c23 c123 c4 c14 c24
    c124 c34 c134 c234 c1234 c5 c15 c25 c125 c35 c235 c1235 c45 c145 c245 c1245 c345 c1345 c2345
    c12345 c6 c16 c26 c126 c36 c136 c236 c1236 c46 c146 c1246 c346 c1346 c2346 c12346 c56 c156 c256
    c1256 c356 c1356 c2356 c12356 c456 c1456 c2456 c12456 c3456 c13456 c23456
    LOWER_LEFT_BLOCK_DIAGONAL_LOWER_MIDDLE_LEFT_TO_LOWER_CENTRE jRIGHT
    eUPPER_MIDDLE_LEFT_TO_LOWER_CENTRE jRIGHT fLEFT_TO_LOWER_CENTRE
    bbRIGHT_BLOCK_DIAGONAL_UPPER_MIDDLE_LEFT_TO_UPPER_ jRIGHT eLOWER_MIDDLE_LEFT_TO_UPPER_CENTRE
    jRIGHT fLEFT_TO_UPPER_CENTRE fMIDDLE_LEFT_TO_UPPER_MIDDLE_RIGHT fcCENTRE_TO_LOWER_ feLEFT_
    fcCENTRE_TO_UPPER_ feLEFT_ fbCENTRE_TO_UPPER_
    bbLEFT_BLOCK_DIAGONAL_UPPER_CENTRE_TO_UPPER_MIDDLE_ feLEFT_ fcCENTRE_TO_LOWER_ feLEFT_
    fbCENTRE_TO_LOWER_ fbMIDDLE_LEFT_TO_LOWER_MIDDLE_
    UPPER_RIGHT_BLOCK_DIAGONAL_LOWER_MIDDLE_LEFT_TO_LOWER_CENTRE jRIGHT
    eUPPER_MIDDLE_LEFT_TO_LOWER_CENTRE jRIGHT fLEFT_TO_LOWER_CENTRE
    bbLEFT_BLOCK_DIAGONAL_UPPER_MIDDLE_LEFT_TO_UPPER_ jRIGHT eLOWER_MIDDLE_LEFT_TO_UPPER_CENTRE
    jRIGHT fLEFT_TO_UPPER_CENTRE fMIDDLE_LEFT_TO_UPPER_MIDDLE_RIGHT fcCENTRE_TO_LOWER_ feLEFT_
    fcCENTRE_TO_UPPER_ feLEFT_ fbCENTRE_TO_UPPER_
    bbRIGHT_BLOCK_DIAGONAL_UPPER_CENTRE_TO_UPPER_MIDDLE_ feLEFT_ fcCENTRE_TO_LOWER_ feLEFT_
    fbCENTRE_TO_LOWER_ fbMIDDLE_LEFT_TO_LOWER_MIDDLE_
    bAND_RIGHT_AND_LOWER_TRIANGULAR_THREE_QUARTERS_BLOCK aeLEFT_AND_LOWER_AND_RIGHT_
    aeUPPER_AND_LEFT_AND_LOWER_ aeLEFT_AND_UPPER_AND_RIGHT_ bbTRIANGULAR_ONE_QUARTER_ aeUPPER_
    aeRIGHT_ aeLOWER_ VERTICAL_ONE_EIGHTH_BLOCK-2 e3 e4 e5 e6 e7 HORIZONTAL_ONE_EIGHTH_BLOCK-2 e3 e4
    e5 e6 e7 LEFT_AND_LOWER_ONE_EIGHTH_BLOCK cdUPPER_ afRIGHT_ cdLOWER_ afUPPER_
    HORIZONTAL_ONE_EIGHTH_BLOCK-1358 UPPER_ONE_QUARTER_BLOCK bbTHREE_EIGHTHS_ bcFIVE_
    bbTHREE_QUARTERS_ bbSEVEN_EIGHTHS_ abRIGHT_ONE_QUARTER_ bbTHREE_EIGHTHS_ bcFIVE_
    bbTHREE_QUARTERS_ bbSEVEN_EIGHTHS_ LEFT_HALF_MEDIUM_SHADE adRIGHT_ adUPPER_ adLOWER_ acINVERSE_
    adUPPER_HALF_BLOCK_AND_LOWER_HALF_ cINVERSE_MEDIUM_SHADE_AND_LOWER_HALF_BLOCK
    1FB94=acLEFT_HALF_INVERSE_MEDIUM_SHADE_AND_RIGHT_ CHECKER_BOARD_FILL adINVERSE_
    abHEAVY_HORIZONTAL_ abUPPER_LEFT_TO_LOWER_RIGHT_ bbRIGHT_TO_LOWER_LEFT_
    bAND_LOWER_TRIANGULAR_HALF_BLOCK adLEFT_AND_RIGHT_ UPPER_LEFT_TRIANGULAR_MEDIUM_SHADE bdRIGHT_
    aeLOWER_ bdLEFT_ BOX_DRAWINGS_LIGHT_DIAGONAL_UPPER_CENTRE_TO_MIDDLE_LEFT iRIGHT
    eMIDDLE_LEFT_TO_LOWER_CENTRE fdRIGHT_ edUPPER_CENTRE_TO_MIDDLE_LEFT_ idRIGHT_
    eMIDDLE_LEFT_TO_LOWER_CENTRE_TO_MIDDLE_RIGHT heUPPER_
    eUPPER_CENTRE_TO_MIDDLE_LEFT_AND_MIDDLE_RIGHT_TO_LOWER_CENTRE idRIGHT_AND_MIDDLE_LEFT_
    jTO_LOWER_CENTRE_TO_MIDDLE_LEFT iLEFT_TO_LOWER_CENTRE_TO_MIDDLE_RIGHT
    eMIDDLE_LEFT_TO_UPPER_CENTRE_TO_MIDDLE_RIGHT_TO_LOWER_CENTRE
    fdRIGHT_TO_UPPER_CENTRE_TO_MIDDLE_LEFT_ eDIAMOND dHORIZONTAL_WITH_VERTICAL_STROKE
    ARROWHEAD-SHAPED_POINTER INVERSE_CHECK_MARK LEFT_HALF_RUNNING_MAN adRIGHT_
    INVERSE_DOWNWARDS_ARROW_WITH_TIP_LEFTWARDS LEFTWARDS_ARROW_AND_UPPER_AND_LOWER_ONE_EIGHTH_BLOCK
    aiRIGHTWARDS_ adDOWNWARDS_ARROW_AND_RIGHT_ agUPWARDS_ LEFT_HALF_FOLDER acRIGHT_
    VOIDED_GREEK_CROSS RIGHT_OPEN_SQUARED_DOT NEGATIVE_DIAGONAL_CROSS cMIDDLE_RIGHT_TO_LOWER_CENTRE
    cDIAMOND WHITE_HEAVY_SALTIRE_WITH_ROUNDED_CORNERS LEFT_THIRD_WHITE_RIGHT_POINTING_INDEX
    afMIDDLE_ afRIGHT_ NEGATIVE_SQUARED_QUESTION_MARK STICK_FIGURE bFIGURE_WITH_ARMS_RAISED
    cLEANING_LEFT dRIGHT cWITH_DRESS WHITE_UP-POINTING_CHEVRON 1FBF0=SEGMENTED_DIGIT_ZERO cONE cTWO
    cTHREE cFOUR cFIVE cSIX cSEVEN cEIGHT cNINE E0001=LANGUAGE_TAG E0020=TAG_SPACE bEXCLAMATION_MARK
    bbQUOTATION_ bNUMBER_SIGN bbDOLLAR_ bbPERCENT_ bAMPERSAND bAPOSTROPHE bLEFT_PARENTHESIS bbRIGHT_
    bASTERISK bPLUS_SIGN bCOMMA bHYPHEN-MINUS bFULL_STOP bSOLIDUS bDIGIT_ZERO cONE cTWO cTHREE cFOUR
    cFIVE cSIX cSEVEN cEIGHT cNINE bCOLON bSEMICOLON bLESS-THAN_SIGN bbEQUALS_ bbGREATER-THAN_
    bQUESTION_MARK bCOMMERCIAL_AT bLATIN_CAPITAL_LETTER_A eB eC eD eE eF eG eH eI eJ eK eL eM eN eO
    eP eQ eR eS eT eU eV eW eX eY eZ bLEFT_SQUARE_BRACKET bREVERSE_SOLIDUS bRIGHT_SQUARE_BRACKET
    bCIRCUMFLEX_ACCENT bLOW_LINE bGRAVE_ACCENT bLATIN_SMALL_LETTER_A eB eC eD eE eF eG eH eI eJ eK
    eL eM eN eO eP eQ eR eS eT eU eV eW eX eY eZ bLEFT_CURLY_BRACKET bVERTICAL_LINE
    bRIGHT_CURLY_BRACKET bTILDE CANCEL_TAG E0100=VARIATION_SELECTOR-17 c18 c19 c20 c21 c22 c23 c24
    c25 c26 c27 c28 c29 c30 c31 c32 c33 c34 c35 c36 c37 c38 c39 c40 c41 c42 c43 c44 c45 c46 c47 c48
    c49 c50 c51 c52 c53 c54 c55 c56 c57 c58 c59 c60 c61 c62 c63 c64 c65 c66 c67 c68 c69 c70 c71 c72
    c73 c74 c75 c76 c77 c78 c79 c80 c81 c82 c83 c84 c85 c86 c87 c88 c89 c90 c91 c92 c93 c94 c95 c96
    c97 c98 c99 c100 c101 c102 c103 c104 c105 c106 c107 c108 c109 c110 c111 c112 c113 c114 c115 c116
    c117 c118 c119 c120 c121 c122 c123 c124 c125 c126 c127 c128 c129 c130 c131 c132 c133 c134 c135
    c136 c137 c138 c139 c140 c141 c142 c143 c144 c145 c146 c147 c148 c149 c150 c151 c152 c153 c154
    c155 c156 c157 c158 c159 c160 c161 c162 c163 c164 c165 c166 c167 c168 c169 c170 c171 c172 c173
    c174 c175 c176 c177 c178 c179 c180 c181 c182 c183 c184 c185 c186 c187 c188 c189 c190 c191 c192
    c193 c194 c195 c196 c197 c198 c199 c200 c201 c202 c203 c204 c205 c206 c207 c208 c209 c210 c211
    c212 c213 c214 c215 c216 c217 c218 c219 c220 c221 c222 c223 c224 c225 c226 c227 c228 c229 c230
    c231 c232 c233 c234 c235 c236 c237 c238 c239 c240 c241 c242 c243 c244 c245 c246 c247 c248 c249
    c250 c251 c252 c253 c254 c255 c256"

end KarelLab.Text.Unicode
