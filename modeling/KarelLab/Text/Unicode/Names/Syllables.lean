namespace KarelLab.Text.Unicode

def syllableNames : String :=
  "3000=IDEOGRAPHIC_SPACE bCOMMA bFULL_STOP DITTO_MARK JAPANESE_INDUSTRIAL_STANDARD_SYMBOL
    IDEOGRAPHIC_ITERATION_MARK bbCLOSING_ bNUMBER_ZERO LEFT_ANGLE_BRACKET acRIGHT_ acLEFT_DOUBLE_
    adRIGHT_ abLEFT_CORNER_ acRIGHT_ acLEFT_WHITE_ adRIGHT_ abLEFT_BLACK_LENTICULAR_ adRIGHT_
    POSTAL_MARK abGETA_ LEFT_TORTOISE_SHELL_BRACKET adRIGHT_ abLEFT_WHITE_LENTICULAR_ adRIGHT_
    abLEFT_WHITE_TORTOISE_SHELL_ aeRIGHT_ abLEFT_WHITE_SQUARE_ adRIGHT_ WAVE_DASH
    REVERSED_DOUBLE_PRIME_QUOTATION_MARK ae aeLOW_ POSTAL_MARK_FACE HANGZHOU_NUMERAL_ONE cTWO cTHREE
    cFOUR cFIVE cSIX cSEVEN cEIGHT cNINE IDEOGRAPHIC_LEVEL_TONE_MARK bcRISING_ bcDEPARTING_
    bcENTERING_ acHANGUL_SINGLE_DOT_ bdDOUBLE_ WAVY_DASH VERTICAL_KANA_REPEAT_MARK
    dbWITH_VOICED_SOUND_ dMARK_UPPER_HALF ddWITH_VOICED_SOUND_ dbMARK_LOWER_ CIRCLED_POSTAL_MARK
    IDEOGRAPHIC_TELEGRAPH_LINE_FEED_SEPARATOR_SYMBOL HANGZHOU_NUMERAL_TEN cTWENTY cTHIRTY
    VERTICAL_IDEOGRAPHIC_ITERATION_MARK abMASU_ abPART_ALTERNATION_ IDEOGRAPHIC_VARIATION_INDICATOR
    bHALF_FILL_SPACE 3041=HIRAGANA_LETTER_SMALL_A cb cSMALL_I cb cSMALL_U cb cSMALL_E cb cSMALL_O cb
    cKA cGA cKI cGI cKU cGU cKE cGE cKO cGO cSA cZA cSI cZI cSU cZU cSE cZE cSO cZO cTA cDA cTI cDI
    cSMALL_TU cb cDU cTE cDE cTO cDO cNA cNI cNU cNE cNO cHA cBA cPA cHI cBI cPI cHU cBU cPU cHE cBE
    cPE cHO cBO cPO cMA cMI cMU cME cMO cSMALL_YA cb cSMALL_YU cb cSMALL_YO cb cRA cRI cRU cRE cRO
    cSMALL_WA cb cWI cWE cWO cN cVU cSMALL_KA dKE 3099=COMBINING_KATAKANA-HIRAGANA_VOICED_SOUND_MARK
    ddSEMI- adKATAKANA-HIRAGANA_ cdSEMI- abHIRAGANA_ITERATION_ bcVOICED_ bDIGRAPH_YORI
    KATAKANA-HIRAGANA_DOUBLE_HYPHEN KATAKANA_LETTER_SMALL_A cb cSMALL_I cb cSMALL_U cb cSMALL_E cb
    cSMALL_O cb cKA cGA cKI cGI cKU cGU cKE cGE cKO cGO cSA cZA cSI cZI cSU cZU cSE cZE cSO cZO cTA
    cDA cTI cDI cSMALL_TU cb cDU cTE cDE cTO cDO cNA cNI cNU cNE cNO cHA cBA cPA cHI cBI cPI cHU cBU
    cPU cHE cBE cPE cHO cBO cPO cMA cMI cMU cME cMO cSMALL_YA cb cSMALL_YU cb cSMALL_YO cb cRA cRI
    cRU cRE cRO cSMALL_WA cb cWI cWE cWO cN cVU cSMALL_KA dKE cVA cVI cVE cVO bMIDDLE_DOT
    KATAKANA-HIRAGANA_PROLONGED_SOUND_MARK abKATAKANA_ITERATION_ bcVOICED_ bDIGRAPH_KOTO
    3105=BOPOMOFO_LETTER_B cP cM cF cD cT cN cL cG cK cH cJ cQ cX cZH cCH cSH cR cZ cC cS cA cO cE
    cEH cAI cEI cAU cOU cAN cEN cANG cENG cER cI cU cIU cV cNG cGN cIH cO_WITH_DOT_ABOVE cNN
    3131=HANGUL_LETTER_KIYEOK cSSANGKIYEOK cKIYEOK-SIOS cNIEUN cNIEUN-CIEUC dHIEUH cTIKEUT
    cSSANGTIKEUT cRIEUL cRIEUL-KIYEOK dMIEUM dPIEUP dSIOS dTHIEUTH dPHIEUPH dHIEUH cMIEUM cPIEUP
    cSSANGPIEUP cPIEUP-SIOS cb cSSANGSIOS cIEUNG cCIEUC cSSANGCIEUC cCHIEUCH cKHIEUKH cTHIEUTH
    cPHIEUPH cHIEUH cA cAE cYA cYAE cEO cE cYEO cYE cO cWA cWAE cOE cYO cU cWEO cWE cWI cYU cEU cYI
    cI bFILLER bLETTER_SSANGNIEUN cNIEUN-TIKEUT dSIOS dPANSIOS cRIEUL-KIYEOK-SIOS dTIKEUT
    dPIEUP-SIOS dPANSIOS dYEORINHIEUH cMIEUM-PIEUP dSIOS dPANSIOS cKAPYEOUNMIEUM cPIEUP-KIYEOK
    dTIKEUT dSIOS-KIYEOK eTIKEUT dCIEUC dTHIEUTH cKAPYEOUNPIEUP cKAPYEOUNSSANGPIEUP cSIOS-KIYEOK
    dNIEUN dTIKEUT dPIEUP dCIEUC cPANSIOS cSSANGIEUNG cYESIEUNG cYESIEUNG-SIOS dPANSIOS
    cKAPYEOUNPHIEUPH cSSANGHIEUH cYEORINHIEUH cYO-YA dYAE dI cYU-YEO dYE dI cARAEA cARAEAE
    3190=IDEOGRAPHIC_ANNOTATION_LINKING_MARK cbREVERSE_ cbONE_ cbTWO_ cbTHREE_ cbFOUR_ cbTOP_
    cbMIDDLE_ cbBOTTOM_ cbFIRST_ cbSECOND_ cbTHIRD_ cbFOURTH_ cbHEAVEN_ cbEARTH_ cbMAN_
    BOPOMOFO_LETTER_BU cZI cJI cGU cEE cENN cOO cONN cIR cANN cINN cUNN cIM cNGG cAINN cAUNN cAM cOM
    cONG cINNN bFINAL_LETTER_P dT dK dH bLETTER_GH cLH cZY bFINAL_LETTER_G bLETTER_GW cKW cOE cAH
    CJK_STROKE_T cWG cXG cBXG cSW cHZZ cHZG cHP cHZWG cSZWG cHZT cHZZP cHPWG cHZW cHZZZ cN cH cS cP
    cSP cD cHZ cHG cSZ cSWZ cST cSG cPD cPZ cTN cSZZ cSWG cHXWG cHZZZG cPG cQ
    31F0=KATAKANA_LETTER_SMALL_KU dSI dSU dTO dNU dHA dHI dHU dHE dHO dMU dRA dRI dRU dRE dRO
    PARENTHESIZED_HANGUL_KIYEOK cNIEUN cTIKEUT cRIEUL cMIEUM cPIEUP cSIOS cIEUNG cCIEUC cCHIEUCH
    cKHIEUKH cTHIEUTH cPHIEUPH cHIEUH cKIYEOK_A cbNIEUN_ cbTIKEUT_ cbRIEUL_ cbMIEUM_ cbPIEUP_
    cbSIOS_ cbIEUNG_ cbCIEUC_ cbCHIEUCH_ cbKHIEUKH_ cbTHIEUTH_ cbPHIEUPH_ cbHIEUH_ cCIEUC_U
    bKOREAN_CHARACTER_OJEON dO_HU 3220=bIDEOGRAPH_ONE cTWO cTHREE cFOUR cFIVE cSIX cSEVEN cEIGHT
    cNINE cTEN cMOON cFIRE cWATER cWOOD cMETAL cEARTH cSUN cSTOCK cHAVE cSOCIETY cNAME cSPECIAL
    cFINANCIAL cCONGRATULATION cLABOR cREPRESENT cCALL cSTUDY cSUPERVISE cENTERPRISE cRESOURCE
    cALLIANCE cFESTIVAL cREST cSELF cREACH CIRCLED_IDEOGRAPH_QUESTION cKINDERGARTEN cSCHOOL cKOTO
    bNUMBER_TEN_ON_BLACK_SQUARE cdTWENTY_ cdTHIRTY_ cdFORTY_ cdFIFTY_ cdSIXTY_ cdSEVENTY_ cdEIGHTY_
    PARTNERSHIP_SIGN CIRCLED_NUMBER_TWENTY_ONE dTWO dTHREE dFOUR dFIVE dSIX dSEVEN dEIGHT dNINE
    cTHIRTY cTHIRTY_ONE dTWO dTHREE dFOUR dFIVE bHANGUL_KIYEOK cNIEUN cTIKEUT cRIEUL cMIEUM cPIEUP
    cSIOS cIEUNG cCIEUC cCHIEUCH cKHIEUKH cTHIEUTH cPHIEUPH cHIEUH cKIYEOK_A cbNIEUN_ cbTIKEUT_
    cbRIEUL_ cbMIEUM_ cbPIEUP_ cbSIOS_ cbIEUNG_ cbCIEUC_ cbCHIEUCH_ cbKHIEUKH_ cbTHIEUTH_ cbPHIEUPH_
    cbHIEUH_ bKOREAN_CHARACTER_CHAMKO dJUEUI bHANGUL_IEUNG_U KOREAN_STANDARD_SYMBOL
    CIRCLED_IDEOGRAPH_ONE cTWO cTHREE cFOUR cFIVE cSIX cSEVEN cEIGHT cNINE cTEN cMOON cFIRE cWATER
    cWOOD cMETAL cEARTH cSUN cSTOCK cHAVE cSOCIETY cNAME cSPECIAL cFINANCIAL cCONGRATULATION cLABOR
    cSECRET cMALE cFEMALE cSUITABLE cEXCELLENT cPRINT cATTENTION cITEM cREST cCOPY cCORRECT cHIGH
    cCENTRE cLOW cLEFT cRIGHT cMEDICINE cRELIGION cSTUDY cSUPERVISE cENTERPRISE cRESOURCE cALLIANCE
    cNIGHT bNUMBER_THIRTY_SIX dSEVEN dEIGHT dNINE cFORTY cFORTY_ONE dTWO dTHREE dFOUR dFIVE dSIX
    dSEVEN dEIGHT dNINE cFIFTY IDEOGRAPHIC_TELEGRAPH_SYMBOL_FOR_JANUARY eFEBRUARY eMARCH eAPRIL eMAY
    eJUNE eJULY eAUGUST eSEPTEMBER eOCTOBER eNOVEMBER eDECEMBER SQUARE_HG bERG bEV
    LIMITED_LIABILITY_SIGN CIRCLED_KATAKANA_A cI cU cE cO cKA cKI cKU cKE cKO cSA cSI cSU cSE cSO
    cTA cTI cTU cTE cTO cNA cNI cNU cNE cNO cHA cHI cHU cHE cHO cMA cMI cMU cME cMO cYA cYU cYO cRA
    cRI cRU cRE cRO cWA cWI cWE cWO SQUARE_ERA_NAME_REIWA bAPAATO bARUHUA bANPEA bAARU bININGU bINTI
    bUON bESUKUUDO bEEKAA bONSU bOOMU bKAIRI bKARATTO bKARORII bGARON bGANMA bGIGA bGINII bKYURII
    bGIRUDAA bKIRO bKIROGURAMU bKIROMEETORU bKIROWATTO bGURAMU bGURAMUTON bKURUZEIRO bKUROONE bKEESU
    bKORUNA bKOOPO bSAIKURU bSANTIIMU bSIRINGU bSENTI bSENTO bDAASU bDESI bDORU bTON bNANO bNOTTO
    bHAITU bPAASENTO bPAATU bBAARERU bPIASUTORU bPIKURU bPIKO bBIRU bHUARADDO bHUIITO bBUSSYERU
    bHURAN bHEKUTAARU bPESO bPENIHI bHERUTU bPENSU bPEEZI bBEETA bPOINTO bBORUTO bHON bPONDO bHOORU
    bHOON bMAIKURO bMAIRU bMAHHA bMARUKU bMANSYON bMIKURON bMIRI bMIRIBAARU bMEGA bMEGATON bMEETORU
    bYAADO bYAARU bYUAN bRITTORU bRIRA bRUPII bRUUBURU bREMU bRENTOGEN bWATTO
    IDEOGRAPHIC_TELEGRAPH_SYMBOL_FOR_HOUR_ZERO fONE fTWO fTHREE fFOUR fFIVE fSIX fSEVEN fEIGHT fNINE
    fTEN fELEVEN fTWELVE fTHIRTEEN fFOURTEEN fFIFTEEN fSIXTEEN fSEVENTEEN fEIGHTEEN fNINETEEN
    fTWENTY fTWENTY-ONE gTWO gTHREE gFOUR SQUARE_HPA bDA bAU bBAR bOV bPC bDM bDM_SQUARED cCUBED bIU
    bERA_NAME_HEISEI dSYOUWA dTAISYOU dMEIZI bCORPORATION bPA_AMPS bNA bMU_A bMA bKA bKB bMB bGB
    bCAL bKCAL bPF bNF bMU_F cG bMG bKG bHZ bKHZ bMHZ bGHZ bTHZ bMU_L bML bDL bKL bFM bNM bMU_M bMM
    bCM bKM bMM_SQUARED bbCM_ bbM_ bbKM_ bMM_CUBED bbCM_ bbM_ bbKM_ bM_OVER_S dS_SQUARED bPA bKPA
    bMPA bGPA bRAD bRAD_OVER_S dS_SQUARED bPS bNS bMU_S bMS bPV bNV bMU_V bMV bKV bMV_MEGA bPW bNW
    bMU_W bMW bKW bMW_MEGA bK_OHM bbM_ bAM bBQ bCC bCD bC_OVER_KG bCO bDB bGY bHA bHP bIN bKK
    bKM_CAPITAL bKT bLM bLN bLOG bLX bMB_SMALL bMIL bMOL bPH bPM bPPM bPR bSR bSV bWB bV_OVER_M bcA_
    IDEOGRAPHIC_TELEGRAPH_SYMBOL_FOR_DAY_ONE fTWO fTHREE fFOUR fFIVE fSIX fSEVEN fEIGHT fNINE fTEN
    fELEVEN fTWELVE fTHIRTEEN fFOURTEEN fFIFTEEN fSIXTEEN fSEVENTEEN fEIGHTEEN fNINETEEN fTWENTY
    fTWENTY-ONE gTWO gTHREE gFOUR gFIVE gSIX gSEVEN gEIGHT gNINE fTHIRTY fTHIRTY-ONE SQUARE_GAL
    4DC0=HEXAGRAM_FOR_THE_CREATIVE_HEAVEN dRECEPTIVE_EARTH cDIFFICULTY_AT_THE_BEGINNING
    cYOUTHFUL_FOLLY cWAITING cCONFLICT cTHE_ARMY cHOLDING_TOGETHER cSMALL_TAMING cTREADING cPEACE
    cSTANDSTILL cFELLOWSHIP cGREAT_POSSESSION cMODESTY cENTHUSIASM cFOLLOWING cWORK_ON_THE_DECAYED
    cAPPROACH cCONTEMPLATION cBITING_THROUGH cGRACE cSPLITTING_APART cRETURN cINNOCENCE
    cGREAT_TAMING cMOUTH_CORNERS cGREAT_PREPONDERANCE cTHE_ABYSMAL_WATER dCLINGING_FIRE cINFLUENCE
    cDURATION cRETREAT cGREAT_POWER cPROGRESS cDARKENING_OF_THE_LIGHT cTHE_FAMILY cOPPOSITION
    cOBSTRUCTION cDELIVERANCE cDECREASE cINCREASE cBREAKTHROUGH cCOMING_TO_MEET cGATHERING_TOGETHER
    cPUSHING_UPWARD cOPPRESSION cTHE_WELL cREVOLUTION cTHE_CAULDRON dAROUSING_THUNDER
    dKEEPING_STILL_MOUNTAIN cDEVELOPMENT cTHE_MARRYING_MAIDEN cABUNDANCE cTHE_WANDERER dGENTLE_WIND
    dJOYOUS_LAKE cDISPERSION cLIMITATION cINNER_TRUTH cSMALL_PREPONDERANCE cAFTER_COMPLETION
    cbBEFORE_ A000=YI_SYLLABLE_IT cIX cI cIP cIET cIEX cIE cIEP cAT cAX cA cAP cUOX cUO cUOP cOT cOX
    cO cOP cEX cE cWU cBIT cBIX cBI cBIP cBIET cBIEX cBIE cBIEP cBAT cBAX cBA cBAP cBUOX cBUO cBUOP
    cBOT cBOX cBO cBOP cBEX cBE cBEP cBUT cBUX cBU cBUP cBURX cBUR cBYT cBYX cBY cBYP cBYRX cBYR
    cPIT cPIX cPI cPIP cPIEX cPIE cPIEP cPAT cPAX cPA cPAP cPUOX cPUO cPUOP cPOT cPOX cPO cPOP cPUT
    cPUX cPU cPUP cPURX cPUR cPYT cPYX cPY cPYP cPYRX cPYR cBBIT cBBIX cBBI cBBIP cBBIET cBBIEX
    cBBIE cBBIEP cBBAT cBBAX cBBA cBBAP cBBUOX cBBUO cBBUOP cBBOT cBBOX cBBO cBBOP cBBEX cBBE cBBEP
    cBBUT cBBUX cBBU cBBUP cBBURX cBBUR cBBYT cBBYX cBBY cBBYP cNBIT cNBIX cNBI cNBIP cNBIEX cNBIE
    cNBIEP cNBAT cNBAX cNBA cNBAP cNBOT cNBOX cNBO cNBOP cNBUT cNBUX cNBU cNBUP cNBURX cNBUR cNBYT
    cNBYX cNBY cNBYP cNBYRX cNBYR cHMIT cHMIX cHMI cHMIP cHMIEX cHMIE cHMIEP cHMAT cHMAX cHMA cHMAP
    cHMUOX cHMUO cHMUOP cHMOT cHMOX cHMO cHMOP cHMUT cHMUX cHMU cHMUP cHMURX cHMUR cHMYX cHMY cHMYP
    cHMYRX cHMYR cMIT cMIX cMI cMIP cMIEX cMIE cMIEP cMAT cMAX cMA cMAP cMUOT cMUOX cMUO cMUOP cMOT
    cMOX cMO cMOP cMEX cME cMUT cMUX cMU cMUP cMURX cMUR cMYT cMYX cMY cMYP cFIT cFIX cFI cFIP cFAT
    cFAX cFA cFAP cFOX cFO cFOP cFUT cFUX cFU cFUP cFURX cFUR cFYT cFYX cFY cFYP cVIT cVIX cVI cVIP
    cVIET cVIEX cVIE cVIEP cVAT cVAX cVA cVAP cVOT cVOX cVO cVOP cVEX cVEP cVUT cVUX cVU cVUP cVURX
    cVUR cVYT cVYX cVY cVYP cVYRX cVYR cDIT cDIX cDI cDIP cDIEX cDIE cDIEP cDAT cDAX cDA cDAP cDUOX
    cDUO cDOT cDOX cDO cDOP cDEX cDE cDEP cDUT cDUX cDU cDUP cDURX cDUR cTIT cTIX cTI cTIP cTIEX
    cTIE cTIEP cTAT cTAX cTA cTAP cTUOT cTUOX cTUO cTUOP cTOT cTOX cTO cTOP cTEX cTE cTEP cTUT cTUX
    cTU cTUP cTURX cTUR cDDIT cDDIX cDDI cDDIP cDDIEX cDDIE cDDIEP cDDAT cDDAX cDDA cDDAP cDDUOX
    cDDUO cDDUOP cDDOT cDDOX cDDO cDDOP cDDEX cDDE cDDEP cDDUT cDDUX cDDU cDDUP cDDURX cDDUR cNDIT
    cNDIX cNDI cNDIP cNDIEX cNDIE cNDAT cNDAX cNDA cNDAP cNDOT cNDOX cNDO cNDOP cNDEX cNDE cNDEP
    cNDUT cNDUX cNDU cNDUP cNDURX cNDUR cHNIT cHNIX cHNI cHNIP cHNIET cHNIEX cHNIE cHNIEP cHNAT
    cHNAX cHNA cHNAP cHNUOX cHNUO cHNOT cHNOX cHNOP cHNEX cHNE cHNEP cHNUT cNIT cNIX cNI cNIP cNIEX
    cNIE cNIEP cNAX cNA cNAP cNUOX cNUO cNUOP cNOT cNOX cNO cNOP cNEX cNE cNEP cNUT cNUX cNU cNUP
    cNURX cNUR cHLIT cHLIX cHLI cHLIP cHLIEX cHLIE cHLIEP cHLAT cHLAX cHLA cHLAP cHLUOX cHLUO cHLUOP
    cHLOX cHLO cHLOP cHLEX cHLE cHLEP cHLUT cHLUX cHLU cHLUP cHLURX cHLUR cHLYT cHLYX cHLY cHLYP
    cHLYRX cHLYR cLIT cLIX cLI cLIP cLIET cLIEX cLIE cLIEP cLAT cLAX cLA cLAP cLUOT cLUOX cLUO cLUOP
    cLOT cLOX cLO cLOP cLEX cLE cLEP cLUT cLUX cLU cLUP cLURX cLUR cLYT cLYX cLY cLYP cLYRX cLYR
    cGIT cGIX cGI cGIP cGIET cGIEX cGIE cGIEP cGAT cGAX cGA cGAP cGUOT cGUOX cGUO cGUOP cGOT cGOX
    cGO cGOP cGET cGEX cGE cGEP cGUT cGUX cGU cGUP cGURX cGUR cKIT cKIX cKI cKIP cKIEX cKIE cKIEP
    cKAT cKAX cKA cKAP cKUOX cKUO cKUOP cKOT cKOX cKO cKOP cKET cKEX cKE cKEP cKUT cKUX cKU cKUP
    cKURX cKUR cGGIT cGGIX cGGI cGGIEX cGGIE cGGIEP cGGAT cGGAX cGGA cGGAP cGGUOT cGGUOX cGGUO
    cGGUOP cGGOT cGGOX cGGO cGGOP cGGET cGGEX cGGE cGGEP cGGUT cGGUX cGGU cGGUP cGGURX cGGUR cMGIEX
    cMGIE cMGAT cMGAX cMGA cMGAP cMGUOX cMGUO cMGUOP cMGOT cMGOX cMGO cMGOP cMGEX cMGE cMGEP cMGUT
    cMGUX cMGU cMGUP cMGURX cMGUR cHXIT cHXIX cHXI cHXIP cHXIET cHXIEX cHXIE cHXIEP cHXAT cHXAX cHXA
    cHXAP cHXUOT cHXUOX cHXUO cHXUOP cHXOT cHXOX cHXO cHXOP cHXEX cHXE cHXEP cNGIEX cNGIE cNGIEP
    cNGAT cNGAX cNGA cNGAP cNGUOT cNGUOX cNGUO cNGOT cNGOX cNGO cNGOP cNGEX cNGE cNGEP cHIT cHIEX
    cHIE cHAT cHAX cHA cHAP cHUOT cHUOX cHUO cHUOP cHOT cHOX cHO cHOP cHEX cHE cHEP cWAT cWAX cWA
    cWAP cWUOX cWUO cWUOP cWOX cWO cWOP cWEX cWE cWEP cZIT cZIX cZI cZIP cZIEX cZIE cZIEP cZAT cZAX
    cZA cZAP cZUOX cZUO cZUOP cZOT cZOX cZO cZOP cZEX cZE cZEP cZUT cZUX cZU cZUP cZURX cZUR cZYT
    cZYX cZY cZYP cZYRX cZYR cCIT cCIX cCI cCIP cCIET cCIEX cCIE cCIEP cCAT cCAX cCA cCAP cCUOX cCUO
    cCUOP cCOT cCOX cCO cCOP cCEX cCE cCEP cCUT cCUX cCU cCUP cCURX cCUR cCYT cCYX cCY cCYP cCYRX
    cCYR cZZIT cZZIX cZZI cZZIP cZZIET cZZIEX cZZIE cZZIEP cZZAT cZZAX cZZA cZZAP cZZOX cZZO cZZOP
    cZZEX cZZE cZZEP cZZUX cZZU cZZUP cZZURX cZZUR cZZYT cZZYX cZZY cZZYP cZZYRX cZZYR cNZIT cNZIX
    cNZI cNZIP cNZIEX cNZIE cNZIEP cNZAT cNZAX cNZA cNZAP cNZUOX cNZUO cNZOX cNZOP cNZEX cNZE cNZUX
    cNZU cNZUP cNZURX cNZUR cNZYT cNZYX cNZY cNZYP cNZYRX cNZYR cSIT cSIX cSI cSIP cSIEX cSIE cSIEP
    cSAT cSAX cSA cSAP cSUOX cSUO cSUOP cSOT cSOX cSO cSOP cSEX cSE cSEP cSUT cSUX cSU cSUP cSURX
    cSUR cSYT cSYX cSY cSYP cSYRX cSYR cSSIT cSSIX cSSI cSSIP cSSIEX cSSIE cSSIEP cSSAT cSSAX cSSA
    cSSAP cSSOT cSSOX cSSO cSSOP cSSEX cSSE cSSEP cSSUT cSSUX cSSU cSSUP cSSYT cSSYX cSSY cSSYP
    cSSYRX cSSYR cZHAT cZHAX cZHA cZHAP cZHUOX cZHUO cZHUOP cZHOT cZHOX cZHO cZHOP cZHET cZHEX cZHE
    cZHEP cZHUT cZHUX cZHU cZHUP cZHURX cZHUR cZHYT cZHYX cZHY cZHYP cZHYRX cZHYR cCHAT cCHAX cCHA
    cCHAP cCHUOT cCHUOX cCHUO cCHUOP cCHOT cCHOX cCHO cCHOP cCHET cCHEX cCHE cCHEP cCHUX cCHU cCHUP
    cCHURX cCHUR cCHYT cCHYX cCHY cCHYP cCHYRX cCHYR cRRAX cRRA cRRUOX cRRUO cRROT cRROX cRRO cRROP
    cRRET cRREX cRRE cRREP cRRUT cRRUX cRRU cRRUP cRRURX cRRUR cRRYT cRRYX cRRY cRRYP cRRYRX cRRYR
    cNRAT cNRAX cNRA cNRAP cNROX cNRO cNROP cNRET cNREX cNRE cNREP cNRUT cNRUX cNRU cNRUP cNRURX
    cNRUR cNRYT cNRYX cNRY cNRYP cNRYRX cNRYR cSHAT cSHAX cSHA cSHAP cSHUOX cSHUO cSHUOP cSHOT cSHOX
    cSHO cSHOP cSHET cSHEX cSHE cSHEP cSHUT cSHUX cSHU cSHUP cSHURX cSHUR cSHYT cSHYX cSHY cSHYP
    cSHYRX cSHYR cRAT cRAX cRA cRAP cRUOX cRUO cRUOP cROT cROX cRO cROP cREX cRE cREP cRUT cRUX cRU
    cRUP cRURX cRUR cRYT cRYX cRY cRYP cRYRX cRYR cJIT cJIX cJI cJIP cJIET cJIEX cJIE cJIEP cJUOT
    cJUOX cJUO cJUOP cJOT cJOX cJO cJOP cJUT cJUX cJU cJUP cJURX cJUR cJYT cJYX cJY cJYP cJYRX cJYR
    cQIT cQIX cQI cQIP cQIET cQIEX cQIE cQIEP cQUOT cQUOX cQUO cQUOP cQOT cQOX cQO cQOP cQUT cQUX
    cQU cQUP cQURX cQUR cQYT cQYX cQY cQYP cQYRX cQYR cJJIT cJJIX cJJI cJJIP cJJIET cJJIEX cJJIE
    cJJIEP cJJUOX cJJUO cJJUOP cJJOT cJJOX cJJO cJJOP cJJUT cJJUX cJJU cJJUP cJJURX cJJUR cJJYT
    cJJYX cJJY cJJYP cNJIT cNJIX cNJI cNJIP cNJIET cNJIEX cNJIE cNJIEP cNJUOX cNJUO cNJOT cNJOX cNJO
    cNJOP cNJUX cNJU cNJUP cNJURX cNJUR cNJYT cNJYX cNJY cNJYP cNJYRX cNJYR cNYIT cNYIX cNYI cNYIP
    cNYIET cNYIEX cNYIE cNYIEP cNYUOX cNYUO cNYUOP cNYOT cNYOX cNYO cNYOP cNYUT cNYUX cNYU cNYUP
    cXIT cXIX cXI cXIP cXIET cXIEX cXIE cXIEP cXUOX cXUO cXOT cXOX cXO cXOP cXYT cXYX cXY cXYP cXYRX
    cXYR cYIT cYIX cYI cYIP cYIET cYIEX cYIE cYIEP cYUOT cYUOX cYUO cYUOP cYOT cYOX cYO cYOP cYUT
    cYUX cYU cYUP cYURX cYUR cYYT cYYX cYY cYYP cYYRX cYYR A490=bRADICAL_QOT cLI cKIT cNYIP cCYP
    cSSI cGGOP cGEP cMI cHXIT cLYR cBBUT cMOP cYO cPUT cHXUO cTAT cGA cZUP cCYT cDDUR cBUR cGGUO
    cNYOP cTU cOP cJJUT cZOT cPYT cHMO cYIT cVUR cSHY cVEP cZA cJO cNZUP cJJY cGOT cJJIE cWO cDU
    cSHUR cLIE cCY cCUOP cCIP cHXOP cSHAT cZUR cSHOP cCHE cZZIET cNBIE cKE A4D0=LISU_LETTER_BA cPA
    cPHA cDA cTA cTHA cGA cKA cKHA cJA cCA cCHA cDZA cTSA cTSHA cMA cNA cLA cSA cZHA cZA cNGA cHA
    cXA cHHA cFA cWA cSHA cYA cGHA cA cAE cE cEU cI cO cU cUE cUH cOE cTONE_MYA_TI dNA_PO dMYA_CYA
    eBO eNA eJEU bPUNCTUATION_COMMA cFULL_STOP VAI_SYLLABLE_EE cEEN cHEE cWEE cWEEN cPEE cBHEE cBEE
    cMBEE cKPEE cMGBEE cGBEE cFEE cVEE cTEE cTHEE cDHEE cDHHEE cLEE cREE cDEE cNDEE cSEE cSHEE cZEE
    cZHEE cCEE cJEE cNJEE cYEE cKEE cNGGEE cGEE cMEE cNEE cNYEE cI cIN cHI cHIN cWI cWIN cPI cBHI
    cBI cMBI cKPI cMGBI cGBI cFI cVI cTI cTHI cDHI cDHHI cLI cRI cDI cNDI cSI cSHI cZI cZHI cCI cJI
    cNJI cYI cKI cNGGI cGI cMI cNI cNYI cA cAN cNGAN cHA cHAN cWA cWAN cPA cBHA cBA cMBA cKPA cKPAN
    cMGBA cGBA cFA cVA cTA cTHA cDHA cDHHA cLA cRA cDA cNDA cSA cSHA cZA cZHA cCA cJA cNJA cYA cKA
    cKAN cNGGA cGA cMA cNA cNYA cOO cOON cHOO cWOO cWOON cPOO cBHOO cBOO cMBOO cKPOO cMGBOO cGBOO
    cFOO cVOO cTOO cTHOO cDHOO cDHHOO cLOO cROO cDOO cNDOO cSOO cSHOO cZOO cZHOO cCOO cJOO cNJOO
    cYOO cKOO cNGGOO cGOO cMOO cNOO cNYOO cU cUN cHU cHUN cWU cWUN cPU cBHU cBU cMBU cKPU cMGBU cGBU
    cFU cVU cTU cTHU cDHU cDHHU cLU cRU cDU cNDU cSU cSHU cZU cZHU cCU cJU cNJU cYU cKU cNGGU cGU
    cMU cNU cNYU cO cON cNGON cHO cHON cWO cWON cPO cBHO cBO cMBO cKPO cMGBO cGBO cGBON cFO cVO cTO
    cTHO cDHO cDHHO cLO cRO cDO cNDO cSO cSHO cZO cZHO cCO cJO cNJO cYO cKO cNGGO cGO cMO cNO cNYO
    cE cEN cNGEN cHE cHEN cWE cWEN cPE cBHE cBE cMBE cKPE cKPEN cMGBE cGBE cGBEN cFE cVE cTE cTHE
    cDHE cDHHE cLE cRE cDE cNDE cSE cSHE cZE cZHE cCE cJE cNJE cYE cKE cNGGE cNGGEN cGE cGEN cME cNE
    cNYE cNG cLENGTHENER bCOMMA bFULL_STOP bQUESTION_MARK bSYLLABLE_NDOLE_FA dKA dSOO bSYMBOL_FEENG
    cKEENG cTING cNII cBANG cFAA cTAA cDANG cDOONG cKUNG cTONG cDO-O cJONG bDIGIT_ZERO cONE cTWO
    cTHREE cFOUR cFIVE cSIX cSEVEN cEIGHT cNINE bSYLLABLE_NDOLE_MA dDO
    A640=CYRILLIC_CAPITAL_LETTER_ZEMLYA bcSMALL_ bCAPITAL_LETTER_DZELO bcSMALL_
    bCAPITAL_LETTER_REVERSED_DZE bdSMALL_ bCAPITAL_LETTER_IOTA bcSMALL_ bCAPITAL_LETTER_DJERV
    bcSMALL_ bCAPITAL_LETTER_MONOGRAPH_UK bdSMALL_ bCAPITAL_LETTER_BROAD_OMEGA bdSMALL_
    bCAPITAL_LETTER_NEUTRAL_YER bdSMALL_ bbCAPITAL_LETTER_YERU_WITH_BACK_ bfSMALL_
    bCAPITAL_LETTER_IOTIFIED_YAT bdSMALL_ bCAPITAL_LETTER_REVERSED_YU bdSMALL_
    bCAPITAL_LETTER_IOTIFIED_A bdSMALL_ bCAPITAL_LETTER_CLOSED_LITTLE_YUS beSMALL_
    bbCAPITAL_LETTER_BLENDED_ bdSMALL_ bbCAPITAL_LETTER_IOTIFIED_CLOSED_LITTLE_ bfSMALL_
    bCAPITAL_LETTER_YN bcSMALL_ bCAPITAL_LETTER_REVERSED_TSE bdSMALL_ bCAPITAL_LETTER_SOFT_DE
    bdSMALL_ bCAPITAL_LETTER_SOFT_EL bdSMALL_ bCAPITAL_LETTER_SOFT_EM bdSMALL_
    bCAPITAL_LETTER_MONOCULAR_O bdSMALL_ bbCAPITAL_LETTER_BINOCULAR_ bdSMALL_
    bbCAPITAL_LETTER_DOUBLE_MONOCULAR_ beSMALL_ bbLETTER_MULTIOCULAR_ COMBINING_CYRILLIC_VZMET
    cTEN_MILLIONS_SIGN ccHUNDRED_ ccTHOUSAND_ SLAVONIC_ASTERISK
    COMBINING_CYRILLIC_LETTER_UKRAINIAN_IE dI dYI dU dHARD_SIGN dYERU dSOFT_SIGN dOMEGA cKAVYKA
    cPAYEROK CYRILLIC_KAVYKA bPAYEROK bCAPITAL_LETTER_DWE bcSMALL_ bCAPITAL_LETTER_DZWE bcSMALL_
    bCAPITAL_LETTER_ZHWE bcSMALL_ bCAPITAL_LETTER_CCHE bcSMALL_ bCAPITAL_LETTER_DZZE bcSMALL_
    bCAPITAL_LETTER_TE_WITH_MIDDLE_HOOK bfSMALL_ bCAPITAL_LETTER_TWE bcSMALL_ bCAPITAL_LETTER_TSWE
    bcSMALL_ bCAPITAL_LETTER_TSSE bcSMALL_ bCAPITAL_LETTER_TCHE bcSMALL_ bCAPITAL_LETTER_HWE
    bcSMALL_ bCAPITAL_LETTER_SHWE bcSMALL_ bCAPITAL_LETTER_DOUBLE_O bdSMALL_
    bbCAPITAL_LETTER_CROSSED_ bdSMALL_ MODIFIER_LETTER_CYRILLIC_HARD_SIGN dbSOFT_
    COMBINING_CYRILLIC_LETTER_EF dIOTIFIED_E BAMUM_LETTER_A cKA cU cKU cEE cREE cTAE cO cNYI cI cLA
    cPA cRII cRIEE cLEEEE cMEEEE cTAA cNDAA cNJAEM cM cSUU cMU cSHII cSI cSHEUX cSEUX cKYEE cKET
    cNUAE cNU cNJUAE cYOQ cSHU cYUQ cYA cNSHA cKEUX cPEUX cNJEE cNTEE cPUE cWUE cPEE cFEE cRU cLU
    cMI cNI cREUX cRAE cKEN cNGKWAEN cNGGA cNGA cSHO cPUAE cFU cFOM cWA cNA cLI cPI cLOQ cKO cMBEN
    cREN cMEN cMA cTI cKI cMO cMBAA cTET cKPA cTEN cNTUU cSAMBA cFAAMAE cKOVUU cKOGHOM
    bCOMBINING_MARK_KOQNDON dTUKWENTIS bNJAEMLI bFULL_STOP bCOLON bCOMMA bSEMICOLON bQUESTION_MARK
    A700=MODIFIER_LETTER_CHINESE_TONE_YIN_PING ebYANG_ eYIN_SHANG ebYANG_ eYIN_QU ebYANG_ eYIN_RU
    ebYANG_ cEXTRA-HIGH_DOTTED_TONE_BAR ce cdMID_ cdLOW_ ceEXTRA- dcHIGH_DOTTED_LEFT-STEM_ cg cfMID_
    cfLOW_ cgEXTRA- deHIGH_ cf ceMID_ ceLOW_ cfEXTRA- cbDOT_VERTICAL_ dSLASH dHORIZONTAL_BAR
    cLOWER_RIGHT_CORNER_ANGLE cRAISED_UP_ARROW dbDOWN_ dEXCLAMATION_MARK dcINVERTED_ cdLOW_
    cSTRESS_AND_HIGH_TONE ebLOW_ LATIN_CAPITAL_LETTER_EGYPTOLOGICAL_ALEF bdSMALL_
    bCAPITAL_LETTER_EGYPTOLOGICAL_AIN bdSMALL_ bCAPITAL_LETTER_HENG bcSMALL_ bCAPITAL_LETTER_TZ
    bcSMALL_ bCAPITAL_LETTER_TRESILLO bcSMALL_ bCAPITAL_LETTER_CUATRILLO bcSMALL_
    bCAPITAL_LETTER_CUATRILLO_WITH_COMMA beSMALL_ bLETTER_SMALL_CAPITAL_F eS bCAPITAL_LETTER_AA
    bcSMALL_ bCAPITAL_LETTER_AO bcSMALL_ bCAPITAL_LETTER_AU bcSMALL_ bCAPITAL_LETTER_AV bcSMALL_
    bCAPITAL_LETTER_AV_WITH_HORIZONTAL_BAR bfSMALL_ bCAPITAL_LETTER_AY bcSMALL_
    bCAPITAL_LETTER_REVERSED_C_WITH_DOT bfSMALL_ bCAPITAL_LETTER_K_WITH_STROKE beSMALL_
    bbCAPITAL_LETTER_K_WITH_DIAGONAL_ bfSMALL_ bcCAPITAL_LETTER_K_WITH_STROKE_AND_ bhSMALL_
    bCAPITAL_LETTER_BROKEN_L bdSMALL_ bCAPITAL_LETTER_L_WITH_HIGH_STROKE bfSMALL_
    bCAPITAL_LETTER_O_WITH_LONG_STROKE_OVERLAY bgSMALL_ bCAPITAL_LETTER_O_WITH_LOOP beSMALL_
    bCAPITAL_LETTER_OO bcSMALL_ bCAPITAL_LETTER_P_WITH_STROKE_THROUGH_DESCENDER bgSMALL_
    bCAPITAL_LETTER_P_WITH_FLOURISH beSMALL_ bCAPITAL_LETTER_P_WITH_SQUIRREL_TAIL bfSMALL_
    bCAPITAL_LETTER_Q_WITH_STROKE_THROUGH_DESCENDER bgSMALL_ bCAPITAL_LETTER_Q_WITH_DIAGONAL_STROKE
    bfSMALL_ bCAPITAL_LETTER_R_ROTUNDA bdSMALL_ bbCAPITAL_LETTER_RUM_ bdSMALL_
    bCAPITAL_LETTER_V_WITH_DIAGONAL_STROKE bfSMALL_ bCAPITAL_LETTER_VY bcSMALL_
    bCAPITAL_LETTER_VISIGOTHIC_Z bdSMALL_ bCAPITAL_LETTER_THORN_WITH_STROKE beSMALL_
    bCAPITAL_LETTER_THORN_WITH_STROKE_THROUGH_DESCENDER bgSMALL_ bCAPITAL_LETTER_VEND bcSMALL_
    bCAPITAL_LETTER_ET bcSMALL_ bCAPITAL_LETTER_IS bcSMALL_ bCAPITAL_LETTER_CON bcSMALL_
    MODIFIER_LETTER_US LATIN_SMALL_LETTER_DUM dLUM dMUM dNUM dRUM bbLETTER_SMALL_CAPITAL_
    bSMALL_LETTER_TUM dUM bCAPITAL_LETTER_INSULAR_D bdSMALL_ bCAPITAL_LETTER_INSULAR_F bdSMALL_
    bCAPITAL_LETTER_INSULAR_G dcTURNED_ beSMALL_ bCAPITAL_LETTER_TURNED_L bdSMALL_
    bCAPITAL_LETTER_INSULAR_R bdSMALL_ bCAPITAL_LETTER_INSULAR_S bdSMALL_ bCAPITAL_LETTER_INSULAR_T
    bdSMALL_ MODIFIER_LETTER_LOW_CIRCUMFLEX_ACCENT cCOLON cSHORT_EQUALS_SIGN
    LATIN_CAPITAL_LETTER_SALTILLO bcSMALL_ bCAPITAL_LETTER_TURNED_H
    bSMALL_LETTER_L_WITH_RETROFLEX_HOOK_AND_BELT bLETTER_SINOLOGICAL_DOT
    bCAPITAL_LETTER_N_WITH_DESCENDER beSMALL_ bCAPITAL_LETTER_C_WITH_BAR beSMALL_ fPALATAL_HOOK ddH_
    bCAPITAL_LETTER_B_WITH_FLOURISH beSMALL_ bCAPITAL_LETTER_F_WITH_STROKE beSMALL_
    bCAPITAL_LETTER_VOLAPUK_AE bdSMALL_ bCAPITAL_LETTER_VOLAPUK_OE bdSMALL_
    bCAPITAL_LETTER_VOLAPUK_UE bdSMALL_ bCAPITAL_LETTER_G_WITH_OBLIQUE_STROKE bfSMALL_
    bdCAPITAL_LETTER_K_ bfSMALL_ bdCAPITAL_LETTER_N_ bfSMALL_ bdCAPITAL_LETTER_R_ bfSMALL_
    bdCAPITAL_LETTER_S_ bfSMALL_ bCAPITAL_LETTER_H_WITH_HOOK dREVERSED_OPEN_E dSCRIPT_G dL_WITH_BELT
    dSMALL_CAPITAL_I bLETTER_SMALL_CAPITAL_Q bCAPITAL_LETTER_TURNED_K eT dJ_WITH_CROSSED-TAIL dCHI
    dBETA bcSMALL_ bCAPITAL_LETTER_OMEGA bcSMALL_ bCAPITAL_LETTER_U_WITH_STROKE beSMALL_
    bCAPITAL_LETTER_GLOTTAL_A bdSMALL_ bCAPITAL_LETTER_GLOTTAL_I bdSMALL_ bCAPITAL_LETTER_GLOTTAL_U
    bdSMALL_ bCAPITAL_LETTER_OLD_POLISH_O beSMALL_ bCAPITAL_LETTER_ANGLICANA_W bdSMALL_
    bCAPITAL_LETTER_C_WITH_PALATAL_HOOK dbS_WITH_ dbZ_WITH_PALATAL_ dD_WITH_SHORT_STROKE_OVERLAY
    bgSMALL_ beCAPITAL_LETTER_S_ bgSMALL_ A7D0=bCAPITAL_LETTER_CLOSED_INSULAR_G beSMALL_
    A7D3=dDOUBLE_THORN A7D5=eWYNN bCAPITAL_LETTER_MIDDLE_SCOTS_S beSMALL_ bbCAPITAL_LETTER_SIGMOID_
    bdSMALL_ A7F2=MODIFIER_LETTER_CAPITAL_C dF dQ LATIN_CAPITAL_LETTER_REVERSED_HALF_H beSMALL_
    bEPIGRAPHIC_LETTER_SIDEWAYS_I MODIFIER_LETTER_CAPITAL_H_WITH_STROKE cSMALL_LIGATURE_OE
    LATIN_LETTER_SMALL_CAPITAL_TURNED_M bEPIGRAPHIC_LETTER_REVERSED_F eP dINVERTED_M dI_LONGA
    dARCHAIC_M SYLOTI_NAGRI_LETTER_A dI cSIGN_DVISVARA cLETTER_U dE dO cSIGN_HASANTA cLETTER_KO dKHO
    dGO dGHO cSIGN_ANUSVARA cLETTER_CO dCHO dJO dJHO dTTO dTTHO dDDO dDDHO dTO dTHO dDO dDHO dNO dPO
    dPHO dBO dBHO dMO dRO dLO dRRO dSO dHO cVOWEL_SIGN_A eI eU eE eOO cPOETRY_MARK-1 e2 e3 e4
    cSIGN_ALTERNATE_HASANTA A830=NORTH_INDIC_FRACTION_ONE_QUARTER eHALF dTHREE_QUARTERS
    dONE_SIXTEENTH eEIGHTH dTHREE_SIXTEENTHS cQUARTER_MARK cbPLACEHOLDER_ cbRUPEE_ cbQUANTITY_
    A840=PHAGS-PA_LETTER_KA dKHA dGA dNGA dCA dCHA dJA dNYA dTA dTHA dDA dNA dPA dPHA dBA dMA dTSA
    dTSHA dDZA dWA dZHA dZA dSMALL_A dYA dRA dLA dSHA dSA dHA dA dI dU dE dO dQA dXA dFA dGGA dEE
    cSUBJOINED_LETTER_WA eYA cLETTER_TTA dTTHA dDDA dNNA dALTERNATE_YA dVOICELESS_SHA dVOICED_HA
    dASPIRATED_FA cSUBJOINED_LETTER_RA ccSUPERFIXED_ cLETTER_CANDRABINDU cSINGLE_HEAD_MARK ccDOUBLE_
    cMARK_SHAD dbDOUBLE_ A880=SAURASHTRA_SIGN_ANUSVARA cVISARGA bLETTER_A cAA cI cII cU cUU
    cVOCALIC_R dRR dL dLL cE cEE cAI cO cOO cAU cKA cKHA cGA cGHA cNGA cCA cCHA cJA cJHA cNYA cTTA
    cTTHA cDDA cDDHA cNNA cTA cTHA cDA cDHA cNA cPA cPHA cBA cBHA cMA cYA cRA cLA cVA cSHA cSSA cSA
    cHA cLLA bCONSONANT_SIGN_HAARU bVOWEL_SIGN_AA dI dII dU dUU dVOCALIC_R eRR eL eLL dE dEE dAI dO
    dOO dAU bSIGN_VIRAMA cCANDRABINDU A8CE=bDANDA bbDOUBLE_ bDIGIT_ZERO cONE cTWO cTHREE cFOUR cFIVE
    cSIX cSEVEN cEIGHT cNINE A8E0=COMBINING_DEVANAGARI_DIGIT_ZERO dONE dTWO dTHREE dFOUR dFIVE dSIX
    dSEVEN dEIGHT dNINE cLETTER_A dU dKA dNA dPA dRA dVI cSIGN_AVAGRAHA
    DEVANAGARI_SIGN_SPACING_CANDRABINDU cCANDRABINDU_VIRAMA ccDOUBLE_ cCANDRABINDU_TWO dTHREE
    dAVAGRAHA cPUSHPIKA bGAP_FILLER bCARET bHEADSTROKE bSIGN_SIDDHAM bJAIN_OM bLETTER_AY
    bbVOWEL_SIGN_ KAYAH_LI_DIGIT_ZERO dONE dTWO dTHREE dFOUR dFIVE dSIX dSEVEN dEIGHT dNINE
    cLETTER_KA dKHA dGA dNGA dSA dSHA dZA dNYA dTA dHTA dNA dPA dPHA dMA dDA dBA dRA dYA dLA dWA
    dTHA dHA dVA dCA dA dOE dI dOO cVOWEL_UE dE dU dEE dO cTONE_PLOPHU dCALYA dCALYA_PLOPHU
    cSIGN_CWI dSHYA REJANG_LETTER_KA cGA cNGA cTA cDA cNA cPA cBA cMA cCA cJA cNYA cSA cRA cLA cYA
    cWA cHA cMBA cNGGA cNDA cNYJA cA bVOWEL_SIGN_I dU dE dAI dO dAU dEU dEA bCONSONANT_SIGN_NG dN dR
    dH bVIRAMA A95F=bSECTION_MARK HANGUL_CHOSEONG_TIKEUT-MIEUM dPIEUP dSIOS dCIEUC cRIEUL-KIYEOK
    dSSANGKIYEOK dTIKEUT dSSANGTIKEUT dMIEUM dPIEUP dSSANGPIEUP dKAPYEOUNPIEUP dSIOS dCIEUC dKHIEUKH
    cMIEUM-KIYEOK dTIKEUT dSIOS cPIEUP-SIOS-THIEUTH dKHIEUKH dHIEUH cSSANGSIOS-PIEUP cIEUNG-RIEUL
    dHIEUH cbSSANGCIEUC- cSSANGTHIEUTH cPHIEUPH-HIEUH cHIEUH-SIOS cSSANGYEORINHIEUH
    A980=JAVANESE_SIGN_PANYANGGA cCECAK cLAYAR cWIGNYAN bLETTER_A cI_KAWI cI cII cU cPA_CEREK
    cNGA_LELET dLELET_RASWADI cE cAI cO cKA cKA_SASAK dMURDA cGA cGA_MURDA cNGA cCA cCA_MURDA cJA
    cNYA_MURDA cJA_MAHAPRANA cNYA cTTA cTTA_MAHAPRANA cDDA cDDA_MAHAPRANA cNA_MURDA cTA cTA_MURDA
    cDA cDA_MAHAPRANA cNA cPA cPA_MURDA cBA cBA_MURDA cMA cYA cRA cRA_AGUNG cLA cWA cSA_MURDA
    dMAHAPRANA cSA cHA bSIGN_CECAK_TELU bVOWEL_SIGN_TARUNG dTOLONG dWULU dWULU_MELIK dSUKU
    dSUKU_MENDUT dTALING dDIRGA_MURE dPEPET bCONSONANT_SIGN_KERET dPENGKAL dCAKRA bPANGKON
    bLEFT_RERENGGAN bbRIGHT_ bPADA_ANDAP cMADYA cLUHUR cWINDU cPANGKAT cLINGSA cLUNGSI cADEG cbADEG_
    cPISELEH bcTURNED_ A9CF=bPANGRANGKEP bDIGIT_ZERO cONE cTWO cTHREE cFOUR cFIVE cSIX cSEVEN cEIGHT
    cNINE A9DE=bPADA_TIRTA_TUMETES cISEN-ISEN MYANMAR_LETTER_SHAN_GHA dCHA dJHA dNNA dBHA
    bSIGN_SHAN_SAW bMODIFIER_LETTER_SHAN_REDUPLICATION bLETTER_TAI_LAING_NYA eFA eGA eGHA eJA eJHA
    eDDA eDDHA eNNA bTAI_LAING_DIGIT_ZERO eONE eTWO eTHREE eFOUR eFIVE eSIX eSEVEN eEIGHT eNINE
    bLETTER_TAI_LAING_LLA eDA eDHA eBA eBHA AA00=CHAM_LETTER_A cI cU cE cAI cO cKA cKHA cGA cGHA
    cNGUE cNGA cCHA cCHHA cJA cJHA cNHUE cNHA cNHJA cTA cTHA cDA cDHA cNUE cNA cDDA cPA cPPA cPHA
    cBA cBHA cMUE cMA cBBA cYA cRA cLA cVA cSSA cSA cHA bVOWEL_SIGN_AA dI dII dEI dU dOE dO dAI dAU
    dUE bCONSONANT_SIGN_YA dRA dLA dWA AA40=bLETTER_FINAL_K dG dNG bcCONSONANT_SIGN_
    bLETTER_FINAL_CH dT dN dP dY dR dL dSS bCONSONANT_SIGN_FINAL_M eH AA50=bDIGIT_ZERO cONE cTWO
    cTHREE cFOUR cFIVE cSIX cSEVEN cEIGHT cNINE AA5C=bPUNCTUATION_SPIRAL cDANDA cbDOUBLE_ cbTRIPLE_
    MYANMAR_LETTER_KHAMTI_GA dCA dCHA dJA dJHA dNYA dTTA dTTHA dDDA dDDHA dDHA dNA dSA dHA dHHA dFA
    bMODIFIER_LETTER_KHAMTI_REDUPLICATION bLETTER_KHAMTI_XA dZA dRA bLOGOGRAM_KHAMTI_OAY dQN dHM
    bSYMBOL_AITON_EXCLAMATION dONE dTWO bLETTER_AITON_RA bSIGN_PAO_KAREN_TONE cTAI_LAING_TONE-2 f5
    bLETTER_SHWE_PALAUNG_CHA eSHA TAI_VIET_LETTER_LOW_KO dbHIGH_ dLOW_KHO dbHIGH_ dLOW_KHHO dbHIGH_
    dLOW_GO dbHIGH_ dLOW_NGO dbHIGH_ dLOW_CO dbHIGH_ dLOW_CHO dbHIGH_ dLOW_SO dbHIGH_ dLOW_NYO
    dbHIGH_ dLOW_DO dbHIGH_ dLOW_TO dbHIGH_ dLOW_THO dbHIGH_ dLOW_NO dbHIGH_ dLOW_BO dbHIGH_ dLOW_PO
    dbHIGH_ dLOW_PHO dbHIGH_ dLOW_FO dbHIGH_ dLOW_MO dbHIGH_ dLOW_YO dbHIGH_ dLOW_RO dbHIGH_ dLOW_LO
    dbHIGH_ dLOW_VO dbHIGH_ dLOW_HO dbHIGH_ dLOW_O dbHIGH_ cMAI_KANG cVOWEL_AA dI dUE dU dE dO
    cMAI_KHIT cVOWEL_IA dUEA dUA dAUE dAY dAN dAM cTONE_MAI_EK eNUENG eTHO eSONG AADB=cSYMBOL_KON
    dNUENG dSAM dHO_HOI dKOI_KOI MEETEI_MAYEK_LETTER_E dO dCHA dNYA dTTA dTTHA dDDA dDDHA dNNA dSHA
    dSSA cVOWEL_SIGN_II eUU eAAI eAU eAAU cCHEIKHAN cAHANG_KHUDAM cANJI cSYLLABLE_REPETITION_MARK
    ccWORD_ cVOWEL_SIGN_VISARGA cVIRAMA AB01=ETHIOPIC_SYLLABLE_TTHU cTTHI cTTHAA cTTHEE cTTHE cTTHO
    AB09=cDDHU cDDHI cDDHAA cDDHEE cDDHE cDDHO AB11=cDZU cDZI cDZAA cDZEE cDZE cDZO AB20=cCCHHA
    cCCHHU cCCHHI cCCHHAA cCCHHEE cCCHHE cCCHHO AB28=cBBA cBBU cBBI cBBAA cBBEE cBBE cBBO
    AB30=LATIN_SMALL_LETTER_BARRED_ALPHA dA_REVERSED-SCHWA dBLACKLETTER_E dbBARRED_ dE_WITH_FLOURISH
    dLENIS_F dSCRIPT_G_WITH_CROSSED-TAIL dL_WITH_INVERTED_LAZY_S fDOUBLE_MIDDLE_TILDE fMIDDLE_RING
    dM_WITH_CROSSED-TAIL ddN_ ddENG_ dBLACKLETTER_O eO_WITH_STROKE ddOPEN_ dINVERTED_OE
    dTURNED_OE_WITH_STROKE gbHORIZONTAL_ eO_OPEN-O gO_WITH_STROKE dSTIRRUP_R
    bLETTER_SMALL_CAPITAL_R_WITH_RIGHT_LEG bSMALL_LETTER_R_WITHOUT_HANDLE dDOUBLE_R
    dR_WITH_CROSSED-TAIL deDOUBLE_ dSCRIPT_R eR_WITH_RING dBASELINE_ESH dU_WITH_SHORT_RIGHT_LEG
    eeBAR_ dUI dbTURNED_ dU_WITH_LEFT_HOOK dCHI dCHI_WITH_LOW_RIGHT_RING gLEFT_SERIF
    dX_WITH_LOW_RIGHT_RING fLONG_LEFT_LEG hLEG_AND_LOW_RIGHT_RING iWITH_SERIF
    dY_WITH_SHORT_RIGHT_LEG MODIFIER_BREVE_WITH_INVERTED_BREVE bLETTER_SMALL_HENG
    dL_WITH_INVERTED_LAZY_S fMIDDLE_TILDE dU_WITH_LEFT_HOOK LATIN_SMALL_LETTER_SAKHA_YAT dIOTIFIED_E
    dOPEN_OE dUO dINVERTED_ALPHA GREEK_LETTER_SMALL_CAPITAL_OMEGA
    LATIN_SMALL_LETTER_DZ_DIGRAPH_WITH_RETROFLEX_HOOK deTS_ dTURNED_R_WITH_MIDDLE_TILDE
    MODIFIER_LETTER_SMALL_TURNED_W cLEFT_TACK cbRIGHT_ AB70=CHEROKEE_SMALL_LETTER_A dE dI dO dU dV
    dGA dKA dGE dGI dGO dGU dGV dHA dHE dHI dHO dHU dHV dLA dLE dLI dLO dLU dLV dMA dME dMI dMO dMU
    dNA dHNA dNAH dNE dNI dNO dNU dNV dQUA dQUE dQUI dQUO dQUU dQUV dSA dS dSE dSI dSO dSU dSV dDA
    dTA dDE dTE dDI dTI dDO dDU dDV dDLA dTLA dTLE dTLI dTLO dTLU dTLV dTSA dTSE dTSI dTSO dTSU dTSV
    dWA dWE dWI dWO dWU dWV dYA MEETEI_MAYEK_LETTER_KOK dSAM dLAI dMIT dPA dNA dCHIL dTIL dKHOU
    dNGOU dTHOU dWAI dYANG dHUK dUN dI dPHAM dATIYA dGOK dJHAM dRAI dBA dJIL dDIL dGHOU dDHOU dBHAM
    dKOK_LONSUM dbLAI_ dbMIT_ dbPA_ dbNA_ dbTIL_ dbNGOU_ dbI_ cVOWEL_SIGN_ONAP eINAP eANAP eYENAP
    eSOUNAP eUNAP eCHEINAP eNUNG cCHEIKHEI cLUM_IYEK cbAPUN_ ABF0=cDIGIT_ZERO dONE dTWO dTHREE dFOUR
    dFIVE dSIX dSEVEN dEIGHT dNINE D7B0=HANGUL_JUNGSEONG_O-YEO dO-I cYO-A dAE dEO cU-YEO dI-I cYU-AE
    dO cEU-A dEO dE dO cbI-YA- dYAE dYEO dYE dO-I dYO dYU dI cARAEA-A dE D7CB=bJONGSEONG_NIEUN-RIEUL
    dCHIEUCH cSSANGTIKEUT cSSANGTIKEUT-PIEUP cbTIKEUT- dSIOS dSIOS-KIYEOK dCIEUC dCHIEUCH dTHIEUTH
    cRIEUL-SSANGKIYEOK dKIYEOK-HIEUH cSSANGRIEUL-KHIEUKH cRIEUL-MIEUM-HIEUH dPIEUP-TIKEUT ePHIEUPH
    dYESIEUNG dYEORINHIEUH-HIEUH cKAPYEOUNRIEUL cMIEUM-NIEUN dSSANGNIEUN cSSANGMIEUM
    cMIEUM-PIEUP-SIOS dCIEUC cPIEUP-TIKEUT dRIEUL-PHIEUPH dMIEUM cSSANGPIEUP cPIEUP-SIOS-TIKEUT
    dCIEUC dCHIEUCH cSIOS-MIEUM dKAPYEOUNPIEUP cSSANGSIOS-KIYEOK dTIKEUT cSIOS-PANSIOS dCIEUC
    dCHIEUCH dTHIEUTH dHIEUH cPANSIOS-PIEUP dKAPYEOUNPIEUP cYESIEUNG-MIEUM dHIEUH cCIEUC-PIEUP
    dSSANGPIEUP cSSANGCIEUC cPHIEUPH-SIOS dTHIEUTH FB00=LATIN_SMALL_LIGATURE_FF dFI dFL dFFI dFFL
    dLONG_S_T dST FB13=ARMENIAN_SMALL_LIGATURE_MEN_NOW eECH eINI dVEW_NOW dMEN_XEH
    FB1D=HEBREW_LETTER_YOD_WITH_HIRIQ bPOINT_JUDEO-SPANISH_VARIKA bLIGATURE_YIDDISH_YOD_YOD_PATAH
    bLETTER_ALTERNATIVE_AYIN cWIDE_ALEF dDALET dHE dKAF dLAMED dFINAL_MEM dRESH dTAV
    cALTERNATIVE_PLUS_SIGN cSHIN_WITH_SHIN_DOT ebSIN_ ebDAGESH_AND_SHIN_ gbSIN_ cALEF_WITH_PATAH
    eQAMATS eMAPIQ cBET_WITH_DAGESH ccGIMEL_ ccDALET_ cHE_WITH_MAPIQ cVAV_WITH_DAGESH ccZAYIN_
    FB38=ccTET_ ccYOD_ ccFINAL_KAF_ cd ccLAMED_ FB3E=ccMEM_ FB40=ccNUN_ ccSAMEKH_ FB43=ccFINAL_PE_
    cd FB46=ccTSADI_ ccQOF_ ccRESH_ ccSHIN_ ccTAV_ cVAV_WITH_HOLAM cBET_WITH_RAFE ccKAF_ ccPE_
    bLIGATURE_ALEF_LAMED ARABIC_LETTER_ALEF_WASLA_ISOLATED_FORM ebFINAL_ cbBEEH_ISOLATED_ dbFINAL_
    dbINITIAL_ dbMEDIAL_ cbPEH_ISOLATED_ dbFINAL_ dbINITIAL_ dbMEDIAL_ cbBEHEH_ISOLATED_ dbFINAL_
    dbINITIAL_ dbMEDIAL_ cbTTEHEH_ISOLATED_ dbFINAL_ dbINITIAL_ dbMEDIAL_ cbTEHEH_ISOLATED_ dbFINAL_
    dbINITIAL_ dbMEDIAL_ cbTTEH_ISOLATED_ dbFINAL_ dbINITIAL_ dbMEDIAL_ cbVEH_ISOLATED_ dbFINAL_
    dbINITIAL_ dbMEDIAL_ cbPEHEH_ISOLATED_ dbFINAL_ dbINITIAL_ dbMEDIAL_ cbDYEH_ISOLATED_ dbFINAL_
    dbINITIAL_ dbMEDIAL_ cbNYEH_ISOLATED_ dbFINAL_ dbINITIAL_ dbMEDIAL_ cbTCHEH_ISOLATED_ dbFINAL_
    dbINITIAL_ dbMEDIAL_ cbTCHEHEH_ISOLATED_ dbFINAL_ dbINITIAL_ dbMEDIAL_ cbDDAHAL_ISOLATED_
    dbFINAL_ cbDAHAL_ISOLATED_ dbFINAL_ cbDUL_ISOLATED_ dbFINAL_ cbDDAL_ISOLATED_ dbFINAL_
    cbJEH_ISOLATED_ dbFINAL_ cbRREH_ISOLATED_ dbFINAL_ cbKEHEH_ISOLATED_ dbFINAL_ dbINITIAL_
    dbMEDIAL_ cbGAF_ISOLATED_ dbFINAL_ dbINITIAL_ dbMEDIAL_ cbGUEH_ISOLATED_ dbFINAL_ dbINITIAL_
    dbMEDIAL_ cbNGOEH_ISOLATED_ dbFINAL_ dbINITIAL_ dbMEDIAL_ cbNOON_GHUNNA_ISOLATED_ ebFINAL_
    cbRNOON_ISOLATED_ dbFINAL_ dbINITIAL_ dbMEDIAL_ cbHEH_WITH_YEH_ABOVE_ISOLATED_ gbFINAL_
    dbGOAL_ISOLATED_ ebFINAL_ ebINITIAL_ ebMEDIAL_ dbDOACHASHMEE_ISOLATED_ ebFINAL_ ebINITIAL_
    ebMEDIAL_ cbYEH_BARREE_ISOLATED_ ebFINAL_ ebWITH_HAMZA_ABOVE_ISOLATED_ hbFINAL_
    bSYMBOL_DOT_ABOVE dBELOW cTWO_DOTS_ABOVE eBELOW cTHREE_DOTS_ABOVE eBELOW
    ePOINTING_DOWNWARDS_ABOVE gBELOW cFOUR_DOTS_ABOVE eBELOW cbDOUBLE_VERTICAL_BAR_
    cTWO_DOTS_VERTICALLY_ABOVE fBELOW cRING cSMALL_TAH_ABOVE eBELOW cWASLA_ABOVE
    FBD3=bLETTER_NG_ISOLATED_FORM dbFINAL_ dbINITIAL_ dbMEDIAL_ cbU_ISOLATED_ dbFINAL_
    cbOE_ISOLATED_ dbFINAL_ cbYU_ISOLATED_ dbFINAL_ cbU_WITH_HAMZA_ABOVE_ISOLATED_ ccVE_ dbFINAL_
    cbKIRGHIZ_OE_ISOLATED_ ebFINAL_ dbYU_ISOLATED_ ebFINAL_ cbE_ISOLATED_ dbFINAL_ dbINITIAL_
    dbMEDIAL_ cbUIGHUR_KAZAKH_KIRGHIZ_ALEF_MAKSURA_INITIAL_ hbMEDIAL_
    bbLIGATURE_YEH_WITH_HAMZA_ABOVE_WITH_ALEF_ISOLATED_ ibFINAL_ hbAE_ISOLATED_ ibFINAL_
    hbWAW_ISOLATED_ ibFINAL_ hbU_ISOLATED_ ibFINAL_ hbOE_ISOLATED_ ibFINAL_ hbYU_ISOLATED_ ibFINAL_
    hbE_ISOLATED_ ibFINAL_ ibINITIAL_
    cbUIGHUR_KIRGHIZ_YEH_WITH_HAMZA_ABOVE_WITH_ALEF_MAKSURA_ISOLATED_ lbFINAL_ lbINITIAL_
    bbLETTER_FARSI_YEH_ISOLATED_ ebFINAL_ ebINITIAL_ ebMEDIAL_
    bbLIGATURE_YEH_WITH_HAMZA_ABOVE_WITH_JEEM_ISOLATED_ hcHAH_ hcMEEM_ hcALEF_MAKSURA_ hcYEH_
    ccBEH_WITH_JEEM_ ecHAH_ ecKHAH_ ecMEEM_ ecALEF_MAKSURA_ ecYEH_ ccTEH_WITH_JEEM_ ecHAH_ ecKHAH_
    ecMEEM_ ecALEF_MAKSURA_ ecYEH_ ccTHEH_WITH_JEEM_ ecMEEM_ ecALEF_MAKSURA_ ecYEH_ ccJEEM_WITH_HAH_
    ecMEEM_ ccHAH_WITH_JEEM_ ecMEEM_ ccKHAH_WITH_JEEM_ ecHAH_ ecMEEM_ ccSEEN_WITH_JEEM_ ecHAH_
    ecKHAH_ ecMEEM_ ccSAD_WITH_HAH_ ecMEEM_ ccDAD_WITH_JEEM_ ecHAH_ ecKHAH_ ecMEEM_ ccTAH_WITH_HAH_
    ecMEEM_ ceZAH_ ccAIN_WITH_JEEM_ ecMEEM_ ccGHAIN_WITH_JEEM_ ecMEEM_ ccFEH_WITH_JEEM_ ecHAH_
    ecKHAH_ ecMEEM_ ecALEF_MAKSURA_ ecYEH_ ccQAF_WITH_HAH_ ecMEEM_ ecALEF_MAKSURA_ ecYEH_
    ccKAF_WITH_ALEF_ ecJEEM_ ecHAH_ ecKHAH_ ecLAM_ ecMEEM_ ecALEF_MAKSURA_ ecYEH_ ccLAM_WITH_JEEM_
    ecHAH_ ecKHAH_ ecMEEM_ ecALEF_MAKSURA_ ecYEH_ ccMEEM_WITH_JEEM_ ecHAH_ ecKHAH_ ecMEEM_
    ecALEF_MAKSURA_ ecYEH_ ccNOON_WITH_JEEM_ ecHAH_ ecKHAH_ ecMEEM_ ecALEF_MAKSURA_ ecYEH_
    ccHEH_WITH_JEEM_ ecMEEM_ ecALEF_MAKSURA_ ecYEH_ ccYEH_WITH_JEEM_ ecHAH_ ecKHAH_ ecMEEM_
    ecALEF_MAKSURA_ ecYEH_ ccTHAL_WITH_SUPERSCRIPT_ALEF_ cfREH_ cfALEF_MAKSURA_
    ccSHADDA_WITH_DAMMATAN_ ecKASRATAN_ ecFATHA_ ecDAMMA_ ecKASRA_ ecSUPERSCRIPT_ALEF_
    cbYEH_WITH_HAMZA_ABOVE_WITH_REH_FINAL_ hcZAIN_ hcMEEM_ hcNOON_ hcALEF_MAKSURA_ hcYEH_
    ccBEH_WITH_REH_ ecZAIN_ ecMEEM_ ecNOON_ ecALEF_MAKSURA_ ecYEH_ ccTEH_WITH_REH_ ecZAIN_ ecMEEM_
    ecNOON_ ecALEF_MAKSURA_ ecYEH_ ccTHEH_WITH_REH_ ecZAIN_ ecMEEM_ ecNOON_ ecALEF_MAKSURA_ ecYEH_
    ccFEH_WITH_ALEF_MAKSURA_ ecYEH_ ccQAF_WITH_ALEF_MAKSURA_ ecYEH_ ccKAF_WITH_ALEF_ ecLAM_ ecMEEM_
    ecALEF_MAKSURA_ ecYEH_ ccLAM_WITH_MEEM_ ecALEF_MAKSURA_ ecYEH_ ccMEEM_WITH_ALEF_ ecMEEM_
    ccNOON_WITH_REH_ ecZAIN_ ecMEEM_ ecNOON_ ecALEF_MAKSURA_ ecYEH_
    ccALEF_MAKSURA_WITH_SUPERSCRIPT_ALEF_ ccYEH_WITH_REH_ ecZAIN_ ecMEEM_ ecNOON_ ecALEF_MAKSURA_
    ecYEH_ ebHAMZA_ABOVE_WITH_JEEM_INITIAL_ hcHAH_ hcKHAH_ hcMEEM_ hcHEH_ ccBEH_WITH_JEEM_ ecHAH_
    ecKHAH_ ecMEEM_ ecHEH_ ccTEH_WITH_JEEM_ ecHAH_ ecKHAH_ ecMEEM_ ecHEH_ ccTHEH_WITH_MEEM_
    ccJEEM_WITH_HAH_ ecMEEM_ ccHAH_WITH_JEEM_ ecMEEM_ ccKHAH_WITH_JEEM_ ecMEEM_ ccSEEN_WITH_JEEM_
    ecHAH_ ecKHAH_ ecMEEM_ ccSAD_WITH_HAH_ ecKHAH_ ecMEEM_ ccDAD_WITH_JEEM_ ecHAH_ ecKHAH_ ecMEEM_
    ccTAH_WITH_HAH_ ccZAH_WITH_MEEM_ ccAIN_WITH_JEEM_ ecMEEM_ ccGHAIN_WITH_JEEM_ ecMEEM_
    ccFEH_WITH_JEEM_ ecHAH_ ecKHAH_ ecMEEM_ ccQAF_WITH_HAH_ ecMEEM_ ccKAF_WITH_JEEM_ ecHAH_ ecKHAH_
    ecLAM_ ecMEEM_ ccLAM_WITH_JEEM_ ecHAH_ ecKHAH_ ecMEEM_ ecHEH_ ccMEEM_WITH_JEEM_ ecHAH_ ecKHAH_
    ecMEEM_ ccNOON_WITH_JEEM_ ecHAH_ ecKHAH_ ecMEEM_ ecHEH_ ccHEH_WITH_JEEM_ ecMEEM_
    ecSUPERSCRIPT_ALEF_ ccYEH_WITH_JEEM_ ecHAH_ ecKHAH_ ecMEEM_ ecHEH_
    ebHAMZA_ABOVE_WITH_MEEM_MEDIAL_ hcHEH_ ccBEH_WITH_MEEM_ ecHEH_ ccTEH_WITH_MEEM_ ecHEH_
    ccTHEH_WITH_MEEM_ ecHEH_ ccSEEN_WITH_MEEM_ ecHEH_ ccSHEEN_WITH_MEEM_ ecHEH_ ccKAF_WITH_LAM_
    ecMEEM_ ceLAM_ ceNOON_ ecHEH_ ccYEH_WITH_MEEM_ ecHEH_ ccSHADDA_WITH_FATHA_ ecDAMMA_ ecKASRA_
    cbTAH_WITH_ALEF_MAKSURA_ISOLATED_ ecYEH_ ccAIN_WITH_ALEF_MAKSURA_ ecYEH_
    ccGHAIN_WITH_ALEF_MAKSURA_ ecYEH_ ccSEEN_WITH_ALEF_MAKSURA_ ecYEH_ ccSHEEN_WITH_ALEF_MAKSURA_
    ecYEH_ ccHAH_WITH_ALEF_MAKSURA_ ecYEH_ ccJEEM_WITH_ALEF_MAKSURA_ ecYEH_
    ccKHAH_WITH_ALEF_MAKSURA_ ecYEH_ ccSAD_WITH_ALEF_MAKSURA_ ecYEH_ ccDAD_WITH_ALEF_MAKSURA_ ecYEH_
    ccSHEEN_WITH_JEEM_ ecHAH_ ecKHAH_ ecMEEM_ ecREH_ ceSEEN_ ceSAD_ ceDAD_
    cbTAH_WITH_ALEF_MAKSURA_FINAL_ ecYEH_ ccAIN_WITH_ALEF_MAKSURA_ ecYEH_ ccGHAIN_WITH_ALEF_MAKSURA_
    ecYEH_ ccSEEN_WITH_ALEF_MAKSURA_ ecYEH_ ccSHEEN_WITH_ALEF_MAKSURA_ ecYEH_
    ccHAH_WITH_ALEF_MAKSURA_ ecYEH_ ccJEEM_WITH_ALEF_MAKSURA_ ecYEH_ ccKHAH_WITH_ALEF_MAKSURA_
    ecYEH_ ccSAD_WITH_ALEF_MAKSURA_ ecYEH_ ccDAD_WITH_ALEF_MAKSURA_ ecYEH_ ccSHEEN_WITH_JEEM_ ecHAH_
    ecKHAH_ ecMEEM_ ecREH_ ceSEEN_ ceSAD_ ceDAD_ cbSHEEN_WITH_JEEM_INITIAL_ ecHAH_ ecKHAH_ ecMEEM_
    ccSEEN_WITH_HEH_ ceSHEEN_ ccTAH_WITH_MEEM_ cbSEEN_WITH_JEEM_MEDIAL_ ecHAH_ ecKHAH_
    ccSHEEN_WITH_JEEM_ ecHAH_ ecKHAH_ ccTAH_WITH_MEEM_ ceZAH_ cbALEF_WITH_FATHATAN_FINAL_
    fbISOLATED_ ORNATE_LEFT_PARENTHESIS bbRIGHT_ ARABIC_LIGATURE_RAHIMAHU_ALLAAH cRADI_ALLAAHU_ANH
    eANHAA eANHUM eANHUMAA eANHUNNA cSALLALLAAHU_ALAYHI_WA-AALIH cALAYHI_AS-SALAAM ccALAYHIM_
    ccALAYHIMAA_ cbALAYHI_AS-SALAATU_WAS- cQUDDISA_SIRRAH cSALLALLAHU_ALAYHI_WAAALIHEE_WA-SALLAM
    cALAYHAA_AS-SALAAM cTABAARAKA_WA-TAAALAA cRAHIMAHUM_ALLAAH cTEH_WITH_JEEM_WITH_MEEM_INITIAL_FORM
    ebHAH_WITH_JEEM_FINAL_ hbINITIAL_ gcMEEM_ eeKHAH_ ecMEEM_WITH_JEEM_ gcHAH_ gcKHAH_
    cbJEEM_WITH_MEEM_WITH_HAH_FINAL_ hbINITIAL_ cbHAH_WITH_MEEM_WITH_YEH_FINAL_ gcALEF_MAKSURA_
    cbSEEN_WITH_HAH_WITH_JEEM_INITIAL_ ecJEEM_WITH_HAH_ gbALEF_MAKSURA_FINAL_ ecMEEM_WITH_HAH_
    hbINITIAL_ gcJEEM_ gbMEEM_FINAL_ hbINITIAL_ cbSAD_WITH_HAH_WITH_HAH_FINAL_ hbINITIAL_
    ebMEEM_WITH_MEEM_FINAL_ ceSHEEN_WITH_HAH_ hbINITIAL_ ebJEEM_WITH_YEH_FINAL_ ecMEEM_WITH_KHAH_
    hbINITIAL_ gbMEEM_FINAL_ hbINITIAL_ cbDAD_WITH_HAH_WITH_ALEF_MAKSURA_FINAL_ ecKHAH_WITH_MEEM_
    hbINITIAL_ cbTAH_WITH_MEEM_WITH_HAH_FINAL_ hbINITIAL_ gcMEEM_ gbYEH_FINAL_
    ccAIN_WITH_JEEM_WITH_MEEM_ eeMEEM_ hbINITIAL_ gbALEF_MAKSURA_FINAL_ ccGHAIN_WITH_MEEM_WITH_MEEM_
    gcYEH_ gcALEF_MAKSURA_ ccFEH_WITH_KHAH_WITH_MEEM_ hbINITIAL_ cbQAF_WITH_MEEM_WITH_HAH_FINAL_
    gcMEEM_ ceLAM_WITH_HAH_ gcYEH_ gcALEF_MAKSURA_ ebJEEM_WITH_JEEM_INITIAL_ hbFINAL_
    ecKHAH_WITH_MEEM_ hbINITIAL_ ebMEEM_WITH_HAH_FINAL_ hbINITIAL_ ccMEEM_WITH_HAH_WITH_JEEM_
    gcMEEM_ gbYEH_FINAL_ ebJEEM_WITH_HAH_INITIAL_ gcMEEM_ ecKHAH_WITH_JEEM_ gcMEEM_
    FD92=ecJEEM_WITH_KHAH_ ccHEH_WITH_MEEM_WITH_JEEM_ gcMEEM_ ceNOON_WITH_HAH_ gbALEF_MAKSURA_FINAL_
    ecJEEM_WITH_MEEM_ hbINITIAL_ gbALEF_MAKSURA_FINAL_ ecMEEM_WITH_YEH_ gcALEF_MAKSURA_
    ccYEH_WITH_MEEM_WITH_MEEM_ hbINITIAL_ cbBEH_WITH_KHAH_WITH_YEH_FINAL_ ceTEH_WITH_JEEM_
    gcALEF_MAKSURA_ ecKHAH_WITH_YEH_ gcALEF_MAKSURA_ ecMEEM_WITH_YEH_ gcALEF_MAKSURA_
    ccJEEM_WITH_MEEM_WITH_YEH_ ecHAH_WITH_ALEF_MAKSURA_ efMEEM_ cfSEEN_WITH_KHAH_
    ccSAD_WITH_HAH_WITH_YEH_ cgSHEEN_ cgDAD_ ceLAM_WITH_JEEM_ eeMEEM_ ceYEH_WITH_HAH_ eeJEEM_
    eeMEEM_ cgMEEM_ cgQAF_ ceNOON_WITH_HAH_ cbQAF_WITH_MEEM_WITH_HAH_INITIAL_
    ccLAM_WITH_HAH_WITH_MEEM_ cbAIN_WITH_MEEM_WITH_YEH_FINAL_ cgKAF_
    cbNOON_WITH_JEEM_WITH_HAH_INITIAL_ cbMEEM_WITH_KHAH_WITH_YEH_FINAL_
    cbLAM_WITH_JEEM_WITH_MEEM_INITIAL_ cbKAF_WITH_MEEM_WITH_MEEM_FINAL_ ceLAM_WITH_JEEM_
    ccNOON_WITH_JEEM_WITH_HAH_ ccJEEM_WITH_HAH_WITH_YEH_ ceHAH_WITH_JEEM_ cgMEEM_ ceFEH_WITH_MEEM_
    ceBEH_WITH_HAH_ cbKAF_WITH_MEEM_WITH_MEEM_INITIAL_ ceAIN_WITH_JEEM_ ceSAD_WITH_MEEM_
    cbSEEN_WITH_KHAH_WITH_YEH_FINAL_ ceNOON_WITH_JEEM_ FDCF=cSALAAMUHU_ALAYNAA
    FDF0=cSALLA_USED_AS_KORANIC_STOP_SIGN_ISOLATED_FORM chQALA_ ccALLAH_ ccAKBAR_ ccMOHAMMAD_
    ccSALAM_ ccRASOUL_ ccALAYHE_ ccWASALLAM_ ccSALLA_ cSALLALLAHOU_ALAYHE_WASALLAM cJALLAJALALOUHOU
    RIAL_SIGN ARABIC_LIGATURE_BISMILLAH_AR-RAHMAN_AR-RAHEEM cSUBHAANAHU_WA_TAAALAA cAZZA_WA_JALL
    VARIATION_SELECTOR-1 c2 c3 c4 c5 c6 c7 c8 c9 c10 c11 c12 c13 c14 c15 c16
    PRESENTATION_FORM_FOR_VERTICAL_COMMA ebIDEOGRAPHIC_ fFULL_STOP eCOLON eSEMICOLON
    eEXCLAMATION_MARK ebQUESTION_ eLEFT_WHITE_LENTICULAR_BRACKET eRIGHT_WHITE_LENTICULAR_BRAKCET
    eHORIZONTAL_ELLIPSIS FE20=COMBINING_LIGATURE_LEFT_HALF cbRIGHT_ bbDOUBLE_TILDE_LEFT_ dbRIGHT_
    bbMACRON_LEFT_ cbRIGHT_ bCONJOINING_MACRON bLIGATURE_LEFT_HALF_BELOW ccRIGHT_ bcTILDE_LEFT_
    ccRIGHT_ bcMACRON_LEFT_ ccRIGHT_ bbCONJOINING_MACRON_ bCYRILLIC_TITLO_LEFT_HALF dbRIGHT_
    PRESENTATION_FORM_FOR_VERTICAL_TWO_DOT_LEADER eEM_DASH ebEN_ eLOW_LINE ecWAVY_ eLEFT_PARENTHESIS
    ebRIGHT_ eLEFT_CURLY_BRACKET ecRIGHT_ ebLEFT_TORTOISE_SHELL_ edRIGHT_ ebLEFT_BLACK_LENTICULAR_
    edRIGHT_ ebLEFT_DOUBLE_ANGLE_ edRIGHT_ ecLEFT_ ecRIGHT_ ebLEFT_CORNER_ ecRIGHT_ ecLEFT_WHITE_
    edRIGHT_ SESAME_DOT acWHITE_ PRESENTATION_FORM_FOR_VERTICAL_LEFT_SQUARE_BRACKET ecRIGHT_
    DASHED_OVERLINE abCENTRELINE_ abWAVY_ acDOUBLE_ DASHED_LOW_LINE acCENTRELINE_ acWAVY_
    SMALL_COMMA bbIDEOGRAPHIC_ bFULL_STOP FE54=bSEMICOLON bCOLON bQUESTION_MARK bbEXCLAMATION_
    bEM_DASH bLEFT_PARENTHESIS bbRIGHT_ bLEFT_CURLY_BRACKET bcRIGHT_ bbLEFT_TORTOISE_SHELL_ bdRIGHT_
    bNUMBER_SIGN bAMPERSAND bASTERISK bPLUS_SIGN bHYPHEN-MINUS bLESS-THAN_SIGN bcGREATER- bbEQUALS_
    FE68=bREVERSE_SOLIDUS bDOLLAR_SIGN bbPERCENT_ bCOMMERCIAL_AT FE70=ARABIC_FATHATAN_ISOLATED_FORM
    bTATWEEL_WITH_FATHATAN_ABOVE bDAMMATAN_ISOLATED_FORM bTAIL_FRAGMENT bKASRATAN_ISOLATED_FORM
    FE76=bcFATHA_ cbMEDIAL_ bbDAMMA_ISOLATED_ cbMEDIAL_ bbKASRA_ISOLATED_ cbMEDIAL_
    bbSHADDA_ISOLATED_ cbMEDIAL_ bbSUKUN_ISOLATED_ cbMEDIAL_ bbLETTER_HAMZA_ISOLATED_
    ccALEF_WITH_MADDA_ABOVE_ gbFINAL_ ebHAMZA_ABOVE_ISOLATED_ gbFINAL_
    cbWAW_WITH_HAMZA_ABOVE_ISOLATED_ gbFINAL_ cbALEF_WITH_HAMZA_BELOW_ISOLATED_ gbFINAL_
    cbYEH_WITH_HAMZA_ABOVE_ISOLATED_ gbFINAL_ gbINITIAL_ gbMEDIAL_ cbALEF_ISOLATED_ dbFINAL_
    cbBEH_ISOLATED_ dbFINAL_ dbINITIAL_ dbMEDIAL_ cbTEH_MARBUTA_ISOLATED_ ebFINAL_ dbISOLATED_
    dbFINAL_ dbINITIAL_ dbMEDIAL_ cbTHEH_ISOLATED_ dbFINAL_ dbINITIAL_ dbMEDIAL_ cbJEEM_ISOLATED_
    dbFINAL_ dbINITIAL_ dbMEDIAL_ cbHAH_ISOLATED_ dbFINAL_ dbINITIAL_ dbMEDIAL_ cbKHAH_ISOLATED_
    dbFINAL_ dbINITIAL_ dbMEDIAL_ cbDAL_ISOLATED_ dbFINAL_ cbTHAL_ISOLATED_ dbFINAL_ cbREH_ISOLATED_
    dbFINAL_ cbZAIN_ISOLATED_ dbFINAL_ cbSEEN_ISOLATED_ dbFINAL_ dbINITIAL_ dbMEDIAL_
    cbSHEEN_ISOLATED_ dbFINAL_ dbINITIAL_ dbMEDIAL_ cbSAD_ISOLATED_ dbFINAL_ dbINITIAL_ dbMEDIAL_
    cbDAD_ISOLATED_ dbFINAL_ dbINITIAL_ dbMEDIAL_ cbTAH_ISOLATED_ dbFINAL_ dbINITIAL_ dbMEDIAL_
    cbZAH_ISOLATED_ dbFINAL_ dbINITIAL_ dbMEDIAL_ cbAIN_ISOLATED_ dbFINAL_ dbINITIAL_ dbMEDIAL_
    cbGHAIN_ISOLATED_ dbFINAL_ dbINITIAL_ dbMEDIAL_ cbFEH_ISOLATED_ dbFINAL_ dbINITIAL_ dbMEDIAL_
    cbQAF_ISOLATED_ dbFINAL_ dbINITIAL_ dbMEDIAL_ cbKAF_ISOLATED_ dbFINAL_ dbINITIAL_ dbMEDIAL_
    cbLAM_ISOLATED_ dbFINAL_ dbINITIAL_ dbMEDIAL_ cbMEEM_ISOLATED_ dbFINAL_ dbINITIAL_ dbMEDIAL_
    cbNOON_ISOLATED_ dbFINAL_ dbINITIAL_ dbMEDIAL_ cbHEH_ISOLATED_ dbFINAL_ dbINITIAL_ dbMEDIAL_
    cbWAW_ISOLATED_ dbFINAL_ cbALEF_MAKSURA_ISOLATED_ ebFINAL_ cbYEH_ISOLATED_ dbFINAL_ dbINITIAL_
    dbMEDIAL_ bbLIGATURE_LAM_WITH_ALEF_WITH_MADDA_ABOVE_ISOLATED_ ibFINAL_ gbHAMZA_ABOVE_ISOLATED_
    ibFINAL_ hbBELOW_ISOLATED_ ibFINAL_ fbISOLATED_ fbFINAL_ FEFF=ZERO_WIDTH_NO-BREAK_SPACE
    FF01=FULLWIDTH_EXCLAMATION_MARK bbQUOTATION_ bNUMBER_SIGN bbDOLLAR_ bbPERCENT_ bAMPERSAND
    bAPOSTROPHE bLEFT_PARENTHESIS bbRIGHT_ bASTERISK bPLUS_SIGN bCOMMA bHYPHEN-MINUS bFULL_STOP
    bSOLIDUS bDIGIT_ZERO cONE cTWO cTHREE cFOUR cFIVE cSIX cSEVEN cEIGHT cNINE bCOLON bSEMICOLON
    bLESS-THAN_SIGN bbEQUALS_ bbGREATER-THAN_ bQUESTION_MARK bCOMMERCIAL_AT bLATIN_CAPITAL_LETTER_A
    eB eC eD eE eF eG eH eI eJ eK eL eM eN eO eP eQ eR eS eT eU eV eW eX eY eZ bLEFT_SQUARE_BRACKET
    bREVERSE_SOLIDUS bRIGHT_SQUARE_BRACKET bCIRCUMFLEX_ACCENT bLOW_LINE bGRAVE_ACCENT
    bLATIN_SMALL_LETTER_A eB eC eD eE eF eG eH eI eJ eK eL eM eN eO eP eQ eR eS eT eU eV eW eX eY eZ
    bLEFT_CURLY_BRACKET bVERTICAL_LINE bRIGHT_CURLY_BRACKET bTILDE bLEFT_WHITE_PARENTHESIS bcRIGHT_
    HALFWIDTH_IDEOGRAPHIC_FULL_STOP bLEFT_CORNER_BRACKET bcRIGHT_ bIDEOGRAPHIC_COMMA
    bKATAKANA_MIDDLE_DOT cLETTER_WO dSMALL_A eI eU eE eO eYA eYU eYO eTU
    bKATAKANA-HIRAGANA_PROLONGED_SOUND_MARK bKATAKANA_LETTER_A dI dU dE dO dKA dKI dKU dKE dKO dSA
    dSI dSU dSE dSO dTA dTI dTU dTE dTO dNA dNI dNU dNE dNO dHA dHI dHU dHE dHO dMA dMI dMU dME dMO
    dYA dYU dYO dRA dRI dRU dRE dRO dWA dN cVOICED_SOUND_MARK cdSEMI- bHANGUL_FILLER cLETTER_KIYEOK
    dSSANGKIYEOK dKIYEOK-SIOS dNIEUN dNIEUN-CIEUC eHIEUH dTIKEUT dSSANGTIKEUT dRIEUL dRIEUL-KIYEOK
    eMIEUM ePIEUP eSIOS eTHIEUTH ePHIEUPH eHIEUH dMIEUM dPIEUP dSSANGPIEUP dPIEUP-SIOS db dSSANGSIOS
    dIEUNG dCIEUC dSSANGCIEUC dCHIEUCH dKHIEUKH dTHIEUTH dPHIEUPH dHIEUH FFC2=dA dAE dYA dYAE dEO dE
    FFCA=dYEO dYE dO dWA dWAE dOE FFD2=dYO dU dWEO dWE dWI dYU FFDA=dEU dYI dI
    FFE0=FULLWIDTH_CENT_SIGN bbPOUND_ bbNOT_ bMACRON bBROKEN_BAR bYEN_SIGN bbWON_
    FFE8=HALFWIDTH_FORMS_LIGHT_VERTICAL bLEFTWARDS_ARROW bbUPWARDS_ bbRIGHTWARDS_ bbDOWNWARDS_
    bBLACK_SQUARE bWHITE_CIRCLE FFF9=INTERLINEAR_ANNOTATION_ANCHOR cSEPARATOR cTERMINATOR
    OBJECT_REPLACEMENT_CHARACTER ac"

end KarelLab.Text.Unicode
