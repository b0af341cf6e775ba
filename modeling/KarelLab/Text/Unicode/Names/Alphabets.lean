namespace KarelLab.Text.Unicode

def alphabetNames : String :=
  "20=SPACE EXCLAMATION_MARK abQUOTATION_ NUMBER_SIGN abDOLLAR_ abPERCENT_ AMPERSAND APOSTROPHE
    LEFT_PARENTHESIS abRIGHT_ ASTERISK PLUS_SIGN COMMA HYPHEN-MINUS FULL_STOP SOLIDUS DIGIT_ZERO
    bONE bTWO bTHREE bFOUR bFIVE bSIX bSEVEN bEIGHT bNINE COLON SEMICOLON LESS-THAN_SIGN abEQUALS_
    abGREATER-THAN_ QUESTION_MARK COMMERCIAL_AT LATIN_CAPITAL_LETTER_A dB dC dD dE dF dG dH dI dJ dK
    dL dM dN dO dP dQ dR dS dT dU dV dW dX dY dZ LEFT_SQUARE_BRACKET REVERSE_SOLIDUS
    RIGHT_SQUARE_BRACKET CIRCUMFLEX_ACCENT LOW_LINE GRAVE_ACCENT LATIN_SMALL_LETTER_A dB dC dD dE dF
    dG dH dI dJ dK dL dM dN dO dP dQ dR dS dT dU dV dW dX dY dZ LEFT_CURLY_BRACKET VERTICAL_LINE
    RIGHT_CURLY_BRACKET TILDE A0=NO-BREAK_SPACE INVERTED_EXCLAMATION_MARK CENT_SIGN abPOUND_
    abCURRENCY_ abYEN_ BROKEN_BAR SECTION_SIGN DIAERESIS COPYRIGHT_SIGN FEMININE_ORDINAL_INDICATOR
    LEFT-POINTING_DOUBLE_ANGLE_QUOTATION_MARK NOT_SIGN SOFT_HYPHEN REGISTERED_SIGN MACRON
    DEGREE_SIGN abPLUS-MINUS_ SUPERSCRIPT_TWO bTHREE ACUTE_ACCENT MICRO_SIGN abPILCROW_ MIDDLE_DOT
    CEDILLA SUPERSCRIPT_ONE MASCULINE_ORDINAL_INDICATOR RIGHT-POINTING_DOUBLE_ANGLE_QUOTATION_MARK
    VULGAR_FRACTION_ONE_QUARTER dHALF cTHREE_QUARTERS INVERTED_QUESTION_MARK
    LATIN_CAPITAL_LETTER_A_WITH_GRAVE fACUTE fCIRCUMFLEX fTILDE fDIAERESIS fRING_ABOVE dAE
    dC_WITH_CEDILLA dE_WITH_GRAVE fACUTE fCIRCUMFLEX fDIAERESIS dI_WITH_GRAVE fACUTE fCIRCUMFLEX
    fDIAERESIS dETH dN_WITH_TILDE dO_WITH_GRAVE fACUTE fCIRCUMFLEX fTILDE fDIAERESIS
    MULTIPLICATION_SIGN LATIN_CAPITAL_LETTER_O_WITH_STROKE dU_WITH_GRAVE fACUTE fCIRCUMFLEX
    fDIAERESIS dY_WITH_ACUTE dTHORN bSMALL_LETTER_SHARP_S dA_WITH_GRAVE fACUTE fCIRCUMFLEX fTILDE
    fDIAERESIS fRING_ABOVE dAE dC_WITH_CEDILLA dE_WITH_GRAVE fACUTE fCIRCUMFLEX fDIAERESIS
    dI_WITH_GRAVE fACUTE fCIRCUMFLEX fDIAERESIS dETH dN_WITH_TILDE dO_WITH_GRAVE fACUTE fCIRCUMFLEX
    fTILDE fDIAERESIS DIVISION_SIGN LATIN_SMALL_LETTER_O_WITH_STROKE dU_WITH_GRAVE fACUTE
    fCIRCUMFLEX fDIAERESIS dY_WITH_ACUTE dTHORN dY_WITH_DIAERESIS bCAPITAL_LETTER_A_WITH_MACRON
    beSMALL_ bCAPITAL_LETTER_A_WITH_BREVE beSMALL_ bCAPITAL_LETTER_A_WITH_OGONEK beSMALL_
    bCAPITAL_LETTER_C_WITH_ACUTE beSMALL_ bCAPITAL_LETTER_C_WITH_CIRCUMFLEX beSMALL_
    bCAPITAL_LETTER_C_WITH_DOT_ABOVE bfSMALL_ bCAPITAL_LETTER_C_WITH_CARON beSMALL_
    bcCAPITAL_LETTER_D_ beSMALL_ bCAPITAL_LETTER_D_WITH_STROKE beSMALL_
    bCAPITAL_LETTER_E_WITH_MACRON beSMALL_ bCAPITAL_LETTER_E_WITH_BREVE beSMALL_
    bCAPITAL_LETTER_E_WITH_DOT_ABOVE bfSMALL_ bCAPITAL_LETTER_E_WITH_OGONEK beSMALL_
    bCAPITAL_LETTER_E_WITH_CARON beSMALL_ bCAPITAL_LETTER_G_WITH_CIRCUMFLEX beSMALL_
    bCAPITAL_LETTER_G_WITH_BREVE beSMALL_ bCAPITAL_LETTER_G_WITH_DOT_ABOVE bfSMALL_
    bCAPITAL_LETTER_G_WITH_CEDILLA beSMALL_ bCAPITAL_LETTER_H_WITH_CIRCUMFLEX beSMALL_
    bCAPITAL_LETTER_H_WITH_STROKE beSMALL_ bCAPITAL_LETTER_I_WITH_TILDE beSMALL_
    bCAPITAL_LETTER_I_WITH_MACRON beSMALL_ bCAPITAL_LETTER_I_WITH_BREVE beSMALL_
    bCAPITAL_LETTER_I_WITH_OGONEK beSMALL_ bCAPITAL_LETTER_I_WITH_DOT_ABOVE bSMALL_LETTER_DOTLESS_I
    bCAPITAL_LIGATURE_IJ bcSMALL_ bCAPITAL_LETTER_J_WITH_CIRCUMFLEX beSMALL_
    bCAPITAL_LETTER_K_WITH_CEDILLA beSMALL_ dKRA bCAPITAL_LETTER_L_WITH_ACUTE beSMALL_
    bCAPITAL_LETTER_L_WITH_CEDILLA beSMALL_ bCAPITAL_LETTER_L_WITH_CARON beSMALL_
    bCAPITAL_LETTER_L_WITH_MIDDLE_DOT bfSMALL_ bCAPITAL_LETTER_L_WITH_STROKE beSMALL_
    bCAPITAL_LETTER_N_WITH_ACUTE beSMALL_ bCAPITAL_LETTER_N_WITH_CEDILLA beSMALL_
    bCAPITAL_LETTER_N_WITH_CARON beSMALL_ ePRECEDED_BY_APOSTROPHE bCAPITAL_LETTER_ENG bcSMALL_
    bCAPITAL_LETTER_O_WITH_MACRON beSMALL_ bCAPITAL_LETTER_O_WITH_BREVE beSMALL_
    bCAPITAL_LETTER_O_WITH_DOUBLE_ACUTE bfSMALL_ bCAPITAL_LIGATURE_OE bcSMALL_
    bCAPITAL_LETTER_R_WITH_ACUTE beSMALL_ bCAPITAL_LETTER_R_WITH_CEDILLA beSMALL_
    bCAPITAL_LETTER_R_WITH_CARON beSMALL_ bCAPITAL_LETTER_S_WITH_ACUTE beSMALL_
    bCAPITAL_LETTER_S_WITH_CIRCUMFLEX beSMALL_ bCAPITAL_LETTER_S_WITH_CEDILLA beSMALL_
    bCAPITAL_LETTER_S_WITH_CARON beSMALL_ bCAPITAL_LETTER_T_WITH_CEDILLA beSMALL_
    bCAPITAL_LETTER_T_WITH_CARON beSMALL_ bCAPITAL_LETTER_T_WITH_STROKE beSMALL_
    bCAPITAL_LETTER_U_WITH_TILDE beSMALL_ bCAPITAL_LETTER_U_WITH_MACRON beSMALL_
    bCAPITAL_LETTER_U_WITH_BREVE beSMALL_ bCAPITAL_LETTER_U_WITH_RING_ABOVE bfSMALL_
    bCAPITAL_LETTER_U_WITH_DOUBLE_ACUTE bfSMALL_ bCAPITAL_LETTER_U_WITH_OGONEK beSMALL_
    bCAPITAL_LETTER_W_WITH_CIRCUMFLEX beSMALL_ bcCAPITAL_LETTER_Y_ beSMALL_
    bCAPITAL_LETTER_Y_WITH_DIAERESIS dZ_WITH_ACUTE beSMALL_ bCAPITAL_LETTER_Z_WITH_DOT_ABOVE
    bfSMALL_ bCAPITAL_LETTER_Z_WITH_CARON beSMALL_ dLONG_S dB_WITH_STROKE
    bCAPITAL_LETTER_B_WITH_HOOK fTOPBAR beSMALL_ bCAPITAL_LETTER_TONE_SIX bdSMALL_
    bCAPITAL_LETTER_OPEN_O dC_WITH_HOOK beSMALL_ bCAPITAL_LETTER_AFRICAN_D dD_WITH_HOOK fTOPBAR
    beSMALL_ dTURNED_DELTA bCAPITAL_LETTER_REVERSED_E dSCHWA dOPEN_E dF_WITH_HOOK beSMALL_
    bcCAPITAL_LETTER_G_ dGAMMA bSMALL_LETTER_HV bCAPITAL_LETTER_IOTA dI_WITH_STROKE dK_WITH_HOOK
    beSMALL_ dL_WITH_BAR dLAMBDA_WITH_STROKE bCAPITAL_LETTER_TURNED_M dN_WITH_LEFT_HOOK
    bSMALL_LETTER_N_WITH_LONG_RIGHT_LEG bCAPITAL_LETTER_O_WITH_MIDDLE_TILDE fHORN beSMALL_
    bCAPITAL_LETTER_OI bcSMALL_ bCAPITAL_LETTER_P_WITH_HOOK beSMALL_ bLETTER_YR
    bCAPITAL_LETTER_TONE_TWO bdSMALL_ bCAPITAL_LETTER_ESH bLETTER_REVERSED_ESH_LOOP
    bSMALL_LETTER_T_WITH_PALATAL_HOOK bbCAPITAL_LETTER_T_WITH_ beSMALL_
    bbCAPITAL_LETTER_T_WITH_RETROFLEX_ dU_WITH_HORN beSMALL_ bCAPITAL_LETTER_UPSILON dV_WITH_HOOK
    dcY_ beSMALL_ bCAPITAL_LETTER_Z_WITH_STROKE beSMALL_ bCAPITAL_LETTER_EZH dEZH_REVERSED bdSMALL_
    eWITH_TAIL bLETTER_TWO_WITH_STROKE bCAPITAL_LETTER_TONE_FIVE bdSMALL_
    bLETTER_INVERTED_GLOTTAL_STOP_WITH_STROKE cWYNN cDENTAL_CLICK cbLATERAL_ cbALVEOLAR_
    cbRETROFLEX_ bCAPITAL_LETTER_DZ_WITH_CARON dcD_WITH_SMALL_LETTER_Z_ bcSMALL_LETTER_DZ_
    bCAPITAL_LETTER_LJ dL_WITH_SMALL_LETTER_J bSMALL_LETTER_LJ bCAPITAL_LETTER_NJ
    dN_WITH_SMALL_LETTER_J bSMALL_LETTER_NJ bCAPITAL_LETTER_A_WITH_CARON beSMALL_
    bcCAPITAL_LETTER_I_ beSMALL_ bcCAPITAL_LETTER_O_ beSMALL_ bcCAPITAL_LETTER_U_ beSMALL_
    bCAPITAL_LETTER_U_WITH_DIAERESIS_AND_MACRON bgSMALL_ bCAPITAL_LETTER_U_WITH_DIAERESIS_AND_ACUTE
    bgSMALL_ bCAPITAL_LETTER_U_WITH_DIAERESIS_AND_CARON bgSMALL_
    bCAPITAL_LETTER_U_WITH_DIAERESIS_AND_GRAVE bgSMALL_ dTURNED_E
    bCAPITAL_LETTER_A_WITH_DIAERESIS_AND_MACRON bgSMALL_ bcCAPITAL_LETTER_A_WITH_DOT_ABOVE_ bhSMALL_
    bbCAPITAL_LETTER_AE_WITH_ beSMALL_ bCAPITAL_LETTER_G_WITH_STROKE beSMALL_
    bCAPITAL_LETTER_G_WITH_CARON beSMALL_ bcCAPITAL_LETTER_K_ beSMALL_ bCAPITAL_LETTER_O_WITH_OGONEK
    beSMALL_ bCAPITAL_LETTER_O_WITH_OGONEK_AND_MACRON bgSMALL_ bCAPITAL_LETTER_EZH_WITH_CARON
    beSMALL_ dcJ_ bCAPITAL_LETTER_DZ dD_WITH_SMALL_LETTER_Z bSMALL_LETTER_DZ
    bCAPITAL_LETTER_G_WITH_ACUTE beSMALL_ bCAPITAL_LETTER_HWAIR dWYNN dN_WITH_GRAVE beSMALL_
    bCAPITAL_LETTER_A_WITH_RING_ABOVE_AND_ACUTE bhSMALL_ bbCAPITAL_LETTER_AE_WITH_ beSMALL_
    bbCAPITAL_LETTER_O_WITH_STROKE_AND_ bgSMALL_ bCAPITAL_LETTER_A_WITH_DOUBLE_GRAVE bfSMALL_
    bCAPITAL_LETTER_A_WITH_INVERTED_BREVE bfSMALL_ bCAPITAL_LETTER_E_WITH_DOUBLE_GRAVE bfSMALL_
    bCAPITAL_LETTER_E_WITH_INVERTED_BREVE bfSMALL_ bCAPITAL_LETTER_I_WITH_DOUBLE_GRAVE bfSMALL_
    bCAPITAL_LETTER_I_WITH_INVERTED_BREVE bfSMALL_ bCAPITAL_LETTER_O_WITH_DOUBLE_GRAVE bfSMALL_
    bCAPITAL_LETTER_O_WITH_INVERTED_BREVE bfSMALL_ bCAPITAL_LETTER_R_WITH_DOUBLE_GRAVE bfSMALL_
    bCAPITAL_LETTER_R_WITH_INVERTED_BREVE bfSMALL_ bCAPITAL_LETTER_U_WITH_DOUBLE_GRAVE bfSMALL_
    bCAPITAL_LETTER_U_WITH_INVERTED_BREVE bfSMALL_ bCAPITAL_LETTER_S_WITH_COMMA_BELOW bfSMALL_
    bdCAPITAL_LETTER_T_ bfSMALL_ bCAPITAL_LETTER_YOGH bcSMALL_ bCAPITAL_LETTER_H_WITH_CARON beSMALL_
    bCAPITAL_LETTER_N_WITH_LONG_RIGHT_LEG bSMALL_LETTER_D_WITH_CURL bCAPITAL_LETTER_OU bcSMALL_
    bCAPITAL_LETTER_Z_WITH_HOOK beSMALL_ bCAPITAL_LETTER_A_WITH_DOT_ABOVE bfSMALL_
    bCAPITAL_LETTER_E_WITH_CEDILLA beSMALL_ bCAPITAL_LETTER_O_WITH_DIAERESIS_AND_MACRON bgSMALL_
    bcCAPITAL_LETTER_O_WITH_TILDE_ bgSMALL_ bCAPITAL_LETTER_O_WITH_DOT_ABOVE bfSMALL_
    bCAPITAL_LETTER_O_WITH_DOT_ABOVE_AND_MACRON bhSMALL_ bbCAPITAL_LETTER_Y_WITH_ beSMALL_
    dL_WITH_CURL dcN_ dcT_ dDOTLESS_J dDB_DIGRAPH dbQP_ bCAPITAL_LETTER_A_WITH_STROKE dcC_ beSMALL_
    bCAPITAL_LETTER_L_WITH_BAR dT_WITH_DIAGONAL_STROKE bSMALL_LETTER_S_WITH_SWASH_TAIL ddZ_
    bCAPITAL_LETTER_GLOTTAL_STOP bdSMALL_ bCAPITAL_LETTER_B_WITH_STROKE dU_BAR dTURNED_V
    dE_WITH_STROKE beSMALL_ bcCAPITAL_LETTER_J_ beSMALL_ bCAPITAL_LETTER_SMALL_Q_WITH_HOOK_TAIL
    beSMALL_LETTER_ bCAPITAL_LETTER_R_WITH_STROKE beSMALL_ bcCAPITAL_LETTER_Y_ beSMALL_ dTURNED_A
    dALPHA dbTURNED_ dB_WITH_HOOK dOPEN_O dC_WITH_CURL dD_WITH_TAIL fHOOK dREVERSED_E dSCHWA
    dSCHWA_WITH_HOOK dOPEN_E dcREVERSED_ fE_WITH_HOOK dCLOSED_REVERSED_OPEN_E dDOTLESS_J_WITH_STROKE
    dG_WITH_HOOK dSCRIPT_G bbLETTER_SMALL_CAPITAL_ bSMALL_LETTER_GAMMA dRAMS_HORN dTURNED_H
    dH_WITH_HOOK dcHENG_ dI_WITH_STROKE dIOTA bLETTER_SMALL_CAPITAL_I
    bSMALL_LETTER_L_WITH_MIDDLE_TILDE fBELT fRETROFLEX_HOOK dLEZH dTURNED_M eM_WITH_LONG_LEG
    dM_WITH_HOOK dbN_WITH_LEFT_ fbRETROFLEX_ bLETTER_SMALL_CAPITAL_N bSMALL_LETTER_BARRED_O
    bLETTER_SMALL_CAPITAL_OE bSMALL_LETTER_CLOSED_OMEGA dPHI dTURNED_R eR_WITH_LONG_LEG gHOOK
    dR_WITH_LONG_LEG fTAIL fFISHHOOK ddREVERSED_ bLETTER_SMALL_CAPITAL_R ebINVERTED_
    bSMALL_LETTER_S_WITH_HOOK dESH dDOTLESS_J_WITH_STROKE_AND_HOOK dSQUAT_REVERSED_ESH
    dESH_WITH_CURL dTURNED_T dT_WITH_RETROFLEX_HOOK dU_BAR dUPSILON dV_WITH_HOOK dTURNED_V eW eY
    bbLETTER_SMALL_CAPITAL_ bSMALL_LETTER_Z_WITH_RETROFLEX_HOOK fCURL dEZH dEZH_WITH_CURL
    bLETTER_GLOTTAL_STOP cPHARYNGEAL_VOICED_FRICATIVE cINVERTED_GLOTTAL_STOP cSTRETCHED_C
    cBILABIAL_CLICK cSMALL_CAPITAL_B bSMALL_LETTER_CLOSED_OPEN_E bLETTER_SMALL_CAPITAL_G_WITH_HOOK
    eH bSMALL_LETTER_J_WITH_CROSSED-TAIL dTURNED_K bLETTER_SMALL_CAPITAL_L bSMALL_LETTER_Q_WITH_HOOK
    bLETTER_GLOTTAL_STOP_WITH_STROKE ceREVERSED_ bSMALL_LETTER_DZ_DIGRAPH dbDEZH_
    dDZ_DIGRAPH_WITH_CURL dTS_DIGRAPH dbTESH_ dTC_DIGRAPH_WITH_CURL dFENG_DIGRAPH dbLS_ dbLZ_
    bLETTER_BILABIAL_PERCUSSIVE cbBIDENTAL_ bSMALL_LETTER_TURNED_H_WITH_FISHHOOK gFISHHOOK_AND_TAIL
    MODIFIER_LETTER_SMALL_H dH_WITH_HOOK dJ dR dbTURNED_ eR_WITH_HOOK dCAPITAL_INVERTED_R dW dY
    cPRIME cbDOUBLE_ cTURNED_COMMA cAPOSTROPHE cREVERSED_COMMA cRIGHT_HALF_RING ccLEFT_
    cGLOTTAL_STOP ccREVERSED_ cLEFT_ARROWHEAD cbRIGHT_ cbUP_ cbDOWN_ cCIRCUMFLEX_ACCENT CARON
    MODIFIER_LETTER_VERTICAL_LINE cMACRON cACUTE_ACCENT cbGRAVE_ cLOW_VERTICAL_LINE dMACRON
    dGRAVE_ACCENT dbACUTE_ cTRIANGULAR_COLON ccHALF_ cCENTRED_RIGHT_HALF_RING dcLEFT_ cUP_TACK
    cbDOWN_ cPLUS_SIGN cbMINUS_ BREVE DOT_ABOVE abRING_ OGONEK SMALL_TILDE DOUBLE_ACUTE_ACCENT
    MODIFIER_LETTER_RHOTIC_HOOK cCROSS_ACCENT cSMALL_GAMMA dL dS dX dREVERSED_GLOTTAL_STOP
    cEXTRA-HIGH_TONE_BAR cd ccMID_ ccLOW_ cdEXTRA- cYIN_DEPARTING_TONE_MARK cdYANG_ cVOICING
    cUNASPIRATED cDOUBLE_APOSTROPHE cLOW_DOWN_ARROWHEAD dbUP_ dbLEFT_ dbRIGHT_ dRING
    cMIDDLE_GRAVE_ACCENT dcDOUBLE_ ebACUTE_ cLOW_TILDE cRAISED_COLON cBEGIN_HIGH_TONE ccEND_
    cbBEGIN_LOW_ ccEND_ cSHELF cbOPEN_ cLOW_LEFT_ARROW COMBINING_GRAVE_ACCENT bbACUTE_ bbCIRCUMFLEX_
    bTILDE bMACRON bOVERLINE bBREVE bDOT_ABOVE bDIAERESIS bHOOK_ABOVE bbRING_ bDOUBLE_ACUTE_ACCENT
    bCARON bVERTICAL_LINE_ABOVE bdDOUBLE_ cGRAVE_ACCENT bCANDRABINDU bINVERTED_BREVE
    bTURNED_COMMA_ABOVE bc bcREVERSED_ bCOMMA_ABOVE_RIGHT bGRAVE_ACCENT_BELOW bcACUTE_ bbLEFT_TACK_
    bcRIGHT_ bLEFT_ANGLE_ABOVE bHORN bLEFT_HALF_RING_BELOW bbUP_TACK_ bcDOWN_ bbPLUS_SIGN_ bcMINUS_
    bbPALATALIZED_HOOK_ bcRETROFLEX_ bbDOT_ bbDIAERESIS_ bbRING_ bbCOMMA_ bCEDILLA bOGONEK
    bVERTICAL_LINE_BELOW bbBRIDGE_ bbINVERTED_DOUBLE_ARCH_ bbCARON_ bbCIRCUMFLEX_ACCENT_ bbBREVE_
    bcINVERTED_ bbTILDE_ bbMACRON_ bLOW_LINE bcDOUBLE_ bTILDE_OVERLAY bbSHORT_STROKE_ bcLONG_
    bbSHORT_SOLIDUS_ bcLONG_ bRIGHT_HALF_RING_BELOW bbINVERTED_BRIDGE_ bbSQUARE_ bbSEAGULL_ bX_ABOVE
    bVERTICAL_TILDE bDOUBLE_OVERLINE bGRAVE_TONE_MARK bcACUTE_ bGREEK_PERISPOMENI cKORONIS
    cDIALYTIKA_TONOS cYPOGEGRAMMENI bBRIDGE_ABOVE bEQUALS_SIGN_BELOW bbDOUBLE_VERTICAL_LINE_
    bbLEFT_ANGLE_ bNOT_TILDE_ABOVE bbHOMOTHETIC_ bbALMOST_EQUAL_TO_ bLEFT_RIGHT_ARROW_BELOW
    bcUPWARDS_ bGRAPHEME_JOINER bRIGHT_ARROWHEAD_ABOVE bbLEFT_HALF_RING_ bFERMATA bX_BELOW
    bbLEFT_ARROWHEAD_ bcRIGHT_ dbAND_UP_ARROWHEAD_ cHALF_RING_ABOVE bDOT_ABOVE_RIGHT bASTERISK_BELOW
    bbDOUBLE_RING_ bZIGZAG_ABOVE bDOUBLE_BREVE_BELOW cBREVE cMACRON cMACRON_BELOW cTILDE
    cINVERTED_BREVE cRIGHTWARDS_ARROW_BELOW bLATIN_SMALL_LETTER_A eE eI eO eU eC eD eH eM eR eT eV
    eX GREEK_CAPITAL_LETTER_HETA bcSMALL_ bCAPITAL_LETTER_ARCHAIC_SAMPI bdSMALL_ bNUMERAL_SIGN
    bcLOWER_ bCAPITAL_LETTER_PAMPHYLIAN_DIGAMMA bdSMALL_ 37A=bYPOGEGRAMMENI
    bSMALL_REVERSED_LUNATE_SIGMA_SYMBOL cdDOTTED_ ceREVERSED_ bQUESTION_MARK bCAPITAL_LETTER_YOT
    384=bTONOS bbDIALYTIKA_ bbCAPITAL_LETTER_ALPHA_WITH_ bANO_TELEIA
    bCAPITAL_LETTER_EPSILON_WITH_TONOS dcETA_ dcIOTA_ 38C=dcOMICRON_ 38E=dcUPSILON_ dcOMEGA_
    bbSMALL_LETTER_IOTA_WITH_DIALYTIKA_AND_ bCAPITAL_LETTER_ALPHA dBETA dGAMMA dDELTA dEPSILON dZETA
    dETA dTHETA dIOTA dKAPPA dLAMDA dMU dNU dXI dOMICRON dPI dRHO 3A3=dSIGMA dTAU dUPSILON dPHI dCHI
    dPSI dOMEGA dIOTA_WITH_DIALYTIKA dcUPSILON_ bSMALL_LETTER_ALPHA_WITH_TONOS dcEPSILON_ dcETA_
    dcIOTA_ dbUPSILON_WITH_DIALYTIKA_AND_ dALPHA dBETA dGAMMA dDELTA dEPSILON dZETA dETA dTHETA
    dIOTA dKAPPA dLAMDA dMU dNU dXI dOMICRON dPI dRHO dFINAL_SIGMA db dTAU dUPSILON dPHI dCHI dPSI
    dOMEGA dIOTA_WITH_DIALYTIKA dcUPSILON_ dOMICRON_WITH_TONOS dcUPSILON_ dcOMEGA_
    bCAPITAL_KAI_SYMBOL bbBETA_ bbTHETA_ bbUPSILON_WITH_HOOK_ dcACUTE_AND_ ddDIAERESIS_ bbPHI_ bbPI_
    bbKAI_ bLETTER_ARCHAIC_KOPPA bdSMALL_ bLETTER_STIGMA bcSMALL_ bLETTER_DIGAMMA bcSMALL_
    bLETTER_KOPPA bcSMALL_ bLETTER_SAMPI bcSMALL_ COPTIC_CAPITAL_LETTER_SHEI bcSMALL_
    bCAPITAL_LETTER_FEI bcSMALL_ bCAPITAL_LETTER_KHEI bcSMALL_ bCAPITAL_LETTER_HORI bcSMALL_
    bCAPITAL_LETTER_GANGIA bcSMALL_ bCAPITAL_LETTER_SHIMA bcSMALL_ bCAPITAL_LETTER_DEI bcSMALL_
    GREEK_KAPPA_SYMBOL bbRHO_ bbLUNATE_SIGMA_ bLETTER_YOT bCAPITAL_THETA_SYMBOL bbLUNATE_EPSILON_
    bdREVERSED_ bCAPITAL_LETTER_SHO bcSMALL_ bCAPITAL_LUNATE_SIGMA_SYMBOL cLETTER_SAN bcSMALL_
    bRHO_WITH_STROKE_SYMBOL bbCAPITAL_REVERSED_LUNATE_SIGMA_ cdDOTTED_ ceREVERSED_
    CYRILLIC_CAPITAL_LETTER_IE_WITH_GRAVE dIO dDJE dGJE dUKRAINIAN_IE dDZE dBYELORUSSIAN-UKRAINIAN_I
    dYI dJE dLJE dNJE dTSHE dKJE dI_WITH_GRAVE dSHORT_U dDZHE dA dBE dVE dGHE dDE dIE dZHE dZE dI
    dbSHORT_ dKA dEL dEM dEN dO dPE dER dES dTE dU dEF dHA dTSE dCHE dSHA dSHCHA dHARD_SIGN dYERU
    dSOFT_SIGN dE dYU dYA bSMALL_LETTER_A dBE dVE dGHE dDE dIE dZHE dZE dI dbSHORT_ dKA dEL dEM dEN
    dO dPE dER dES dTE dU dEF dHA dTSE dCHE dSHA dSHCHA dHARD_SIGN dYERU dSOFT_SIGN dE dYU dYA
    dIE_WITH_GRAVE dIO dDJE dGJE dUKRAINIAN_IE dDZE dBYELORUSSIAN-UKRAINIAN_I dYI dJE dLJE dNJE
    dTSHE dKJE dI_WITH_GRAVE dSHORT_U dDZHE bCAPITAL_LETTER_OMEGA bcSMALL_ bCAPITAL_LETTER_YAT
    bcSMALL_ bCAPITAL_LETTER_IOTIFIED_E bdSMALL_ bCAPITAL_LETTER_LITTLE_YUS bdSMALL_
    bcCAPITAL_LETTER_IOTIFIED_ beSMALL_ bbCAPITAL_LETTER_BIG_ bdSMALL_ bcCAPITAL_LETTER_IOTIFIED_
    beSMALL_ bCAPITAL_LETTER_KSI bcSMALL_ bCAPITAL_LETTER_PSI bcSMALL_ bCAPITAL_LETTER_FITA bcSMALL_
    bCAPITAL_LETTER_IZHITSA bcSMALL_ bCAPITAL_LETTER_IZHITSA_WITH_DOUBLE_GRAVE_ACCENT bgSMALL_
    bCAPITAL_LETTER_UK bcSMALL_ bCAPITAL_LETTER_ROUND_OMEGA bdSMALL_
    bCAPITAL_LETTER_OMEGA_WITH_TITLO beSMALL_ bCAPITAL_LETTER_OT bcSMALL_ bCAPITAL_LETTER_KOPPA
    bcSMALL_ bTHOUSANDS_SIGN COMBINING_CYRILLIC_TITLO cPALATALIZATION cDASIA_PNEUMATA cbPSILI_
    cPOKRYTIE cHUNDRED_THOUSANDS_SIGN cbMILLIONS_ CYRILLIC_CAPITAL_LETTER_SHORT_I_WITH_TAIL bfSMALL_
    bCAPITAL_LETTER_SEMISOFT_SIGN bdSMALL_ bCAPITAL_LETTER_ER_WITH_TICK beSMALL_
    bCAPITAL_LETTER_GHE_WITH_UPTURN beSMALL_ bCAPITAL_LETTER_GHE_WITH_STROKE beSMALL_
    bCAPITAL_LETTER_GHE_WITH_MIDDLE_HOOK bfSMALL_ bCAPITAL_LETTER_ZHE_WITH_DESCENDER beSMALL_
    bcCAPITAL_LETTER_ZE_ beSMALL_ bcCAPITAL_LETTER_KA_ beSMALL_
    bCAPITAL_LETTER_KA_WITH_VERTICAL_STROKE bfSMALL_ bbCAPITAL_LETTER_KA_WITH_ beSMALL_
    bCAPITAL_LETTER_BASHKIR_KA bdSMALL_ bCAPITAL_LETTER_EN_WITH_DESCENDER beSMALL_
    bCAPITAL_LIGATURE_EN_GHE bdSMALL_ bCAPITAL_LETTER_PE_WITH_MIDDLE_HOOK bfSMALL_
    bCAPITAL_LETTER_ABKHASIAN_HA bdSMALL_ bCAPITAL_LETTER_ES_WITH_DESCENDER beSMALL_
    bcCAPITAL_LETTER_TE_ beSMALL_ bCAPITAL_LETTER_STRAIGHT_U bdSMALL_
    bCAPITAL_LETTER_STRAIGHT_U_WITH_STROKE bfSMALL_ bCAPITAL_LETTER_HA_WITH_DESCENDER beSMALL_
    bCAPITAL_LIGATURE_TE_TSE bdSMALL_ bCAPITAL_LETTER_CHE_WITH_DESCENDER beSMALL_
    bCAPITAL_LETTER_CHE_WITH_VERTICAL_STROKE bfSMALL_ bCAPITAL_LETTER_SHHA bcSMALL_
    bCAPITAL_LETTER_ABKHASIAN_CHE bdSMALL_ bCAPITAL_LETTER_ABKHASIAN_CHE_WITH_DESCENDER bfSMALL_
    bLETTER_PALOCHKA bCAPITAL_LETTER_ZHE_WITH_BREVE beSMALL_ bCAPITAL_LETTER_KA_WITH_HOOK beSMALL_
    bCAPITAL_LETTER_EL_WITH_TAIL beSMALL_ bCAPITAL_LETTER_EN_WITH_HOOK beSMALL_
    bCAPITAL_LETTER_EN_WITH_TAIL beSMALL_ bCAPITAL_LETTER_KHAKASSIAN_CHE bdSMALL_
    bCAPITAL_LETTER_EM_WITH_TAIL beSMALL_ dPALOCHKA bCAPITAL_LETTER_A_WITH_BREVE beSMALL_
    bCAPITAL_LETTER_A_WITH_DIAERESIS beSMALL_ bCAPITAL_LIGATURE_A_IE bdSMALL_
    bCAPITAL_LETTER_IE_WITH_BREVE beSMALL_ bCAPITAL_LETTER_SCHWA bcSMALL_
    bCAPITAL_LETTER_SCHWA_WITH_DIAERESIS beSMALL_ bcCAPITAL_LETTER_ZHE_ beSMALL_
    bcCAPITAL_LETTER_ZE_ beSMALL_ bCAPITAL_LETTER_ABKHASIAN_DZE bdSMALL_
    bCAPITAL_LETTER_I_WITH_MACRON beSMALL_ bCAPITAL_LETTER_I_WITH_DIAERESIS beSMALL_
    bcCAPITAL_LETTER_O_ beSMALL_ bCAPITAL_LETTER_BARRED_O bdSMALL_
    bCAPITAL_LETTER_BARRED_O_WITH_DIAERESIS bfSMALL_ bcCAPITAL_LETTER_E_ beSMALL_
    bCAPITAL_LETTER_U_WITH_MACRON beSMALL_ bCAPITAL_LETTER_U_WITH_DIAERESIS beSMALL_
    bCAPITAL_LETTER_U_WITH_DOUBLE_ACUTE bfSMALL_ bCAPITAL_LETTER_CHE_WITH_DIAERESIS beSMALL_
    bCAPITAL_LETTER_GHE_WITH_DESCENDER beSMALL_ bCAPITAL_LETTER_YERU_WITH_DIAERESIS beSMALL_
    bCAPITAL_LETTER_GHE_WITH_STROKE_AND_HOOK bgSMALL_ bbCAPITAL_LETTER_HA_WITH_ beSMALL_
    bCAPITAL_LETTER_HA_WITH_STROKE beSMALL_ bCAPITAL_LETTER_KOMI_DE bdSMALL_
    bCAPITAL_LETTER_KOMI_DJE bdSMALL_ bCAPITAL_LETTER_KOMI_ZJE bdSMALL_ bCAPITAL_LETTER_KOMI_DZJE
    bdSMALL_ bCAPITAL_LETTER_KOMI_LJE bdSMALL_ bCAPITAL_LETTER_KOMI_NJE bdSMALL_
    bCAPITAL_LETTER_KOMI_SJE bdSMALL_ bCAPITAL_LETTER_KOMI_TJE bdSMALL_ bCAPITAL_LETTER_REVERSED_ZE
    bdSMALL_ bCAPITAL_LETTER_EL_WITH_HOOK beSMALL_ bCAPITAL_LETTER_LHA bcSMALL_ bCAPITAL_LETTER_RHA
    bcSMALL_ bCAPITAL_LETTER_YAE bcSMALL_ bCAPITAL_LETTER_QA bcSMALL_ bCAPITAL_LETTER_WE bcSMALL_
    bCAPITAL_LETTER_ALEUT_KA bdSMALL_ bCAPITAL_LETTER_EL_WITH_MIDDLE_HOOK bfSMALL_
    bdCAPITAL_LETTER_EN_ bfSMALL_ bCAPITAL_LETTER_PE_WITH_DESCENDER beSMALL_ bcCAPITAL_LETTER_SHHA_
    beSMALL_ bCAPITAL_LETTER_EN_WITH_LEFT_HOOK bfSMALL_ bCAPITAL_LETTER_DZZHE bcSMALL_
    bCAPITAL_LETTER_DCHE bcSMALL_ bCAPITAL_LETTER_EL_WITH_DESCENDER beSMALL_
    531=ARMENIAN_CAPITAL_LETTER_AYB dBEN dGIM dDA dECH dZA dEH dET dTO dZHE dINI dLIWN dXEH dCA dKEN
    dHO dJA dGHAD dCHEH dMEN dYI dNOW dSHA dVO dCHA dPEH dJHEH dRA dSEH dVEW dTIWN dREH dCO dYIWN
    dPIWR dKEH dOH dFEH 559=bMODIFIER_LETTER_LEFT_HALF_RING bAPOSTROPHE bEMPHASIS_MARK
    bbEXCLAMATION_ bCOMMA bQUESTION_MARK bbABBREVIATION_ bSMALL_LETTER_TURNED_AYB db dBEN dGIM dDA
    dECH dZA dEH dET dTO dZHE dINI dLIWN dXEH dCA dKEN dHO dJA dGHAD dCHEH dMEN dYI dNOW dSHA dVO
    dCHA dPEH dJHEH dRA dSEH dVEW dTIWN dREH dCO dYIWN dPIWR dKEH dOH dFEH cLIGATURE_ECH_YIWN
    cLETTER_YI_WITH_STROKE bFULL_STOP bHYPHEN 58D=RIGHT-FACING_ARMENIAN_ETERNITY_SIGN aeLEFT-
    abARMENIAN_DRAM_ 591=HEBREW_ACCENT_ETNAHTA cSEGOL cSHALSHELET cZAQEF_QATAN dGADOL cTIPEHA cREVIA
    cZARQA cPASHTA cYETIV cTEVIR cGERESH cGERESH_MUQDAM cGERSHAYIM cQARNEY_PARA cTELISHA_GEDOLA
    cPAZER cATNAH_HAFUKH cMUNAH cMAHAPAKH cMERKHA cMERKHA_KEFULA cDARGA cQADMA cTELISHA_QETANA
    cYERAH_BEN_YOMO cOLE cILUY cDEHI cZINOR bMARK_MASORA_CIRCLE bPOINT_SHEVA cHATAF_SEGOL dPATAH
    dQAMATS cHIRIQ cTSERE cSEGOL cPATAH cQAMATS cHOLAM cHOLAM_HASER_FOR_VAV cQUBUTS cDAGESH_OR_MAPIQ
    cMETEG bPUNCTUATION_MAQAF bPOINT_RAFE bPUNCTUATION_PASEQ bPOINT_SHIN_DOT cbSIN_
    bPUNCTUATION_SOF_PASUQ bMARK_UPPER_DOT cbLOWER_ bPUNCTUATION_NUN_HAFUKHA bPOINT_QAMATS_QATAN
    5D0=bLETTER_ALEF cBET cGIMEL cDALET cHE cVAV cZAYIN cHET cTET cYOD cFINAL_KAF cb cLAMED
    cFINAL_MEM cb cFINAL_NUN cb cSAMEKH cAYIN cFINAL_PE cb cFINAL_TSADI cb cQOF cRESH cSHIN cTAV
    5EF=bYOD_TRIANGLE bLIGATURE_YIDDISH_DOUBLE_VAV dVAV_YOD dbDOUBLE_ bPUNCTUATION_GERESH cGERSHAYIM
    600=ARABIC_NUMBER_SIGN bSIGN_SANAH bFOOTNOTE_MARKER bSIGN_SAFHA cSAMVAT bNUMBER_MARK_ABOVE
    ARABIC-INDIC_CUBE_ROOT cbFOURTH_ ARABIC_RAY ARABIC-INDIC_PER_MILLE_SIGN dbTEN_THOUSAND_
    abAFGHANI_ ARABIC_COMMA bDATE_SEPARATOR bPOETIC_VERSE_SIGN bSIGN_MISRA
    cSALLALLAHOU_ALAYHE_WASSALLAM cALAYHE_ASSALLAM cRAHMATULLAH_ALAYHE cRADI_ALLAHOU_ANHU cTAKHALLUS
    bSMALL_HIGH_TAH dLIGATURE_ALEF_WITH_LAM_WITH_YEH dZAIN cFATHA cDAMMA cKASRA bSEMICOLON
    bLETTER_MARK bbEND_OF_TEXT_ bbTRIPLE_DOT_PUNCTUATION_ bbQUESTION_ bLETTER_KASHMIRI_YEH cHAMZA
    cALEF_WITH_MADDA_ABOVE ebHAMZA_ cdWAW_ cALEF_WITH_HAMZA_BELOW cYEH_WITH_HAMZA_ABOVE cALEF cBEH
    cTEH_MARBUTA cTEH cTHEH cJEEM cHAH cKHAH cDAL cTHAL cREH cZAIN cSEEN cSHEEN cSAD cDAD cTAH cZAH
    cAIN cGHAIN cKEHEH_WITH_TWO_DOTS_ABOVE eTHREE_DOTS_BELOW cFARSI_YEH_WITH_INVERTED_V
    fTWO_DOTS_ABOVE fcTHREE_ bTATWEEL bLETTER_FEH cQAF cKAF cLAM cMEEM cNOON cHEH cWAW cALEF_MAKSURA
    cYEH bFATHATAN bDAMMATAN bKASRATAN bFATHA bDAMMA bKASRA bSHADDA bSUKUN bMADDAH_ABOVE bbHAMZA_
    cBELOW bSUBSCRIPT_ALEF bINVERTED_DAMMA bMARK_NOON_GHUNNA bZWARAKAY bVOWEL_SIGN_SMALL_V_ABOVE
    ddINVERTED_ dDOT_BELOW bREVERSED_DAMMA bFATHA_WITH_TWO_DOTS bWAVY_HAMZA_BELOW
    ARABIC-INDIC_DIGIT_ZERO dONE dTWO dTHREE dFOUR dFIVE dSIX dSEVEN dEIGHT dNINE
    ARABIC_PERCENT_SIGN bDECIMAL_SEPARATOR bbTHOUSANDS_ bFIVE_POINTED_STAR bLETTER_DOTLESS_BEH dQAF
    cSUPERSCRIPT_ALEF cALEF_WASLA dWITH_WAVY_HAMZA_ABOVE gBELOW cHIGH_HAMZA dHAMZA_ALEF eWAW
    cU_WITH_HAMZA_ABOVE cHIGH_HAMZA_YEH cTTEH cTTEHEH cBEEH cTEH_WITH_RING
    eTHREE_DOTS_ABOVE_DOWNWARDS cPEH cTEHEH cBEHEH cHAH_WITH_HAMZA_ABOVE ebTWO_DOTS_VERTICAL_ cNYEH
    cDYEH cHAH_WITH_THREE_DOTS_ABOVE cTCHEH cTCHEHEH cDDAL cDAL_WITH_RING eDOT_BELOW
    fBELOW_AND_SMALL_TAH cDAHAL cDDAHAL cDUL cDAL_WITH_THREE_DOTS_ABOVE_DOWNWARDS eFOUR_DOTS_ABOVE
    cRREH cREH_WITH_SMALL_V eRING eDOT_BELOW ebSMALL_V_ eDOT_BELOW_AND_DOT_ABOVE ebTWO_DOTS_ cJEH
    cREH_WITH_FOUR_DOTS_ABOVE cbSEEN_WITH_DOT_BELOW_AND_DOT_ eTHREE_DOTS_BELOW
    gBELOW_AND_THREE_DOTS_ABOVE cSAD_WITH_TWO_DOTS_BELOW eTHREE_DOTS_ABOVE ceTAH_ ceAIN_
    cDOTLESS_FEH cFEH_WITH_DOT_MOVED_BELOW fb cVEH cFEH_WITH_THREE_DOTS_BELOW cPEHEH
    cQAF_WITH_DOT_ABOVE ebTHREE_DOTS_ cKEHEH cSWASH_KAF cKAF_WITH_RING eDOT_ABOVE cNG
    cKAF_WITH_THREE_DOTS_BELOW cGAF cGAF_WITH_RING cNGOEH cGAF_WITH_TWO_DOTS_BELOW cGUEH
    cGAF_WITH_THREE_DOTS_ABOVE cLAM_WITH_SMALL_V eDOT_ABOVE ebTHREE_DOTS_ gBELOW cbNOON_WITH_DOT_
    dGHUNNA cRNOON cNOON_WITH_RING eTHREE_DOTS_ABOVE cHEH_DOACHASHMEE cTCHEH_WITH_DOT_ABOVE
    cbHEH_WITH_YEH_ dGOAL dGOAL_WITH_HAMZA_ABOVE cTEH_MARBUTA_GOAL cWAW_WITH_RING cKIRGHIZ_OE cb cU
    cYU cbKIRGHIZ_ cWAW_WITH_TWO_DOTS_ABOVE cVE cFARSI_YEH cYEH_WITH_TAIL eSMALL_V
    cWAW_WITH_DOT_ABOVE cE cYEH_WITH_THREE_DOTS_BELOW dBARREE dBARREE_WITH_HAMZA_ABOVE bFULL_STOP
    bLETTER_AE bSMALL_HIGH_LIGATURE_SAD_WITH_LAM_WITH_ALEF_MAKSURA efQAF_ dMEEM_INITIAL_FORM
    dLAM_ALEF dJEEM dTHREE_DOTS dSEEN bEND_OF_AYAH bSTART_OF_RUB_EL_HIZB bSMALL_HIGH_ROUNDED_ZERO
    dbUPRIGHT_RECTANGULAR_ dDOTLESS_HEAD_OF_KHAH dMEEM_ISOLATED_FORM cLOW_SEEN cHIGH_MADDA cWAW cYEH
    cbHIGH_ dNOON bPLACE_OF_SAJDAH bEMPTY_CENTRE_LOW_STOP dbHIGH_
    bROUNDED_HIGH_STOP_WITH_FILLED_CENTRE bSMALL_LOW_MEEM bLETTER_DAL_WITH_INVERTED_V cdREH_
    EXTENDED_ARABIC-INDIC_DIGIT_ZERO eONE eTWO eTHREE eFOUR eFIVE eSIX eSEVEN eEIGHT eNINE
    ARABIC_LETTER_SHEEN_WITH_DOT_BELOW cdDAD_ cdGHAIN_ bSIGN_SINDHI_AMPERSAND dPOSTPOSITION_MEN
    bLETTER_HEH_WITH_INVERTED_V SYRIAC_END_OF_PARAGRAPH bSUPRALINEAR_FULL_STOP bcSUBLINEAR_
    bSUPRALINEAR_COLON bbSUBLINEAR_ bbHORIZONTAL_ bCOLON_SKEWED_LEFT dRIGHT
    bSUPRALINEAR_COLON_SKEWED_LEFT bSUBLINEAR_COLON_SKEWED_RIGHT bCONTRACTION bHARKLEAN_OBELUS
    cMETOBELUS cASTERISCUS 70F=bABBREVIATION_MARK bLETTER_ALAPH cbSUPERSCRIPT_ cBETH cGAMAL
    cGAMAL_GARSHUNI cDALATH cDOTLESS_DALATH_RISH cHE cWAW cZAIN cHETH cTETH cTETH_GARSHUNI cYUDH
    cYUDH_HE cKAPH cLAMADH cMIM cNUN cSEMKATH cbFINAL_ cE cPE cbREVERSED_ cSADHE cQAPH cRISH cSHIN
    cTAW cPERSIAN_BHETH dGHAMAL dDHALATH bPTHAHA_ABOVE cBELOW cDOTTED bZQAPHA_ABOVE cBELOW cDOTTED
    bRBASA_ABOVE cBELOW bDOTTED_ZLAMA_HORIZONTAL dANGULAR bHBASA_ABOVE cBELOW bHBASA-ESASA_DOTTED
    bESASA_ABOVE cBELOW bRWAHA bFEMININE_DOT bQUSHSHAYA bRUKKAKHA bTWO_VERTICAL_DOTS_ABOVE eBELOW
    bTHREE_DOTS_ABOVE dBELOW bOBLIQUE_LINE_ABOVE dBELOW bMUSIC bBARREKH 74D=bLETTER_SOGDIAN_ZHAIN
    dKHAPH dFE ARABIC_LETTER_BEH_WITH_THREE_DOTS_HORIZONTALLY_BELOW eDOT_BELOW_AND_THREE_DOTS_ABOVE
    eTHREE_DOTS_POINTING_UPWARDS_BELOW iBELOW_AND_TWO_DOTS_ABOVE ebTWO_DOTS_BELOW_AND_DOT_
    eINVERTED_SMALL_V_BELOW eSMALL_V cHAH_WITH_TWO_DOTS_ABOVE eTHREE_DOTS_POINTING_UPWARDS_BELOW
    cDAL_WITH_TWO_DOTS_VERTICALLY_BELOW_AND_SMALL_TAH eINVERTED_SMALL_V_BELOW cREH_WITH_STROKE
    cSEEN_WITH_FOUR_DOTS_ABOVE ccAIN_WITH_TWO_ ebTHREE_DOTS_POINTING_DOWNWARDS_
    ebTWO_DOTS_VERTICALLY_ cFEH_WITH_TWO_DOTS_BELOW ebTHREE_DOTS_POINTING_UPWARDS_
    cKEHEH_WITH_DOT_ABOVE ebTHREE_DOTS_ gPOINTING_UPWARDS_BELOW cMEEM_WITH_DOT_ABOVE fBELOW
    cbNOON_WITH_TWO_DOTS_ eSMALL_TAH fV cLAM_WITH_BAR cREH_WITH_TWO_DOTS_VERTICALLY_ABOVE ebHAMZA_
    cbSEEN_WITH_TWO_DOTS_VERTICALLY_ cHAH_WITH_SMALL_ARABIC_LETTER_TAH_BELOW iAND_TWO_DOTS ciSEEN_
    ciREH_ cHAH_WITH_SMALL_ARABIC_LETTER_TAH_ABOVE cbALEF_WITH_EXTENDED_ARABIC-INDIC_DIGIT_TWO_
    ibTHREE_ cbFARSI_YEH_WITH_EXTENDED_ARABIC-INDIC_DIGIT_TWO_ jbTHREE_ jFOUR_BELOW
    cWAW_WITH_EXTENDED_ARABIC-INDIC_DIGIT_TWO_ABOVE ibTHREE_
    cbYEH_BARREE_WITH_EXTENDED_ARABIC-INDIC_DIGIT_TWO_ jbTHREE_
    cHAH_WITH_EXTENDED_ARABIC-INDIC_DIGIT_FOUR_BELOW
    cSEEN_WITH_EXTENDED_ARABIC-INDIC_DIGIT_FOUR_ABOVE eINVERTED_V cKAF_WITH_TWO_DOTS_ABOVE
    THAANA_LETTER_HAA cSHAVIYANI cNOONU cRAA cBAA cLHAVIYANI cKAAFU cALIFU cVAAVU cMEEMU cFAAFU
    cDHAALU cTHAA cLAAMU cGAAFU cGNAVIYANI cSEENU cDAVIYANI cZAVIYANI cTAVIYANI cYAA cPAVIYANI
    cJAVIYANI cCHAVIYANI cTTAA cHHAA cKHAA cTHAALU cZAA cSHEENU cSAADHU cDAADHU cTO cZO cAINU
    cGHAINU cQAAFU cWAAVU bABAFILI bAABAAFILI bIBIFILI bEEBEEFILI bUBUFILI bOOBOOFILI bEBEFILI
    bEYBEYFILI bOBOFILI bOABOAFILI bSUKUN bLETTER_NAA 7C0=NKO_DIGIT_ZERO cONE cTWO cTHREE cFOUR
    cFIVE cSIX cSEVEN cEIGHT cNINE bLETTER_A cEE cI cE cU cOO cO cDAGBASINNA cN cBA cPA cTA cJA cCHA
    cDA cRA cRRA cSA cGBA cFA cKA cLA cNA_WOLOSO cMA cNYA cNA cHA cWA cYA cNYA_WOLOSO cJONA_JA dCHA
    dRA bCOMBINING_SHORT_HIGH_TONE dbLOW_ dbRISING_ cbLONG_DESCENDING_ dbHIGH_ dbLOW_ dbRISING_
    cNASALIZATION_MARK cDOUBLE_DOT_ABOVE bHIGH_TONE_APOSTROPHE bcLOW_ bSYMBOL_OO_DENNEN cGBAKURUNEN
    bCOMMA bEXCLAMATION_MARK bLAJANYALAN 7FD=bDANTAYALAN bDOROME_SIGN bbTAMAN_ SAMARITAN_LETTER_ALAF
    cBIT cGAMAN cDALAT cIY cBAA cZEN cIT cTIT cYUT cKAAF cLABAT cMIM cNUN cSINGAAT cIN cFI cTSAADIY
    cQUF cRISH cSHAN cTAAF bMARK_IN cIN-ALAF cOCCLUSION cDAGESH bMODIFIER_LETTER_EPENTHETIC_YUT
    bcMARK_ bVOWEL_SIGN_LONG_E db dOVERLONG_AA dbLONG_ db dOVERLONG_A dbLONG_ db
    bbMODIFIER_LETTER_SHORT_ bcVOWEL_SIGN_ dLONG_U db bMODIFIER_LETTER_I bbVOWEL_SIGN_LONG_ db dO
    dSUKUN bMARK_NEQUDAA 830=bbPUNCTUATION_ cAFSAAQ cANGED cBAU cATMAAU cSHIYYAALAA
    bABBREVIATION_MARK bPUNCTUATION_MELODIC_QITSA cZIQAA cQITSA cZAEF cTURU cARKAANU cSOF_MASHFAAT
    cANNAAU 840=MANDAIC_LETTER_HALQA cAB cAG cAD cAH cUSHENNA cAZ cIT cATT cAKSA cAK cAL cAM cAN cAS
    cIN cAP cASZ cAQ cAR cASH cAT cDUSHENNA cKAD cAIN bAFFRICATION_MARK bbVOCALIZATION_
    bbGEMINATION_ 85E=bPUNCTUATION 860=SYRIAC_LETTER_MALAYALAM_NGA dJA dNYA dTTA dNNA dNNNA dBHA dRA
    dLLA dLLLA dSSA 870=ARABIC_LETTER_ALEF_WITH_ATTACHED_FATHA fbTOP_RIGHT_ eRIGHT_MIDDLE_STROKE
    ecLEFT_ eATTACHED_KASRA fbBOTTOM_RIGHT_ fROUND_DOT_ABOVE fRIGHT_ROUND_DOT fcLEFT_
    fROUND_DOT_BELOW eDOT_ABOVE ecATTACHED_TOP_RIGHT_FATHA_AND_ edRIGHT_MIDDLE_STROKE_
    edATTACHED_BOTTOM_RIGHT_KASRA_ fTOP_RIGHT_FATHA_AND_LEFT_RING edRIGHT_MIDDLE_STROKE_
    edATTACHED_BOTTOM_RIGHT_KASRA_ fRIGHT_HAMZA fbLEFT_ bbTATWEEL_WITH_OVERSTRUCK_ eWAW
    dTWO_DOTS_BELOW bLETTER_THIN_YEH bBASELINE_ROUND_DOT bcRAISED_
    bLETTER_NOON_WITH_INVERTED_SMALL_V cHAH_WITH_INVERTED_SMALL_V_BELOW cbTAH_WITH_DOT_
    ebTHREE_DOTS_ cbKEHEH_WITH_TWO_DOTS_VERTICALLY_ bVERTICAL_TAIL 890=bPOUND_MARK_ABOVE bcPIASTRE_
    898=bSMALL_HIGH_WORD_AL-JUZ cLOW_WORD_ISHMAAM eIMAALA eTASHEEL bMADDA_WAAJIB
    bSUPERSCRIPT_ALEF_MOKHASSAS bDOUBLED_MADDA bbHALF_MADDA_OVER_ bLETTER_BEH_WITH_SMALL_V_BELOW
    eHAMZA_ABOVE cbJEEM_WITH_TWO_DOTS_ ceTAH_ ccFEH_WITH_DOT_BELOW_AND_THREE_ cQAF_WITH_DOT_BELOW
    cLAM_WITH_DOUBLE_BAR cMEEM_WITH_THREE_DOTS_ABOVE cbYEH_WITH_TWO_DOTS_BELOW_AND_HAMZA_ ibDOT_
    cREH_WITH_LOOP cWAW_WITH_DOT_WITHIN cROHINGYA_YEH cLOW_ALEF cDAL_WITH_THREE_DOTS_BELOW ceSAD_
    cGAF_WITH_INVERTED_STROKE cSTRAIGHT_WAW cZAIN_WITH_INVERTED_V_ABOVE cAIN_WITH_THREE_DOTS_BELOW
    cbKAF_WITH_DOT_ cQAF_WITH_DOT_BELOW_AND_NO_DOTS_ABOVE cbBEH_WITH_SMALL_MEEM_ cePEH_
    cbTEH_WITH_SMALL_TEH_ cbREH_WITH_SMALL_NOON_ cdYEH_WITH_TWO_DOTS_BELOW_AND_ cAFRICAN_FEH dQAF
    dNOON cPEH_WITH_SMALL_V cdTEH_ cdTTEH_ cdTCHEH_ cdKEHEH_ cGHAIN_WITH_THREE_DOTS_ABOVE
    ceAFRICAN_QAF_ ceJEEM_ gBELOW cLAM_WITH_SMALL_ARABIC_LETTER_TAH_ABOVE cGRAF bSMALL_FARSI_YEH
    ccHIGH_ dYEH_BARREE_WITH_TWO_DOTS_BELOW dWORD_SAH dZAH bLARGE_ROUND_DOT_ABOVE eBELOW bbSUKUN_
    bbLARGE_CIRCLE_ ccROUND_DOT_INSIDE_ bSMALL_LOW_WAW cHIGH_WORD_AR-RUB dSAD dAIN dQAF
    dNOON_WITH_KASRA cdLOW_ cHIGH_WORD_ATH-THALATHA eAS-SAJDA eAN-NISF eSAKTA eQIF eWAQFA
    dFOOTNOTE_MARKER dSIGN_SAFHA bDISPUTED_END_OF_AYAH bTURNED_DAMMA_BELOW bCURLY_FATHA cDAMMA
    cKASRA cFATHATAN cDAMMATAN cKASRATAN bTONE_ONE_DOT_ABOVE cbTWO_DOTS_ cbLOOP_ cONE_DOT_BELOW
    cbTWO_DOTS_ cbLOOP_ bOPEN_FATHATAN cDAMMATAN cKASRATAN bSMALL_HIGH_WAW bFATHA_WITH_RING
    dDOT_ABOVE bKASRA_WITH_DOT_BELOW bLEFT_ARROWHEAD_ABOVE bcRIGHT_ bLEFT_ARROWHEAD_BELOW bcRIGHT_
    bDOUBLE_RIGHT_ARROWHEAD_ABOVE eABOVE_WITH_DOT bf bcDAMMA_ bMARK_SIDEWAYS_NOON_GHUNNA
    DEVANAGARI_SIGN_INVERTED_CANDRABINDU cb cANUSVARA cVISARGA bLETTER_SHORT_A cb cAA cI cII cU cUU
    cVOCALIC_R dL cCANDRA_E cbSHORT_ cb cAI cCANDRA_O cbSHORT_ cb cAU cKA cKHA cGA cGHA cNGA cCA
    cCHA cJA cJHA cNYA cTTA cTTHA cDDA cDDHA cNNA cTA cTHA cDA cDHA cNA cNNNA cPA cPHA cBA cBHA cMA
    cYA cRA cRRA cLA cLLA cLLLA cVA cSHA cSSA cSA cHA bVOWEL_SIGN_OE dOOE bSIGN_NUKTA cAVAGRAHA
    bVOWEL_SIGN_AA dI dII dU dUU dVOCALIC_R eRR dCANDRA_E dbSHORT_ db dAI dCANDRA_O dbSHORT_ db dAU
    bSIGN_VIRAMA bVOWEL_SIGN_PRISHTHAMATRA_E dAW bOM bSTRESS_SIGN_UDATTA dANUDATTA bGRAVE_ACCENT
    bbACUTE_ bVOWEL_SIGN_CANDRA_LONG_E dUE dUUE bLETTER_QA cKHHA cGHHA cZA cDDDHA cRHA cFA cYYA
    cVOCALIC_RR dLL bVOWEL_SIGN_VOCALIC_L eLL bDANDA bbDOUBLE_ bDIGIT_ZERO cONE cTWO cTHREE cFOUR
    cFIVE cSIX cSEVEN cEIGHT cNINE bABBREVIATION_SIGN bSIGN_HIGH_SPACING_DOT bLETTER_CANDRA_A cOE
    cOOE cAW cUE cUUE cMARWARI_DDA cZHA cHEAVY_YA cGGA cJJA cGLOTTAL_STOP cDDDA cBBA BENGALI_ANJI
    bSIGN_CANDRABINDU cANUSVARA cVISARGA 985=bLETTER_A cAA cI cII cU cUU cVOCALIC_R dL 98F=cE cAI
    993=cO cAU cKA cKHA cGA cGHA cNGA cCA cCHA cJA cJHA cNYA cTTA cTTHA cDDA cDDHA cNNA cTA cTHA cDA
    cDHA cNA 9AA=cPA cPHA cBA cBHA cMA cYA cRA 9B2=cLA 9B6=cSHA cSSA cSA cHA 9BC=bSIGN_NUKTA
    cAVAGRAHA bVOWEL_SIGN_AA dI dII dU dUU dVOCALIC_R eRR 9C7=dE dAI 9CB=dO dAU bSIGN_VIRAMA
    bLETTER_KHANDA_TA 9D7=bAU_LENGTH_MARK 9DC=bLETTER_RRA cRHA 9DF=cYYA cVOCALIC_RR dLL
    bVOWEL_SIGN_VOCALIC_L eLL 9E6=bDIGIT_ZERO cONE cTWO cTHREE cFOUR cFIVE cSIX cSEVEN cEIGHT cNINE
    bLETTER_RA_WITH_MIDDLE_DIAGONAL ebLOWER_ bRUPEE_MARK cSIGN bCURRENCY_NUMERATOR_ONE dTWO dTHREE
    dFOUR dONE_LESS_THAN_THE_DENOMINATOR cDENOMINATOR_SIXTEEN bISSHAR bGANDA_MARK
    bLETTER_VEDIC_ANUSVARA bABBREVIATION_SIGN bSANDHI_MARK A01=GURMUKHI_SIGN_ADAK_BINDI cb cVISARGA
    A05=bLETTER_A cAA cI cII cU cUU A0F=cEE cAI A13=cOO cAU cKA cKHA cGA cGHA cNGA cCA cCHA cJA cJHA
    cNYA cTTA cTTHA cDDA cDDHA cNNA cTA cTHA cDA cDHA cNA A2A=cPA cPHA cBA cBHA cMA cYA cRA A32=cLA
    cLLA A35=cVA cSHA A38=cSA cHA A3C=bSIGN_NUKTA A3E=bVOWEL_SIGN_AA dI dII dU dUU A47=dEE dAI
    A4B=dOO dAU bSIGN_VIRAMA A51=cUDAAT A59=bLETTER_KHHA cGHHA cZA cRRA A5E=cFA A66=bDIGIT_ZERO cONE
    cTWO cTHREE cFOUR cFIVE cSIX cSEVEN cEIGHT cNINE bTIPPI bADDAK bIRI bURA bEK_ONKAR bSIGN_YAKASH
    bABBREVIATION_SIGN A81=GUJARATI_SIGN_CANDRABINDU cANUSVARA cVISARGA A85=bLETTER_A cAA cI cII cU
    cUU cVOCALIC_R dL bVOWEL_CANDRA_E A8F=bbLETTER_ cAI bVOWEL_CANDRA_O A93=bbLETTER_ cAU cKA cKHA
    cGA cGHA cNGA cCA cCHA cJA cJHA cNYA cTTA cTTHA cDDA cDDHA cNNA cTA cTHA cDA cDHA cNA AAA=cPA
    cPHA cBA cBHA cMA cYA cRA AB2=cLA cLLA AB5=cVA cSHA cSSA cSA cHA ABC=bSIGN_NUKTA cAVAGRAHA
    bVOWEL_SIGN_AA dI dII dU dUU dVOCALIC_R eRR dCANDRA_E AC7=db dAI dCANDRA_O ACB=db dAU
    bSIGN_VIRAMA AD0=bOM AE0=bLETTER_VOCALIC_RR dLL bVOWEL_SIGN_VOCALIC_L eLL AE6=bDIGIT_ZERO cONE
    cTWO cTHREE cFOUR cFIVE cSIX cSEVEN cEIGHT cNINE bABBREVIATION_SIGN bbRUPEE_ AF9=bLETTER_ZHA
    bSIGN_SUKUN cSHADDA cMADDAH cTHREE-DOT_NUKTA_ABOVE ccCIRCLE_ cdTWO- B01=ORIYA_SIGN_CANDRABINDU
    cANUSVARA cVISARGA B05=bLETTER_A cAA cI cII cU cUU cVOCALIC_R dL B0F=cE cAI B13=cO cAU cKA cKHA
    cGA cGHA cNGA cCA cCHA cJA cJHA cNYA cTTA cTTHA cDDA cDDHA cNNA cTA cTHA cDA cDHA cNA B2A=cPA
    cPHA cBA cBHA cMA cYA cRA B32=cLA cLLA B35=cVA cSHA cSSA cSA cHA B3C=bSIGN_NUKTA cAVAGRAHA
    bVOWEL_SIGN_AA dI dII dU dUU dVOCALIC_R eRR B47=dE dAI B4B=dO dAU bSIGN_VIRAMA B55=cOVERLINE
    bAI_LENGTH_MARK bcAU_ B5C=bLETTER_RRA cRHA B5F=cYYA cVOCALIC_RR dLL bVOWEL_SIGN_VOCALIC_L eLL
    B66=bDIGIT_ZERO cONE cTWO cTHREE cFOUR cFIVE cSIX cSEVEN cEIGHT cNINE bISSHAR bLETTER_WA
    bFRACTION_ONE_QUARTER dHALF cTHREE_QUARTERS cONE_SIXTEENTH dEIGHTH cTHREE_SIXTEENTHS
    B82=TAMIL_SIGN_ANUSVARA cVISARGA B85=bLETTER_A cAA cI cII cU cUU B8E=cE cEE cAI B92=cO cOO cAU
    cKA B99=cNGA cCA B9C=cJA B9E=cNYA cTTA BA3=cNNA cTA BA8=cNA cNNNA cPA BAE=cMA cYA cRA cRRA cLA
    cLLA cLLLA cVA cSHA cSSA cSA cHA BBE=bVOWEL_SIGN_AA dI dII dU dUU BC6=dE dEE dAI BCA=dO dOO dAU
    bSIGN_VIRAMA BD0=bOM BD7=bAU_LENGTH_MARK BE6=bDIGIT_ZERO cONE cTWO cTHREE cFOUR cFIVE cSIX
    cSEVEN cEIGHT cNINE bNUMBER_TEN cONE_HUNDRED dTHOUSAND bDAY_SIGN bbMONTH_ bbYEAR_ bbDEBIT_
    bbCREDIT_ bbAS_ABOVE_ bbRUPEE_ bbNUMBER_ C00=TELUGU_SIGN_COMBINING_CANDRABINDU_ABOVE
    cCANDRABINDU cANUSVARA cVISARGA cCOMBINING_ANUSVARA_ABOVE bLETTER_A cAA cI cII cU cUU cVOCALIC_R
    dL C0E=cE cEE cAI C12=cO cOO cAU cKA cKHA cGA cGHA cNGA cCA cCHA cJA cJHA cNYA cTTA cTTHA cDDA
    cDDHA cNNA cTA cTHA cDA cDHA cNA C2A=cPA cPHA cBA cBHA cMA cYA cRA cRRA cLA cLLA cLLLA cVA cSHA
    cSSA cSA cHA C3C=bSIGN_NUKTA cAVAGRAHA bVOWEL_SIGN_AA dI dII dU dUU dVOCALIC_R eRR C46=dE dEE
    dAI C4A=dO dOO dAU bSIGN_VIRAMA C55=bLENGTH_MARK bcAI_ C58=bLETTER_TSA cDZA cRRRA
    C5D=cNAKAARA_POLLU C60=cVOCALIC_RR dLL bVOWEL_SIGN_VOCALIC_L eLL C66=bDIGIT_ZERO cONE cTWO
    cTHREE cFOUR cFIVE cSIX cSEVEN cEIGHT cNINE C77=bSIGN_SIDDHAM
    bFRACTION_DIGIT_ZERO_FOR_ODD_POWERS_OF_FOUR dfONE_ dfTWO_ dfTHREE_ ddONE_FOR_EVEN_ dfTWO_
    dfTHREE_ bSIGN_TUUMU KANNADA_SIGN_SPACING_CANDRABINDU cb cANUSVARA cVISARGA cSIDDHAM bLETTER_A
    cAA cI cII cU cUU cVOCALIC_R dL C8E=cE cEE cAI C92=cO cOO cAU cKA cKHA cGA cGHA cNGA cCA cCHA
    cJA cJHA cNYA cTTA cTTHA cDDA cDDHA cNNA cTA cTHA cDA cDHA cNA CAA=cPA cPHA cBA cBHA cMA cYA cRA
    cRRA cLA cLLA CB5=cVA cSHA cSSA cSA cHA CBC=bSIGN_NUKTA cAVAGRAHA bVOWEL_SIGN_AA dI dII dU dUU
    dVOCALIC_R eRR CC6=dE dEE dAI CCA=dO dOO dAU bSIGN_VIRAMA CD5=bLENGTH_MARK bcAI_
    CDD=bLETTER_NAKAARA_POLLU cFA CE0=cVOCALIC_RR dLL bVOWEL_SIGN_VOCALIC_L eLL CE6=bDIGIT_ZERO cONE
    cTWO cTHREE cFOUR cFIVE cSIX cSEVEN cEIGHT cNINE CF1=bSIGN_JIHVAMULIYA cUPADHMANIYA
    D00=MALAYALAM_SIGN_COMBINING_ANUSVARA_ABOVE cCANDRABINDU cANUSVARA cVISARGA
    bLETTER_VEDIC_ANUSVARA cA cAA cI cII cU cUU cVOCALIC_R dL D0E=cE cEE cAI D12=cO cOO cAU cKA cKHA
    cGA cGHA cNGA cCA cCHA cJA cJHA cNYA cTTA cTTHA cDDA cDDHA cNNA cTA cTHA cDA cDHA cNA cNNNA cPA
    cPHA cBA cBHA cMA cYA cRA cRRA cLA cLLA cLLLA cVA cSHA cSSA cSA cHA cTTTA
    bSIGN_VERTICAL_BAR_VIRAMA cbCIRCULAR_ cAVAGRAHA bVOWEL_SIGN_AA dI dII dU dUU dVOCALIC_R eRR
    D46=dE dEE dAI D4A=dO dOO dAU bSIGN_VIRAMA bLETTER_DOT_REPH bSIGN_PARA D54=bLETTER_CHILLU_M dY
    dLLL bAU_LENGTH_MARK bFRACTION_ONE_ONE-HUNDRED-AND-SIXTIETH dFORTIETH cTHREE_EIGHTIETHS
    cONE_TWENTIETH dTENTH cTHREE_TWENTIETHS cONE_FIFTH bLETTER_ARCHAIC_II cVOCALIC_RR dLL
    bVOWEL_SIGN_VOCALIC_L eLL D66=bDIGIT_ZERO cONE cTWO cTHREE cFOUR cFIVE cSIX cSEVEN cEIGHT cNINE
    bNUMBER_TEN cONE_HUNDRED dTHOUSAND bFRACTION_ONE_QUARTER dHALF cTHREE_QUARTERS cONE_SIXTEENTH
    dEIGHTH cTHREE_SIXTEENTHS bDATE_MARK bLETTER_CHILLU_NN dN dRR dL dLL dK
    D81=SINHALA_SIGN_CANDRABINDU cANUSVARAYA cVISARGAYA D85=bLETTER_AYANNA cAAYANNA cAEYANNA
    cAEEYANNA cIYANNA cIIYANNA cUYANNA cUUYANNA cIRUYANNA cIRUUYANNA cILUYANNA cILUUYANNA cEYANNA
    cEEYANNA cAIYANNA cOYANNA cOOYANNA cAUYANNA D9A=cALPAPRAANA_KAYANNA cbMAHAAPRAANA_
    cALPAPRAANA_GAYANNA cbMAHAAPRAANA_ cKANTAJA_NAASIKYAYA cSANYAKA_GAYANNA cALPAPRAANA_CAYANNA
    cbMAHAAPRAANA_ cALPAPRAANA_JAYANNA cbMAHAAPRAANA_ cTAALUJA_NAASIKYAYA dSANYOOGA_NAAKSIKYAYA
    cSANYAKA_JAYANNA cALPAPRAANA_TTAYANNA cbMAHAAPRAANA_ cALPAPRAANA_DDAYANNA cbMAHAAPRAANA_
    cMUURDHAJA_NAYANNA cSANYAKA_DDAYANNA cALPAPRAANA_TAYANNA cbMAHAAPRAANA_ cALPAPRAANA_DAYANNA
    cbMAHAAPRAANA_ cDANTAJA_NAYANNA DB3=cSANYAKA_DAYANNA cALPAPRAANA_PAYANNA cbMAHAAPRAANA_
    cALPAPRAANA_BAYANNA cbMAHAAPRAANA_ cMAYANNA cAMBA_BAYANNA cYAYANNA cRAYANNA DBD=cDANTAJA_LAYANNA
    DC0=cVAYANNA cTAALUJA_SAYANNA cbMUURDHAJA_ cbDANTAJA_ cHAYANNA cMUURDHAJA_LAYANNA cFAYANNA
    DCA=bSIGN_AL-LAKUNA DCF=bVOWEL_SIGN_AELA-PILLA dbKETTI_AEDA- dcDIGA_ dbKETTI_IS- dcDIGA_
    dbKETTI_PAA- DD6=dcDIGA_ DD8=dbGAETTA- dKOMBUVA dbDIGA_ dKOMBU_DEKA dKOMBUVA_HAA_AELA-PILLA
    fcDIGA_ fGAYANUKITTA db DE6=bLITH_DIGIT_ZERO dONE dTWO dTHREE dFOUR dFIVE dSIX dSEVEN dEIGHT
    dNINE DF2=bVOWEL_SIGN_DIGA_GAETTA-PILLA eGAYANUKITTA bPUNCTUATION_KUNDDALIYA
    E01=THAI_CHARACTER_KO_KAI cKHO_KHAI dKHUAT dKHWAI dKHON dRAKHANG cNGO_NGU cCHO_CHAN dCHING
    dCHANG cSO_SO cCHO_CHOE cYO_YING cDO_CHADA cTO_PATAK cTHO_THAN dNANGMONTHO dPHUTHAO cNO_NEN
    cDO_DEK cTO_TAO cTHO_THUNG dTHAHAN dTHONG cNO_NU cBO_BAIMAI cPO_PLA cPHO_PHUNG cFO_FA cPHO_PHAN
    cFO_FAN cPHO_SAMPHAO cMO_MA cYO_YAK cRO_RUA cRU cLO_LING cLU cWO_WAEN cSO_SALA dRUSI dSUA
    cHO_HIP cLO_CHULA cO_ANG cHO_NOKHUK cPAIYANNOI cSARA_A cMAI_HAN-AKAT cSARA_AA dAM dI dII dUE
    dUEE dU dUU cPHINTHU E3F=bCURRENCY_SYMBOL_BAHT bCHARACTER_SARA_E dAE dO dAI_MAIMUAN eMAIMALAI
    cLAKKHANGYAO cMAIYAMOK cMAITAIKHU cMAI_EK dTHO dTRI dCHATTAWA cTHANTHAKHAT cNIKHAHIT cYAMAKKAN
    cFONGMAN bDIGIT_ZERO cONE cTWO cTHREE cFOUR cFIVE cSIX cSEVEN cEIGHT cNINE bCHARACTER_ANGKHANKHU
    cKHOMUT E81=LAO_LETTER_KO cKHO_SUNG E84=dTAM E86=cPALI_GHA cNGO cCO cPALI_CHA cSO_TAM
    E8C=cPALI_JHA cNYO cPALI_NYA dTTA dTTHA dDDA dDDHA dNNA cDO cTO cTHO_SUNG dTAM cPALI_DHA cNO cBO
    cPO cPHO_SUNG cFO_TAM cbPHO_ cFO_SUNG cPALI_BHA cMO cYO cLO_LING EA5=dLOOT EA7=cWO cSANSKRIT_SHA
    dSSA cSO_SUNG cbHO_ cPALI_LLA cO cHO_TAM bELLIPSIS bVOWEL_SIGN_A dMAI_KAN dAA dAM dI dII dY dYY
    dU dUU bSIGN_PALI_VIRAMA bVOWEL_SIGN_MAI_KON bSEMIVOWEL_SIGN_LO dNYO EC0=bVOWEL_SIGN_E dEI dO
    dAY dAI EC6=bKO_LA EC8=bTONE_MAI_EK dTHO dTI dCATAWA bCANCELLATION_MARK bNIGGAHITA
    ED0=bDIGIT_ZERO cONE cTWO cTHREE cFOUR cFIVE cSIX cSEVEN cEIGHT cNINE EDC=bHO_NO cMO
    bLETTER_KHMU_GO dNYO F00=TIBETAN_SYLLABLE_OM bMARK_GTER_YIG_MGO_TRUNCATED_A f-UM_RNAM_BCAD_MA
    hbGTER_TSHEG_ cbINITIAL_YIG_MGO_MDUN_ cbCLOSING_YIG_MGO_SGAB_ cbCARET_YIG_MGO_PHUR_SHAD_
    ccYIG_MGO_TSHEG_ cSBRUL_SHAD cBSKUR_YIG_MGO ccBKA-_SHOG_ cINTERSYLLABIC_TSHEG
    cDELIMITER_TSHEG_BSTAR cSHAD cbNYIS_ cbTSHEG_ ccNYIS_ cbRIN_CHEN_SPUNGS_ cbRGYA_GRAM_
    cCARET_-DZUD_RTAGS_ME_LONG_CAN cGTER_TSHEG bLOGOTYPE_SIGN_CHAD_RTAGS dbLHAG_
    bbASTROLOGICAL_SIGN_SGRA_GCAN_-CHAR_ d-KHYUD_PA dSDONG_TSHUGS bSIGN_RDEL_DKAR_GCIG eGNYIS eGSUM
    dNAG_GCIG eGNYIS dDKAR_RDEL_NAG bDIGIT_ZERO cONE cTWO cTHREE cFOUR cFIVE cSIX cSEVEN cEIGHT
    cNINE cHALF_ONE dTWO dTHREE dFOUR dFIVE dSIX dSEVEN dEIGHT dNINE dZERO bMARK_BSDUS_RTAGS
    cNGAS_BZUNG_NYI_ZLA cCARET_-DZUD_RTAGS_BZHI_MIG_CAN cNGAS_BZUNG_SGOR_RTAGS cCHE_MGO cTSA_-PHRU
    cGUG_RTAGS_GYON eGYAS cANG_KHANG_GYON eGYAS bSIGN_YAR_TSHES cbMAR_ bLETTER_KA cKHA cGA cGHA cNGA
    cCA cCHA cJA F49=cNYA cTTA cTTHA cDDA cDDHA cNNA cTA cTHA cDA cDHA cNA cPA cPHA cBA cBHA cMA
    cTSA cTSHA cDZA cDZHA cWA cZHA cZA c-A cYA cRA cLA cSHA cSSA cSA cHA cA cKSSA cFIXED-FORM_RA
    cKKA cRRA F71=bVOWEL_SIGN_AA dI dII dU dUU dVOCALIC_R eRR eL eLL dE dEE dO dOO
    bSIGN_RJES_SU_NGA_RO cRNAM_BCAD bVOWEL_SIGN_REVERSED_I eII bSIGN_NYI_ZLA_NAA_DA cSNA_LDAN
    bMARK_HALANTA cPALUTA bSIGN_LCI_RTAGS cbYANG_ cLCE_TSA_CAN cbMCHU_ cGRU_CAN_RGYINGS dbMED_
    cINVERTED_MCHU_CAN bbSUBJOINED_SIGN_LCE_TSA_ dbMCHU_ dcINVERTED_ cLETTER_KA dKHA dGA dGHA dNGA
    dCA dCHA dJA F99=dNYA dTTA dTTHA dDDA dDDHA dNNA dTA dTHA dDA dDHA dNA dPA dPHA dBA dBHA dMA
    dTSA dTSHA dDZA dDZHA dWA dZHA dZA d-A dYA dRA dLA dSHA dSSA dSA dHA dA dKSSA dFIXED-FORM_WA fYA
    fRA FBE=bKU_RU_KHA dKHA_BZHI_MIG_CAN bCANTILLATION_SIGN_HEAVY_BEAT dbLIGHT_ dCANG_TE-U
    dSBUB_-CHAL bSYMBOL_DRIL_BU cRDO_RJE cPADMA_GDAN cRDO_RJE_RGYA_GRAM cPHUR_PA cNOR_BU
    dBU_NYIS_-KHYIL ecGSUM_ ecBZHI_ FCE=bSIGN_RDEL_NAG_RDEL_DKAR eGSUM bMARK_BSKA-_SHOG_GI_MGO_RGYAN
    cdMNYAM_YIG_ cNYIS_TSHEG cINITIAL_BRDA_RNYING_YIG_MGO_MDUN_MA
    cbCLOSING_BRDA_RNYING_YIG_MGO_SGAB_ RIGHT-FACING_SVASTI_SIGN adLEFT-
    RIGHT-FACING_SVASTI_SIGN_WITH_DOTS afLEFT- TIBETAN_MARK_LEADING_MCHAN_RTAGS ccTRAILING_
    1000=MYANMAR_LETTER_KA cKHA cGA cGHA cNGA cCA cCHA cJA cJHA cNYA cNNYA cTTA cTTHA cDDA cDDHA
    cNNA cTA cTHA cDA cDHA cNA cPA cPHA cBA cBHA cMA cYA cRA cLA cWA cSA cHA cLLA cA cbSHAN_ cI cII
    cU cUU cE cbMON_ cO cAU bVOWEL_SIGN_TALL_AA db dI dII dU dUU dE dAI dMON_II eO dE_ABOVE
    bSIGN_ANUSVARA cDOT_BELOW cVISARGA cVIRAMA cASAT bCONSONANT_SIGN_MEDIAL_YA eRA eWA eHA
    bLETTER_GREAT_SA bDIGIT_ZERO cONE cTWO cTHREE cFOUR cFIVE cSIX cSEVEN cEIGHT cNINE
    bSIGN_LITTLE_SECTION cb bSYMBOL_LOCATIVE cCOMPLETED cAFOREMENTIONED cGENITIVE bLETTER_SHA cSSA
    cVOCALIC_R dRR dL dLL bVOWEL_SIGN_VOCALIC_R eRR eL eLL bLETTER_MON_NGA dJHA dBBA dBBE
    bCONSONANT_SIGN_MON_MEDIAL_NA fMA fLA bLETTER_SGAW_KAREN_SHA bVOWEL_SIGN_SGAW_KAREN_EU
    bTONE_MARK_SGAW_KAREN_HATHI fKE_PHO bLETTER_WESTERN_PWO_KAREN_THA fPWA
    bVOWEL_SIGN_WESTERN_PWO_KAREN_EU gUE bSIGN_WESTERN_PWO_KAREN_TONE-1 g2 g3 g4 g5
    bLETTER_EASTERN_PWO_KAREN_NNA fYWA fGHWA bVOWEL_SIGN_GEBA_KAREN_I dKAYAH_OE eU eEE
    bLETTER_SHAN_KA dKHA dGA dCA dZA dNYA dDA dNA dPHA dFA dBA dTHA dHA
    bCONSONANT_SIGN_SHAN_MEDIAL_WA bVOWEL_SIGN_SHAN_AA eE eE_ABOVE eFINAL_Y bSIGN_SHAN_TONE-2 e3 e5
    e6 dCOUNCIL_TONE-2 f3 eEMPHATIC_TONE bLETTER_RUMAI_PALAUNG_FA bSIGN_RUMAI_PALAUNG_TONE-5
    bSHAN_DIGIT_ZERO dONE dTWO dTHREE dFOUR dFIVE dSIX dSEVEN dEIGHT dNINE bSIGN_KHAMTI_TONE-1 e3
    bVOWEL_SIGN_AITON_A eAI bSYMBOL_SHAN_ONE dEXCLAMATION GEORGIAN_CAPITAL_LETTER_AN dBAN dGAN dDON
    dEN dVIN dZEN dTAN dIN dKAN dLAS dMAN dNAR dON dPAR dZHAR dRAE dSAN dTAR dUN dPHAR dKHAR dGHAN
    dQAR dSHIN dCHIN dCAN dJIL dCIL dCHAR dXAN dJHAN dHAE dHE dHIE dWE dHAR dHOE 10C7=dYN 10CD=dAEN
    10D0=bLETTER_AN cBAN cGAN cDON cEN cVIN cZEN cTAN cIN cKAN cLAS cMAN cNAR cON cPAR cZHAR cRAE
    cSAN cTAR cUN cPHAR cKHAR cGHAN cQAR cSHIN cCHIN cCAN cJIL cCIL cCHAR cXAN cJHAN cHAE cHE cHIE
    cWE cHAR cHOE cFI cYN cELIFI cTURNED_GAN cAIN bPARAGRAPH_SEPARATOR MODIFIER_LETTER_GEORGIAN_NAR
    GEORGIAN_LETTER_AEN cHARD_SIGN cbLABIAL_ HANGUL_CHOSEONG_KIYEOK cSSANGKIYEOK cNIEUN cTIKEUT
    cSSANGTIKEUT cRIEUL cMIEUM cPIEUP cSSANGPIEUP cSIOS cSSANGSIOS cIEUNG cCIEUC cSSANGCIEUC
    cCHIEUCH cKHIEUKH cTHIEUTH cPHIEUPH cHIEUH cNIEUN-KIYEOK cSSANGNIEUN cNIEUN-TIKEUT dPIEUP
    cTIKEUT-KIYEOK cRIEUL-NIEUN cSSANGRIEUL cRIEUL-HIEUH cKAPYEOUNRIEUL cMIEUM-PIEUP cKAPYEOUNMIEUM
    cPIEUP-KIYEOK dNIEUN dTIKEUT dSIOS dSIOS-KIYEOK eTIKEUT ePIEUP dSSANGSIOS dSIOS-CIEUC db
    dCHIEUCH dTHIEUTH dPHIEUPH cKAPYEOUNPIEUP cKAPYEOUNSSANGPIEUP cSIOS-KIYEOK dNIEUN dTIKEUT dRIEUL
    dMIEUM dPIEUP dPIEUP-KIYEOK dSSANGSIOS dIEUNG dCIEUC dCHIEUCH dKHIEUKH dTHIEUTH dPHIEUPH dHIEUH
    cCHITUEUMSIOS cCHITUEUMSSANGSIOS cCEONGCHIEUMSIOS cCEONGCHIEUMSSANGSIOS cPANSIOS cIEUNG-KIYEOK
    dTIKEUT dMIEUM dPIEUP dSIOS dPANSIOS cSSANGIEUNG cIEUNG-CIEUC dCHIEUCH dTHIEUTH dPHIEUPH
    cYESIEUNG cCIEUC-IEUNG cCHITUEUMCIEUC cCHITUEUMSSANGCIEUC cCEONGCHIEUMCIEUC
    cCEONGCHIEUMSSANGCIEUC cCHIEUCH-KHIEUKH dHIEUH cCHITUEUMCHIEUCH cCEONGCHIEUMCHIEUCH
    cPHIEUPH-PIEUP cKAPYEOUNPHIEUPH cSSANGHIEUH cYEORINHIEUH cKIYEOK-TIKEUT cNIEUN-SIOS dCIEUC
    dHIEUH cTIKEUT-RIEUL cFILLER bbJUNGSEONG_ cA cAE cYA cYAE cEO cE cYEO cYE cO cWA cWAE cOE cYO cU
    cWEO cWE cWI cYU cEU cYI cI cA-O dU cYA-O dYO cEO-O dU dEU cYEO-O dU cO-EO dE dYE dO dU cYO-YA
    dYAE dYEO dO dI cU-A dAE dEO-EU dYE dU cYU-A dEO dE dYEO dYE dU dI cEU-U dEU cYI-U cI-A dYA dO
    dU dEU dARAEA cb cARAEA-EO dU dI cSSANGARAEA cA-EU cYA-U cYEO-YA cbO- dYAE bJONGSEONG_KIYEOK
    cSSANGKIYEOK cKIYEOK-SIOS cNIEUN cNIEUN-CIEUC dHIEUH cTIKEUT cRIEUL cRIEUL-KIYEOK dMIEUM dPIEUP
    dSIOS dTHIEUTH dPHIEUPH dHIEUH cMIEUM cPIEUP cPIEUP-SIOS cb cSSANGSIOS cIEUNG cCIEUC cCHIEUCH
    cKHIEUKH cTHIEUTH cPHIEUPH cHIEUH cKIYEOK-RIEUL dSIOS-KIYEOK cbNIEUN- dTIKEUT dSIOS dPANSIOS
    dTHIEUTH cTIKEUT-KIYEOK dRIEUL cRIEUL-KIYEOK-SIOS dNIEUN dTIKEUT dTIKEUT-HIEUH cSSANGRIEUL
    cRIEUL-MIEUM-KIYEOK eSIOS dbPIEUP- eHIEUH dKAPYEOUNPIEUP dSSANGSIOS dPANSIOS dKHIEUKH
    dYEORINHIEUH cMIEUM-KIYEOK dRIEUL dPIEUP dSIOS dSSANGSIOS dPANSIOS dCHIEUCH dHIEUH
    cKAPYEOUNMIEUM cPIEUP-RIEUL dPHIEUPH dHIEUH cKAPYEOUNPIEUP cSIOS-KIYEOK dTIKEUT dRIEUL dPIEUP
    cPANSIOS cIEUNG-KIYEOK dSSANGKIYEOK cSSANGIEUNG cIEUNG-KHIEUKH cYESIEUNG cYESIEUNG-SIOS dPANSIOS
    cPHIEUPH-PIEUP cKAPYEOUNPHIEUPH cHIEUH-NIEUN dRIEUL dMIEUM dPIEUP cYEORINHIEUH cKIYEOK-NIEUN
    dPIEUP dCHIEUCH dKHIEUKH dHIEUH cSSANGNIEUN ETHIOPIC_SYLLABLE_HA cHU cHI cHAA cHEE cHE cHO cHOA
    cLA cLU cLI cLAA cLEE cLE cLO cLWA cHHA cHHU cHHI cHHAA cHHEE cHHE cHHO cHHWA cMA cMU cMI cMAA
    cMEE cME cMO cMWA cSZA cSZU cSZI cSZAA cSZEE cSZE cSZO cSZWA cRA cRU cRI cRAA cREE cRE cRO cRWA
    cSA cSU cSI cSAA cSEE cSE cSO cSWA cSHA cSHU cSHI cSHAA cSHEE cSHE cSHO cSHWA cQA cQU cQI cQAA
    cQEE cQE cQO cQOA cQWA 124A=cQWI cQWAA cQWEE cQWE 1250=cQHA cQHU cQHI cQHAA cQHEE cQHE cQHO
    1258=cQHWA 125A=cQHWI cQHWAA cQHWEE cQHWE 1260=cBA cBU cBI cBAA cBEE cBE cBO cBWA cVA cVU cVI
    cVAA cVEE cVE cVO cVWA cTA cTU cTI cTAA cTEE cTE cTO cTWA cCA cCU cCI cCAA cCEE cCE cCO cCWA cXA
    cXU cXI cXAA cXEE cXE cXO cXOA cXWA 128A=cXWI cXWAA cXWEE cXWE 1290=cNA cNU cNI cNAA cNEE cNE
    cNO cNWA cNYA cNYU cNYI cNYAA cNYEE cNYE cNYO cNYWA cGLOTTAL_A dU dI dAA dEE dE dO dWA cKA cKU
    cKI cKAA cKEE cKE cKO cKOA cKWA 12B2=cKWI cKWAA cKWEE cKWE 12B8=cKXA cKXU cKXI cKXAA cKXEE cKXE
    cKXO 12C0=cKXWA 12C2=cKXWI cKXWAA cKXWEE cKXWE 12C8=cWA cWU cWI cWAA cWEE cWE cWO cWOA
    cPHARYNGEAL_A dU dI dAA dEE dE dO 12D8=cZA cZU cZI cZAA cZEE cZE cZO cZWA cZHA cZHU cZHI cZHAA
    cZHEE cZHE cZHO cZHWA cYA cYU cYI cYAA cYEE cYE cYO cYOA cDA cDU cDI cDAA cDEE cDE cDO cDWA cDDA
    cDDU cDDI cDDAA cDDEE cDDE cDDO cDDWA cJA cJU cJI cJAA cJEE cJE cJO cJWA cGA cGU cGI cGAA cGEE
    cGE cGO cGOA cGWA 1312=cGWI cGWAA cGWEE cGWE 1318=cGGA cGGU cGGI cGGAA cGGEE cGGE cGGO cGGWAA
    cTHA cTHU cTHI cTHAA cTHEE cTHE cTHO cTHWA cCHA cCHU cCHI cCHAA cCHEE cCHE cCHO cCHWA cPHA cPHU
    cPHI cPHAA cPHEE cPHE cPHO cPHWA cTSA cTSU cTSI cTSAA cTSEE cTSE cTSO cTSWA cTZA cTZU cTZI cTZAA
    cTZEE cTZE cTZO cTZOA cFA cFU cFI cFAA cFEE cFE cFO cFWA cPA cPU cPI cPAA cPEE cPE cPO cPWA cRYA
    cMYA cFYA 135D=bCOMBINING_GEMINATION_AND_VOWEL_LENGTH_MARK cd cbGEMINATION_ bbSECTION_
    bWORDSPACE bFULL_STOP bCOMMA bSEMICOLON bCOLON bbPREFACE_ bQUESTION_MARK bPARAGRAPH_SEPARATOR
    bDIGIT_ONE cTWO cTHREE cFOUR cFIVE cSIX cSEVEN cEIGHT cNINE bNUMBER_TEN cTWENTY cTHIRTY cFORTY
    cFIFTY cSIXTY cSEVENTY cEIGHTY cNINETY cHUNDRED cTEN_THOUSAND 1380=bSYLLABLE_SEBATBEIT_MWA cMWI
    cMWEE cMWE cSEBATBEIT_BWA cBWI cBWEE cBWE cSEBATBEIT_FWA cFWI cFWEE cFWE cSEBATBEIT_PWA cPWI
    cPWEE cPWE bTONAL_MARK_YIZET dDERET dRIKRIK dbSHORT_ dDIFAT dKENAT dCHIRET dHIDET dbDERET- dKURT
    13A0=CHEROKEE_LETTER_A cE cI cO cU cV cGA cKA cGE cGI cGO cGU cGV cHA cHE cHI cHO cHU cHV cLA
    cLE cLI cLO cLU cLV cMA cME cMI cMO cMU cNA cHNA cNAH cNE cNI cNO cNU cNV cQUA cQUE cQUI cQUO
    cQUU cQUV cSA cS cSE cSI cSO cSU cSV cDA cTA cDE cTE cDI cTI cDO cDU cDV cDLA cTLA cTLE cTLI
    cTLO cTLU cTLV cTSA cTSE cTSI cTSO cTSU cTSV cWA cWE cWI cWO cWU cWV cYA cYE cYI cYO cYU cYV cMV
    13F8=bSMALL_LETTER_YE dYI dYO dYU dYV dMV 1400=CANADIAN_SYLLABICS_HYPHEN cE cAAI cI cII cO cOO
    cbY-CREE_ cCARRIER_EE dI cA cAA cWE cbWEST-CREE_ cWI cbWEST-CREE_ cWII cbWEST-CREE_ cWO
    cbWEST-CREE_ cWOO cbWEST-CREE_ cbNASKAPI_ cWA cbWEST-CREE_ cWAA cbWEST-CREE_ cbNASKAPI_ cAI
    cY-CREE_W cGLOTTAL_STOP cFINAL_ACUTE dGRAVE dBOTTOM_HALF_RING dcTOP_ dcRIGHT_ db dDOUBLE_ACUTE
    eSHORT_VERTICAL_STROKES dMIDDLE_DOT dSHORT_HORIZONTAL_STROKE dPLUS dDOWN_TACK cEN cIN cON cAN
    cPE cPAAI cPI cPII cPO cPOO cbY-CREE_ cCARRIER_HEE dHI cPA cPAA cPWE cbWEST-CREE_ cPWI
    cbWEST-CREE_ cPWII cbWEST-CREE_ cPWO cbWEST-CREE_ cPWOO cbWEST-CREE_ cPWA cbWEST-CREE_ cPWAA
    cbWEST-CREE_ ccY- cP cbWEST-CREE_ cCARRIER_H cTE cTAAI cTI cTII cTO cTOO cbY-CREE_ cCARRIER_DEE
    dDI cTA cTAA cTWE cbWEST-CREE_ cTWI cbWEST-CREE_ cTWII cbWEST-CREE_ cTWO cbWEST-CREE_ cTWOO
    cbWEST-CREE_ cTWA cbWEST-CREE_ cTWAA cbWEST-CREE_ cbNASKAPI_ cT cTTE cTTI cTTO cTTA cKE cKAAI
    cKI cKII cKO cKOO cbY-CREE_ cKA cKAA cKWE cbWEST-CREE_ cKWI cbWEST-CREE_ cKWII cbWEST-CREE_ cKWO
    cbWEST-CREE_ cKWOO cbWEST-CREE_ cKWA cbWEST-CREE_ cKWAA cbWEST-CREE_ cbNASKAPI_ cK cKW
    cSOUTH-SLAVEY_KEH eKIH eKOH eKAH cCE cCAAI cCI cCII cCO cCOO cbY-CREE_ cCA cCAA cCWE
    cbWEST-CREE_ cCWI cbWEST-CREE_ cCWII cbWEST-CREE_ cCWO cbWEST-CREE_ cCWOO cbWEST-CREE_ cCWA
    cbWEST-CREE_ cCWAA cbWEST-CREE_ cbNASKAPI_ cC cSAYISI_TH cME cMAAI cMI cMII cMO cMOO cbY-CREE_
    cMA cMAA cMWE cbWEST-CREE_ cMWI cbWEST-CREE_ cMWII cbWEST-CREE_ cMWO cbWEST-CREE_ cMWOO
    cbWEST-CREE_ cMWA cbWEST-CREE_ cMWAA cbWEST-CREE_ cbNASKAPI_ cM cbWEST-CREE_ cMH cATHAPASCAN_M
    cbSAYISI_ cNE cNAAI cNI cNII cNO cNOO cbY-CREE_ cNA cNAA cNWE cbWEST-CREE_ cNWA cbWEST-CREE_
    cNWAA cbWEST-CREE_ cbNASKAPI_ cN cCARRIER_NG cNH cLE cLAAI cLI cLII cLO cLOO cbY-CREE_ cLA cLAA
    cLWE cbWEST-CREE_ cLWI cbWEST-CREE_ cLWII cbWEST-CREE_ cLWO cbWEST-CREE_ cLWOO cbWEST-CREE_ cLWA
    cbWEST-CREE_ cLWAA cbWEST-CREE_ cL cbWEST-CREE_ cbMEDIAL_ cSE cSAAI cSI cSII cSO cSOO cbY-CREE_
    cSA cSAA cSWE cbWEST-CREE_ cSWI cbWEST-CREE_ cSWII cbWEST-CREE_ cSWO cbWEST-CREE_ cSWOO
    cbWEST-CREE_ cSWA cbWEST-CREE_ cSWAA cbWEST-CREE_ cbNASKAPI_ cS cbATHAPASCAN_ cSW cBLACKFOOT_S
    cMOOSE-CREE_SK cNASKAPI_SKW dS-W dSPWA dSTWA dSKWA dSCWA cSHE cSHI cSHII cSHO cSHOO cSHA cSHAA
    cSHWE cbWEST-CREE_ cSHWI cbWEST-CREE_ cSHWII cbWEST-CREE_ cSHWO cbWEST-CREE_ cSHWOO cbWEST-CREE_
    cSHWA cbWEST-CREE_ cSHWAA cbWEST-CREE_ cSH cYE cYAAI cYI cYII cYO cYOO cbY-CREE_ cYA cYAA cYWE
    cbWEST-CREE_ cYWI cbWEST-CREE_ cYWII cbWEST-CREE_ cYWO cbWEST-CREE_ cYWOO cbWEST-CREE_ cYWA
    cbWEST-CREE_ cYWAA cbWEST-CREE_ cbNASKAPI_ cY cbBIBLE-CREE_ ccWEST- cSAYISI_YI cRE cbR-CREE_
    cWEST-CREE_LE cRAAI cRI cRII cRO cROO cWEST-CREE_LO cRA cRAA cWEST-CREE_LA cRWAA cbWEST-CREE_ cR
    cbWEST-CREE_ cbMEDIAL_ cFE cFAAI cFI cFII cFO cFOO cFA cFAA cFWAA cbWEST-CREE_ cF cTHE cbN-CREE_
    cTHI cbN-CREE_ cTHII cbN-CREE_ cTHO cTHOO cTHA cTHAA cTHWAA cbWEST-CREE_ cTH cTTHE cTTHI cTTHO
    cTTHA cTTH cTYE cTYI cTYO cTYA cNUNAVIK_HE dHI dHII dHO dHOO dHA dHAA dH cbNUNAVUT_ cHK cQAAI
    cQI cQII cQO cQOO cQA cQAA cQ cTLHE cTLHI cTLHO cTLHA cWEST-CREE_RE eRI eRO eRA cNGAAI cNGI
    cNGII cNGO cNGOO cNGA cNGAA cNG cNNG cSAYISI_SHE dSHI dSHO dSHA cWOODS-CREE_THE eTHI eTHO eTHA
    eTH cLHI cLHII cLHO cLHOO cLHA cLHAA cLH cTH-CREE_THE eTHI eTHII eTHO eTHOO eTHA eTHAA eTH
    cAIVILIK_B cBLACKFOOT_E dI dO dA dWE dWI dWO dWA dNE dNI dNO dNA dKE dKI dKO dKA cSAYISI_HE dHI
    dHO dHA cCARRIER_GHU dGHO dGHE dGHEE dGHI dGHA dRU dRO dRE dREE dRI dRA dWU dWO dWE dWEE dWI dWA
    dHWU dHWO dHWE dHWEE dHWI dHWA dTHU dTHO dTHE dTHEE dTHI dTHA dTTU dTTO dTTE dTTEE dTTI dTTA dPU
    dPO dPE dPEE dPI dPA dP dGU dGO dGE dGEE dGI dGA dKHU dKHO dKHE dKHEE dKHI dKHA dKKU dKKO dKKE
    dKKEE dKKI dKKA dKK dNU dNO dNE dNEE dNI dNA dMU dMO dME dMEE dMI dMA dYU dYO dYE dYEE dYI dYA
    dJU cbSAYISI_ cCARRIER_JO dJE dJEE dJI cbSAYISI_ cCARRIER_JA dJJU dJJO dJJE dJJEE dJJI dJJA dLU
    dLO dLE dLEE dLI dLA dDLU dDLO dDLE dDLEE dDLI dDLA dLHU dLHO dLHE dLHEE dLHI dLHA dTLHU dTLHO
    dTLHE dTLHEE dTLHI dTLHA dTLU dTLO dTLE dTLEE dTLI dTLA dZU dZO dZE dZEE dZI dZA dZ dbINITIAL_
    dDZU dDZO dDZE dDZEE dDZI dDZA dSU dSO dSE dSEE dSI dSA dSHU dSHO dSHE dSHEE dSHI dSHA dSH dTSU
    dTSO dTSE dTSEE dTSI dTSA dCHU dCHO dCHE dCHEE dCHI dCHA dTTSU dTTSO dTTSE dTTSEE dTTSI dTTSA
    cCHI_SIGN cFULL_STOP cQAI cNGAI cNNGI cNNGII cNNGO cNNGOO cNNGA cNNGAA cWOODS-CREE_THWEE eTHWI
    eTHWII eTHWO eTHWOO eTHWA eTHWAA eFINAL_TH cBLACKFOOT_W OGHAM_SPACE_MARK bLETTER_BEITH cLUIS
    cFEARN cSAIL cNION cUATH cDAIR cTINNE cCOLL cCEIRT cMUIN cGORT cNGEADAL cSTRAIF cRUIS cAILM cONN
    cUR cEADHADH cIODHADH cEABHADH cOR cUILLEANN cIFIN cEAMHANCHOLL cPEITH bFEATHER_MARK bcREVERSED_
    16A0=RUNIC_LETTER_FEHU_FEOH_FE_F cV cURUZ_UR_U cYR cY cW cTHURISAZ_THURS_THORN cETH cANSUZ_A
    cOS_O cAC_A cAESC cLONG-BRANCH-OSS_O ccSHORT-TWIG- cb cOE cON cRAIDO_RAD_REID_R cKAUNA cCEN
    cKAUN_K cG cENG cGEBO_GYFU_G cGAR cWUNJO_WYNN_W cHAGLAZ_H cbHAEGL_ cbLONG-BRANCH-HAGALL_
    ccSHORT-TWIG- cNAUDIZ_NYD_NAUD_N ccSHORT-TWIG- cbDOTTED- cISAZ_IS_ISS_I cE cJERAN_J cGER
    cLONG-BRANCH-AR_AE cSHORT-TWIG-AR_A cIWAZ_EOH cPERTHO_PEORTH_P cALGIZ_EOLHX cSOWILO_S
    cbSIGEL_LONG-BRANCH-SOL_ ccSHORT-TWIG- cC cZ cTIWAZ_TIR_TYR_T ccSHORT-TWIG- cD
    cBERKANAN_BEORC_BJARKAN_B ccSHORT-TWIG- cDOTTED-P cbOPEN- cEHWAZ_EH_E cMANNAZ_MAN_M
    cbLONG-BRANCH-MADR_ ccSHORT-TWIG- cLAUKAZ_LAGU_LOGR_L cbDOTTED- cINGWAZ cING cDAGAZ_DAEG_D
    cOTHALAN_ETHEL_O cEAR cIOR cCWEORTH cCALC cCEALC cSTAN cLONG-BRANCH-YR cbSHORT-TWIG-
    cbICELANDIC- cQ cX bSINGLE_PUNCTUATION bbMULTIPLE_ bbCROSS_ bARLAUG_SYMBOL bbTVIMADUR_
    bbBELGTHOR_ bLETTER_K cSH cOO cFRANKS_CASKET_OS eIS eEH eAC eAESC 1700=TAGALOG_LETTER_A cI cU
    cKA cGA cNGA cTA cDA cNA cPA cBA cMA cYA cRA cLA cWA cSA cHA bVOWEL_SIGN_I dU bSIGN_VIRAMA
    cPAMUDPOD 171F=bLETTER_ARCHAIC_RA HANUNOO_LETTER_A cI cU cKA cGA cNGA cTA cDA cNA cPA cBA cMA
    cYA cRA cLA cWA cSA cHA bVOWEL_SIGN_I dU bSIGN_PAMUDPOD PHILIPPINE_SINGLE_PUNCTUATION bbDOUBLE_
    1740=BUHID_LETTER_A cI cU cKA cGA cNGA cTA cDA cNA cPA cBA cMA cYA cRA cLA cWA cSA cHA
    bVOWEL_SIGN_I dU 1760=TAGBANWA_LETTER_A cI cU cKA cGA cNGA cTA cDA cNA cPA cBA cMA cYA 176E=cLA
    cWA cSA 1772=bVOWEL_SIGN_I dU 1780=KHMER_LETTER_KA cKHA cKO cKHO cNGO cCA cCHA cCO cCHO cNYO cDA
    cTTHA cDO cTTHO cNNO cTA cTHA cTO cTHO cNO cBA cPHA cPO cPHO cMO cYO cRO cLO cVO cSHA cSSO cSA
    cHA cLA cQA bINDEPENDENT_VOWEL_QAQ dQAA dQI dQII dQU dQUK dQUU dQUUV dRY dRYY dLY dLYY dQE dQAI
    dQOO_TYPE_ONE fTWO dQAU bVOWEL_INHERENT_AQ dAA cbSIGN_ dI dII dY dYY dU dUU dUA dOE dYA dIE dE
    dAE dAI dOO dAU bSIGN_NIKAHIT cREAHMUK cYUUKALEAPINTU cMUUSIKATOAN cTRIISAP cBANTOC cROBAT
    cTOANDAKHIAT cKAKABAT cAHSDA cSAMYOK_SANNYA cVIRIAM cCOENG cBATHAMASAT cKHAN cBARIYOOSAN
    cCAMNUC_PII_KUUH cLEK_TOO cBEYYAL cPHNAEK_MUAN cKOOMUUT bCURRENCY_SYMBOL_RIEL
    bSIGN_AVAKRAHASANYA cATTHACAN 17E0=bDIGIT_ZERO cONE cTWO cTHREE cFOUR cFIVE cSIX cSEVEN cEIGHT
    cNINE 17F0=bSYMBOL_LEK_ATTAK_SON eMUOY ePII eBEI eBUON ePRAM ePRAM-MUOY fPII fBEI fBUON
    1800=MONGOLIAN_BIRGA bELLIPSIS bCOMMA bFULL_STOP bCOLON bFOUR_DOTS bTODO_SOFT_HYPHEN
    bSIBE_SYLLABLE_BOUNDARY_MARKER bMANCHU_COMMA cFULL_STOP bNIRUGU bFREE_VARIATION_SELECTOR_ONE
    eTWO eTHREE bVOWEL_SEPARATOR bFREE_VARIATION_SELECTOR_FOUR bDIGIT_ZERO cONE cTWO cTHREE cFOUR
    cFIVE cSIX cSEVEN cEIGHT cNINE 1820=bLETTER_A cE cI cO cU cOE cUE cEE cNA cANG cBA cPA cQA cGA
    cMA cLA cSA cSHA cTA cDA cCHA cJA cYA cRA cWA cFA cKA cKHA cTSA cZA cHAA cZRA cLHA cZHI cCHI
    cTODO_LONG_VOWEL_SIGN dE dI dO dU dOE dUE dANG dBA dPA dQA dGA dMA dTA dDA dCHA dJA dTSA dYA dWA
    dKA dGAA dHAA dJIA dNIA dDZA cSIBE_E dI dIY dUE dU dANG dKA dGA dHA dPA dSHA dTA dDA dJA dFA
    dGAA dHAA dTSA dZA dRAA dCHA dZHA cMANCHU_I dKA dRA dFA dZHA cCHA_WITH_TWO_DOTS
    1880=cALI_GALI_ANUSVARA_ONE ebVISARGA_ eDAMARU eUBADAMA ebINVERTED_ eBALUDA ebTHREE_ eA eI eKA
    eNGA eCA eTTA eTTHA eDDA eNNA eTA eDA ePA ePHA eSSA eZHA eZA eAH cTODO_ALI_GALI_TA fZHA
    cMANCHU_ALI_GALI_GHA fNGA fCA fJHA fTTA fDDHA fTA fDHA fSSA fCYA fZHA fZA cALI_GALI_HALF_U fYA
    cMANCHU_ALI_GALI_BHA cALI_GALI_DAGALGA cMANCHU_ALI_GALI_LHA 18B0=CANADIAN_SYLLABICS_OY cAY cAAY
    cWAY cPOY cPAY cPWOY cTAY cKAY cKWAY cMAY cNOY cNAY cLAY cSOY cSAY cSHOY cSHAY cSHWOY cYOY cYAY
    cRAY cNWI cbOJIBWAY_ cNWII cbOJIBWAY_ cNWO cbOJIBWAY_ cNWOO cbOJIBWAY_ cRWEE cRWI cRWII cRWO
    cRWOO cRWA cOJIBWAY_P dT dK dC dM dN dS dSH cEASTERN_W cbWESTERN_ cFINAL_SMALL_RING dRAISED_DOT
    cR-CREE_RWE cWEST-CREE_LOO eLAA cTHWE cTHWA cTTHWE cTTHOO cTTHAA cTLHWE cTLHOO cSAYISI_SHWE
    dSHOO dHOO cCARRIER_GWU dDENE_GEE dGAA dGWA cSAYISI_JUU cCARRIER_JWA cBEAVER_DENE_L eR
    cCARRIER_DENTAL_S 1900=LIMBU_VOWEL-CARRIER_LETTER bLETTER_KA cKHA cGA cGHA cNGA cCA cCHA cJA
    cJHA cYAN cTA cTHA cDA cDHA cNA cPA cPHA cBA cBHA cMA cYA cRA cLA cWA cSHA cSSA cSA cHA cGYAN
    cTRA 1920=bVOWEL_SIGN_A dI dU dEE dAI dOO dAU dE dO bSUBJOINED_LETTER_YA dRA dWA
    1930=bSMALL_LETTER_KA dNGA dANUSVARA dTA dNA dPA dMA dRA dLA bSIGN_MUKPHRENG cKEMPHRENG cSA-I
    1940=cLOO 1944=bEXCLAMATION_MARK bbQUESTION_ bDIGIT_ZERO cONE cTWO cTHREE cFOUR cFIVE cSIX
    cSEVEN cEIGHT cNINE TAI_LE_LETTER_KA dXA dNGA dTSA dSA dYA dTA dTHA dLA dPA dPHA dMA dFA dVA dHA
    dQA dKHA dTSHA dNA dA dI dEE dEH dU dOO dO dUE dE dAUE dAI 1970=dTONE-2 e3 e4 e5 e6
    1980=NEW_TAI_LUE_LETTER_HIGH_QA ebLOW_ eHIGH_KA fXA fNGA eLOW_KA fXA fNGA eHIGH_TSA fSA fYA
    eLOW_TSA fSA fYA eHIGH_TA fTHA fNA eLOW_TA fTHA fNA eHIGH_PA fPHA fMA eLOW_PA fPHA fMA eHIGH_FA
    fVA fLA eLOW_FA fVA fLA eHIGH_HA fDA fBA eLOW_HA fDA fBA eHIGH_KVA fXVA eLOW_KVA fXVA eHIGH_SUA
    ebLOW_ 19B0=dVOWEL_SIGN_VOWEL_SHORTENER fAA fII fU fUU fE fAE fO fOA fUE fAY fAAY fUY fOY fOAY
    fUEY fIY dLETTER_FINAL_V fNG fN fM fK fD fB dTONE_MARK-1 f2 19D0=dDIGIT_ZERO eONE eTWO eTHREE
    eFOUR eFIVE eSIX eSEVEN eEIGHT eNINE dTHAM_DIGIT_ONE 19DE=dSIGN_LAE eLAEV
    KHMER_SYMBOL_PATHAMASAT cMUOY_KOET cbPII_ cbBEI_ cbBUON_ cbPRAM_ cbPRAM-MUOY_ dbPII_ dbBEI_
    dbBUON_ cbDAP_ cbDAP-MUOY_ dbPII_ dbBEI_ dbBUON_ dbPRAM_ cTUTEYASAT cMUOY_ROC cbPII_ cbBEI_
    cbBUON_ cbPRAM_ cbPRAM-MUOY_ dbPII_ dbBEI_ dbBUON_ cbDAP_ cbDAP-MUOY_ dbPII_ dbBEI_ dbBUON_
    dbPRAM_ BUGINESE_LETTER_KA cGA cNGA cNGKA cPA cBA cMA cMPA cTA cDA cNA cNRA cCA cJA cNYA cNYCA
    cYA cRA cLA cVA cSA cA cHA bVOWEL_SIGN_I dU dE dO dAE 1A1E=bPALLAWA bEND_OF_SECTION
    TAI_THAM_LETTER_HIGH_KA eKHA eKXA dLOW_KA eKXA eKHA dNGA dHIGH_CA eCHA dLOW_CA eSA eCHA dNYA
    dRATA dHIGH_RATHA dDA dLOW_RATHA dRANA dHIGH_TA eTHA dLOW_TA eTHA dNA dBA dHIGH_PA ePHA eFA
    dLOW_PA eFA ePHA dMA dLOW_YA dbHIGH_ dRA dRUE dLA dLUE dWA dHIGH_SHA eSSA eSA eHA dLLA dA
    dLOW_HA dI dII dU dUU dEE dOO dLAE dGREAT_SA cCONSONANT_SIGN_MEDIAL_RA fLA eLA_TANG_LAI
    cbSIGN_MAI_KANG_ cCONSONANT_SIGN_FINAL_NGA eLOW_PA ecHIGH_RATHA_OR_ eMA eBA eSA 1A60=cSIGN_SAKOT
    cVOWEL_SIGN_A eMAI_SAT eAA ebTALL_ eI eII eUE eUUE eU eUU eO eOA_BELOW eOY eE eAE eOO eAI
    ebTHAM_ eOA_ABOVE cSIGN_MAI_KANG dTONE-1 e2 dKHUEN_TONE-3 f4 f5 dRA_HAAM dMAI_SAM
    dKHUEN-LUE_KARAN 1A7F=cCOMBINING_CRYPTOGRAMMIC_DOT cHORA_DIGIT_ZERO eONE eTWO eTHREE eFOUR eFIVE
    eSIX eSEVEN eEIGHT eNINE 1A90=cTHAM_DIGIT_ZERO eONE eTWO eTHREE eFOUR eFIVE eSIX eSEVEN eEIGHT
    eNINE 1AA0=cSIGN_WIANG dWIANGWAAK dSAWAN dKEOW dHOY dDOKMAI dREVERSED_ROTATED_RANA dMAI_YAMOK
    dKAAN dKAANKUU dSATKAAN dSATKAANKUU dHANG dCAANG 1AB0=COMBINING_DOUBLED_CIRCUMFLEX_ACCENT
    bDIAERESIS-RING bINFINITY bDOWNWARDS_ARROW bTRIPLE_DOT bX-X_BELOW bbWIGGLY_LINE_ bbOPEN_MARK_
    bdDOUBLE_ bbLIGHT_CENTRALIZATION_STROKE_ bdSTRONG_ bPARENTHESES_ABOVE bcDOUBLE_
    bPARENTHESES_BELOW cOVERLAY bLATIN_SMALL_LETTER_W_BELOW ecTURNED_ bLEFT_PARENTHESIS_ABOVE_LEFT
    bRIGHT_PARENTHESIS_ABOVE_RIGHT bLEFT_PARENTHESIS_BELOW_LEFT bRIGHT_PARENTHESIS_BELOW_RIGHT
    bSQUARE_BRACKETS_ABOVE bbNUMBER_SIGN_ bbINVERTED_DOUBLE_ARCH_ bbPLUS_SIGN_ bdDOUBLE_ eBELOW
    bTRIPLE_ACUTE_ACCENT bLATIN_SMALL_LETTER_INSULAR_G fR fT 1B00=BALINESE_SIGN_ULU_RICEM dCANDRA
    cCECEK cSURANG cBISAH bLETTER_AKARA cAKARA_TEDUNG cIKARA cIKARA_TEDUNG cUKARA cUKARA_TEDUNG
    cRA_REPA dREPA_TEDUNG cLA_LENGA dLENGA_TEDUNG cEKARA cAIKARA cOKARA cOKARA_TEDUNG cKA
    cKA_MAHAPRANA cGA cGA_GORA cNGA cCA cCA_LACA cJA cJA_JERA cNYA cTA_LATIK dMURDA_MAHAPRANA
    cDA_MURDA_ALPAPRANA eMAHAPRANA cNA_RAMBAT cTA cTA_TAWA cDA cDA_MADU cNA cPA cPA_KAPAL cBA
    cBA_KEMBANG cMA cYA cRA cLA cWA cSA_SAGA dSAPA cSA cHA bSIGN_REREKAN bVOWEL_SIGN_TEDUNG dULU
    dULU_SARI dSUKU dSUKU_ILUT dRA_REPA eREPA_TEDUNG dLA_LENGA eLENGA_TEDUNG dTALING dTALING_REPA
    eTEDUNG ebREPA_ dPEPET dPEPET_TEDUNG bADEG_ADEG bLETTER_KAF_SASAK cbKHOT_ cbTZIR_ cbEF_ cbVE_
    cbZAL_ cbASYURA_ cARCHAIC_JNYA 1B50=bDIGIT_ZERO cONE cTWO cTHREE cFOUR cFIVE cSIX cSEVEN cEIGHT
    cNINE bPANTI bPAMADA bWINDU bCARIK_PAMUNGKAH cSIKI cPAREREN bPAMENENG bMUSICAL_SYMBOL_DONG dDENG
    dDUNG dDANG dDANG_SURANG dDING dDAENG dDEUNG dDAING dDANG_GEDE dCOMBINING_TEGEH eENDEP eKEMPUL
    eKEMPLI eJEGOGAN ebKEMPUL_WITH_ ecKEMPLI_ eBENDE eGONG dRIGHT-HAND_OPEN_DUG gDAG fCLOSED_TUK
    gTAK dLEFT-HAND_OPEN_PANG gPUNG fCLOSED_PLAK gPLUK fOPEN_PING bPANTI_LANTANG bbPAMADA_
    1B80=SUNDANESE_SIGN_PANYECEK cPANGLAYAR cPANGWISAD bLETTER_A cI cU cAE cO cE cEU cKA cQA cGA
    cNGA cCA cJA cZA cNYA cTA cDA cNA cPA cFA cVA cBA cMA cYA cRA cLA cWA cSA cXA cHA
    bCONSONANT_SIGN_PAMINGKAL dPANYAKRA dPANYIKU bVOWEL_SIGN_PANGHULU dPANYUKU dPANAELAENG dPANOLONG
    dPAMEPET dPANEULEUNG bSIGN_PAMAAEH cVIRAMA bCONSONANT_SIGN_PASANGAN_MA eWA bLETTER_KHA cSYA
    bDIGIT_ZERO cONE cTWO cTHREE cFOUR cFIVE cSIX cSEVEN cEIGHT cNINE bAVAGRAHA bLETTER_REU cLEU
    cBHA cFINAL_K dM BATAK_LETTER_A cbSIMALUNGUN_ cHA cbSIMALUNGUN_ cbMANDAILING_ cBA cbKARO_ cPA
    cbSIMALUNGUN_ cNA cbMANDAILING_ cWA cbSIMALUNGUN_ cbPAKPAK_ cGA cbSIMALUNGUN_ cJA cDA cRA
    cbSIMALUNGUN_ cMA cbSIMALUNGUN_ cSOUTHERN_TA cbNORTHERN_ cSA cbSIMALUNGUN_ cbMANDAILING_ cYA
    cbSIMALUNGUN_ cNGA cLA cbSIMALUNGUN_ cNYA cCA cNDA cMBA cI cU bSIGN_TOMPI bVOWEL_SIGN_E
    dbPAKPAK_ dEE dI dbKARO_ dO dbKARO_ dU dU_FOR_SIMALUNGUN_SA bCONSONANT_SIGN_NG dH bPANGOLAT
    bPANONGONAN 1BFC=bSYMBOL_BINDU_NA_METEK dPINARBORAS dJUDUL dPANGOLAT LEPCHA_LETTER_KA cKLA cKHA
    cGA cGLA cNGA cCA cCHA cJA cNYA cTA cTHA cDA cNA cPA cPLA cPHA cFA cFLA cBA cBLA cMA cMLA cTSA
    cTSHA cDZA cYA cRA cLA cHA cHLA cVA cSA cSHA cWA cA bSUBJOINED_LETTER_YA dRA bVOWEL_SIGN_AA dI
    dO dOO dU dUU dE bCONSONANT_SIGN_K dM dL dN dP dR dT dNYIN-DO dKANG bSIGN_RAN cNUKTA
    1C3B=bPUNCTUATION_TA-ROL ccNYET_THYOOM_ cCER-WA ccTSHOOK_ cTSHOOK bDIGIT_ZERO cONE cTWO cTHREE
    cFOUR cFIVE cSIX cSEVEN cEIGHT cNINE 1C4D=bLETTER_TTA cTTHA cDDA OL_CHIKI_DIGIT_ZERO dONE dTWO
    dTHREE dFOUR dFIVE dSIX dSEVEN dEIGHT dNINE cLETTER_LA dAT dAG dANG dAL dLAA dAAK dAAJ dAAM dAAW
    dLI dIS dIH dINY dIR dLU dUC dUD dUNN dUY dLE dEP dEDD dEN dERR dLO dOTT dOB dOV dOH cMU_TTUDDAG
    cGAAHLAA_TTUDDAAG ccMU- cRELAA cPHAARKAA cAHAD cPUNCTUATION_MUCAAD dbDOUBLE_
    CYRILLIC_SMALL_LETTER_ROUNDED_VE dLONG-LEGGED_DE dNARROW_O dWIDE_ES dTALL_TE dbTHREE-LEGGED_
    dTALL_HARD_SIGN eYAT dUNBLENDED_UK 1C90=GEORGIAN_MTAVRULI_CAPITAL_LETTER_AN eBAN eGAN eDON eEN
    eVIN eZEN eTAN eIN eKAN eLAS eMAN eNAR eON ePAR eZHAR eRAE eSAN eTAR eUN ePHAR eKHAR eGHAN eQAR
    eSHIN eCHIN eCAN eJIL eCIL eCHAR eXAN eJHAN eHAE eHE eHIE eWE eHAR eHOE eFI eYN eELIFI
    eTURNED_GAN eAIN 1CBD=eAEN eHARD_SIGN ebLABIAL_ SUNDANESE_PUNCTUATION_BINDU_SURYA dPANGLONG
    dPURNAMA dCAKRA dLEU_SATANGA dbKA_ dbDA_ dbBA_ 1CD0=VEDIC_TONE_KARSHANA cSHARA cPRENKHA
    bSIGN_NIHSHVASA cYAJURVEDIC_MIDLINE_SVARITA bbTONE_YAJURVEDIC_AGGRAVATED_INDEPENDENT_ dc
    dcKATHAKA_ cCANDRA_BELOW cYAJURVEDIC_KATHAKA_INDEPENDENT_SVARITA_SCHROEDER cDOUBLE_SVARITA
    cbTRIPLE_ cKATHAKA_ANUDATTA cDOT_BELOW cbTWO_DOTS_ ccTHREE_
    cRIGVEDIC_KASHMIRI_INDEPENDENT_SVARITA ccATHARVAVEDIC_ bbSIGN_VISARGA_ dUDATTA ccREVERSED_
    cVISARGA_ANUDATTA ccREVERSED_ cVISARGA_UDATTA_WITH_TAIL dcANUDATTA_ cANUSVARA_ANTARGOMUKHA
    dBAHIRGOMUKHA dVAMAGOMUKHA dVAMAGOMUKHA_WITH_TAIL cTIRYAK cHEXIFORM_LONG_ANUSVARA cc ccRTHANG_
    cANUSVARA_UBHAYATO_MUKHA cARDHAVISARGA cbROTATED_ bTONE_CANDRA_ABOVE bSIGN_JIHVAMULIYA
    cUPADHMANIYA cATIKRAMA bTONE_RING_ABOVE ccDOUBLE_ bSIGN_DOUBLE_ANUSVARA_ANTARGOMUKHA
    1D00=LATIN_LETTER_SMALL_CAPITAL_A eAE bbSMALL_LETTER_TURNED_ bLETTER_SMALL_CAPITAL_BARRED_B eC
    eD eETH eE bbSMALL_LETTER_TURNED_OPEN_ eI bLETTER_SMALL_CAPITAL_J eK eL_WITH_STROKE eM
    eREVERSED_N eO ebOPEN_ bbSMALL_LETTER_SIDEWAYS_ ebOPEN_ eO_WITH_STROKE dTURNED_OE
    bLETTER_SMALL_CAPITAL_OU bSMALL_LETTER_TOP_HALF_O dcBOTTOM_ bLETTER_SMALL_CAPITAL_P eREVERSED_R
    ebTURNED_ eT eU bbSMALL_LETTER_SIDEWAYS_ ebDIAERESIZED_ eTURNED_M bLETTER_SMALL_CAPITAL_V eW eZ
    eEZH cVOICED_LARYNGEAL_SPIRANT cAIN GREEK_LETTER_SMALL_CAPITAL_GAMMA eLAMDA ePI eRHO ePSI
    CYRILLIC_LETTER_SMALL_CAPITAL_EL MODIFIER_LETTER_CAPITAL_A dAE dB dbBARRED_ dD dE dbREVERSED_ dG
    dH dI dJ dK dL dM dN dbREVERSED_ dO dOU dP dR dT dU dW cSMALL_A dbTURNED_ dALPHA dTURNED_AE dB
    dD dE dSCHWA dOPEN_E dcTURNED_ dG dTURNED_I dK dM dENG dO dbOPEN_ dbTOP_HALF_ dcBOTTOM_ dP dT dU
    dbSIDEWAYS_ dTURNED_M dV dAIN dBETA dGREEK_GAMMA dDELTA dGREEK_PHI dCHI
    LATIN_SUBSCRIPT_SMALL_LETTER_I eR eU eV GREEK_SUBSCRIPT_SMALL_LETTER_BETA eGAMMA eRHO ePHI eCHI
    LATIN_SMALL_LETTER_UE dB_WITH_MIDDLE_TILDE ddD_ ddF_ ddM_ ddN_ ddP_ ddR_ fcFISHHOOK_AND_
    dcS_WITH_ ddT_ ddZ_ dTURNED_G MODIFIER_LETTER_CYRILLIC_EN LATIN_SMALL_LETTER_INSULAR_G
    dTH_WITH_STRIKETHROUGH cCAPITAL_LETTER_I_WITH_STROKE ccLETTER_IOTA_ dcP_ ccCAPITAL_LETTER_U_
    ccLETTER_UPSILON_ dB_WITH_PALATAL_HOOK ddD_ ddF_ ddG_ ddK_ ddL_ ddM_ ddN_ ddP_ ddR_ ddS_ ddESH_
    ddV_ ddX_ ddZ_ dbA_WITH_RETROFLEX_ ddALPHA_ dD_WITH_HOOK_AND_TAIL dE_WITH_RETROFLEX_HOOK deOPEN_
    dfREVERSED_ ddSCHWA_ ddI_ ddOPEN_O_ ddESH_ ddU_ ddEZH_ MODIFIER_LETTER_SMALL_TURNED_ALPHA dC
    dC_WITH_CURL dETH dREVERSED_OPEN_E dF dDOTLESS_J_WITH_STROKE dSCRIPT_G dTURNED_H dI_WITH_STROKE
    dIOTA dCAPITAL_I eI_WITH_STROKE dJ_WITH_CROSSED-TAIL dL_WITH_RETROFLEX_HOOK fbPALATAL_
    dCAPITAL_L dM_WITH_HOOK dTURNED_M_WITH_LONG_LEG dN_WITH_LEFT_HOOK fbRETROFLEX_ dCAPITAL_N
    dBARRED_O dPHI dS_WITH_HOOK dESH dT_WITH_PALATAL_HOOK dU_BAR dUPSILON dCAPITAL_U dV_WITH_HOOK
    dTURNED_V dZ dZ_WITH_RETROFLEX_HOOK fCURL dEZH dTHETA COMBINING_DOTTED_GRAVE_ACCENT cbACUTE_
    bSNAKE_BELOW bSUSPENSION_MARK bMACRON-ACUTE bGRAVE-MACRON bMACRON-GRAVE bACUTE-MACRON
    bGRAVE-ACUTE-GRAVE bACUTE-GRAVE-ACUTE bLATIN_SMALL_LETTER_R_BELOW bBREVE-MACRON bMACRON-BREVE
    bDOUBLE_CIRCUMFLEX_ABOVE bbOGONEK_ bZIGZAG_BELOW bbIS_ bUR_ABOVE bbUS_
    bbLATIN_SMALL_LETTER_FLATTENED_OPEN_A_ eAE eAO eAV eC_CEDILLA eINSULAR_D eETH eG
    cbLETTER_SMALL_CAPITAL_ cSMALL_LETTER_K eL cbLETTER_SMALL_CAPITAL_ fM cSMALL_LETTER_N
    cbLETTER_SMALL_CAPITAL_ fR cSMALL_LETTER_R_ROTUNDA eS ebLONG_ eZ eALPHA eB eBETA eSCHWA eF
    eL_WITH_DOUBLE_MIDDLE_TILDE eO_WITH_LIGHT_CENTRALIZATION_STROKE eP eESH
    eU_WITH_LIGHT_CENTRALIZATION_STROKE eW eA_WITH_DIAERESIS ecO_ ecU_ bUP_TACK_ABOVE
    bKAVYKA_ABOVE_RIGHT dLEFT bcDOT_ bWIDE_INVERTED_BRIDGE_BELOW bDOT_BELOW_LEFT bDELETION_MARK
    bDOUBLE_INVERTED_BREVE_BELOW bbALMOST_EQUAL_TO_ bLEFT_ARROWHEAD_ABOVE
    bRIGHT_ARROWHEAD_AND_DOWN_ARROWHEAD_BELOW abLATIN_CAPITAL_LETTER_A_WITH_RING_ bfSMALL_
    bCAPITAL_LETTER_B_WITH_DOT_ABOVE bfSMALL_ bCAPITAL_LETTER_B_WITH_DOT_BELOW bfSMALL_
    bbCAPITAL_LETTER_B_WITH_LINE_ bfSMALL_ bCAPITAL_LETTER_C_WITH_CEDILLA_AND_ACUTE bgSMALL_
    bCAPITAL_LETTER_D_WITH_DOT_ABOVE bfSMALL_ bCAPITAL_LETTER_D_WITH_DOT_BELOW bfSMALL_
    bbCAPITAL_LETTER_D_WITH_LINE_ bfSMALL_ bCAPITAL_LETTER_D_WITH_CEDILLA beSMALL_
    bCAPITAL_LETTER_D_WITH_CIRCUMFLEX_BELOW bfSMALL_ bCAPITAL_LETTER_E_WITH_MACRON_AND_GRAVE
    bgSMALL_ bCAPITAL_LETTER_E_WITH_MACRON_AND_ACUTE bgSMALL_
    bCAPITAL_LETTER_E_WITH_CIRCUMFLEX_BELOW bfSMALL_ bbCAPITAL_LETTER_E_WITH_TILDE_ bfSMALL_
    bCAPITAL_LETTER_E_WITH_CEDILLA_AND_BREVE bgSMALL_ bCAPITAL_LETTER_F_WITH_DOT_ABOVE bfSMALL_
    bCAPITAL_LETTER_G_WITH_MACRON beSMALL_ bCAPITAL_LETTER_H_WITH_DOT_ABOVE bfSMALL_
    bCAPITAL_LETTER_H_WITH_DOT_BELOW bfSMALL_ bCAPITAL_LETTER_H_WITH_DIAERESIS beSMALL_
    bCAPITAL_LETTER_H_WITH_CEDILLA beSMALL_ bCAPITAL_LETTER_H_WITH_BREVE_BELOW bfSMALL_
    bbCAPITAL_LETTER_I_WITH_TILDE_ bfSMALL_ bCAPITAL_LETTER_I_WITH_DIAERESIS_AND_ACUTE bgSMALL_
    bbCAPITAL_LETTER_K_WITH_ beSMALL_ bCAPITAL_LETTER_K_WITH_DOT_BELOW bfSMALL_
    bbCAPITAL_LETTER_K_WITH_LINE_ bfSMALL_ bbCAPITAL_LETTER_L_WITH_DOT_ bfSMALL_
    bCAPITAL_LETTER_L_WITH_DOT_BELOW_AND_MACRON bhSMALL_ bCAPITAL_LETTER_L_WITH_LINE_BELOW bfSMALL_
    bbCAPITAL_LETTER_L_WITH_CIRCUMFLEX_ bfSMALL_ bCAPITAL_LETTER_M_WITH_ACUTE beSMALL_
    bCAPITAL_LETTER_M_WITH_DOT_ABOVE bfSMALL_ bCAPITAL_LETTER_M_WITH_DOT_BELOW bfSMALL_
    bCAPITAL_LETTER_N_WITH_DOT_ABOVE bfSMALL_ bCAPITAL_LETTER_N_WITH_DOT_BELOW bfSMALL_
    bbCAPITAL_LETTER_N_WITH_LINE_ bfSMALL_ bbCAPITAL_LETTER_N_WITH_CIRCUMFLEX_ bfSMALL_
    bCAPITAL_LETTER_O_WITH_TILDE_AND_ACUTE bgSMALL_ bCAPITAL_LETTER_O_WITH_TILDE_AND_DIAERESIS
    bgSMALL_ bCAPITAL_LETTER_O_WITH_MACRON_AND_GRAVE bgSMALL_
    bCAPITAL_LETTER_O_WITH_MACRON_AND_ACUTE bgSMALL_ bbCAPITAL_LETTER_P_WITH_ beSMALL_
    bCAPITAL_LETTER_P_WITH_DOT_ABOVE bfSMALL_ bdCAPITAL_LETTER_R_ bfSMALL_
    bCAPITAL_LETTER_R_WITH_DOT_BELOW bfSMALL_ bCAPITAL_LETTER_R_WITH_DOT_BELOW_AND_MACRON bhSMALL_
    bCAPITAL_LETTER_R_WITH_LINE_BELOW bfSMALL_ bCAPITAL_LETTER_S_WITH_DOT_ABOVE bfSMALL_
    bCAPITAL_LETTER_S_WITH_DOT_BELOW bfSMALL_ bCAPITAL_LETTER_S_WITH_ACUTE_AND_DOT_ABOVE bhSMALL_
    bdCAPITAL_LETTER_S_WITH_CARON_ bhSMALL_ bdCAPITAL_LETTER_S_WITH_DOT_BELOW_ biSMALL_
    bcCAPITAL_LETTER_T_WITH_ bfSMALL_ bCAPITAL_LETTER_T_WITH_DOT_BELOW bfSMALL_
    bbCAPITAL_LETTER_T_WITH_LINE_ bfSMALL_ bbCAPITAL_LETTER_T_WITH_CIRCUMFLEX_ bfSMALL_
    bbCAPITAL_LETTER_U_WITH_DIAERESIS_ bfSMALL_ bbCAPITAL_LETTER_U_WITH_TILDE_ bfSMALL_
    bbCAPITAL_LETTER_U_WITH_CIRCUMFLEX_ bfSMALL_ bCAPITAL_LETTER_U_WITH_TILDE_AND_ACUTE bgSMALL_
    bCAPITAL_LETTER_U_WITH_MACRON_AND_DIAERESIS bgSMALL_ bCAPITAL_LETTER_V_WITH_TILDE beSMALL_
    bCAPITAL_LETTER_V_WITH_DOT_BELOW bfSMALL_ bCAPITAL_LETTER_W_WITH_GRAVE beSMALL_
    bCAPITAL_LETTER_W_WITH_ACUTE beSMALL_ bCAPITAL_LETTER_W_WITH_DIAERESIS beSMALL_
    bCAPITAL_LETTER_W_WITH_DOT_ABOVE bfSMALL_ bCAPITAL_LETTER_W_WITH_DOT_BELOW bfSMALL_
    bCAPITAL_LETTER_X_WITH_DOT_ABOVE bfSMALL_ bCAPITAL_LETTER_X_WITH_DIAERESIS beSMALL_
    bCAPITAL_LETTER_Y_WITH_DOT_ABOVE bfSMALL_ bCAPITAL_LETTER_Z_WITH_CIRCUMFLEX beSMALL_
    bCAPITAL_LETTER_Z_WITH_DOT_BELOW bfSMALL_ bbCAPITAL_LETTER_Z_WITH_LINE_ bfSMALL_ ddH_
    dT_WITH_DIAERESIS dW_WITH_RING_ABOVE ddY_ dA_WITH_RIGHT_HALF_RING dLONG_S_WITH_DOT_ABOVE
    gDIAGONAL_STROKE gbHIGH_ bCAPITAL_LETTER_SHARP_S bSMALL_LETTER_DELTA
    bCAPITAL_LETTER_A_WITH_DOT_BELOW bfSMALL_ bCAPITAL_LETTER_A_WITH_HOOK_ABOVE bfSMALL_
    bCAPITAL_LETTER_A_WITH_CIRCUMFLEX_AND_ACUTE bgSMALL_ bCAPITAL_LETTER_A_WITH_CIRCUMFLEX_AND_GRAVE
    bgSMALL_ bCAPITAL_LETTER_A_WITH_CIRCUMFLEX_AND_HOOK_ABOVE bhSMALL_
    bCAPITAL_LETTER_A_WITH_CIRCUMFLEX_AND_TILDE bgSMALL_
    bCAPITAL_LETTER_A_WITH_CIRCUMFLEX_AND_DOT_BELOW bhSMALL_ bCAPITAL_LETTER_A_WITH_BREVE_AND_ACUTE
    bgSMALL_ bCAPITAL_LETTER_A_WITH_BREVE_AND_GRAVE bgSMALL_
    bCAPITAL_LETTER_A_WITH_BREVE_AND_HOOK_ABOVE bhSMALL_ bCAPITAL_LETTER_A_WITH_BREVE_AND_TILDE
    bgSMALL_ bCAPITAL_LETTER_A_WITH_BREVE_AND_DOT_BELOW bhSMALL_ bcCAPITAL_LETTER_E_WITH_ bfSMALL_
    bCAPITAL_LETTER_E_WITH_HOOK_ABOVE bfSMALL_ bCAPITAL_LETTER_E_WITH_TILDE beSMALL_
    bCAPITAL_LETTER_E_WITH_CIRCUMFLEX_AND_ACUTE bgSMALL_ bCAPITAL_LETTER_E_WITH_CIRCUMFLEX_AND_GRAVE
    bgSMALL_ bCAPITAL_LETTER_E_WITH_CIRCUMFLEX_AND_HOOK_ABOVE bhSMALL_
    bCAPITAL_LETTER_E_WITH_CIRCUMFLEX_AND_TILDE bgSMALL_
    bCAPITAL_LETTER_E_WITH_CIRCUMFLEX_AND_DOT_BELOW bhSMALL_ bCAPITAL_LETTER_I_WITH_HOOK_ABOVE
    bfSMALL_ bCAPITAL_LETTER_I_WITH_DOT_BELOW bfSMALL_ bdCAPITAL_LETTER_O_ bfSMALL_
    bCAPITAL_LETTER_O_WITH_HOOK_ABOVE bfSMALL_ bCAPITAL_LETTER_O_WITH_CIRCUMFLEX_AND_ACUTE bgSMALL_
    bCAPITAL_LETTER_O_WITH_CIRCUMFLEX_AND_GRAVE bgSMALL_
    bCAPITAL_LETTER_O_WITH_CIRCUMFLEX_AND_HOOK_ABOVE bhSMALL_
    bCAPITAL_LETTER_O_WITH_CIRCUMFLEX_AND_TILDE bgSMALL_
    bCAPITAL_LETTER_O_WITH_CIRCUMFLEX_AND_DOT_BELOW bhSMALL_ bCAPITAL_LETTER_O_WITH_HORN_AND_ACUTE
    bgSMALL_ bCAPITAL_LETTER_O_WITH_HORN_AND_GRAVE bgSMALL_
    bCAPITAL_LETTER_O_WITH_HORN_AND_HOOK_ABOVE bhSMALL_ bCAPITAL_LETTER_O_WITH_HORN_AND_TILDE
    bgSMALL_ bCAPITAL_LETTER_O_WITH_HORN_AND_DOT_BELOW bhSMALL_ bcCAPITAL_LETTER_U_WITH_ bfSMALL_
    bCAPITAL_LETTER_U_WITH_HOOK_ABOVE bfSMALL_ bCAPITAL_LETTER_U_WITH_HORN_AND_ACUTE bgSMALL_
    bCAPITAL_LETTER_U_WITH_HORN_AND_GRAVE bgSMALL_ bCAPITAL_LETTER_U_WITH_HORN_AND_HOOK_ABOVE
    bhSMALL_ bCAPITAL_LETTER_U_WITH_HORN_AND_TILDE bgSMALL_
    bCAPITAL_LETTER_U_WITH_HORN_AND_DOT_BELOW bhSMALL_ bCAPITAL_LETTER_Y_WITH_GRAVE beSMALL_
    bCAPITAL_LETTER_Y_WITH_DOT_BELOW bfSMALL_ bCAPITAL_LETTER_Y_WITH_HOOK_ABOVE bfSMALL_
    bCAPITAL_LETTER_Y_WITH_TILDE beSMALL_ bCAPITAL_LETTER_MIDDLE-WELSH_LL beSMALL_
    bCAPITAL_LETTER_MIDDLE-WELSH_V beSMALL_ bCAPITAL_LETTER_Y_WITH_LOOP beSMALL_
    GREEK_SMALL_LETTER_ALPHA_WITH_PSILI fDASIA fPSILI_AND_VARIA fcDASIA_ fPSILI_AND_OXIA fcDASIA_
    fPSILI_AND_PERISPOMENI fcDASIA_ bCAPITAL_LETTER_ALPHA_WITH_PSILI fDASIA fPSILI_AND_VARIA
    fcDASIA_ fPSILI_AND_OXIA fcDASIA_ fPSILI_AND_PERISPOMENI fcDASIA_
    bSMALL_LETTER_EPSILON_WITH_PSILI fDASIA fPSILI_AND_VARIA fcDASIA_ fPSILI_AND_OXIA fcDASIA_
    1F18=bCAPITAL_LETTER_EPSILON_WITH_PSILI fDASIA fPSILI_AND_VARIA fcDASIA_ fPSILI_AND_OXIA
    fcDASIA_ 1F20=bSMALL_LETTER_ETA_WITH_PSILI fDASIA fPSILI_AND_VARIA fcDASIA_ fPSILI_AND_OXIA
    fcDASIA_ fPSILI_AND_PERISPOMENI fcDASIA_ bCAPITAL_LETTER_ETA_WITH_PSILI fDASIA fPSILI_AND_VARIA
    fcDASIA_ fPSILI_AND_OXIA fcDASIA_ fPSILI_AND_PERISPOMENI fcDASIA_ bSMALL_LETTER_IOTA_WITH_PSILI
    fDASIA fPSILI_AND_VARIA fcDASIA_ fPSILI_AND_OXIA fcDASIA_ fPSILI_AND_PERISPOMENI fcDASIA_
    bCAPITAL_LETTER_IOTA_WITH_PSILI fDASIA fPSILI_AND_VARIA fcDASIA_ fPSILI_AND_OXIA fcDASIA_
    fPSILI_AND_PERISPOMENI fcDASIA_ bSMALL_LETTER_OMICRON_WITH_PSILI fDASIA fPSILI_AND_VARIA
    fcDASIA_ fPSILI_AND_OXIA fcDASIA_ 1F48=bCAPITAL_LETTER_OMICRON_WITH_PSILI fDASIA
    fPSILI_AND_VARIA fcDASIA_ fPSILI_AND_OXIA fcDASIA_ 1F50=bSMALL_LETTER_UPSILON_WITH_PSILI fDASIA
    fPSILI_AND_VARIA fcDASIA_ fPSILI_AND_OXIA fcDASIA_ fPSILI_AND_PERISPOMENI fcDASIA_
    1F59=bCAPITAL_LETTER_UPSILON_WITH_DASIA 1F5B=fDASIA_AND_VARIA 1F5D=hOXIA 1F5F=hPERISPOMENI
    bSMALL_LETTER_OMEGA_WITH_PSILI fDASIA fPSILI_AND_VARIA fcDASIA_ fPSILI_AND_OXIA fcDASIA_
    fPSILI_AND_PERISPOMENI fcDASIA_ bCAPITAL_LETTER_OMEGA_WITH_PSILI fDASIA fPSILI_AND_VARIA
    fcDASIA_ fPSILI_AND_OXIA fcDASIA_ fPSILI_AND_PERISPOMENI fcDASIA_ bSMALL_LETTER_ALPHA_WITH_VARIA
    fOXIA dEPSILON_WITH_VARIA fOXIA dETA_WITH_VARIA fOXIA dIOTA_WITH_VARIA fOXIA dOMICRON_WITH_VARIA
    fOXIA dUPSILON_WITH_VARIA fOXIA dOMEGA_WITH_VARIA fOXIA 1F80=dALPHA_WITH_PSILI_AND_YPOGEGRAMMENI
    fcDASIA_ fcPSILI_AND_VARIA_ feDASIA_ fcPSILI_AND_OXIA_ feDASIA_ fcPSILI_AND_PERISPOMENI_
    feDASIA_ bCAPITAL_LETTER_ALPHA_WITH_PSILI_AND_PROSGEGRAMMENI fcDASIA_ fcPSILI_AND_VARIA_
    feDASIA_ fcPSILI_AND_OXIA_ feDASIA_ fcPSILI_AND_PERISPOMENI_ feDASIA_
    bSMALL_LETTER_ETA_WITH_PSILI_AND_YPOGEGRAMMENI fcDASIA_ fcPSILI_AND_VARIA_ feDASIA_
    fcPSILI_AND_OXIA_ feDASIA_ fcPSILI_AND_PERISPOMENI_ feDASIA_
    bCAPITAL_LETTER_ETA_WITH_PSILI_AND_PROSGEGRAMMENI fcDASIA_ fcPSILI_AND_VARIA_ feDASIA_
    fcPSILI_AND_OXIA_ feDASIA_ fcPSILI_AND_PERISPOMENI_ feDASIA_
    bSMALL_LETTER_OMEGA_WITH_PSILI_AND_YPOGEGRAMMENI fcDASIA_ fcPSILI_AND_VARIA_ feDASIA_
    fcPSILI_AND_OXIA_ feDASIA_ fcPSILI_AND_PERISPOMENI_ feDASIA_
    bCAPITAL_LETTER_OMEGA_WITH_PSILI_AND_PROSGEGRAMMENI fcDASIA_ fcPSILI_AND_VARIA_ feDASIA_
    fcPSILI_AND_OXIA_ feDASIA_ fcPSILI_AND_PERISPOMENI_ feDASIA_ bSMALL_LETTER_ALPHA_WITH_VRACHY
    fMACRON fVARIA_AND_YPOGEGRAMMENI fb fbOXIA_AND_ 1FB6=fPERISPOMENI fPERISPOMENI_AND_YPOGEGRAMMENI
    bCAPITAL_LETTER_ALPHA_WITH_VRACHY fMACRON fVARIA fOXIA fPROSGEGRAMMENI bKORONIS bPROSGEGRAMMENI
    bPSILI bPERISPOMENI bbDIALYTIKA_AND_ bSMALL_LETTER_ETA_WITH_VARIA_AND_YPOGEGRAMMENI fb
    fbOXIA_AND_ 1FC6=fPERISPOMENI fPERISPOMENI_AND_YPOGEGRAMMENI bCAPITAL_LETTER_EPSILON_WITH_VARIA
    fOXIA dETA_WITH_VARIA fOXIA fPROSGEGRAMMENI bPSILI_AND_VARIA dOXIA dPERISPOMENI
    bSMALL_LETTER_IOTA_WITH_VRACHY fMACRON fDIALYTIKA_AND_VARIA hOXIA 1FD6=fPERISPOMENI
    fbDIALYTIKA_AND_ bCAPITAL_LETTER_IOTA_WITH_VRACHY fMACRON fVARIA fOXIA 1FDD=bDASIA_AND_VARIA
    dOXIA dPERISPOMENI bSMALL_LETTER_UPSILON_WITH_VRACHY fMACRON fDIALYTIKA_AND_VARIA hOXIA
    dRHO_WITH_PSILI fDASIA dUPSILON_WITH_PERISPOMENI fbDIALYTIKA_AND_
    bCAPITAL_LETTER_UPSILON_WITH_VRACHY fMACRON fVARIA fOXIA dRHO_WITH_DASIA bDIALYTIKA_AND_VARIA
    dOXIA bVARIA 1FF2=bSMALL_LETTER_OMEGA_WITH_VARIA_AND_YPOGEGRAMMENI fb fbOXIA_AND_
    1FF6=fPERISPOMENI fPERISPOMENI_AND_YPOGEGRAMMENI bCAPITAL_LETTER_OMICRON_WITH_VARIA fOXIA
    dOMEGA_WITH_VARIA fOXIA fPROSGEGRAMMENI bOXIA bDASIA"

end KarelLab.Text.Unicode
