namespace KarelLab.Text.Unicode

def symbolNames : String :=
  "2000=EN_QUAD abEM_ EN_SPACE abEM_ acTHREE-PER- adFOUR- adSIX- abFIGURE_ abPUNCTUATION_ abTHIN_
    abHAIR_ abZERO_WIDTH_ cNON-JOINER cb LEFT-TO-RIGHT_MARK abRIGHT-TO-LEFT_ HYPHEN abNON-BREAKING_
    FIGURE_DASH abEN_ abEM_ HORIZONTAL_BAR DOUBLE_VERTICAL_LINE bbLOW_ LEFT_SINGLE_QUOTATION_MARK
    adRIGHT_ acSINGLE_LOW-9_ bdHIGH-REVERSED- acLEFT_DOUBLE_ adRIGHT_ acDOUBLE_LOW-9_
    bdHIGH-REVERSED- DAGGER abDOUBLE_ BULLET abTRIANGULAR_ ONE_DOT_LEADER acTWO_ HORIZONTAL_ELLIPSIS
    HYPHENATION_POINT LINE_SEPARATOR abPARAGRAPH_ LEFT-TO-RIGHT_EMBEDDING abRIGHT-TO-LEFT_
    POP_DIRECTIONAL_FORMATTING LEFT-TO-RIGHT_OVERRIDE abRIGHT-TO-LEFT_ NARROW_NO-BREAK_SPACE
    PER_MILLE_SIGN bbTEN_THOUSAND_ PRIME abDOUBLE_ abTRIPLE_ abREVERSED_ bbDOUBLE_ bbTRIPLE_ CARET
    SINGLE_LEFT-POINTING_ANGLE_QUOTATION_MARK beRIGHT- abREFERENCE_ abDOUBLE_EXCLAMATION_
    INTERROBANG OVERLINE UNDERTIE CHARACTER_TIE CARET_INSERTION_POINT ASTERISM HYPHEN_BULLET
    FRACTION_SLASH LEFT_SQUARE_BRACKET_WITH_QUILL aeRIGHT_ DOUBLE_QUESTION_MARK
    abQUESTION_EXCLAMATION_ abEXCLAMATION_QUESTION_ TIRONIAN_SIGN_ET REVERSED_PILCROW_SIGN
    BLACK_LEFTWARDS_BULLET bbRIGHTWARDS_ LOW_ASTERISK REVERSED_SEMICOLON CLOSE_UP
    TWO_ASTERISKS_ALIGNED_VERTICALLY COMMERCIAL_MINUS_SIGN SWUNG_DASH INVERTED_UNDERTIE
    FLOWER_PUNCTUATION_MARK THREE_DOT_PUNCTUATION QUADRUPLE_PRIME FOUR_DOT_PUNCTUATION acFIVE_
    acTWO_ FOUR_DOT_MARK DOTTED_CROSS TRICOLON VERTICAL_FOUR_DOTS MEDIUM_MATHEMATICAL_SPACE
    WORD_JOINER FUNCTION_APPLICATION INVISIBLE_TIMES bSEPARATOR bPLUS 2066=LEFT-TO-RIGHT_ISOLATE
    abRIGHT-TO-LEFT_ abFIRST_STRONG_ abPOP_DIRECTIONAL_ INHIBIT_SYMMETRIC_SWAPPING acACTIVATE_
    INHIBIT_ARABIC_FORM_SHAPING adACTIVATE_ NATIONAL_DIGIT_SHAPES acNOMINAL_ SUPERSCRIPT_ZERO
    bLATIN_SMALL_LETTER_I 2074=bFOUR bFIVE bSIX bSEVEN bEIGHT bNINE bPLUS_SIGN bMINUS bEQUALS_SIGN
    bLEFT_PARENTHESIS bbRIGHT_ bLATIN_SMALL_LETTER_N SUBSCRIPT_ZERO bONE bTWO bTHREE bFOUR bFIVE
    bSIX bSEVEN bEIGHT bNINE bPLUS_SIGN bMINUS bEQUALS_SIGN bLEFT_PARENTHESIS bbRIGHT_
    2090=LATIN_SUBSCRIPT_SMALL_LETTER_A eE eO eX eSCHWA eH eK eL eM eN eP eS eT
    20A0=EURO-CURRENCY_SIGN abCOLON_ abCRUZEIRO_ abFRENCH_FRANC_ abLIRA_ abMILL_ abNAIRA_ abPESETA_
    abRUPEE_ abWON_ abNEW_SHEQEL_ abDONG_ abEURO_ abKIP_ abTUGRIK_ abDRACHMA_ abGERMAN_PENNY_
    abPESO_ abGUARANI_ abAUSTRAL_ abHRYVNIA_ abCEDI_ abLIVRE_TOURNOIS_ abSPESMILO_ abTENGE_
    abINDIAN_RUPEE_ abTURKISH_LIRA_ abNORDIC_MARK_ abMANAT_ abRUBLE_ abLARI_ abBITCOIN_ abSOM_
    20D0=COMBINING_LEFT_HARPOON_ABOVE bcRIGHT_ bLONG_VERTICAL_LINE_OVERLAY bdSHORT_
    bANTICLOCKWISE_ARROW_ABOVE bcCLOCKWISE_ bcLEFT_ bcRIGHT_ bRING_OVERLAY bcCLOCKWISE_
    bcANTICLOCKWISE_ bTHREE_DOTS_ABOVE bcFOUR_ bENCLOSING_CIRCLE cSQUARE cDIAMOND cCIRCLE_BACKSLASH
    bLEFT_RIGHT_ARROW_ABOVE bENCLOSING_SCREEN cKEYCAP cUPWARD_POINTING_TRIANGLE
    bREVERSE_SOLIDUS_OVERLAY bbDOUBLE_VERTICAL_STROKE_ bANNUITY_SYMBOL bTRIPLE_UNDERDOT
    bWIDE_BRIDGE_ABOVE bLEFTWARDS_ARROW_OVERLAY bbLONG_DOUBLE_SOLIDUS_
    bRIGHTWARDS_HARPOON_WITH_BARB_DOWNWARDS beLEFTWARDS_ bLEFT_ARROW_BELOW bcRIGHT_ bASTERISK_ABOVE
    2100=ACCOUNT_OF ADDRESSED_TO_THE_SUBJECT DOUBLE-STRUCK_CAPITAL_C DEGREE_CELSIUS
    CENTRE_LINE_SYMBOL CARE_OF CADA_UNA EULER_CONSTANT SCRUPLE DEGREE_FAHRENHEIT SCRIPT_SMALL_G
    bCAPITAL_H acBLACK-LETTER_ acDOUBLE-STRUCK_ PLANCK_CONSTANT bCONSTANT_OVER_TWO_PI
    SCRIPT_CAPITAL_I acBLACK-LETTER_ SCRIPT_CAPITAL_L bbSMALL_ L_B_BAR_SYMBOL
    DOUBLE-STRUCK_CAPITAL_N NUMERO_SIGN SOUND_RECORDING_COPYRIGHT SCRIPT_CAPITAL_P acDOUBLE-STRUCK_
    dQ SCRIPT_CAPITAL_R acBLACK-LETTER_ acDOUBLE-STRUCK_ PRESCRIPTION_TAKE RESPONSE SERVICE_MARK
    TELEPHONE_SIGN abTRADE_MARK_ VERSICLE DOUBLE-STRUCK_CAPITAL_Z OUNCE_SIGN abOHM_ acINVERTED_
    BLACK-LETTER_CAPITAL_Z TURNED_GREEK_SMALL_LETTER_IOTA KELVIN_SIGN abANGSTROM_ SCRIPT_CAPITAL_B
    BLACK-LETTER_CAPITAL_C ESTIMATED_SYMBOL SCRIPT_SMALL_E bbCAPITAL_ cF acTURNED_ SCRIPT_CAPITAL_M
    bSMALL_O ALEF_SYMBOL abBET_ abGIMEL_ abDALET_ INFORMATION_SOURCE ROTATED_CAPITAL_Q
    FACSIMILE_SIGN DOUBLE-STRUCK_SMALL_PI dGAMMA cbCAPITAL_ dPI cN-ARY_SUMMATION
    TURNED_SANS-SERIF_CAPITAL_G eL aeREVERSED_ TURNED_SANS-SERIF_CAPITAL_Y
    DOUBLE-STRUCK_ITALIC_CAPITAL_D dbSMALL_ eE eI eJ PROPERTY_LINE TURNED_AMPERSAND PER_SIGN
    AKTIESELSKAB TURNED_SMALL_F SYMBOL_FOR_SAMARITAN_SOURCE VULGAR_FRACTION_ONE_SEVENTH dNINTH
    dTENTH dTHIRD cTWO_THIRDS cONE_FIFTH cTWO_FIFTHS cbTHREE_ cbFOUR_ cONE_SIXTH cFIVE_SIXTHS
    cONE_EIGHTH cTHREE_EIGHTHS cbFIVE_ cbSEVEN_ FRACTION_NUMERATOR_ONE abROMAN_NUMERAL_ cTWO cTHREE
    cFOUR cFIVE cSIX cSEVEN cEIGHT cNINE cTEN cELEVEN cTWELVE cFIFTY cONE_HUNDRED cbFIVE_
    cONE_THOUSAND SMALL_ROMAN_NUMERAL_ONE dTWO dTHREE dFOUR dFIVE dSIX dSEVEN dEIGHT dNINE dTEN
    dELEVEN dTWELVE dFIFTY dONE_HUNDRED dbFIVE_ dONE_THOUSAND ROMAN_NUMERAL_ONE_THOUSAND_C_D
    cFIVE_THOUSAND cbTEN_ cREVERSED_ONE_HUNDRED LATIN_SMALL_LETTER_REVERSED_C
    ROMAN_NUMERAL_SIX_LATE_FORM cbFIFTY_EARLY_ dTHOUSAND cbONE_HUNDRED_ VULGAR_FRACTION_ZERO_THIRDS
    TURNED_DIGIT_TWO cTHREE 2190=LEFTWARDS_ARROW abUPWARDS_ abRIGHTWARDS_ abDOWNWARDS_ abLEFT_RIGHT_
    abUP_DOWN_ abNORTH_WEST_ bbEAST_ acSOUTH_ bbWEST_ LEFTWARDS_ARROW_WITH_STROKE adRIGHTWARDS_
    LEFTWARDS_WAVE_ARROW acRIGHTWARDS_ abLEFTWARDS_TWO_HEADED_ adUPWARDS_ adRIGHTWARDS_ adDOWNWARDS_
    LEFTWARDS_ARROW_WITH_TAIL adRIGHTWARDS_ LEFTWARDS_ARROW_FROM_BAR adUPWARDS_ adRIGHTWARDS_
    adDOWNWARDS_ UP_DOWN_ARROW_WITH_BASE LEFTWARDS_ARROW_WITH_HOOK adRIGHTWARDS_
    LEFTWARDS_ARROW_WITH_LOOP adRIGHTWARDS_ LEFT_RIGHT_WAVE_ARROW cARROW_WITH_STROKE
    DOWNWARDS_ZIGZAG_ARROW UPWARDS_ARROW_WITH_TIP_LEFTWARDS eRIGHTWARDS
    DOWNWARDS_ARROW_WITH_TIP_LEFTWARDS eRIGHTWARDS RIGHTWARDS_ARROW_WITH_CORNER_DOWNWARDS
    DOWNWARDS_ARROW_WITH_CORNER_LEFTWARDS ANTICLOCKWISE_TOP_SEMICIRCLE_ARROW adCLOCKWISE_
    NORTH_WEST_ARROW_TO_LONG_BAR abLEFTWARDS_ARROW_TO_BAR_OVER_RIGHTWARDS_ARROW_TO_
    ANTICLOCKWISE_OPEN_CIRCLE_ARROW adCLOCKWISE_ LEFTWARDS_HARPOON_WITH_BARB_UPWARDS eDOWNWARDS
    UPWARDS_HARPOON_WITH_BARB_RIGHTWARDS eLEFTWARDS RIGHTWARDS_HARPOON_WITH_BARB_UPWARDS eDOWNWARDS
    DOWNWARDS_HARPOON_WITH_BARB_RIGHTWARDS eLEFTWARDS RIGHTWARDS_ARROW_OVER_LEFTWARDS_ARROW
    abUPWARDS_ARROW_LEFTWARDS_OF_DOWNWARDS_ abLEFTWARDS_ARROW_OVER_RIGHTWARDS_ bPAIRED_ARROWS
    acUPWARDS_ acRIGHTWARDS_ acDOWNWARDS_ LEFTWARDS_HARPOON_OVER_RIGHTWARDS_HARPOON
    abRIGHTWARDS_HARPOON_OVER_LEFTWARDS_ LEFTWARDS_DOUBLE_ARROW_WITH_STROKE aeLEFT_RIGHT_
    aeRIGHTWARDS_ LEFTWARDS_DOUBLE_ARROW acUPWARDS_ acRIGHTWARDS_ acDOWNWARDS_ acLEFT_RIGHT_
    acUP_DOWN_ acNORTH_WEST_ bcEAST_ adSOUTH_ bcWEST_ abLEFTWARDS_TRIPLE_ acRIGHTWARDS_
    abLEFTWARDS_SQUIGGLE_ acRIGHTWARDS_ UPWARDS_ARROW_WITH_DOUBLE_STROKE aeDOWNWARDS_
    LEFTWARDS_DASHED_ARROW acUPWARDS_ acRIGHTWARDS_ acDOWNWARDS_ LEFTWARDS_ARROW_TO_BAR
    adRIGHTWARDS_ LEFTWARDS_WHITE_ARROW acUPWARDS_ acRIGHTWARDS_ acDOWNWARDS_
    UPWARDS_WHITE_ARROW_FROM_BAR dON_PEDESTAL ePEDESTAL_WITH_HORIZONTAL_BAR gbVERTICAL_
    cDOUBLE_ARROW dARROW_ON_PEDESTAL RIGHTWARDS_WHITE_ARROW_FROM_WALL NORTH_WEST_ARROW_TO_CORNER
    adSOUTH_EAST_ UP_DOWN_WHITE_ARROW RIGHT_ARROW_WITH_SMALL_CIRCLE
    DOWNWARDS_ARROW_LEFTWARDS_OF_UPWARDS_ARROW THREE_RIGHTWARDS_ARROWS
    LEFTWARDS_ARROW_WITH_VERTICAL_STROKE aeRIGHTWARDS_ aeLEFT_RIGHT_ acLEFTWARDS_ARROW_WITH_DOUBLE_
    afRIGHTWARDS_ afLEFT_RIGHT_ LEFTWARDS_OPEN-HEADED_ARROW adRIGHTWARDS_ adLEFT_RIGHT_ FOR_ALL
    COMPLEMENT PARTIAL_DIFFERENTIAL THERE_EXISTS bDOES_NOT_EXIST EMPTY_SET INCREMENT NABLA
    ELEMENT_OF acNOT_AN_ acSMALL_ CONTAINS_AS_MEMBER acDOES_NOT_CONTAIN_ acSMALL_CONTAINS_
    END_OF_PROOF N-ARY_PRODUCT cCOPRODUCT cSUMMATION MINUS_SIGN abMINUS-OR-PLUS_ DOT_PLUS
    DIVISION_SLASH SET_MINUS ASTERISK_OPERATOR abRING_ abBULLET_ SQUARE_ROOT abCUBE_ abFOURTH_
    PROPORTIONAL_TO INFINITY RIGHT_ANGLE ab abMEASURED_ abSPHERICAL_ DIVIDES DOES_NOT_DIVIDE
    PARALLEL_TO acNOT_ LOGICAL_AND bOR INTERSECTION UNION INTEGRAL abDOUBLE_ abTRIPLE_ abCONTOUR_
    abSURFACE_ abVOLUME_ abCLOCKWISE_ bbCONTOUR_ acANTICLOCKWISE_ THEREFORE BECAUSE RATIO PROPORTION
    DOT_MINUS EXCESS GEOMETRIC_PROPORTION HOMOTHETIC TILDE_OPERATOR REVERSED_TILDE INVERTED_LAZY_S
    SINE_WAVE WREATH_PRODUCT NOT_TILDE abMINUS_ ASYMPTOTICALLY_EQUAL_TO adNOT_ acAPPROXIMATELY_
    bcBUT_NOT_ACTUALLY_ adNEITHER_APPROXIMATELY_NOR_ acALMOST_ adNOT_ acALMOST_EQUAL_OR_
    TRIPLE_TILDE ALL_EQUAL_TO abEQUIVALENT_ acGEOMETRICALLY_ DIFFERENCE_BETWEEN APPROACHES_THE_LIMIT
    GEOMETRICALLY_EQUAL_TO APPROXIMATELY_EQUAL_TO_OR_THE_IMAGE_OF IMAGE_OF_OR_APPROXIMATELY_EQUAL_TO
    COLON_EQUALS EQUALS_COLON RING_IN_EQUAL_TO bc abCORRESPONDS_ ESTIMATES EQUIANGULAR_TO
    STAR_EQUALS DELTA_EQUAL_TO EQUAL_TO_BY_DEFINITION MEASURED_BY QUESTIONED_EQUAL_TO acNOT_
    abIDENTICAL_ acNOT_ abSTRICTLY_EQUIVALENT_ abLESS-THAN_OR_EQUAL_ aeGREATER- acLESS-THAN_OVER_
    aeGREATER- acLESS-THAN_BUT_NOT_ afGREATER- MUCH_LESS-THAN bbGREATER- BETWEEN NOT_EQUIVALENT_TO
    bLESS-THAN bbGREATER- NEITHER_LESS-THAN_NOR_EQUAL_TO beGREATER- abLESS-THAN_OR_EQUIVALENT_
    aeGREATER- acNEITHER_LESS-THAN_NOR_ beGREATER- LESS-THAN_OR_GREATER-THAN abGREATER-THAN_OR_LESS-
    abNEITHER_LESS-THAN_NOR_GREATER- bbGREATER-THAN_NOR_LESS- PRECEDES SUCCEEDS PRECEDES_OR_EQUAL_TO
    adSUCCEEDS_ abPRECEDES_OR_EQUIVALENT_ adSUCCEEDS_ DOES_NOT_PRECEDE cSUCCEED SUBSET_OF
    abSUPERSET_ abNOT_A_SUBSET_ cbSUPERSET_ SUBSET_OF_OR_EQUAL_TO aeSUPERSET_
    acNEITHER_A_SUBSET_OF_NOR_ ceSUPERSET_ acSUBSET_OF_WITH_NOT_ afSUPERSET_ MULTISET
    MULTISET_MULTIPLICATION bUNION SQUARE_IMAGE_OF bbORIGINAL_ bIMAGE_OF_OR_EQUAL_TO beORIGINAL_
    bCAP bCUP CIRCLED_PLUS bMINUS bTIMES bDIVISION_SLASH bDOT_OPERATOR bbRING_ bbASTERISK_ bEQUALS
    bDASH SQUARED_PLUS bMINUS bTIMES bDOT_OPERATOR RIGHT_TACK abLEFT_ abDOWN_ abUP_ ASSERTION MODELS
    TRUE FORCES TRIPLE_VERTICAL_BAR_RIGHT_TURNSTILE acDOUBLE_VERTICAL_BAR_DOUBLE_ DOES_NOT_PROVE
    NOT_TRUE DOES_NOT_FORCE NEGATED_DOUBLE_VERTICAL_BAR_DOUBLE_RIGHT_TURNSTILE
    PRECEDES_UNDER_RELATION acSUCCEEDS_ NORMAL_SUBGROUP_OF CONTAINS_AS_NORMAL_SUBGROUP
    NORMAL_SUBGROUP_OF_OR_EQUAL_TO adCONTAINS_AS_NORMAL_SUBGROUP_ ORIGINAL_OF abIMAGE_ MULTIMAP
    HERMITIAN_CONJUGATE_MATRIX INTERCALATE XOR NAND NOR RIGHT_ANGLE_WITH_ARC bTRIANGLE
    N-ARY_LOGICAL_AND dOR cINTERSECTION cUNION DIAMOND_OPERATOR abDOT_ abSTAR_ DIVISION_TIMES BOWTIE
    LEFT_NORMAL_FACTOR_SEMIDIRECT_PRODUCT aeRIGHT_ acLEFT_ acRIGHT_ REVERSED_TILDE_EQUALS
    CURLY_LOGICAL_OR cAND DOUBLE_SUBSET bSUPERSET bINTERSECTION bUNION PITCHFORK
    EQUAL_AND_PARALLEL_TO LESS-THAN_WITH_DOT adGREATER- VERY_MUCH_LESS-THAN cbGREATER-
    acLESS-THAN_EQUAL_TO_OR_ abGREATER-THAN_EQUAL_TO_OR_LESS- af dbGREATER- dPRECEDES dSUCCEEDS
    DOES_NOT_PRECEDE_OR_EQUAL ccSUCCEED_ NOT_SQUARE_IMAGE_OF_OR_EQUAL_TO ceORIGINAL_
    acSQUARE_IMAGE_OF_OR_NOT_ bfORIGINAL_ abLESS-THAN_BUT_NOT_EQUIVALENT_ afGREATER- aePRECEDES_
    aeSUCCEEDS_ NOT_NORMAL_SUBGROUP_OF DOES_NOT_CONTAIN_AS_NORMAL_SUBGROUP
    NOT_NORMAL_SUBGROUP_OF_OR_EQUAL_TO DOES_NOT_CONTAIN_AS_NORMAL_SUBGROUP_OR_EQUAL
    VERTICAL_ELLIPSIS abMIDLINE_HORIZONTAL_ abUP_RIGHT_DIAGONAL_ adDOWN_
    ELEMENT_OF_WITH_LONG_HORIZONTAL_STROKE dcVERTICAL_BAR_AT_END_OF_ akSMALL_
    ELEMENT_OF_WITH_DOT_ABOVE dOVERBAR aeSMALL_ ELEMENT_OF_WITH_UNDERBAR dTWO_HORIZONTAL_STROKES
    CONTAINS_WITH_LONG_HORIZONTAL_STROKE ccVERTICAL_BAR_AT_END_OF_ ajSMALL_ CONTAINS_WITH_OVERBAR
    adSMALL_ Z_NOTATION_BAG_MEMBERSHIP DIAMETER_SIGN ELECTRIC_ARROW HOUSE UP_ARROWHEAD abDOWN_
    PROJECTIVE PERSPECTIVE WAVY_LINE LEFT_CEILING abRIGHT_ LEFT_FLOOR abRIGHT_ BOTTOM_RIGHT_CROP
    bbLEFT_ abTOP_RIGHT_ bbLEFT_ REVERSED_NOT_SIGN SQUARE_LOZENGE ARC SEGMENT SECTOR
    TELEPHONE_RECORDER POSITION_INDICATOR VIEWDATA_SQUARE PLACE_OF_INTEREST_SIGN abTURNED_NOT_ WATCH
    HOURGLASS TOP_LEFT_CORNER bbRIGHT_ abBOTTOM_LEFT_ bbRIGHT_ TOP_HALF_INTEGRAL acBOTTOM_ FROWN
    SMILE UP_ARROWHEAD_BETWEEN_TWO_HORIZONTAL_BARS OPTION_KEY ERASE_TO_THE_RIGHT
    X_IN_A_RECTANGLE_BOX KEYBOARD LEFT-POINTING_ANGLE_BRACKET adRIGHT- ERASE_TO_THE_LEFT
    BENZENE_RING CYLINDRICITY ALL_AROUND-PROFILE SYMMETRY TOTAL_RUNOUT DIMENSION_ORIGIN
    CONICAL_TAPER SLOPE COUNTERBORE COUNTERSINK APL_FUNCTIONAL_SYMBOL_I-BEAM dSQUISH_QUAD
    dQUAD_EQUAL eDIVIDE eDIAMOND eJOT eCIRCLE dCIRCLE_STILE eJOT dSLASH_BAR dbBACKSLASH_ dQUAD_SLASH
    eBACKSLASH eLESS-THAN ebGREATER- dLEFTWARDS_VANE dbRIGHTWARDS_ dQUAD_LEFTWARDS_ARROW
    ebRIGHTWARDS_ dCIRCLE_BACKSLASH dDOWN_TACK_UNDERBAR dDELTA_STILE dQUAD_DOWN_CARET eDELTA
    dDOWN_TACK_JOT dUPWARDS_VANE dQUAD_UPWARDS_ARROW dUP_TACK_OVERBAR dDEL_STILE dQUAD_UP_CARET eDEL
    dUP_TACK_JOT dDOWNWARDS_VANE dQUAD_DOWNWARDS_ARROW dQUOTE_UNDERBAR dbDELTA_ dbDIAMOND_ dbJOT_
    dbCIRCLE_ dUP_SHOE_JOT dQUOTE_QUAD dCIRCLE_STAR dQUAD_COLON dUP_TACK_DIAERESIS dbDEL_ dbSTAR_
    dbJOT_ dbCIRCLE_ dDOWN_SHOE_STILE dcLEFT_ dTILDE_DIAERESIS dbGREATER-THAN_ dCOMMA_BAR dDEL_TILDE
    dZILDE dSTILE_TILDE dSEMICOLON_UNDERBAR dQUAD_NOT_EQUAL eQUESTION dDOWN_CARET_TILDE dcUP_ dIOTA
    dRHO dOMEGA dALPHA_UNDERBAR dbEPSILON_ dbIOTA_ dbOMEGA_ dALPHA NOT_CHECK_MARK
    RIGHT_ANGLE_WITH_DOWNWARDS_ZIGZAG_ARROW SHOULDERED_OPEN_BOX BELL_SYMBOL
    VERTICAL_LINE_WITH_MIDDLE_DOT INSERTION_SYMBOL abCONTINUOUS_UNDERLINE_ acDISCONTINUOUS_
    abEMPHASIS_ abCOMPOSITION_ WHITE_SQUARE_WITH_CENTRE_VERTICAL_LINE ENTER_SYMBOL
    abALTERNATIVE_KEY_ abHELM_ CIRCLED_HORIZONTAL_BAR_WITH_NOTCH bTRIANGLE_DOWN
    BROKEN_CIRCLE_WITH_NORTHWEST_ARROW UNDO_SYMBOL abMONOSTABLE_ abHYSTERESIS_
    abOPEN-CIRCUIT-OUTPUT_H-TYPE_ dcL- abPASSIVE-PULL-DOWN-OUTPUT_ ccUP-
    DIRECT_CURRENT_SYMBOL_FORM_TWO SOFTWARE-FUNCTION_SYMBOL APL_FUNCTIONAL_SYMBOL_QUAD
    DECIMAL_SEPARATOR_KEY_SYMBOL PREVIOUS_PAGE abNEXT_ PRINT_SCREEN_SYMBOL acCLEAR_
    LEFT_PARENTHESIS_UPPER_HOOK cEXTENSION cLOWER_HOOK abRIGHT_PARENTHESIS_UPPER_ cEXTENSION
    cLOWER_HOOK LEFT_SQUARE_BRACKET_UPPER_CORNER dEXTENSION dLOWER_CORNER
    abRIGHT_SQUARE_BRACKET_UPPER_ dEXTENSION dLOWER_CORNER LEFT_CURLY_BRACKET_UPPER_HOOK
    dMIDDLE_PIECE dLOWER_HOOK CURLY_BRACKET_EXTENSION RIGHT_CURLY_BRACKET_UPPER_HOOK dMIDDLE_PIECE
    dLOWER_HOOK INTEGRAL_EXTENSION abHORIZONTAL_LINE_
    UPPER_LEFT_OR_LOWER_RIGHT_CURLY_BRACKET_SECTION bdRIGHT_OR_LOWER_LEFT_ SUMMATION_TOP bBOTTOM
    TOP_SQUARE_BRACKET acBOTTOM_ cbBRACKET_OVER_TOP_SQUARE_ RADICAL_SYMBOL_BOTTOM
    LEFT_VERTICAL_BOX_LINE adRIGHT_ HORIZONTAL_SCAN_LINE-1 d3 d7 d9
    DENTISTRY_SYMBOL_LIGHT_VERTICAL_AND_TOP_RIGHT fbBOTTOM_ eWITH_CIRCLE dcDOWN_AND_HORIZONTAL_
    deUP_ dVERTICAL_WITH_TRIANGLE dcDOWN_AND_HORIZONTAL_ deUP_ dVERTICAL_AND_WAVE
    dbDOWN_AND_HORIZONTAL_WITH_ deUP_ dDOWN_AND_HORIZONTAL dcUP_ dVERTICAL_AND_TOP_LEFT fbBOTTOM_
    SQUARE_FOOT RETURN_SYMBOL abEJECT_ VERTICAL_LINE_EXTENSION METRICAL_BREVE bLONG_OVER_SHORT
    bSHORT_OVER_LONG bLONG_OVER_TWO_SHORTS bTWO_SHORTS_OVER_LONG dJOINED bTRISEME bTETRASEME
    bPENTASEME EARTH_GROUND FUSE TOP_PARENTHESIS abBOTTOM_ TOP_CURLY_BRACKET acBOTTOM_
    abTOP_TORTOISE_SHELL_ adBOTTOM_ WHITE_TRAPEZIUM BENZENE_RING_WITH_CIRCLE STRAIGHTNESS FLATNESS
    AC_CURRENT ELECTRICAL_INTERSECTION DECIMAL_EXPONENT_SYMBOL BLACK_RIGHT-POINTING_DOUBLE_TRIANGLE
    bdLEFT- bdUP- bdDOWN- bRIGHT-POINTING_DOUBLE_TRIANGLE_WITH_VERTICAL_BAR bgLEFT-
    bcRIGHT-POINTING_TRIANGLE_WITH_DOUBLE_ ALARM_CLOCK STOPWATCH TIMER_CLOCK
    HOURGLASS_WITH_FLOWING_SAND BLACK_MEDIUM_LEFT-POINTING_TRIANGLE ccRIGHT- ccUP- ccDOWN-
    DOUBLE_VERTICAL_BAR BLACK_SQUARE_FOR_STOP bCIRCLE_FOR_RECORD POWER_SYMBOL bbON-OFF_ bbON_
    bbSLEEP_ abOBSERVER_EYE_ SYMBOL_FOR_NULL cSTART_OF_HEADING eTEXT ccEND_ eTRANSMISSION cENQUIRY
    cACKNOWLEDGE cBELL cBACKSPACE cHORIZONTAL_TABULATION cLINE_FEED cVERTICAL_TABULATION cFORM_FEED
    cCARRIAGE_RETURN cSHIFT_OUT dIN cDATA_LINK_ESCAPE cDEVICE_CONTROL_ONE eTWO eTHREE eFOUR
    cNEGATIVE_ACKNOWLEDGE cSYNCHRONOUS_IDLE cEND_OF_TRANSMISSION_BLOCK cCANCEL cEND_OF_MEDIUM
    cSUBSTITUTE cESCAPE cFILE_SEPARATOR cbGROUP_ cbRECORD_ cbUNIT_ cSPACE cDELETE BLANK_SYMBOL
    OPEN_BOX SYMBOL_FOR_NEWLINE cDELETE_FORM_TWO ccSUBSTITUTE_ 2440=OCR_HOOK bCHAIR bFORK
    bbINVERTED_ bBELT_BUCKLE bBOW_TIE bBRANCH_BANK_IDENTIFICATION bAMOUNT_OF_CHECK bDASH
    bCUSTOMER_ACCOUNT_NUMBER bDOUBLE_BACKSLASH 2460=CIRCLED_DIGIT_ONE cTWO cTHREE cFOUR cFIVE cSIX
    cSEVEN cEIGHT cNINE bNUMBER_TEN cELEVEN cTWELVE cTHIRTEEN cFOURTEEN cFIFTEEN cSIXTEEN cSEVENTEEN
    cEIGHTEEN cNINETEEN cTWENTY PARENTHESIZED_DIGIT_ONE cTWO cTHREE cFOUR cFIVE cSIX cSEVEN cEIGHT
    cNINE bNUMBER_TEN cELEVEN cTWELVE cTHIRTEEN cFOURTEEN cFIFTEEN cSIXTEEN cSEVENTEEN cEIGHTEEN
    cNINETEEN cTWENTY DIGIT_ONE_FULL_STOP bcTWO_ bcTHREE_ bcFOUR_ bcFIVE_ bcSIX_ bcSEVEN_ bcEIGHT_
    bcNINE_ acNUMBER_TEN_ bcELEVEN_ bcTWELVE_ bcTHIRTEEN_ bcFOURTEEN_ bcFIFTEEN_ bcSIXTEEN_
    bcSEVENTEEN_ bcEIGHTEEN_ bcNINETEEN_ bcTWENTY_ PARENTHESIZED_LATIN_SMALL_LETTER_A eB eC eD eE eF
    eG eH eI eJ eK eL eM eN eO eP eQ eR eS eT eU eV eW eX eY eZ CIRCLED_LATIN_CAPITAL_LETTER_A eB eC
    eD eE eF eG eH eI eJ eK eL eM eN eO eP eQ eR eS eT eU eV eW eX eY eZ cSMALL_LETTER_A eB eC eD eE
    eF eG eH eI eJ eK eL eM eN eO eP eQ eR eS eT eU eV eW eX eY eZ bDIGIT_ZERO
    NEGATIVE_CIRCLED_NUMBER_ELEVEN dTWELVE dTHIRTEEN dFOURTEEN dFIFTEEN dSIXTEEN dSEVENTEEN
    dEIGHTEEN dNINETEEN dTWENTY DOUBLE_CIRCLED_DIGIT_ONE dTWO dTHREE dFOUR dFIVE dSIX dSEVEN dEIGHT
    dNINE cNUMBER_TEN NEGATIVE_CIRCLED_DIGIT_ZERO BOX_DRAWINGS_LIGHT_HORIZONTAL cbHEAVY_
    cLIGHT_VERTICAL cbHEAVY_ cLIGHT_TRIPLE_DASH_HORIZONTAL cdHEAVY_ cLIGHT_TRIPLE_DASH_VERTICAL
    cdHEAVY_ cLIGHT_QUADRUPLE_DASH_HORIZONTAL cdHEAVY_ cLIGHT_QUADRUPLE_DASH_VERTICAL cdHEAVY_
    cLIGHT_DOWN_AND_RIGHT cDOWN_LIGHT_AND_RIGHT_HEAVY dHEAVY_AND_RIGHT_LIGHT cHEAVY_DOWN_AND_RIGHT
    cLIGHT_DOWN_AND_LEFT cDOWN_LIGHT_AND_LEFT_HEAVY dHEAVY_AND_LEFT_LIGHT cHEAVY_DOWN_AND_LEFT
    cLIGHT_UP_AND_RIGHT cUP_LIGHT_AND_RIGHT_HEAVY dHEAVY_AND_RIGHT_LIGHT cHEAVY_UP_AND_RIGHT
    cLIGHT_UP_AND_LEFT cUP_LIGHT_AND_LEFT_HEAVY dHEAVY_AND_LEFT_LIGHT cHEAVY_UP_AND_LEFT
    cLIGHT_VERTICAL_AND_RIGHT cVERTICAL_LIGHT_AND_RIGHT_HEAVY cUP_HEAVY_AND_RIGHT_DOWN_LIGHT
    cbDOWN_HEAVY_AND_RIGHT_UP_ cbVERTICAL_HEAVY_AND_RIGHT_ cDOWN_LIGHT_AND_RIGHT_UP_HEAVY
    cbUP_LIGHT_AND_RIGHT_DOWN_ cHEAVY_VERTICAL_AND_RIGHT cLIGHT_VERTICAL_AND_LEFT
    cVERTICAL_LIGHT_AND_LEFT_HEAVY cUP_HEAVY_AND_LEFT_DOWN_LIGHT cbDOWN_HEAVY_AND_LEFT_UP_
    cbVERTICAL_HEAVY_AND_LEFT_ cDOWN_LIGHT_AND_LEFT_UP_HEAVY cbUP_LIGHT_AND_LEFT_DOWN_
    cHEAVY_VERTICAL_AND_LEFT cLIGHT_DOWN_AND_HORIZONTAL cLEFT_HEAVY_AND_RIGHT_DOWN_LIGHT
    ccRIGHT_HEAVY_AND_LEFT_ cDOWN_LIGHT_AND_HORIZONTAL_HEAVY dHEAVY_AND_HORIZONTAL_LIGHT
    cRIGHT_LIGHT_AND_LEFT_DOWN_HEAVY ccLEFT_LIGHT_AND_RIGHT_ cHEAVY_DOWN_AND_HORIZONTAL ccLIGHT_UP_
    cLEFT_HEAVY_AND_RIGHT_UP_LIGHT ccRIGHT_HEAVY_AND_LEFT_ cUP_LIGHT_AND_HORIZONTAL_HEAVY
    dHEAVY_AND_HORIZONTAL_LIGHT cRIGHT_LIGHT_AND_LEFT_UP_HEAVY ccLEFT_LIGHT_AND_RIGHT_
    cHEAVY_UP_AND_HORIZONTAL ccLIGHT_VERTICAL_ cLEFT_HEAVY_AND_RIGHT_VERTICAL_LIGHT
    ccRIGHT_HEAVY_AND_LEFT_ cVERTICAL_LIGHT_AND_HORIZONTAL_HEAVY cUP_HEAVY_AND_DOWN_HORIZONTAL_LIGHT
    ccDOWN_HEAVY_AND_UP_ ccVERTICAL_HEAVY_AND_ cbLEFT_UP_HEAVY_AND_RIGHT_DOWN_
    ccRIGHT_UP_HEAVY_AND_LEFT_ cbLEFT_DOWN_HEAVY_AND_RIGHT_UP_ ccRIGHT_DOWN_HEAVY_AND_LEFT_
    cDOWN_LIGHT_AND_UP_HORIZONTAL_HEAVY ccUP_LIGHT_AND_DOWN_ cbRIGHT_LIGHT_AND_LEFT_VERTICAL_
    ccLEFT_LIGHT_AND_RIGHT_ cHEAVY_VERTICAL_AND_HORIZONTAL cbLIGHT_DOUBLE_DASH_ cdHEAVY_
    cLIGHT_DOUBLE_DASH_VERTICAL cdHEAVY_ cDOUBLE_HORIZONTAL dVERTICAL cDOWN_SINGLE_AND_RIGHT_DOUBLE
    dDOUBLE_AND_RIGHT_SINGLE cDOUBLE_DOWN_AND_RIGHT cDOWN_SINGLE_AND_LEFT_DOUBLE
    dDOUBLE_AND_LEFT_SINGLE cDOUBLE_DOWN_AND_LEFT cUP_SINGLE_AND_RIGHT_DOUBLE
    dDOUBLE_AND_RIGHT_SINGLE cDOUBLE_UP_AND_RIGHT cUP_SINGLE_AND_LEFT_DOUBLE dDOUBLE_AND_LEFT_SINGLE
    cDOUBLE_UP_AND_LEFT cVERTICAL_SINGLE_AND_RIGHT_DOUBLE dDOUBLE_AND_RIGHT_SINGLE
    cDOUBLE_VERTICAL_AND_RIGHT cVERTICAL_SINGLE_AND_LEFT_DOUBLE dDOUBLE_AND_LEFT_SINGLE
    cDOUBLE_VERTICAL_AND_LEFT cDOWN_SINGLE_AND_HORIZONTAL_DOUBLE dDOUBLE_AND_HORIZONTAL_SINGLE
    cDOUBLE_DOWN_AND_HORIZONTAL cUP_SINGLE_AND_HORIZONTAL_DOUBLE dDOUBLE_AND_HORIZONTAL_SINGLE
    cDOUBLE_UP_AND_HORIZONTAL cVERTICAL_SINGLE_AND_HORIZONTAL_DOUBLE dDOUBLE_AND_HORIZONTAL_SINGLE
    cDOUBLE_VERTICAL_AND_HORIZONTAL cLIGHT_ARC_DOWN_AND_RIGHT gLEFT ecUP_ gRIGHT
    dDIAGONAL_UPPER_RIGHT_TO_LOWER_LEFT fLEFT_TO_LOWER_RIGHT eCROSS dLEFT dUP dRIGHT dDOWN
    cHEAVY_LEFT dUP dRIGHT dDOWN cLIGHT_LEFT_AND_HEAVY_RIGHT dUP_AND_HEAVY_DOWN
    cHEAVY_LEFT_AND_LIGHT_RIGHT dUP_AND_LIGHT_DOWN UPPER_HALF_BLOCK abLOWER_ONE_EIGHTH_ cbQUARTER_
    bbTHREE_EIGHTHS_ bbHALF_ bbFIVE_EIGHTHS_ bbTHREE_QUARTERS_ bbSEVEN_EIGHTHS_ abFULL_
    abLEFT_SEVEN_EIGHTHS_ bbTHREE_QUARTERS_ bbFIVE_EIGHTHS_ bbHALF_ bbTHREE_EIGHTHS_ bbONE_QUARTER_
    cbEIGHTH_ abRIGHT_HALF_ LIGHT_SHADE abMEDIUM_ abDARK_ UPPER_ONE_EIGHTH_BLOCK adRIGHT_
    QUADRANT_LOWER_LEFT cRIGHT bUPPER_LEFT cLEFT_AND_LOWER_LEFT_AND_LOWER_RIGHT fb
    eUPPER_RIGHT_AND_LOWER_LEFT iRIGHT cb cRIGHT_AND_LOWER_LEFT fLEFT_AND_LOWER_RIGHT BLACK_SQUARE
    abWHITE_ bSQUARE_WITH_ROUNDED_CORNERS cCONTAINING_BLACK_SMALL_SQUARE SQUARE_WITH_HORIZONTAL_FILL
    cbVERTICAL_ cbORTHOGONAL_CROSSHATCH_ cbUPPER_LEFT_TO_LOWER_RIGHT_ dbRIGHT_TO_LOWER_LEFT_
    cbDIAGONAL_CROSSHATCH_ BLACK_SMALL_SQUARE acWHITE_ BLACK_RECTANGLE abWHITE_ abBLACK_VERTICAL_
    acWHITE_ BLACK_PARALLELOGRAM abWHITE_ BLACK_UP-POINTING_TRIANGLE adWHITE_
    abBLACK_UP-POINTING_SMALL_ aeWHITE_ abBLACK_RIGHT-POINTING_ adWHITE_
    abBLACK_RIGHT-POINTING_SMALL_ aeWHITE_ BLACK_RIGHT-POINTING_POINTER adWHITE_
    BLACK_DOWN-POINTING_TRIANGLE adWHITE_ abBLACK_DOWN-POINTING_SMALL_ aeWHITE_
    abBLACK_LEFT-POINTING_ adWHITE_ abBLACK_LEFT-POINTING_SMALL_ aeWHITE_
    BLACK_LEFT-POINTING_POINTER adWHITE_ BLACK_DIAMOND abWHITE_ bbDIAMOND_CONTAINING_BLACK_SMALL_
    FISHEYE LOZENGE WHITE_CIRCLE abDOTTED_ CIRCLE_WITH_VERTICAL_FILL BULLSEYE BLACK_CIRCLE
    CIRCLE_WITH_LEFT_HALF_BLACK ccRIGHT_ ccLOWER_ ccUPPER_ dbRIGHT_QUADRANT_ ccALL_BUT_UPPER_LEFT_
    LEFT_HALF_BLACK_CIRCLE adRIGHT_ INVERSE_BULLET bWHITE_CIRCLE adUPPER_HALF_ aeLOWER_
    UPPER_LEFT_QUADRANT_CIRCULAR_ARC bdRIGHT_ aeLOWER_ bdLEFT_ UPPER_HALF_CIRCLE acLOWER_
    BLACK_LOWER_RIGHT_TRIANGLE cbLEFT_ bcUPPER_ cbRIGHT_ WHITE_BULLET SQUARE_WITH_LEFT_HALF_BLACK
    ccRIGHT_ ccUPPER_LEFT_DIAGONAL_ cdLOWER_RIGHT_ WHITE_SQUARE_WITH_VERTICAL_BISECTING_LINE
    bUP-POINTING_TRIANGLE_WITH_DOT UP-POINTING_TRIANGLE_WITH_LEFT_HALF_BLACK ecRIGHT_ LARGE_CIRCLE
    WHITE_SQUARE_WITH_UPPER_LEFT_QUADRANT dcLOWER_ ebRIGHT_ dcUPPER_ bbCIRCLE_WITH_UPPER_LEFT_
    dcLOWER_ ebRIGHT_ dcUPPER_ UPPER_LEFT_TRIANGLE bbRIGHT_ abLOWER_LEFT_ WHITE_MEDIUM_SQUARE
    acBLACK_ abWHITE_MEDIUM_SMALL_ adBLACK_ LOWER_RIGHT_TRIANGLE BLACK_SUN_WITH_RAYS CLOUD UMBRELLA
    SNOWMAN COMET BLACK_STAR abWHITE_ LIGHTNING THUNDERSTORM SUN ASCENDING_NODE abDESCENDING_
    CONJUNCTION OPPOSITION BLACK_TELEPHONE abWHITE_ BALLOT_BOX bBOX_WITH_CHECK dX SALTIRE
    UMBRELLA_WITH_RAIN_DROPS HOT_BEVERAGE WHITE_SHOGI_PIECE acBLACK_ SHAMROCK
    REVERSED_ROTATED_FLORAL_HEART_BULLET BLACK_LEFT_POINTING_INDEX bcRIGHT_ acWHITE_LEFT_ bcUP_
    bcRIGHT_ bcDOWN_ SKULL_AND_CROSSBONES CAUTION_SIGN abRADIOACTIVE_ abBIOHAZARD_ CADUCEUS ANKH
    ORTHODOX_CROSS CHI_RHO CROSS_OF_LORRAINE cJERUSALEM STAR_AND_CRESCENT FARSI_SYMBOL ADI_SHAKTI
    HAMMER_AND_SICKLE PEACE_SYMBOL YIN_YANG TRIGRAM_FOR_HEAVEN cLAKE cFIRE cTHUNDER cWIND cWATER
    cMOUNTAIN cEARTH WHEEL_OF_DHARMA WHITE_FROWNING_FACE bbSMILING_ acBLACK_ WHITE_SUN_WITH_RAYS
    FIRST_QUARTER_MOON acLAST_ MERCURY FEMALE_SIGN EARTH MALE_SIGN JUPITER SATURN URANUS NEPTUNE
    PLUTO ARIES TAURUS GEMINI CANCER LEO VIRGO LIBRA SCORPIUS SAGITTARIUS CAPRICORN AQUARIUS PISCES
    WHITE_CHESS_KING cQUEEN cROOK cBISHOP cKNIGHT cPAWN BLACK_CHESS_KING cQUEEN cROOK cBISHOP
    cKNIGHT cPAWN bSPADE_SUIT abWHITE_HEART_ bbDIAMOND_ abBLACK_CLUB_ abWHITE_SPADE_ abBLACK_HEART_
    bbDIAMOND_ abWHITE_CLUB_ HOT_SPRINGS QUARTER_NOTE abEIGHTH_ BEAMED_EIGHTH_NOTES bbSIXTEENTH_
    MUSIC_FLAT_SIGN bbNATURAL_ bbSHARP_ WEST_SYRIAC_CROSS acEAST_ UNIVERSAL_RECYCLING_SYMBOL
    RECYCLING_SYMBOL_FOR_TYPE-1_PLASTICS eb2_ eb3_ eb4_ eb5_ eb6_ eb7_ dGENERIC_MATERIALS
    BLACK_UNIVERSAL_RECYCLING_SYMBOL abRECYCLED_PAPER_ adPARTIALLY- PERMANENT_PAPER_SIGN
    WHEELCHAIR_SYMBOL DIE_FACE-1 c2 c3 c4 c5 c6 WHITE_CIRCLE_WITH_DOT_RIGHT dTWO_DOTS
    BLACK_CIRCLE_WITH_WHITE_DOT_RIGHT dTWO_WHITE_DOTS MONOGRAM_FOR_YANG cYIN DIGRAM_FOR_GREATER_YANG
    cLESSER_YIN dYANG cGREATER_YIN WHITE_FLAG abBLACK_ HAMMER_AND_PICK ANCHOR CROSSED_SWORDS
    STAFF_OF_AESCULAPIUS SCALES ALEMBIC FLOWER GEAR STAFF_OF_HERMES ATOM_SYMBOL FLEUR-DE-LIS
    OUTLINED_WHITE_STAR THREE_LINES_CONVERGING_RIGHT dLEFT WARNING_SIGN abHIGH_VOLTAGE_
    abDOUBLED_FEMALE_ bbMALE_ acINTERLOCKED_FEMALE_AND_ abMALE_AND_FEMALE_ bbWITH_STROKE_
    dbAND_MALE_AND_FEMALE_ abVERTICAL_MALE_WITH_STROKE_ aeHORIZONTAL_ MEDIUM_WHITE_CIRCLE bbBLACK_
    bbSMALL_WHITE_ MARRIAGE_SYMBOL abDIVORCE_ abUNMARRIED_PARTNERSHIP_ COFFIN FUNERAL_URN NEUTER
    CERES PALLAS JUNO VESTA CHIRON BLACK_MOON_LILITH SEXTILE SEMISEXTILE QUINCUNX SESQUIQUADRATE
    SOCCER_BALL BASEBALL SQUARED_KEY WHITE_DRAUGHTS_MAN cKING BLACK_DRAUGHTS_MAN cKING
    SNOWMAN_WITHOUT_SNOW SUN_BEHIND_CLOUD RAIN BLACK_SNOWMAN THUNDER_CLOUD_AND_RAIN
    TURNED_WHITE_SHOGI_PIECE bcBLACK_ WHITE_DIAMOND_IN_SQUARE CROSSING_LANES DISABLED_CAR OPHIUCHUS
    PICK CAR_SLIDING HELMET_WITH_WHITE_CROSS CIRCLED_CROSSING_LANES CHAINS NO_ENTRY
    ALTERNATE_ONE-WAY_LEFT_WAY_TRAFFIC aeBLACK_TWO- afWHITE_ BLACK_LEFT_LANE_MERGE adWHITE_
    DRIVE_SLOW_SIGN HEAVY_WHITE_DOWN-POINTING_TRIANGLE LEFT_CLOSED_ENTRY SQUARED_SALTIRE
    FALLING_DIAGONAL_IN_WHITE_CIRCLE_IN_BLACK_SQUARE BLACK_TRUCK RESTRICTED_LEFT_ENTRY-1 d2
    ASTRONOMICAL_SYMBOL_FOR_URANUS HEAVY_CIRCLE_WITH_STROKE_AND_TWO_DOTS_ABOVE PENTAGRAM
    abRIGHT-HANDED_INTERLACED_ adLEFT- abINVERTED_ BLACK_CROSS_ON_SHIELD SHINTO_SHRINE CHURCH CASTLE
    HISTORIC_SITE GEAR_WITHOUT_HUB bWITH_HANDLES MAP_SYMBOL_FOR_LIGHTHOUSE MOUNTAIN
    UMBRELLA_ON_GROUND FOUNTAIN FLAG_IN_HOLE FERRY SAILBOAT SQUARE_FOUR_CORNERS SKIER ICE_SKATE
    PERSON_WITH_BALL TENT JAPANESE_BANK_SYMBOL abHEADSTONE_GRAVEYARD_ FUEL_PUMP CUP_ON_BLACK_SQUARE
    WHITE_FLAG_WITH_HORIZONTAL_MIDDLE_BLACK_STRIPE BLACK_SAFETY_SCISSORS abUPPER_BLADE_ abBLACK_
    abLOWER_BLADE_ abWHITE_ bHEAVY_CHECK_MARK TELEPHONE_LOCATION_SIGN TAPE_DRIVE AIRPLANE ENVELOPE
    RAISED_FIST bHAND abVICTORY_ abWRITING_ LOWER_RIGHT_PENCIL ab abUPPER_RIGHT_ WHITE_NIB abBLACK_
    CHECK_MARK acHEAVY_ MULTIPLICATION_X acHEAVY_ abBALLOT_ acHEAVY_ OUTLINED_GREEK_CROSS acHEAVY_
    abOPEN_CENTRE_ adHEAVY_ abLATIN_ acSHADOWED_WHITE_ acOUTLINED_ abMALTESE_ STAR_OF_DAVID
    FOUR_TEARDROP-SPOKED_ASTERISK bcBALLOON- aeHEAVY_ acFOUR_CLUB- BLACK_FOUR_POINTED_STAR adWHITE_
    SPARKLES STRESS_OUTLINED_WHITE_STAR acCIRCLED_ abOPEN_CENTRE_BLACK_ abBLACK_CENTRE_WHITE_
    abOUTLINED_BLACK_ adHEAVY_ abPINWHEEL_ abSHADOWED_WHITE_ HEAVY_ASTERISK abOPEN_CENTRE_
    abEIGHT_SPOKED_ bPOINTED_BLACK_STAR cbPINWHEEL_ abSIX_POINTED_BLACK_
    acEIGHT_POINTED_RECTILINEAR_ afHEAVY_ acTWELVE_POINTED_ SIXTEEN_POINTED_ASTERISK
    abTEARDROP-SPOKED_ adOPEN_CENTRE_ adHEAVY_ SIX_PETALLED_BLACK_AND_WHITE_FLORETTE abBLACK_
    abWHITE_ abEIGHT_PETALLED_OUTLINED_BLACK_ CIRCLED_OPEN_CENTRE_EIGHT_POINTED_STAR
    HEAVY_TEARDROP-SPOKED_PINWHEEL_ASTERISK SNOWFLAKE abTIGHT_TRIFOLIATE_ abHEAVY_CHEVRON_ SPARKLE
    abHEAVY_ BALLOON-SPOKED_ASTERISK abEIGHT_TEARDROP-SPOKED_PROPELLER_ afHEAVY_ CROSS_MARK
    SHADOWED_WHITE_CIRCLE NEGATIVE_SQUARED_CROSS_MARK LOWER_RIGHT_DROP-SHADOWED_WHITE_SQUARE
    afUPPER_ adLOWER_RIGHT_ aeUPPER_ BLACK_QUESTION_MARK_ORNAMENT adWHITE_ bcEXCLAMATION_
    BLACK_DIAMOND_MINUS_WHITE_X HEAVY_EXCLAMATION_MARK_SYMBOL LIGHT_VERTICAL_BAR acMEDIUM_ acHEAVY_
    bSINGLE_TURNED_COMMA_QUOTATION_MARK_ORNAMENT ce beDOUBLE_TURNED_ ce beLOW_SINGLE_ ceDOUBLE_
    abCURVED_STEM_PARAGRAPH_SIGN_ abHEAVY_EXCLAMATION_MARK_ bdHEART_ bBLACK_HEART
    ROTATED_HEAVY_BLACK_HEART_BULLET FLORAL_HEART ROTATED_FLORAL_HEART_BULLET
    MEDIUM_LEFT_PARENTHESIS_ORNAMENT bcRIGHT_ bcFLATTENED_LEFT_ ccRIGHT_
    bbLEFT-POINTING_ANGLE_BRACKET_ beRIGHT- abHEAVY_LEFT-POINTING_ANGLE_QUOTATION_MARK_ bfRIGHT-
    bbLEFT-POINTING_ANGLE_BRACKET_ beRIGHT- acLIGHT_LEFT_TORTOISE_SHELL_ beRIGHT_
    acMEDIUM_LEFT_CURLY_ bdRIGHT_ DINGBAT_NEGATIVE_CIRCLED_DIGIT_ONE eTWO eTHREE eFOUR eFIVE eSIX
    eSEVEN eEIGHT eNINE dNUMBER_TEN bCIRCLED_SANS-SERIF_DIGIT_ONE fTWO fTHREE fFOUR fFIVE fSIX
    fSEVEN fEIGHT fNINE eNUMBER_TEN bNEGATIVE_CIRCLED_SANS-SERIF_DIGIT_ONE gTWO gTHREE gFOUR gFIVE
    gSIX gSEVEN gEIGHT gNINE fNUMBER_TEN HEAVY_WIDE-HEADED_RIGHTWARDS_ARROW bPLUS_SIGN bbMINUS_
    bbDIVISION_ bSOUTH_EAST_ARROW bbRIGHTWARDS_ bbNORTH_EAST_ abDRAFTING_POINT_RIGHTWARDS_
    acHEAVY_ROUND-TIPPED_ acTRIANGLE-HEADED_ aeHEAVY_ aeDASHED_ afHEAVY_ acBLACK_
    THREE-D_TOP-LIGHTED_RIGHTWARDS_ARROWHEAD cdBOTTOM- acBLACK_
    HEAVY_BLACK_CURVED_DOWNWARDS_AND_RIGHTWARDS_ARROW ddUPWARDS_ acSQUAT_BLACK_
    adHEAVY_CONCAVE-POINTED_ acRIGHT-SHADED_WHITE_ aeLEFT- adBACK-TILTED_SHADOWED_ afFRONT-
    aeHEAVY_LOWER_RIGHT- bfUPPER_ afNOTCHED_LOWER_ CURLY_LOOP
    NOTCHED_UPPER_RIGHT-SHADOWED_WHITE_RIGHTWARDS_ARROW adCIRCLED_HEAVY_ acWHITE-FEATHERED_
    abBLACK-FEATHERED_SOUTH_EAST_ cbRIGHTWARDS_ cbNORTH_EAST_ acHEAVY_BLACK-FEATHERED_SOUTH_
    dbRIGHTWARDS_ dbNORTH_EAST_ abTEARDROP-BARBED_RIGHTWARDS_ acHEAVY_TEARDROP-SHANKED_
    acWEDGE-TAILED_ aeHEAVY_ acOPEN-OUTLINED_ DOUBLE_CURLY_LOOP THREE_DIMENSIONAL_ANGLE
    WHITE_TRIANGLE_CONTAINING_SMALL_WHITE_TRIANGLE PERPENDICULAR OPEN_SUBSET bSUPERSET
    LEFT_S-SHAPED_BAG_DELIMITER aeRIGHT_ OR_WITH_DOT_INSIDE REVERSE_SOLIDUS_PRECEDING_SUBSET
    SUPERSET_PRECEDING_SOLIDUS VERTICAL_BAR_WITH_HORIZONTAL_STROKE MATHEMATICAL_RISING_DIAGONAL
    LONG_DIVISION MATHEMATICAL_FALLING_DIAGONAL SQUARED_LOGICAL_AND cOR
    WHITE_DIAMOND_WITH_CENTRED_DOT abAND_WITH_ ELEMENT_OF_OPENING_UPWARDS
    LOWER_RIGHT_CORNER_WITH_DOT adUPPER_LEFT_ LEFT_OUTER_JOIN acRIGHT_ acFULL_ LARGE_UP_TACK bbDOWN_
    LEFT_AND_RIGHT_DOUBLE_TURNSTILE dTACK bMULTIMAP LONG_RIGHT_TACK bbLEFT_
    UP_TACK_WITH_CIRCLE_ABOVE LOZENGE_DIVIDED_BY_HORIZONTAL_RULE WHITE_CONCAVE-SIDED_DIAMOND
    dDIAMOND_WITH_LEFTWARDS_TICK fbRIGHTWARDS_ bbSQUARE_WITH_LEFTWARDS_ dbRIGHTWARDS_
    MATHEMATICAL_LEFT_WHITE_SQUARE_BRACKET bdRIGHT_ bbLEFT_ANGLE_ bcRIGHT_ bcLEFT_DOUBLE_ bdRIGHT_
    bbLEFT_WHITE_TORTOISE_SHELL_ beRIGHT_ bLEFT_FLATTENED_PARENTHESIS bcRIGHT_
    UPWARDS_QUADRUPLE_ARROW acDOWNWARDS_ abANTICLOCKWISE_GAPPED_CIRCLE_ adCLOCKWISE_
    RIGHT_ARROW_WITH_CIRCLED_PLUS LONG_LEFTWARDS_ARROW bbRIGHTWARDS_ bbLEFT_RIGHT_
    bbLEFTWARDS_DOUBLE_ bcRIGHTWARDS_ bcLEFT_RIGHT_ bLEFTWARDS_ARROW_FROM_BAR bdRIGHTWARDS_
    bdLEFTWARDS_DOUBLE_ beRIGHTWARDS_ cSQUIGGLE_ARROW BRAILLE_PATTERN_BLANK cDOTS-1 d2 d12 d3 d13
    d23 d123 d4 d14 d24 d124 d34 d134 d234 d1234 d5 d15 d25 d125 d35 d135 d235 d1235 d45 d145 d245
    d1245 d345 d1345 d2345 d12345 d6 d16 d26 d126 d36 d136 d236 d1236 d46 d146 d246 d1246 d346 d1346
    d2346 d12346 d56 d156 d256 d1256 d356 d1356 d2356 d12356 d456 d1456 d2456 d12456 d3456 d13456
    d23456 d123456 d7 d17 d27 d127 d37 d137 d237 d1237 d47 d147 d247 d1247 d347 d1347 d2347 d12347
    d57 d157 d257 d1257 d357 d1357 d2357 d12357 d457 d1457 d2457 d12457 d3457 d13457 d23457 d123457
    d67 d167 d267 d1267 d367 d1367 d2367 d12367 d467 d1467 d2467 d12467 d3467 d13467 d23467 d123467
    d567 d1567 d2567 d12567 d3567 d13567 d23567 d123567 d4567 d14567 d24567 d124567 d34567 d134567
    d234567 d1234567 d8 d18 d28 d128 d38 d138 d238 d1238 d48 d148 d248 d1248 d348 d1348 d2348 d12348
    d58 d158 d258 d1258 d358 d1358 d2358 d12358 d458 d1458 d2458 d12458 d3458 d13458 d23458 d123458
    d68 d168 d268 d1268 d368 d1368 d2368 d12368 d468 d1468 d2468 d12468 d3468 d13468 d23468 d123468
    d568 d1568 d2568 d12568 d3568 d13568 d23568 d123568 d4568 d14568 d24568 d124568 d34568 d134568
    d234568 d1234568 d78 d178 d278 d1278 d378 d1378 d2378 d12378 d478 d1478 d2478 d12478 d3478
    d13478 d23478 d123478 d578 d1578 d2578 d12578 d3578 d13578 d23578 d123578 d4578 d14578 d24578
    d124578 d34578 d134578 d234578 d1234578 d678 d1678 d2678 d12678 d3678 d13678 d23678 d123678
    d4678 d14678 d24678 d124678 d34678 d134678 d234678 d1234678 d5678 d15678 d25678 d125678 d35678
    d135678 d235678 d1235678 d45678 d145678 d245678 d1245678 d345678 d1345678 d2345678 d12345678
    RIGHTWARDS_TWO-HEADED_ARROW_WITH_VERTICAL_STROKE fcDOUBLE_ acLEFTWARDS_DOUBLE_ARROW_WITH_
    afRIGHTWARDS_ afLEFT_RIGHT_ RIGHTWARDS_TWO-HEADED_ARROW_FROM_BAR adLEFTWARDS_DOUBLE_
    aeRIGHTWARDS_ DOWNWARDS_ARROW_WITH_HORIZONTAL_STROKE aeUPWARDS_ bTRIPLE_ARROW acDOWNWARDS_
    abLEFTWARDS_DOUBLE_DASH_ adRIGHTWARDS_ acLEFTWARDS_TRIPLE_ adRIGHTWARDS_ bdTWO-HEADED_
    bARROW_WITH_DOTTED_STEM UPWARDS_ARROW_TO_BAR adDOWNWARDS_
    RIGHTWARDS_ARROW_WITH_TAIL_WITH_VERTICAL_STROKE fcDOUBLE_ bTWO-HEADED_ARROW_WITH_TAIL
    fTAIL_WITH_VERTICAL_STROKE hcDOUBLE_ LEFTWARDS_ARROW-TAIL acRIGHTWARDS_ acLEFTWARDS_DOUBLE_
    adRIGHTWARDS_ LEFTWARDS_ARROW_TO_BLACK_DIAMOND aeRIGHTWARDS_ adLEFTWARDS_ARROW_FROM_BAR_
    agRIGHTWARDS_ NORTH_WEST_AND_SOUTH_EAST_ARROW bbEAST_AND_SOUTH_WEST_ bWEST_ARROW_WITH_HOOK
    bdEAST_ aeSOUTH_ bdWEST_ NORTH_WEST_ARROW_AND_NORTH_EAST_ARROW bcEAST_ARROW_AND_SOUTH_
    abSOUTH_EAST_ARROW_AND_SOUTH_WEST_ bcWEST_ARROW_AND_NORTH_
    RISING_DIAGONAL_CROSSING_FALLING_DIAGONAL abFALLING_DIAGONAL_CROSSING_RISING_
    SOUTH_EAST_ARROW_CROSSING_NORTH_EAST_ARROW acNORTH_EAST_ARROW_CROSSING_SOUTH_
    acFALLING_DIAGONAL_CROSSING_NORTH_ acRISING_DIAGONAL_CROSSING_SOUTH_
    abNORTH_EAST_ARROW_CROSSING_NORTH_WEST_ bbWEST_ARROW_CROSSING_NORTH_EAST_
    WAVE_ARROW_POINTING_DIRECTLY_RIGHT ARROW_POINTING_RIGHTWARDS_THEN_CURVING_UPWARDS fDOWNWARDS
    cDOWNWARDS_THEN_CURVING_LEFTWARDS fRIGHTWARDS RIGHT-SIDE_ARC_CLOCKWISE_ARROW
    abLEFT-SIDE_ARC_ANTICLOCKWISE_ adTOP_ adBOTTOM_ TOP_ARC_CLOCKWISE_ARROW_WITH_MINUS
    cANTICLOCKWISE_ARROW_WITH_PLUS LOWER_RIGHT_SEMICIRCULAR_CLOCKWISE_ARROW
    bbLEFT_SEMICIRCULAR_ANTICLOCKWISE_ abANTICLOCKWISE_CLOSED_CIRCLE_ adCLOCKWISE_
    abRIGHTWARDS_ARROW_ABOVE_SHORT_LEFTWARDS_ abLEFTWARDS_ARROW_ABOVE_SHORT_RIGHTWARDS_
    abSHORT_RIGHTWARDS_ARROW_ABOVE_LEFTWARDS_ RIGHTWARDS_ARROW_WITH_PLUS_BELOW aeLEFTWARDS_
    RIGHTWARDS_ARROW_THROUGH_X LEFT_RIGHT_ARROW_THROUGH_SMALL_CIRCLE
    acUPWARDS_TWO-HEADED_ARROW_FROM_ LEFT_BARB_UP_RIGHT_BARB_DOWN_HARPOON cbDOWN_RIGHT_BARB_UP_
    abUP_BARB_RIGHT_DOWN_BARB_LEFT_ cbLEFT_DOWN_BARB_RIGHT_ abLEFT_BARB_UP_RIGHT_BARB_UP_
    abUP_BARB_RIGHT_DOWN_BARB_RIGHT_ abLEFT_BARB_DOWN_RIGHT_BARB_DOWN_
    abUP_BARB_LEFT_DOWN_BARB_LEFT_ LEFTWARDS_HARPOON_WITH_BARB_UP_TO_BAR agRIGHTWARDS_
    acUPWARDS_HARPOON_WITH_BARB_RIGHT_ agDOWNWARDS_ acLEFTWARDS_HARPOON_WITH_BARB_DOWN_
    agRIGHTWARDS_ acUPWARDS_HARPOON_WITH_BARB_LEFT_ agDOWNWARDS_
    abLEFTWARDS_HARPOON_WITH_BARB_UP_FROM_ agRIGHTWARDS_ acUPWARDS_HARPOON_WITH_BARB_RIGHT_
    agDOWNWARDS_ acLEFTWARDS_HARPOON_WITH_BARB_DOWN_ agRIGHTWARDS_ acUPWARDS_HARPOON_WITH_BARB_LEFT_
    agDOWNWARDS_ LEFTWARDS_HARPOON_WITH_BARB_UP_ABOVE_LEFTWARDS_HARPOON_WITH_BARB_DOWN
    UPWARDS_HARPOON_WITH_BARB_LEFT_BESIDE_UPWARDS_HARPOON_WITH_BARB_RIGHT
    RIGHTWARDS_HARPOON_WITH_BARB_UP_ABOVE_RIGHTWARDS_HARPOON_WITH_BARB_DOWN
    DOWNWARDS_HARPOON_WITH_BARB_LEFT_BESIDE_DOWNWARDS_HARPOON_WITH_BARB_RIGHT
    LEFTWARDS_HARPOON_WITH_BARB_UP_ABOVE_RIGHTWARDS_HARPOON_WITH_BARB_UP
    eDOWN_ABOVE_RIGHTWARDS_HARPOON_WITH_BARB_DOWN
    RIGHTWARDS_HARPOON_WITH_BARB_UP_ABOVE_LEFTWARDS_HARPOON_WITH_BARB_UP
    eDOWN_ABOVE_LEFTWARDS_HARPOON_WITH_BARB_DOWN LEFTWARDS_HARPOON_WITH_BARB_UP_ABOVE_LONG_DASH
    ecDOWN_BELOW_ acRIGHTWARDS_HARPOON_WITH_BARB_UP_ABOVE_ ecDOWN_BELOW_
    UPWARDS_HARPOON_WITH_BARB_LEFT_BESIDE_DOWNWARDS_HARPOON_WITH_BARB_RIGHT
    aeDOWNWARDS_HARPOON_WITH_BARB_LEFT_BESIDE_UPWARDS_ RIGHT_DOUBLE_ARROW_WITH_ROUNDED_HEAD
    EQUALS_SIGN_ABOVE_RIGHTWARDS_ARROW adTILDE_OPERATOR_ LEFTWARDS_ARROW_ABOVE_TILDE_OPERATOR
    aeRIGHTWARDS_ dALMOST_EQUAL_TO LESS-THAN_ABOVE_LEFTWARDS_ARROW LEFTWARDS_ARROW_THROUGH_LESS-THAN
    GREATER-THAN_ABOVE_RIGHTWARDS_ARROW adSUBSET_ LEFTWARDS_ARROW_THROUGH_SUBSET
    SUPERSET_ABOVE_LEFTWARDS_ARROW LEFT_FISH_TAIL acRIGHT_ acUP_ acDOWN_
    TRIPLE_VERTICAL_BAR_DELIMITER Z_NOTATION_SPOT cTYPE_COLON LEFT_WHITE_CURLY_BRACKET adRIGHT_
    LEFT_WHITE_PARENTHESIS acRIGHT_ Z_NOTATION_LEFT_IMAGE_BRACKET ccRIGHT_ cbLEFT_BINDING_ ccRIGHT_
    LEFT_SQUARE_BRACKET_WITH_UNDERBAR aeRIGHT_ LEFT_SQUARE_BRACKET_WITH_TICK_IN_TOP_CORNER
    abRIGHT_SQUARE_BRACKET_WITH_TICK_IN_BOTTOM_ ahLEFT_ abRIGHT_SQUARE_BRACKET_WITH_TICK_IN_TOP_
    LEFT_ANGLE_BRACKET_WITH_DOT aeRIGHT_ LEFT_ARC_LESS-THAN_BRACKET acRIGHT_ARC_GREATER-
    aeDOUBLE_LEFT_ bcRIGHT_ARC_LESS- abLEFT_BLACK_TORTOISE_SHELL_ aeRIGHT_ DOTTED_FENCE
    VERTICAL_ZIGZAG_LINE MEASURED_ANGLE_OPENING_LEFT RIGHT_ANGLE_VARIANT_WITH_SQUARE
    MEASURED_RIGHT_ANGLE_WITH_DOT ANGLE_WITH_S_INSIDE ACUTE_ANGLE SPHERICAL_ANGLE_OPENING_LEFT dUP
    TURNED_ANGLE abREVERSED_ ANGLE_WITH_UNDERBAR adREVERSED_ OBLIQUE_ANGLE_OPENING_UP dDOWN
    MEASURED_ANGLE_WITH_OPEN_ARM_ENDING_IN_ARROW_POINTING_UP_AND_RIGHT lLEFT jDOWN_AND_RIGHT lLEFT
    jRIGHT_AND_UP jcLEFT_ jRIGHT_AND_DOWN jcLEFT_ REVERSED_EMPTY_SET EMPTY_SET_WITH_OVERBAR
    dSMALL_CIRCLE_ABOVE dbRIGHT_ARROW_ dcLEFT_ CIRCLE_WITH_HORIZONTAL_BAR abCIRCLED_VERTICAL_
    bPARALLEL bREVERSE_SOLIDUS bPERPENDICULAR
    CIRCLE_DIVIDED_BY_HORIZONTAL_BAR_AND_TOP_HALF_DIVIDED_BY_VERTICAL_BAR bWITH_SUPERIMPOSED_X
    CIRCLED_ANTICLOCKWISE-ROTATED_DIVISION_SIGN UP_ARROW_THROUGH_CIRCLE CIRCLED_WHITE_BULLET bb
    bLESS-THAN bbGREATER- CIRCLE_WITH_SMALL_CIRCLE_TO_THE_RIGHT cdTWO_HORIZONTAL_STROKES_
    SQUARED_RISING_DIAGONAL_SLASH bcFALLING_ bASTERISK bSMALL_CIRCLE bSQUARE TWO_JOINED_SQUARES
    TRIANGLE_WITH_DOT_ABOVE cUNDERBAR S_IN_TRIANGLE TRIANGLE_WITH_SERIFS_AT_BOTTOM
    RIGHT_TRIANGLE_ABOVE_LEFT_TRIANGLE LEFT_TRIANGLE_BESIDE_VERTICAL_BAR
    VERTICAL_BAR_BESIDE_RIGHT_TRIANGLE BOWTIE_WITH_LEFT_HALF_BLACK ccRIGHT_ BLACK_BOWTIE
    TIMES_WITH_LEFT_HALF_BLACK ccRIGHT_ WHITE_HOURGLASS abBLACK_ LEFT_WIGGLY_FENCE acRIGHT_
    acLEFT_DOUBLE_ adRIGHT_ INCOMPLETE_INFINITY abTIE_OVER_ INFINITY_NEGATED_WITH_VERTICAL_BAR
    DOUBLE-ENDED_MULTIMAP SQUARE_WITH_CONTOURED_OUTLINE INCREASES_AS SHUFFLE_PRODUCT
    EQUALS_SIGN_AND_SLANTED_PARALLEL ePARALLEL_WITH_TILDE_ABOVE IDENTICAL_TO_AND_SLANTED_PARALLEL
    GLEICH_STARK THERMODYNAMIC DOWN-POINTING_TRIANGLE_WITH_LEFT_HALF_BLACK ecRIGHT_
    BLACK_DIAMOND_WITH_DOWN_ARROW bLOZENGE WHITE_CIRCLE_WITH_DOWN_ARROW aeBLACK_
    ERROR-BARRED_WHITE_SQUARE cbBLACK_ cWHITE_DIAMOND cbBLACK_ cWHITE_CIRCLE cbBLACK_ RULE-DELAYED
    REVERSE_SOLIDUS_OPERATOR SOLIDUS_WITH_OVERBAR REVERSE_SOLIDUS_WITH_HORIZONTAL_STROKE BIG_SOLIDUS
    bbREVERSE_ DOUBLE_PLUS abTRIPLE_ LEFT-POINTING_CURVED_ANGLE_BRACKET aeRIGHT- TINY MINY
    N-ARY_CIRCLED_DOT_OPERATOR dbPLUS_ dbTIMES_ cUNION_OPERATOR_WITH_DOT fPLUS
    cSQUARE_INTERSECTION_OPERATOR dbUNION_ abTWO_LOGICAL_AND_ cbOR_ abN-ARY_TIMES_ MODULO_TWO_SUM
    SUMMATION_WITH_INTEGRAL QUADRUPLE_INTEGRAL_OPERATOR FINITE_PART_INTEGRAL
    INTEGRAL_WITH_DOUBLE_STROKE bAVERAGE_WITH_SLASH CIRCULATION_FUNCTION ANTICLOCKWISE_INTEGRATION
    LINE_INTEGRATION_WITH_RECTANGULAR_PATH_AROUND_POLE ddSEMICIRCULAR_ cbNOT_INCLUDING_THE_
    INTEGRAL_AROUND_A_POINT_OPERATOR abQUATERNION_INTEGRAL_ INTEGRAL_WITH_LEFTWARDS_ARROW_WITH_HOOK
    cTIMES_SIGN cINTERSECTION cUNION cOVERBAR cUNDERBAR JOIN LARGE_LEFT_TRIANGLE_OPERATOR
    Z_NOTATION_SCHEMA_COMPOSITION dPIPING dPROJECTION PLUS_SIGN_WITH_SMALL_CIRCLE_ABOVE
    dbCIRCUMFLEX_ACCENT_ dbTILDE_ dDOT_BELOW dbTILDE_ dSUBSCRIPT_TWO dBLACK_TRIANGLE
    MINUS_SIGN_WITH_COMMA_ABOVE dDOT_BELOW dFALLING_DOTS dbRISING_ PLUS_SIGN_IN_LEFT_HALF_CIRCLE
    dcRIGHT_ VECTOR_OR_CROSS_PRODUCT MULTIPLICATION_SIGN_WITH_DOT_ABOVE dUNDERBAR
    SEMIDIRECT_PRODUCT_WITH_BOTTOM_CLOSED SMASH_PRODUCT MULTIPLICATION_SIGN_IN_LEFT_HALF_CIRCLE
    dcRIGHT_ CIRCLED_MULTIPLICATION_SIGN_WITH_CIRCUMFLEX_ACCENT MULTIPLICATION_SIGN_IN_DOUBLE_CIRCLE
    CIRCLED_DIVISION_SIGN PLUS_SIGN_IN_TRIANGLE adMINUS_ adMULTIPLICATION_ INTERIOR_PRODUCT
    acRIGHTHAND_ Z_NOTATION_RELATIONAL_COMPOSITION AMALGAMATION_OR_COPRODUCT INTERSECTION_WITH_DOT
    UNION_WITH_MINUS_SIGN cOVERBAR acINTERSECTION_ cLOGICAL_AND UNION_WITH_LOGICAL_OR
    bABOVE_INTERSECTION INTERSECTION_ABOVE_UNION UNION_ABOVE_BAR_ABOVE_INTERSECTION
    INTERSECTION_ABOVE_BAR_ABOVE_UNION abUNION_BESIDE_AND_JOINED_WITH_
    INTERSECTION_BESIDE_AND_JOINED_WITH_INTERSECTION CLOSED_UNION_WITH_SERIFS bcINTERSECTION_
    DOUBLE_SQUARE_INTERSECTION cUNION CLOSED_UNION_WITH_SERIFS_AND_SMASH_PRODUCT
    LOGICAL_AND_WITH_DOT_ABOVE bdOR_ DOUBLE_LOGICAL_AND cOR TWO_INTERSECTING_LOGICAL_AND dOR
    abSLOPING_LARGE_ cAND abLOGICAL_OR_OVERLAPPING_LOGICAL_ bAND_WITH_MIDDLE_STEM bdOR_
    bAND_WITH_HORIZONTAL_DASH bdOR_ bAND_WITH_DOUBLE_OVERBAR dUNDERBAR dbDOUBLE_ abSMALL_VEE_WITH_
    LOGICAL_OR_WITH_DOUBLE_OVERBAR eUNDERBAR Z_NOTATION_DOMAIN_ANTIRESTRICTION cbRANGE_
    EQUALS_SIGN_WITH_DOT_BELOW IDENTICAL_WITH_DOT_ABOVE
    TRIPLE_HORIZONTAL_BAR_WITH_DOUBLE_VERTICAL_STROKE ecTRIPLE_ TILDE_OPERATOR_WITH_DOT_ABOVE
    dRISING_DOTS SIMILAR_MINUS_SIMILAR CONGRUENT_WITH_DOT_ABOVE EQUALS_WITH_ASTERISK
    ALMOST_EQUAL_TO_WITH_CIRCUMFLEX_ACCENT APPROXIMATELY_EQUAL_OR_EQUAL_TO
    EQUALS_SIGN_ABOVE_PLUS_SIGN abPLUS_SIGN_ABOVE_EQUALS_ EQUALS_SIGN_ABOVE_TILDE_OPERATOR
    DOUBLE_COLON_EQUAL TWO_CONSECUTIVE_EQUALS_SIGNS adTHREE_
    EQUALS_SIGN_WITH_TWO_DOTS_ABOVE_AND_TWO_DOTS_BELOW EQUIVALENT_WITH_FOUR_DOTS_ABOVE
    LESS-THAN_WITH_CIRCLE_INSIDE aeGREATER- LESS-THAN_WITH_QUESTION_MARK_ABOVE afGREATER-
    LESS-THAN_OR_SLANTED_EQUAL_TO afGREATER- LESS-THAN_OR_SLANTED_EQUAL_TO_WITH_DOT_INSIDE
    aiGREATER- LESS-THAN_OR_SLANTED_EQUAL_TO_WITH_DOT_ABOVE aiGREATER-
    LESS-THAN_OR_SLANTED_EQUAL_TO_WITH_DOT_ABOVE_RIGHT
    GREATER-THAN_OR_SLANTED_EQUAL_TO_WITH_DOT_ABOVE_LEFT LESS-THAN_OR_APPROXIMATE adGREATER-
    LESS-THAN_AND_SINGLE-LINE_NOT_EQUAL_TO ahGREATER- LESS-THAN_AND_NOT_APPROXIMATE aeGREATER-
    LESS-THAN_ABOVE_DOUBLE-LINE_EQUAL_ABOVE_GREATER-THAN
    abGREATER-THAN_ABOVE_DOUBLE-LINE_EQUAL_ABOVE_LESS- LESS-THAN_ABOVE_SIMILAR_OR_EQUAL afGREATER-
    LESS-THAN_ABOVE_SIMILAR_ABOVE_GREATER-THAN abGREATER-THAN_ABOVE_SIMILAR_ABOVE_LESS-
    LESS-THAN_ABOVE_GREATER-THAN_ABOVE_DOUBLE-LINE_EQUAL afGREATER-THAN_ABOVE_LESS-
    abLESS-THAN_ABOVE_SLANTED_EQUAL_ABOVE_GREATER-THAN_ABOVE_SLANTED_
    aeGREATER-THAN_ABOVE_SLANTED_EQUAL_ABOVE_LESS- SLANTED_EQUAL_TO_OR_LESS-THAN ebGREATER-
    eLESS-THAN_WITH_DOT_INSIDE eeGREATER- DOUBLE-LINE_EQUAL_TO_OR_LESS-THAN fbGREATER-
    cbSLANTED_EQUAL_TO_OR_LESS- gbGREATER- abSIMILAR_OR_LESS- cbGREATER-
    bABOVE_LESS-THAN_ABOVE_EQUALS_SIGN ceGREATER- DOUBLE_NESTED_LESS-THAN cbGREATER-
    cLESS-THAN_WITH_UNDERBAR GREATER-THAN_OVERLAPPING_LESS-THAN ccBESIDE_ LESS-THAN_CLOSED_BY_CURVE
    aeGREATER- LESS-THAN_CLOSED_BY_CURVE_ABOVE_SLANTED_EQUAL ahGREATER- SMALLER_THAN abLARGER_
    SMALLER_THAN_OR_EQUAL_TO aeLARGER_ EQUALS_SIGN_WITH_BUMPY_ABOVE
    PRECEDES_ABOVE_SINGLE-LINE_EQUALS_SIGN afSUCCEEDS_ PRECEDES_ABOVE_SINGLE-LINE_NOT_EQUAL_TO
    agSUCCEEDS_ PRECEDES_ABOVE_EQUALS_SIGN adSUCCEEDS_ PRECEDES_ABOVE_NOT_EQUAL_TO aeSUCCEEDS_
    acPRECEDES_ABOVE_ALMOST_ aeSUCCEEDS_ adPRECEDES_ABOVE_NOT_ afSUCCEEDS_ DOUBLE_PRECEDES bSUCCEEDS
    SUBSET_WITH_DOT acSUPERSET_ SUBSET_WITH_PLUS_SIGN_BELOW aeSUPERSET_
    acSUBSET_WITH_MULTIPLICATION_ aeSUPERSET_ SUBSET_OF_OR_EQUAL_TO_WITH_DOT_ABOVE ahSUPERSET_
    SUBSET_OF_ABOVE_EQUALS_SIGN aeSUPERSET_ SUBSET_OF_ABOVE_TILDE_OPERATOR aeSUPERSET_
    SUBSET_OF_ABOVE_ALMOST_EQUAL_TO afSUPERSET_ acSUBSET_OF_ABOVE_NOT_ afSUPERSET_
    SQUARE_LEFT_OPEN_BOX_OPERATOR bdRIGHT_ CLOSED_SUBSET bSUPERSET bSUBSET_OR_EQUAL_TO bdSUPERSET_
    SUBSET_ABOVE_SUPERSET SUPERSET_ABOVE_SUBSET acSUBSET_ SUPERSET_ABOVE_SUPERSET bBESIDE_SUBSET
    cbAND_JOINED_BY_DASH_WITH_ ELEMENT_OF_OPENING_DOWNWARDS PITCHFORK_WITH_TEE_TOP
    TRANSVERSAL_INTERSECTION FORKING NONFORKING SHORT_LEFT_TACK bbDOWN_ bbUP_ PERPENDICULAR_WITH_S
    VERTICAL_BAR_TRIPLE_RIGHT_TURNSTILE abDOUBLE_VERTICAL_BAR_LEFT_ acVERTICAL_BAR_DOUBLE_ afDOUBLE_
    LONG_DASH_FROM_LEFT_MEMBER_OF_DOUBLE_VERTICAL SHORT_DOWN_TACK_WITH_OVERBAR
    bUP_TACK_WITH_UNDERBAR dABOVE_SHORT_DOWN_TACK acDOUBLE_ bbUP_ bSTROKE_NOT_SIGN aeREVERSED_
    DOES_NOT_DIVIDE_WITH_REVERSED_NEGATION_SLASH VERTICAL_LINE_WITH_CIRCLE_ABOVE eBELOW adDOWN_TACK_
    PARALLEL_WITH_HORIZONTAL_STROKE cTILDE_OPERATOR TRIPLE_VERTICAL_BAR_BINARY_RELATION
    dWITH_HORIZONTAL_STROKE bCOLON_OPERATOR bNESTED_LESS-THAN cbGREATER-
    DOUBLE-LINE_SLANTED_LESS-THAN_OR_EQUAL_TO deGREATER- TRIPLE_SOLIDUS_BINARY_RELATION
    LARGE_TRIPLE_VERTICAL_BAR_OPERATOR abDOUBLE_SOLIDUS_ WHITE_VERTICAL_BAR adN-ARY_
    NORTH_EAST_WHITE_ARROW bcWEST_ acSOUTH_EAST_ bcWEST_ acLEFT_RIGHT_ abLEFTWARDS_BLACK_ acUPWARDS_
    acDOWNWARDS_ acNORTH_EAST_ bcWEST_ acSOUTH_EAST_ bcWEST_ acLEFT_RIGHT_ acUP_DOWN_
    RIGHTWARDS_ARROW_WITH_TIP_DOWNWARDS eUPWARDS LEFTWARDS_ARROW_WITH_TIP_DOWNWARDS eUPWARDS
    SQUARE_WITH_TOP_HALF_BLACK ccBOTTOM_ ccUPPER_RIGHT_DIAGONAL_ cdLOWER_LEFT_ acDIAMOND_WITH_LEFT_
    ccRIGHT_ ccTOP_ ccBOTTOM_ DOTTED_SQUARE abBLACK_LARGE_ acWHITE_ abBLACK_VERY_SMALL_ adWHITE_
    BLACK_PENTAGON abWHITE_ bHEXAGON abBLACK_ acHORIZONTAL_ BLACK_LARGE_CIRCLE bMEDIUM_DIAMOND
    acWHITE_ BLACK_MEDIUM_LOZENGE acWHITE_ BLACK_SMALL_DIAMOND cLOZENGE acWHITE_
    BLACK_HORIZONTAL_ELLIPSE acWHITE_ abBLACK_VERTICAL_ acWHITE_ LEFT_ARROW_WITH_SMALL_CIRCLE
    THREE_LEFTWARDS_ARROWS LEFT_ARROW_WITH_CIRCLED_PLUS LONG_LEFTWARDS_SQUIGGLE_ARROW
    LEFTWARDS_TWO-HEADED_ARROW_WITH_VERTICAL_STROKE fcDOUBLE_ eFROM_BAR dTRIPLE_DASH_ARROW
    bARROW_WITH_DOTTED_STEM dTAIL_WITH_VERTICAL_STROKE fcDOUBLE_ bTWO-HEADED_ARROW_WITH_TAIL
    fTAIL_WITH_VERTICAL_STROKE hcDOUBLE_ bARROW_THROUGH_X WAVE_ARROW_POINTING_DIRECTLY_LEFT
    EQUALS_SIGN_ABOVE_LEFTWARDS_ARROW adREVERSE_TILDE_OPERATOR_
    LEFTWARDS_ARROW_ABOVE_REVERSE_ALMOST_EQUAL_TO RIGHTWARDS_ARROW_THROUGH_GREATER-THAN dSUPERSET
    LEFTWARDS_QUADRUPLE_ARROW acRIGHTWARDS_ abREVERSE_TILDE_OPERATOR_ABOVE_RIGHTWARDS_
    RIGHTWARDS_ARROW_ABOVE_REVERSE_ALMOST_EQUAL_TO TILDE_OPERATOR_ABOVE_LEFTWARDS_ARROW
    LEFTWARDS_ARROW_ABOVE_ALMOST_EQUAL_TO dREVERSE_TILDE_OPERATOR afRIGHTWARDS_
    DOWNWARDS_TRIANGLE-HEADED_ZIGZAG_ARROW abSHORT_SLANTED_NORTH_ bbBACKSLANTED_SOUTH_
    WHITE_MEDIUM_STAR abBLACK_SMALL_ acWHITE_ BLACK_RIGHT-POINTING_PENTAGON adWHITE_
    HEAVY_LARGE_CIRCLE bOVAL_WITH_OVAL_INSIDE bbCIRCLE_WITH_CIRCLE_ bCIRCLE bCIRCLED_SALTIRE
    SLANTED_NORTH_ARROW_WITH_HOOKED_HEAD BACKSLANTED_SOUTH_ARROW_WITH_HOOKED_TAIL
    abSLANTED_NORTH_ARROW_WITH_HORIZONTAL_ aeBACKSLANTED_SOUTH_
    BENT_ARROW_POINTING_DOWNWARDS_THEN_NORTH_EAST ahSHORT_ LEFTWARDS_TRIANGLE-HEADED_ARROW
    adUPWARDS_ adRIGHTWARDS_ adDOWNWARDS_ adLEFT_RIGHT_ adUP_DOWN_ adNORTH_WEST_ bdEAST_ aeSOUTH_
    bdWEST_ abLEFTWARDS_TRIANGLE-HEADED_DASHED_ aeUPWARDS_ aeRIGHTWARDS_ aeDOWNWARDS_
    abCLOCKWISE_TRIANGLE-HEADED_OPEN_CIRCLE_ afANTICLOCKWISE_ LEFTWARDS_TRIANGLE-HEADED_ARROW_TO_BAR
    afUPWARDS_ afRIGHTWARDS_ afDOWNWARDS_ 2B76=afNORTH_WEST_ bfEAST_ agSOUTH_ bfWEST_
    LEFTWARDS_TRIANGLE-HEADED_ARROW_WITH_DOUBLE_HORIZONTAL_STROKE ahUPWARDS_ ahRIGHTWARDS_
    ahDOWNWARDS_ HORIZONTAL_TAB_KEY acVERTICAL_
    LEFTWARDS_TRIANGLE-HEADED_ARROW_OVER_RIGHTWARDS_TRIANGLE-HEADED_ARROW
    adUPWARDS_TRIANGLE-HEADED_ARROW_LEFTWARDS_OF_DOWNWARDS_
    adRIGHTWARDS_TRIANGLE-HEADED_ARROW_OVER_LEFTWARDS_
    adDOWNWARDS_TRIANGLE-HEADED_ARROW_LEFTWARDS_OF_UPWARDS_ LEFTWARDS_TRIANGLE-HEADED_PAIRED_ARROWS
    aeUPWARDS_ aeRIGHTWARDS_ aeDOWNWARDS_ LEFTWARDS_BLACK_CIRCLED_WHITE_ARROW aeUPWARDS_
    aeRIGHTWARDS_ aeDOWNWARDS_ abANTICLOCKWISE_TRIANGLE-HEADED_RIGHT_U-SHAPED_ ddBOTTOM_ ddLEFT_
    ddTOP_ RETURN_LEFT bRIGHT NEWLINE_LEFT bRIGHT FOUR_CORNER_ARROWS_CIRCLING_ANTICLOCKWISE
    RIGHTWARDS_BLACK_ARROW 2B97=SYMBOL_FOR_TYPE_A_ELECTRONICS
    THREE-D_TOP-LIGHTED_LEFTWARDS_EQUILATERAL_ARROWHEAD ccRIGHT-LIGHTED_UPWARDS_
    ccTOP-LIGHTED_RIGHTWARDS_ ccLEFT-LIGHTED_DOWNWARDS_ acBLACK_LEFTWARDS_ bcUPWARDS_ bcRIGHTWARDS_
    bcDOWNWARDS_ DOWNWARDS_TRIANGLE-HEADED_ARROW_WITH_LONG_TIP_LEFTWARDS hRIGHTWARDS
    UPWARDS_TRIANGLE-HEADED_ARROW_WITH_LONG_TIP_LEFTWARDS hRIGHTWARDS
    LEFTWARDS_TRIANGLE-HEADED_ARROW_WITH_LONG_TIP_UPWARDS ahRIGHTWARDS_
    LEFTWARDS_TRIANGLE-HEADED_ARROW_WITH_LONG_TIP_DOWNWARDS ahRIGHTWARDS_
    BLACK_CURVED_DOWNWARDS_AND_LEFTWARDS_ARROW ebRIGHTWARDS_ cbUPWARDS_AND_LEFTWARDS_ ebRIGHTWARDS_
    cbLEFTWARDS_AND_UPWARDS_ cdRIGHTWARDS_ cbLEFTWARDS_AND_DOWNWARDS_ cdRIGHTWARDS_
    RIBBON_ARROW_DOWN_LEFT dRIGHT cUP_LEFT dRIGHT cLEFT_UP cbRIGHT_ cLEFT_DOWN cbRIGHT_
    UPWARDS_WHITE_ARROW_FROM_BAR_WITH_HORIZONTAL_BAR UP_ARROWHEAD_IN_A_RECTANGLE_BOX
    OVERLAPPING_WHITE_SQUARES cbAND_BLACK_ bc BALLOT_BOX_WITH_LIGHT_X abCIRCLED_ bbBOLD_
    BLACK_SQUARE_CENTRED bbDIAMOND_ TURNED_BLACK_PENTAGON HORIZONTAL_BLACK_OCTAGON ac
    bMEDIUM_UP-POINTING_TRIANGLE_CENTRED cdDOWN- cdLEFT- cdRIGHT- NEPTUNE_FORM_TWO
    TOP_HALF_BLACK_CIRCLE adBOTTOM_ LIGHT_FOUR_POINTED_BLACK_CUSP afROTATED_ abWHITE_FOUR_POINTED_
    aeROTATED_ SQUARE_POSITION_INDICATOR UNCERTAINTY_SIGN GROUP_MARK PLUTO_FORM_TWO cTHREE cFOUR
    cFIVE TRANSPLUTO PROSERPINA ASTRAEA HYGIEA PHOLUS NESSUS WHITE_MOON_SELENA
    BLACK_DIAMOND_ON_CROSS TRUE_LIGHT_MOON_ARTA CUPIDO HADES ZEUS KRONOS APOLLON ADMETOS VULCANUS
    POSEIDON LEFT_HALF_BLACK_STAR adRIGHT_ STAR_WITH_LEFT_HALF_BLACK ccRIGHT_
    LEFTWARDS_TWO-HEADED_ARROW_WITH_TRIANGLE_ARROWHEADS agUPWARDS_ agRIGHTWARDS_ agDOWNWARDS_
    ERIS_FORM_ONE cTWO SEDNA RUSSIAN_ASTROLOGICAL_SYMBOL_VIGINTILE dNOVILE dQUINTILE dBINOVILE
    dSENTAGON dTREDECILE EQUALS_SIGN_WITH_INFINITY_BELOW UNITED_SYMBOL abSEPARATED_ abDOUBLED_
    abPASSED_ REVERSED_RIGHT_ANGLE HELLSCHREIBER_PAUSE_SYMBOL GLAGOLITIC_CAPITAL_LETTER_AZU dBUKY
    dVEDE dGLAGOLI dDOBRO dYESTU dZHIVETE dDZELO dZEMLJA dIZHE dbINITIAL_ dI dDJERVI dKAKO dLJUDIJE
    dMYSLITE dNASHI dONU dPOKOJI dRITSI dSLOVO dTVRIDO dUKU dFRITU dHERU dOTU dPE dSHTA dTSI dCHRIVI
    dSHA dYERU dYERI dYATI dSPIDERY_HA dYU dSMALL_YUS eYUS_WITH_TAIL dYO dIOTATED_SMALL_YUS dbBIG_
    dcIOTATED_ dFITA dIZHITSA dSHTAPIC dTROKUTASTI_A dLATINATE_MYSLITE dCAUDATE_CHRIVI
    bSMALL_LETTER_AZU dBUKY dVEDE dGLAGOLI dDOBRO dYESTU dZHIVETE dDZELO dZEMLJA dIZHE dbINITIAL_ dI
    dDJERVI dKAKO dLJUDIJE dMYSLITE dNASHI dONU dPOKOJI dRITSI dSLOVO dTVRIDO dUKU dFRITU dHERU dOTU
    dPE dSHTA dTSI dCHRIVI dSHA dYERU dYERI dYATI dSPIDERY_HA dYU dSMALL_YUS eYUS_WITH_TAIL dYO
    dIOTATED_SMALL_YUS dbBIG_ dcIOTATED_ dFITA dIZHITSA dSHTAPIC dTROKUTASTI_A dLATINATE_MYSLITE
    dCAUDATE_CHRIVI LATIN_CAPITAL_LETTER_L_WITH_DOUBLE_BAR bfSMALL_
    bCAPITAL_LETTER_L_WITH_MIDDLE_TILDE dP_WITH_STROKE dR_WITH_TAIL bSMALL_LETTER_A_WITH_STROKE
    dbT_WITH_DIAGONAL_ bCAPITAL_LETTER_H_WITH_DESCENDER beSMALL_ bcCAPITAL_LETTER_K_ beSMALL_
    bcCAPITAL_LETTER_Z_ beSMALL_ bCAPITAL_LETTER_ALPHA dM_WITH_HOOK dTURNED_A eALPHA
    bSMALL_LETTER_V_WITH_RIGHT_HOOK bbCAPITAL_LETTER_W_WITH_ beSMALL_ dV_WITH_CURL
    bCAPITAL_LETTER_HALF_H bdSMALL_ dTAILLESS_PHI dE_WITH_NOTCH dTURNED_R_WITH_TAIL
    dO_WITH_LOW_RING_INSIDE bLETTER_SMALL_CAPITAL_TURNED_E bSUBSCRIPT_SMALL_LETTER_J
    MODIFIER_LETTER_CAPITAL_V LATIN_CAPITAL_LETTER_S_WITH_SWASH_TAIL ddZ_ COPTIC_CAPITAL_LETTER_ALFA
    bcSMALL_ bCAPITAL_LETTER_VIDA bcSMALL_ bCAPITAL_LETTER_GAMMA bcSMALL_ bCAPITAL_LETTER_DALDA
    bcSMALL_ bCAPITAL_LETTER_EIE bcSMALL_ bCAPITAL_LETTER_SOU bcSMALL_ bCAPITAL_LETTER_ZATA bcSMALL_
    bCAPITAL_LETTER_HATE bcSMALL_ bCAPITAL_LETTER_THETHE bcSMALL_ bCAPITAL_LETTER_IAUDA bcSMALL_
    bCAPITAL_LETTER_KAPA bcSMALL_ bCAPITAL_LETTER_LAULA bcSMALL_ bCAPITAL_LETTER_MI bcSMALL_
    bCAPITAL_LETTER_NI bcSMALL_ bCAPITAL_LETTER_KSI bcSMALL_ bCAPITAL_LETTER_O bcSMALL_
    bCAPITAL_LETTER_PI bcSMALL_ bCAPITAL_LETTER_RO bcSMALL_ bCAPITAL_LETTER_SIMA bcSMALL_
    bCAPITAL_LETTER_TAU bcSMALL_ bCAPITAL_LETTER_UA bcSMALL_ bCAPITAL_LETTER_FI bcSMALL_
    bCAPITAL_LETTER_KHI bcSMALL_ bCAPITAL_LETTER_PSI bcSMALL_ bCAPITAL_LETTER_OOU bcSMALL_
    bCAPITAL_LETTER_DIALECT-P_ALEF beSMALL_ bCAPITAL_LETTER_OLD_COPTIC_AIN beSMALL_
    bCAPITAL_LETTER_CRYPTOGRAMMIC_EIE bdSMALL_ bCAPITAL_LETTER_DIALECT-P_KAPA beSMALL_
    bCAPITAL_LETTER_DIALECT-P_NI beSMALL_ bbCAPITAL_LETTER_CRYPTOGRAMMIC_ bdSMALL_
    bCAPITAL_LETTER_OLD_COPTIC_OOU beSMALL_ bCAPITAL_LETTER_SAMPI bcSMALL_
    bCAPITAL_LETTER_CROSSED_SHEI bdSMALL_ bbCAPITAL_LETTER_OLD_COPTIC_ beSMALL_
    bCAPITAL_LETTER_OLD_COPTIC_ESH beSMALL_ bCAPITAL_LETTER_AKHMIMIC_KHEI bdSMALL_
    bCAPITAL_LETTER_DIALECT-P_HORI beSMALL_ bbCAPITAL_LETTER_OLD_COPTIC_ beSMALL_
    bCAPITAL_LETTER_OLD_COPTIC_HA beSMALL_ bbCAPITAL_LETTER_L-SHAPED_ beSMALL_
    bCAPITAL_LETTER_OLD_COPTIC_HEI beSMALL_ bCAPITAL_LETTER_OLD_COPTIC_HAT beSMALL_
    bCAPITAL_LETTER_OLD_COPTIC_GANGIA beSMALL_ bCAPITAL_LETTER_OLD_COPTIC_DJA beSMALL_
    bCAPITAL_LETTER_OLD_COPTIC_SHIMA beSMALL_ bbCAPITAL_LETTER_OLD_NUBIAN_ beSMALL_
    bCAPITAL_LETTER_OLD_NUBIAN_NGI beSMALL_ bCAPITAL_LETTER_OLD_NUBIAN_NYI beSMALL_
    bCAPITAL_LETTER_OLD_NUBIAN_WAU beSMALL_ bSYMBOL_KAI cMI_RO cbPI_ cSTAUROS cTAU_RO cbKHI_
    cSHIMA_SIMA bCAPITAL_LETTER_CRYPTOGRAMMIC_SHEI bdSMALL_ bCAPITAL_LETTER_CRYPTOGRAMMIC_GANGIA
    bdSMALL_ bCOMBINING_NI_ABOVE cSPIRITUS_ASPER dLENIS bCAPITAL_LETTER_BOHAIRIC_KHEI bdSMALL_
    2CF9=bOLD_NUBIAN_FULL_STOP dDIRECT_QUESTION_MARK dcINDIRECT_ dVERSE_DIVIDER bFRACTION_ONE_HALF
    bFULL_STOP bMORPHOLOGICAL_DIVIDER GEORGIAN_SMALL_LETTER_AN dBAN dGAN dDON dEN dVIN dZEN dTAN dIN
    dKAN dLAS dMAN dNAR dON dPAR dZHAR dRAE dSAN dTAR dUN dPHAR dKHAR dGHAN dQAR dSHIN dCHIN dCAN
    dJIL dCIL dCHAR dXAN dJHAN dHAE dHE dHIE dWE dHAR dHOE 2D27=dYN 2D2D=dAEN
    2D30=TIFINAGH_LETTER_YA cYAB cYABH cYAG cYAGHH cBERBER_ACADEMY_YAJ cb cYAD cYADH cYADD cYADDH
    cYEY cYAF cYAK cbTUAREG_ cYAKHH cYAH cbBERBER_ACADEMY_ cbTUAREG_ cYAHH cYAA cYAKH cbTUAREG_ cYAQ
    cbTUAREG_ cYI cYAZH cbAHAGGAR_ cbTUAREG_ cYAL cYAM cYAN cTUAREG_YAGN dYANG cYAP cYU cYAR cYARR
    cYAGH cbTUAREG_ cbAYER_ cYAS cYASS cYASH cYAT cYATH cYACH cYATT cYAV cYAW cYAY cYAZ
    cbTAWELLEMET_ cYAZZ cYE cYO 2D6F=bMODIFIER_LETTER_LABIALIZATION_MARK bbSEPARATOR_
    2D7F=bCONSONANT_JOINER ETHIOPIC_SYLLABLE_LOA cMOA cROA cSOA cSHOA cBOA cTOA cCOA cNOA cNYOA
    cGLOTTAL_OA cZOA cDOA cDDOA cJOA cTHOA cCHOA cPHOA cPOA cGGWA cGGWI cGGWEE cGGWE 2DA0=cSSA cSSU
    cSSI cSSAA cSSEE cSSE cSSO 2DA8=cCCA cCCU cCCI cCCAA cCCEE cCCE cCCO 2DB0=cZZA cZZU cZZI cZZAA
    cZZEE cZZE cZZO 2DB8=cCCHA cCCHU cCCHI cCCHAA cCCHEE cCCHE cCCHO 2DC0=cQYA cQYU cQYI cQYAA cQYEE
    cQYE cQYO 2DC8=cKYA cKYU cKYI cKYAA cKYEE cKYE cKYO 2DD0=cXYA cXYU cXYI cXYAA cXYEE cXYE cXYO
    2DD8=cGYA cGYU cGYI cGYAA cGYEE cGYE cGYO 2DE0=COMBINING_CYRILLIC_LETTER_BE dVE dGHE dDE dZHE
    dZE dKA dEL dEM dEN dO dPE dER dES dTE dHA dTSE dCHE dSHA dSHCHA dFITA dES-TE dA dIE dDJERV
    dMONOGRAPH_UK dYAT dYU dIOTIFIED_A dLITTLE_YUS dbBIG_ dcIOTIFIED_
    RIGHT_ANGLE_SUBSTITUTION_MARKER ccDOTTED_ LEFT_SUBSTITUTION_BRACKET acRIGHT_ acLEFT_DOTTED_
    adRIGHT_ RAISED_INTERPOLATION_MARKER bcDOTTED_ abDOTTED_TRANSPOSITION_
    LEFT_TRANSPOSITION_BRACKET acRIGHT_ RAISED_SQUARE LEFT_RAISED_OMISSION_BRACKET adRIGHT_
    EDITORIAL_CORONIS PARAGRAPHOS abFORKED_ acREVERSED_ HYPODIASTOLE DOTTED_OBELOS DOWNWARDS_ANCORA
    abUPWARDS_ DOTTED_RIGHT-POINTING_ANGLE DOUBLE_OBLIQUE_HYPHEN INVERTED_INTERROBANG PALM_BRANCH
    HYPHEN_WITH_DIAERESIS TILDE_WITH_RING_ABOVE LEFT_LOW_PARAPHRASE_BRACKET adRIGHT_
    TILDE_WITH_DOT_ABOVE dBELOW LEFT_VERTICAL_BAR_WITH_QUILL aeRIGHT_ TOP_LEFT_HALF_BRACKET bcRIGHT_
    acBOTTOM_LEFT_ bcRIGHT_ abLEFT_SIDEWAYS_U_ adRIGHT_ LEFT_DOUBLE_PARENTHESIS acRIGHT_
    TWO_DOTS_OVER_ONE_DOT_PUNCTUATION abONE_DOT_OVER_TWO_DOTS_ abSQUARED_FOUR_DOT_ FIVE_DOT_MARK
    abREVERSED_QUESTION_ VERTICAL_TILDE RING_POINT WORD_SEPARATOR_MIDDLE_DOT TURNED_COMMA RAISED_DOT
    bCOMMA TURNED_SEMICOLON DAGGER_WITH_LEFT_GUARD cbRIGHT_ TURNED_DAGGER TOP_HALF_SECTION_SIGN
    TWO-EM_DASH acTHREE- STENOGRAPHIC_FULL_STOP VERTICAL_SIX_DOTS WIGGLY_VERTICAL_LINE CAPITULUM
    DOUBLE_HYPHEN REVERSED_COMMA DOUBLE_LOW-REVERSED-9_QUOTATION_MARK DASH_WITH_LEFT_UPTURN
    DOUBLE_SUSPENSION_MARK INVERTED_LOW_KAVYKA cKAVYKA_WITH_KAVYKA_ABOVE LOW_KAVYKA bKAVYKA_WITH_DOT
    DOUBLE_STACKED_COMMA DOTTED_SOLIDUS TRIPLE_DAGGER MEDIEVAL_COMMA PARAGRAPHUS_MARK
    abPUNCTUS_ELEVATUS_ CORNISH_VERSE_DIVIDER CROSS_PATTY_WITH_RIGHT_CROSSBAR dbLEFT_
    TIRONIAN_SIGN_CAPITAL_ET MEDIEVAL_EXCLAMATION_MARK bbQUESTION_ LEFT_SQUARE_BRACKET_WITH_STROKE
    aeRIGHT_ abLEFT_SQUARE_BRACKET_WITH_DOUBLE_ afRIGHT_ TOP_HALF_LEFT_PARENTHESIS cbRIGHT_
    abBOTTOM_HALF_LEFT_ cbRIGHT_ OBLIQUE_HYPHEN 2E80=CJK_RADICAL_REPEAT cCLIFF cSECOND_ONE dTWO
    dTHREE cPERSON cBOX cTABLE cKNIFE_ONE dTWO cDIVINATION cSEAL cSMALL_ONE dTWO cLAME_ONE dTWO
    dTHREE dFOUR cSNAKE cTHREAD cSNOUT_ONE dTWO cHEART_ONE dTWO cHAND cRAP 2E9B=cCHOKE cSUN cMOON
    cDEATH cMOTHER cCIVILIAN cWATER_ONE dTWO cFIRE cPAW_ONE dTWO cSIMPLIFIED_HALF_TREE_TRUNK cCOW
    cDOG cJADE cBOLT_OF_CLOTH cEYE cSPIRIT_ONE dTWO cBAMBOO cSILK cbC-SIMPLIFIED_ cNET_ONE dTWO
    dTHREE dFOUR cMESH cSHEEP cRAM cEWE cOLD cBRUSH_ONE dTWO cMEAT cMORTAR cGRASS_ONE dTWO dTHREE
    cTIGER cCLOTHES cWEST_ONE dTWO cC-SIMPLIFIED_SEE cSIMPLIFIED_HORN cb cC-SIMPLIFIED_SPEECH eSHELL
    cFOOT cC-SIMPLIFIED_CART cSIMPLIFIED_WALK cWALK_ONE dTWO cCITY cC-SIMPLIFIED_GOLD cLONG_ONE dTWO
    cC-SIMPLIFIED_LONG eGATE cMOUND_ONE dTWO cRAIN cBLUE cC-SIMPLIFIED_TANNED_LEATHER eLEAF eWIND
    eFLY cEAT_ONE dTWO dTHREE cC-SIMPLIFIED_EAT cHEAD cC-SIMPLIFIED_HORSE cBONE cGHOST
    cC-SIMPLIFIED_FISH eBIRD eSALT cSIMPLIFIED_WHEAT dYELLOW cC-SIMPLIFIED_FROG cJ-SIMPLIFIED_EVEN
    ccC- cJ-SIMPLIFIED_TOOTH ccC- cJ-SIMPLIFIED_DRAGON ccC- cTURTLE cbJ-SIMPLIFIED_ ccC-
    2F00=KANGXI_RADICAL_ONE cLINE cDOT cSLASH cSECOND cHOOK cTWO cLID cMAN cLEGS cENTER cEIGHT
    cDOWN_BOX cCOVER cICE cTABLE cOPEN_BOX cKNIFE cPOWER cWRAP cSPOON cRIGHT_OPEN_BOX
    cHIDING_ENCLOSURE cTEN cDIVINATION cSEAL cCLIFF cPRIVATE cAGAIN cMOUTH cENCLOSURE cEARTH
    cSCHOLAR cGO cGO_SLOWLY cEVENING cBIG cWOMAN cCHILD cROOF cINCH cSMALL cLAME cCORPSE cSPROUT
    cMOUNTAIN cRIVER cWORK cONESELF cTURBAN cDRY cSHORT_THREAD cDOTTED_CLIFF cLONG_STRIDE cTWO_HANDS
    cSHOOT cBOW cSNOUT cBRISTLE cSTEP cHEART cHALBERD cDOOR cHAND cBRANCH cRAP cSCRIPT cDIPPER cAXE
    cSQUARE cNOT cSUN cSAY cMOON cTREE cLACK cSTOP cDEATH cWEAPON cDO_NOT cCOMPARE cFUR cCLAN cSTEAM
    cWATER cFIRE cCLAW cFATHER cDOUBLE_X cHALF_TREE_TRUNK cSLICE cFANG cCOW cDOG cPROFOUND cJADE
    cMELON cTILE cSWEET cLIFE cUSE cFIELD cBOLT_OF_CLOTH cSICKNESS cDOTTED_TENT cWHITE cSKIN cDISH
    cEYE cSPEAR cARROW cSTONE cSPIRIT cTRACK cGRAIN cCAVE cSTAND cBAMBOO cRICE cSILK cJAR cNET
    cSHEEP cFEATHER cOLD cAND cPLOW cEAR cBRUSH cMEAT cMINISTER cSELF cARRIVE cMORTAR cTONGUE
    cOPPOSE cBOAT cSTOPPING cCOLOR cGRASS cTIGER cINSECT cBLOOD cWALK_ENCLOSURE cCLOTHES cWEST cSEE
    cHORN cSPEECH cVALLEY cBEAN cPIG cBADGER cSHELL cRED cRUN cFOOT cBODY cCART cBITTER cMORNING
    cWALK cCITY cWINE cDISTINGUISH cVILLAGE cGOLD cLONG cGATE cMOUND cSLAVE cSHORT_TAILED_BIRD cRAIN
    cBLUE cWRONG cFACE cLEATHER cbTANNED_ cLEEK cSOUND cLEAF cWIND cFLY cEAT cHEAD cFRAGRANT cHORSE
    cBONE cTALL cHAIR cFIGHT cSACRIFICIAL_WINE cCAULDRON cGHOST cFISH cBIRD cSALT cDEER cWHEAT cHEMP
    cYELLOW cMILLET cBLACK cEMBROIDERY cFROG cTRIPOD cDRUM cRAT cNOSE cEVEN cTOOTH cDRAGON cTURTLE
    cFLUTE 2FF0=IDEOGRAPHIC_DESCRIPTION_CHARACTER_LEFT_TO_RIGHT dABOVE_TO_BELOW
    dLEFT_TO_MIDDLE_AND_RIGHT dABOVE_TO_MIDDLE_AND_BELOW dFULL_SURROUND dSURROUND_FROM_ABOVE fBELOW
    fLEFT fbUPPER_ gRIGHT fLOWER_LEFT dOVERLAID"

end KarelLab.Text.Unicode
