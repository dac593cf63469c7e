/-
  Inlay.Text.NameTable.Symbols
  ────────────────────────────────
  **NAMES OF CHARACTERS.**

  The Unicode 14 names of the punctuation and the symbols from U+2000 to U+2FFF, in the form that
  `Inlay.Text.CharacterName` reads.
-/

namespace Inlay.Text

/-- The names of the punctuation and the symbols from U+2000 to U+2FFF. -/
def symbolsNames : String :=
  String.join
    ["=2000aEN QUADbM QUADbN SPACEbM SPACEaTHREE-PER-EM SPACEaFOUR-PER-EM SPACEaSIX-PER-EM SPACE",
     "aFIGURE SPACEaPUNCTUATION SPACEaTHIN SPACEaHAIR SPACEaZERO WIDTH SPACElNON-JOINERlJOINER",
     "aLEFT-TO-RIGHT MARKaRIGHT-TO-LEFT MARKaHYPHENaNON-BREAKING HYPHENaFIGURE DASHaEN DASHbM DASH",
     "aHORIZONTAL BARaDOUBLE VERTICAL LINEhLOW LINEaLEFT SINGLE QUOTATION MARK",
     "aRIGHT SINGLE QUOTATION MARKaSINGLE LOW-9 QUOTATION MARKhHIGH-REVERSED-9 QUOTATION MARK",
     "aLEFT DOUBLE QUOTATION MARKaRIGHT DOUBLE QUOTATION MARKaDOUBLE LOW-9 QUOTATION MARK",
     "hHIGH-REVERSED-9 QUOTATION MARKbAGGERbOUBLE DAGGERaBULLETaTRIANGULAR BULLETaONE DOT LEADER",
     "aTWO DOT LEADERaHORIZONTAL ELLIPSISbYPHENATION POINTaLINE SEPARATORaPARAGRAPH SEPARATOR",
     "aLEFT-TO-RIGHT EMBEDDINGaRIGHT-TO-LEFT EMBEDDINGaPOP DIRECTIONAL FORMATTING",
     "aLEFT-TO-RIGHT OVERRIDEaRIGHT-TO-LEFT OVERRIDEaNARROW NO-BREAK SPACEaPER MILLE SIGN",
     "eTEN THOUSAND SIGNbRIMEaDOUBLE PRIMEaTRIPLE PRIMEaREVERSED PRIMEjDOUBLE PRIMEjTRIPLE PRIME",
     "aCARETaSINGLE LEFT-POINTING ANGLE QUOTATION MARKhRIGHT-POINTING ANGLE QUOTATION MARK",
     "aREFERENCE MARKaDOUBLE EXCLAMATION MARKaINTERROBANGaOVERLINEaUNDERTIEaCHARACTER TIE",
     "bARET INSERTION POINTaASTERISMaHYPHEN BULLETaFRACTION SLASHaLEFT SQUARE BRACKET WITH QUILL",
     "aRIGHT SQUARE BRACKET WITH QUILLaDOUBLE QUESTION MARKaQUESTION EXCLAMATION MARK",
     "aEXCLAMATION QUESTION MARKaTIRONIAN SIGN ETaREVERSED PILCROW SIGNaBLACK LEFTWARDS BULLET",
     "gRIGHTWARDS BULLETaLOW ASTERISKaREVERSED SEMICOLONaCLOSE UPaTWO ASTERISKS ALIGNED VERTICALLY",
     "aCOMMERCIAL MINUS SIGNaSWUNG DASHaINVERTED UNDERTIEaFLOWER PUNCTUATION MARK",
     "aTHREE DOT PUNCTUATIONaQUADRUPLE PRIMEaFOUR DOT PUNCTUATIONbIVE DOT PUNCTUATION",
     "aTWO DOT PUNCTUATIONaFOUR DOT MARKaDOTTED CROSSaTRICOLONaVERTICAL FOUR DOTS",
     "aMEDIUM MATHEMATICAL SPACEaWORD JOINERaFUNCTION APPLICATIONaINVISIBLE TIMESkSEPARATORkPLUS",
     "=2066aLEFT-TO-RIGHT ISOLATEaRIGHT-TO-LEFT ISOLATEaFIRST STRONG ISOLATE",
     "aPOP DIRECTIONAL ISOLATEaINHIBIT SYMMETRIC SWAPPINGaACTIVATE SYMMETRIC SWAPPING",
     "aINHIBIT ARABIC FORM SHAPINGaACTIVATE ARABIC FORM SHAPINGaNATIONAL DIGIT SHAPES",
     "bOMINAL DIGIT SHAPESaSUPERSCRIPT ZEROmLATIN SMALL LETTER I=2074mFOURnIVEmSIXnEVENmEIGHTmNINE",
     "mPLUS SIGNmMINUSmEQUALS SIGNmLEFT PARENTHESISmRIGHT PARENTHESISmLATIN SMALL LETTER N",
     "cBSCRIPT ZEROkONEkTWOlHREEkFOURlIVEkSIXlEVENkEIGHTkNINEkPLUS SIGNkMINUSkEQUALS SIGN",
     "kLEFT PARENTHESISkRIGHT PARENTHESIS=2090aLATIN SUBSCRIPT SMALL LETTER AzeEzeOzeXzeSCHWAzeH",
     "zeKzeLzeMzeNzePzeSzeT=20A0aEURO-CURRENCY SIGNaCOLON SIGNbRUZEIRO SIGNaFRENCH FRANC SIGN",
     "aLIRA SIGNaMILL SIGNaNAIRA SIGNaPESETA SIGNaRUPEE SIGNaWON SIGNaNEW SHEQEL SIGNaDONG SIGN",
     "aEURO SIGNaKIP SIGNaTUGRIK SIGNaDRACHMA SIGNaGERMAN PENNY SIGNaPESO SIGNaGUARANI SIGN",
     "aAUSTRAL SIGNaHRYVNIA SIGNaCEDI SIGNaLIVRE TOURNOIS SIGNaSPESMILO SIGNaTENGE SIGN",
     "aINDIAN RUPEE SIGNaTURKISH LIRA SIGNaNORDIC MARK SIGNaMANAT SIGNaRUBLE SIGNaLARI SIGN",
     "aBITCOIN SIGNaSOM SIGN=20D0aCOMBINING LEFT HARPOON ABOVEkRIGHT HARPOON ABOVE",
     "kLONG VERTICAL LINE OVERLAYkSHORT VERTICAL LINE OVERLAYkANTICLOCKWISE ARROW ABOVE",
     "kCLOCKWISE ARROW ABOVEkLEFT ARROW ABOVEkRIGHT ARROW ABOVEmNG OVERLAYkCLOCKWISE RING OVERLAY",
     "kANTICLOCKWISE RING OVERLAYkTHREE DOTS ABOVEkFOUR DOTS ABOVEkENCLOSING CIRCLEuSQUAREuDIAMOND",
     "uCIRCLE BACKSLASHkLEFT RIGHT ARROW ABOVEkENCLOSING SCREENuKEYCAPuUPWARD POINTING TRIANGLE",
     "kREVERSE SOLIDUS OVERLAYkDOUBLE VERTICAL STROKE OVERLAYkANNUITY SYMBOLkTRIPLE UNDERDOT",
     "kWIDE BRIDGE ABOVEkLEFTWARDS ARROW OVERLAYlONG DOUBLE SOLIDUS OVERLAY",
     "kRIGHTWARDS HARPOON WITH BARB DOWNWARDSkLEFTWARDS HARPOON WITH BARB DOWNWARDSo ARROW BELOW",
     "kRIGHT ARROW BELOWkASTERISK ABOVE=2100aACCOUNT OFbDDRESSED TO THE SUBJECT",
     "aDOUBLE-STRUCK CAPITAL CbEGREE CELSIUSaCENTRE LINE SYMBOLbARE OFcDA UNAaEULER CONSTANT",
     "aSCRUPLEaDEGREE FAHRENHEITaSCRIPT SMALL GhCAPITAL HaBLACK-LETTER CAPITAL H",
     "aDOUBLE-STRUCK CAPITAL HaPLANCK CONSTANTp OVER TWO PIaSCRIPT CAPITAL I",
     "aBLACK-LETTER CAPITAL IaSCRIPT CAPITAL LhSMALL LaL B BAR SYMBOLaDOUBLE-STRUCK CAPITAL N",
     "aNUMERO SIGNaSOUND RECORDING COPYRIGHTbCRIPT CAPITAL PaDOUBLE-STRUCK CAPITAL PwQ",
     "aSCRIPT CAPITAL RaBLACK-LETTER CAPITAL RaDOUBLE-STRUCK CAPITAL RaPRESCRIPTION TAKEaRESPONSE",
     "aSERVICE MARKaTELEPHONE SIGNbRADE MARK SIGNaVERSICLEaDOUBLE-STRUCK CAPITAL ZaOUNCE SIGN",
     "bHM SIGNaINVERTED OHM SIGNaBLACK-LETTER CAPITAL ZaTURNED GREEK SMALL LETTER IOTAaKELVIN SIGN",
     "aANGSTROM SIGNaSCRIPT CAPITAL BaBLACK-LETTER CAPITAL CaESTIMATED SYMBOLaSCRIPT SMALL E",
     "hCAPITAL EpFaTURNED CAPITAL FaSCRIPT CAPITAL MhSMALL OaALEF SYMBOLaBET SYMBOLaGIMEL SYMBOL",
     "aDALET SYMBOLaINFORMATION SOURCEaROTATED CAPITAL QaFACSIMILE SIGNaDOUBLE-STRUCK SMALL PI",
     "uGAMMAoCAPITAL GAMMAwPIoN-ARY SUMMATIONaTURNED SANS-SERIF CAPITAL GzbL",
     "aREVERSED SANS-SERIF CAPITAL LaTURNED SANS-SERIF CAPITAL YaDOUBLE-STRUCK ITALIC CAPITAL D",
     "vSMALL DzcEzcIzcJaPROPERTY LINEaTURNED AMPERSANDaPER SIGNaAKTIESELSKABaTURNED SMALL F",
     "aSYMBOL FOR SAMARITAN SOURCEaVULGAR FRACTION ONE SEVENTHuNINTHuTENTHvHIRDqTWO THIRDS",
     "qONE FIFTHqTWO FIFTHSrHREE FIFTHSqFOUR FIFTHSqONE SIXTHqFIVE SIXTHSqONE EIGHTHqTHREE EIGHTHS",
     "qFIVE EIGHTHSqSEVEN EIGHTHSaFRACTION NUMERATOR ONEaROMAN NUMERAL ONEoTWOpHREEoFOURpIVEoSIX",
     "pEVENoEIGHToNINEoTENoELEVENoTWELVEoFIFTYoONE HUNDREDoFIVE HUNDREDoONE THOUSAND",
     "aSMALL ROMAN NUMERAL ONEuTWOvHREEuFOURvIVEuSIXvEVENuEIGHTuNINEuTENuELEVENuTWELVEuFIFTY",
     "uONE HUNDREDuFIVE HUNDREDuONE THOUSANDaROMAN NUMERAL ONE THOUSAND C DoFIVE THOUSAND",
     "oTEN THOUSANDoREVERSED ONE HUNDREDaLATIN SMALL LETTER REVERSED CaROMAN NUMERAL SIX LATE FORM",
     "oFIFTY EARLY FORMuTHOUSANDoONE HUNDRED THOUSANDaVULGAR FRACTION ZERO THIRDSaTURNED DIGIT TWO",
     "oHREE=2190aLEFTWARDS ARROWaUPWARDS ARROWaRIGHTWARDS ARROWaDOWNWARDS ARROWaLEFT RIGHT ARROW",
     "aUP DOWN ARROWaNORTH WEST ARROWgEAST ARROWaSOUTH EAST ARROWgWEST ARROW",
     "aLEFTWARDS ARROW WITH STROKEaRIGHTWARDS ARROW WITH STROKEaLEFTWARDS WAVE ARROW",
     "aRIGHTWARDS WAVE ARROWaLEFTWARDS TWO HEADED ARROWaUPWARDS TWO HEADED ARROW",
     "aRIGHTWARDS TWO HEADED ARROWaDOWNWARDS TWO HEADED ARROWaLEFTWARDS ARROW WITH TAIL",
     "aRIGHTWARDS ARROW WITH TAILaLEFTWARDS ARROW FROM BARaUPWARDS ARROW FROM BAR",
     "aRIGHTWARDS ARROW FROM BARaDOWNWARDS ARROW FROM BARaUP DOWN ARROW WITH BASE",
     "aLEFTWARDS ARROW WITH HOOKaRIGHTWARDS ARROW WITH HOOKaLEFTWARDS ARROW WITH LOOP",
     "aRIGHTWARDS ARROW WITH LOOPaLEFT RIGHT WAVE ARROWlARROW WITH STROKEaDOWNWARDS ZIGZAG ARROW",
     "aUPWARDS ARROW WITH TIP LEFTWARDSxRIGHTWARDSaDOWNWARDS ARROW WITH TIP LEFTWARDSzaRIGHTWARDS",
     "aRIGHTWARDS ARROW WITH CORNER DOWNWARDSaDOWNWARDS ARROW WITH CORNER LEFTWARDS",
     "aANTICLOCKWISE TOP SEMICIRCLE ARROWaCLOCKWISE TOP SEMICIRCLE ARROW",
     "aNORTH WEST ARROW TO LONG BARaLEFTWARDS ARROW TO BAR OVER RIGHTWARDS ARROW TO BAR",
     "aANTICLOCKWISE OPEN CIRCLE ARROWaCLOCKWISE OPEN CIRCLE ARROW",
     "aLEFTWARDS HARPOON WITH BARB UPWARDSzdDOWNWARDSaUPWARDS HARPOON WITH BARB RIGHTWARDS",
     "zbLEFTWARDSaRIGHTWARDS HARPOON WITH BARB UPWARDSzeDOWNWARDS",
     "aDOWNWARDS HARPOON WITH BARB RIGHTWARDSzdLEFTWARDSaRIGHTWARDS ARROW OVER LEFTWARDS ARROW",
     "aUPWARDS ARROW LEFTWARDS OF DOWNWARDS ARROWaLEFTWARDS ARROW OVER RIGHTWARDS ARROW",
     "kPAIRED ARROWSaUPWARDS PAIRED ARROWSaRIGHTWARDS PAIRED ARROWSaDOWNWARDS PAIRED ARROWS",
     "aLEFTWARDS HARPOON OVER RIGHTWARDS HARPOONaRIGHTWARDS HARPOON OVER LEFTWARDS HARPOON",
     "aLEFTWARDS DOUBLE ARROW WITH STROKEe RIGHT DOUBLE ARROW WITH STROKE",
     "aRIGHTWARDS DOUBLE ARROW WITH STROKEaLEFTWARDS DOUBLE ARROWaUPWARDS DOUBLE ARROW",
     "aRIGHTWARDS DOUBLE ARROWaDOWNWARDS DOUBLE ARROWaLEFT RIGHT DOUBLE ARROWaUP DOWN DOUBLE ARROW",
     "aNORTH WEST DOUBLE ARROWgEAST DOUBLE ARROWaSOUTH EAST DOUBLE ARROWgWEST DOUBLE ARROW",
     "aLEFTWARDS TRIPLE ARROWaRIGHTWARDS TRIPLE ARROWaLEFTWARDS SQUIGGLE ARROW",
     "aRIGHTWARDS SQUIGGLE ARROWaUPWARDS ARROW WITH DOUBLE STROKE",
     "aDOWNWARDS ARROW WITH DOUBLE STROKEaLEFTWARDS DASHED ARROWaUPWARDS DASHED ARROW",
     "aRIGHTWARDS DASHED ARROWaDOWNWARDS DASHED ARROWaLEFTWARDS ARROW TO BAR",
     "aRIGHTWARDS ARROW TO BARaLEFTWARDS WHITE ARROWaUPWARDS WHITE ARROWaRIGHTWARDS WHITE ARROW",
     "aDOWNWARDS WHITE ARROWaUPWARDS WHITE ARROW FROM BARuON PEDESTALzg WITH HORIZONTAL BAR",
     "zmVERTICAL BARoDOUBLE ARROWzb ON PEDESTALaRIGHTWARDS WHITE ARROW FROM WALL",
     "aNORTH WEST ARROW TO CORNERaSOUTH EAST ARROW TO CORNERaUP DOWN WHITE ARROW",
     "aRIGHT ARROW WITH SMALL CIRCLEaDOWNWARDS ARROW LEFTWARDS OF UPWARDS ARROW",
     "aTHREE RIGHTWARDS ARROWSaLEFTWARDS ARROW WITH VERTICAL STROKE",
     "aRIGHTWARDS ARROW WITH VERTICAL STROKEaLEFT RIGHT ARROW WITH VERTICAL STROKE",
     "eWARDS ARROW WITH DOUBLE VERTICAL STROKEaRIGHTWARDS ARROW WITH DOUBLE VERTICAL STROKE",
     "aLEFT RIGHT ARROW WITH DOUBLE VERTICAL STROKEeWARDS OPEN-HEADED ARROW",
     "aRIGHTWARDS OPEN-HEADED ARROWaLEFT RIGHT OPEN-HEADED ARROWaFOR ALLaCOMPLEMENT",
     "aPARTIAL DIFFERENTIALaTHERE EXISTSgDOES NOT EXISTaEMPTY SETaINCREMENTaNABLAaELEMENT OF",
     "aNOT AN ELEMENT OFaSMALL ELEMENT OFaCONTAINS AS MEMBERaDOES NOT CONTAIN AS MEMBER",
     "aSMALL CONTAINS AS MEMBERaEND OF PROOFaN-ARY PRODUCTgCOPRODUCTgSUMMATIONaMINUS SIGN",
     "f-OR-PLUS SIGNaDOT PLUSbIVISION SLASHaSET MINUSaASTERISK OPERATORaRING OPERATOR",
     "aBULLET OPERATORaSQUARE ROOTaCUBE ROOTaFOURTH ROOTaPROPORTIONAL TOaINFINITYaRIGHT ANGLE",
     "aANGLEaMEASURED ANGLEaSPHERICAL ANGLEaDIVIDESbOES NOT DIVIDEaPARALLEL TOaNOT PARALLEL TO",
     "aLOGICAL ANDiORaINTERSECTIONaUNIONaINTEGRALaDOUBLE INTEGRALaTRIPLE INTEGRALaCONTOUR INTEGRAL",
     "aSURFACE INTEGRALaVOLUME INTEGRALaCLOCKWISE INTEGRALkCONTOUR INTEGRAL",
     "aANTICLOCKWISE CONTOUR INTEGRALaTHEREFOREaBECAUSEaRATIOaPROPORTIONaDOT MINUSaEXCESS",
     "aGEOMETRIC PROPORTIONaHOMOTHETICaTILDE OPERATORaREVERSED TILDEaINVERTED LAZY SaSINE WAVE",
     "aWREATH PRODUCTaNOT TILDEaMINUS TILDEaASYMPTOTICALLY EQUAL TOaNOT ASYMPTOTICALLY EQUAL TO",
     "aAPPROXIMATELY EQUAL TOoBUT NOT ACTUALLY EQUAL TO",
     "aNEITHER APPROXIMATELY NOR ACTUALLY EQUAL TOaALMOST EQUAL TOaNOT ALMOST EQUAL TO",
     "aALMOST EQUAL OR EQUAL TOaTRIPLE TILDEaALL EQUAL TOaEQUIVALENT TO",
     "aGEOMETRICALLY EQUIVALENT TOaDIFFERENCE BETWEENaAPPROACHES THE LIMITaGEOMETRICALLY EQUAL TO",
     "aAPPROXIMATELY EQUAL TO OR THE IMAGE OFaIMAGE OF OR APPROXIMATELY EQUAL TOaCOLON EQUALS",
     "aEQUALS COLONaRING IN EQUAL TOfEQUAL TOaCORRESPONDS TOaESTIMATESbQUIANGULAR TOaSTAR EQUALS",
     "aDELTA EQUAL TOaEQUAL TO BY DEFINITIONaMEASURED BYaQUESTIONED EQUAL TOaNOT EQUAL TO",
     "aIDENTICAL TOaNOT IDENTICAL TOaSTRICTLY EQUIVALENT TOaLESS-THAN OR EQUAL TO",
     "aGREATER-THAN OR EQUAL TOaLESS-THAN OVER EQUAL TOaGREATER-THAN OVER EQUAL TO",
     "aLESS-THAN BUT NOT EQUAL TOaGREATER-THAN BUT NOT EQUAL TOaMUCH LESS-THANfGREATER-THAN",
     "aBETWEENaNOT EQUIVALENT TOeLESS-THANeGREATER-THANbEITHER LESS-THAN NOR EQUAL TO",
     "iGREATER-THAN NOR EQUAL TOaLESS-THAN OR EQUIVALENT TOaGREATER-THAN OR EQUIVALENT TO",
     "aNEITHER LESS-THAN NOR EQUIVALENT TOiGREATER-THAN NOR EQUIVALENT TO",
     "aLESS-THAN OR GREATER-THANaGREATER-THAN OR LESS-THANaNEITHER LESS-THAN NOR GREATER-THAN",
     "iGREATER-THAN NOR LESS-THANaPRECEDESaSUCCEEDSaPRECEDES OR EQUAL TOaSUCCEEDS OR EQUAL TO",
     "aPRECEDES OR EQUIVALENT TOaSUCCEEDS OR EQUIVALENT TOaDOES NOT PRECEDEjSUCCEEDaSUBSET OF",
     "cPERSET OFaNOT A SUBSET OFiPERSET OFaSUBSET OF OR EQUAL TOcPERSET OF OR EQUAL TO",
     "aNEITHER A SUBSET OF NOR EQUAL TOmPERSET OF NOR EQUAL TOaSUBSET OF WITH NOT EQUAL TO",
     "cPERSET OF WITH NOT EQUAL TOaMULTISETi MULTIPLICATIONjUNIONaSQUARE IMAGE OFhORIGINAL OF",
     "hIMAGE OF OR EQUAL TOhORIGINAL OF OR EQUAL TOhCAPiUPaCIRCLED PLUSiMINUSiTIMESiDIVISION SLASH",
     "jOT OPERATORiRING OPERATORiASTERISK OPERATORiEQUALSiDASHaSQUARED PLUSiMINUSiTIMES",
     "iDOT OPERATORaRIGHT TACKaLEFT TACKaDOWN TACKaUP TACKaASSERTIONaMODELSaTRUEaFORCES",
     "aTRIPLE VERTICAL BAR RIGHT TURNSTILEaDOUBLE VERTICAL BAR DOUBLE RIGHT TURNSTILEcES NOT PROVE",
     "aNOT TRUEaDOES NOT FORCEaNEGATED DOUBLE VERTICAL BAR DOUBLE RIGHT TURNSTILE",
     "aPRECEDES UNDER RELATIONaSUCCEEDS UNDER RELATIONaNORMAL SUBGROUP OF",
     "aCONTAINS AS NORMAL SUBGROUPaNORMAL SUBGROUP OF OR EQUAL TO",
     "aCONTAINS AS NORMAL SUBGROUP OR EQUAL TOaORIGINAL OFaIMAGE OFaMULTIMAP",
     "aHERMITIAN CONJUGATE MATRIXaINTERCALATEaXORaNANDbORaRIGHT ANGLE WITH ARCgTRIANGLE",
     "aN-ARY LOGICAL ANDoORgINTERSECTIONgUNIONaDIAMOND OPERATORbOT OPERATORaSTAR OPERATOR",
     "aDIVISION TIMESaBOWTIEaLEFT NORMAL FACTOR SEMIDIRECT PRODUCT",
     "aRIGHT NORMAL FACTOR SEMIDIRECT PRODUCTaLEFT SEMIDIRECT PRODUCTaRIGHT SEMIDIRECT PRODUCT",
     "bEVERSED TILDE EQUALSaCURLY LOGICAL ORoANDaDOUBLE SUBSETjPERSEThINTERSECTIONhUNIONaPITCHFORK",
     "aEQUAL AND PARALLEL TOaLESS-THAN WITH DOTaGREATER-THAN WITH DOTaVERY MUCH LESS-THAN",
     "kGREATER-THANaLESS-THAN EQUAL TO OR GREATER-THANaGREATER-THAN EQUAL TO OR LESS-THAN",
     "aEQUAL TO OR LESS-THANmGREATER-THANmPRECEDESmSUCCEEDSaDOES NOT PRECEDE OR EQUAL",
     "jSUCCEED OR EQUALaNOT SQUARE IMAGE OF OR EQUAL TOlORIGINAL OF OR EQUAL TO",
     "aSQUARE IMAGE OF OR NOT EQUAL TOhORIGINAL OF OR NOT EQUAL TOaLESS-THAN BUT NOT EQUIVALENT TO",
     "aGREATER-THAN BUT NOT EQUIVALENT TOaPRECEDES BUT NOT EQUIVALENT TO",
     "aSUCCEEDS BUT NOT EQUIVALENT TOaNOT NORMAL SUBGROUP OFaDOES NOT CONTAIN AS NORMAL SUBGROUP",
     "aNOT NORMAL SUBGROUP OF OR EQUAL TOaDOES NOT CONTAIN AS NORMAL SUBGROUP OR EQUAL",
     "aVERTICAL ELLIPSISaMIDLINE HORIZONTAL ELLIPSISaUP RIGHT DIAGONAL ELLIPSIS",
     "aDOWN RIGHT DIAGONAL ELLIPSISaELEMENT OF WITH LONG HORIZONTAL STROKE",
     "qVERTICAL BAR AT END OF HORIZONTAL STROKE",
     "aSMALL ELEMENT OF WITH VERTICAL BAR AT END OF HORIZONTAL STROKEaELEMENT OF WITH DOT ABOVE",
     "qOVERBARaSMALL ELEMENT OF WITH OVERBARaELEMENT OF WITH UNDERBARqTWO HORIZONTAL STROKES",
     "aCONTAINS WITH LONG HORIZONTAL STROKEoVERTICAL BAR AT END OF HORIZONTAL STROKE",
     "aSMALL CONTAINS WITH VERTICAL BAR AT END OF HORIZONTAL STROKEaCONTAINS WITH OVERBAR",
     "aSMALL CONTAINS WITH OVERBARaZ NOTATION BAG MEMBERSHIPaDIAMETER SIGNaELECTRIC ARROWaHOUSE",
     "aUP ARROWHEADaDOWN ARROWHEADaPROJECTIVEbERSPECTIVEaWAVY LINEaLEFT CEILINGaRIGHT CEILING",
     "aLEFT FLOORaRIGHT FLOORaBOTTOM RIGHT CROPhLEFT CROPaTOP RIGHT CROPeLEFT CROP",
     "aREVERSED NOT SIGNaSQUARE LOZENGEaARCaSEGMENTcCTORaTELEPHONE RECORDERaPOSITION INDICATOR",
     "aVIEWDATA SQUAREaPLACE OF INTEREST SIGNaTURNED NOT SIGNaWATCHaHOURGLASSaTOP LEFT CORNER",
     "eRIGHT CORNERaBOTTOM LEFT CORNERhRIGHT CORNERaTOP HALF INTEGRALaBOTTOM HALF INTEGRALaFROWN",
     "aSMILEaUP ARROWHEAD BETWEEN TWO HORIZONTAL BARSaOPTION KEYaERASE TO THE RIGHT",
     "aX IN A RECTANGLE BOXaKEYBOARDaLEFT-POINTING ANGLE BRACKETaRIGHT-POINTING ANGLE BRACKET",
     "aERASE TO THE LEFTaBENZENE RINGaCYLINDRICITYaALL AROUND-PROFILEaSYMMETRYaTOTAL RUNOUT",
     "aDIMENSION ORIGINaCONICAL TAPERaSLOPEaCOUNTERBOREhSINKaAPL FUNCTIONAL SYMBOL I-BEAM",
     "wSQUISH QUADwQUAD EQUALzcDIVIDEzeAMONDzcJOTzcCIRCLEwCIRCLE STILEzeJOTwSLASH BAR",
     "wBACKSLASH BARwQUAD SLASHzcBACKSLASHzcLESS-THANzcGREATER-THANwLEFTWARDS VANEwRIGHTWARDS VANE",
     "wQUAD LEFTWARDS ARROWzcRIGHTWARDS ARROWwCIRCLE BACKSLASHwDOWN TACK UNDERBARxELTA STILE",
     "wQUAD DOWN CARETzdELTAwDOWN TACK JOTwUPWARDS VANEwQUAD UPWARDS ARROWwUP TACK OVERBAR",
     "wDEL STILEwQUAD UP CARETzcDELwUP TACK JOTwDOWNWARDS VANEwQUAD DOWNWARDS ARROWyOTE UNDERBAR",
     "wDELTA UNDERBARxIAMOND UNDERBARwJOT UNDERBARwCIRCLE UNDERBARwUP SHOE JOTwQUOTE QUAD",
     "wCIRCLE STARwQUAD COLONwUP TACK DIAERESISwDEL DIAERESISwSTAR DIAERESISwJOT DIAERESIS",
     "wCIRCLE DIAERESISwDOWN SHOE STILEwLEFT SHOE STILEwTILDE DIAERESISwGREATER-THAN DIAERESIS",
     "wCOMMA BARwDEL TILDEwZILDEwSTILE TILDExEMICOLON UNDERBARwQUAD NOT EQUALzcQUESTION",
     "wDOWN CARET TILDEwUP CARET TILDEwIOTAwRHOwOMEGAwALPHA UNDERBARwEPSILON UNDERBAR",
     "wIOTA UNDERBARwOMEGA UNDERBARwALPHAaNOT CHECK MARKaRIGHT ANGLE WITH DOWNWARDS ZIGZAG ARROW",
     "aSHOULDERED OPEN BOXaBELL SYMBOLaVERTICAL LINE WITH MIDDLE DOTaINSERTION SYMBOL",
     "aCONTINUOUS UNDERLINE SYMBOLaDISCONTINUOUS UNDERLINE SYMBOLaEMPHASIS SYMBOL",
     "aCOMPOSITION SYMBOLaWHITE SQUARE WITH CENTRE VERTICAL LINEaENTER SYMBOL",
     "aALTERNATIVE KEY SYMBOLaHELM SYMBOLaCIRCLED HORIZONTAL BAR WITH NOTCHiTRIANGLE DOWN",
     "aBROKEN CIRCLE WITH NORTHWEST ARROWaUNDO SYMBOLaMONOSTABLE SYMBOLaHYSTERESIS SYMBOL",
     "aOPEN-CIRCUIT-OUTPUT H-TYPE SYMBOLuL-TYPE SYMBOLaPASSIVE-PULL-DOWN-OUTPUT SYMBOL",
     "nUP-OUTPUT SYMBOLaDIRECT CURRENT SYMBOL FORM TWOaSOFTWARE-FUNCTION SYMBOL",
     "aAPL FUNCTIONAL SYMBOL QUADaDECIMAL SEPARATOR KEY SYMBOLaPREVIOUS PAGEaNEXT PAGE",
     "aPRINT SCREEN SYMBOLaCLEAR SCREEN SYMBOLaLEFT PARENTHESIS UPPER HOOKrEXTENSIONrLOWER HOOK",
     "aRIGHT PARENTHESIS UPPER HOOKsEXTENSIONsLOWER HOOKaLEFT SQUARE BRACKET UPPER CORNER",
     "uEXTENSIONuLOWER CORNERaRIGHT SQUARE BRACKET UPPER CORNERvEXTENSIONvLOWER CORNER",
     "aLEFT CURLY BRACKET UPPER HOOKtMIDDLE PIECEtLOWER HOOKaCURLY BRACKET EXTENSION",
     "aRIGHT CURLY BRACKET UPPER HOOKuMIDDLE PIECEuLOWER HOOKaINTEGRAL EXTENSION",
     "aHORIZONTAL LINE EXTENSIONaUPPER LEFT OR LOWER RIGHT CURLY BRACKET SECTION",
     "gRIGHT OR LOWER LEFT CURLY BRACKET SECTIONaSUMMATION TOPkBOTTOMaTOP SQUARE BRACKET",
     "aBOTTOM SQUARE BRACKETv OVER TOP SQUARE BRACKETaRADICAL SYMBOL BOTTOMaLEFT VERTICAL BOX LINE",
     "aRIGHT VERTICAL BOX LINEaHORIZONTAL SCAN LINE-1v3v7v9",
     "aDENTISTRY SYMBOL LIGHT VERTICAL AND TOP RIGHTzlBOTTOM RIGHTzhWITH CIRCLE",
     "xDOWN AND HORIZONTAL WITH CIRCLExUP AND HORIZONTAL WITH CIRCLExVERTICAL WITH TRIANGLE",
     "xDOWN AND HORIZONTAL WITH TRIANGLExUP AND HORIZONTAL WITH TRIANGLExVERTICAL AND WAVE",
     "xDOWN AND HORIZONTAL WITH WAVExUP AND HORIZONTAL WITH WAVExDOWN AND HORIZONTAL",
     "xUP AND HORIZONTALxVERTICAL AND TOP LEFTzlBOTTOM LEFTaSQUARE FOOTaRETURN SYMBOLaEJECT SYMBOL",
     "aVERTICAL LINE EXTENSIONaMETRICAL BREVEjLONG OVER SHORTjSHORT OVER LONGjLONG OVER TWO SHORTS",
     "jTWO SHORTS OVER LONGuJOINEDkRISEMEkETRASEMEjPENTASEMEaEARTH GROUNDaFUSEaTOP PARENTHESIS",
     "aBOTTOM PARENTHESISaTOP CURLY BRACKETaBOTTOM CURLY BRACKETaTOP TORTOISE SHELL BRACKET",
     "aBOTTOM TORTOISE SHELL BRACKETaWHITE TRAPEZIUMaBENZENE RING WITH CIRCLEaSTRAIGHTNESS",
     "aFLATNESSaAC CURRENTaELECTRICAL INTERSECTIONaDECIMAL EXPONENT SYMBOL",
     "aBLACK RIGHT-POINTING DOUBLE TRIANGLEgLEFT-POINTING DOUBLE TRIANGLE",
     "gUP-POINTING DOUBLE TRIANGLEgDOWN-POINTING DOUBLE TRIANGLE",
     "gRIGHT-POINTING DOUBLE TRIANGLE WITH VERTICAL BAR",
     "gLEFT-POINTING DOUBLE TRIANGLE WITH VERTICAL BAR",
     "gRIGHT-POINTING TRIANGLE WITH DOUBLE VERTICAL BARaALARM CLOCKaSTOPWATCHaTIMER CLOCK",
     "aHOURGLASS WITH FLOWING SANDaBLACK MEDIUM LEFT-POINTING TRIANGLEnRIGHT-POINTING TRIANGLE",
     "nUP-POINTING TRIANGLEnDOWN-POINTING TRIANGLEaDOUBLE VERTICAL BARaBLACK SQUARE FOR STOP",
     "gCIRCLE FOR RECORDaPOWER SYMBOLgON-OFF SYMBOLi SYMBOLgSLEEP SYMBOLaOBSERVER EYE SYMBOL",
     "aSYMBOL FOR NULLlSTART OF HEADINGuTEXTlEND OF TEXTtRANSMISSIONnQUIRYlACKNOWLEDGElBELL",
     "mACKSPACElHORIZONTAL TABULATIONlLINE FEEDlVERTICAL TABULATIONlFORM FEEDlCARRIAGE RETURN",
     "lSHIFT OUTrINlDATA LINK ESCAPEmEVICE CONTROL ONEzbTWOzcHREEzbFOURlNEGATIVE ACKNOWLEDGE",
     "lSYNCHRONOUS IDLElEND OF TRANSMISSION BLOCKlCANCELlEND OF MEDIUMlSUBSTITUTElESCAPE",
     "lFILE SEPARATORlGROUP SEPARATORlRECORD SEPARATORlUNIT SEPARATORlSPACElDELETEaBLANK SYMBOL",
     "aOPEN BOXaSYMBOL FOR NEWLINElDELETE FORM TWOlSUBSTITUTE FORM TWO=2440aOCR HOOKeCHAIReFORK",
     "eINVERTED FORKeBELT BUCKLEfOW TIEfRANCH BANK IDENTIFICATIONeAMOUNT OF CHECKeDASH",
     "eCUSTOMER ACCOUNT NUMBEReDOUBLE BACKSLASH=2460aCIRCLED DIGIT ONEoTWOpHREEoFOURpIVEoSIXpEVEN",
     "oEIGHToNINEiNUMBER TENpELEVENpTWELVEqHIRTEENpFOURTEENqIFTEENpSIXTEENqEVENTEENpEIGHTEEN",
     "pNINETEENpTWENTYaPARENTHESIZED DIGIT ONEuTWOvHREEuFOURvIVEuSIXvEVENuEIGHTuNINEoNUMBER TEN",
     "vELEVENvTWELVEwHIRTEENvFOURTEENwIFTEENvSIXTEENwEVENTEENvEIGHTEENvNINETEENvTWENTY",
     "aDIGIT ONE FULL STOPgTWO FULL STOPhHREE FULL STOPgFOUR FULL STOPhIVE FULL STOPgSIX FULL STOP",
     "hEVEN FULL STOPgEIGHT FULL STOPgNINE FULL STOPaNUMBER TEN FULL STOPhELEVEN FULL STOP",
     "hTWELVE FULL STOPiHIRTEEN FULL STOPhFOURTEEN FULL STOPiIFTEEN FULL STOPhSIXTEEN FULL STOP",
     "iEVENTEEN FULL STOPhEIGHTEEN FULL STOPhNINETEEN FULL STOPhTWENTY FULL STOP",
     "aPARENTHESIZED LATIN SMALL LETTER AziBziCziDziEziFziGziHziIziJziKziLziMziNziOziPziQziRziSziT",
     "ziUziVziWziXziYziZaCIRCLED LATIN CAPITAL LETTER AzeBzeCzeDzeEzeFzeGzeHzeIzeJzeKzeLzeMzeNzeO",
     "zePzeQzeRzeSzeTzeUzeVzeWzeXzeYzeZoSMALL LETTER AzcBzcCzcDzcEzcFzcGzcHzcIzcJzcKzcLzcMzcNzcO",
     "zcPzcQzcRzcSzcTzcUzcVzcWzcXzcYzcZiDIGIT ZEROaNEGATIVE CIRCLED NUMBER ELEVENyTWELVEzaHIRTEEN",
     "yFOURTEENzaIFTEENySIXTEENzaEVENTEENyEIGHTEENyNINETEENyTWENTYaDOUBLE CIRCLED DIGIT ONEvTWO",
     "wHREEvFOURwIVEvSIXwEVENvEIGHTvNINEpNUMBER TENaNEGATIVE CIRCLED DIGIT ZERO",
     "aBOX DRAWINGS LIGHT HORIZONTALnHEAVY HORIZONTALnLIGHT VERTICALnHEAVY VERTICAL",
     "nLIGHT TRIPLE DASH HORIZONTALnHEAVY TRIPLE DASH HORIZONTALnLIGHT TRIPLE DASH VERTICAL",
     "nHEAVY TRIPLE DASH VERTICALnLIGHT QUADRUPLE DASH HORIZONTALnHEAVY QUADRUPLE DASH HORIZONTAL",
     "nLIGHT QUADRUPLE DASH VERTICALnHEAVY QUADRUPLE DASH VERTICALnLIGHT DOWN AND RIGHT",
     "nDOWN LIGHT AND RIGHT HEAVYsHEAVY AND RIGHT LIGHTnHEAVY DOWN AND RIGHTnLIGHT DOWN AND LEFT",
     "nDOWN LIGHT AND LEFT HEAVYsHEAVY AND LEFT LIGHTnHEAVY DOWN AND LEFTnLIGHT UP AND RIGHT",
     "nUP LIGHT AND RIGHT HEAVYqHEAVY AND RIGHT LIGHTnHEAVY UP AND RIGHTnLIGHT UP AND LEFT",
     "nUP LIGHT AND LEFT HEAVYqHEAVY AND LEFT LIGHTnHEAVY UP AND LEFTnLIGHT VERTICAL AND RIGHT",
     "nVERTICAL LIGHT AND RIGHT HEAVYnUP HEAVY AND RIGHT DOWN LIGHTnDOWN HEAVY AND RIGHT UP LIGHT",
     "nVERTICAL HEAVY AND RIGHT LIGHTnDOWN LIGHT AND RIGHT UP HEAVYnUP LIGHT AND RIGHT DOWN HEAVY",
     "nHEAVY VERTICAL AND RIGHTnLIGHT VERTICAL AND LEFTnVERTICAL LIGHT AND LEFT HEAVY",
     "nUP HEAVY AND LEFT DOWN LIGHTnDOWN HEAVY AND LEFT UP LIGHTnVERTICAL HEAVY AND LEFT LIGHT",
     "nDOWN LIGHT AND LEFT UP HEAVYnUP LIGHT AND LEFT DOWN HEAVYnHEAVY VERTICAL AND LEFT",
     "nLIGHT DOWN AND HORIZONTALoEFT HEAVY AND RIGHT DOWN LIGHTnRIGHT HEAVY AND LEFT DOWN LIGHT",
     "nDOWN LIGHT AND HORIZONTAL HEAVYsHEAVY AND HORIZONTAL LIGHTnRIGHT LIGHT AND LEFT DOWN HEAVY",
     "nLEFT LIGHT AND RIGHT DOWN HEAVYnHEAVY DOWN AND HORIZONTALnLIGHT UP AND HORIZONTAL",
     "oEFT HEAVY AND RIGHT UP LIGHTnRIGHT HEAVY AND LEFT UP LIGHTnUP LIGHT AND HORIZONTAL HEAVY",
     "qHEAVY AND HORIZONTAL LIGHTnRIGHT LIGHT AND LEFT UP HEAVYnLEFT LIGHT AND RIGHT UP HEAVY",
     "nHEAVY UP AND HORIZONTALnLIGHT VERTICAL AND HORIZONTALoEFT HEAVY AND RIGHT VERTICAL LIGHT",
     "nRIGHT HEAVY AND LEFT VERTICAL LIGHTnVERTICAL LIGHT AND HORIZONTAL HEAVY",
     "nUP HEAVY AND DOWN HORIZONTAL LIGHTnDOWN HEAVY AND UP HORIZONTAL LIGHT",
     "nVERTICAL HEAVY AND HORIZONTAL LIGHTnLEFT UP HEAVY AND RIGHT DOWN LIGHT",
     "nRIGHT UP HEAVY AND LEFT DOWN LIGHTnLEFT DOWN HEAVY AND RIGHT UP LIGHT",
     "nRIGHT DOWN HEAVY AND LEFT UP LIGHTnDOWN LIGHT AND UP HORIZONTAL HEAVY",
     "nUP LIGHT AND DOWN HORIZONTAL HEAVYnRIGHT LIGHT AND LEFT VERTICAL HEAVY",
     "nLEFT LIGHT AND RIGHT VERTICAL HEAVYnHEAVY VERTICAL AND HORIZONTAL",
     "nLIGHT DOUBLE DASH HORIZONTALnHEAVY DOUBLE DASH HORIZONTALnLIGHT DOUBLE DASH VERTICAL",
     "nHEAVY DOUBLE DASH VERTICALnDOUBLE HORIZONTALuVERTICALpWN SINGLE AND RIGHT DOUBLE",
     "sDOUBLE AND RIGHT SINGLEpUBLE DOWN AND RIGHTpWN SINGLE AND LEFT DOUBLE",
     "sDOUBLE AND LEFT SINGLEpUBLE DOWN AND LEFTnUP SINGLE AND RIGHT DOUBLE",
     "qDOUBLE AND RIGHT SINGLEnDOUBLE UP AND RIGHTnUP SINGLE AND LEFT DOUBLE",
     "qDOUBLE AND LEFT SINGLEnDOUBLE UP AND LEFTnVERTICAL SINGLE AND RIGHT DOUBLE",
     "wDOUBLE AND RIGHT SINGLEnDOUBLE VERTICAL AND RIGHTnVERTICAL SINGLE AND LEFT DOUBLE",
     "wDOUBLE AND LEFT SINGLEnDOUBLE VERTICAL AND LEFTpWN SINGLE AND HORIZONTAL DOUBLE",
     "sDOUBLE AND HORIZONTAL SINGLEpUBLE DOWN AND HORIZONTALnUP SINGLE AND HORIZONTAL DOUBLE",
     "qDOUBLE AND HORIZONTAL SINGLEnDOUBLE UP AND HORIZONTALnVERTICAL SINGLE AND HORIZONTAL DOUBLE",
     "wDOUBLE AND HORIZONTAL SINGLEnDOUBLE VERTICAL AND HORIZONTALnLIGHT ARC DOWN AND RIGHTzhLEFT",
     "xUP AND LEFTzfRIGHTtDIAGONAL UPPER RIGHT TO LOWER LEFTzjLEFT TO LOWER RIGHTzdCROSStLEFTtUP",
     "tRIGHTtDOWNnHEAVY LEFTtUPtRIGHTtDOWNnLIGHT LEFT AND HEAVY RIGHTtUP AND HEAVY DOWN",
     "nHEAVY LEFT AND LIGHT RIGHTtUP AND LIGHT DOWNaUPPER HALF BLOCKaLOWER ONE EIGHTH BLOCK",
     "kQUARTER BLOCKgTHREE EIGHTHS BLOCKgHALF BLOCKgFIVE EIGHTHS BLOCKgTHREE QUARTERS BLOCK",
     "gSEVEN EIGHTHS BLOCKaFULL BLOCKaLEFT SEVEN EIGHTHS BLOCKfTHREE QUARTERS BLOCK",
     "fFIVE EIGHTHS BLOCKfHALF BLOCKfTHREE EIGHTHS BLOCKfONE QUARTER BLOCKjEIGHTH BLOCK",
     "aRIGHT HALF BLOCKaLIGHT SHADEaMEDIUM SHADEaDARK SHADEaUPPER ONE EIGHTH BLOCK",
     "aRIGHT ONE EIGHTH BLOCKaQUADRANT LOWER LEFTpRIGHTjUPPER LEFTt AND LOWER LEFT AND LOWER RIGHT",
     "zfRIGHTyUPPER RIGHT AND LOWER LEFTzvRIGHTpRIGHTu AND LOWER LEFTzk AND LOWER RIGHT",
     "aBLACK SQUAREaWHITE SQUAREm WITH ROUNDED CORNERSnCONTAINING BLACK SMALL SQUARE",
     "aSQUARE WITH HORIZONTAL FILLmVERTICAL FILLmORTHOGONAL CROSSHATCH FILL",
     "mUPPER LEFT TO LOWER RIGHT FILLsRIGHT TO LOWER LEFT FILLmDIAGONAL CROSSHATCH FILL",
     "aBLACK SMALL SQUAREaWHITE SMALL SQUAREaBLACK RECTANGLEaWHITE RECTANGLE",
     "aBLACK VERTICAL RECTANGLEaWHITE VERTICAL RECTANGLEaBLACK PARALLELOGRAMaWHITE PARALLELOGRAM",
     "aBLACK UP-POINTING TRIANGLEaWHITE UP-POINTING TRIANGLEaBLACK UP-POINTING SMALL TRIANGLE",
     "aWHITE UP-POINTING SMALL TRIANGLEaBLACK RIGHT-POINTING TRIANGLE",
     "aWHITE RIGHT-POINTING TRIANGLEaBLACK RIGHT-POINTING SMALL TRIANGLE",
     "aWHITE RIGHT-POINTING SMALL TRIANGLEaBLACK RIGHT-POINTING POINTER",
     "aWHITE RIGHT-POINTING POINTERaBLACK DOWN-POINTING TRIANGLEaWHITE DOWN-POINTING TRIANGLE",
     "aBLACK DOWN-POINTING SMALL TRIANGLEaWHITE DOWN-POINTING SMALL TRIANGLE",
     "aBLACK LEFT-POINTING TRIANGLEaWHITE LEFT-POINTING TRIANGLE",
     "aBLACK LEFT-POINTING SMALL TRIANGLEaWHITE LEFT-POINTING SMALL TRIANGLE",
     "aBLACK LEFT-POINTING POINTERaWHITE LEFT-POINTING POINTERaBLACK DIAMONDaWHITE DIAMOND",
     "n CONTAINING BLACK SMALL DIAMONDaFISHEYEaLOZENGEaWHITE CIRCLEaDOTTED CIRCLE",
     "aCIRCLE WITH VERTICAL FILLaBULLSEYEbLACK CIRCLEaCIRCLE WITH LEFT HALF BLACKmRIGHT HALF BLACK",
     "mLOWER HALF BLACKmUPPER HALF BLACKsRIGHT QUADRANT BLACKmALL BUT UPPER LEFT QUADRANT BLACK",
     "aLEFT HALF BLACK CIRCLEaRIGHT HALF BLACK CIRCLEaINVERSE BULLETiWHITE CIRCLE",
     "aUPPER HALF INVERSE WHITE CIRCLEaLOWER HALF INVERSE WHITE CIRCLE",
     "aUPPER LEFT QUADRANT CIRCULAR ARCgRIGHT QUADRANT CIRCULAR ARC",
     "aLOWER RIGHT QUADRANT CIRCULAR ARCgLEFT QUADRANT CIRCULAR ARCaUPPER HALF CIRCLE",
     "aLOWER HALF CIRCLEaBLACK LOWER RIGHT TRIANGLEmLEFT TRIANGLEgUPPER LEFT TRIANGLE",
     "mRIGHT TRIANGLEaWHITE BULLETaSQUARE WITH LEFT HALF BLACKmRIGHT HALF BLACK",
     "mUPPER LEFT DIAGONAL HALF BLACKmLOWER RIGHT DIAGONAL HALF BLACK",
     "aWHITE SQUARE WITH VERTICAL BISECTING LINEgUP-POINTING TRIANGLE WITH DOT",
     "aUP-POINTING TRIANGLE WITH LEFT HALF BLACKzbRIGHT HALF BLACKaLARGE CIRCLE",
     "aWHITE SQUARE WITH UPPER LEFT QUADRANTsLOWER LEFT QUADRANTyRIGHT QUADRANT",
     "sUPPER RIGHT QUADRANTgCIRCLE WITH UPPER LEFT QUADRANTsLOWER LEFT QUADRANTyRIGHT QUADRANT",
     "sUPPER RIGHT QUADRANTaUPPER LEFT TRIANGLEgRIGHT TRIANGLEaLOWER LEFT TRIANGLE",
     "aWHITE MEDIUM SQUAREaBLACK MEDIUM SQUAREaWHITE MEDIUM SMALL SQUAREaBLACK MEDIUM SMALL SQUARE",
     "aLOWER RIGHT TRIANGLEaBLACK SUN WITH RAYSaCLOUDaUMBRELLAaSNOWMANaCOMETaBLACK STARaWHITE STAR",
     "aLIGHTNINGaTHUNDERSTORMaSUNaASCENDING NODEaDESCENDING NODEaCONJUNCTIONaOPPOSITION",
     "aBLACK TELEPHONEaWHITE TELEPHONEaBALLOT BOXk WITH CHECKqXaSALTIREaUMBRELLA WITH RAIN DROPS",
     "aHOT BEVERAGEaWHITE SHOGI PIECEaBLACK SHOGI PIECEaSHAMROCK",
     "aREVERSED ROTATED FLORAL HEART BULLETaBLACK LEFT POINTING INDEXgRIGHT POINTING INDEX",
     "aWHITE LEFT POINTING INDEXgUP POINTING INDEXgRIGHT POINTING INDEXgDOWN POINTING INDEX",
     "aSKULL AND CROSSBONESaCAUTION SIGNaRADIOACTIVE SIGNaBIOHAZARD SIGNaCADUCEUSaANKH",
     "aORTHODOX CROSSaCHI RHObROSS OF LORRAINEjJERUSALEMaSTAR AND CRESCENTaFARSI SYMBOLaADI SHAKTI",
     "aHAMMER AND SICKLEaPEACE SYMBOLaYIN YANGaTRIGRAM FOR HEAVENmLAKEmFIREmTHUNDERmWINDnATER",
     "mMOUNTAINmEARTHaWHEEL OF DHARMAcITE FROWNING FACEgSMILING FACEaBLACK SMILING FACE",
     "aWHITE SUN WITH RAYSaFIRST QUARTER MOONaLAST QUARTER MOONaMERCURYaFEMALE SIGNaEARTH",
     "aMALE SIGNaJUPITERaSATURNaURANUSaNEPTUNEaPLUTOaARIESaTAURUSaGEMINIaCANCERaLEOaVIRGOaLIBRA",
     "aSCORPIUSbAGITTARIUSaCAPRICORNaAQUARIUSaPISCESaWHITE CHESS KINGmQUEENmROOKmBISHOPmKNIGHT",
     "mPAWNaBLACK CHESS KINGmQUEENmROOKmBISHOPmKNIGHTmPAWNgSPADE SUITaWHITE HEART SUIT",
     "gDIAMOND SUITaBLACK CLUB SUITaWHITE SPADE SUITaBLACK HEART SUITgDIAMOND SUITaWHITE CLUB SUIT",
     "aHOT SPRINGSaQUARTER NOTEaEIGHTH NOTEaBEAMED EIGHTH NOTEShSIXTEENTH NOTESaMUSIC FLAT SIGN",
     "gNATURAL SIGNgSHARP SIGNaWEST SYRIAC CROSSaEAST SYRIAC CROSSaUNIVERSAL RECYCLING SYMBOL",
     "aRECYCLING SYMBOL FOR TYPE-1 PLASTICSzb2 PLASTICSzb3 PLASTICSzb4 PLASTICSzb5 PLASTICS",
     "zb6 PLASTICSzb7 PLASTICSvGENERIC MATERIALSaBLACK UNIVERSAL RECYCLING SYMBOL",
     "aRECYCLED PAPER SYMBOLaPARTIALLY-RECYCLED PAPER SYMBOLbERMANENT PAPER SIGNaWHEELCHAIR SYMBOL",
     "aDIE FACE-1j2j3j4j5j6aWHITE CIRCLE WITH DOT RIGHTsTWO DOTSaBLACK CIRCLE WITH WHITE DOT RIGHT",
     "sTWO WHITE DOTSaMONOGRAM FOR YANGoINaDIGRAM FOR GREATER YANGlLESSER YINtANGlGREATER YIN",
     "aWHITE FLAGaBLACK FLAGaHAMMER AND PICKaANCHORaCROSSED SWORDSaSTAFF OF AESCULAPIUSbCALES",
     "aALEMBICaFLOWERaGEARaSTAFF OF HERMESaATOM SYMBOLaFLEUR-DE-LISaOUTLINED WHITE STAR",
     "aTHREE LINES CONVERGING RIGHTxLEFTaWARNING SIGNaHIGH VOLTAGE SIGNaDOUBLED FEMALE SIGN",
     "iMALE SIGNaINTERLOCKED FEMALE AND MALE SIGNaMALE AND FEMALE SIGNfWITH STROKE SIGN",
     "rAND MALE AND FEMALE SIGNaVERTICAL MALE WITH STROKE SIGNaHORIZONTAL MALE WITH STROKE SIGN",
     "aMEDIUM WHITE CIRCLEhBLACK CIRCLEhSMALL WHITE CIRCLEbARRIAGE SYMBOLaDIVORCE SYMBOL",
     "aUNMARRIED PARTNERSHIP SYMBOLaCOFFINaFUNERAL URNaNEUTERaCERESaPALLASaJUNOaVESTAaCHIRON",
     "aBLACK MOON LILITHaSEXTILEcMISEXTILEaQUINCUNXaSESQUIQUADRATEbOCCER BALLaBASEBALLaSQUARED KEY",
     "aWHITE DRAUGHTS MANpKINGaBLACK DRAUGHTS MANpKINGaSNOWMAN WITHOUT SNOWbUN BEHIND CLOUDaRAIN",
     "aBLACK SNOWMANaTHUNDER CLOUD AND RAINbURNED WHITE SHOGI PIECEhBLACK SHOGI PIECE",
     "aWHITE DIAMOND IN SQUAREaCROSSING LANESaDISABLED CARaOPHIUCHUSaPICKaCAR SLIDING",
     "aHELMET WITH WHITE CROSSaCIRCLED CROSSING LANESbHAINSaNO ENTRY",
     "aALTERNATE ONE-WAY LEFT WAY TRAFFICaBLACK TWO-WAY LEFT WAY TRAFFIC",
     "aWHITE TWO-WAY LEFT WAY TRAFFICaBLACK LEFT LANE MERGEaWHITE LEFT LANE MERGEaDRIVE SLOW SIGN",
     "aHEAVY WHITE DOWN-POINTING TRIANGLEaLEFT CLOSED ENTRYaSQUARED SALTIRE",
     "aFALLING DIAGONAL IN WHITE CIRCLE IN BLACK SQUAREaBLACK TRUCKaRESTRICTED LEFT ENTRY-1w2",
     "aASTRONOMICAL SYMBOL FOR URANUSaHEAVY CIRCLE WITH STROKE AND TWO DOTS ABOVEaPENTAGRAM",
     "aRIGHT-HANDED INTERLACED PENTAGRAMaLEFT-HANDED INTERLACED PENTAGRAMaINVERTED PENTAGRAM",
     "aBLACK CROSS ON SHIELDaSHINTO SHRINEaCHURCHbASTLEaHISTORIC SITEaGEAR WITHOUT HUBj HANDLES",
     "aMAP SYMBOL FOR LIGHTHOUSEbOUNTAINaUMBRELLA ON GROUNDaFOUNTAINbLAG IN HOLEbERRYaSAILBOAT",
     "bQUARE FOUR CORNERSbKIERaICE SKATEaPERSON WITH BALLaTENTaJAPANESE BANK SYMBOL",
     "aHEADSTONE GRAVEYARD SYMBOLaFUEL PUMPaCUP ON BLACK SQUARE",
     "aWHITE FLAG WITH HORIZONTAL MIDDLE BLACK STRIPEaBLACK SAFETY SCISSORSaUPPER BLADE SCISSORS",
     "aBLACK SCISSORSaLOWER BLADE SCISSORSaWHITE SCISSORSgHEAVY CHECK MARKaTELEPHONE LOCATION SIGN",
     "bAPE DRIVEaAIRPLANEaENVELOPEaRAISED FISThHANDaVICTORY HANDaWRITING HANDaLOWER RIGHT PENCIL",
     "aPENCILaUPPER RIGHT PENCILaWHITE NIBaBLACK NIBaCHECK MARKaHEAVY CHECK MARKaMULTIPLICATION X",
     "aHEAVY MULTIPLICATION XaBALLOT XaHEAVY BALLOT XaOUTLINED GREEK CROSSaHEAVY GREEK CROSS",
     "aOPEN CENTRE CROSSaHEAVY OPEN CENTRE CROSSaLATIN CROSSaSHADOWED WHITE LATIN CROSS",
     "aOUTLINED LATIN CROSSaMALTESE CROSSaSTAR OF DAVIDaFOUR TEARDROP-SPOKED ASTERISK",
     "fBALLOON-SPOKED ASTERISKaHEAVY FOUR BALLOON-SPOKED ASTERISKaFOUR CLUB-SPOKED ASTERISK",
     "aBLACK FOUR POINTED STARaWHITE FOUR POINTED STARaSPARKLESbTRESS OUTLINED WHITE STAR",
     "aCIRCLED WHITE STARaOPEN CENTRE BLACK STARaBLACK CENTRE WHITE STARaOUTLINED BLACK STAR",
     "aHEAVY OUTLINED BLACK STARaPINWHEEL STARaSHADOWED WHITE STARaHEAVY ASTERISK",
     "aOPEN CENTRE ASTERISKaEIGHT SPOKED ASTERISKgPOINTED BLACK STARoPINWHEEL STAR",
     "aSIX POINTED BLACK STARaEIGHT POINTED RECTILINEAR BLACK STAR",
     "aHEAVY EIGHT POINTED RECTILINEAR BLACK STARaTWELVE POINTED BLACK STAR",
     "aSIXTEEN POINTED ASTERISKaTEARDROP-SPOKED ASTERISKaOPEN CENTRE TEARDROP-SPOKED ASTERISK",
     "aHEAVY TEARDROP-SPOKED ASTERISKaSIX PETALLED BLACK AND WHITE FLORETTEaBLACK FLORETTE",
     "aWHITE FLORETTEaEIGHT PETALLED OUTLINED BLACK FLORETTE",
     "aCIRCLED OPEN CENTRE EIGHT POINTED STARaHEAVY TEARDROP-SPOKED PINWHEEL ASTERISKaSNOWFLAKE",
     "aTIGHT TRIFOLIATE SNOWFLAKEaHEAVY CHEVRON SNOWFLAKEaSPARKLEaHEAVY SPARKLE",
     "aBALLOON-SPOKED ASTERISKaEIGHT TEARDROP-SPOKED PROPELLER ASTERISK",
     "aHEAVY EIGHT TEARDROP-SPOKED PROPELLER ASTERISKaCROSS MARKaSHADOWED WHITE CIRCLE",
     "aNEGATIVE SQUARED CROSS MARKaLOWER RIGHT DROP-SHADOWED WHITE SQUARE",
     "aUPPER RIGHT DROP-SHADOWED WHITE SQUAREaLOWER RIGHT SHADOWED WHITE SQUARE",
     "aUPPER RIGHT SHADOWED WHITE SQUAREaBLACK QUESTION MARK ORNAMENTaWHITE QUESTION MARK ORNAMENT",
     "gEXCLAMATION MARK ORNAMENTaBLACK DIAMOND MINUS WHITE XaHEAVY EXCLAMATION MARK SYMBOL",
     "aLIGHT VERTICAL BARaMEDIUM VERTICAL BARaHEAVY VERTICAL BAR",
     "gSINGLE TURNED COMMA QUOTATION MARK ORNAMENTnCOMMA QUOTATION MARK ORNAMENT",
     "gDOUBLE TURNED COMMA QUOTATION MARK ORNAMENTnCOMMA QUOTATION MARK ORNAMENT",
     "gLOW SINGLE COMMA QUOTATION MARK ORNAMENTkDOUBLE COMMA QUOTATION MARK ORNAMENT",
     "aCURVED STEM PARAGRAPH SIGN ORNAMENTaHEAVY EXCLAMATION MARK ORNAMENT",
     "gHEART EXCLAMATION MARK ORNAMENTgBLACK HEARTaROTATED HEAVY BLACK HEART BULLETaFLORAL HEART",
     "aROTATED FLORAL HEART BULLETaMEDIUM LEFT PARENTHESIS ORNAMENThRIGHT PARENTHESIS ORNAMENT",
     "hFLATTENED LEFT PARENTHESIS ORNAMENTrRIGHT PARENTHESIS ORNAMENT",
     "hLEFT-POINTING ANGLE BRACKET ORNAMENThRIGHT-POINTING ANGLE BRACKET ORNAMENT",
     "aHEAVY LEFT-POINTING ANGLE QUOTATION MARK ORNAMENT",
     "gRIGHT-POINTING ANGLE QUOTATION MARK ORNAMENTgLEFT-POINTING ANGLE BRACKET ORNAMENT",
     "gRIGHT-POINTING ANGLE BRACKET ORNAMENTaLIGHT LEFT TORTOISE SHELL BRACKET ORNAMENT",
     "gRIGHT TORTOISE SHELL BRACKET ORNAMENTaMEDIUM LEFT CURLY BRACKET ORNAMENT",
     "hRIGHT CURLY BRACKET ORNAMENTaDINGBAT NEGATIVE CIRCLED DIGIT ONEzgTWOzhHREEzgFOURzhIVEzgSIX",
     "zhEVENzgEIGHTzgNINEzaNUMBER TENiCIRCLED SANS-SERIF DIGIT ONEziTWOzjHREEziFOURzjIVEziSIX",
     "zjEVENziEIGHTziNINEzcNUMBER TENiNEGATIVE CIRCLED SANS-SERIF DIGIT ONEzrTWOzsHREEzrFOURzsIVE",
     "zrSIXzsEVENzrEIGHTzrNINEzlNUMBER TENaHEAVY WIDE-HEADED RIGHTWARDS ARROWgPLUS SIGNgMINUS SIGN",
     "gDIVISION SIGNgSOUTH EAST ARROWgRIGHTWARDS ARROWgNORTH EAST ARROW",
     "aDRAFTING POINT RIGHTWARDS ARROWaHEAVY ROUND-TIPPED RIGHTWARDS ARROW",
     "aTRIANGLE-HEADED RIGHTWARDS ARROWaHEAVY TRIANGLE-HEADED RIGHTWARDS ARROW",
     "aDASHED TRIANGLE-HEADED RIGHTWARDS ARROWaHEAVY DASHED TRIANGLE-HEADED RIGHTWARDS ARROW",
     "aBLACK RIGHTWARDS ARROWaTHREE-D TOP-LIGHTED RIGHTWARDS ARROWHEAD",
     "iBOTTOM-LIGHTED RIGHTWARDS ARROWHEADaBLACK RIGHTWARDS ARROWHEAD",
     "aHEAVY BLACK CURVED DOWNWARDS AND RIGHTWARDS ARROWtUPWARDS AND RIGHTWARDS ARROW",
     "aSQUAT BLACK RIGHTWARDS ARROWaHEAVY CONCAVE-POINTED BLACK RIGHTWARDS ARROW",
     "aRIGHT-SHADED WHITE RIGHTWARDS ARROWaLEFT-SHADED WHITE RIGHTWARDS ARROW",
     "aBACK-TILTED SHADOWED WHITE RIGHTWARDS ARROWaFRONT-TILTED SHADOWED WHITE RIGHTWARDS ARROW",
     "aHEAVY LOWER RIGHT-SHADOWED WHITE RIGHTWARDS ARROW",
     "gUPPER RIGHT-SHADOWED WHITE RIGHTWARDS ARROW",
     "aNOTCHED LOWER RIGHT-SHADOWED WHITE RIGHTWARDS ARROWaCURLY LOOP",
     "aNOTCHED UPPER RIGHT-SHADOWED WHITE RIGHTWARDS ARROWaCIRCLED HEAVY WHITE RIGHTWARDS ARROW",
     "aWHITE-FEATHERED RIGHTWARDS ARROWaBLACK-FEATHERED SOUTH EAST ARROWqRIGHTWARDS ARROW",
     "qNORTH EAST ARROWaHEAVY BLACK-FEATHERED SOUTH EAST ARROWwRIGHTWARDS ARROWwNORTH EAST ARROW",
     "aTEARDROP-BARBED RIGHTWARDS ARROWaHEAVY TEARDROP-SHANKED RIGHTWARDS ARROW",
     "aWEDGE-TAILED RIGHTWARDS ARROWaHEAVY WEDGE-TAILED RIGHTWARDS ARROW",
     "aOPEN-OUTLINED RIGHTWARDS ARROWaDOUBLE CURLY LOOPaTHREE DIMENSIONAL ANGLE",
     "aWHITE TRIANGLE CONTAINING SMALL WHITE TRIANGLEaPERPENDICULARaOPEN SUBSEThPERSET",
     "aLEFT S-SHAPED BAG DELIMITERaRIGHT S-SHAPED BAG DELIMITERaOR WITH DOT INSIDE",
     "aREVERSE SOLIDUS PRECEDING SUBSETaSUPERSET PRECEDING SOLIDUS",
     "aVERTICAL BAR WITH HORIZONTAL STROKEaMATHEMATICAL RISING DIAGONALaLONG DIVISION",
     "aMATHEMATICAL FALLING DIAGONALaSQUARED LOGICAL ANDqORaWHITE DIAMOND WITH CENTRED DOT",
     "aAND WITH DOTaELEMENT OF OPENING UPWARDSaLOWER RIGHT CORNER WITH DOT",
     "aUPPER LEFT CORNER WITH DOTaLEFT OUTER JOINaRIGHT OUTER JOINaFULL OUTER JOINaLARGE UP TACK",
     "gDOWN TACKbEFT AND RIGHT DOUBLE TURNSTILEpTACKfMULTIMAPbONG RIGHT TACKfLEFT TACK",
     "aUP TACK WITH CIRCLE ABOVEaLOZENGE DIVIDED BY HORIZONTAL RULEaWHITE CONCAVE-SIDED DIAMOND",
     "zc WITH LEFTWARDS TICKziRIGHTWARDS TICKgSQUARE WITH LEFTWARDS TICKsRIGHTWARDS TICK",
     "aMATHEMATICAL LEFT WHITE SQUARE BRACKETnRIGHT WHITE SQUARE BRACKETnLEFT ANGLE BRACKET",
     "nRIGHT ANGLE BRACKETnLEFT DOUBLE ANGLE BRACKETnRIGHT DOUBLE ANGLE BRACKET",
     "nLEFT WHITE TORTOISE SHELL BRACKETnRIGHT WHITE TORTOISE SHELL BRACKET",
     "nLEFT FLATTENED PARENTHESISnRIGHT FLATTENED PARENTHESISaUPWARDS QUADRUPLE ARROW",
     "aDOWNWARDS QUADRUPLE ARROWaANTICLOCKWISE GAPPED CIRCLE ARROWaCLOCKWISE GAPPED CIRCLE ARROW",
     "aRIGHT ARROW WITH CIRCLED PLUSaLONG LEFTWARDS ARROWfRIGHTWARDS ARROWfLEFT RIGHT ARROW",
     "jWARDS DOUBLE ARROWfRIGHTWARDS DOUBLE ARROWfLEFT RIGHT DOUBLE ARROWjWARDS ARROW FROM BAR",
     "fRIGHTWARDS ARROW FROM BARfLEFTWARDS DOUBLE ARROW FROM BARfRIGHTWARDS DOUBLE ARROW FROM BAR",
     "qSQUIGGLE ARROWaBRAILLE PATTERN BLANKqDOTS-1v2v12v3v13v23v123v4v14v24v124v34v134v234v1234v5",
     "v15v25v125v35v135v235v1235v45v145v245v1245v345v1345v2345v12345v6v16v26v126v36v136v236v1236",
     "v46v146v246v1246v346v1346v2346v12346v56v156v256v1256v356v1356v2356v12356v456v1456v2456v12456",
     "v3456v13456v23456v123456v7v17v27v127v37v137v237v1237v47v147v247v1247v347v1347v2347v12347v57",
     "v157v257v1257v357v1357v2357v12357v457v1457v2457v12457v3457v13457v23457v123457v67v167v267",
     "v1267v367v1367v2367v12367v467v1467v2467v12467v3467v13467v23467v123467v567v1567v2567v12567",
     "v3567v13567v23567v123567v4567v14567v24567v124567v34567v134567v234567v1234567v8v18v28v128v38",
     "v138v238v1238v48v148v248v1248v348v1348v2348v12348v58v158v258v1258v358v1358v2358v12358v458",
     "v1458v2458v12458v3458v13458v23458v123458v68v168v268v1268v368v1368v2368v12368v468v1468v2468",
     "v12468v3468v13468v23468v123468v568v1568v2568v12568v3568v13568v23568v123568v4568v14568v24568",
     "v124568v34568v134568v234568v1234568v78v178v278v1278v378v1378v2378v12378v478v1478v2478v12478",
     "v3478v13478v23478v123478v578v1578v2578v12578v3578v13578v23578v123578v4578v14578v24578v124578",
     "v34578v134578v234578v1234578v678v1678v2678v12678v3678v13678v23678v123678v4678v14678v24678",
     "v124678v34678v134678v234678v1234678v5678v15678v25678v125678v35678v135678v235678v1235678",
     "v45678v145678v245678v1245678v345678v1345678v2345678v12345678",
     "aRIGHTWARDS TWO-HEADED ARROW WITH VERTICAL STROKEziDOUBLE VERTICAL STROKE",
     "aLEFTWARDS DOUBLE ARROW WITH VERTICAL STROKEaRIGHTWARDS DOUBLE ARROW WITH VERTICAL STROKE",
     "aLEFT RIGHT DOUBLE ARROW WITH VERTICAL STROKEaRIGHTWARDS TWO-HEADED ARROW FROM BAR",
     "aLEFTWARDS DOUBLE ARROW FROM BARaRIGHTWARDS DOUBLE ARROW FROM BAR",
     "aDOWNWARDS ARROW WITH HORIZONTAL STROKEaUPWARDS ARROW WITH HORIZONTAL STROKEiTRIPLE ARROW",
     "aDOWNWARDS TRIPLE ARROWaLEFTWARDS DOUBLE DASH ARROWaRIGHTWARDS DOUBLE DASH ARROW",
     "aLEFTWARDS TRIPLE DASH ARROWaRIGHTWARDS TRIPLE DASH ARROWmWO-HEADED TRIPLE DASH ARROW",
     "lARROW WITH DOTTED STEMaUPWARDS ARROW TO BARaDOWNWARDS ARROW TO BAR",
     "aRIGHTWARDS ARROW WITH TAIL WITH VERTICAL STROKEzhDOUBLE VERTICAL STROKE",
     "lTWO-HEADED ARROW WITH TAILzm WITH VERTICAL STROKEzsDOUBLE VERTICAL STROKE",
     "aLEFTWARDS ARROW-TAILaRIGHTWARDS ARROW-TAILaLEFTWARDS DOUBLE ARROW-TAIL",
     "aRIGHTWARDS DOUBLE ARROW-TAILaLEFTWARDS ARROW TO BLACK DIAMOND",
     "aRIGHTWARDS ARROW TO BLACK DIAMONDaLEFTWARDS ARROW FROM BAR TO BLACK DIAMOND",
     "aRIGHTWARDS ARROW FROM BAR TO BLACK DIAMONDaNORTH WEST AND SOUTH EAST ARROW",
     "gEAST AND SOUTH WEST ARROWgWEST ARROW WITH HOOKgEAST ARROW WITH HOOK",
     "aSOUTH EAST ARROW WITH HOOKgWEST ARROW WITH HOOKaNORTH WEST ARROW AND NORTH EAST ARROW",
     "gEAST ARROW AND SOUTH EAST ARROWaSOUTH EAST ARROW AND SOUTH WEST ARROW",
     "gWEST ARROW AND NORTH WEST ARROWaRISING DIAGONAL CROSSING FALLING DIAGONAL",
     "aFALLING DIAGONAL CROSSING RISING DIAGONALaSOUTH EAST ARROW CROSSING NORTH EAST ARROW",
     "aNORTH EAST ARROW CROSSING SOUTH EAST ARROWaFALLING DIAGONAL CROSSING NORTH EAST ARROW",
     "aRISING DIAGONAL CROSSING SOUTH EAST ARROWaNORTH EAST ARROW CROSSING NORTH WEST ARROW",
     "gWEST ARROW CROSSING NORTH EAST ARROWaWAVE ARROW POINTING DIRECTLY RIGHT",
     "aARROW POINTING RIGHTWARDS THEN CURVING UPWARDSzoDOWNWARDSpDOWNWARDS THEN CURVING LEFTWARDS",
     "znRIGHTWARDSaRIGHT-SIDE ARC CLOCKWISE ARROWaLEFT-SIDE ARC ANTICLOCKWISE ARROW",
     "aTOP ARC ANTICLOCKWISE ARROWaBOTTOM ARC ANTICLOCKWISE ARROW",
     "aTOP ARC CLOCKWISE ARROW WITH MINUSiANTICLOCKWISE ARROW WITH PLUS",
     "aLOWER RIGHT SEMICIRCULAR CLOCKWISE ARROWgLEFT SEMICIRCULAR ANTICLOCKWISE ARROW",
     "aANTICLOCKWISE CLOSED CIRCLE ARROWaCLOCKWISE CLOSED CIRCLE ARROW",
     "aRIGHTWARDS ARROW ABOVE SHORT LEFTWARDS ARROWaLEFTWARDS ARROW ABOVE SHORT RIGHTWARDS ARROW",
     "aSHORT RIGHTWARDS ARROW ABOVE LEFTWARDS ARROWaRIGHTWARDS ARROW WITH PLUS BELOW",
     "aLEFTWARDS ARROW WITH PLUS BELOWaRIGHTWARDS ARROW THROUGH X",
     "aLEFT RIGHT ARROW THROUGH SMALL CIRCLEaUPWARDS TWO-HEADED ARROW FROM SMALL CIRCLE",
     "aLEFT BARB UP RIGHT BARB DOWN HARPOONkDOWN RIGHT BARB UP HARPOON",
     "aUP BARB RIGHT DOWN BARB LEFT HARPOONiLEFT DOWN BARB RIGHT HARPOON",
     "aLEFT BARB UP RIGHT BARB UP HARPOONaUP BARB RIGHT DOWN BARB RIGHT HARPOON",
     "aLEFT BARB DOWN RIGHT BARB DOWN HARPOONaUP BARB LEFT DOWN BARB LEFT HARPOON",
     "aLEFTWARDS HARPOON WITH BARB UP TO BARaRIGHTWARDS HARPOON WITH BARB UP TO BAR",
     "aUPWARDS HARPOON WITH BARB RIGHT TO BARaDOWNWARDS HARPOON WITH BARB RIGHT TO BAR",
     "aLEFTWARDS HARPOON WITH BARB DOWN TO BARaRIGHTWARDS HARPOON WITH BARB DOWN TO BAR",
     "aUPWARDS HARPOON WITH BARB LEFT TO BARaDOWNWARDS HARPOON WITH BARB LEFT TO BAR",
     "aLEFTWARDS HARPOON WITH BARB UP FROM BARaRIGHTWARDS HARPOON WITH BARB UP FROM BAR",
     "aUPWARDS HARPOON WITH BARB RIGHT FROM BARaDOWNWARDS HARPOON WITH BARB RIGHT FROM BAR",
     "aLEFTWARDS HARPOON WITH BARB DOWN FROM BARaRIGHTWARDS HARPOON WITH BARB DOWN FROM BAR",
     "aUPWARDS HARPOON WITH BARB LEFT FROM BARaDOWNWARDS HARPOON WITH BARB LEFT FROM BAR",
     "aLEFTWARDS HARPOON WITH BARB UP ABOVE LEFTWARDS HARPOON WITH BARB DOWN",
     "aUPWARDS HARPOON WITH BARB LEFT BESIDE UPWARDS HARPOON WITH BARB RIGHT",
     "aRIGHTWARDS HARPOON WITH BARB UP ABOVE RIGHTWARDS HARPOON WITH BARB DOWN",
     "aDOWNWARDS HARPOON WITH BARB LEFT BESIDE DOWNWARDS HARPOON WITH BARB RIGHT",
     "aLEFTWARDS HARPOON WITH BARB UP ABOVE RIGHTWARDS HARPOON WITH BARB UP",
     "zdDOWN ABOVE RIGHTWARDS HARPOON WITH BARB DOWN",
     "aRIGHTWARDS HARPOON WITH BARB UP ABOVE LEFTWARDS HARPOON WITH BARB UP",
     "zeDOWN ABOVE LEFTWARDS HARPOON WITH BARB DOWNaLEFTWARDS HARPOON WITH BARB UP ABOVE LONG DASH",
     "zdDOWN BELOW LONG DASHaRIGHTWARDS HARPOON WITH BARB UP ABOVE LONG DASHzeDOWN BELOW LONG DASH",
     "aUPWARDS HARPOON WITH BARB LEFT BESIDE DOWNWARDS HARPOON WITH BARB RIGHT",
     "aDOWNWARDS HARPOON WITH BARB LEFT BESIDE UPWARDS HARPOON WITH BARB RIGHT",
     "aRIGHT DOUBLE ARROW WITH ROUNDED HEADaEQUALS SIGN ABOVE RIGHTWARDS ARROW",
     "aTILDE OPERATOR ABOVE RIGHTWARDS ARROWaLEFTWARDS ARROW ABOVE TILDE OPERATOR",
     "aRIGHTWARDS ARROW ABOVE TILDE OPERATORxALMOST EQUAL TOaLESS-THAN ABOVE LEFTWARDS ARROW",
     "cFTWARDS ARROW THROUGH LESS-THANaGREATER-THAN ABOVE RIGHTWARDS ARROW",
     "aSUBSET ABOVE RIGHTWARDS ARROWaLEFTWARDS ARROW THROUGH SUBSETaSUPERSET ABOVE LEFTWARDS ARROW",
     "aLEFT FISH TAILaRIGHT FISH TAILaUP FISH TAILaDOWN FISH TAILaTRIPLE VERTICAL BAR DELIMITER",
     "aZ NOTATION SPOTlTYPE COLONaLEFT WHITE CURLY BRACKETaRIGHT WHITE CURLY BRACKET",
     "aLEFT WHITE PARENTHESISaRIGHT WHITE PARENTHESISaZ NOTATION LEFT IMAGE BRACKET",
     "lRIGHT IMAGE BRACKETlLEFT BINDING BRACKETlRIGHT BINDING BRACKET",
     "aLEFT SQUARE BRACKET WITH UNDERBARaRIGHT SQUARE BRACKET WITH UNDERBAR",
     "aLEFT SQUARE BRACKET WITH TICK IN TOP CORNERaRIGHT SQUARE BRACKET WITH TICK IN BOTTOM CORNER",
     "aLEFT SQUARE BRACKET WITH TICK IN BOTTOM CORNERaRIGHT SQUARE BRACKET WITH TICK IN TOP CORNER",
     "aLEFT ANGLE BRACKET WITH DOTaRIGHT ANGLE BRACKET WITH DOTaLEFT ARC LESS-THAN BRACKET",
     "aRIGHT ARC GREATER-THAN BRACKETaDOUBLE LEFT ARC GREATER-THAN BRACKET",
     "hRIGHT ARC LESS-THAN BRACKETaLEFT BLACK TORTOISE SHELL BRACKET",
     "aRIGHT BLACK TORTOISE SHELL BRACKETaDOTTED FENCEaVERTICAL ZIGZAG LINE",
     "aMEASURED ANGLE OPENING LEFTaRIGHT ANGLE VARIANT WITH SQUAREaMEASURED RIGHT ANGLE WITH DOT",
     "aANGLE WITH S INSIDEbCUTE ANGLEaSPHERICAL ANGLE OPENING LEFTyUPaTURNED ANGLEaREVERSED ANGLE",
     "aANGLE WITH UNDERBARaREVERSED ANGLE WITH UNDERBARaOBLIQUE ANGLE OPENING UPwDOWN",
     "aMEASURED ANGLE WITH OPEN ARM ENDING IN ARROW POINTING UP AND RIGHTzzlLEFTzzeDOWN AND RIGHT",
     "zznLEFTzzeRIGHT AND UPzzeLEFT AND UPzzeRIGHT AND DOWNzzeLEFT AND DOWNaREVERSED EMPTY SET",
     "aEMPTY SET WITH OVERBARpSMALL CIRCLE ABOVEpRIGHT ARROW ABOVEpLEFT ARROW ABOVE",
     "aCIRCLE WITH HORIZONTAL BARgD VERTICAL BARiPARALLELiREVERSE SOLIDUSiPERPENDICULAR",
     "g DIVIDED BY HORIZONTAL BAR AND TOP HALF DIVIDED BY VERTICAL BARhWITH SUPERIMPOSED X",
     "gD ANTICLOCKWISE-ROTATED DIVISION SIGNaUP ARROW THROUGH CIRCLEaCIRCLED WHITE BULLETiBULLET",
     "iLESS-THANiGREATER-THANg WITH SMALL CIRCLE TO THE RIGHTmTWO HORIZONTAL STROKES TO THE RIGHT",
     "aSQUARED RISING DIAGONAL SLASHiFALLING DIAGONAL SLASHiASTERISKiSMALL CIRCLEjQUARE",
     "aTWO JOINED SQUARESbRIANGLE WITH DOT ABOVEoUNDERBARaS IN TRIANGLE",
     "aTRIANGLE WITH SERIFS AT BOTTOMaRIGHT TRIANGLE ABOVE LEFT TRIANGLE",
     "aLEFT TRIANGLE BESIDE VERTICAL BARaVERTICAL BAR BESIDE RIGHT TRIANGLE",
     "aBOWTIE WITH LEFT HALF BLACKmRIGHT HALF BLACKbLACK BOWTIEaTIMES WITH LEFT HALF BLACK",
     "lRIGHT HALF BLACKaWHITE HOURGLASSaBLACK HOURGLASSaLEFT WIGGLY FENCEaRIGHT WIGGLY FENCE",
     "aLEFT DOUBLE WIGGLY FENCEaRIGHT DOUBLE WIGGLY FENCEaINCOMPLETE INFINITYaTIE OVER INFINITY",
     "aINFINITY NEGATED WITH VERTICAL BARaDOUBLE-ENDED MULTIMAPaSQUARE WITH CONTOURED OUTLINE",
     "aINCREASES ASaSHUFFLE PRODUCTaEQUALS SIGN AND SLANTED PARALLELzh WITH TILDE ABOVE",
     "aIDENTICAL TO AND SLANTED PARALLELaGLEICH STARKaTHERMODYNAMIC",
     "aDOWN-POINTING TRIANGLE WITH LEFT HALF BLACKzdRIGHT HALF BLACKaBLACK DIAMOND WITH DOWN ARROW",
     "gLOZENGEaWHITE CIRCLE WITH DOWN ARROWaBLACK CIRCLE WITH DOWN ARROWaERROR-BARRED WHITE SQUARE",
     "nBLACK SQUAREnWHITE DIAMONDnBLACK DIAMONDnWHITE CIRCLEnBLACK CIRCLEaRULE-DELAYED",
     "bEVERSE SOLIDUS OPERATORaSOLIDUS WITH OVERBARaREVERSE SOLIDUS WITH HORIZONTAL STROKE",
     "aBIG SOLIDUSeREVERSE SOLIDUSaDOUBLE PLUSaTRIPLE PLUSaLEFT-POINTING CURVED ANGLE BRACKET",
     "aRIGHT-POINTING CURVED ANGLE BRACKETaTINYaMINYaN-ARY CIRCLED DOT OPERATORoPLUS OPERATOR",
     "oTIMES OPERATORgUNION OPERATOR WITH DOTzbPLUSgSQUARE INTERSECTION OPERATORnUNION OPERATOR",
     "aTWO LOGICAL AND OPERATORmOR OPERATORaN-ARY TIMES OPERATORaMODULO TWO SUM",
     "aSUMMATION WITH INTEGRALaQUADRUPLE INTEGRAL OPERATORaFINITE PART INTEGRAL",
     "aINTEGRAL WITH DOUBLE STROKEjAVERAGE WITH SLASHaCIRCULATION FUNCTION",
     "aANTICLOCKWISE INTEGRATIONaLINE INTEGRATION WITH RECTANGULAR PATH AROUND POLE",
     "wSEMICIRCULAR PATH AROUND POLErNOT INCLUDING THE POLEaINTEGRAL AROUND A POINT OPERATOR",
     "aQUATERNION INTEGRAL OPERATORaINTEGRAL WITH LEFTWARDS ARROW WITH HOOKoTIMES SIGN",
     "oINTERSECTIONoUNIONoOVERBARoUNDERBARaJOINaLARGE LEFT TRIANGLE OPERATOR",
     "aZ NOTATION SCHEMA COMPOSITIONsPIPINGtROJECTIONaPLUS SIGN WITH SMALL CIRCLE ABOVE",
     "pCIRCUMFLEX ACCENT ABOVEpTILDE ABOVEpDOT BELOWpTILDE BELOWpSUBSCRIPT TWOpBLACK TRIANGLE",
     "aMINUS SIGN WITH COMMA ABOVEqDOT BELOWqFALLING DOTSqRISING DOTS",
     "aPLUS SIGN IN LEFT HALF CIRCLEnRIGHT HALF CIRCLEaVECTOR OR CROSS PRODUCT",
     "aMULTIPLICATION SIGN WITH DOT ABOVEzaUNDERBARaSEMIDIRECT PRODUCT WITH BOTTOM CLOSED",
     "bMASH PRODUCTaMULTIPLICATION SIGN IN LEFT HALF CIRCLExRIGHT HALF CIRCLE",
     "aCIRCLED MULTIPLICATION SIGN WITH CIRCUMFLEX ACCENTaMULTIPLICATION SIGN IN DOUBLE CIRCLE",
     "aCIRCLED DIVISION SIGNaPLUS SIGN IN TRIANGLEaMINUS SIGN IN TRIANGLE",
     "bULTIPLICATION SIGN IN TRIANGLEaINTERIOR PRODUCTaRIGHTHAND INTERIOR PRODUCT",
     "aZ NOTATION RELATIONAL COMPOSITIONaAMALGAMATION OR COPRODUCTaINTERSECTION WITH DOT",
     "aUNION WITH MINUS SIGNlOVERBARaINTERSECTION WITH OVERBARsLOGICAL ANDaUNION WITH LOGICAL OR",
     "gABOVE INTERSECTIONaINTERSECTION ABOVE UNIONaUNION ABOVE BAR ABOVE INTERSECTION",
     "aINTERSECTION ABOVE BAR ABOVE UNIONaUNION BESIDE AND JOINED WITH UNION",
     "aINTERSECTION BESIDE AND JOINED WITH INTERSECTIONaCLOSED UNION WITH SERIFS",
     "hINTERSECTION WITH SERIFSaDOUBLE SQUARE INTERSECTIONoUNION",
     "aCLOSED UNION WITH SERIFS AND SMASH PRODUCTaLOGICAL AND WITH DOT ABOVEiOR WITH DOT ABOVE",
     "aDOUBLE LOGICAL ANDpORaTWO INTERSECTING LOGICAL ANDzaORaSLOPING LARGE ORoAND",
     "aLOGICAL OR OVERLAPPING LOGICAL ANDiAND WITH MIDDLE STEMiOR WITH MIDDLE STEM",
     "iAND WITH HORIZONTAL DASHiOR WITH HORIZONTAL DASHiAND WITH DOUBLE OVERBARrUNDERBAR",
     "rDOUBLE UNDERBARaSMALL VEE WITH UNDERBARaLOGICAL OR WITH DOUBLE OVERBARxUNDERBAR",
     "aZ NOTATION DOMAIN ANTIRESTRICTIONlRANGE ANTIRESTRICTIONaEQUALS SIGN WITH DOT BELOW",
     "aIDENTICAL WITH DOT ABOVEaTRIPLE HORIZONTAL BAR WITH DOUBLE VERTICAL STROKE",
     "zcTRIPLE VERTICAL STROKEbILDE OPERATOR WITH DOT ABOVEuRISING DOTSaSIMILAR MINUS SIMILAR",
     "aCONGRUENT WITH DOT ABOVEaEQUALS WITH ASTERISKaALMOST EQUAL TO WITH CIRCUMFLEX ACCENT",
     "bPPROXIMATELY EQUAL OR EQUAL TOaEQUALS SIGN ABOVE PLUS SIGNaPLUS SIGN ABOVE EQUALS SIGN",
     "aEQUALS SIGN ABOVE TILDE OPERATORaDOUBLE COLON EQUALaTWO CONSECUTIVE EQUALS SIGNS",
     "bHREE CONSECUTIVE EQUALS SIGNSaEQUALS SIGN WITH TWO DOTS ABOVE AND TWO DOTS BELOW",
     "dIVALENT WITH FOUR DOTS ABOVEaLESS-THAN WITH CIRCLE INSIDEaGREATER-THAN WITH CIRCLE INSIDE",
     "aLESS-THAN WITH QUESTION MARK ABOVEaGREATER-THAN WITH QUESTION MARK ABOVE",
     "aLESS-THAN OR SLANTED EQUAL TOaGREATER-THAN OR SLANTED EQUAL TO",
     "aLESS-THAN OR SLANTED EQUAL TO WITH DOT INSIDE",
     "aGREATER-THAN OR SLANTED EQUAL TO WITH DOT INSIDE",
     "aLESS-THAN OR SLANTED EQUAL TO WITH DOT ABOVE",
     "aGREATER-THAN OR SLANTED EQUAL TO WITH DOT ABOVE",
     "aLESS-THAN OR SLANTED EQUAL TO WITH DOT ABOVE RIGHT",
     "aGREATER-THAN OR SLANTED EQUAL TO WITH DOT ABOVE LEFTaLESS-THAN OR APPROXIMATE",
     "aGREATER-THAN OR APPROXIMATEaLESS-THAN AND SINGLE-LINE NOT EQUAL TO",
     "aGREATER-THAN AND SINGLE-LINE NOT EQUAL TOaLESS-THAN AND NOT APPROXIMATE",
     "aGREATER-THAN AND NOT APPROXIMATEaLESS-THAN ABOVE DOUBLE-LINE EQUAL ABOVE GREATER-THAN",
     "aGREATER-THAN ABOVE DOUBLE-LINE EQUAL ABOVE LESS-THANaLESS-THAN ABOVE SIMILAR OR EQUAL",
     "aGREATER-THAN ABOVE SIMILAR OR EQUALaLESS-THAN ABOVE SIMILAR ABOVE GREATER-THAN",
     "aGREATER-THAN ABOVE SIMILAR ABOVE LESS-THAN",
     "aLESS-THAN ABOVE GREATER-THAN ABOVE DOUBLE-LINE EQUAL",
     "aGREATER-THAN ABOVE LESS-THAN ABOVE DOUBLE-LINE EQUAL",
     "aLESS-THAN ABOVE SLANTED EQUAL ABOVE GREATER-THAN ABOVE SLANTED EQUAL",
     "aGREATER-THAN ABOVE SLANTED EQUAL ABOVE LESS-THAN ABOVE SLANTED EQUAL",
     "aSLANTED EQUAL TO OR LESS-THANuGREATER-THANuLESS-THAN WITH DOT INSIDE",
     "uGREATER-THAN WITH DOT INSIDEaDOUBLE-LINE EQUAL TO OR LESS-THANyGREATER-THAN",
     "mSLANTED EQUAL TO OR LESS-THANzhGREATER-THANaSIMILAR OR LESS-THANlGREATER-THAN",
     "iABOVE LESS-THAN ABOVE EQUALS SIGNoGREATER-THAN ABOVE EQUALS SIGNaDOUBLE NESTED LESS-THAN",
     "oGREATER-THANoLESS-THAN WITH UNDERBARaGREATER-THAN OVERLAPPING LESS-THANnBESIDE LESS-THAN",
     "aLESS-THAN CLOSED BY CURVEaGREATER-THAN CLOSED BY CURVE",
     "aLESS-THAN CLOSED BY CURVE ABOVE SLANTED EQUAL",
     "aGREATER-THAN CLOSED BY CURVE ABOVE SLANTED EQUALaSMALLER THANaLARGER THAN",
     "aSMALLER THAN OR EQUAL TOaLARGER THAN OR EQUAL TOaEQUALS SIGN WITH BUMPY ABOVE",
     "aPRECEDES ABOVE SINGLE-LINE EQUALS SIGNaSUCCEEDS ABOVE SINGLE-LINE EQUALS SIGN",
     "aPRECEDES ABOVE SINGLE-LINE NOT EQUAL TOaSUCCEEDS ABOVE SINGLE-LINE NOT EQUAL TO",
     "aPRECEDES ABOVE EQUALS SIGNaSUCCEEDS ABOVE EQUALS SIGNaPRECEDES ABOVE NOT EQUAL TO",
     "aSUCCEEDS ABOVE NOT EQUAL TOaPRECEDES ABOVE ALMOST EQUAL TOaSUCCEEDS ABOVE ALMOST EQUAL TO",
     "aPRECEDES ABOVE NOT ALMOST EQUAL TOaSUCCEEDS ABOVE NOT ALMOST EQUAL TOaDOUBLE PRECEDES",
     "hSUCCEEDSaSUBSET WITH DOTcPERSET WITH DOTcBSET WITH PLUS SIGN BELOW",
     "cPERSET WITH PLUS SIGN BELOWcBSET WITH MULTIPLICATION SIGN BELOW",
     "cPERSET WITH MULTIPLICATION SIGN BELOWcBSET OF OR EQUAL TO WITH DOT ABOVE",
     "cPERSET OF OR EQUAL TO WITH DOT ABOVEcBSET OF ABOVE EQUALS SIGNcPERSET OF ABOVE EQUALS SIGN",
     "cBSET OF ABOVE TILDE OPERATORcPERSET OF ABOVE TILDE OPERATORcBSET OF ABOVE ALMOST EQUAL TO",
     "cPERSET OF ABOVE ALMOST EQUAL TOcBSET OF ABOVE NOT EQUAL TOcPERSET OF ABOVE NOT EQUAL TO",
     "bQUARE LEFT OPEN BOX OPERATORhRIGHT OPEN BOX OPERATORaCLOSED SUBSETjPERSETjBSET OR EQUAL TO",
     "jPERSET OR EQUAL TOaSUBSET ABOVE SUPERSETcPERSET ABOVE SUBSETcBSET ABOVE SUBSET",
     "cPERSET ABOVE SUPERSETjBESIDE SUBSETqAND JOINED BY DASH WITH SUBSET",
     "aELEMENT OF OPENING DOWNWARDSaPITCHFORK WITH TEE TOPaTRANSVERSAL INTERSECTIONaFORKING",
     "aNONFORKINGaSHORT LEFT TACKgDOWN TACKgUP TACKaPERPENDICULAR WITH S",
     "aVERTICAL BAR TRIPLE RIGHT TURNSTILEaDOUBLE VERTICAL BAR LEFT TURNSTILE",
     "aVERTICAL BAR DOUBLE LEFT TURNSTILEaDOUBLE VERTICAL BAR DOUBLE LEFT TURNSTILE",
     "aLONG DASH FROM LEFT MEMBER OF DOUBLE VERTICALaSHORT DOWN TACK WITH OVERBAR",
     "gUP TACK WITH UNDERBARoABOVE SHORT DOWN TACKaDOUBLE DOWN TACKhUP TACKhSTROKE NOT SIGN",
     "aREVERSED DOUBLE STROKE NOT SIGNaDOES NOT DIVIDE WITH REVERSED NEGATION SLASH",
     "aVERTICAL LINE WITH CIRCLE ABOVEzbBELOWaDOWN TACK WITH CIRCLE BELOW",
     "aPARALLEL WITH HORIZONTAL STROKEoTILDE OPERATORaTRIPLE VERTICAL BAR BINARY RELATION",
     "uWITH HORIZONTAL STROKEhCOLON OPERATORhNESTED LESS-THANoGREATER-THAN",
     "aDOUBLE-LINE SLANTED LESS-THAN OR EQUAL TOuGREATER-THAN OR EQUAL TO",
     "aTRIPLE SOLIDUS BINARY RELATIONaLARGE TRIPLE VERTICAL BAR OPERATORaDOUBLE SOLIDUS OPERATOR",
     "aWHITE VERTICAL BARaN-ARY WHITE VERTICAL BARbORTH EAST WHITE ARROWgWEST WHITE ARROW",
     "aSOUTH EAST WHITE ARROWgWEST WHITE ARROWaLEFT RIGHT WHITE ARROWeWARDS BLACK ARROW",
     "aUPWARDS BLACK ARROWaDOWNWARDS BLACK ARROWaNORTH EAST BLACK ARROWgWEST BLACK ARROW",
     "aSOUTH EAST BLACK ARROWgWEST BLACK ARROWaLEFT RIGHT BLACK ARROWaUP DOWN BLACK ARROW",
     "aRIGHTWARDS ARROW WITH TIP DOWNWARDSzbUPWARDSaLEFTWARDS ARROW WITH TIP DOWNWARDSzaUPWARDS",
     "aSQUARE WITH TOP HALF BLACKmBOTTOM HALF BLACKmUPPER RIGHT DIAGONAL HALF BLACK",
     "mLOWER LEFT DIAGONAL HALF BLACKaDIAMOND WITH LEFT HALF BLACKnRIGHT HALF BLACKnTOP HALF BLACK",
     "nBOTTOM HALF BLACKbOTTED SQUAREaBLACK LARGE SQUAREaWHITE LARGE SQUARE",
     "aBLACK VERY SMALL SQUAREaWHITE VERY SMALL SQUAREaBLACK PENTAGONaWHITE PENTAGONgHEXAGON",
     "aBLACK HEXAGONaHORIZONTAL BLACK HEXAGONaBLACK LARGE CIRCLEgMEDIUM DIAMOND",
     "aWHITE MEDIUM DIAMONDaBLACK MEDIUM LOZENGEaWHITE MEDIUM LOZENGEaBLACK SMALL DIAMONDmLOZENGE",
     "aWHITE SMALL LOZENGEaBLACK HORIZONTAL ELLIPSEaWHITE HORIZONTAL ELLIPSE",
     "aBLACK VERTICAL ELLIPSEaWHITE VERTICAL ELLIPSEaLEFT ARROW WITH SMALL CIRCLE",
     "aTHREE LEFTWARDS ARROWSaLEFT ARROW WITH CIRCLED PLUSbONG LEFTWARDS SQUIGGLE ARROW",
     "bEFTWARDS TWO-HEADED ARROW WITH VERTICAL STROKEzhDOUBLE VERTICAL STROKEzcFROM BAR",
     "vTRIPLE DASH ARROWkARROW WITH DOTTED STEMvTAIL WITH VERTICAL STROKEzgDOUBLE VERTICAL STROKE",
     "kTWO-HEADED ARROW WITH TAILzl WITH VERTICAL STROKEzrDOUBLE VERTICAL STROKEkARROW THROUGH X",
     "aWAVE ARROW POINTING DIRECTLY LEFTaEQUALS SIGN ABOVE LEFTWARDS ARROW",
     "aREVERSE TILDE OPERATOR ABOVE LEFTWARDS ARROWaLEFTWARDS ARROW ABOVE REVERSE ALMOST EQUAL TO",
     "aRIGHTWARDS ARROW THROUGH GREATER-THANzaSUPERSETaLEFTWARDS QUADRUPLE ARROW",
     "aRIGHTWARDS QUADRUPLE ARROWbEVERSE TILDE OPERATOR ABOVE RIGHTWARDS ARROW",
     "bIGHTWARDS ARROW ABOVE REVERSE ALMOST EQUAL TOaTILDE OPERATOR ABOVE LEFTWARDS ARROW",
     "aLEFTWARDS ARROW ABOVE ALMOST EQUAL TOwREVERSE TILDE OPERATOR",
     "aRIGHTWARDS ARROW ABOVE REVERSE TILDE OPERATORaDOWNWARDS TRIANGLE-HEADED ZIGZAG ARROW",
     "aSHORT SLANTED NORTH ARROWgBACKSLANTED SOUTH ARROWaWHITE MEDIUM STARaBLACK SMALL STAR",
     "aWHITE SMALL STARaBLACK RIGHT-POINTING PENTAGONaWHITE RIGHT-POINTING PENTAGON",
     "aHEAVY LARGE CIRCLEgOVAL WITH OVAL INSIDEgCIRCLE WITH CIRCLE INSIDElEmD SALTIRE",
     "aSLANTED NORTH ARROW WITH HOOKED HEADaBACKSLANTED SOUTH ARROW WITH HOOKED TAIL",
     "aSLANTED NORTH ARROW WITH HORIZONTAL TAILaBACKSLANTED SOUTH ARROW WITH HORIZONTAL TAIL",
     "bENT ARROW POINTING DOWNWARDS THEN NORTH EAST",
     "aSHORT BENT ARROW POINTING DOWNWARDS THEN NORTH EASTaLEFTWARDS TRIANGLE-HEADED ARROW",
     "aUPWARDS TRIANGLE-HEADED ARROWaRIGHTWARDS TRIANGLE-HEADED ARROW",
     "aDOWNWARDS TRIANGLE-HEADED ARROWaLEFT RIGHT TRIANGLE-HEADED ARROW",
     "aUP DOWN TRIANGLE-HEADED ARROWaNORTH WEST TRIANGLE-HEADED ARROWgEAST TRIANGLE-HEADED ARROW",
     "aSOUTH EAST TRIANGLE-HEADED ARROWgWEST TRIANGLE-HEADED ARROW",
     "aLEFTWARDS TRIANGLE-HEADED DASHED ARROWaUPWARDS TRIANGLE-HEADED DASHED ARROW",
     "aRIGHTWARDS TRIANGLE-HEADED DASHED ARROWaDOWNWARDS TRIANGLE-HEADED DASHED ARROW",
     "aCLOCKWISE TRIANGLE-HEADED OPEN CIRCLE ARROWaANTICLOCKWISE TRIANGLE-HEADED OPEN CIRCLE ARROW",
     "aLEFTWARDS TRIANGLE-HEADED ARROW TO BARaUPWARDS TRIANGLE-HEADED ARROW TO BAR",
     "aRIGHTWARDS TRIANGLE-HEADED ARROW TO BARaDOWNWARDS TRIANGLE-HEADED ARROW TO BAR",
     "=2B76aNORTH WEST TRIANGLE-HEADED ARROW TO BARgEAST TRIANGLE-HEADED ARROW TO BAR",
     "aSOUTH EAST TRIANGLE-HEADED ARROW TO BARgWEST TRIANGLE-HEADED ARROW TO BAR",
     "aLEFTWARDS TRIANGLE-HEADED ARROW WITH DOUBLE HORIZONTAL STROKE",
     "aUPWARDS TRIANGLE-HEADED ARROW WITH DOUBLE HORIZONTAL STROKE",
     "aRIGHTWARDS TRIANGLE-HEADED ARROW WITH DOUBLE HORIZONTAL STROKE",
     "aDOWNWARDS TRIANGLE-HEADED ARROW WITH DOUBLE HORIZONTAL STROKEaHORIZONTAL TAB KEY",
     "aVERTICAL TAB KEYaLEFTWARDS TRIANGLE-HEADED ARROW OVER RIGHTWARDS TRIANGLE-HEADED ARROW",
     "aUPWARDS TRIANGLE-HEADED ARROW LEFTWARDS OF DOWNWARDS TRIANGLE-HEADED ARROW",
     "aRIGHTWARDS TRIANGLE-HEADED ARROW OVER LEFTWARDS TRIANGLE-HEADED ARROW",
     "aDOWNWARDS TRIANGLE-HEADED ARROW LEFTWARDS OF UPWARDS TRIANGLE-HEADED ARROW",
     "aLEFTWARDS TRIANGLE-HEADED PAIRED ARROWSaUPWARDS TRIANGLE-HEADED PAIRED ARROWS",
     "aRIGHTWARDS TRIANGLE-HEADED PAIRED ARROWSaDOWNWARDS TRIANGLE-HEADED PAIRED ARROWS",
     "aLEFTWARDS BLACK CIRCLED WHITE ARROWaUPWARDS BLACK CIRCLED WHITE ARROW",
     "aRIGHTWARDS BLACK CIRCLED WHITE ARROWaDOWNWARDS BLACK CIRCLED WHITE ARROW",
     "aANTICLOCKWISE TRIANGLE-HEADED RIGHT U-SHAPED ARROWzfBOTTOM U-SHAPED ARROW",
     "zfLEFT U-SHAPED ARROWzfTOP U-SHAPED ARROWaRETURN LEFThRIGHTaNEWLINE LEFTiRIGHT",
     "aFOUR CORNER ARROWS CIRCLING ANTICLOCKWISEaRIGHTWARDS BLACK ARROW",
     "=2B97aSYMBOL FOR TYPE A ELECTRONICSaTHREE-D TOP-LIGHTED LEFTWARDS EQUILATERAL ARROWHEAD",
     "iRIGHT-LIGHTED UPWARDS EQUILATERAL ARROWHEADiTOP-LIGHTED RIGHTWARDS EQUILATERAL ARROWHEAD",
     "iLEFT-LIGHTED DOWNWARDS EQUILATERAL ARROWHEADaBLACK LEFTWARDS EQUILATERAL ARROWHEAD",
     "gUPWARDS EQUILATERAL ARROWHEADgRIGHTWARDS EQUILATERAL ARROWHEAD",
     "gDOWNWARDS EQUILATERAL ARROWHEADaDOWNWARDS TRIANGLE-HEADED ARROW WITH LONG TIP LEFTWARDS",
     "zvRIGHTWARDSaUPWARDS TRIANGLE-HEADED ARROW WITH LONG TIP LEFTWARDSztRIGHTWARDS",
     "aLEFTWARDS TRIANGLE-HEADED ARROW WITH LONG TIP UPWARDS",
     "aRIGHTWARDS TRIANGLE-HEADED ARROW WITH LONG TIP UPWARDS",
     "aLEFTWARDS TRIANGLE-HEADED ARROW WITH LONG TIP DOWNWARDS",
     "aRIGHTWARDS TRIANGLE-HEADED ARROW WITH LONG TIP DOWNWARDS",
     "aBLACK CURVED DOWNWARDS AND LEFTWARDS ARROWzcRIGHTWARDS ARROWnUPWARDS AND LEFTWARDS ARROW",
     "zaRIGHTWARDS ARROWnLEFTWARDS AND UPWARDS ARROWnRIGHTWARDS AND UPWARDS ARROW",
     "nLEFTWARDS AND DOWNWARDS ARROWnRIGHTWARDS AND DOWNWARDS ARROWaRIBBON ARROW DOWN LEFTsRIGHT",
     "nUP LEFTqRIGHTnLEFT UPnRIGHT UPnLEFT DOWNnRIGHT DOWN",
     "aUPWARDS WHITE ARROW FROM BAR WITH HORIZONTAL BARc ARROWHEAD IN A RECTANGLE BOX",
     "aOVERLAPPING WHITE SQUARESsAND BLACK SQUARESmBLACK SQUARESaBALLOT BOX WITH LIGHT XaCIRCLED X",
     "iBOLD XaBLACK SQUARE CENTREDgDIAMOND CENTREDaTURNED BLACK PENTAGONaHORIZONTAL BLACK OCTAGON",
     "aBLACK OCTAGONgMEDIUM UP-POINTING TRIANGLE CENTREDnDOWN-POINTING TRIANGLE CENTRED",
     "nLEFT-POINTING TRIANGLE CENTREDnRIGHT-POINTING TRIANGLE CENTREDaNEPTUNE FORM TWO",
     "aTOP HALF BLACK CIRCLEaBOTTOM HALF BLACK CIRCLEaLIGHT FOUR POINTED BLACK CUSP",
     "aROTATED LIGHT FOUR POINTED BLACK CUSPaWHITE FOUR POINTED CUSP",
     "aROTATED WHITE FOUR POINTED CUSPaSQUARE POSITION INDICATORaUNCERTAINTY SIGNaGROUP MARK",
     "aPLUTO FORM TWOmHREElFOURmIVEaTRANSPLUTOaPROSERPINAaASTRAEAaHYGIEAaPHOLUSaNESSUS",
     "aWHITE MOON SELENAaBLACK DIAMOND ON CROSSaTRUE LIGHT MOON ARTAaCUPIDOaHADESaZEUSaKRONOS",
     "aAPOLLONbDMETOSaVULCANUSaPOSEIDONaLEFT HALF BLACK STARaRIGHT HALF BLACK STAR",
     "aSTAR WITH LEFT HALF BLACKkRIGHT HALF BLACK",
     "aLEFTWARDS TWO-HEADED ARROW WITH TRIANGLE ARROWHEADS",
     "aUPWARDS TWO-HEADED ARROW WITH TRIANGLE ARROWHEADS",
     "aRIGHTWARDS TWO-HEADED ARROW WITH TRIANGLE ARROWHEADS",
     "aDOWNWARDS TWO-HEADED ARROW WITH TRIANGLE ARROWHEADSaERIS FORM ONEkTWOaSEDNA",
     "aRUSSIAN ASTROLOGICAL SYMBOL VIGINTILEzdNOVILEzdQUINTILEzdBINOVILEzdSENTAGONzdTREDECILE",
     "aEQUALS SIGN WITH INFINITY BELOWaUNITED SYMBOLaSEPARATED SYMBOLaDOUBLED SYMBOLaPASSED SYMBOL",
     "aREVERSED RIGHT ANGLEaHELLSCHREIBER PAUSE SYMBOLaGLAGOLITIC CAPITAL LETTER AZUzbBUKYzbVEDE",
     "zbGLAGOLIzbDOBROzbYESTUzbZHIVETEzbDZELOzbZEMLJAzbIZHEzcNITIAL IZHEzbIzbDJERVIzbKAKOzbLJUDIJE",
     "zbMYSLITEzbNASHIzbONUzbPOKOJIzbRITSIzbSLOVOzbTVRIDOzbUKUzbFRITUzbHERUzbOTUzbPEzbSHTAzbTSI",
     "zbCHRIVIzbSHAzbYERUzeIzcATIzbSPIDERY HAzbYUzbSMALL YUSzk WITH TAILzbYOzbIOTATED SMALL YUS",
     "zbBIG YUSzbIOTATED BIG YUSzbFITAzbIZHITSAzbSHTAPICzbTROKUTASTI AzbLATINATE MYSLITE",
     "zbCAUDATE CHRIVIlSMALL LETTER AZUyBUKYyVEDEyGLAGOLIyDOBROyYESTUyZHIVETEyDZELOyZEMLJAyIZHE",
     "zaNITIAL IZHEyIyDJERVIyKAKOyLJUDIJEyMYSLITEyNASHIyONUyPOKOJIyRITSIySLOVOyTVRIDOyUKUyFRITU",
     "yHERUyOTUyPEySHTAyTSIyCHRIVIySHAyYERUzcIzaATIySPIDERY HAyYUySMALL YUSzi WITH TAILyYO",
     "yIOTATED SMALL YUSyBIG YUSyIOTATED BIG YUSyFITAyIZHITSAySHTAPICyTROKUTASTI A",
     "yLATINATE MYSLITEyCAUDATE CHRIVIaLATIN CAPITAL LETTER L WITH DOUBLE BAR",
     "gSMALL LETTER L WITH DOUBLE BARgCAPITAL LETTER L WITH MIDDLE TILDEvP WITH STROKEvR WITH TAIL",
     "gSMALL LETTER A WITH STROKEtT WITH DIAGONAL STROKEgCAPITAL LETTER H WITH DESCENDER",
     "gSMALL LETTER H WITH DESCENDERgCAPITAL LETTER K WITH DESCENDERgSMALL LETTER K WITH DESCENDER",
     "gCAPITAL LETTER Z WITH DESCENDERgSMALL LETTER Z WITH DESCENDERgCAPITAL LETTER ALPHA",
     "vM WITH HOOKvTURNED AzeLPHAgSMALL LETTER V WITH RIGHT HOOKgCAPITAL LETTER W WITH HOOK",
     "gSMALL LETTER W WITH HOOKtV WITH CURLgCAPITAL LETTER HALF HgSMALL LETTER HALF HtTAILLESS PHI",
     "tE WITH NOTCHtTURNED R WITH TAILtO WITH LOW RING INSIDEgLETTER SMALL CAPITAL TURNED E",
     "gSUBSCRIPT SMALL LETTER JaMODIFIER LETTER CAPITAL VaLATIN CAPITAL LETTER S WITH SWASH TAIL",
     "vZ WITH SWASH TAILaCOPTIC CAPITAL LETTER ALFAhSMALL LETTER ALFAhCAPITAL LETTER VIDA",
     "hSMALL LETTER VIDAhCAPITAL LETTER GAMMAhSMALL LETTER GAMMAhCAPITAL LETTER DALDA",
     "hSMALL LETTER DALDAhCAPITAL LETTER EIEhSMALL LETTER EIEhCAPITAL LETTER SOUhSMALL LETTER SOU",
     "hCAPITAL LETTER ZATAhSMALL LETTER ZATAhCAPITAL LETTER HATEhSMALL LETTER HATE",
     "hCAPITAL LETTER THETHEhSMALL LETTER THETHEhCAPITAL LETTER IAUDAhSMALL LETTER IAUDA",
     "hCAPITAL LETTER KAPAhSMALL LETTER KAPAhCAPITAL LETTER LAULAhSMALL LETTER LAULA",
     "hCAPITAL LETTER MIhSMALL LETTER MIhCAPITAL LETTER NIhSMALL LETTER NIhCAPITAL LETTER KSI",
     "hSMALL LETTER KSIhCAPITAL LETTER OhSMALL LETTER OhCAPITAL LETTER PIhSMALL LETTER PI",
     "hCAPITAL LETTER ROhSMALL LETTER ROhCAPITAL LETTER SIMAhSMALL LETTER SIMAhCAPITAL LETTER TAU",
     "hSMALL LETTER TAUhCAPITAL LETTER UAhSMALL LETTER UAhCAPITAL LETTER FIhSMALL LETTER FI",
     "hCAPITAL LETTER KHIhSMALL LETTER KHIhCAPITAL LETTER PSIhSMALL LETTER PSIhCAPITAL LETTER OOU",
     "hSMALL LETTER OOUhCAPITAL LETTER DIALECT-P ALEFhSMALL LETTER DIALECT-P ALEF",
     "hCAPITAL LETTER OLD COPTIC AINhSMALL LETTER OLD COPTIC AINhCAPITAL LETTER CRYPTOGRAMMIC EIE",
     "hSMALL LETTER CRYPTOGRAMMIC EIEhCAPITAL LETTER DIALECT-P KAPAhSMALL LETTER DIALECT-P KAPA",
     "hCAPITAL LETTER DIALECT-P NIhSMALL LETTER DIALECT-P NIhCAPITAL LETTER CRYPTOGRAMMIC NI",
     "hSMALL LETTER CRYPTOGRAMMIC NIhCAPITAL LETTER OLD COPTIC OOUhSMALL LETTER OLD COPTIC OOU",
     "hCAPITAL LETTER SAMPIhSMALL LETTER SAMPIhCAPITAL LETTER CROSSED SHEI",
     "hSMALL LETTER CROSSED SHEIhCAPITAL LETTER OLD COPTIC SHEIhSMALL LETTER OLD COPTIC SHEI",
     "hCAPITAL LETTER OLD COPTIC ESHhSMALL LETTER OLD COPTIC ESHhCAPITAL LETTER AKHMIMIC KHEI",
     "hSMALL LETTER AKHMIMIC KHEIhCAPITAL LETTER DIALECT-P HORIhSMALL LETTER DIALECT-P HORI",
     "hCAPITAL LETTER OLD COPTIC HORIhSMALL LETTER OLD COPTIC HORIhCAPITAL LETTER OLD COPTIC HA",
     "hSMALL LETTER OLD COPTIC HAhCAPITAL LETTER L-SHAPED HAhSMALL LETTER L-SHAPED HA",
     "hCAPITAL LETTER OLD COPTIC HEIhSMALL LETTER OLD COPTIC HEIhCAPITAL LETTER OLD COPTIC HAT",
     "hSMALL LETTER OLD COPTIC HAThCAPITAL LETTER OLD COPTIC GANGIAhSMALL LETTER OLD COPTIC GANGIA",
     "hCAPITAL LETTER OLD COPTIC DJAhSMALL LETTER OLD COPTIC DJAhCAPITAL LETTER OLD COPTIC SHIMA",
     "hSMALL LETTER OLD COPTIC SHIMAhCAPITAL LETTER OLD NUBIAN SHIMAhSMALL LETTER OLD NUBIAN SHIMA",
     "hCAPITAL LETTER OLD NUBIAN NGIhSMALL LETTER OLD NUBIAN NGIhCAPITAL LETTER OLD NUBIAN NYI",
     "hSMALL LETTER OLD NUBIAN NYIhCAPITAL LETTER OLD NUBIAN WAUhSMALL LETTER OLD NUBIAN WAU",
     "iYMBOL KAIoMI ROoPI ROoSTAUROSoTAU ROoKHI ROoSHIMA SIMAhCAPITAL LETTER CRYPTOGRAMMIC SHEI",
     "hSMALL LETTER CRYPTOGRAMMIC SHEIhCAPITAL LETTER CRYPTOGRAMMIC GANGIA",
     "hSMALL LETTER CRYPTOGRAMMIC GANGIAhCOMBINING NI ABOVErSPIRITUS ASPERzbLENIS",
     "iAPITAL LETTER BOHAIRIC KHEIhSMALL LETTER BOHAIRIC KHEI=2CF9hOLD NUBIAN FULL STOP",
     "sDIRECT QUESTION MARKsINDIRECT QUESTION MARKsVERSE DIVIDERhFRACTION ONE HALFiULL STOP",
     "hMORPHOLOGICAL DIVIDERaGEORGIAN SMALL LETTER ANwBANwGANwDONwENwVINwZENwTANwINwKANwLASwMAN",
     "wNARwONwPARwZHARwRAEwSANwTARwUNwPHARwKHARwGHANwQARwSHINwCHINxANwJILwCILxHARwXANwJHANwHAExE",
     "xIEwWEwHARxOE=2D27wYN=2D2DwAEN=2D30aTIFINAGH LETTER YAsBtHsGtHHqBERBER ACADEMY YAJqYAJsDtHtD",
     "uHrEYrAFsKqTUAREG YAKqYAKHHsHqBERBER ACADEMY YAHqTUAREG YAHqYAHHsAsKHqTUAREG YAKHqYAQ",
     "qTUAREG YAQqYIrAZHqAHAGGAR YAZHqTUAREG YAZHqYALsMsNqTUAREG YAGNzaNGqYAPrUrARtRsGH",
     "qTUAREG YAGHqAYER YAGHqYAStStHsTtHsCHsTTsVsWsYsZqTAWELLEMET YAZqYAZZrErO",
     "=2D6FjMODIFIER LETTER LABIALIZATION MARKjSEPARATOR MARK=2D7FjCONSONANT JOINER",
     "aETHIOPIC SYLLABLE LOAsMOAsROAsSOAtHOAsBOAsTOAsCOAsNOAtYOAsGLOTTAL OAsZOAsDOAtDOAsJOAsTHOA",
     "sCHOAsPHOAtOAsGGWAvIvEEvE=2DA0sSSAuUuIuAAuEEuEuO=2DA8sCCAuUuIuAAuEEuEuO=2DB0sZZAuUuIuAAuEEuE",
     "uO=2DB8sCCHAvUvIvAAvEEvEvO=2DC0sQYAuUuIuAAuEEuEuO=2DC8sKYAuUuIuAAuEEuEuO=2DD0sXYAuUuIuAAuEE",
     "uEuO=2DD8sGYAuUuIuAAuEEuEuO=2DE0aCOMBINING CYRILLIC LETTER BEzbVEzbGHEzbDEzbZHEzcEzbKAzbEL",
     "zcMzcNzbOzbPEzbERzcSzbTEzbHAzbTSEzbCHEzbSHAzdCHAzbFITAzbES-TEzbAzbIEzbDJERVzbMONOGRAPH UK",
     "zbYATzcUzbIOTIFIED AzbLITTLE YUSzbBIG YUSzbIOTIFIED BIG YUSaRIGHT ANGLE SUBSTITUTION MARKER",
     "mDOTTED SUBSTITUTION MARKERaLEFT SUBSTITUTION BRACKETaRIGHT SUBSTITUTION BRACKET",
     "aLEFT DOTTED SUBSTITUTION BRACKETaRIGHT DOTTED SUBSTITUTION BRACKET",
     "bAISED INTERPOLATION MARKERhDOTTED INTERPOLATION MARKERaDOTTED TRANSPOSITION MARKER",
     "aLEFT TRANSPOSITION BRACKETaRIGHT TRANSPOSITION BRACKETbAISED SQUARE",
     "aLEFT RAISED OMISSION BRACKETaRIGHT RAISED OMISSION BRACKETaEDITORIAL CORONISaPARAGRAPHOS",
     "aFORKED PARAGRAPHOSaREVERSED FORKED PARAGRAPHOSaHYPODIASTOLEaDOTTED OBELOScWNWARDS ANCORA",
     "aUPWARDS ANCORAaDOTTED RIGHT-POINTING ANGLEcUBLE OBLIQUE HYPHENaINVERTED INTERROBANG",
     "aPALM BRANCHaHYPHEN WITH DIAERESISaTILDE WITH RING ABOVEaLEFT LOW PARAPHRASE BRACKET",
     "aRIGHT LOW PARAPHRASE BRACKETaTILDE WITH DOT ABOVEpBELOWaLEFT VERTICAL BAR WITH QUILL",
     "aRIGHT VERTICAL BAR WITH QUILLaTOP LEFT HALF BRACKETeRIGHT HALF BRACKET",
     "aBOTTOM LEFT HALF BRACKEThRIGHT HALF BRACKETaLEFT SIDEWAYS U BRACKET",
     "aRIGHT SIDEWAYS U BRACKETaLEFT DOUBLE PARENTHESISaRIGHT DOUBLE PARENTHESIS",
     "aTWO DOTS OVER ONE DOT PUNCTUATIONaONE DOT OVER TWO DOTS PUNCTUATION",
     "aSQUARED FOUR DOT PUNCTUATIONaFIVE DOT MARKaREVERSED QUESTION MARKaVERTICAL TILDEaRING POINT",
     "aWORD SEPARATOR MIDDLE DOTaTURNED COMMAaRAISED DOThCOMMAaTURNED SEMICOLON",
     "aDAGGER WITH LEFT GUARDmRIGHT GUARDaTURNED DAGGERbOP HALF SECTION SIGNbWO-EM DASH",
     "bHREE-EM DASHaSTENOGRAPHIC FULL STOPaVERTICAL SIX DOTSaWIGGLY VERTICAL LINEaCAPITULUM",
     "aDOUBLE HYPHENaREVERSED COMMAaDOUBLE LOW-REVERSED-9 QUOTATION MARKbASH WITH LEFT UPTURN",
     "bOUBLE SUSPENSION MARKaINVERTED LOW KAVYKAt WITH KAVYKA ABOVEaLOW KAVYKAk WITH DOT",
     "aDOUBLE STACKED COMMAcTTED SOLIDUSaTRIPLE DAGGERaMEDIEVAL COMMAaPARAGRAPHUS MARK",
     "bUNCTUS ELEVATUS MARKaCORNISH VERSE DIVIDERbROSS PATTY WITH RIGHT CROSSBARrLEFT CROSSBAR",
     "aTIRONIAN SIGN CAPITAL ETaMEDIEVAL EXCLAMATION MARKjQUESTION MARK",
     "aLEFT SQUARE BRACKET WITH STROKEaRIGHT SQUARE BRACKET WITH STROKE",
     "aLEFT SQUARE BRACKET WITH DOUBLE STROKEaRIGHT SQUARE BRACKET WITH DOUBLE STROKE",
     "aTOP HALF LEFT PARENTHESISjRIGHT PARENTHESISaBOTTOM HALF LEFT PARENTHESISmRIGHT PARENTHESIS",
     "aOBLIQUE HYPHEN=2E80aCJK RADICAL REPEATmCLIFFmSECOND ONEtTWOuHREEmPERSONmBOXmTABLEmKNIFE ONE",
     "sTWOmDIVINATIONmSEALnMALL ONEsTWOmLAME ONErTWOsHREErFOURmSNAKEmTHREADmSNOUT ONEsTWO",
     "mHEART ONEsTWOnANDmRAP=2E9BmCHOKEmSUNmMOONmDEATHmMOTHERmCIVILIANmWATER ONEsTWOmFIREmPAW ONE",
     "qTWOmSIMPLIFIED HALF TREE TRUNKmCOWmDOGmJADEmBOLT OF CLOTHmEYEmSPIRIT ONEtTWOmBAMBOOmSILK",
     "mC-SIMPLIFIED SILKmNET ONEqTWOrHREEqFOURmMESHmSHEEPmRAMmEWEmOLDmBRUSH ONEsTWOmMEATnORTAR",
     "mGRASS ONEsTWOtHREEmTIGERmCLOTHESmWEST ONErTWOmC-SIMPLIFIED SEEmSIMPLIFIED HORNmHORN",
     "mC-SIMPLIFIED SPEECHzbHELLmFOOTmC-SIMPLIFIED CARTmSIMPLIFIED WALKmWALK ONErTWOmCITY",
     "n-SIMPLIFIED GOLDmLONG ONErTWOmC-SIMPLIFIED LONGzaGATEmMOUND ONEsTWOmRAINmBLUE",
     "mC-SIMPLIFIED TANNED LEATHERzaLEAFzaWINDzaFLYmEAT ONEqTWOrHREEmC-SIMPLIFIED EATmHEAD",
     "mC-SIMPLIFIED HORSEmBONEmGHOSTmC-SIMPLIFIED FISHzaBIRDzaSALTmSIMPLIFIED WHEATxYELLOW",
     "mC-SIMPLIFIED FROGmJ-SIMPLIFIED EVENmC-SIMPLIFIED EVENmJ-SIMPLIFIED TOOTHmC-SIMPLIFIED TOOTH",
     "mJ-SIMPLIFIED DRAGONmC-SIMPLIFIED DRAGONmTURTLEmJ-SIMPLIFIED TURTLEmC-SIMPLIFIED TURTLE",
     "=2F00aKANGXI RADICAL ONEpLINEpDOTpSLASHqECONDpHOOKpTWOpLIDpMANpLEGSpENTERqIGHTpDOWN BOX",
     "pCOVERpICEpTABLEpOPEN BOXpKNIFEpPOWERpWRAPpSPOONpRIGHT OPEN BOXpHIDING ENCLOSUREpTEN",
     "pDIVINATIONpSEALpCLIFFpPRIVATEpAGAINpMOUTHpENCLOSUREqARTHpSCHOLARpGOr SLOWLYpEVENINGpBIG",
     "pWOMANpCHILDpROOFpINCHpSMALLpLAMEpCORPSEpSPROUTpMOUNTAINpRIVERpWORKpONESELFpTURBANpDRY",
     "pSHORT THREADpDOTTED CLIFFpLONG STRIDEpTWO HANDSpSHOOTpBOWpSNOUTpBRISTLEpSTEPpHEARTqALBERD",
     "pDOORpHANDpBRANCHpRAPpSCRIPTpDIPPERpAXEpSQUAREpNOTpSUNqAYpMOONpTREEpLACKpSTOPpDEATHpWEAPON",
     "pDO NOTpCOMPAREpFURpCLANpSTEAMpWATERpFIREpCLAWpFATHERpDOUBLE XpHALF TREE TRUNKpSLICEpFANG",
     "pCOWpDOGpPROFOUNDpJADEpMELONpTILEpSWEETpLIFEpUSEpFIELDpBOLT OF CLOTHpSICKNESSpDOTTED TENT",
     "pWHITEpSKINpDISHpEYEpSPEARpARROWpSTONEqPIRITpTRACKpGRAINpCAVEpSTANDpBAMBOOpRICEpSILKpJARpNET",
     "pSHEEPpFEATHERpOLDpANDpPLOWpEARpBRUSHpMEATqINISTERpSELFpARRIVEpMORTARpTONGUEpOPPOSEpBOAT",
     "pSTOPPINGpCOLORpGRASSpTIGERpINSECTpBLOODpWALK ENCLOSUREpCLOTHESpWESTpSEEpHORNpSPEECHpVALLEY",
     "pBEANpPIGpBADGERpSHELLpREDqUNpFOOTpBODYpCARTpBITTERpMORNINGpWALKpCITYpWINEpDISTINGUISH",
     "pVILLAGEpGOLDpLONGpGATEpMOUNDpSLAVEqHORT TAILED BIRDpRAINpBLUEpWRONGpFACEpLEATHER",
     "pTANNED LEATHERpLEEKpSOUNDpLEAFpWINDpFLYpEATpHEADpFRAGRANTpHORSEpBONEpTALLpHAIRpFIGHT",
     "pSACRIFICIAL WINEpCAULDRONpGHOSTpFISHpBIRDpSALTpDEERpWHEATpHEMPpYELLOWpMILLETpBLACK",
     "pEMBROIDERYpFROGpTRIPODpDRUMpRATpNOSEpEVENpTOOTHpDRAGONpTURTLEpFLUTE",
     "=2FF0aIDEOGRAPHIC DESCRIPTION CHARACTER LEFT TO RIGHTzjABOVE TO BELOW",
     "zjLEFT TO MIDDLE AND RIGHTzjABOVE TO MIDDLE AND BELOWzjFULL SURROUNDzjSURROUND FROM ABOVE",
     "zxBELOWzxLEFTzxUPPER LEFTzzeRIGHTzxLOWER LEFTzjOVERLAID"]

end Inlay.Text
