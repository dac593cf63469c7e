/-
  Inlay.Text.NameTable.Pictures
  ────────────────────────────────
  **NAMES OF CHARACTERS.**

  The Unicode 14 names of the signs and pictures from U+1D800 on, in the form that
  `Inlay.Text.CharacterName` reads.
-/

namespace Inlay.Text

/-- The names of the signs and pictures from U+1D800 on. -/
def picturesNames : String :=
  String.join
    ["=1D800aSIGNWRITING HAND-FIST INDEXrCIRCLE INDEXsUP INDEXrOVAL INDEXrHINGE INDEXrANGLE INDEX",
     "rFIST INDEX BENTrCIRCLE INDEX BENTrFIST THUMB UNDER INDEX BENTwINDEX RAISED KNUCKLEzdCUPPED",
     "zdHINGEDzj LOWrCIRCLE INDEX HINGErFIST INDEX MIDDLErCIRCLE INDEX MIDDLE",
     "rFIST INDEX MIDDLE BENTzkRAISED KNUCKLESzkHINGEDzdUP MIDDLE HINGEDzdHINGED MIDDLE UP",
     "zdMIDDLE CONJOINEDzt INDEX BENTzuMIDDLE BENTzuCUPPEDzuHINGEDzlROSSED",
     "rCIRCLE INDEX MIDDLE CROSSEDrFIST MIDDLE BENT OVER INDEXwINDEX BENT OVER MIDDLE",
     "zdMIDDLE THUMBrCIRCLE INDEX MIDDLE THUMBrFIST INDEX MIDDLE STRAIGHT THUMB BENT",
     "zkBENT THUMB STRAIGHTzkTHUMB BENTzkHINGED SPREAD THUMB SIDEzdUP MIDDLE HINGED THUMB SIDE",
     "zzbCONJOINEDzdHINGED MIDDLE UP THUMB SIDEzdMIDDLE UP SPREAD THUMB FORWARDzkTHUMB CUPPED",
     "zrIRCLEDzqHOOKEDzrINGEDwTHUMB BETWEEN INDEX MIDDLE STRAIGHT",
     "wINDEX MIDDLE CONJOINED THUMB SIDEzzf CONJOINEDzzgBENTwMIDDLE THUMB HOOKED INDEX UP",
     "wINDEX THUMB HOOKED MIDDLE UPzdMIDDLE CONJOINED HINGED THUMB SIDEzlROSSED THUMB SIDE",
     "zlONJOINED THUMB FORWARDzuCUPPED THUMB FORWARDwMIDDLE THUMB CUPPED INDEX UP",
     "wINDEX THUMB CUPPED MIDDLE UPwMIDDLE THUMB CIRCLED INDEX UPzyHINGED",
     "wINDEX THUMB ANGLED OUT MIDDLE UPzqIN MIDDLE UPzjCIRCLED MIDDLE UP",
     "zdMIDDLE THUMB CONJOINED HINGEDzqANGLED OUTzvDwMIDDLE THUMB ANGLED OUT INDEX UPzzcCROSSED",
     "zrINDEX UPwINDEX THUMB HOOKED MIDDLE HINGEDsLAT FOUR FINGERSzj BENTzkHINGEDzkCONJOINED",
     "zt SPLITrCLAW FOUR FINGERS CONJOINEDrFIST FOUR FINGERS CONJOINED BENT",
     "rHINGE FOUR FINGERS CONJOINEDrFLAT FIVE FINGERS SPREADwHEEL FIVE FINGERS SPREAD",
     "wFIVE FINGERS SPREAD FOUR BENTwHEEL FIVE FINGERS SPREAD FOUR BENTwFIVE FINGERS SPREAD BENT",
     "wHEEL FIVE FINGERS SPREAD BENTwFIVE FINGERS SPREAD THUMB FORWARDrCUP FIVE FINGERS SPREAD",
     "zp OPENrHINGE FIVE FINGERS SPREAD OPENrOVAL FIVE FINGERS SPREAD",
     "rFLAT FIVE FINGERS SPREAD HINGEDzx THUMB SIDEzyNO THUMBuTv BETWEEN PALM FACINGSwHEEL",
     "wTHUMB SIDEwHEEL THUMB SIDEwTHUMB BENTzdFORWARDwSPLIT INDEX THUMB SIDEzdCENTREzj THUMB SIDE",
     "zu BENTzdLITTLErCLAWv THUMB SIDEwNO THUMBwTHUMB FORWARDrHOOK CURLICUEuKrCUP OPENtP",
     "u OPEN THUMB SIDEvTHUMB SIDEvOPEN NO THUMBvNO THUMBvOPEN THUMB FORWARDvTHUMB FORWARD",
     "tRLICUE OPENyEsIRCLErOVALv THUMB SIDEwNO THUMBwTHUMB FORWARDrHINGE OPENzc THUMB FORWARDvE",
     "w SMALLxOPEN THUMB SIDExTHUMB SIDExOPEN NO THUMBxNO THUMBxTHUMB SIDE TOUCHING INDEX",
     "zeBETWEEN MIDDLE RINGrANGLErFIST INDEX MIDDLE RINGrCIRCLE INDEX MIDDLE RING",
     "rHINGE INDEX MIDDLE RINGrANGLE INDEX MIDDLE RINGrHINGE LITTLErFIST INDEX MIDDLE RING BENT",
     "zpCONJOINEDrHINGE INDEX MIDDLE RING CONJOINEDrFIST LITTLE DOWNzi RIPPLE STRAIGHTzqCURVED",
     "zjOTHERS CIRCLEDzeUPwTHUMB UNDER LITTLE UPrCIRCLE LITTLE UPrOVAL LITTLE UPrANGLE LITTLE UP",
     "rFIST LITTLE RAISED KNUCKLEzeBENTzeTOUCHES THUMBzfHUMBrHINGE LITTLE THUMB",
     "rFIST LITTLE INDEX THUMBrHINGE LITTLE INDEX THUMBrANGLE LITTLE INDEX THUMB INDEX THUMB OUT",
     "zzcBrFIST LITTLE INDEXrCIRCLE LITTLE INDEXrHINGE LITTLE INDEXrANGLE LITTLE INDEX",
     "rFIST INDEX MIDDLE LITTLErCIRCLE INDEX MIDDLE LITTLErHINGE INDEX MIDDLE LITTLExRING",
     "rANGLE INDEX MIDDLE LITTLErFIST INDEX MIDDLE CROSS LITTLErCIRCLE INDEX MIDDLE CROSS LITTLE",
     "rFIST RING DOWNrHINGE RING DOWN INDEX THUMB HOOK MIDDLE",
     "rANGLE RING DOWN MIDDLE THUMB INDEX CROSSrFIST RING UPzcRAISED KNUCKLEzcLITTLE",
     "rCIRCLE RING LITTLErOVAL RING LITTLErANGLE RING LITTLErFIST RING MIDDLEzi CONJOINED",
     "zjRAISED KNUCKLESzcINDEXzcTHUMBrHOOK RING THUMBrFIST INDEX RING LITTLE",
     "rCIRCLE INDEX RING LITTLEsURLICUE INDEX RING LITTLE ONrHOOK INDEX RING LITTLE OUTzpINzpUNDER",
     "rCUP INDEX RING LITTLErHINGE INDEX RING LITTLErANGLE INDEX RING LITTLE OUTzoE",
     "rFIST MIDDLE DOWNrHINGE MIDDLErFIST MIDDLE UPrCIRCLE MIDDLE UPrFIST MIDDLE RAISED KNUCKLE",
     "zeUP THUMB SIDErHOOK MIDDLE THUMBrFIST MIDDLE THUMB LITTLEzeLITTLEzeRING LITTLE",
     "rCIRCLE MIDDLE RING LITTLEsURLICUE MIDDLE RING LITTLE ONtP MIDDLE RING LITTLE",
     "rHINGE MIDDLE RING LITTLErANGLE MIDDLE RING LITTLE OUTzrINzpErCIRCLE MIDDLE RING LITTLE BENT",
     "sLAW MIDDLE RING LITTLE CONJOINEDzza SIDErHOOK MIDDLE RING LITTLE CONJOINED OUTzzbINzyD",
     "sINGE INDEX HINGEDrFIST INDEX THUMB SIDErHINGE INDEX THUMB SIDE",
     "rFIST INDEX THUMB SIDE THUMB DIAGONALzuCONJOINEDzuBENTzoINDEX BENTzoBOTH BENTzoINDEX HINGE",
     "zjFORWARD INDEX STRAIGHTzxBENTzjHOOKzjCURLICUEzmVE THUMB INSIDE",
     "rCLAW INDEX THUMB CURVE THUMB INSIDErFIST INDEX THUMB CURVE THUMB UNDERzkIRCLE",
     "rCUP INDEX THUMBzh OPENrHINGE INDEX THUMB OPENzkLARGEziBzj SMALLrANGLE INDEX THUMB OUTzkIN",
     "ziBrFIST THUMBzc HEELzdSIDE DIAGONALziCONJOINEDziBENTzdFORWARDzdBETWEEN INDEX MIDDLE",
     "zlMIDDLE RINGzlRING LITTLEzdUNDER TWO FINGERSzdOVER TWO FINGERSzdUNDER THREE FINGERS",
     "zjFOUR FINGERSzdOVER FOUR RAISED KNUCKLESuTv HEELmTOUCH SINGLEsMULTIPLEsBETWEENmGRASP SINGLE",
     "sMULTIPLEsBETWEENmSTRIKE SINGLEtMULTIPLEtBETWEENmBRUSH SINGLEsMULTIPLEsBETWEENmRUB SINGLE",
     "qMULTIPLEqBETWEENmSURFACE SYMBOLSuBETWEENnQUEEZE LARGE SINGLEuSMALL SINGLEuLARGE MULTIPLE",
     "uSMALL MULTIPLEvEQUENTIALmFLICK LARGE SINGLEsSMALL SINGLEsLARGE MULTIPLEsSMALL MULTIPLE",
     "tEQUENTIALmSQUEEZE FLICK ALTERNATINGmMOVEMENT-HINGE UP DOWN LARGEzkSMALLzfSEQUENTIAL",
     "zcDOWN SEQUENTIALzcUP DOWN ALTERNATING LARGEzwSMALLzcSIDE TO SIDE SCISSORS",
     "vWALLPLANE FINGER CONTACTvFLOORPLANE FINGER CONTACTvWALLPLANE SINGLE STRAIGHT SMALLzwMEDIUM",
     "zwLARGEzzcSTznWRIST FLEXzgDOUBLE STRAIGHTznWRIST FLEXznALTERNATINGzy WRIST FLEXzgCROSS",
     "zgTRIPLE STRAIGHT MOVEMENTznWRIST FLEXznALTERNATINGzy WRIST FLEXzgBEND SMALLzlMEDIUMzlLARGE",
     "zgCORNER SMALLznMEDIUMznLARGEznROTATIONzhHECK SMALLzmMEDIUMzmLARGEzgBOX SMALLzkMEDIUMzkLARGE",
     "zgZIGZAG SMALLznMEDIUMznLARGEzgPEAKS SMALLzmMEDIUMzmLARGE",
     "mTRAVEL-WALLPLANE ROTATION-WALLPLANE SINGLEzxDOUBLEzxALTERNATINGznFLOORPLANE SINGLEzyDOUBLE",
     "zyALTERNATINGzeSHAKINGzeARM SPIRAL SINGLEzpDOUBLEzpTRIPLEmMOVEMENT-DIAGONAL AWAY SMALL",
     "zkMEDIUMzkLARGEzpSTzfTOWARDS SMALLznMEDIUMznLARGEzsSTzfBETWEEN AWAY SMALLzsMEDIUMzsLARGEzxST",
     "znTOWARDS SMALLzvMEDIUMzvLARGEzzbSTvFLOORPLANE SINGLE STRAIGHT SMALLzxMEDIUMzxLARGEzzdST",
     "zoWRIST FLEXzhDOUBLE STRAIGHTzoWRIST FLEXzoALTERNATINGzza WRIST FLEXzhCROSS",
     "zhTRIPLE STRAIGHT MOVEMENTzoWRIST FLEXzoALTERNATING MOVEMENTzzbWRIST FLEXzhBEND",
     "zhCORNER SMALLzoMEDIUMzoLARGEziHECKzhBOX SMALLzlMEDIUMzlLARGEzhZIGZAG SMALLzoMEDIUMzoLARGE",
     "zhPEAKS SMALLznMEDIUMznLARGEmTRAVEL-FLOORPLANE ROTATION-FLOORPLANE SINGLEzzaDOUBLE",
     "zzaALTERNATINGzoWALLPLANE SINGLEzyDOUBLEzyALTERNATINGzfSHAKING",
     "mMOVEMENT-WALLPLANE CURVE QUARTER SMALLzuMEDIUMzuLARGEzzaSTzmHALF-CIRCLE SMALLzyMEDIUM",
     "zyLARGEzzeSTzmTHREE-QUARTER CIRCLE SMALLzziMEDIUMzgHUMP SMALLzlMEDIUMzlLARGEzgLOOP SMALL",
     "zlMEDIUMzlLARGEzlSMALL DOUBLEzgWAVE CURVE DOUBLE SMALLzyMEDIUMzyLARGEzrTRIPLE SMALLzyMEDIUM",
     "zyLARGEzgCURVE THEN STRAIGHTzlD CROSS SMALLztMEDIUMmROTATION-WALLPLANE SINGLEzgDOUBLE",
     "zgALTERNATEmMOVEMENT-WALLPLANE SHAKINGzgCURVE HITTING FRONT WALLzgHUMP HITTING FRONT WALL",
     "zgLOOP HITTING FRONT WALLzgWAVE HITTING FRONT WALL",
     "mROTATION-WALLPLANE SINGLE HITTING FRONT WALLzgDOUBLE HITTING FRONT WALL",
     "zgALTERNATING HITTING FRONT WALLmMOVEMENT-WALLPLANE CURVE HITTING CHESTzgHUMP HITTING CHEST",
     "zgLOOP HITTING CHESTzgWAVE HITTING CHESTmROTATION-WALLPLANE SINGLE HITTING CHEST",
     "zgDOUBLE HITTING CHESTzgALTERNATING HITTING CHEST",
     "mMOVEMENT-WALLPLANE WAVE DIAGONAL PATH SMALLzzaMEDIUMzzaLARGE",
     "vFLOORPLANE CURVE HITTING CEILING SMALLzzeLARGEzhHUMP HITTING CEILING SMALL DOUBLE",
     "zzdLARGE DOUBLEzzdSMALL TRIPLEzzdLARGE TRIPLEzhLOOP HITTING CEILING SMALL SINGLE",
     "zzdLARGE SINGLEzzdSMALL DOUBLEzzdLARGE DOUBLEzhWAVE HITTING CEILING SMALLzzdLARGE",
     "mROTATION-FLOORPLANE SINGLE HITTING CEILINGzhDOUBLE HITTING CEILING",
     "zhALTERNATING HITTING CEILINGmMOVEMENT-FLOORPLANE CURVE HITTING FLOOR SMALLzzcLARGE",
     "zhHUMP HITTING FLOOR SMALL DOUBLEzzbLARGE DOUBLEzzbTRIPLE SMALL TRIPLEzziLARGE TRIPLE",
     "zhLOOP HITTING FLOOR SMALL SINGLEzzbLARGE SINGLEzzbSMALL DOUBLEzzbLARGE DOUBLE",
     "zhWAVE HITTING FLOOR SMALLzzbLARGEmROTATION-FLOORPLANE SINGLE HITTING FLOOR",
     "zhDOUBLE HITTING FLOORzhALTERNATING HITTING FLOORmMOVEMENT-FLOORPLANE CURVE SMALLznMEDIUM",
     "znLARGEzsSTznCOMBINEDzhHUMP SMALLzhLOOP SMALLzhWAVE SNAKEznMALLzmLARGE",
     "mROTATION-FLOORPLANE SINGLEzhDOUBLEzhALTERNATINGmMOVEMENT-FLOORPLANE SHAKING PARALLEL",
     "vWALLPLANE ARM CIRCLE SMALL SINGLEzrMEDIUM SINGLEzrSMALL DOUBLEzrMEDIUM DOUBLE",
     "vFLOORPLANE ARM CIRCLE HITTING WALL SMALL SINGLEzzgMEDIUM SINGLEzzgLARGE SINGLE",
     "zzgSMALL DOUBLEzzgMEDIUM DOUBLEzzgLARGE DOUBLEvWALLPLANE WRIST CIRCLE FRONT SINGLEzzaDOUBLE",
     "vFLOORPLANE WRIST CIRCLE HITTING WALL SINGLEzziDOUBLEvWALLPLANE FINGER CIRCLES SINGLE",
     "zvDOUBLEvFLOORPLANE FINGER CIRCLES HITTING WALL SINGLEzzkDOUBLEmDYNAMIC ARROWHEAD SMALL",
     "zfLARGEuFASTuSLOWuTENSEuRELAXEDuSIMULTANEOUSzh ALTERNATINGuEVERY OTHER TIMEuGRADUALmHEAD",
     "q RIMrMOVEMENT-WALLPLANE STRAIGHTzlTILTzbFLOORPLANE STRAIGHTzbWALLPLANE CURVE",
     "zbFLOORPLANE CURVEza CIRCLEmFACE DIRECTION POSITION NOSE FORWARD TILTINGzqUP OR DOWN",
     "zzb TILTINGmEYEBROWS STRAIGHT UPzfNEUTRALzfDOWNmDREAMY EYEBROWS NEUTRAL DOWNzdDOWN NEUTRAL",
     "zdUP NEUTRALzdNEUTRAL UPmFOREHEAD NEUTRALvCONTACTvWRINKLEDmEYES OPENrSQUEEZEDrCLOSED",
     "p BLINK SINGLEwMULTIPLEpS HALF OPENrWIDE OPENrHALF CLOSEDrWIDENING MOVEMENTp WINKpLASHES UP",
     "wDOWNwFLUTTERINGpGAZE-WALLPLANE STRAIGHTzn DOUBLEzoALTERNATINGuFLOORPLANE STRAIGHTzo DOUBLE",
     "zpALTERNATINGuWALLPLANE CURVEDuFLOORPLANE CURVEDuWALLPLANE CIRCLINGmCHEEKS PUFFEDtNEUTRAL",
     "tSUCKEDmTENSE CHEEKS HIGHzaMIDDLEzaLOWmEARSmNOSE NEUTRALrCONTACTrWRINKLESsIGGLES",
     "mAIR BLOWING OUTqSUCKING INqBLOW SMALL ROTATIONSqSUCK SMALL ROTATIONSmBREATH INHALEtEXHALE",
     "mMOUTH CLOSED NEUTRALzaFORWARDzaCONTACTsSMILEx WRINKLEDyOPENsFROWNx WRINKLEDyOPEN",
     "sOPEN CIRCLExFORWARDxWRINKLEDxOVALzc WRINKLEDzdYAWNxRECTANGLEzh WRINKLEDziYAWNsKISSw FORWARD",
     "xWRINKLEDsTENSEx FORWARDySUCKEDmLIPS PRESSED TOGETHERp LOWER OVER UPPERqUPPER OVER LOWER",
     "mMOUTH CORNERSsWRINKLES SINGLEzcDOUBLEmTONGUE STICKING OUT FARtLICKING LIPStTIP BETWEEN LIPS",
     "xTOUCHING INSIDE MOUTHtINSIDE MOUTH RELAXEDtMOVES AGAINST CHEEKtCENTRE STICKING OUT",
     "zbINSIDE MOUTHnEETHr MOVEMENTsON TONGUEzc MOVEMENTvLIPSza MOVEMENTsBITE LIPS",
     "mMOVEMENT-WALLPLANE JAWvFLOORPLANE JAWmNECKmHAIRmEXCITEMENTmSHOULDER HIP SPINEzaPOSITIONS",
     "mWALLPLANE SHOULDER HIP MOVEmFLOORPLANE SHOULDER HIP MOVEmSHOULDER TILTING FROM WAIST",
     "mTORSO-WALLPLANE STRAIGHT STRETCHzdCURVED BENDsFLOORPLANE TWISTING",
     "mUPPER BODY TILTING FROM HIP JOINTSmLIMB COMBINATIONrLENGTH-1y2y3y4y5y6y7mFINGER",
     "mLOCATION-WALLPLANE SPACEvFLOORPLANE SPACEu HEIGHTvWIDTHvDEPTHvHEAD NECKvTORSOvLIMBS DIGITS",
     "mCOMMAmFULL STOPmSEMICOLONmCOLONmPARENTHESIS=1DA9BmFILL MODIFIER-2zb3zb4zb5zb6",
     "=1DAA1mROTATION MODIFIER-2zf3zf4zf5zf6zf7zf8zf9zf10zg1zg2zg3zg4zg5zg6",
     "=1DF00aLATIN SMALL LETTER FENG DIGRAPH WITH TRILLtREVERSED SCRIPT G",
     "gLETTER SMALL CAPITAL TURNED GgSMALL LETTER REVERSED KgLETTER SMALL CAPITAL L WITH BELT",
     "gSMALL LETTER LEZH WITH RETROFLEX HOOKtTURNED Y WITH BELTtREVERSED ENG",
     "tTURNED R WITH LONG LEG AND RETROFLEX HOOKu WITH HOOK AND RETROFLEX HOOK",
     "gLETTER RETROFLEX CLICK WITH RETROFLEX HOOKgSMALL LETTER ESH WITH DOUBLE BARzn AND CURL",
     "tTURNED T WITH CURLgLETTER INVERTED GLOTTAL STOP WITH CURLnSTRETCHED C WITH CURL",
     "oMALL CAPITAL TURNED KgSMALL LETTER L WITH FISHHOOKtDEZH DIGRAPH WITH PALATAL HOOK",
     "tL WITH BELT AND PALATAL HOOKtENG WITH PALATAL HOOKtTURNED R WITH PALATAL HOOK",
     "tR WITH FISHHOOK AND PALATAL HOOKtTESH DIGRAPH WITH PALATAL HOOKtEZH WITH PALATAL HOOK",
     "tDEZH DIGRAPH WITH RETROFLEX HOOKtI WITH STROKE AND RETROFLEX HOOKtO WITH RETROFLEX HOOK",
     "tTESH DIGRAPH WITH RETROFLEX HOOKtC WITH RETROFLEX HOOKtS WITH CURL",
     "=1E000aCOMBINING GLAGOLITIC LETTER AZUzdBUKYzdVEDEzdGLAGOLIzdDOBROzdYESTUzdZHIVETE",
     "=1E008zeEMLJAzdIZHEzeNITIAL IZHEzdIzdDJERVIzdKAKOzdLJUDIJEzdMYSLITEzdNASHIzdONUzdPOKOJI",
     "zdRITSIzdSLOVOzdTVRIDOzdUKUzdFRITUzdHERU=1E01BzdSHTAzdTSIzdCHRIVIzdSHAzdYERUzgIzeATI",
     "=1E023zeUzdSMALL YUS=1E026zdYOzdIOTATED SMALL YUSzdBIG YUSzdIOTATED BIG YUSzdFITA",
     "=1E100aNYIAKENG PUACHUE HMONG LETTER MAzfTSAzfNTAzfTAzfHAzfNAzfXAzfNKAzfCAzfLAzfSAzfZAzfNCA",
     "zgTSAzfKAzfDAzfNYAzgRAzfVAzfNTXAzfTXAzfFAzfRAzfQAzfYAzfNQAzfPAzfXYAzfNPAzfDLAzfNPLAzfHAH",
     "zfMLAzfPLAzfGAzfRRAzfAzgAzfIzfUzfOzgOzfEzgEzfW=1E130xTONE-BzdMzdJzdVzdSzdGzdD",
     "xSIGN FOR PERSONzhTHINGzhLOCATIONzhANIMALzhINVERTEBRATEzdXW XWyYLLABLE LENGTHENER",
     "=1E140xDIGIT ZEROzeONEzeTWOzfHREEzeFOURzfIVEzeSIXzfEVENzeEIGHTzeNINE=1E14ExLOGOGRAM NYAJ",
     "xCIRCLED CA=1E290aTOTO LETTER PAmBAmTAmDAmKAmGAmMAmNAnGAmSAmCHAmYAmWAmJAmHAmRAmLAmI",
     "mBREATHY ImIUmBREATHY IUmUmEmBREATHY EmEOmBREATHY EOmOmAEmBREATHY AEmAfSIGN RISING TONE",
     "=1E2C0aWANCHO LETTER AAoAoBAoCAoDAoGAoYAoPHAoLAoNAoPAoTApHAoFAoSApHAoJAoZAoWAoVAoKAoOoAUoRA",
     "oMAoKHAoHAoEoIoNGAoUoLLHAoTSApRAoONGoAANGpNGoINGoONoENoAANoNYAoUENoYIHhTONE TUPpNImKOIpNI",
     "hDIGIT ZEROnONEnTWOoHREEnFOURoIVEnSIXoEVENnEIGHTnNINE=1E2FFhNGUN SIGN",
     "=1E7E0aETHIOPIC SYLLABLE HHYAvUvIvAAvEEvEvO=1E7E8sGURAGE HHWAsHHWIvEEvE=1E7EDsGURAGE MWIzcEE",
     "=1E7F0zaQWIzcEEzcEzaBWIzcEEzaKWIzcEEzcEzaGWIzcEEzcEzaFWIzcEEzaPWIzcEE",
     "=1E800aMENDE KIKAKUI SYLLABLE M001 KIzb2 KAzb3 KUza65 KEEza95 KEza76 KOOza48 KOy179 KUA",
     "y004 WIzb5 WAzb6 WUy126 WEEza18 WEzb4 WOOy045 WOy194 WUIza43 WEIy061 WVIza49 WVAy139 WVE",
     "y007 MINzb8 MANzb9 MUNza59 MENza94 MONy154 MUANza89 MUENy010 BIzb1 BAzb2 BUy150 BEEy097 BE",
     "y103 BOOza38 BOy013 Izb4 Azb5 Uy163 EEza00 Eza65 OOza47 Oza37 EIzb1 INzb5 INza95 ANza78 EN",
     "y019 SIza20 SAzb1 SUy162 SEEza16 SEza36 SOOy079 SOy196 SIAy025 LIzb6 LAzb7 LUza84 LEEza73 LE",
     "za54 LOOy153 LOza10 LONG LEy016 DIzb7 DAzb8 DUza89 DEEy180 DOOzb1 DOy022 TIzb3 TAzb4 TU",
     "za91 TEEza55 TEy104 TOOy069 TOza28 JIzb9 JAza30 JUy157 JEEza13 JEza60 JOOy063 JOy175 LONG JO",
     "y031 YIzb2 YAzb3 YUy109 YEEy080 YEy141 YOOza21 YOy034 FIzb5 FAzb6 FUza78 FEEzb5 FEy133 FOO",
     "y088 FOy197 FUAza01 FANy037 NINzb8 NANzb9 NUNy117 NENza69 NONza76 HIy041 HAy186 HUy040 HEE",
     "za96 HEza42 HOOy140 HOy083 HEEIy128 HOOUy053 HINy130 HANy087 HUNza52 HENy193 HONy046 HUAN",
     "za90 NGGIza43 NGGAza82 NGGUy115 NGGEEza46 NGGEza56 NGGOOza20 NGGOza59 NGGAAza27 NGGUA",
     "y086 LONG NGGEy106 LONG NGGOOza83 LONG NGGOza55 GIza11 GAza68 GUza90 GEEza66 GUEIzb7 GUAN",
     "za84 NGENy057 NGONy177 NGUANy068 PIza99 PAza50 PUza81 PEEza51 PEy102 POOy066 POy145 MBI",
     "y062 MBAy122 MBUy047 MBEEy188 MBEEy072 MBEy172 MBOOzb4 MBOza87 MBUUza61 LONG MBE",
     "za05 LONG MBOOza42 LONG MBOza32 KPIy092 KPAza74 KPUza44 KPEEy108 KPEza12 KPOOza58 KPO",
     "za24 GBIy056 GBAy148 GBUy093 GBEEy107 GBEy071 GBOOzb0 GBOy171 RAza23 NDIzb9 NDAzb5 NDU",
     "za91 NDEEza19 NDEy067 NDOOzb4 NDOy152 NJAza92 NJUza49 NJEEza34 NJOOza82 VIzb5 VAza51 VU",
     "za73 VEEy085 VEy144 VOOy077 VOy164 NYINy058 NYANy170 NYUNy098 NYENza60 NYON=1E8C7oDIGIT ONE",
     "uTWOvHREEuFOURvIVEuSIXvEVENuEIGHTuNINEoCOMBINING NUMBER TEENSziNSzgHUNDREDSzgTHOUSANDS",
     "zhEN THOUSANDSzgHUNDRED THOUSANDSzgMILLIONS=1E900aADLAM CAPITAL LETTER ALIFvDAALIvLAAMvMIIM",
     "vBAvSINNYIIYHEvPEvBHEvRAvEvFAvIvOvDHAvYHEvWAWvNUNvKAFvYAvUvJIIMvCHIvHAvQAAFvGAvNYAvTUvNHAvVA",
     "vKHAvGBEvZALvKPOvSHAgSMALL LETTER ALIFtDAALItLAAMtMIIMtBAtSINNYIIYHEtPEtBHEtRAtEtFAtItOtDHA",
     "tYHEtWAWtNUNtKAFtYAtUtJIIMtCHItHAtQAAFtGAtNYAtTUtNHAtVAtKHAtGBEtZALtKPOtSHAgALIF LENGTHENER",
     "gVOWEL LENGTHENERgGEMINATION MARKgHAMZAgCONSONANT MODIFIERgGEMINATE CONSONANT MODIFIERgNUKTA",
     "hASALIZATION MARK=1E950gDIGIT ZEROmONEmTWOnHREEmFOURnIVEmSIXnEVENmEIGHTmNINE",
     "=1E95EgINITIAL EXCLAMATION MARKoQUESTION MARK=1EC71aINDIC SIYAQ NUMBER ONEtTWOuHREEtFOURuIVE",
     "tSIXuEVENtEIGHTtNINEtTENuWENTYuHIRTYtFORTYuIFTYtSIXTYuEVENTYtEIGHTYtNINETYtONE HUNDRED",
     "tTWO HUNDREDuHREE HUNDREDtFOUR HUNDREDuIVE HUNDREDtSIX HUNDREDuEVEN HUNDREDtEIGHT HUNDRED",
     "tNINE HUNDREDtONE THOUSANDtTWO THOUSANDuHREE THOUSANDtFOUR THOUSANDuIVE THOUSAND",
     "tSIX THOUSANDuEVEN THOUSANDtEIGHT THOUSANDtNINE THOUSANDtTEN THOUSANDuWENTY THOUSAND",
     "uHIRTY THOUSANDtFORTY THOUSANDuIFTY THOUSANDtSIXTY THOUSANDuEVENTY THOUSANDtEIGHTY THOUSAND",
     "tNINETY THOUSANDtLAKHxANmLAKH MARKmNUMBER KARORyANtPREFIXED ONEzdTWOzeHREEzdFOURzeIVEzdSIX",
     "zeEVENzdEIGHTzdNINEmPLACEHOLDERmFRACTION ONE QUARTERzaHALFvTHREE QUARTERSmRUPEE MARK",
     "mNUMBER ALTERNATE ONEzeTWOzfEN THOUSANDmALTERNATE LAKH MARK=1ED01aOTTOMAN SIYAQ NUMBER ONE",
     "vTWOwHREEvFOURwIVEvSIXwEVENvEIGHTvNINEvTENwWENTYwHIRTYvFORTYwIFTYvSIXTYwEVENTYvEIGHTYvNINETY",
     "vONE HUNDREDvTWO HUNDREDwHREE HUNDREDvFOUR HUNDREDwIVE HUNDREDvSIX HUNDREDwEVEN HUNDRED",
     "vEIGHT HUNDREDvNINE HUNDREDvONE THOUSANDvTWO THOUSANDwHREE THOUSANDvFOUR THOUSAND",
     "wIVE THOUSANDvSIX THOUSANDwEVEN THOUSANDvEIGHT THOUSANDvNINE THOUSANDvTEN THOUSAND",
     "wWENTY THOUSANDwHIRTY THOUSANDvFORTY THOUSANDwIFTY THOUSANDvSIXTY THOUSANDwEVENTY THOUSAND",
     "vEIGHTY THOUSANDvNINETY THOUSANDoMARRATANoALTERNATE NUMBER TWOzhHREEzgFOURzhIVEzgSIXzhEVEN",
     "zgEIGHTzgNINEzgTENzgFOUR HUNDREDzgSIX HUNDREDzgTWO THOUSANDzhEN THOUSANDoFRACTION ONE HALF",
     "zcSIXTH=1EE00aARABIC MATHEMATICAL ALEFuBEHuJEEMuDAL=1EE05uWAWuZAINuHAHuTAHuYEHuKAFuLAMuMEEM",
     "uNOONuSEENuAINuFEHuSADuQAFuREHuSHEENuTEHvHEHuKHAHuTHALuDADuZAHuGHAINuDOTLESS BEHzdNOONzdFEH",
     "zdQAF=1EE21uINITIAL BEHzdJEEM=1EE24zdHEH=1EE27zeAH=1EE29zdYEHzdKAFzdLAMzdMEEMzdNOONzdSEEN",
     "zdAINzdFEHzdSADzdQAF=1EE34zdSHEENzdTEHzeHEHzdKHAH=1EE39zdDAD=1EE3BzdGHAIN=1EE42uTAILED JEEM",
     "=1EE47zcHAH=1EE49zcYEH=1EE4BzcLAM=1EE4DzcNOONzcSEENzcAIN=1EE51zcSADzcQAF=1EE54zcSHEEN",
     "=1EE57zcKHAH=1EE59zcDAD=1EE5BzcGHAIN=1EE5DzcDOTLESS NOON=1EE5FzkQAF=1EE61uSTRETCHED BEH",
     "zfJEEM=1EE64zfHEH=1EE67zgAHzfTAHzfYEHzfKAF=1EE6CzfMEEMzfNOONzfSEENzfAINzfFEHzfSADzfQAF",
     "=1EE74zfSHEENzfTEHzgHEHzfKHAH=1EE79zfDADzfZAHzfGHAINzfDOTLESS BEH=1EE7EznFEH",
     "=1EE80uLOOPED ALEFzcBEHzcJEEMzcDALzcHEHzcWAWzcZAINzcHAHzcTAHzcYEH=1EE8BzcLAMzcMEEMzcNOON",
     "zcSEENzcAINzcFEHzcSADzcQAFzcREHzcSHEENzcTEHzdHEHzcKHAHzcTHALzcDADzcZAHzcGHAIN",
     "=1EEA1uDOUBLE-STRUCK BEHzjJEEMzjDAL=1EEA5zjWAWzjZAINzjHAHzjTAHzjYEH=1EEABzjLAMzjMEEMzjNOON",
     "zjSEENzjAINzjFEHzjSADzjQAFzjREHzjSHEENzjTEHzkHEHzjKHAHzjTHALzjDADzjZAHzjGHAIN",
     "=1EEF0uOPERATOR MEEM WITH HAH WITH TATWEELzeHAH WITH DAL=1F000aMAHJONG TILE EAST WIND",
     "nSOUTH WINDnWEST WINDnNORTH WINDnRED DRAGONnGREEN DRAGONnWHITE DRAGONnONE OF CHARACTERS",
     "nTWO OF CHARACTERSoHREE OF CHARACTERSnFOUR OF CHARACTERSoIVE OF CHARACTERSnSIX OF CHARACTERS",
     "oEVEN OF CHARACTERSnEIGHT OF CHARACTERSnNINE OF CHARACTERSnONE OF BAMBOOSnTWO OF BAMBOOS",
     "oHREE OF BAMBOOSnFOUR OF BAMBOOSoIVE OF BAMBOOSnSIX OF BAMBOOSoEVEN OF BAMBOOS",
     "nEIGHT OF BAMBOOSnNINE OF BAMBOOSnONE OF CIRCLESnTWO OF CIRCLESoHREE OF CIRCLES",
     "nFOUR OF CIRCLESoIVE OF CIRCLESnSIX OF CIRCLESoEVEN OF CIRCLESnEIGHT OF CIRCLES",
     "nNINE OF CIRCLESnPLUMnORCHIDnBAMBOOnCHRYSANTHEMUMnSPRINGoUMMERnAUTUMNnWINTERnJOKERnBACK",
     "=1F030aDOMINO TILE HORIZONTAL BACKw-00-00zc1zc2zc3zc4zc5zc6y1-00zc1zc2zc3zc4zc5zc6y2-00zc1",
     "zc2zc3zc4zc5zc6y3-00zc1zc2zc3zc4zc5zc6y4-00zc1zc2zc3zc4zc5zc6y5-00zc1zc2zc3zc4zc5zc6y6-00zc1",
     "zc2zc3zc4zc5zc6mVERTICAL BACKu-00-00za1za2za3za4za5za6w1-00za1za2za3za4za5za6w2-00za1za2za3",
     "za4za5za6w3-00za1za2za3za4za5za6w4-00za1za2za3za4za5za6w5-00za1za2za3za4za5za6w6-00za1za2za3",
     "za4za5za6=1F0A0aPLAYING CARD BACKnACE OF SPADESnTWO OF SPADESoHREE OF SPADESnFOUR OF SPADES",
     "oIVE OF SPADESnSIX OF SPADESoEVEN OF SPADESnEIGHT OF SPADESnNINE OF SPADESnTEN OF SPADES",
     "nJACK OF SPADESnKNIGHT OF SPADESnQUEEN OF SPADESnKING OF SPADES=1F0B1nACE OF HEARTS",
     "nTWO OF HEARTSoHREE OF HEARTSnFOUR OF HEARTSoIVE OF HEARTSnSIX OF HEARTSoEVEN OF HEARTS",
     "nEIGHT OF HEARTSnNINE OF HEARTSnTEN OF HEARTSnJACK OF HEARTSnKNIGHT OF HEARTS",
     "nQUEEN OF HEARTSnKING OF HEARTSnRED JOKER=1F0C1nACE OF DIAMONDSnTWO OF DIAMONDS",
     "oHREE OF DIAMONDSnFOUR OF DIAMONDSoIVE OF DIAMONDSnSIX OF DIAMONDSoEVEN OF DIAMONDS",
     "nEIGHT OF DIAMONDSnNINE OF DIAMONDSnTEN OF DIAMONDSnJACK OF DIAMONDSnKNIGHT OF DIAMONDS",
     "nQUEEN OF DIAMONDSnKING OF DIAMONDSnBLACK JOKER=1F0D1nACE OF CLUBSnTWO OF CLUBS",
     "oHREE OF CLUBSnFOUR OF CLUBSoIVE OF CLUBSnSIX OF CLUBSoEVEN OF CLUBSnEIGHT OF CLUBS",
     "nNINE OF CLUBSnTEN OF CLUBSnJACK OF CLUBSnKNIGHT OF CLUBSnQUEEN OF CLUBSnKING OF CLUBS",
     "nWHITE JOKERnFOOLnTRUMP-1t2t3t4t5t6t7t8t9t10u1u2u3u4u5u6u7u8u9t20u1",
     "=1F100aDIGIT ZERO FULL STOPlCOMMAgONE COMMAgTWO COMMAhHREE COMMAgFOUR COMMAhIVE COMMA",
     "gSIX COMMAhEVEN COMMAgEIGHT COMMAgNINE COMMAcNGBAT CIRCLED SANS-SERIF DIGIT ZERO",
     "iNEGATIVE CIRCLED SANS-SERIF DIGIT ZEROaCIRCLED ZERO WITH SLASHiANTICLOCKWISE ARROW",
     "iDOLLAR SIGN WITH OVERLAID BACKSLASHaPARENTHESIZED LATIN CAPITAL LETTER AzkBzkCzkDzkEzkFzkG",
     "zkHzkIzkJzkKzkLzkMzkNzkOzkPzkQzkRzkSzkTzkUzkVzkWzkXzkYzkZ",
     "aTORTOISE SHELL BRACKETED LATIN CAPITAL LETTER SaCIRCLED ITALIC LATIN CAPITAL LETTER CzlRiCD",
     "iWZbOPYLEFT SYMBOLaSQUARED LATIN CAPITAL LETTER AzeBzeCzeDzeEzeFzeGzeHzeIzeJzeKzeLzeMzeNzeO",
     "zePzeQzeRzeSzeTzeUzeVzeWzeXzeYzeZiHViMViSDjSiPPViWCaNEGATIVE CIRCLED LATIN CAPITAL LETTER A",
     "znBznCznDznEznFznGznHznIznJznKznLznMznNznOznPznQznRznSznTznUznVznWznXznYznZaRAISED MC SIGN",
     "iD SIGNiR SIGNaCIRCLED CCj WITH OVERLAID BACKSLASHiHUMAN FIGURE",
     "aNEGATIVE SQUARED LATIN CAPITAL LETTER AznBznCznDznEznFznGznHznIznJznKznLznMznNznOznPznQznR",
     "znSznTznUznVznWznXznYznZaCROSSED NEGATIVE SQUARED LATIN CAPITAL LETTER PaNEGATIVE SQUARED IC",
     "rPArSArABrWCaSQUARE DJgD CLjOOLiFREEiIDiNEWjGiOKiSOSiUP WITH EXCLAMATION MARKiVSiTHREE D",
     "iSECOND SCREENiTWO KiFOUR KiEIGHT KiFIVE POINT ONEiSEVEN POINT ONEiTWENTY-TWO POINT TWO",
     "iSIXTY PiONE HUNDRED TWENTY PiLATIN SMALL LETTER DiHCjDRjI-RESiLOSSLESSiSHViUHDiVOD",
     "aMASK WORK SYMBOL=1F1E6aREGIONAL INDICATOR SYMBOL LETTER AziBziCziDziEziFziGziHziIziJziKziL",
     "ziMziNziOziPziQziRziSziTziUziVziWziXziYziZaSQUARE HIRAGANA HOKAgD KATAKANA KOKOrSA",
     "=1F210iCJK UNIFIED IDEOGRAPH-624Bzf5B57zg3CCiKATAKANA DEiCJK UNIFIED IDEOGRAPH-4E8Czf591A",
     "zf89E3zf5929zf4EA4zf6620zf7121zf6599zf524DzgF8Czg18Dzf65B0zf521Dzf7D42zg51Fzf8CA9zf58F0zg439",
     "zf6F14zg295zg355zf4E00zi9zf904Azf5DE6zf4E2Dzf53F3zf6307zf8D70zf6253zf7981zgA7Azf5408zf6E80",
     "zg709zi8zf7533zf5272zg5B6zf914D=1F240aTORTOISE SHELL BRACKETED CJK UNIFIED IDEOGRAPH-672C",
     "zw4E09zy8Czw5B89zw70B9zw6253zw76D7zw52DDzw6557=1F250aCIRCLED IDEOGRAPH ADVANTAGEtCCEPT",
     "=1F260aROUNDED SYMBOL FOR FUtLUtSHOUtXItSHUANGXItCAI=1F300aCYCLONEaFOGGYaCLOSED UMBRELLA",
     "aNIGHT WITH STARSaSUNRISE OVER MOUNTAINSgEaCITYSCAPE AT DUSKaSUNSET OVER BUILDINGSaRAINBOW",
     "aBRIDGE AT NIGHTaWATER WAVEaVOLCANOaMILKY WAYaEARTH GLOBE EUROPE-AFRICAmAMERICAS",
     "nSIA-AUSTRALIAaGLOBE WITH MERIDIANSaNEW MOON SYMBOLaWAXING CRESCENT MOON SYMBOL",
     "aFIRST QUARTER MOON SYMBOLaWAXING GIBBOUS MOON SYMBOLaFULL MOON SYMBOL",
     "aWANING GIBBOUS MOON SYMBOLaLAST QUARTER MOON SYMBOLaWANING CRESCENT MOON SYMBOL",
     "aCRESCENT MOONaNEW MOON WITH FACEaFIRST QUARTER MOON WITH FACEaLAST QUARTER MOON WITH FACE",
     "aFULL MOON WITH FACEaSUN WITH FACEaGLOWING STARaSHOOTING STARaTHERMOMETERaBLACK DROPLET",
     "aWHITE SUNj WITH SMALL CLOUDkBEHIND CLOUDw WITH RAINaCLOUD WITH RAINlSNOWlLIGHTNINGlTORNADO",
     "aFOGaWIND BLOWING FACEaHOT DOGaTACOaBURRITOaCHESTNUTaSEEDLINGaEVERGREEN TREEaDECIDUOUS TREE",
     "aPALM TREEaCACTUSaHOT PEPPERaTULIPaCHERRY BLOSSOMaROSEaHIBISCUSaSUNFLOWERaBLOSSOM",
     "aEAR OF MAIZEhRICEaHERBaFOUR LEAF CLOVERaMAPLE LEAFaFALLEN LEAFaLEAF FLUTTERING IN WIND",
     "aMUSHROOMaTOMATOaAUBERGINEaGRAPESaMELONaWATERMELONaTANGERINEaLEMONaBANANAaPINEAPPLE",
     "aRED APPLEaGREEN APPLEaPEARdCHaCHERRIESaSTRAWBERRYaHAMBURGERaSLICE OF PIZZAaMEAT ON BONE",
     "aPOULTRY LEGaRICE CRACKERfBALLaCOOKED RICEbURRY AND RICEaSTEAMING BOWLbPAGHETTIaBREAD",
     "aFRENCH FRIESaROASTED SWEET POTATOaDANGOaODENaSUSHIaFRIED SHRIMPbISH CAKE WITH SWIRL DESIGN",
     "aSOFT ICE CREAMbHAVED ICEaICE CREAMaDOUGHNUTaCOOKIEbHOCOLATE BARbANDYaLOLLIPOPaCUSTARD",
     "aHONEY POTaSHORTCAKEaBENTO BOXaPOT OF FOODaCOOKINGaFORK AND KNIFEaTEACUP WITHOUT HANDLE",
     "aSAKE BOTTLE AND CUPaWINE GLASSaCOCKTAIL GLASSaTROPICAL DRINKaBEER MUGaCLINKING BEER MUGS",
     "aBABY BOTTLEaFORK AND KNIFE WITH PLATEaBOTTLE WITH POPPING CORKaPOPCORNaRIBBON",
     "aWRAPPED PRESENTaBIRTHDAY CAKEaJACK-O-LANTERNaCHRISTMAS TREEaFATHER CHRISTMASbIREWORKS",
     "i SPARKLERaBALLOONaPARTY POPPERaCONFETTI BALLaTANABATA TREEaCROSSED FLAGSaPINE DECORATION",
     "aJAPANESE DOLLSaCARP STREAMERaWIND CHIMEaMOON VIEWING CEREMONYaSCHOOL SATCHELaGRADUATION CAP",
     "aHEART WITH TIP ON THE LEFTaBOUQUET OF FLOWERSaMILITARY MEDALaREMINDER RIBBON",
     "aMUSICAL KEYBOARD WITH JACKSaSTUDIO MICROPHONEaLEVEL SLIDERaCONTROL KNOBS",
     "aBEAMED ASCENDING MUSICAL NOTEShDESCENDING MUSICAL NOTESaFILM FRAMESaADMISSION TICKETS",
     "aCAROUSEL HORSEaFERRIS WHEELaROLLER COASTERaFISHING POLE AND FISHaMICROPHONEbOVIE CAMERA",
     "aCINEMAaHEADPHONEaARTIST PALETTEaTOP HATaCIRCUS TENTaTICKETaCLAPPER BOARDaPERFORMING ARTS",
     "aVIDEO GAMEaDIRECT HITaSLOT MACHINEaBILLIARDSaGAME DIEaBOWLINGaFLOWER PLAYING CARDS",
     "aMUSICAL NOTEcLTIPLE MUSICAL NOTESaSAXOPHONEaGUITARaMUSICAL KEYBOARDaTRUMPETaVIOLIN",
     "aMUSICAL SCOREaRUNNING SHIRT WITH SASHaTENNIS RACQUET AND BALLaSKI AND SKI BOOT",
     "aBASKETBALL AND HOOPaCHEQUERED FLAGaSNOWBOARDERaRUNNERaSURFERbPORTS MEDALaTROPHY",
     "aHORSE RACINGaAMERICAN FOOTBALLaRUGBY FOOTBALLaSWIMMERaWEIGHT LIFTERaGOLFER",
     "aRACING MOTORCYCLEhCARaCRICKET BAT AND BALLaVOLLEYBALLaFIELD HOCKEY STICK AND BALL",
     "aICE HOCKEY STICK AND PUCKaTABLE TENNIS PADDLE AND BALLaSNOW CAPPED MOUNTAINaCAMPING",
     "aBEACH WITH UMBRELLAbUILDING CONSTRUCTIONaHOUSE BUILDINGSaCITYSCAPEaDERELICT HOUSE BUILDING",
     "aCLASSICAL BUILDINGaDESERTg ISLANDaNATIONAL PARKaSTADIUMaHOUSE BUILDINGgWITH GARDEN",
     "aOFFICE BUILDINGaJAPANESE POST OFFICEaEUROPEAN POST OFFICEaHOSPITALaBANK",
     "aAUTOMATED TELLER MACHINEaHOTELaLOVE HOTELaCONVENIENCE STOREaSCHOOLaDEPARTMENT STOREaFACTORY",
     "aIZAKAYA LANTERNaJAPANESE CASTLEaEUROPEAN CASTLEaWHITE PENNANTaBLACK PENNANT",
     "aWAVING WHITE FLAGhBLACK FLAGaROSETTEaBLACK ROSETTEaLABELaBADMINTON RACQUET AND SHUTTLECOCK",
     "bOW AND ARROWaAMPHORAaEMOJI MODIFIER FITZPATRICK TYPE-1-2zh3zh4zh5zh6aRATaMOUSEaOX",
     "aWATER BUFFALOaCOWaTIGERaLEOPARDaRABBITaCATaDRAGONaCROCODILEaWHALEaSNAILdKEaHORSEaRAMaGOAT",
     "aSHEEPaMONKEYaROOSTERaCHICKENaDOGaPIGaBOARaELEPHANTaOCTOPUSaSPIRAL SHELLaBUGaANTaHONEYBEE",
     "aLADY BEETLEaFISHaTROPICAL FISHaBLOWFISHaTURTLEaHATCHING CHICKaBABY CHICK",
     "aFRONT-FACING BABY CHICKaBIRDaPENGUINaKOALAaPOODLEaDROMEDARY CAMELaBACTRIAN CAMELaDOLPHIN",
     "aMOUSE FACEaCOW FACEaTIGER FACEaRABBIT FACEaCAT FACEaDRAGON FACEaSPOUTING WHALEaHORSE FACE",
     "aMONKEY FACEaDOG FACEaPIG FACEaFROG FACEaHAMSTER FACEaWOLF FACEaBEAR FACEaPANDA FACEbIG NOSE",
     "bAW PRINTSaCHIPMUNKaEYEScEbARaNOSEaMOUTHaTONGUEaWHITE UP POINTING BACKHAND INDEX",
     "gDOWN POINTING BACKHAND INDEXgLEFT POINTING BACKHAND INDEXgRIGHT POINTING BACKHAND INDEX",
     "aFISTED HAND SIGNaWAVING HAND SIGNaOK HAND SIGNaTHUMBS UP SIGNhDOWN SIGNaCLAPPING HANDS SIGN",
     "aOPEN HANDS SIGNaCROWNaWOMANS HATaEYEGLASSESaNECKTIEaT-SHIRTaJEANSaDRESSaKIMONOaBIKINI",
     "aWOMANS CLOTHESaPURSEaHANDBAGaPOUCHaMANS SHOEaATHLETIC SHOEaHIGH-HEELED SHOEaWOMANS SANDAL",
     "hBOOTSaFOOTPRINTSaBUST IN SILHOUETTEeS IN SILHOUETTEbOYaGIRLaMANaWOMANaFAMILY",
     "aMAN AND WOMAN HOLDING HANDSaTWO MEN HOLDING HANDSeWOMEN HOLDING HANDSaPOLICE OFFICER",
     "aWOMAN WITH BUNNY EARSaBRIDE WITH VEILaPERSON WITH BLOND HAIRaMAN WITH GUA PI MAOjTURBAN",
     "aOLDER MANgWOMANaBABYaCONSTRUCTION WORKERaPRINCESSaJAPANESE OGREjGOBLINaGHOSTaBABY ANGEL",
     "aEXTRATERRESTRIAL ALIENaALIEN MONSTERaIMPaSKULLaINFORMATION DESK PERSONaGUARDSMANaDANCER",
     "aLIPSTICKaNAIL POLISHaFACE MASSAGEaHAIRCUTaBARBER POLEaSYRINGEaPILLaKISS MARKaLOVE LETTER",
     "aRINGaGEM STONEaKISSaBOUQUETaCOUPLE WITH HEARTaWEDDINGaBEATING HEARTbROKEN HEARTaTWO HEARTS",
     "aSPARKLING HEARTaGROWING HEARTaHEART WITH ARROWaBLUE HEARTaGREEN HEARTaYELLOW HEART",
     "aPURPLE HEARTaHEART WITH RIBBONaREVOLVING HEARTSaHEART DECORATION",
     "aDIAMOND SHAPE WITH A DOT INSIDEaELECTRIC LIGHT BULBaANGER SYMBOLaBOMBaSLEEPING SYMBOL",
     "aCOLLISION SYMBOLaSPLASHING SWEAT SYMBOLaDROPLETbASH SYMBOLaPILE OF POOaFLEXED BICEPS",
     "aDIZZY SYMBOLaSPEECH BALLOONaTHOUGHT BALLOONaWHITE FLOWERaHUNDRED POINTS SYMBOLaMONEY BAG",
     "aCURRENCY EXCHANGEaHEAVY DOLLAR SIGNaCREDIT CARDaBANKNOTE WITH YEN SIGNoDOLLAR SIGN",
     "oEURO SIGNoPOUND SIGNaMONEY WITH WINGSaCHART WITH UPWARDS TREND AND YEN SIGNaSEAT",
     "aPERSONAL COMPUTERaBRIEFCASEaMINIDISCaFLOPPY DISKaOPTICAL DISCaDVDaFILE FOLDER",
     "aOPEN FILE FOLDERaPAGE WITH CURLfFACING UPaCALENDARaTEAR-OFF CALENDARaCARD INDEX",
     "bHART WITH UPWARDS TRENDlDOWNWARDS TRENDaBAR CHARTaCLIPBOARDaPUSHPINaROUND PUSHPINaPAPERCLIP",
     "aSTRAIGHT RULERaTRIANGULAR RULERaBOOKMARK TABSaLEDGERaNOTEBOOKi WITH DECORATIVE COVER",
     "aCLOSED BOOKaOPEN BOOKaGREEN BOOKaBLUE BOOKaORANGE BOOKaBOOKSaNAME BADGEaSCROLLaMEMO",
     "aTELEPHONE RECEIVERaPAGERaFAX MACHINEaSATELLITE ANTENNAaPUBLIC ADDRESS LOUDSPEAKER",
     "aCHEERING MEGAPHONEaOUTBOX TRAYaINBOX TRAYaPACKAGEaE-MAIL SYMBOLaINCOMING ENVELOPE",
     "aENVELOPE WITH DOWNWARDS ARROW ABOVEaCLOSED MAILBOX WITH LOWERED FLAGuRAISED FLAG",
     "aOPEN MAILBOX WITH RAISED FLAGsLOWERED FLAGaPOSTBOXeAL HORNaNEWSPAPERaMOBILE PHONE",
     "m WITH RIGHTWARDS ARROW AT LEFTaVIBRATION MODEaMOBILE PHONE OFFaNO MOBILE PHONES",
     "aANTENNA WITH BARSaCAMERAg WITH FLASHaVIDEO CAMERAaTELEVISIONaRADIOaVIDEOCASSETTE",
     "aFILM PROJECTORaPORTABLE STEREObRAYER BEADSaTWISTED RIGHTWARDS ARROWS",
     "aCLOCKWISE RIGHTWARDS AND LEFTWARDS OPEN CIRCLE ARROWSzzd WITH CIRCLED ONE OVERLAY",
     "kDOWNWARDS AND UPWARDS OPEN CIRCLE ARROWS",
     "aANTICLOCKWISE DOWNWARDS AND UPWARDS OPEN CIRCLE ARROWSaLOW BRIGHTNESS SYMBOL",
     "aHIGH BRIGHTNESS SYMBOLaSPEAKER WITH CANCELLATION STROKEgRh WITH ONE SOUND WAVE",
     "nTHREE SOUND WAVESaBATTERYaELECTRIC PLUGaLEFT-POINTING MAGNIFYING GLASS",
     "aRIGHT-POINTING MAGNIFYING GLASSaLOCK WITH INK PENaCLOSED LOCK WITH KEYaKEYaLOCKaOPEN LOCK",
     "aBELLe WITH CANCELLATION STROKEbOOKMARKaLINK SYMBOLaRADIO BUTTON",
     "aBACK WITH LEFTWARDS ARROW ABOVEaEND WITH LEFTWARDS ARROW ABOVE",
     "aON WITH EXCLAMATION MARK WITH LEFT RIGHT ARROW ABOVEaSOON WITH RIGHTWARDS ARROW ABOVE",
     "aTOP WITH UPWARDS ARROW ABOVEaNO ONE UNDER EIGHTEEN SYMBOLaKEYCAP TEN",
     "aINPUT SYMBOL FOR LATIN CAPITAL LETTERSxSMALL LETTERSrNUMBERSrSYMBOLSrLATIN LETTERSaFIRE",
     "aELECTRIC TORCHaWRENCHaHAMMERaNUT AND BOLTaHOCHOaPISTOLaMICROSCOPEaTELESCOPEaCRYSTAL BALL",
     "aSIX POINTED STAR WITH MIDDLE DOTaJAPANESE SYMBOL FOR BEGINNERaTRIDENT EMBLEM",
     "aBLACK SQUARE BUTTONaWHITE SQUARE BUTTONaLARGE RED CIRCLEgBLUE CIRCLEgORANGE DIAMOND",
     "gBLUE DIAMONDaSMALL ORANGE DIAMONDgBLUE DIAMONDaUP-POINTING RED TRIANGLE",
     "aDOWN-POINTING RED TRIANGLEaUP-POINTING SMALL RED TRIANGLEaDOWN-POINTING SMALL RED TRIANGLE",
     "aLOWER RIGHT SHADOWED WHITE CIRCLEaUPPER RIGHT SHADOWED WHITE CIRCLEaCIRCLED CROSS POMMEE",
     "bROSS POMMEE WITH HALF-CIRCLE BELOWlEaNOTCHED LEFT SEMICIRCLE WITH THREE DOTS",
     "iRIGHT SEMICIRCLE WITH THREE DOTSaSYMBOL FOR MARKS CHAPTERaWHITE LATIN CROSS",
     "aHEAVY LATIN CROSSaCELTIC CROSSaOM SYMBOLaDOVE OF PEACEaKAABAaMOSQUEaSYNAGOGUE",
     "aMENORAH WITH NINE BRANCHESaBOWL OF HYGIEIAaCLOCK FACE ONE OCLOCKlTWO OCLOCKmHREE OCLOCK",
     "lFOUR OCLOCKmIVE OCLOCKlSIX OCLOCKmEVEN OCLOCKlEIGHT OCLOCKlNINE OCLOCKlTEN OCLOCK",
     "lELEVEN OCLOCKlTWELVE OCLOCKlONE-THIRTYlTWO-THIRTYmHREE-THIRTYlFOUR-THIRTYmIVE-THIRTY",
     "lSIX-THIRTYmEVEN-THIRTYlEIGHT-THIRTYlNINE-THIRTYlTEN-THIRTYlELEVEN-THIRTYlTWELVE-THIRTY",
     "aRIGHT SPEAKERn WITH ONE SOUND WAVEtTHREE SOUND WAVESaBULLHORNi WITH SOUND WAVES",
     "aRINGING BELLaBOOKaCANDLEaMANTELPIECE CLOCKaBLACK SKULL AND CROSSBONESaNO PIRACYaHOLE",
     "aMAN IN BUSINESS SUIT LEVITATINGaSLEUTH OR SPYaDARK SUNGLASSESaSPIDERg WEBaJOYSTICK",
     "aMAN DANCINGaLEFT HAND TELEPHONE RECEIVERaTELEPHONE RECEIVER WITH PAGE",
     "aRIGHT HAND TELEPHONE RECEIVERaWHITE TOUCHTONE TELEPHONEaBLACK TOUCHTONE TELEPHONE",
     "aTELEPHONE ON TOP OF MODEMaCLAMSHELL MOBILE PHONEaBACK OF ENVELOPEaSTAMPED ENVELOPE",
     "aENVELOPE WITH LIGHTNINGaFLYING ENVELOPEaPEN OVER STAMPED ENVELOPEaLINKED PAPERCLIPS",
     "aBLACK PUSHPINaLOWER LEFT PENCILlBALLPOINT PENlFOUNTAIN PENlPAINTBRUSHlCRAYON",
     "bEFT WRITING HANDaTURNED OK HAND SIGNaRAISED HAND WITH FINGERS SPLAYED",
     "bEVERSED RAISED HAND WITH FINGERS SPLAYEDjTHUMBS UP SIGNqDOWN SIGNjVICTORY HAND",
     "jHAND WITH MIDDLE FINGER EXTENDEDbAISED HAND WITH PART BETWEEN MIDDLE AND RING FINGERS",
     "aWHITE DOWN POINTING LEFT HAND INDEXaSIDEWAYS WHITE LEFT POINTING INDEXpRIGHT POINTING INDEX",
     "jBLACK LEFT POINTING INDEXpRIGHT POINTING INDEXaBLACK LEFT POINTING BACKHAND INDEX",
     "gRIGHT POINTING BACKHAND INDEXaSIDEWAYS WHITE UP POINTING INDEXpDOWN POINTING INDEX",
     "jBLACK UP POINTING INDEXpDOWN POINTING INDEXaBLACK UP POINTING BACKHAND INDEX",
     "gDOWN POINTING BACKHAND INDEXgHEARTaDESKTOP COMPUTERaKEYBOARD AND MOUSE",
     "aTHREE NETWORKED COMPUTERSaPRINTERbOCKET CALCULATORaBLACK HARD SHELL FLOPPY DISK",
     "aWHITE HARD SHELL FLOPPY DISKaSOFT SHELL FLOPPY DISKaTAPE CARTRIDGEaWIRED KEYBOARD",
     "aONE BUTTON MOUSEaTWO BUTTON MOUSEbHREE BUTTON MOUSEbRACKBALLaOLD PERSONAL COMPUTER",
     "aHARD DISKaSCREENaPRINTER ICONaFAX ICONaOPTICAL DISC ICONaDOCUMENT WITH TEXTs AND PICTURE",
     "oPICTUREaFRAME WITH PICTURElTILESlAN XaBLACK FOLDERaFOLDERaOPEN FOLDERaCARD INDEX DIVIDERS",
     "fFILE BOXaFILE CABINETaEMPTY NOTEk PAGEnDaNOTEe PAGEhDaEMPTY DOCUMENTgPAGEkSaDOCUMENTaPAGEeS",
     "aWASTEBASKETaSPIRAL NOTE PADhCALENDAR PADaDESKTOP WINDOWaMINIMIZEbAXIMIZEaOVERLAP",
     "aCLOCKWISE RIGHT AND LEFT SEMICIRCLE ARROWSbANCELLATION XaINCREASE FONT SIZE SYMBOL",
     "aDECREASE FONT SIZE SYMBOLaCOMPRESSIONaOLD KEYaROLLED-UP NEWSPAPERaPAGE WITH CIRCLED TEXT",
     "aSTOCK CHARTaDAGGER KNIFEaLIPSaSPEAKING HEAD IN SILHOUETTEaTHREE RAYS ABOVElBELOWlLEFTlRIGHT",
     "aLEFT SPEECH BUBBLEaRIGHT SPEECH BUBBLEaTWO SPEECH BUBBLESbHREE SPEECH BUBBLES",
     "aLEFT THOUGHT BUBBLEaRIGHT THOUGHT BUBBLEaLEFT ANGER BUBBLEaRIGHT ANGER BUBBLEaMOOD BUBBLE",
     "aLIGHTNING MOOD BUBBLEnDaBALLOT BOX WITH BALLOThSCRIPT XhBOX WITH SCRIPT XjLD SCRIPT X",
     "jX WITH BOLD SCRIPT XaLIGHT CHECK MARKaBALLOT BOX WITH BOLD CHECKaWORLD MAPaMOUNT FUJI",
     "aTOKYO TOWERaSTATUE OF LIBERTYbILHOUETTE OF JAPANaMOYAIaGRINNING FACEn WITH SMILING EYES",
     "aFACE WITH TEARS OF JOYaSMILING FACE WITH OPEN MOUTHzd AND SMILING EYESziCOLD SWEAT",
     "ziTIGHTLY-CLOSED EYESsHALOtORNSaWINKING FACEaSMILING FACE WITH SMILING EYES",
     "aFACE SAVOURING DELICIOUS FOODaRELIEVED FACEaSMILING FACE WITH HEART-SHAPED EYESsSUNGLASSES",
     "dRKING FACEaNEUTRAL FACEaEXPRESSIONLESS FACEaUNAMUSED FACEaFACE WITH COLD SWEATaPENSIVE FACE",
     "aCONFUSED FACEeOUNDED FACEaKISSING FACEaFACE THROWING A KISSaKISSING FACE WITH SMILING EYES",
     "sCLOSED EYESaFACE WITH STUCK-OUT TONGUEzb AND WINKING EYEzgTIGHTLY-CLOSED EYES",
     "aDISAPPOINTED FACEaWORRIED FACEaANGRY FACEaPOUTING FACEaCRYING FACEaPERSEVERING FACE",
     "aFACE WITH LOOK OF TRIUMPHaDISAPPOINTED BUT RELIEVED FACEaFROWNING FACE WITH OPEN MOUTH",
     "aANGUISHED FACEaFEARFUL FACEaWEARY FACEaSLEEPY FACEaTIRED FACEaGRIMACING FACE",
     "aLOUDLY CRYING FACEaFACE WITH OPEN MOUTHaHUSHED FACEaFACE WITH OPEN MOUTH AND COLD SWEAT",
     "fSCREAMING IN FEARaASTONISHED FACEaFLUSHED FACEaSLEEPING FACEaDIZZY FACEaFACE WITHOUT MOUTH",
     "j MEDICAL MASKaGRINNING CAT FACE WITH SMILING EYESaCAT FACE WITH TEARS OF JOY",
     "aSMILING CAT FACE WITH OPEN MOUTHwHEART-SHAPED EYESaCAT FACE WITH WRY SMILE",
     "aKISSING CAT FACE WITH CLOSED EYESaPOUTING CAT FACEaCRYING CAT FACEaWEARY CAT FACE",
     "aSLIGHTLY FROWNING FACEjSMILING FACEaUPSIDE-DOWN FACEaFACE WITH ROLLING EYESkNO GOOD GESTURE",
     "kOK GESTUREaPERSON BOWING DEEPLYaSEE-NO-EVIL MONKEYaHEAR-NO-EVIL MONKEYaSPEAK-NO-EVIL MONKEY",
     "aHAPPY PERSON RAISING ONE HANDaPERSON RAISING BOTH HANDS IN CELEBRATIONhFROWNING",
     "hWITH POUTING FACEmFOLDED HANDSaNORTH WEST POINTING LEAFaSOUTH WEST POINTING LEAF",
     "aNORTH EAST POINTING LEAFaSOUTH EAST POINTING LEAFaTURNED NORTH WEST POINTING LEAF",
     "hSOUTH WEST POINTING LEAFhNORTH EAST POINTING LEAFhSOUTH EAST POINTING LEAF",
     "aNORTH WEST POINTING VINE LEAFaSOUTH WEST POINTING VINE LEAFaNORTH EAST POINTING VINE LEAF",
     "aSOUTH EAST POINTING VINE LEAFaHEAVY NORTH WEST POINTING VINE LEAF",
     "gSOUTH WEST POINTING VINE LEAFgNORTH EAST POINTING VINE LEAFgSOUTH EAST POINTING VINE LEAF",
     "aNORTH WEST POINTING BUDaSOUTH WEST POINTING BUDaNORTH EAST POINTING BUD",
     "aSOUTH EAST POINTING BUDaHEAVY NORTH WEST POINTING BUDgSOUTH WEST POINTING BUD",
     "gNORTH EAST POINTING BUDgSOUTH EAST POINTING BUDbOLLOW QUILT SQUARE ORNAMENT",
     "zd IN BLACK SQUAREaSOLID QUILT SQUARE ORNAMENTzc IN BLACK SQUAREaLEFTWARDS ROCKET",
     "aUPWARDS ROCKETaRIGHTWARDS ROCKETaDOWNWARDS ROCKETaSCRIPT LIGATURE ET ORNAMENT",
     "aHEAVY SCRIPT LIGATURE ET ORNAMENTaLIGATURE OPEN ET ORNAMENTaHEAVY LIGATURE OPEN ET ORNAMENT",
     "gAMPERSAND ORNAMENTaSWASH AMPERSAND ORNAMENT",
     "bANS-SERIF HEAVY DOUBLE TURNED COMMA QUOTATION MARK ORNAMENTyCOMMA QUOTATION MARK ORNAMENT",
     "rLOW DOUBLE COMMA QUOTATION MARK ORNAMENTaHEAVY INTERROBANG ORNAMENT",
     "aSANS-SERIF INTERROBANG ORNAMENTaHEAVY SANS-SERIF INTERROBANG ORNAMENTaVERY HEAVY SOLIDUS",
     "lREVERSE SOLIDUSaCHECKER BOARDaREVERSE CHECKER BOARDbOCKETaHELICOPTERaSTEAM LOCOMOTIVE",
     "aRAILWAY CARaHIGH-SPEED TRAINq WITH BULLET NOSEaTRAINaMETROaLIGHT RAILaSTATIONaTRAMe CARaBUS",
     "aONCOMING BUSaTROLLEYBUSaBUS STOPaMINIBUSaAMBULANCEaFIRE ENGINEaPOLICE CAR",
     "aONCOMING POLICE CARaTAXIaONCOMING TAXIaAUTOMOBILEaONCOMING AUTOMOBILEaRECREATIONAL VEHICLE",
     "aDELIVERY TRUCKaARTICULATED LORRYaTRACTORaMONORAILcUNTAIN RAILWAYaSUSPENSION RAILWAY",
     "aMOUNTAIN CABLEWAYaAERIAL TRAMWAYaSHIPaROWBOATaSPEEDBOATaHORIZONTAL TRAFFIC LIGHT",
     "aVERTICAL TRAFFIC LIGHTaCONSTRUCTION SIGNaPOLICE CARS REVOLVING LIGHT",
     "aTRIANGULAR FLAG ON POSTaDOORaNO ENTRY SIGNaSMOKING SYMBOLaNO SMOKING SYMBOL",
     "aPUT LITTER IN ITS PLACE SYMBOLaDO NOT LITTER SYMBOLaPOTABLE WATER SYMBOL",
     "aNON-POTABLE WATER SYMBOLaBICYCLEaNO BICYCLESaBICYCLISTaMOUNTAIN BICYCLISTaPEDESTRIAN",
     "aNO PEDESTRIANSaCHILDREN CROSSINGaMENS SYMBOLaWOMENS SYMBOLaRESTROOMaBABY SYMBOLaTOILET",
     "aWATER CLOSETaSHOWERaBATHeTUBaPASSPORT CONTROLaCUSTOMSaBAGGAGE CLAIMaLEFT LUGGAGE",
     "aTRIANGLE WITH ROUNDED CORNERSaPROHIBITED SIGNaCIRCLED INFORMATION SOURCEaBOYS SYMBOL",
     "aGIRLS SYMBOLaCOUCH AND LAMPaSLEEPING ACCOMMODATIONbHOPPING BAGSaBELLHOP BELLcD",
     "aPLACE OF WORSHIPaOCTAGONAL SIGNaSHOPPING TROLLEYbTUPAaPAGODAaHINDU TEMPLEbUTaELEVATOR",
     "=1F6DDaPLAYGROUND SLIDEaWHEELaRING BUOYaHAMMER AND WRENCHaSHIELDaOIL DRUMaMOTORWAY",
     "aRAILWAY TRACKaMOTOR BOATaUP-POINTING MILITARY AIRPLANEmAIRPLANEmSMALL AIRPLANE",
     "aSMALL AIRPLANEaNORTHEAST-POINTING AIRPLANEaAIRPLANE DEPARTUREjARRIVING=1F6F0aSATELLITE",
     "aONCOMING FIRE ENGINEaDIESEL LOCOMOTIVEaPASSENGER SHIPaSCOOTERaMOTOR SCOOTERaCANOEaSLED",
     "aFLYING SAUCERaSKATEBOARDaAUTO RICKSHAWaPICKUP TRUCKaROLLER SKATE",
     "=1F700aALCHEMICAL SYMBOL FOR QUINTESSENCEwAIRwFIREwEARTHwWATERwAQUAFORTISzb REGIAzh-2zcVITAE",
     "zh-2wVINEGARze-2zf3wSULFURwPHILOSOPHERS SULFURwBLACK SULFURwMERCURY SUBLIMATEzo-2zp3",
     "wCINNABARwSALTwNITREwVITRIOLze-2wROCK SALTzg-2wGOLDwSILVERwIRON OREzf-2wCROCUS OF IRON",
     "wREGULUS OF IRONwCOPPER OREwIRON-COPPER OREwSUBLIMATE OF COPPERwCROCUS OF COPPERzn-2",
     "xOPPER ANTIMONIATEwSALT OF COPPER ANTIMONIATExUBLIMATE OF SALT OF COPPERwVERDIGRISwTIN ORE",
     "wLEAD OREwANTIMONY OREwSUBLIMATE OF ANTIMONYxALT OF ANTIMONYxUBLIMATE OF SALT OF ANTIMONY",
     "wVINEGAR OF ANTIMONYwREGULUS OF ANTIMONYzq-2zdSze-2zf3zf4wALKALIzd-2wMARCASITEwSAL-AMMONIAC",
     "wARSENICwREALGARze-2wAURIPIGMENTwBISMUTH OREwTARTARzd-2wQUICK LIMEwBORAXzc-2zd3wALUMwOIL",
     "wSPIRITwTINCTUREwGUMwWAXwPOWDERwCALXwTUTTYwCAPUT MORTUUMwSCEPTER OF JOVEwCADUCEUSwTRIDENT",
     "wSTARRED TRIDENTwLODESTONEwSOAPwURINEwHORSE DUNGwASHESwPOT ASHESwBRICKwPOWDERED BRICK",
     "wAMALGAMwSTRATUM SUPER STRATUMzs-2xUBLIMATIONwPRECIPITATEwDISTILLzaSOLVEzf-2wPURIFY",
     "yTREFACTIONwCRUCIBLEzf-2zg3zg4zg5wALEMBICwBATH OF MARYzfVAPOURSwRETORTwHOURwNIGHTwDAY-NIGHT",
     "wMONTHwHALF DRAMzcOUNCE=1F780aBLACK LEFT-POINTING ISOSCELES RIGHT TRIANGLE",
     "gUP-POINTING ISOSCELES RIGHT TRIANGLEgRIGHT-POINTING ISOSCELES RIGHT TRIANGLE",
     "gDOWN-POINTING ISOSCELES RIGHT TRIANGLEgSLIGHTLY SMALL CIRCLEaMEDIUM BOLD WHITE CIRCLE",
     "aBOLD WHITE CIRCLEaHEAVY WHITE CIRCLEaVERY HEAVY WHITE CIRCLEaEXTREMELY HEAVY WHITE CIRCLE",
     "aWHITE CIRCLE CONTAINING BLACK SMALL CIRCLEaROUND TARGETaBLACK TINY SQUARE",
     "gSLIGHTLY SMALL SQUAREaLIGHT WHITE SQUAREaMEDIUM WHITE SQUAREaBOLD WHITE SQUARE",
     "aHEAVY WHITE SQUAREaVERY HEAVY WHITE SQUAREaEXTREMELY HEAVY WHITE SQUARE",
     "aWHITE SQUARE CONTAINING BLACK VERY SMALL SQUAREzfMEDIUM SQUAREaSQUARE TARGET",
     "aBLACK TINY DIAMONDgVERY SMALL DIAMONDgMEDIUM SMALL DIAMOND",
     "aWHITE DIAMOND CONTAINING BLACK VERY SMALL DIAMONDzgMEDIUM DIAMONDaDIAMOND TARGET",
     "aBLACK TINY LOZENGEgVERY SMALL LOZENGEgMEDIUM SMALL LOZENGE",
     "aWHITE LOZENGE CONTAINING BLACK SMALL LOZENGEaTHIN GREEK CROSSaLIGHT GREEK CROSS",
     "aMEDIUM GREEK CROSSaBOLD GREEK CROSSaVERY BOLD GREEK CROSSfHEAVY GREEK CROSS",
     "aEXTREMELY HEAVY GREEK CROSSaTHIN SALTIREaLIGHT SALTIREaMEDIUM SALTIREaBOLD SALTIRE",
     "aHEAVY SALTIREaVERY HEAVY SALTIREaEXTREMELY HEAVY SALTIREaLIGHT FIVE SPOKED ASTERISK",
     "aMEDIUM FIVE SPOKED ASTERISKaBOLD FIVE SPOKED ASTERISKaHEAVY FIVE SPOKED ASTERISK",
     "aVERY HEAVY FIVE SPOKED ASTERISKaEXTREMELY HEAVY FIVE SPOKED ASTERISK",
     "aLIGHT SIX SPOKED ASTERISKaMEDIUM SIX SPOKED ASTERISKaBOLD SIX SPOKED ASTERISK",
     "aHEAVY SIX SPOKED ASTERISKaVERY HEAVY SIX SPOKED ASTERISK",
     "aEXTREMELY HEAVY SIX SPOKED ASTERISKaLIGHT EIGHT SPOKED ASTERISK",
     "aMEDIUM EIGHT SPOKED ASTERISKaBOLD EIGHT SPOKED ASTERISKaHEAVY EIGHT SPOKED ASTERISK",
     "aVERY HEAVY EIGHT SPOKED ASTERISKaLIGHT THREE POINTED BLACK STAR",
     "aMEDIUM THREE POINTED BLACK STARaTHREE POINTED BLACK STARaMEDIUM THREE POINTED PINWHEEL STAR",
     "aLIGHT FOUR POINTED BLACK STARaMEDIUM FOUR POINTED BLACK STARaFOUR POINTED BLACK STAR",
     "aMEDIUM FOUR POINTED PINWHEEL STARaREVERSE LIGHT FOUR POINTED PINWHEEL STAR",
     "aLIGHT FIVE POINTED BLACK STARaHEAVY FIVE POINTED BLACK STARaMEDIUM SIX POINTED BLACK STAR",
     "aHEAVY SIX POINTED BLACK STARaSIX POINTED PINWHEEL STARaMEDIUM EIGHT POINTED BLACK STAR",
     "aHEAVY EIGHT POINTED BLACK STARaVERY HEAVY EIGHT POINTED BLACK STAR",
     "aHEAVY EIGHT POINTED PINWHEEL STARaLIGHT TWELVE POINTED BLACK STAR",
     "aHEAVY TWELVE POINTED BLACK STARvPINWHEEL STARaCIRCLED TRIANGLEaNEGATIVE CIRCLED TRIANGLE",
     "aCIRCLED SQUAREaNEGATIVE CIRCLED SQUARE=1F7E0aLARGE ORANGE CIRCLEgYELLOW CIRCLEgGREEN CIRCLE",
     "gPURPLE CIRCLEgBROWN CIRCLEgRED SQUAREgBLUE SQUAREgORANGE SQUAREgYELLOW SQUAREgGREEN SQUARE",
     "gPURPLE SQUAREgBROWN SQUARE=1F7F0aHEAVY EQUALS SIGN",
     "=1F800aLEFTWARDS ARROW WITH SMALL TRIANGLE ARROWHEAD",
     "aUPWARDS ARROW WITH SMALL TRIANGLE ARROWHEADaRIGHTWARDS ARROW WITH SMALL TRIANGLE ARROWHEAD",
     "aDOWNWARDS ARROW WITH SMALL TRIANGLE ARROWHEAD",
     "aLEFTWARDS ARROW WITH MEDIUM TRIANGLE ARROWHEADaUPWARDS ARROW WITH MEDIUM TRIANGLE ARROWHEAD",
     "aRIGHTWARDS ARROW WITH MEDIUM TRIANGLE ARROWHEAD",
     "aDOWNWARDS ARROW WITH MEDIUM TRIANGLE ARROWHEAD",
     "aLEFTWARDS ARROW WITH LARGE TRIANGLE ARROWHEADaUPWARDS ARROW WITH LARGE TRIANGLE ARROWHEAD",
     "aRIGHTWARDS ARROW WITH LARGE TRIANGLE ARROWHEAD",
     "aDOWNWARDS ARROW WITH LARGE TRIANGLE ARROWHEAD",
     "=1F810aLEFTWARDS ARROW WITH SMALL EQUILATERAL ARROWHEAD",
     "aUPWARDS ARROW WITH SMALL EQUILATERAL ARROWHEAD",
     "aRIGHTWARDS ARROW WITH SMALL EQUILATERAL ARROWHEAD",
     "aDOWNWARDS ARROW WITH SMALL EQUILATERAL ARROWHEADaLEFTWARDS ARROW WITH EQUILATERAL ARROWHEAD",
     "aUPWARDS ARROW WITH EQUILATERAL ARROWHEADaRIGHTWARDS ARROW WITH EQUILATERAL ARROWHEAD",
     "aDOWNWARDS ARROW WITH EQUILATERAL ARROWHEADaHEAVY LEFTWARDS ARROW WITH EQUILATERAL ARROWHEAD",
     "gUPWARDS ARROW WITH EQUILATERAL ARROWHEADgRIGHTWARDS ARROW WITH EQUILATERAL ARROWHEAD",
     "gDOWNWARDS ARROW WITH EQUILATERAL ARROWHEADgLEFTWARDS ARROW WITH LARGE EQUILATERAL ARROWHEAD",
     "gUPWARDS ARROW WITH LARGE EQUILATERAL ARROWHEAD",
     "gRIGHTWARDS ARROW WITH LARGE EQUILATERAL ARROWHEAD",
     "gDOWNWARDS ARROW WITH LARGE EQUILATERAL ARROWHEAD",
     "aLEFTWARDS TRIANGLE-HEADED ARROW WITH NARROW SHAFT",
     "aUPWARDS TRIANGLE-HEADED ARROW WITH NARROW SHAFT",
     "aRIGHTWARDS TRIANGLE-HEADED ARROW WITH NARROW SHAFT",
     "aDOWNWARDS TRIANGLE-HEADED ARROW WITH NARROW SHAFT",
     "aLEFTWARDS TRIANGLE-HEADED ARROW WITH MEDIUM SHAFT",
     "aUPWARDS TRIANGLE-HEADED ARROW WITH MEDIUM SHAFT",
     "aRIGHTWARDS TRIANGLE-HEADED ARROW WITH MEDIUM SHAFT",
     "aDOWNWARDS TRIANGLE-HEADED ARROW WITH MEDIUM SHAFT",
     "aLEFTWARDS TRIANGLE-HEADED ARROW WITH BOLD SHAFT",
     "aUPWARDS TRIANGLE-HEADED ARROW WITH BOLD SHAFT",
     "aRIGHTWARDS TRIANGLE-HEADED ARROW WITH BOLD SHAFT",
     "aDOWNWARDS TRIANGLE-HEADED ARROW WITH BOLD SHAFT",
     "aLEFTWARDS TRIANGLE-HEADED ARROW WITH HEAVY SHAFT",
     "aUPWARDS TRIANGLE-HEADED ARROW WITH HEAVY SHAFT",
     "aRIGHTWARDS TRIANGLE-HEADED ARROW WITH HEAVY SHAFT",
     "aDOWNWARDS TRIANGLE-HEADED ARROW WITH HEAVY SHAFT",
     "aLEFTWARDS TRIANGLE-HEADED ARROW WITH VERY HEAVY SHAFT",
     "aUPWARDS TRIANGLE-HEADED ARROW WITH VERY HEAVY SHAFT",
     "aRIGHTWARDS TRIANGLE-HEADED ARROW WITH VERY HEAVY SHAFT",
     "aDOWNWARDS TRIANGLE-HEADED ARROW WITH VERY HEAVY SHAFTaLEFTWARDS FINGER-POST ARROW",
     "aUPWARDS FINGER-POST ARROWaRIGHTWARDS FINGER-POST ARROWaDOWNWARDS FINGER-POST ARROW",
     "aLEFTWARDS SQUARED ARROWaUPWARDS SQUARED ARROWaRIGHTWARDS SQUARED ARROW",
     "aDOWNWARDS SQUARED ARROWaLEFTWARDS COMPRESSED ARROWaUPWARDS COMPRESSED ARROW",
     "aRIGHTWARDS COMPRESSED ARROWaDOWNWARDS COMPRESSED ARROWaLEFTWARDS HEAVY COMPRESSED ARROW",
     "aUPWARDS HEAVY COMPRESSED ARROWaRIGHTWARDS HEAVY COMPRESSED ARROW",
     "aDOWNWARDS HEAVY COMPRESSED ARROWaLEFTWARDS HEAVY ARROWaUPWARDS HEAVY ARROW",
     "aRIGHTWARDS HEAVY ARROWaDOWNWARDS HEAVY ARROW=1F850aLEFTWARDS SANS-SERIF ARROW",
     "aUPWARDS SANS-SERIF ARROWaRIGHTWARDS SANS-SERIF ARROWaDOWNWARDS SANS-SERIF ARROW",
     "aNORTH WEST SANS-SERIF ARROWgEAST SANS-SERIF ARROWaSOUTH EAST SANS-SERIF ARROW",
     "gWEST SANS-SERIF ARROWaLEFT RIGHT SANS-SERIF ARROWaUP DOWN SANS-SERIF ARROW",
     "=1F860aWIDE-HEADED LEFTWARDS LIGHT BARB ARROWmUPWARDS LIGHT BARB ARROW",
     "mRIGHTWARDS LIGHT BARB ARROWmDOWNWARDS LIGHT BARB ARROWmNORTH WEST LIGHT BARB ARROW",
     "sEAST LIGHT BARB ARROWmSOUTH EAST LIGHT BARB ARROWsWEST LIGHT BARB ARROW",
     "mLEFTWARDS BARB ARROWmUPWARDS BARB ARROWmRIGHTWARDS BARB ARROWmDOWNWARDS BARB ARROW",
     "mNORTH WEST BARB ARROWsEAST BARB ARROWmSOUTH EAST BARB ARROWsWEST BARB ARROW",
     "mLEFTWARDS MEDIUM BARB ARROWmUPWARDS MEDIUM BARB ARROWmRIGHTWARDS MEDIUM BARB ARROW",
     "mDOWNWARDS MEDIUM BARB ARROWmNORTH WEST MEDIUM BARB ARROWsEAST MEDIUM BARB ARROW",
     "mSOUTH EAST MEDIUM BARB ARROWsWEST MEDIUM BARB ARROWmLEFTWARDS HEAVY BARB ARROW",
     "mUPWARDS HEAVY BARB ARROWmRIGHTWARDS HEAVY BARB ARROWmDOWNWARDS HEAVY BARB ARROW",
     "mNORTH WEST HEAVY BARB ARROWsEAST HEAVY BARB ARROWmSOUTH EAST HEAVY BARB ARROW",
     "sWEST HEAVY BARB ARROWmLEFTWARDS VERY HEAVY BARB ARROWmUPWARDS VERY HEAVY BARB ARROW",
     "mRIGHTWARDS VERY HEAVY BARB ARROWmDOWNWARDS VERY HEAVY BARB ARROW",
     "mNORTH WEST VERY HEAVY BARB ARROWsEAST VERY HEAVY BARB ARROW",
     "mSOUTH EAST VERY HEAVY BARB ARROWsWEST VERY HEAVY BARB ARROW",
     "=1F890aLEFTWARDS TRIANGLE ARROWHEADaUPWARDS TRIANGLE ARROWHEADaRIGHTWARDS TRIANGLE ARROWHEAD",
     "aDOWNWARDS TRIANGLE ARROWHEADaLEFTWARDS WHITE ARROW WITHIN TRIANGLE ARROWHEAD",
     "aUPWARDS WHITE ARROW WITHIN TRIANGLE ARROWHEAD",
     "aRIGHTWARDS WHITE ARROW WITHIN TRIANGLE ARROWHEAD",
     "aDOWNWARDS WHITE ARROW WITHIN TRIANGLE ARROWHEADaLEFTWARDS ARROW WITH NOTCHED TAIL",
     "aUPWARDS ARROW WITH NOTCHED TAILaRIGHTWARDS ARROW WITH NOTCHED TAIL",
     "aDOWNWARDS ARROW WITH NOTCHED TAILaHEAVY ARROW SHAFT WIDTH ONEyTWO THIRDSyONE HALFzdTHIRD",
     "aLEFTWARDS BOTTOM-SHADED WHITE ARROWaRIGHTWARDS BOTTOM SHADED WHITE ARROW",
     "aLEFTWARDS TOP SHADED WHITE ARROWaRIGHTWARDS TOP SHADED WHITE ARROW",
     "aLEFTWARDS LEFT-SHADED WHITE ARROWaRIGHTWARDS RIGHT-SHADED WHITE ARROW",
     "aLEFTWARDS RIGHT-SHADED WHITE ARROWaRIGHTWARDS LEFT-SHADED WHITE ARROW",
     "aLEFTWARDS BACK-TILTED SHADOWED WHITE ARROWaRIGHTWARDS BACK-TILTED SHADOWED WHITE ARROW",
     "aLEFTWARDS FRONT-TILTED SHADOWED WHITE ARROWaRIGHTWARDS FRONT-TILTED SHADOWED WHITE ARROW",
     "aWHITE ARROW SHAFT WIDTH ONEyTWO THIRDS=1F8B0aARROW POINTING UPWARDS THEN NORTH WEST",
     "pRIGHTWARDS THEN CURVING SOUTH WEST=1F900aCIRCLED CROSS FORMEE WITH FOUR DOTSzbTWO DOTStE",
     "aLEFT HALF CIRCLE WITH FOUR DOTSwTHREE DOTSxWO DOTSwDOTpEaDOWNWARD FACING HOOKqNOTCHED HOOK",
     "qHOOK WITH DOTqNOTCHED HOOK WITH DOTaPINCHED FINGERSaWHITE HEARTaBROWN HEARTaPINCHING HAND",
     "aZIPPER-MOUTH FACEaMONEY-MOUTH FACEaFACE WITH THERMOMETERaNERD FACEaTHINKING FACE",
     "aFACE WITH HEAD-BANDAGEaROBOT FACEaHUGGING FACEaSIGN OF THE HORNSaCALL ME HAND",
     "aRAISED BACK OF HANDaLEFT-FACING FISTaRIGHT-FACING FISTaHANDSHAKE",
     "e WITH INDEX AND MIDDLE FINGERS CROSSEDaI LOVE YOU HAND SIGNaFACE WITH COWBOY HATaCLOWN FACE",
     "aNAUSEATED FACEaROLLING ON THE FLOOR LAUGHINGaDROOLING FACEaLYING FACEaFACE PALM",
     "aSNEEZING FACEaFACE WITH ONE EYEBROW RAISEDaGRINNING FACE WITH STAR EYES",
     "tONE LARGE AND ONE SMALL EYEaFACE WITH FINGER COVERING CLOSED LIPS",
     "aSERIOUS FACE WITH SYMBOLS COVERING MOUTH",
     "bMILING FACE WITH SMILING EYES AND HAND COVERING MOUTHaFACE WITH OPEN MOUTH VOMITING",
     "aSHOCKED FACE WITH EXPLODING HEADaPREGNANT WOMANaBREAST-FEEDINGaPALMS UP TOGETHERaSELFIE",
     "aPRINCEaMAN IN TUXEDObOTHER CHRISTMASaSHRUGaPERSON DOING CARTWHEELaJUGGLINGaFENCER",
     "aMODERN PENTATHLONaWRESTLERSbATER POLOaHANDBALLaDIVING MASKaWILTED FLOWER",
     "aDRUM WITH DRUMSTICKSaCLINKING GLASSESaTUMBLER GLASSaSPOONaGOAL NETaRIFLEaFIRST PLACE MEDAL",
     "aSECOND PLACE MEDALaTHIRD PLACE MEDALaBOXING GLOVEaMARTIAL ARTS UNIFORMaCURLING STONE",
     "aLACROSSE STICK AND BALLaSOFTBALLaFLYING DISCaCROISSANTaAVOCADOaCUCUMBERaBACONaPOTATOaCARROT",
     "aBAGUETTE BREADaGREEN SALADaSHALLOW PAN OF FOODbTUFFED FLATBREADaEGGaGLASS OF MILKaPEANUTS",
     "aKIWIFRUITaPANCAKESaDUMPLINGaFORTUNE COOKIEaTAKEOUT BOXaCHOPSTICKSaBOWL WITH SPOON",
     "aCUP WITH STRAWbOCONUTaBROCCOLIaPIEbRETZELaCUT OF MEATaSANDWICHaCANNED FOODaLEAFY GREEN",
     "aMANGObOON CAKEaBAGELaSMILING FACE WITH SMILING EYES AND THREE HEARTSaYAWNING FACE",
     "aSMILING FACE WITH TEARaFACE WITH PARTY HORN AND PARTY HATkUNEVEN EYES AND WAVY MOUTH",
     "aOVERHEATED FACEaFREEZING FACEaNINJAaDISGUISED FACEaFACE HOLDING BACK TEARS",
     "fWITH PLEADING EYESaSARIaLAB COATaGOGGLESaHIKING BOOTaFLAT SHOEaCRABaLION FACEaSCORPION",
     "aTURKEYaUNICORN FACEaEAGLEaDUCKaBATaSHARKaOWLaFOX FACEaBUTTERFLYaDEERaGORILLAaLIZARD",
     "aRHINOCEROSaSHRIMPbQUIDaGIRAFFE FACEaZEBRA FACEaHEDGEHOGaSAUROPODaT-REXaCRICKETaKANGAROO",
     "aLLAMAaPEACOCKaHIPPOPOTAMUSaPARROTaRACCOONaLOBSTERaMOSQUITObICROBEaBADGERaSWANaMAMMOTHaDODO",
     "aSLOTHaOTTERbRANGUTANaSKUNKaFLAMINGOaOYSTERaBEAVERbISONaSEALaGUIDE DOGaPROBING CANE",
     "aEMOJI COMPONENT RED HAIRqCURLY HAIRqBALDqWHITE HAIRaBONEaLEGaFOOTaTOOTHaSUPERHEROfVILLAIN",
     "bAFETY VESTaEAR WITH HEARING AIDaMOTORIZED WHEELCHAIRbANUAL WHEELCHAIRbECHANICAL ARMlLEG",
     "aCHEESE WEDGEbUPCAKEaSALT SHAKERaBEVERAGE BOXaGARLICaONIONaFALAFELaWAFFLEaBUTTERaMATE DRINK",
     "aICE CUBEaBUBBLE TEAaTROLLaSTANDING PERSONaKNEELING PERSONaDEAF PERSONaFACE WITH MONOCLE",
     "aADULTaCHILDaOLDER ADULTaBEARDED PERSONaPERSON WITH HEADSCARFhIN STEAMY ROOMhCLIMBING",
     "hIN LOTUS POSITIONaMAGEaFAIRYaVAMPIREaMERPERSONaELFaGENIEaZOMBIEaBRAINaORANGE HEART",
     "aBILLED CAPaSCARFaGLOVESaCOATaSOCKSaRED GIFT ENVELOPEaFIRECRACKERaJIGSAW PUZZLE PIECE",
     "aTEST TUBEaPETRI DISHaDNA DOUBLE HELIXaCOMPASSaABACUSaFIRE EXTINGUISHERaTOOLBOXaBRICKaMAGNET",
     "aLUGGAGEbOTION BOTTLEaSPOOL OF THREADaBALL OF YARNaSAFETY PINaTEDDY BEARaBROOMbASKET",
     "aROLL OF PAPERaBAR OF SOAPaSPONGEaRECEIPTaNAZAR AMULETbEUTRAL CHESS KINGoQUEENoROOKoBISHOP",
     "oKNIGHToPAWNaWHITE CHESS KNIGHT ROTATED FORTY-FIVE DEGREES",
     "aBLACK CHESS KNIGHT ROTATED FORTY-FIVE DEGREES",
     "aNEUTRAL CHESS KNIGHT ROTATED FORTY-FIVE DEGREESaWHITE CHESS KING ROTATED NINETY DEGREES",
     "mQUEEN ROTATED NINETY DEGREESmROOK ROTATED NINETY DEGREESmBISHOP ROTATED NINETY DEGREES",
     "mKNIGHT ROTATED NINETY DEGREESmPAWN ROTATED NINETY DEGREES",
     "aBLACK CHESS KING ROTATED NINETY DEGREESmQUEEN ROTATED NINETY DEGREES",
     "mROOK ROTATED NINETY DEGREESmBISHOP ROTATED NINETY DEGREESmKNIGHT ROTATED NINETY DEGREES",
     "mPAWN ROTATED NINETY DEGREESaNEUTRAL CHESS KING ROTATED NINETY DEGREES",
     "oQUEEN ROTATED NINETY DEGREESoROOK ROTATED NINETY DEGREESoBISHOP ROTATED NINETY DEGREES",
     "oKNIGHT ROTATED NINETY DEGREESoPAWN ROTATED NINETY DEGREES",
     "aWHITE CHESS KNIGHT ROTATED ONE HUNDRED THIRTY-FIVE DEGREES",
     "aBLACK CHESS KNIGHT ROTATED ONE HUNDRED THIRTY-FIVE DEGREES",
     "aNEUTRAL CHESS KNIGHT ROTATED ONE HUNDRED THIRTY-FIVE DEGREESaWHITE CHESS TURNED KINGtQUEEN",
     "tROOKtBISHOPtKNIGHTtPAWNaBLACK CHESS TURNED KINGtQUEENtROOKtBISHOPtKNIGHTtPAWN",
     "aNEUTRAL CHESS TURNED KINGvQUEENvROOKvBISHOPvKNIGHTvPAWN",
     "aWHITE CHESS KNIGHT ROTATED TWO HUNDRED TWENTY-FIVE DEGREES",
     "aBLACK CHESS KNIGHT ROTATED TWO HUNDRED TWENTY-FIVE DEGREES",
     "aNEUTRAL CHESS KNIGHT ROTATED TWO HUNDRED TWENTY-FIVE DEGREES",
     "aWHITE CHESS KING ROTATED TWO HUNDRED SEVENTY DEGREES",
     "mQUEEN ROTATED TWO HUNDRED SEVENTY DEGREESmROOK ROTATED TWO HUNDRED SEVENTY DEGREES",
     "mBISHOP ROTATED TWO HUNDRED SEVENTY DEGREESmKNIGHT ROTATED TWO HUNDRED SEVENTY DEGREES",
     "mPAWN ROTATED TWO HUNDRED SEVENTY DEGREES",
     "aBLACK CHESS KING ROTATED TWO HUNDRED SEVENTY DEGREES",
     "mQUEEN ROTATED TWO HUNDRED SEVENTY DEGREESmROOK ROTATED TWO HUNDRED SEVENTY DEGREES",
     "mBISHOP ROTATED TWO HUNDRED SEVENTY DEGREESmKNIGHT ROTATED TWO HUNDRED SEVENTY DEGREES",
     "mPAWN ROTATED TWO HUNDRED SEVENTY DEGREES",
     "aNEUTRAL CHESS KING ROTATED TWO HUNDRED SEVENTY DEGREES",
     "oQUEEN ROTATED TWO HUNDRED SEVENTY DEGREESoROOK ROTATED TWO HUNDRED SEVENTY DEGREES",
     "oBISHOP ROTATED TWO HUNDRED SEVENTY DEGREESoKNIGHT ROTATED TWO HUNDRED SEVENTY DEGREES",
     "oPAWN ROTATED TWO HUNDRED SEVENTY DEGREES",
     "aWHITE CHESS KNIGHT ROTATED THREE HUNDRED FIFTEEN DEGREES",
     "aBLACK CHESS KNIGHT ROTATED THREE HUNDRED FIFTEEN DEGREES",
     "aNEUTRAL CHESS KNIGHT ROTATED THREE HUNDRED FIFTEEN DEGREESaWHITE CHESS EQUIHOPPER",
     "aBLACK CHESS EQUIHOPPERaNEUTRAL CHESS EQUIHOPPER",
     "aWHITE CHESS EQUIHOPPER ROTATED NINETY DEGREESaBLACK CHESS EQUIHOPPER ROTATED NINETY DEGREES",
     "aNEUTRAL CHESS EQUIHOPPER ROTATED NINETY DEGREESaWHITE CHESS KNIGHT-QUEENtROOKtBISHOP",
     "aBLACK CHESS KNIGHT-QUEENtROOKtBISHOP=1FA60aXIANGQI RED GENERALmMANDARINmELEPHANTmHORSE",
     "mCHARIOTnANNONmSOLDIERiBLACK GENERALoMANDARINoELEPHANToHORSEoCHARIOTpANNONoSOLDIER",
     "=1FA70aBALLET SHOESaONE-PIECE SWIMSUITaBRIEFSaSHORTSaTHONG SANDAL=1FA78aDROP OF BLOOD",
     "aADHESIVE BANDAGEaSTETHOSCOPEaX-RAYaCRUTCH=1FA80aYO-YOaKITEaPARACHUTEaBOOMERANGaMAGIC WAND",
     "aPINATAaNESTING DOLLS=1FA90aRINGED PLANETaCHAIRaRAZORaAXEaDIYA LAMPaBANJOaMILITARY HELMET",
     "aACCORDIONaLONG DRUMaCOINbARPENTRY SAWaSCREWDRIVERaLADDERaHOOKaMIRRORaWINDOWaPLUNGER",
     "aSEWING NEEDLEaKNOTaBUCKETaMOUSE TRAPaTOOTHBRUSHaHEADSTONEaPLACARDaROCKaMIRROR BALL",
     "aIDENTIFICATION CARDaLOW BATTERYaHAMSA=1FAB0aFLYaWORMaBEETLEaCOCKROACHaPOTTED PLANTaWOOD",
     "aFEATHERaLOTUSaCORALaEMPTY NESTaNEST WITH EGGS=1FAC0aANATOMICAL HEARTaLUNGSaPEOPLE HUGGING",
     "bREGNANT MANjPERSONbERSON WITH CROWN=1FAD0aBLUEBERRIESbELL PEPPERaOLIVEaFLATBREADaTAMALE",
     "aFONDUEaTEAPOTaPOURING LIQUIDaBEANSaJAR=1FAE0aMELTING FACEaSALUTING FACE",
     "aFACE WITH OPEN EYES AND HAND OVER MOUTHkPEEKING EYEkDIAGONAL MOUTHaDOTTED LINE FACE",
     "aBITING LIPbUBBLES=1FAF0aHAND WITH INDEX FINGER AND THUMB CROSSEDaRIGHTWARDS HAND",
     "aLEFTWARDS HANDaPALM DOWN HANDfUP HANDaINDEX POINTING AT THE VIEWERaHEART HANDS",
     "=1FB00aBLOCK SEXTANT-1o2o12o3o13o23o123o4o14o24o124o34o134o234o1234o5o15o25o125o35o235o1235",
     "o45o145o245o1245o345o1345o2345o12345o6o16o26o126o36o136o236o1236o46o146p246o346o1346o2346",
     "o12346o56o156o256o1256o356o1356o2356o12356o456o1456o2456o12456o3456o13456o23456",
     "aLOWER LEFT BLOCK DIAGONAL LOWER MIDDLE LEFT TO LOWER CENTREzzdRIGHT",
     "zbUPPER MIDDLE LEFT TO LOWER CENTREzzdRIGHTzhLEFT TO LOWER CENTRE",
     "gRIGHT BLOCK DIAGONAL UPPER MIDDLE LEFT TO UPPER CENTREzzeRIGHT",
     "zcLOWER MIDDLE LEFT TO UPPER CENTREzzeRIGHTziLEFT TO UPPER CENTRE",
     "ziMIDDLE LEFT TO UPPER MIDDLE RIGHTziCENTRE TO LOWER MIDDLE RIGHT",
     "ziLEFT TO LOWER MIDDLE RIGHTziCENTRE TO UPPER MIDDLE RIGHTziLEFT TO UPPER MIDDLE RIGHT",
     "ziCENTRE TO UPPER RIGHTgLEFT BLOCK DIAGONAL UPPER CENTRE TO UPPER MIDDLE RIGHT",
     "zhLEFT TO UPPER MIDDLE RIGHTzhCENTRE TO LOWER MIDDLE RIGHTzhLEFT TO LOWER MIDDLE RIGHT",
     "zhCENTRE TO LOWER RIGHTzhMIDDLE LEFT TO LOWER MIDDLE RIGHT",
     "aUPPER RIGHT BLOCK DIAGONAL LOWER MIDDLE LEFT TO LOWER CENTREzzeRIGHT",
     "zcUPPER MIDDLE LEFT TO LOWER CENTREzzeRIGHTziLEFT TO LOWER CENTRE",
     "gLEFT BLOCK DIAGONAL UPPER MIDDLE LEFT TO UPPER CENTREzzdRIGHT",
     "zbLOWER MIDDLE LEFT TO UPPER CENTREzzdRIGHTzhLEFT TO UPPER CENTRE",
     "zhMIDDLE LEFT TO UPPER MIDDLE RIGHTzhCENTRE TO LOWER MIDDLE RIGHT",
     "zhLEFT TO LOWER MIDDLE RIGHTzhCENTRE TO UPPER MIDDLE RIGHTzhLEFT TO UPPER MIDDLE RIGHT",
     "zhCENTRE TO UPPER RIGHTgRIGHT BLOCK DIAGONAL UPPER CENTRE TO UPPER MIDDLE RIGHT",
     "ziLEFT TO UPPER MIDDLE RIGHTziCENTRE TO LOWER MIDDLE RIGHTziLEFT TO LOWER MIDDLE RIGHT",
     "ziCENTRE TO LOWER RIGHTziMIDDLE LEFT TO LOWER MIDDLE RIGHT",
     "gAND RIGHT AND LOWER TRIANGULAR THREE QUARTERS BLOCK",
     "aLEFT AND LOWER AND RIGHT TRIANGULAR THREE QUARTERS BLOCK",
     "aUPPER AND LEFT AND LOWER TRIANGULAR THREE QUARTERS BLOCK",
     "aLEFT AND UPPER AND RIGHT TRIANGULAR THREE QUARTERS BLOCKfTRIANGULAR ONE QUARTER BLOCK",
     "aUPPER TRIANGULAR ONE QUARTER BLOCKaRIGHT TRIANGULAR ONE QUARTER BLOCK",
     "aLOWER TRIANGULAR ONE QUARTER BLOCKaVERTICAL ONE EIGHTH BLOCK-2zb3zb4zb5zb6zb7",
     "aHORIZONTAL ONE EIGHTH BLOCK-2zd3zd4zd5zd6zd7aLEFT AND LOWER ONE EIGHTH BLOCK",
     "jUPPER ONE EIGHTH BLOCKaRIGHT AND UPPER ONE EIGHTH BLOCKkLOWER ONE EIGHTH BLOCK",
     "aUPPER AND LOWER ONE EIGHTH BLOCKaHORIZONTAL ONE EIGHTH BLOCK-1358aUPPER ONE QUARTER BLOCK",
     "gTHREE EIGHTHS BLOCKgFIVE EIGHTHS BLOCKgTHREE QUARTERS BLOCKgSEVEN EIGHTHS BLOCK",
     "aRIGHT ONE QUARTER BLOCKgTHREE EIGHTHS BLOCKgFIVE EIGHTHS BLOCKgTHREE QUARTERS BLOCK",
     "gSEVEN EIGHTHS BLOCKaLEFT HALF MEDIUM SHADEaRIGHT HALF MEDIUM SHADEaUPPER HALF MEDIUM SHADE",
     "aLOWER HALF MEDIUM SHADEaINVERSE MEDIUM SHADE",
     "aUPPER HALF BLOCK AND LOWER HALF INVERSE MEDIUM SHADE",
     "lINVERSE MEDIUM SHADE AND LOWER HALF BLOCK",
     "=1FB94aLEFT HALF INVERSE MEDIUM SHADE AND RIGHT HALF BLOCKaCHECKER BOARD FILL",
     "aINVERSE CHECKER BOARD FILLaHEAVY HORIZONTAL FILLaUPPER LEFT TO LOWER RIGHT FILL",
     "gRIGHT TO LOWER LEFT FILLgAND LOWER TRIANGULAR HALF BLOCK",
     "aLEFT AND RIGHT TRIANGULAR HALF BLOCKaUPPER LEFT TRIANGULAR MEDIUM SHADE",
     "gRIGHT TRIANGULAR MEDIUM SHADEaLOWER RIGHT TRIANGULAR MEDIUM SHADE",
     "gLEFT TRIANGULAR MEDIUM SHADEaBOX DRAWINGS LIGHT DIAGONAL UPPER CENTRE TO MIDDLE LEFT",
     "zzbRIGHTzdMIDDLE LEFT TO LOWER CENTREzkRIGHT TO LOWER CENTRE",
     "zdUPPER CENTRE TO MIDDLE LEFT TO LOWER CENTREzzbRIGHT TO LOWER CENTRE",
     "zdMIDDLE LEFT TO LOWER CENTRE TO MIDDLE RIGHTzsUPPER CENTRE TO MIDDLE RIGHT",
     "zdUPPER CENTRE TO MIDDLE LEFT AND MIDDLE RIGHT TO LOWER CENTRE",
     "zzbRIGHT AND MIDDLE LEFT TO LOWER CENTREzzhTO LOWER CENTRE TO MIDDLE LEFT",
     "zzbLEFT TO LOWER CENTRE TO MIDDLE RIGHT",
     "zdMIDDLE LEFT TO UPPER CENTRE TO MIDDLE RIGHT TO LOWER CENTRE",
     "zkRIGHT TO UPPER CENTRE TO MIDDLE LEFT TO LOWER CENTREzdDIAMOND",
     "tHORIZONTAL WITH VERTICAL STROKEaARROWHEAD-SHAPED POINTERaINVERSE CHECK MARK",
     "aLEFT HALF RUNNING MANaRIGHT HALF RUNNING MANaINVERSE DOWNWARDS ARROW WITH TIP LEFTWARDS",
     "aLEFTWARDS ARROW AND UPPER AND LOWER ONE EIGHTH BLOCK",
     "aRIGHTWARDS ARROW AND UPPER AND LOWER ONE EIGHTH BLOCK",
     "aDOWNWARDS ARROW AND RIGHT ONE EIGHTH BLOCKaUPWARDS ARROW AND RIGHT ONE EIGHTH BLOCK",
     "aLEFT HALF FOLDERaRIGHT HALF FOLDERaVOIDED GREEK CROSSaRIGHT OPEN SQUARED DOT",
     "aNEGATIVE DIAGONAL CROSSsMIDDLE RIGHT TO LOWER CENTREsDIAMOND",
     "aWHITE HEAVY SALTIRE WITH ROUNDED CORNERSaLEFT THIRD WHITE RIGHT POINTING INDEX",
     "aMIDDLE THIRD WHITE RIGHT POINTING INDEXaRIGHT THIRD WHITE RIGHT POINTING INDEX",
     "aNEGATIVE SQUARED QUESTION MARKaSTICK FIGUREm WITH ARMS RAISEDnLEANING LEFTvRIGHTnWITH DRESS",
     "aWHITE UP-POINTING CHEVRON=1FBF0aSEGMENTED DIGIT ZEROqONEqTWOrHREEqFOURrIVEqSIXrEVENqEIGHT",
     "qNINE=E0001aLANGUAGE TAG=E0020aTAG SPACEeEXCLAMATION MARKeQUOTATION MARKeNUMBER SIGN",
     "eDOLLAR SIGNePERCENT SIGNeAMPERSANDfPOSTROPHEeLEFT PARENTHESISeRIGHT PARENTHESISeASTERISK",
     "ePLUS SIGNeCOMMAeHYPHEN-MINUSeFULL STOPeSOLIDUSeDIGIT ZEROkONEkTWOlHREEkFOURlIVEkSIXlEVEN",
     "kEIGHTkNINEeCOLONeSEMICOLONeLESS-THAN SIGNeEQUALS SIGNeGREATER-THAN SIGNeQUESTION MARK",
     "eCOMMERCIAL ATeLATIN CAPITAL LETTER AzaBzaCzaDzaEzaFzaGzaHzaIzaJzaKzaLzaMzaNzaOzaPzaQzaRzaS",
     "zaTzaUzaVzaWzaXzaYzaZfEFT SQUARE BRACKETeREVERSE SOLIDUSfIGHT SQUARE BRACKET",
     "eCIRCUMFLEX ACCENTeLOW LINEeGRAVE ACCENTeLATIN SMALL LETTER AxBxCxDxExFxGxHxIxJxKxLxMxNxOxP",
     "xQxRxSxTxUxVxWxXxYxZfEFT CURLY BRACKETeVERTICAL LINEeRIGHT CURLY BRACKETeTILDEaCANCEL TAG"]

end Inlay.Text
