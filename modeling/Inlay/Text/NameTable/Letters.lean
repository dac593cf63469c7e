/-
  Inlay.Text.NameTable.Letters
  ────────────────────────────────
  **NAMES OF CHARACTERS.**

  The Unicode 14 names of the letters and signs from U+0020 to U+0FFF, in the form that
  `Inlay.Text.CharacterName` reads.
-/

namespace Inlay.Text

/-- The names of the letters and signs from U+0020 to U+0FFF. -/
def lettersNames : String :=
  String.join
    ["=20aSPACEaEXCLAMATION MARKaQUOTATION MARKaNUMBER SIGNaDOLLAR SIGNaPERCENT SIGNaAMPERSAND",
     "bPOSTROPHEaLEFT PARENTHESISaRIGHT PARENTHESISaASTERISKaPLUS SIGNaCOMMAaHYPHEN-MINUS",
     "aFULL STOPaSOLIDUSaDIGIT ZEROgONEgTWOhHREEgFOURhIVEgSIXhEVENgEIGHTgNINEaCOLONaSEMICOLON",
     "aLESS-THAN SIGNaEQUALS SIGNaGREATER-THAN SIGNaQUESTION MARKaCOMMERCIAL AT",
     "aLATIN CAPITAL LETTER AvBvCvDvEvFvGvHvIvJvKvLvMvNvOvPvQvRvSvTvUvVvWvXvYvZbEFT SQUARE BRACKET",
     "aREVERSE SOLIDUSbIGHT SQUARE BRACKETaCIRCUMFLEX ACCENTaLOW LINEaGRAVE ACCENT",
     "aLATIN SMALL LETTER AtBtCtDtEtFtGtHtItJtKtLtMtNtOtPtQtRtStTtUtVtWtXtYtZbEFT CURLY BRACKET",
     "aVERTICAL LINEaRIGHT CURLY BRACKETaTILDE=A0aNO-BREAK SPACEaINVERTED EXCLAMATION MARK",
     "aCENT SIGNaPOUND SIGNaCURRENCY SIGNaYEN SIGNaBROKEN BARaSECTION SIGNaDIAERESIS",
     "aCOPYRIGHT SIGNaFEMININE ORDINAL INDICATORaLEFT-POINTING DOUBLE ANGLE QUOTATION MARK",
     "aNOT SIGNaSOFT HYPHENaREGISTERED SIGNaMACRONaDEGREE SIGNaPLUS-MINUS SIGNaSUPERSCRIPT TWO",
     "nHREEaACUTE ACCENTaMICRO SIGNaPILCROW SIGNaMIDDLE DOTaCEDILLAaSUPERSCRIPT ONE",
     "aMASCULINE ORDINAL INDICATORaRIGHT-POINTING DOUBLE ANGLE QUOTATION MARK",
     "aVULGAR FRACTION ONE QUARTERuHALFqTHREE QUARTERSaINVERTED QUESTION MARK",
     "aLATIN CAPITAL LETTER A WITH GRAVEzdACUTEzdCIRCUMFLEXzdTILDEzdDIAERESISzdRING ABOVEwE",
     "vC WITH CEDILLAvE WITH GRAVEzdACUTEzdCIRCUMFLEXzdDIAERESISvI WITH GRAVEzdACUTEzdCIRCUMFLEX",
     "zdDIAERESISvETHvN WITH TILDEvO WITH GRAVEzdACUTEzdCIRCUMFLEXzdTILDEzdDIAERESIS",
     "aMULTIPLICATION SIGNaLATIN CAPITAL LETTER O WITH STROKEvU WITH GRAVEzdACUTEzdCIRCUMFLEX",
     "zdDIAERESISvY WITH ACUTEvTHORNgSMALL LETTER SHARP StA WITH GRAVEzbACUTEzbCIRCUMFLEXzbTILDE",
     "zbDIAERESISzbRING ABOVEuEtC WITH CEDILLAtE WITH GRAVEzbACUTEzbCIRCUMFLEXzbDIAERESIS",
     "tI WITH GRAVEzbACUTEzbCIRCUMFLEXzbDIAERESIStETHtN WITH TILDEtO WITH GRAVEzbACUTEzbCIRCUMFLEX",
     "zbTILDEzbDIAERESISaDIVISION SIGNaLATIN SMALL LETTER O WITH STROKEtU WITH GRAVEzbACUTE",
     "zbCIRCUMFLEXzbDIAERESIStY WITH ACUTEtTHORNtY WITH DIAERESISgCAPITAL LETTER A WITH MACRON",
     "gSMALL LETTER A WITH MACRONgCAPITAL LETTER A WITH BREVEgSMALL LETTER A WITH BREVE",
     "gCAPITAL LETTER A WITH OGONEKgSMALL LETTER A WITH OGONEKgCAPITAL LETTER C WITH ACUTE",
     "gSMALL LETTER C WITH ACUTEgCAPITAL LETTER C WITH CIRCUMFLEXgSMALL LETTER C WITH CIRCUMFLEX",
     "gCAPITAL LETTER C WITH DOT ABOVEgSMALL LETTER C WITH DOT ABOVEgCAPITAL LETTER C WITH CARON",
     "gSMALL LETTER C WITH CARONgCAPITAL LETTER D WITH CARONgSMALL LETTER D WITH CARON",
     "gCAPITAL LETTER D WITH STROKEgSMALL LETTER D WITH STROKEgCAPITAL LETTER E WITH MACRON",
     "gSMALL LETTER E WITH MACRONgCAPITAL LETTER E WITH BREVEgSMALL LETTER E WITH BREVE",
     "gCAPITAL LETTER E WITH DOT ABOVEgSMALL LETTER E WITH DOT ABOVEgCAPITAL LETTER E WITH OGONEK",
     "gSMALL LETTER E WITH OGONEKgCAPITAL LETTER E WITH CARONgSMALL LETTER E WITH CARON",
     "gCAPITAL LETTER G WITH CIRCUMFLEXgSMALL LETTER G WITH CIRCUMFLEXgCAPITAL LETTER G WITH BREVE",
     "gSMALL LETTER G WITH BREVEgCAPITAL LETTER G WITH DOT ABOVEgSMALL LETTER G WITH DOT ABOVE",
     "gCAPITAL LETTER G WITH CEDILLAgSMALL LETTER G WITH CEDILLAgCAPITAL LETTER H WITH CIRCUMFLEX",
     "gSMALL LETTER H WITH CIRCUMFLEXgCAPITAL LETTER H WITH STROKEgSMALL LETTER H WITH STROKE",
     "gCAPITAL LETTER I WITH TILDEgSMALL LETTER I WITH TILDEgCAPITAL LETTER I WITH MACRON",
     "gSMALL LETTER I WITH MACRONgCAPITAL LETTER I WITH BREVEgSMALL LETTER I WITH BREVE",
     "gCAPITAL LETTER I WITH OGONEKgSMALL LETTER I WITH OGONEKgCAPITAL LETTER I WITH DOT ABOVE",
     "gSMALL LETTER DOTLESS IgCAPITAL LIGATURE IJgSMALL LIGATURE IJ",
     "gCAPITAL LETTER J WITH CIRCUMFLEXgSMALL LETTER J WITH CIRCUMFLEX",
     "gCAPITAL LETTER K WITH CEDILLAgSMALL LETTER K WITH CEDILLAuRAgCAPITAL LETTER L WITH ACUTE",
     "gSMALL LETTER L WITH ACUTEgCAPITAL LETTER L WITH CEDILLAgSMALL LETTER L WITH CEDILLA",
     "gCAPITAL LETTER L WITH CARONgSMALL LETTER L WITH CARONgCAPITAL LETTER L WITH MIDDLE DOT",
     "gSMALL LETTER L WITH MIDDLE DOTgCAPITAL LETTER L WITH STROKEgSMALL LETTER L WITH STROKE",
     "gCAPITAL LETTER N WITH ACUTEgSMALL LETTER N WITH ACUTEgCAPITAL LETTER N WITH CEDILLA",
     "gSMALL LETTER N WITH CEDILLAgCAPITAL LETTER N WITH CARONgSMALL LETTER N WITH CARON",
     "vPRECEDED BY APOSTROPHEgCAPITAL LETTER ENGgSMALL LETTER ENGgCAPITAL LETTER O WITH MACRON",
     "gSMALL LETTER O WITH MACRONgCAPITAL LETTER O WITH BREVEgSMALL LETTER O WITH BREVE",
     "gCAPITAL LETTER O WITH DOUBLE ACUTEgSMALL LETTER O WITH DOUBLE ACUTEgCAPITAL LIGATURE OE",
     "gSMALL LIGATURE OEgCAPITAL LETTER R WITH ACUTEgSMALL LETTER R WITH ACUTE",
     "gCAPITAL LETTER R WITH CEDILLAgSMALL LETTER R WITH CEDILLAgCAPITAL LETTER R WITH CARON",
     "gSMALL LETTER R WITH CARONgCAPITAL LETTER S WITH ACUTEgSMALL LETTER S WITH ACUTE",
     "gCAPITAL LETTER S WITH CIRCUMFLEXgSMALL LETTER S WITH CIRCUMFLEX",
     "gCAPITAL LETTER S WITH CEDILLAgSMALL LETTER S WITH CEDILLAgCAPITAL LETTER S WITH CARON",
     "gSMALL LETTER S WITH CARONgCAPITAL LETTER T WITH CEDILLAgSMALL LETTER T WITH CEDILLA",
     "gCAPITAL LETTER T WITH CARONgSMALL LETTER T WITH CARONgCAPITAL LETTER T WITH STROKE",
     "gSMALL LETTER T WITH STROKEgCAPITAL LETTER U WITH TILDEgSMALL LETTER U WITH TILDE",
     "gCAPITAL LETTER U WITH MACRONgSMALL LETTER U WITH MACRONgCAPITAL LETTER U WITH BREVE",
     "gSMALL LETTER U WITH BREVEgCAPITAL LETTER U WITH RING ABOVEgSMALL LETTER U WITH RING ABOVE",
     "gCAPITAL LETTER U WITH DOUBLE ACUTEgSMALL LETTER U WITH DOUBLE ACUTE",
     "gCAPITAL LETTER U WITH OGONEKgSMALL LETTER U WITH OGONEKgCAPITAL LETTER W WITH CIRCUMFLEX",
     "gSMALL LETTER W WITH CIRCUMFLEXgCAPITAL LETTER Y WITH CIRCUMFLEX",
     "gSMALL LETTER Y WITH CIRCUMFLEXgCAPITAL LETTER Y WITH DIAERESISvZ WITH ACUTE",
     "gSMALL LETTER Z WITH ACUTEgCAPITAL LETTER Z WITH DOT ABOVEgSMALL LETTER Z WITH DOT ABOVE",
     "gCAPITAL LETTER Z WITH CARONgSMALL LETTER Z WITH CARONtLONG StB WITH STROKE",
     "gCAPITAL LETTER B WITH HOOKzdTOPBARgSMALL LETTER B WITH TOPBARgCAPITAL LETTER TONE SIX",
     "gSMALL LETTER TONE SIXgCAPITAL LETTER OPEN OvC WITH HOOKgSMALL LETTER C WITH HOOK",
     "gCAPITAL LETTER AFRICAN DvD WITH HOOKzdTOPBARgSMALL LETTER D WITH TOPBARtTURNED DELTA",
     "gCAPITAL LETTER REVERSED EvSCHWAvOPEN EvF WITH HOOKgSMALL LETTER F WITH HOOK",
     "gCAPITAL LETTER G WITH HOOKwAMMAgSMALL LETTER HVgCAPITAL LETTER IOTAw WITH STROKE",
     "vK WITH HOOKgSMALL LETTER K WITH HOOKtL WITH BARuAMBDA WITH STROKEgCAPITAL LETTER TURNED M",
     "vN WITH LEFT HOOKgSMALL LETTER N WITH LONG RIGHT LEGgCAPITAL LETTER O WITH MIDDLE TILDE",
     "zdHORNgSMALL LETTER O WITH HORNgCAPITAL LETTER OIgSMALL LETTER OIgCAPITAL LETTER P WITH HOOK",
     "gSMALL LETTER P WITH HOOKgLETTER YRgCAPITAL LETTER TONE TWOgSMALL LETTER TONE TWO",
     "gCAPITAL LETTER ESHgLETTER REVERSED ESH LOOPgSMALL LETTER T WITH PALATAL HOOK",
     "gCAPITAL LETTER T WITH HOOKgSMALL LETTER T WITH HOOKgCAPITAL LETTER T WITH RETROFLEX HOOK",
     "vU WITH HORNgSMALL LETTER U WITH HORNgCAPITAL LETTER UPSILONvV WITH HOOKvY WITH HOOK",
     "gSMALL LETTER Y WITH HOOKgCAPITAL LETTER Z WITH STROKEgSMALL LETTER Z WITH STROKE",
     "gCAPITAL LETTER EZHy REVERSEDgSMALL LETTER EZH REVERSEDxWITH TAILgLETTER TWO WITH STROKE",
     "gCAPITAL LETTER TONE FIVEgSMALL LETTER TONE FIVEgLETTER INVERTED GLOTTAL STOP WITH STROKE",
     "nWYNNnDENTAL CLICKnLATERAL CLICKnALVEOLAR CLICKnRETROFLEX CLICKgCAPITAL LETTER DZ WITH CARON",
     "w WITH SMALL LETTER Z WITH CARONgSMALL LETTER DZ WITH CARONgCAPITAL LETTER LJ",
     "w WITH SMALL LETTER JgSMALL LETTER LJgCAPITAL LETTER NJw WITH SMALL LETTER JgSMALL LETTER NJ",
     "gCAPITAL LETTER A WITH CARONgSMALL LETTER A WITH CARONgCAPITAL LETTER I WITH CARON",
     "gSMALL LETTER I WITH CARONgCAPITAL LETTER O WITH CARONgSMALL LETTER O WITH CARON",
     "gCAPITAL LETTER U WITH CARONgSMALL LETTER U WITH CARON",
     "gCAPITAL LETTER U WITH DIAERESIS AND MACRONgSMALL LETTER U WITH DIAERESIS AND MACRON",
     "gCAPITAL LETTER U WITH DIAERESIS AND ACUTEgSMALL LETTER U WITH DIAERESIS AND ACUTE",
     "gCAPITAL LETTER U WITH DIAERESIS AND CARONgSMALL LETTER U WITH DIAERESIS AND CARON",
     "gCAPITAL LETTER U WITH DIAERESIS AND GRAVEgSMALL LETTER U WITH DIAERESIS AND GRAVEtTURNED E",
     "gCAPITAL LETTER A WITH DIAERESIS AND MACRONgSMALL LETTER A WITH DIAERESIS AND MACRON",
     "gCAPITAL LETTER A WITH DOT ABOVE AND MACRONgSMALL LETTER A WITH DOT ABOVE AND MACRON",
     "gCAPITAL LETTER AE WITH MACRONgSMALL LETTER AE WITH MACRONgCAPITAL LETTER G WITH STROKE",
     "gSMALL LETTER G WITH STROKEgCAPITAL LETTER G WITH CARONgSMALL LETTER G WITH CARON",
     "gCAPITAL LETTER K WITH CARONgSMALL LETTER K WITH CARONgCAPITAL LETTER O WITH OGONEK",
     "gSMALL LETTER O WITH OGONEKgCAPITAL LETTER O WITH OGONEK AND MACRON",
     "gSMALL LETTER O WITH OGONEK AND MACRONgCAPITAL LETTER EZH WITH CARON",
     "gSMALL LETTER EZH WITH CARONtJ WITH CARONgCAPITAL LETTER DZw WITH SMALL LETTER Z",
     "gSMALL LETTER DZgCAPITAL LETTER G WITH ACUTEgSMALL LETTER G WITH ACUTEgCAPITAL LETTER HWAIR",
     "vWYNNvN WITH GRAVEgSMALL LETTER N WITH GRAVEgCAPITAL LETTER A WITH RING ABOVE AND ACUTE",
     "gSMALL LETTER A WITH RING ABOVE AND ACUTEgCAPITAL LETTER AE WITH ACUTE",
     "gSMALL LETTER AE WITH ACUTEgCAPITAL LETTER O WITH STROKE AND ACUTE",
     "gSMALL LETTER O WITH STROKE AND ACUTEgCAPITAL LETTER A WITH DOUBLE GRAVE",
     "gSMALL LETTER A WITH DOUBLE GRAVEgCAPITAL LETTER A WITH INVERTED BREVE",
     "gSMALL LETTER A WITH INVERTED BREVEgCAPITAL LETTER E WITH DOUBLE GRAVE",
     "gSMALL LETTER E WITH DOUBLE GRAVEgCAPITAL LETTER E WITH INVERTED BREVE",
     "gSMALL LETTER E WITH INVERTED BREVEgCAPITAL LETTER I WITH DOUBLE GRAVE",
     "gSMALL LETTER I WITH DOUBLE GRAVEgCAPITAL LETTER I WITH INVERTED BREVE",
     "gSMALL LETTER I WITH INVERTED BREVEgCAPITAL LETTER O WITH DOUBLE GRAVE",
     "gSMALL LETTER O WITH DOUBLE GRAVEgCAPITAL LETTER O WITH INVERTED BREVE",
     "gSMALL LETTER O WITH INVERTED BREVEgCAPITAL LETTER R WITH DOUBLE GRAVE",
     "gSMALL LETTER R WITH DOUBLE GRAVEgCAPITAL LETTER R WITH INVERTED BREVE",
     "gSMALL LETTER R WITH INVERTED BREVEgCAPITAL LETTER U WITH DOUBLE GRAVE",
     "gSMALL LETTER U WITH DOUBLE GRAVEgCAPITAL LETTER U WITH INVERTED BREVE",
     "gSMALL LETTER U WITH INVERTED BREVEgCAPITAL LETTER S WITH COMMA BELOW",
     "gSMALL LETTER S WITH COMMA BELOWgCAPITAL LETTER T WITH COMMA BELOW",
     "gSMALL LETTER T WITH COMMA BELOWgCAPITAL LETTER YOGHgSMALL LETTER YOGH",
     "gCAPITAL LETTER H WITH CARONgSMALL LETTER H WITH CARONgCAPITAL LETTER N WITH LONG RIGHT LEG",
     "gSMALL LETTER D WITH CURLgCAPITAL LETTER OUgSMALL LETTER OUgCAPITAL LETTER Z WITH HOOK",
     "gSMALL LETTER Z WITH HOOKgCAPITAL LETTER A WITH DOT ABOVEgSMALL LETTER A WITH DOT ABOVE",
     "gCAPITAL LETTER E WITH CEDILLAgSMALL LETTER E WITH CEDILLA",
     "gCAPITAL LETTER O WITH DIAERESIS AND MACRONgSMALL LETTER O WITH DIAERESIS AND MACRON",
     "gCAPITAL LETTER O WITH TILDE AND MACRONgSMALL LETTER O WITH TILDE AND MACRON",
     "gCAPITAL LETTER O WITH DOT ABOVEgSMALL LETTER O WITH DOT ABOVE",
     "gCAPITAL LETTER O WITH DOT ABOVE AND MACRONgSMALL LETTER O WITH DOT ABOVE AND MACRON",
     "gCAPITAL LETTER Y WITH MACRONgSMALL LETTER Y WITH MACRONtL WITH CURLtN WITH CURLtT WITH CURL",
     "tDOTLESS JuB DIGRAPHtQP DIGRAPHgCAPITAL LETTER A WITH STROKEvC WITH STROKE",
     "gSMALL LETTER C WITH STROKEgCAPITAL LETTER L WITH BARvT WITH DIAGONAL STROKE",
     "gSMALL LETTER S WITH SWASH TAILtZ WITH SWASH TAILgCAPITAL LETTER GLOTTAL STOP",
     "gSMALL LETTER GLOTTAL STOPgCAPITAL LETTER B WITH STROKEvU BARvTURNED VvE WITH STROKE",
     "gSMALL LETTER E WITH STROKEgCAPITAL LETTER J WITH STROKEgSMALL LETTER J WITH STROKE",
     "gCAPITAL LETTER SMALL Q WITH HOOK TAILgSMALL LETTER Q WITH HOOK TAIL",
     "gCAPITAL LETTER R WITH STROKEgSMALL LETTER R WITH STROKEgCAPITAL LETTER Y WITH STROKE",
     "gSMALL LETTER Y WITH STROKEtTURNED AtALPHAtTURNED ALPHAtB WITH HOOKtOPEN OtC WITH CURL",
     "tD WITH TAILzbHOOKtREVERSED EtSCHWAy WITH HOOKtOPEN EtREVERSED OPEN Ezj WITH HOOK",
     "tCLOSED REVERSED OPEN EtDOTLESS J WITH STROKEtG WITH HOOKtSCRIPT GgLETTER SMALL CAPITAL G",
     "gSMALL LETTER GAMMAtRAMS HORNtTURNED HtH WITH HOOKuENG WITH HOOKtI WITH STROKEuOTA",
     "gLETTER SMALL CAPITAL IgSMALL LETTER L WITH MIDDLE TILDEzbBELTzbRETROFLEX HOOKuEZHtTURNED M",
     "zc WITH LONG LEGtM WITH HOOKtN WITH LEFT HOOKzbRETROFLEX HOOKgLETTER SMALL CAPITAL N",
     "gSMALL LETTER BARRED OgLETTER SMALL CAPITAL OEgSMALL LETTER CLOSED OMEGAtPHItTURNED R",
     "zc WITH LONG LEGziHOOKtR WITH LONG LEGzbTAILzbFISHHOOKuEVERSED R WITH FISHHOOK",
     "gLETTER SMALL CAPITAL RzcINVERTED RgSMALL LETTER S WITH HOOKtESH",
     "tDOTLESS J WITH STROKE AND HOOKtSQUAT REVERSED ESHtESH WITH CURLtTURNED T",
     "u WITH RETROFLEX HOOKtU BARuPSILONtV WITH HOOKtTURNED VzbWzbYgLETTER SMALL CAPITAL Y",
     "gSMALL LETTER Z WITH RETROFLEX HOOKzbCURLtEZHw WITH CURLgLETTER GLOTTAL STOP",
     "nPHARYNGEAL VOICED FRICATIVEnINVERTED GLOTTAL STOPnSTRETCHED CnBILABIAL CLICK",
     "nSMALL CAPITAL BgSMALL LETTER CLOSED OPEN EgLETTER SMALL CAPITAL G WITH HOOKzcH",
     "gSMALL LETTER J WITH CROSSED-TAILtTURNED KgLETTER SMALL CAPITAL LgSMALL LETTER Q WITH HOOK",
     "gLETTER GLOTTAL STOP WITH STROKEnREVERSED GLOTTAL STOP WITH STROKEgSMALL LETTER DZ DIGRAPH",
     "uEZH DIGRAPHuZ DIGRAPH WITH CURLtTS DIGRAPHuESH DIGRAPHuC DIGRAPH WITH CURLtFENG DIGRAPH",
     "tLS DIGRAPHuZ DIGRAPHgLETTER BILABIAL PERCUSSIVEpDENTAL PERCUSSIVE",
     "gSMALL LETTER TURNED H WITH FISHHOOKzq AND TAILaMODIFIER LETTER SMALL Hx WITH HOOKwJwR",
     "wTURNED Rzf WITH HOOKwCAPITAL INVERTED RwWwYqPRIMEqDOUBLE PRIMEqTURNED COMMAqAPOSTROPHE",
     "qREVERSED COMMArIGHT HALF RINGqLEFT HALF RINGqGLOTTAL STOPqREVERSED GLOTTAL STOP",
     "qLEFT ARROWHEADqRIGHT ARROWHEADqUP ARROWHEADqDOWN ARROWHEADqCIRCUMFLEX ACCENTaCARON",
     "aMODIFIER LETTER VERTICAL LINEqMACRONqACUTE ACCENTqGRAVE ACCENTqLOW VERTICAL LINEuMACRON",
     "uGRAVE ACCENTuACUTE ACCENTqTRIANGULAR COLONqHALF TRIANGULAR COLONqCENTRED RIGHT HALF RING",
     "yLEFT HALF RINGqUP TACKqDOWN TACKqPLUS SIGNqMINUS SIGNaBREVEaDOT ABOVEaRING ABOVEaOGONEK",
     "aSMALL TILDEaDOUBLE ACUTE ACCENTaMODIFIER LETTER RHOTIC HOOKqCROSS ACCENTqSMALL GAMMAwLwSwX",
     "wREVERSED GLOTTAL STOPqEXTRA-HIGH TONE BARqHIGH TONE BARqMID TONE BARqLOW TONE BAR",
     "qEXTRA-LOW TONE BARqYIN DEPARTING TONE MARKrANG DEPARTING TONE MARKqVOICINGqUNASPIRATED",
     "qDOUBLE APOSTROPHEqLOW DOWN ARROWHEADuUP ARROWHEADuLEFT ARROWHEADuRIGHT ARROWHEADwNG",
     "qMIDDLE GRAVE ACCENTxDOUBLE GRAVE ACCENTzfACUTE ACCENTqLOW TILDEqRAISED COLON",
     "qBEGIN HIGH TONEqEND HIGH TONEqBEGIN LOW TONEqEND LOW TONEqSHELFqOPEN SHELFqLOW LEFT ARROW",
     "aCOMBINING GRAVE ACCENTkACUTE ACCENTkCIRCUMFLEX ACCENTkTILDEkMACRONkOVERLINEkBREVEkDOT ABOVE",
     "lIAERESISkHOOK ABOVEkRING ABOVEkDOUBLE ACUTE ACCENTkCARONkVERTICAL LINE ABOVE",
     "kDOUBLE VERTICAL LINE ABOVErGRAVE ACCENTkCANDRABINDUkINVERTED BREVEkTURNED COMMA ABOVE",
     "kCOMMA ABOVEkREVERSED COMMA ABOVEkCOMMA ABOVE RIGHTkGRAVE ACCENT BELOWkACUTE ACCENT BELOW",
     "kLEFT TACK BELOWkRIGHT TACK BELOWkLEFT ANGLE ABOVEkHORNkLEFT HALF RING BELOWkUP TACK BELOW",
     "kDOWN TACK BELOWkPLUS SIGN BELOWkMINUS SIGN BELOWkPALATALIZED HOOK BELOW",
     "kRETROFLEX HOOK BELOWkDOT BELOWlIAERESIS BELOWkRING BELOWkCOMMA BELOWlEDILLAkOGONEK",
     "kVERTICAL LINE BELOWkBRIDGE BELOWkINVERTED DOUBLE ARCH BELOWkCARON BELOW",
     "lIRCUMFLEX ACCENT BELOWkBREVE BELOWkINVERTED BREVE BELOWkTILDE BELOWkMACRON BELOWkLOW LINE",
     "kDOUBLE LOW LINEkTILDE OVERLAYkSHORT STROKE OVERLAYkLONG STROKE OVERLAY",
     "kSHORT SOLIDUS OVERLAYkLONG SOLIDUS OVERLAYkRIGHT HALF RING BELOWkINVERTED BRIDGE BELOW",
     "kSQUARE BELOWlEAGULL BELOWkX ABOVEkVERTICAL TILDEkDOUBLE OVERLINEkGRAVE TONE MARK",
     "kACUTE TONE MARKkGREEK PERISPOMENIqKORONISqDIALYTIKA TONOSqYPOGEGRAMMENIkBRIDGE ABOVE",
     "kEQUALS SIGN BELOWkDOUBLE VERTICAL LINE BELOWkLEFT ANGLE BELOWkNOT TILDE ABOVE",
     "kHOMOTHETIC ABOVEkALMOST EQUAL TO ABOVEkLEFT RIGHT ARROW BELOWkUPWARDS ARROW BELOW",
     "kGRAPHEME JOINERkRIGHT ARROWHEAD ABOVEkLEFT HALF RING ABOVEkFERMATAkX BELOW",
     "kLEFT ARROWHEAD BELOWkRIGHT ARROWHEAD BELOWzbAND UP ARROWHEAD BELOWqHALF RING ABOVE",
     "kDOT ABOVE RIGHTkASTERISK BELOWkDOUBLE RING BELOWkZIGZAG ABOVEkDOUBLE BREVE BELOWvErMACRON",
     "x BELOWrTILDErINVERTED BREVErRIGHTWARDS ARROW BELOWkLATIN SMALL LETTER AzeEzeIzeOzeUzeCzeD",
     "zeHzeMzeRzeTzeVzeXaGREEK CAPITAL LETTER HETAgSMALL LETTER HETAgCAPITAL LETTER ARCHAIC SAMPI",
     "gSMALL LETTER ARCHAIC SAMPIgNUMERAL SIGNgLOWER NUMERAL SIGN",
     "gCAPITAL LETTER PAMPHYLIAN DIGAMMAgSMALL LETTER PAMPHYLIAN DIGAMMA=37AgYPOGEGRAMMENI",
     "gSMALL REVERSED LUNATE SIGMA SYMBOLmDOTTED LUNATE SIGMA SYMBOL",
     "mREVERSED DOTTED LUNATE SIGMA SYMBOLgQUESTION MARKgCAPITAL LETTER YOT=384gTONOS",
     "gDIALYTIKA TONOSgCAPITAL LETTER ALPHA WITH TONOSgANO TELEIA",
     "gCAPITAL LETTER EPSILON WITH TONOSwTA WITH TONOSvIOTA WITH TONOS=38CvOMICRON WITH TONOS",
     "=38EvUPSILON WITH TONOSvOMEGA WITH TONOSgSMALL LETTER IOTA WITH DIALYTIKA AND TONOS",
     "gCAPITAL LETTER ALPHAvBETAvGAMMAvDELTAvEPSILONvZETAvETAvTHETAvIOTAvKAPPAvLAMDAvMUvNUvXI",
     "vOMICRONvPIvRHO=3A3vSIGMAvTAUvUPSILONvPHIvCHIvPSIvOMEGAvIOTA WITH DIALYTIKA",
     "vUPSILON WITH DIALYTIKAgSMALL LETTER ALPHA WITH TONOStEPSILON WITH TONOSuTA WITH TONOS",
     "tIOTA WITH TONOStUPSILON WITH DIALYTIKA AND TONOStALPHAtBETAtGAMMAtDELTAtEPSILONtZETAtETA",
     "tTHETAtIOTAtKAPPAtLAMDAtMUtNUtXItOMICRONtPItRHOtFINAL SIGMAtSIGMAtTAUtUPSILONtPHItCHItPSI",
     "tOMEGAtIOTA WITH DIALYTIKAtUPSILON WITH DIALYTIKAtOMICRON WITH TONOStUPSILON WITH TONOS",
     "tOMEGA WITH TONOSgCAPITAL KAI SYMBOLgBETA SYMBOLgTHETA SYMBOLgUPSILON WITH HOOK SYMBOL",
     "tACUTE AND HOOK SYMBOLtDIAERESIS AND HOOK SYMBOLgPHI SYMBOLhI SYMBOLgKAI SYMBOL",
     "gLETTER ARCHAIC KOPPAgSMALL LETTER ARCHAIC KOPPAgLETTER STIGMAgSMALL LETTER STIGMA",
     "gLETTER DIGAMMAgSMALL LETTER DIGAMMAgLETTER KOPPAgSMALL LETTER KOPPAgLETTER SAMPI",
     "gSMALL LETTER SAMPIaCOPTIC CAPITAL LETTER SHEIhSMALL LETTER SHEIhCAPITAL LETTER FEI",
     "hSMALL LETTER FEIhCAPITAL LETTER KHEIhSMALL LETTER KHEIhCAPITAL LETTER HORI",
     "hSMALL LETTER HORIhCAPITAL LETTER GANGIAhSMALL LETTER GANGIAhCAPITAL LETTER SHIMA",
     "hSMALL LETTER SHIMAhCAPITAL LETTER DEIhSMALL LETTER DEIaGREEK KAPPA SYMBOLgRHO SYMBOL",
     "gLUNATE SIGMA SYMBOLhETTER YOTgCAPITAL THETA SYMBOLgLUNATE EPSILON SYMBOL",
     "gREVERSED LUNATE EPSILON SYMBOLgCAPITAL LETTER SHOgSMALL LETTER SHO",
     "gCAPITAL LUNATE SIGMA SYMBOLpETTER SANgSMALL LETTER SANgRHO WITH STROKE SYMBOL",
     "gCAPITAL REVERSED LUNATE SIGMA SYMBOLoDOTTED LUNATE SIGMA SYMBOL",
     "oREVERSED DOTTED LUNATE SIGMA SYMBOLaCYRILLIC CAPITAL LETTER IE WITH GRAVEzaOyDJEyGJE",
     "yUKRAINIAN IEyDZEyBYELORUSSIAN-UKRAINIAN IyYIyJEyLJEyNJEyTSHEyKJEyI WITH GRAVEySHORT UyDZHE",
     "yAyBEyVEyGHEyDEyIEyZHEzaEyIySHORT IyKAyELzaMzaNyOyPEyERzaSyTEyUyEFyHAyTSEyCHEySHAzbCHA",
     "yHARD SIGNyYERUySOFT SIGNyEyYUzaAjSMALL LETTER AwBEwVEwGHEwDEwIEwZHExEwIwSHORT IwKAwELxMxNwO",
     "wPEwERxSwTEwUwEFwHAwTSEwCHEwSHAyCHAwHARD SIGNwYERUwSOFT SIGNwEwYUxAwIE WITH GRAVExOwDJEwGJE",
     "wUKRAINIAN IEwDZEwBYELORUSSIAN-UKRAINIAN IwYIwJEwLJEwNJEwTSHEwKJEwI WITH GRAVEwSHORT UwDZHE",
     "jCAPITAL LETTER OMEGAjSMALL LETTER OMEGAjCAPITAL LETTER YATjSMALL LETTER YAT",
     "jCAPITAL LETTER IOTIFIED EjSMALL LETTER IOTIFIED EjCAPITAL LETTER LITTLE YUS",
     "jSMALL LETTER LITTLE YUSjCAPITAL LETTER IOTIFIED LITTLE YUSjSMALL LETTER IOTIFIED LITTLE YUS",
     "jCAPITAL LETTER BIG YUSjSMALL LETTER BIG YUSjCAPITAL LETTER IOTIFIED BIG YUS",
     "jSMALL LETTER IOTIFIED BIG YUSjCAPITAL LETTER KSIjSMALL LETTER KSIjCAPITAL LETTER PSI",
     "jSMALL LETTER PSIjCAPITAL LETTER FITAjSMALL LETTER FITAjCAPITAL LETTER IZHITSA",
     "jSMALL LETTER IZHITSAjCAPITAL LETTER IZHITSA WITH DOUBLE GRAVE ACCENT",
     "jSMALL LETTER IZHITSA WITH DOUBLE GRAVE ACCENTjCAPITAL LETTER UKjSMALL LETTER UK",
     "jCAPITAL LETTER ROUND OMEGAjSMALL LETTER ROUND OMEGAjCAPITAL LETTER OMEGA WITH TITLO",
     "jSMALL LETTER OMEGA WITH TITLOjCAPITAL LETTER OTjSMALL LETTER OTjCAPITAL LETTER KOPPA",
     "jSMALL LETTER KOPPAjTHOUSANDS SIGNbOMBINING CYRILLIC TITLOtPALATALIZATIONtDASIA PNEUMATA",
     "tPSILI PNEUMATAuOKRYTIEtHUNDRED THOUSANDS SIGNtMILLIONS SIGN",
     "bYRILLIC CAPITAL LETTER SHORT I WITH TAILjSMALL LETTER SHORT I WITH TAIL",
     "jCAPITAL LETTER SEMISOFT SIGNjSMALL LETTER SEMISOFT SIGNjCAPITAL LETTER ER WITH TICK",
     "jSMALL LETTER ER WITH TICKjCAPITAL LETTER GHE WITH UPTURNjSMALL LETTER GHE WITH UPTURN",
     "jCAPITAL LETTER GHE WITH STROKEjSMALL LETTER GHE WITH STROKE",
     "jCAPITAL LETTER GHE WITH MIDDLE HOOKjSMALL LETTER GHE WITH MIDDLE HOOK",
     "jCAPITAL LETTER ZHE WITH DESCENDERjSMALL LETTER ZHE WITH DESCENDER",
     "jCAPITAL LETTER ZE WITH DESCENDERjSMALL LETTER ZE WITH DESCENDER",
     "jCAPITAL LETTER KA WITH DESCENDERjSMALL LETTER KA WITH DESCENDER",
     "jCAPITAL LETTER KA WITH VERTICAL STROKEjSMALL LETTER KA WITH VERTICAL STROKE",
     "jCAPITAL LETTER KA WITH STROKEjSMALL LETTER KA WITH STROKEjCAPITAL LETTER BASHKIR KA",
     "jSMALL LETTER BASHKIR KAjCAPITAL LETTER EN WITH DESCENDERjSMALL LETTER EN WITH DESCENDER",
     "jCAPITAL LIGATURE EN GHEjSMALL LIGATURE EN GHEjCAPITAL LETTER PE WITH MIDDLE HOOK",
     "jSMALL LETTER PE WITH MIDDLE HOOKjCAPITAL LETTER ABKHASIAN HAjSMALL LETTER ABKHASIAN HA",
     "jCAPITAL LETTER ES WITH DESCENDERjSMALL LETTER ES WITH DESCENDER",
     "jCAPITAL LETTER TE WITH DESCENDERjSMALL LETTER TE WITH DESCENDERjCAPITAL LETTER STRAIGHT U",
     "jSMALL LETTER STRAIGHT UjCAPITAL LETTER STRAIGHT U WITH STROKE",
     "jSMALL LETTER STRAIGHT U WITH STROKEjCAPITAL LETTER HA WITH DESCENDER",
     "jSMALL LETTER HA WITH DESCENDERjCAPITAL LIGATURE TE TSEjSMALL LIGATURE TE TSE",
     "jCAPITAL LETTER CHE WITH DESCENDERjSMALL LETTER CHE WITH DESCENDER",
     "jCAPITAL LETTER CHE WITH VERTICAL STROKEjSMALL LETTER CHE WITH VERTICAL STROKE",
     "jCAPITAL LETTER SHHAjSMALL LETTER SHHAjCAPITAL LETTER ABKHASIAN CHE",
     "jSMALL LETTER ABKHASIAN CHEjCAPITAL LETTER ABKHASIAN CHE WITH DESCENDER",
     "jSMALL LETTER ABKHASIAN CHE WITH DESCENDERjLETTER PALOCHKAjCAPITAL LETTER ZHE WITH BREVE",
     "jSMALL LETTER ZHE WITH BREVEjCAPITAL LETTER KA WITH HOOKjSMALL LETTER KA WITH HOOK",
     "jCAPITAL LETTER EL WITH TAILjSMALL LETTER EL WITH TAILjCAPITAL LETTER EN WITH HOOK",
     "jSMALL LETTER EN WITH HOOKjCAPITAL LETTER EN WITH TAILjSMALL LETTER EN WITH TAIL",
     "jCAPITAL LETTER KHAKASSIAN CHEjSMALL LETTER KHAKASSIAN CHEjCAPITAL LETTER EM WITH TAIL",
     "jSMALL LETTER EM WITH TAILwPALOCHKAjCAPITAL LETTER A WITH BREVEjSMALL LETTER A WITH BREVE",
     "jCAPITAL LETTER A WITH DIAERESISjSMALL LETTER A WITH DIAERESISjCAPITAL LIGATURE A IE",
     "jSMALL LIGATURE A IEjCAPITAL LETTER IE WITH BREVEjSMALL LETTER IE WITH BREVE",
     "jCAPITAL LETTER SCHWAjSMALL LETTER SCHWAjCAPITAL LETTER SCHWA WITH DIAERESIS",
     "jSMALL LETTER SCHWA WITH DIAERESISjCAPITAL LETTER ZHE WITH DIAERESIS",
     "jSMALL LETTER ZHE WITH DIAERESISjCAPITAL LETTER ZE WITH DIAERESIS",
     "jSMALL LETTER ZE WITH DIAERESISjCAPITAL LETTER ABKHASIAN DZEjSMALL LETTER ABKHASIAN DZE",
     "jCAPITAL LETTER I WITH MACRONjSMALL LETTER I WITH MACRONjCAPITAL LETTER I WITH DIAERESIS",
     "jSMALL LETTER I WITH DIAERESISjCAPITAL LETTER O WITH DIAERESISjSMALL LETTER O WITH DIAERESIS",
     "jCAPITAL LETTER BARRED OjSMALL LETTER BARRED OjCAPITAL LETTER BARRED O WITH DIAERESIS",
     "jSMALL LETTER BARRED O WITH DIAERESISjCAPITAL LETTER E WITH DIAERESIS",
     "jSMALL LETTER E WITH DIAERESISjCAPITAL LETTER U WITH MACRONjSMALL LETTER U WITH MACRON",
     "jCAPITAL LETTER U WITH DIAERESISjSMALL LETTER U WITH DIAERESIS",
     "jCAPITAL LETTER U WITH DOUBLE ACUTEjSMALL LETTER U WITH DOUBLE ACUTE",
     "jCAPITAL LETTER CHE WITH DIAERESISjSMALL LETTER CHE WITH DIAERESIS",
     "jCAPITAL LETTER GHE WITH DESCENDERjSMALL LETTER GHE WITH DESCENDER",
     "jCAPITAL LETTER YERU WITH DIAERESISjSMALL LETTER YERU WITH DIAERESIS",
     "jCAPITAL LETTER GHE WITH STROKE AND HOOKjSMALL LETTER GHE WITH STROKE AND HOOK",
     "jCAPITAL LETTER HA WITH HOOKjSMALL LETTER HA WITH HOOKjCAPITAL LETTER HA WITH STROKE",
     "jSMALL LETTER HA WITH STROKEjCAPITAL LETTER KOMI DEjSMALL LETTER KOMI DE",
     "jCAPITAL LETTER KOMI DJEjSMALL LETTER KOMI DJEjCAPITAL LETTER KOMI ZJEjSMALL LETTER KOMI ZJE",
     "jCAPITAL LETTER KOMI DZJEjSMALL LETTER KOMI DZJEjCAPITAL LETTER KOMI LJE",
     "jSMALL LETTER KOMI LJEjCAPITAL LETTER KOMI NJEjSMALL LETTER KOMI NJEjCAPITAL LETTER KOMI SJE",
     "jSMALL LETTER KOMI SJEjCAPITAL LETTER KOMI TJEjSMALL LETTER KOMI TJE",
     "jCAPITAL LETTER REVERSED ZEjSMALL LETTER REVERSED ZEjCAPITAL LETTER EL WITH HOOK",
     "jSMALL LETTER EL WITH HOOKjCAPITAL LETTER LHAjSMALL LETTER LHAjCAPITAL LETTER RHA",
     "jSMALL LETTER RHAjCAPITAL LETTER YAEjSMALL LETTER YAEjCAPITAL LETTER QAjSMALL LETTER QA",
     "jCAPITAL LETTER WEjSMALL LETTER WEjCAPITAL LETTER ALEUT KAjSMALL LETTER ALEUT KA",
     "jCAPITAL LETTER EL WITH MIDDLE HOOKjSMALL LETTER EL WITH MIDDLE HOOK",
     "jCAPITAL LETTER EN WITH MIDDLE HOOKjSMALL LETTER EN WITH MIDDLE HOOK",
     "jCAPITAL LETTER PE WITH DESCENDERjSMALL LETTER PE WITH DESCENDER",
     "jCAPITAL LETTER SHHA WITH DESCENDERjSMALL LETTER SHHA WITH DESCENDER",
     "jCAPITAL LETTER EN WITH LEFT HOOKjSMALL LETTER EN WITH LEFT HOOKjCAPITAL LETTER DZZHE",
     "jSMALL LETTER DZZHEjCAPITAL LETTER DCHEjSMALL LETTER DCHEjCAPITAL LETTER EL WITH DESCENDER",
     "jSMALL LETTER EL WITH DESCENDER=531aARMENIAN CAPITAL LETTER AYByBENyGIMyDAyECHyZAyEHzaTyTO",
     "yZHEyINIyLIWNyXEHyCAyKENyHOyJAyGHADyCHEHyMENyYIyNOWySHAyVOyCHAyPEHyJHEHyRAySEHyVEWyTIWNyREH",
     "yCOyYIWNyPIWRyKEHyOHyFEH=559jMODIFIER LETTER LEFT HALF RINGjAPOSTROPHEjEMPHASIS MARK",
     "kXCLAMATION MARKjCOMMAjQUESTION MARKjABBREVIATION MARKjSMALL LETTER TURNED AYBwAYBwBENwGIM",
     "wDAwECHwZAwEHxTwTOwZHEwINIwLIWNwXEHwCAwKENwHOwJAwGHADwCHEHwMENwYIwNOWwSHAwVOwCHAwPEHwJHEHwRA",
     "wSEHwVEWwTIWNwREHwCOwYIWNwPIWRwKEHwOHwFEHqIGATURE ECH YIWNqETTER YI WITH STROKEjFULL STOP",
     "jHYPHEN=58DaRIGHT-FACING ARMENIAN ETERNITY SIGNaLEFT-FACING ARMENIAN ETERNITY SIGN",
     "aARMENIAN DRAM SIGN=591aHEBREW ACCENT ETNAHTAoSEGOLpHALSHELEToZAQEF QATANuGADOLoTIPEHAoREVIA",
     "oZARQAoPASHTAoYETIVoTEVIRoGERESHu MUQDAMrSHAYIMoQARNEY PARAoTELISHA GEDOLAoPAZER",
     "oATNAH HAFUKHoMUNAHpAHAPAKHpERKHAu KEFULAoDARGAoQADMAoTELISHA QETANAoYERAH BEN YOMOoOLEoILUY",
     "oDEHIoZINORhMARK MASORA CIRCLEhPOINT SHEVAnHATAF SEGOLtPATAHtQAMATSoIRIQnTSEREnSEGOLnPATAH",
     "nQAMATSnHOLAMs HASER FOR VAVnQUBUTSnDAGESH OR MAPIQnMETEGiUNCTUATION MAQAFiOINT RAFE",
     "iUNCTUATION PASEQiOINT SHIN DOToIN DOTiUNCTUATION SOF PASUQhMARK UPPER DOTmLOWER DOT",
     "hPUNCTUATION NUN HAFUKHAiOINT QAMATS QATAN=5D0hLETTER ALEFoBEToGIMELoDALEToHEoVAVoZAYINoHET",
     "oTEToYODoFINAL KAFoKAFoLAMEDoFINAL MEMoMEMoFINAL NUNoNUNoSAMEKHoAYINoFINAL PEoPEoFINAL TSADI",
     "oTSADIoQOFoRESHoSHINoTAV=5EFhYOD TRIANGLEhLIGATURE YIDDISH DOUBLE VAVyVAV YODyDOUBLE YOD",
     "hPUNCTUATION GERESHwSHAYIM=600aARABIC NUMBER SIGNhSIGN SANAHhFOOTNOTE MARKERhSIGN SAFHAoMVAT",
     "hNUMBER MARK ABOVEg-INDIC CUBE ROOTnFOURTH ROOTg RAYg-INDIC PER MILLE SIGNrTEN THOUSAND SIGN",
     "bFGHANI SIGNbRABIC COMMAhDATE SEPARATORhPOETIC VERSE SIGNhSIGN MISRA",
     "mSALLALLAHOU ALAYHE WASSALLAMmALAYHE ASSALLAMmRAHMATULLAH ALAYHEoDI ALLAHOU ANHUmTAKHALLUS",
     "iMALL HIGH TAHsLIGATURE ALEF WITH LAM WITH YEHsZAINnFATHAnDAMMAnKASRAiEMICOLONhLETTER MARK",
     "hEND OF TEXT MARKhTRIPLE DOT PUNCTUATION MARKhQUESTION MARKhLETTER KASHMIRI YEHoHAMZA",
     "oALEF WITH MADDA ABOVEyHAMZA ABOVEoWAW WITH HAMZA ABOVEoALEF WITH HAMZA BELOW",
     "oYEH WITH HAMZA ABOVEoALEFoBEHoTEH MARBUTAqHpHEHoJEEMoHAHoKHAHoDALoTHALoREHoZAINoSEENpHEEN",
     "pADoDADoTAHoZAHoAINoGHAINoKEHEH WITH TWO DOTS ABOVEzbHREE DOTS BELOW",
     "oFARSI YEH WITH INVERTED VzeTWO DOTS ABOVEzfHREE DOTS ABOVEhTATWEELhLETTER FEHoQAFoKAFoLAM",
     "oMEEMoNOONoHEHoWAWoALEF MAKSURAoYEHhFATHATANhDAMMATANhKASRATANhFATHAhDAMMAhKASRAhSHADDAiUKUN",
     "hMADDAH ABOVEhHAMZA ABOVEnBELOWhSUBSCRIPT ALEFhINVERTED DAMMAhMARK NOON GHUNNAhZWARAKAY",
     "hVOWEL SIGN SMALL V ABOVEsINVERTED SMALL V ABOVEsDOT BELOWhREVERSED DAMMA",
     "hFATHA WITH TWO DOTShWAVY HAMZA BELOWg-INDIC DIGIT ZEROtONEtTWOuHREEtFOURuIVEtSIXuEVENtEIGHT",
     "tNINEg PERCENT SIGNhDECIMAL SEPARATORhTHOUSANDS SEPARATORhFIVE POINTED STAR",
     "hLETTER DOTLESS BEHwQAFoSUPERSCRIPT ALEFoALEF WASLAuITH WAVY HAMZA ABOVEzkBELOWoHIGH HAMZA",
     "y ALEFzaWAWoU WITH HAMZA ABOVEoHIGH HAMZA YEHoTTEHsEHoBEEHoTEH WITH RING",
     "xTHREE DOTS ABOVE DOWNWARDSoPEHoTEHEHoBEHEHoHAH WITH HAMZA ABOVExTWO DOTS VERTICAL ABOVE",
     "oNYEHoDYEHoHAH WITH THREE DOTS ABOVEoTCHEHtEHoDDALpAL WITH RINGxDOT BELOWzh AND SMALL TAH",
     "qHALpDAHALpULpAL WITH THREE DOTS ABOVE DOWNWARDSxFOUR DOTS ABOVEoRREHpEH WITH SMALL VxRING",
     "xDOT BELOWxSMALL V BELOWxDOT BELOW AND DOT ABOVExTWO DOTS ABOVEoJEHoREH WITH FOUR DOTS ABOVE",
     "oSEEN WITH DOT BELOW AND DOT ABOVEyTHREE DOTS BELOWzp AND THREE DOTS ABOVE",
     "pAD WITH TWO DOTS BELOWyHREE DOTS ABOVEoTAH WITH THREE DOTS ABOVEoAIN WITH THREE DOTS ABOVE",
     "oDOTLESS FEHoFEH WITH DOT MOVED BELOWzcBELOWoVEHoFEH WITH THREE DOTS BELOWoPEHEH",
     "oQAF WITH DOT ABOVExTHREE DOTS ABOVEoKEHEHoSWASH KAFoKAF WITH RINGxDOT ABOVEoNG",
     "oKAF WITH THREE DOTS BELOWoGAFr WITH RINGoNGOEHoGAF WITH TWO DOTS BELOWpUEH",
     "pAF WITH THREE DOTS ABOVEoLAM WITH SMALL VxDOT ABOVExTHREE DOTS ABOVEzjBELOW",
     "oNOON WITH DOT BELOWtGHUNNAoRNOONoNOON WITH RINGyTHREE DOTS ABOVEoHEH DOACHASHMEE",
     "oTCHEH WITH DOT ABOVEoHEH WITH YEH ABOVEsGOALw WITH HAMZA ABOVEoTEH MARBUTA GOAL",
     "oWAW WITH RINGoKIRGHIZ OEoOEoUoYUoKIRGHIZ YUoWAW WITH TWO DOTS ABOVEoVEoFARSI YEH",
     "oYEH WITH TAILxSMALL VoWAW WITH DOT ABOVEoEoYEH WITH THREE DOTS BELOWsBARREE",
     "y WITH HAMZA ABOVEhFULL STOPhLETTER AEhSMALL HIGH LIGATURE SAD WITH LAM WITH ALEF MAKSURA",
     "zcQAF WITH LAM WITH ALEF MAKSURAsMEEM INITIAL FORMsLAM ALEFsJEEMsTHREE DOTSsSEENhEND OF AYAH",
     "hSTART OF RUB EL HIZBiMALL HIGH ROUNDED ZEROsUPRIGHT RECTANGULAR ZEROsDOTLESS HEAD OF KHAH",
     "sMEEM ISOLATED FORMnLOW SEENnHIGH MADDAnWAWnYEHnHIGH YEHsNOONhPLACE OF SAJDAH",
     "hEMPTY CENTRE LOW STOPuHIGH STOPhROUNDED HIGH STOP WITH FILLED CENTREhSMALL LOW MEEM",
     "hLETTER DAL WITH INVERTED VoREH WITH INVERTED VaEXTENDED ARABIC-INDIC DIGIT ZEROzdONEzdTWO",
     "zeHREEzdFOURzeIVEzdSIXzeEVENzdEIGHTzdNINEaARABIC LETTER SHEEN WITH DOT BELOW",
     "oDAD WITH DOT BELOWoGHAIN WITH DOT BELOWhSIGN SINDHI AMPERSANDtPOSTPOSITION MEN",
     "hLETTER HEH WITH INVERTED VaSYRIAC END OF PARAGRAPHhSUPRALINEAR FULL STOPjBLINEAR FULL STOP",
     "jPRALINEAR COLONjBLINEAR COLONhHORIZONTAL COLONhCOLON SKEWED LEFTuRIGHT",
     "hSUPRALINEAR COLON SKEWED LEFTjBLINEAR COLON SKEWED RIGHThCONTRACTIONhHARKLEAN OBELUS",
     "qMETOBELUSqASTERISCUS=70FhABBREVIATION MARKhLETTER ALAPHoSUPERSCRIPT ALAPHoBETHoGAMAL",
     "t GARSHUNIoDALATHpOTLESS DALATH RISHoHEoWAWoZAINoHETHoTETHs GARSHUNIoYUDHs HEoKAPHoLAMADH",
     "oMIMoNUNoSEMKATHoFINAL SEMKATHoEoPEoREVERSED PEoSADHEoQAPHoRISHoSHINoTAWoPERSIAN BHETH",
     "wGHAMALwDHALATHhPTHAHA ABOVEoBELOWoDOTTEDhZQAPHA ABOVEoBELOWoDOTTEDhRBASA ABOVEnBELOW",
     "hDOTTED ZLAMA HORIZONTALuANGULARhHBASA ABOVEnBELOWm-ESASA DOTTEDhESASA ABOVEnBELOWhRWAHA",
     "hFEMININE DOThQUSHSHAYAhRUKKAKHAhTWO VERTICAL DOTS ABOVEzaBELOWiHREE DOTS ABOVEsBELOW",
     "hOBLIQUE LINE ABOVEuBELOWhMUSIChBARREKH=74DhLETTER SOGDIAN ZHAINwKHAPHwFE",
     "aARABIC LETTER BEH WITH THREE DOTS HORIZONTALLY BELOWxDOT BELOW AND THREE DOTS ABOVE",
     "xTHREE DOTS POINTING UPWARDS BELOWzzg AND TWO DOTS ABOVEyWO DOTS BELOW AND DOT ABOVE",
     "xINVERTED SMALL V BELOWxSMALL VoHAH WITH TWO DOTS ABOVEyHREE DOTS POINTING UPWARDS BELOW",
     "oDAL WITH TWO DOTS VERTICALLY BELOW AND SMALL TAHxINVERTED SMALL V BELOWoREH WITH STROKE",
     "oSEEN WITH FOUR DOTS ABOVEoAIN WITH TWO DOTS ABOVEyHREE DOTS POINTING DOWNWARDS ABOVE",
     "yWO DOTS VERTICALLY ABOVEoFEH WITH TWO DOTS BELOWyHREE DOTS POINTING UPWARDS BELOW",
     "oKEHEH WITH DOT ABOVEzaTHREE DOTS ABOVEzlPOINTING UPWARDS BELOWoMEEM WITH DOT ABOVEzdBELOW",
     "oNOON WITH TWO DOTS BELOWySMALL TAHzfVoLAM WITH BARoREH WITH TWO DOTS VERTICALLY ABOVE",
     "xHAMZA ABOVEoSEEN WITH TWO DOTS VERTICALLY ABOVEoHAH WITH SMALL ARABIC LETTER TAH BELOW",
     "zwAND TWO DOTSoSEEN WITH SMALL ARABIC LETTER TAH AND TWO DOTS",
     "oREH WITH SMALL ARABIC LETTER TAH AND TWO DOTSoHAH WITH SMALL ARABIC LETTER TAH ABOVE",
     "oALEF WITH EXTENDED ARABIC-INDIC DIGIT TWO ABOVEzzdHREE ABOVE",
     "oFARSI YEH WITH EXTENDED ARABIC-INDIC DIGIT TWO ABOVEzziHREE ABOVEzzhFOUR BELOW",
     "oWAW WITH EXTENDED ARABIC-INDIC DIGIT TWO ABOVEzzcHREE ABOVE",
     "oYEH BARREE WITH EXTENDED ARABIC-INDIC DIGIT TWO ABOVEzzjHREE ABOVE",
     "oHAH WITH EXTENDED ARABIC-INDIC DIGIT FOUR BELOW",
     "oSEEN WITH EXTENDED ARABIC-INDIC DIGIT FOUR ABOVEyINVERTED VoKAF WITH TWO DOTS ABOVE",
     "aTHAANA LETTER HAAoSHAVIYANIoNOONUoRAAoBAAoLHAVIYANIoKAAFUoALIFUoVAAVUoMEEMUoFAAFUoDHAALU",
     "oTHAAoLAAMUoGAAFUpNAVIYANIoSEENUoDAVIYANIoZAVIYANIoTAVIYANIoYAAoPAVIYANIoJAVIYANIoCHAVIYANI",
     "oTTAAoHHAAoKHAAoTHAALUoZAAoSHEENUpAADHUoDAADHUoTOoZOoAINUoGHAINUoQAAFUoWAAVUhABAFILI",
     "iABAAFILIhIBIFILIhEEBEEFILIhUBUFILIhOOBOOFILIhEBEFILIiYBEYFILIhOBOFILIiABOAFILIhSUKUN",
     "hLETTER NAA=7C0aNKO DIGIT ZEROkONEkTWOlHREEkFOURlIVEkSIXlEVENkEIGHTkNINEeLETTER AlEElIlElU",
     "lOOlOlDAGBASINNAlNlBAlPAlTAlJAlCHAlDAlRAmRAlSAlGBAlFAlKAlLAlNA WOLOSOlMAlNYAmAlHAlWAlYA",
     "lNYA WOLOSOlJONA JAqCHAqRAeCOMBINING SHORT HIGH TONEuLOW TONEuRISING TONE",
     "oLONG DESCENDING TONEtHIGH TONEtLOW TONEtRISING TONEoNASALIZATION MARKoDOUBLE DOT ABOVE",
     "eHIGH TONE APOSTROPHEeLOW TONE APOSTROPHEeSYMBOL OO DENNENlGBAKURUNENeCOMMAeEXCLAMATION MARK",
     "eLAJANYALAN=7FDeDANTAYALANfOROME SIGNeTAMAN SIGNaSAMARITAN LETTER ALAFrBITrGAMANrDALATrIY",
     "rBAArZENrITrTITrYUTrKAAFrLABATrMIMrNUNrSINGAATrINrFIrTSAADIYrQUFrRISHrSHANrTAAFkMARK IN",
     "r-ALAFpOCCLUSIONpDAGESHlODIFIER LETTER EPENTHETIC YUTlARK EPENTHETIC YUTkVOWEL SIGN LONG EvE",
     "vOVERLONG AAvLONG AAvAAvOVERLONG AvLONG AvAkMODIFIER LETTER SHORT AkVOWEL SIGN SHORT A",
     "vLONG UvUkMODIFIER LETTER IkVOWEL SIGN LONG IvIvOvSUKUNkMARK NEQUDAA=830kPUNCTUATION NEQUDAA",
     "wAFSAAQxNGEDwBAUwATMAAUwSHIYYAALAAkABBREVIATION MARKkPUNCTUATION MELODIC QITSAwZIQAAwQITSA",
     "wZAEFwTURUwARKAANUwSOF MASHFAATwANNAAU=840aMANDAIC LETTER HALQApABqGqDqHpUSHENNApAZpITpATT",
     "qKSAqKqLqMqNqSpINpAPqSZqQqRqSHqTpDUSHENNApKADpAINiAFFRICATION MARKiVOCALIZATION MARK",
     "iGEMINATION MARK=85EiPUNCTUATION=860aSYRIAC LETTER MALAYALAM NGAyJAyNYAyTTAyNNAzbNAyBHAyRA",
     "yLLAzbLAySSA=870aARABIC LETTER ALEF WITH ATTACHED FATHAziTOP RIGHT FATHAyRIGHT MIDDLE STROKE",
     "yLEFT MIDDLE STROKEyATTACHED KASRAziBOTTOM RIGHT KASRAziROUND DOT ABOVEzjIGHT ROUND DOT",
     "ziLEFT ROUND DOTziROUND DOT BELOWyDOT ABOVEyATTACHED TOP RIGHT FATHA AND DOT ABOVE",
     "yRIGHT MIDDLE STROKE AND DOT ABOVEyATTACHED BOTTOM RIGHT KASRA AND DOT ABOVE",
     "ziTOP RIGHT FATHA AND LEFT RINGyRIGHT MIDDLE STROKE AND LEFT RING",
     "yATTACHED BOTTOM RIGHT KASRA AND LEFT RINGziRIGHT HAMZAziLEFT HAMZA",
     "hTATWEEL WITH OVERSTRUCK HAMZAzgWAWuTWO DOTS BELOWhLETTER THIN YEHhBASELINE ROUND DOT",
     "hRAISED ROUND DOThLETTER NOON WITH INVERTED SMALL VoHAH WITH INVERTED SMALL V BELOW",
     "oTAH WITH DOT BELOWxTHREE DOTS BELOWoKEHEH WITH TWO DOTS VERTICALLY BELOWhVERTICAL TAIL",
     "=890hPOUND MARK ABOVEiIASTRE MARK ABOVE=898hSMALL HIGH WORD AL-JUZnLOW WORD ISHMAAMxMAALA",
     "wTASHEELhMADDA WAAJIBhSUPERSCRIPT ALEF MOKHASSAShDOUBLED MADDAhHALF MADDA OVER MADDA",
     "hLETTER BEH WITH SMALL V BELOWxHAMZA ABOVEoJEEM WITH TWO DOTS ABOVEoTAH WITH TWO DOTS ABOVE",
     "oFEH WITH DOT BELOW AND THREE DOTS ABOVEoQAF WITH DOT BELOWoLAM WITH DOUBLE BAR",
     "oMEEM WITH THREE DOTS ABOVEoYEH WITH TWO DOTS BELOW AND HAMZA ABOVEzrDOT ABOVEoREH WITH LOOP",
     "oWAW WITH DOT WITHINoROHINGYA YEHoLOW ALEFoDAL WITH THREE DOTS BELOW",
     "oSAD WITH THREE DOTS BELOWoGAF WITH INVERTED STROKEoSTRAIGHT WAWoZAIN WITH INVERTED V ABOVE",
     "oAIN WITH THREE DOTS BELOWoKAF WITH DOT BELOWoQAF WITH DOT BELOW AND NO DOTS ABOVE",
     "oBEH WITH SMALL MEEM ABOVEoPEH WITH SMALL MEEM ABOVEoTEH WITH SMALL TEH ABOVE",
     "oREH WITH SMALL NOON ABOVEoYEH WITH TWO DOTS BELOW AND SMALL NOON ABOVEoAFRICAN FEHwQAFwNOON",
     "oPEH WITH SMALL VoTEH WITH SMALL VpTEH WITH SMALL VpCHEH WITH SMALL VoKEHEH WITH SMALL V",
     "oGHAIN WITH THREE DOTS ABOVEoAFRICAN QAF WITH THREE DOTS ABOVEoJEEM WITH THREE DOTS ABOVE",
     "zkBELOWoLAM WITH SMALL ARABIC LETTER TAH ABOVEoGRAFhSMALL FARSI YEHnHIGH FARSI YEH",
     "sYEH BARREE WITH TWO DOTS BELOWsWORD SAHsZAHhLARGE ROUND DOT ABOVExBELOWhSUKUN BELOW",
     "hLARGE CIRCLE BELOWnROUND DOT INSIDE CIRCLE BELOWhSMALL LOW WAWnHIGH WORD AR-RUBsSADsAINsQAF",
     "sNOON WITH KASRAnLOW NOON WITH KASRAnHIGH WORD ATH-THALATHAyS-SAJDAyN-NISFxSAKTAxQIFxWAQFA",
     "sFOOTNOTE MARKERsSIGN SAFHAhDISPUTED END OF AYAHhTURNED DAMMA BELOWhCURLY FATHAnDAMMAnKASRA",
     "nFATHATANnDAMMATANnKASRATANhTONE ONE DOT ABOVEmTWO DOTS ABOVEmLOOP ABOVEmONE DOT BELOW",
     "mTWO DOTS BELOWmLOOP BELOWhOPEN FATHATANmDAMMATANmKASRATANhSMALL HIGH WAWhFATHA WITH RING",
     "sDOT ABOVEhKASRA WITH DOT BELOWhLEFT ARROWHEAD ABOVEhRIGHT ARROWHEAD ABOVE",
     "hLEFT ARROWHEAD BELOWhRIGHT ARROWHEAD BELOWhDOUBLE RIGHT ARROWHEAD ABOVEzk WITH DOT",
     "hRIGHT ARROWHEAD ABOVE WITH DOThDAMMA WITH DOThMARK SIDEWAYS NOON GHUNNA",
     "aDEVANAGARI SIGN INVERTED CANDRABINDUqCANDRABINDUqANUSVARAqVISARGAlLETTER SHORT AsAtAsItIsU",
     "tUsVOCALIC RzbLsCANDRA EsSHORT EsEsAIsCANDRA OsSHORT OsOsAUsKAtHAsGAtHAsNGAsCAtHAsJAtHAsNYA",
     "sTTAuHAsDDAuHAsNNAsTAtHAsDAtHAsNAtNNAsPAtHAsBAtHAsMAsYAsRAtRAsLAtLAuLAsVAsSHAtSAtAsHA",
     "lVOWEL SIGN OExOElSIGN NUKTAqAVAGRAHAlVOWEL SIGN AAwIxIwUxUwVOCALIC RzgRwCANDRA EwSHORT EwE",
     "wAIwCANDRA OwSHORT OwOwAUlSIGN VIRAMAlVOWEL SIGN PRISHTHAMATRA EwAWlOMlSTRESS SIGN UDATTA",
     "xANUDATTAlGRAVE ACCENTlACUTE ACCENTlVOWEL SIGN CANDRA LONG EwUExUElLETTER QAsKHHAsGHHAsZA",
     "sDDDHAsRHAsFAsYYAsVOCALIC RRzbLLlVOWEL SIGN VOCALIC LzgLlDANDAmOUBLE DANDAmIGIT ZEROrONErTWO",
     "sHREErFOURsIVErSIXsEVENrEIGHTrNINElABBREVIATION SIGNlSIGN HIGH SPACING DOTlLETTER CANDRA A",
     "sOEtOEsAWsUEtUEsMARWARI DDAsZHAsHEAVY YAsGGAsJJAsGLOTTAL STOPsDDDAsBBAaBENGALI ANJI",
     "iSIGN CANDRABINDUnANUSVARAnVISARGA=985iLETTER AqApIqIpUqUpVOCALIC RxL=98FpEpAI=993pOpAUpKA",
     "qHApGAqHApNGApCAqHApJAqHApNYApTTArHApDDArHApNNApTAqHApDAqHApNA=9AApPAqHApBAqHApMApYApRA",
     "=9B2pLA=9B6pSHAqSAqApHA=9BCiSIGN NUKTAnAVAGRAHAiVOWEL SIGN AAtIuItUuUtVOCALIC RzdR=9C7tEtAI",
     "=9CBtOtAUiSIGN VIRAMAiLETTER KHANDA TA=9D7iAU LENGTH MARK=9DCiLETTER RRAqHA=9DFpYYA",
     "pVOCALIC RRxLLiVOWEL SIGN VOCALIC LzdL=9E6iDIGIT ZEROoONEoTWOpHREEoFOURpIVEoSIXpEVENoEIGHT",
     "oNINEiLETTER RA WITH MIDDLE DIAGONALxLOWER DIAGONALiRUPEE MARKoSIGNiCURRENCY NUMERATOR ONE",
     "zcTWOzdHREEzcFOURzcONE LESS THAN THE DENOMINATORrDENOMINATOR SIXTEENiISSHARiGANDA MARK",
     "iLETTER VEDIC ANUSVARAiABBREVIATION SIGNiSANDHI MARK=A01aGURMUKHI SIGN ADAK BINDIoBINDI",
     "oVISARGA=A05jLETTER ArAqIrIqUrU=A0FqEEqAI=A13qOOqAUqKArHAqGArHAqNGAqCArHAqJArHAqNYAqTTAsHA",
     "qDDAsHAqNNAqTArHAqDArHAqNA=A2AqPArHAqBArHAqMAqYAqRA=A32qLArLA=A35qVAqSHA=A38rAqHA",
     "=A3CjSIGN NUKTA=A3EjVOWEL SIGN AAuIvIuUvU=A47uEEuAI=A4BuOOuAUjSIGN VIRAMA=A51oUDAAT",
     "=A59jLETTER KHHAqGHHAqZAqRRA=A5EqFA=A66jDIGIT ZEROpONEpTWOqHREEpFOURqIVEpSIXqEVENpEIGHTpNINE",
     "jTIPPIjADDAKjIRIjURAjEK ONKARjSIGN YAKASHjABBREVIATION SIGN=A81cJARATI SIGN CANDRABINDU",
     "oANUSVARAoVISARGA=A85jLETTER ArAqIrIqUrUqVOCALIC RyLjVOWEL CANDRA E=A8FjLETTER EqAI",
     "jVOWEL CANDRA O=A93jLETTER OqAUqKArHAqGArHAqNGAqCArHAqJArHAqNYAqTTAsHAqDDAsHAqNNAqTArHAqDA",
     "rHAqNA=AAAqPArHAqBArHAqMAqYAqRA=AB2qLArLA=AB5qVAqSHArSArAqHA=ABCjSIGN NUKTAoAVAGRAHA",
     "jVOWEL SIGN AAuIvIuUvUuVOCALIC RzeRuCANDRA E=AC7uEuAIuCANDRA O=ACBuOuAUjSIGN VIRAMA=AD0jOM",
     "=AE0jLETTER VOCALIC RRyLLjVOWEL SIGN VOCALIC LzeL=AE6jDIGIT ZEROpONEpTWOqHREEpFOURqIVEpSIX",
     "qEVENpEIGHTpNINEjABBREVIATION SIGNjRUPEE SIGN=AF9jLETTER ZHAjSIGN SUKUNpHADDAoMADDAH",
     "oTHREE-DOT NUKTA ABOVEoCIRCLE NUKTA ABOVEoTWO-CIRCLE NUKTA ABOVE=B01aORIYA SIGN CANDRABINDU",
     "lANUSVARAlVISARGA=B05gLETTER AoAnIoInUoUnVOCALIC RvL=B0FnEnAI=B13nOnAUnKAoHAnGAoHAnNGAnCAoHA",
     "nJAoHAnNYAnTTApHAnDDApHAnNNAnTAoHAnDAoHAnNA=B2AnPAoHAnBAoHAnMAnYAnRA=B32nLAoLA=B35nVAnSHAoSA",
     "oAnHA=B3CgSIGN NUKTAlAVAGRAHAgVOWEL SIGN AArIsIrUsUrVOCALIC RzbR=B47rErAI=B4BrOrAU",
     "gSIGN VIRAMA=B55lOVERLINEgAI LENGTH MARKhU LENGTH MARK=B5CgLETTER RRAoHA=B5FnYYAnVOCALIC RR",
     "vLLgVOWEL SIGN VOCALIC LzbL=B66gDIGIT ZEROmONEmTWOnHREEmFOURnIVEmSIXnEVENmEIGHTmNINEgISSHAR",
     "gLETTER WAgFRACTION ONE QUARTERtHALFpTHREE QUARTERSpONE SIXTEENTHtEIGHTHpTHREE SIXTEENTHS",
     "=B82aTAMIL SIGN ANUSVARAlVISARGA=B85gLETTER AoAnIoInUoU=B8EnEoEnAI=B92nOoOnAUnKA=B99nNGAnCA",
     "=B9CnJA=B9EnNYAnTTA=BA3nNNAnTA=BA8nNAoNNAnPA=BAEnMAnYAnRAoRAnLAoLApLAnVAnSHAoSAoAnHA",
     "=BBEgVOWEL SIGN AArIsIrUsU=BC6rEsErAI=BCArOsOrAUgSIGN VIRAMA=BD0gOM=BD7gAU LENGTH MARK",
     "=BE6gDIGIT ZEROmONEmTWOnHREEmFOURnIVEmSIXnEVENmEIGHTmNINEgNUMBER TENnONE HUNDREDrTHOUSAND",
     "gDAY SIGNgMONTH SIGNgYEAR SIGNgDEBIT SIGNgCREDIT SIGNgAS ABOVE SIGNgRUPEE SIGNgNUMBER SIGN",
     "=C00bELUGU SIGN COMBINING CANDRABINDU ABOVEnANDRABINDUmANUSVARAmVISARGA",
     "mCOMBINING ANUSVARA ABOVEhLETTER ApAoIpIoUpUoVOCALIC RwL=C0EoEpEoAI=C12oOpOoAUoKApHAoGApHA",
     "oNGAoCApHAoJApHAoNYAoTTAqHAoDDAqHAoNNAoTApHAoDApHAoNA=C2AoPApHAoBApHAoMAoYAoRApRAoLApLAqLA",
     "oVAoSHApSApAoHA=C3ChSIGN NUKTAmAVAGRAHAhVOWEL SIGN AAsItIsUtUsVOCALIC RzcR=C46sEtEsAI=C4AsO",
     "tOsAUhSIGN VIRAMA=C55hLENGTH MARKhAI LENGTH MARK=C58hLETTER TSAoDZAoRRRA=C5DoNAKAARA POLLU",
     "=C60oVOCALIC RRwLLhVOWEL SIGN VOCALIC LzcL=C66hDIGIT ZEROnONEnTWOoHREEnFOURoIVEnSIXoEVEN",
     "nEIGHTnNINE=C77hSIGN SIDDHAMhFRACTION DIGIT ZERO FOR ODD POWERS OF FOUR",
     "wONE FOR ODD POWERS OF FOURwTWO FOR ODD POWERS OF FOURxHREE FOR ODD POWERS OF FOUR",
     "wONE FOR EVEN POWERS OF FOURwTWO FOR EVEN POWERS OF FOURxHREE FOR EVEN POWERS OF FOUR",
     "hSIGN TUUMUaKANNADA SIGN SPACING CANDRABINDUnCANDRABINDUnANUSVARAnVISARGAnSIDDHAMiLETTER AqA",
     "pIqIpUqUpVOCALIC RxL=C8EpEqEpAI=C92pOqOpAUpKAqHApGAqHApNGApCAqHApJAqHApNYApTTArHApDDArHApNNA",
     "pTAqHApDAqHApNA=CAApPAqHApBAqHApMApYApRAqRApLAqLA=CB5pVApSHAqSAqApHA=CBCiSIGN NUKTAnAVAGRAHA",
     "iVOWEL SIGN AAtIuItUuUtVOCALIC RzdR=CC6tEuEtAI=CCAtOuOtAUiSIGN VIRAMA=CD5iLENGTH MARK",
     "iAI LENGTH MARK=CDDiLETTER NAKAARA POLLUpFA=CE0pVOCALIC RRxLLiVOWEL SIGN VOCALIC LzdL",
     "=CE6iDIGIT ZEROoONEoTWOpHREEoFOURpIVEoSIXpEVENoEIGHToNINE=CF1iSIGN JIHVAMULIYAnUPADHMANIYA",
     "=D00aMALAYALAM SIGN COMBINING ANUSVARA ABOVEqANDRABINDUpANUSVARApVISARGA",
     "kLETTER VEDIC ANUSVARArAsArIsIrUsUrVOCALIC RzaL=D0ErEsErAI=D12rOsOrAUrKAsHArGAsHArNGArCAsHA",
     "rJAsHArNYArTTAtHArDDAtHArNNArTAsHArDAsHArNAsNNArPAsHArBAsHArMArYArRAsRArLAsLAtLArVArSHAsSAsA",
     "rHArTTTAkSIGN VERTICAL BAR VIRAMApCIRCULAR VIRAMApAVAGRAHAkVOWEL SIGN AAvIwIvUwUvVOCALIC R",
     "zfR=D46vEwEvAI=D4AvOwOvAUkSIGN VIRAMAkLETTER DOT REPHkSIGN PARA=D54kLETTER CHILLU MyYyLLL",
     "kAU LENGTH MARKkFRACTION ONE ONE-HUNDRED-AND-SIXTIETHxFORTIETHtTHREE EIGHTIETHS",
     "tONE TWENTIETHyENTHtTHREE TWENTIETHStONE FIFTHkLETTER ARCHAIC IIrVOCALIC RRzaLL",
     "kVOWEL SIGN VOCALIC LzfL=D66kDIGIT ZEROqONEqTWOrHREEqFOURrIVEqSIXrEVENqEIGHTqNINEkNUMBER TEN",
     "rONE HUNDREDvTHOUSANDkFRACTION ONE QUARTERxHALFtTHREE QUARTERStONE SIXTEENTHxEIGHTH",
     "tTHREE SIXTEENTHSkDATE MARKkLETTER CHILLU NNyNyRRyLzaLyK=D81aSINHALA SIGN CANDRABINDU",
     "nANUSVARAYAnVISARGAYA=D85iLETTER AYANNAqAYANNAqEYANNArEYANNApIYANNAqIYANNApUYANNAqUYANNA",
     "pIRUYANNAsUYANNAqLUYANNAsUYANNApEYANNAqEYANNApAIYANNApOYANNAqOYANNApAUYANNA",
     "=D9AqLPAPRAANA KAYANNApMAHAAPRAANA KAYANNApALPAPRAANA GAYANNApMAHAAPRAANA GAYANNA",
     "pKANTAJA NAASIKYAYApSANYAKA GAYANNApALPAPRAANA CAYANNApMAHAAPRAANA CAYANNA",
     "pALPAPRAANA JAYANNApMAHAAPRAANA JAYANNApTAALUJA NAASIKYAYAxSANYOOGA NAAKSIKYAYA",
     "pSANYAKA JAYANNApALPAPRAANA TTAYANNApMAHAAPRAANA TTAYANNApALPAPRAANA DDAYANNA",
     "pMAHAAPRAANA DDAYANNAqUURDHAJA NAYANNApSANYAKA DDAYANNApALPAPRAANA TAYANNA",
     "pMAHAAPRAANA TAYANNApALPAPRAANA DAYANNApMAHAAPRAANA DAYANNApDANTAJA NAYANNA",
     "=DB3pSANYAKA DAYANNApALPAPRAANA PAYANNApMAHAAPRAANA PAYANNApALPAPRAANA BAYANNA",
     "pMAHAAPRAANA BAYANNArYANNApAMBA BAYANNApYAYANNApRAYANNA=DBDpDANTAJA LAYANNA=DC0pVAYANNA",
     "pTAALUJA SAYANNApMUURDHAJA SAYANNApDANTAJA SAYANNApHAYANNApMUURDHAJA LAYANNApFAYANNA",
     "=DCAiSIGN AL-LAKUNA=DCFiVOWEL SIGN AELA-PILLAtKETTI AEDA-PILLAtDIGA AEDA-PILLA",
     "tKETTI IS-PILLAtDIGA IS-PILLAtKETTI PAA-PILLA=DD6tDIGA PAA-PILLA=DD8tGAETTA-PILLAtKOMBUVA",
     "tDIGA KOMBUVAtKOMBU DEKAyVA HAA AELA-PILLAzgDIGA AELA-PILLAzgGAYANUKITTAtGAYANUKITTA",
     "=DE6iLITH DIGIT ZEROtONEtTWOuHREEtFOURuIVEtSIXuEVENtEIGHTtNINE",
     "=DF2iVOWEL SIGN DIGA GAETTA-PILLAzbYANUKITTAiPUNCTUATION KUNDDALIYA",
     "=E01aTHAI CHARACTER KO KAIqHO KHAIvUATvWAIvONtRAKHANGpNGO NGUpCHO CHANvINGvANGpSO SO",
     "pCHO CHOEpYO YINGpDO CHADApTO PATAKqHO THANtNANGMONTHOtPHUTHAOpNO NENpDO DEKpTO TAOqHO THUNG",
     "vAHANvONGpNO NUpBO BAIMAIpPO PLAqHO PHUNGpFO FApPHO PHANpFO FANpPHO SAMPHAOpMO MApYO YAK",
     "pRO RUAqUpLO LINGqUpWO WAENpSO SALAsRUSIsSUApHO HIPpLO CHULApO ANGpHO NOKHUKpPAIYANNOI",
     "pSARA ApMAI HAN-AKATpSARA AAvMuIvIuUEwEuUvUpPHINTHU=E3FgURRENCY SYMBOL BAHTgHARACTER SARA E",
     "uAEuOuAI MAIMUANzcALAIpLAKKHANGYAOpMAIYAMOKsTAIKHUs EKtTHOuRItCHATTAWApTHANTHAKHATpNIKHAHIT",
     "pYAMAKKANpFONGMANfDIGIT ZEROlONElTWOmHREElFOURmIVElSIXmEVENlEIGHTlNINEfCHARACTER ANGKHANKHU",
     "pKHOMUT=E81aLAO LETTER KOmHO SUNG=E84pTAM=E86lPALI GHAlNGOlCOlPALI CHAlSO TAM=E8ClPALI JHA",
     "lNYOlPALI NYAqTTAsHAqDDAsHAqNNAlDOlTOmHO SUNGpTAMlPALI DHAlNOlBOlPOmHO SUNGlFO TAMlPHO TAM",
     "lFO SUNGlPALI BHAlMOlYOlLO LING=EA5pOOT=EA7lWOlSANSKRIT SHAvSAmO SUNGlHO SUNGlPALI LLAlO",
     "lHO TAMeELLIPSISeVOWEL SIGN ApMAI KANpAAqMpIqIpYqYpUqUeSIGN PALI VIRAMAeVOWEL SIGN MAI KON",
     "eSEMIVOWEL SIGN LOtNYO=EC0eVOWEL SIGN EqIpOpAYqI=EC6eKO LA=EC8eTONE MAI EKnTHOoInCATAWA",
     "eCANCELLATION MARKeNIGGAHITA=ED0eDIGIT ZEROkONEkTWOlHREEkFOURlIVEkSIXlEVENkEIGHTkNINE",
     "=EDCeHO NOhMOeLETTER KHMU GOqNYO=F00aTIBETAN SYLLABLE OMiMARK GTER YIG MGO TRUNCATED A",
     "zb-UM RNAM BCAD MAzfGTER TSHEG MAnINITIAL YIG MGO MDUN MAnCLOSING YIG MGO SGAB MA",
     "oARET YIG MGO PHUR SHAD MAnYIG MGO TSHEG SHAD MAnSBRUL SHADnBSKUR YIG MGOoKA- SHOG YIG MGO",
     "nINTERSYLLABIC TSHEGnDELIMITER TSHEG BSTARnSHADnNYIS SHADnTSHEG SHADnNYIS TSHEG SHAD",
     "nRIN CHEN SPUNGS SHADoGYA GRAM SHADnCARET -DZUD RTAGS ME LONG CANnGTER TSHEG",
     "iLOGOTYPE SIGN CHAD RTAGSwLHAG RTAGSiASTROLOGICAL SIGN SGRA GCAN -CHAR RTAGSzb-KHYUD PA",
     "zbSDONG TSHUGSiSIGN RDEL DKAR GCIGyNYISySUMsNAG GCIGxNYISsDKAR RDEL NAGiDIGIT ZEROoONEoTWO",
     "pHREEoFOURpIVEoSIXpEVENoEIGHToNINEoHALF ONEtTWOuHREEtFOURuIVEtSIXuEVENtEIGHTtNINEtZERO",
     "iMARK BSDUS RTAGSnNGAS BZUNG NYI ZLAnCARET -DZUD RTAGS BZHI MIG CANnNGAS BZUNG SGOR RTAGS",
     "nCHE MGOnTSA -PHRUnGUG RTAGS GYONzaASnANG KHANG GYONzaASiSIGN YAR TSHESnMAR TSHESiLETTER KA",
     "qHApGAqHApNGApCAqHApJA=F49pNYApTTArHApDDArHApNNApTAqHApDAqHApNApPAqHApBAqHApMApTSArHApDZArHA",
     "pWApZHAqAp-ApYApRApLApSHAqSAqApHApApKSSApFIXED-FORM RApKKApRRA=F71iVOWEL SIGN AAtIuItUuU",
     "tVOCALIC RzdRzcLzdLtEuEtOuOiSIGN RJES SU NGA ROoNAM BCADiVOWEL SIGN REVERSED IzeI",
     "iSIGN NYI ZLA NAA DAnSNA LDANiMARK HALANTAnPALUTAiSIGN LCI RTAGSnYANG RTAGSnLCE TSA CAN",
     "nMCHU CANnGRU CAN RGYINGSrMED RGYINGSnINVERTED MCHU CANjUBJOINED SIGN LCE TSA CANxMCHU CAN",
     "xINVERTED MCHU CANsLETTER KAzbHAzaGAzbHAzaNGAzaCAzbHAzaJA=F99zaNYAzaTTAzcHAzaDDAzcHAzaNNA",
     "zaTAzbHAzaDAzbHAzaNAzaPAzbHAzaBAzbHAzaMAzaTSAzcHAzaDZAzcHAzaWAzaZHAzbAza-AzaYAzaRAzaLAzaSHA",
     "zbSAzbAzaHAzaAzaKSSAzaFIXED-FORM WAzlYAzlRA=FBEiKU RU KHAr BZHI MIG CAN",
     "iCANTILLATION SIGN HEAVY BEATzbLIGHT BEATzbCANG TE-UzbSBUB -CHALiSYMBOL DRIL BUpRDO RJE",
     "pPADMA GDANpRDO RJE RGYA GRAMpPHUR PApNOR BUv NYIS -KHYILwGSUM -KHYILwBZHI -KHYIL",
     "=FCEjIGN RDEL NAG RDEL DKARwGSUMiMARK BSKA- SHOG GI MGO RGYANnMNYAM YIG GI MGO RGYAN",
     "nNYIS TSHEGnINITIAL BRDA RNYING YIG MGO MDUN MAnCLOSING BRDA RNYING YIG MGO SGAB MA",
     "aRIGHT-FACING SVASTI SIGNaLEFT-FACING SVASTI SIGNaRIGHT-FACING SVASTI SIGN WITH DOTS",
     "aLEFT-FACING SVASTI SIGN WITH DOTSaTIBETAN MARK LEADING MCHAN RTAGSnTRAILING MCHAN RTAGS"]

end Inlay.Text
