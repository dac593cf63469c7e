/-
  Inlay.Text.NameTable.OldScripts
  ────────────────────────────────
  **NAMES OF CHARACTERS.**

  The Unicode 14 names of the letters from U+10000 to U+12FFF, in the form that
  `Inlay.Text.CharacterName` reads.
-/

namespace Inlay.Text

/-- The names of the letters from U+10000 to U+12FFF. -/
def oldScriptsNames : String :=
  String.join
    ["=10000aLINEAR B SYLLABLE B008 Au38 Eu28 Iu61 Ou10 Uu01 DAu45 DEu07 DIu14 DOu51 DUv7 JAu46 JE",
     "=1000Du36 JOu65 JUu77 KAu44 KEu67 KIu70 KOu81 KUv0 MAu13 MEu73 MIu15 MOu23 MUu06 NAu24 NE",
     "u30 NIu52 NOv5 NUu03 PAu72 PEu39 PIu11 POu50 PUu16 QAu78 QEu21 QIu32 QO=10028u60 RAu27 RE",
     "u53 RIu02 ROu26 RUu31 SAu09 SEu41 SIu12 SOu58 SUv9 TAu04 TEu37 TIu05 TOu69 TUu54 WAu75 WE",
     "u40 WIv2 WO=1003Cu17 ZAu74 ZE=1003Fu20 ZOv5 A2u43 A3u85 AUu71 DWEu90 DWOu48 NWAu29 PU2",
     "u62 PTEu76 RA2u33 RA3u68 RO2v6 TA2u87 TWEu91 TWO=10050lMBOL B018t9s22s34s47t9s56s63t4s79s82",
     "t3t6t9=10080jIDEOGRAM B100 MANv2 WOMANv4 DEERv5 EQUIDwF MAREwM STALLIONv6F EWEwM RAM",
     "v7F SHE-GOATwM HE-GOATv8F SOWwM BOARv9F COWwM BULLu20 WHEATv1 BARLEYv2 OLIVEv3 SPICE",
     "v5 CYPERUSjMONOGRAM B127 KAPOv8 KANAKOjIDEOGRAM B130 OILv1 WINEv2jMONOGRAM B133 AREPAv5 MERI",
     "jIDEOGRAM B140 BRONZEv1 GOLDv2v5 WOOLv6u50v1 HORNv2v3v4jMONOGRAM B156 TURO2jIDEOGRAM B157v8",
     "v9 CLOTHu60v1v2 GARMENTv3 ARMOURv4v5v6v7v8v9u70v1v2v3 MONTHv4v6 TREEv7v8v9u80v1v2v3v4v5v9u90",
     "v1 HELMETt220 FOOTSTOOLv5 BATHTUBu30 SPEARv1 ARROWv2v3 SWORDv4v6u40 WHEELED CHARIOT",
     "v1 CHARIOTv2 CHARIOT FRAMEv3 WHEELv5v6jMONOGRAM B247 DIPTEjIDEOGRAM B248v9u51v2v3v4 DARTv5v6",
     "v7v8v9sVESSEL B155zb200zd1zd2zd3zd4zd5zd6zd7zd8zd9zc10zd1zd2zd3zd4zd5zd6zd7zd8zd9zc21zd2zd6",
     "zd7zd8zd9zc50zb305=10100aAEGEAN WORD SEPARATOR LINEwDOThCHECK MARK=10107hNUMBER ONEoTWOpHREE",
     "oFOURpIVEoSIXpEVENoEIGHToNINEoTENpWENTYpHIRTYoFORTYpIFTYoSIXTYpEVENTYoEIGHTYoNINETY",
     "oONE HUNDREDoTWO HUNDREDpHREE HUNDREDoFOUR HUNDREDpIVE HUNDREDoSIX HUNDREDpEVEN HUNDRED",
     "oEIGHT HUNDREDoNINE HUNDREDoONE THOUSANDoTWO THOUSANDpHREE THOUSANDoFOUR THOUSAND",
     "pIVE THOUSANDoSIX THOUSANDpEVEN THOUSANDoEIGHT THOUSANDoNINE THOUSANDoTEN THOUSAND",
     "pWENTY THOUSANDpHIRTY THOUSANDoFORTY THOUSANDpIFTY THOUSANDoSIXTY THOUSANDpEVENTY THOUSAND",
     "oEIGHTY THOUSANDoNINETY THOUSAND=10137hWEIGHT BASE UNIToFIRST SUBUNIToSECOND SUBUNIT",
     "oTHIRD SUBUNIToFOURTH SUBUNIThDRY MEASURE FIRST SUBUNIThLIQUID MEASURE FIRST SUBUNIT",
     "hMEASURE SECOND SUBUNITpTHIRD SUBUNITaGREEK ACROPHONIC ATTIC ONE QUARTERzcHALFzcDRACHMAxFIVE",
     "zaFTYzaVE HUNDREDzdTHOUSANDzaFTY THOUSANDzaVE TALENTSxTEN TALENTSxFIFTY TALENTS",
     "xONE HUNDRED TALENTSxFIVE HUNDRED TALENTSxONE THOUSAND TALENTSxFIVE THOUSAND TALENTS",
     "zdSTATERSxTEN STATERSxFIFTY STATERSxONE HUNDRED STATERSxFIVE HUNDRED STATERS",
     "xONE THOUSAND STATERSxTEN THOUSAND STATERSxFIFTY THOUSAND STATERSxTEN MNAS",
     "rHERAEUM ONE PLETHRONrTHESPIAN ONErHERMIONIAN ONErEPIDAUREAN TWOrTHESPIAN TWO",
     "rCYRENAIC TWO DRACHMASrEPIDAUREAN TWO DRACHMASrTROEZENIAN FIVEzdTENzg ALTERNATE FORM",
     "rHERMIONIAN TENrMESSENIAN TENrTHESPIAN TENzcHIRTYsROEZENIAN FIFTYzi ALTERNATE FORM",
     "rHERMIONIAN FIFTYrTHESPIAN FIFTYzbONE HUNDREDzbTHREE HUNDREDrEPIDAUREAN FIVE HUNDRED",
     "rTROEZENIAN FIVE HUNDREDsHESPIAN FIVE HUNDREDrCARYSTIAN FIVE HUNDREDrNAXIAN FIVE HUNDRED",
     "rTHESPIAN ONE THOUSANDzbFIVE THOUSANDrDELPHIC FIVE MNASrSTRATIAN FIFTY MNASgONE HALF SIGN",
     "t ALTERNATE FORMgTWO THIRDS SIGNhHREE QUARTERS SIGNgYEAR SIGNgTALENT SIGNgDRACHMA SIGN",
     "gOBOL SIGNgTWO OBOLS SIGNhHREE OBOLS SIGNgFOUR OBOLS SIGNhIVE OBOLS SIGNgMETRETES SIGN",
     "gKYATHOS BASE SIGNgLITRA SIGNgOUNKIA SIGNgXESTES SIGNgARTABE SIGNiOURA SIGNgGRAMMA SIGN",
     "gTRYBLION BASE SIGNgZERO SIGNgONE QUARTER SIGNgSINUSOID SIGNgINDICTION SIGNaNOMISMA SIGN",
     "=10190aROMAN SEXTANS SIGNgUNCIA SIGNgSEMUNCIA SIGNiXTULA SIGNgDIMIDIA SEXTULA SIGN",
     "gSILIQUA SIGNgDENARIUS SIGNgQUINARIUS SIGNgSESTERTIUS SIGNgDUPONDIUS SIGNgAS SIGN",
     "gCENTURIAL SIGNaASCIA SYMBOL=101A0aGREEK SYMBOL TAU RHO=101D0aPHAISTOS DISC SIGN PEDESTRIAN",
     "uLUMED HEADtTATTOOED HEADtCAPTIVEuHILDtWOMANtHELMETtGAUNTLETtTIARAtARROWtBOWtSHIELDtCLUB",
     "tMANACLESvTTOCKtSAWtLIDtBOOMERANGtCARPENTRY PLANEtDOLIUMtCOMBtSLINGtCOLUMNtBEEHIVEtSHIPtHORN",
     "uIDEtBULLS LEGtCATtRAMtEAGLEtDOVEtTUNNYtBEEtPLANE TREEtVINEtPAPYRUStROSETTEtLILYtOX BACK",
     "tFLUTEtGRATERtSTRAINERuMALL AXEtWAVY BANDtCOMBINING OBLIQUE STROKE=10280aLYCIAN LETTER AoEoB",
     "pHoGoDoIoWoZoTHoJoKoQoLoMoNoMMoNNoUoPoKKoRoSoTpToANoENoHoX=102A0aCARIAN LETTER AoP2oDoLoUUU",
     "oRoLDoA2oQoBoMoOoD2oToSHq2oSoC-18oUoNNoXoNoTT2oPoSSoIoEoUUUUoKp2oNDoUUoGp2oSTq2oNGoIIoC-39",
     "oTToUUU2oRRoMBq2q3q4oLD2oE2oUUU3=102E0bOPTIC EPACT THOUSANDS MARKnDIGIT ONEtTWOuHREEtFOUR",
     "uIVEtSIXuEVENtEIGHTtNINEnNUMBER TENvWENTYvHIRTYuFORTYvIFTYuSIXTYvEVENTYuEIGHTYuNINETY",
     "uONE HUNDREDuTWO HUNDREDvHREE HUNDREDuFOUR HUNDREDvIVE HUNDREDuSIX HUNDREDvEVEN HUNDRED",
     "uEIGHT HUNDREDuNINE HUNDRED=10300aOLD ITALIC LETTER AsBEsKEsDEsEsVEsZEsHEsTHEsIsKAsELtMtNtSH",
     "sOsPEsSHEsKUsERtSsTEsUsEKSsPHEsKHEsEFtRSsCHEsIIsUUsESSlNUMERAL ONEtFIVEtTENtFIFTY",
     "=1032DlLETTER YEsNORTHERN TSEsSOUTHERN TSEaGOTHIC LETTER AHSAoBAIRKANoGIBAoDAGSoAIHVUS",
     "oQAIRTHRAoIUJAoHAGLoTHIUTHoEISoKUSMAoLAGUSoMANNAoNAUTHSoJERoURUSoPAIRTHRAoNINETYoRAIDAoSAUIL",
     "oTEIWSoWINJAoFAIHUoIGGWSoHWAIRoOTHALoNINE HUNDRED=10350aOLD PERMIC LETTER ANsBURsGAIsDOIsE",
     "sZHOIsDZHOIsZATAsDZITAsIsKOKEsLEIsMENOEsNENOEsVOOIsPEEIsREIsSIIsTAIsUsCHERYsSHOOIuCHOOIsYRY",
     "tERUsOtOsEFsHAsTSIUsVERsYERvItATsIEsYUtAsIAaCOMBINING OLD PERMIC LETTER ANzdDOIzdZATAzdNENOE",
     "zdSII=10380aUGARITIC LETTER ALPAqBETAqGAMLAqKHAqDELTAqHOqWOqZETAqHOTAqTETqYODqKAFqSHINqLAMDA",
     "qMEMqDHALqNUNqZUqSAMKAqAINqPUqSADEqQOPAqRASHAqTHANNAqGHAINqTOqIqUqSSU=1039FjWORD DIVIDER",
     "aOLD PERSIAN SIGN ArIrUrKAsUrGAsUrXArCArJAsIrTAsUrDAsIsUrTHArPArBArFArNAsUrMAsIsUrYArVAsIrRA",
     "sUrLArSArZArSHAsSArHA=103C8rAURAMAZDAAzc-2zcHArXSHAAYATHIYArDAHYAAUSHzb-2rBAGAsUUMISH",
     "mWORD DIVIDERmNUMBER ONEtTWOuENuWENTYtHUNDRED=10400aDESERET CAPITAL LETTER LONG IzdEzdAzeH",
     "zdOzeOxSHORT IzeEzeAzfHzeOzfOxAYxOWxWUxYEExHxPEExBEExTEExDEExCHEExJEExKAYxGAYxEFxVEExETH",
     "xTHEExESxZEExESHxZHEExERyLyMyNzaGxOIxEWiSMALL LETTER LONG IzbEzbAzcHzbOzcOvSHORT IzcEzcAzdH",
     "zcOzdOvAYvOWvWUvYEEvHvPEEvBEEvTEEvDEEvCHEEvJEEvKAYvGAYvEFvVEEvETHvTHEEvESvZEEvESHvZHEEvERwL",
     "wMwNxGvOIvEWaSHAVIAN LETTER PEEPpTOTpKICKpFEEpTHIGHpSOqUREpCHURCHpYEApHUNGpBIBpDEADpGAGpVOW",
     "pTHEYpZOOpMEASUREpJUDGEpWOEpHA-HApLOLLpMIMEpIFpEGGpASHqDOpONpWOOLpOUTpAHpROARpNUNpEATpAGE",
     "pICEpUPpOAKqOZEqILpAWEqREpORpAIRpERRpARRAYpEARpIANpYEWaOSMANYA LETTER ALEFpBApTApJApXApKHA",
     "pDEELpRApSAqHIINpDHApCAYNpGApFApQAAFpKAAFpLAANpMIINpNUUNpWAWpHApYApApEpIpOpUpAApEEpOO",
     "=104A0iDIGIT ZEROoONEoTWOpHREEoFOURpIVEoSIXpEVENoEIGHToNINE=104B0cAGE CAPITAL LETTER AwIxNwH",
     "vBRAvCHAvEHCHAvEwINvHAwYAvIvKAvEHKAvKYAvLAvMAvNAvOwINvPAvEHPAvSAwHAvTAvEHTAvTSAvEHTSAvTSHA",
     "vDHAvUvWAvKHAvGHAvZAwHA=104D8gSMALL LETTER AuIvNuHtBRAtCHAtEHCHAtEuINtHAuYAtItKAtEHKAtKYAtLA",
     "tMAtNAtOuINtPAtEHPAtSAuHAtTAtEHTAtTSAtEHTSAtTSHAtDHAtUtWAtKHAtGHAtZAuHA",
     "=10500aELBASAN LETTER ApBEpCEqHEpDEpNDEpDHEpEIpEpFEpGEqJEpHEpIpJEpKEpLEqLEpMEpNEqAqJEpOpPE",
     "pQEpREqREpSEqHEpTEqHEpUpVEpXEpYpZEqHEpGHErAMMApKHE=10530aCAUCASIAN ALBANIAN LETTER ALTzbBET",
     "zbGIMzbDATzbEBzbZARLzbEYNzbZHILzbTASzbCHAzbYOWDzbZHAzbIRBzbSHAzbLANzbINYAzbXEYNzbDYANzbCAR",
     "zbJHOXzbKARzbLYITzbHEYTzbQAYzbAORzbCHOYzdIzcYAYzbMAQzbQARzbNOWCzbDZYAYzbSHAKzbJAYNzbONzbTYAY",
     "zbFAMzbDZAYzbCHATzbPENzbGHEYSzbRATzbSEYKzbVEYZzbTIWRzbSHOYzbIWNzbCYAWzcAYNzbYAYDzbPIWRzbKIW",
     "=1056FtCITATION MARKaVITHKUQI CAPITAL LETTER AyBBEzaEyCEzaHEyDEzaHEyEIyEyFEyGA=1057CyHAzaHA",
     "yIzaJEyJEyKAyLAzaLAyMEyNEzaJEyOyPEyQAyRE=1058CySEzaHEyTEzaHEyUyVEyXE=10594yYyZE",
     "=10597jSMALL LETTER AwBBExEwCExHEwDExHEwEIwEwFEwGA=105A3wHAxHAwIxJEwJEwKAwLAxLAwMEwNExJEwO",
     "wPEwQAwRE=105B3wSExHEwTExHEwUwVEwXE=105BBwYwZE=10600aLINEAR A SIGN AB001s2s3s4s5s6s7s8s9r10",
     "s1s3s6s7r20s1tFtMs2tFtMs3tMs4s6s7s8p028BpB029r30s1s4s7s8s9r40s1s4s5s6s7s8s9r50s1s3s4s5s6s7s8",
     "s9r60s1s5s6s7s9r70s3s4s6s7s8s9r80s1s2s5s6s7p100-102pB118r20p120BpB122s3r31AtBp131CpB164r71",
     "r80s8r91p301r2r3r4r5r6r7r8r9AsBsCq10r1r2r3AsBsCr4r5r6r7r8r9q20r1r2r3r4r5r6r7r8r9q30r1r2r3r4",
     "r5r6r7r8r9q40r1r2r3r4r5r6r7r8r9q50r1r2r3r4r5r6r7r8r9q60r1r2r3r4r5r6r7r8r9q70r1p400-VASr1-VAS",
     "r2-VASr3-VASr4-VASr5-VASr6-VASr7-VASr8-VASr9-VASq10-VASr1-VASr2-VASr3-VASr4-VASr5-VASr6-VAS",
     "r7-VASr8-VASp501r2r3r4r5r6r8r9q10r1r2r3r5r6q20r1r3r4r5r6r7r8r9q30r1r2r4r5r6r7r8r9q40r1r2r5r7",
     "r8r9q50r1r2r3r4r5r6r7r9q63r4r5r6r8r9q70r1r2r3r4r5r6r7r8r9q80r1r2r3r4r5r6r7r8r9q91r2r4r5r6r8",
     "p600r1r2r3r4r6r8r9q10r1r2r3r4r5r6r7r8r9q20r1r2r3r4r6r7r8r9q34r7r8q40r2r3r4r5r6r8r9q51r2r3r4",
     "r5r6r7r8r9q60r1r2r3r4=10740p701 Ar2 Br3 Dr4 Er5 Fr6 Hr7 Jr8 Kr9 Ls-2 L2t3 L3t4 L4t6 L6q10 W",
     "r1 Xr2 Yr3 OMEGAr4 ABBr5 BBr7 DDq26 EYYYq32 JE=10760p800r1r2r3r4r5r6r7",
     "=10780aMODIFIER LETTER SMALL CAPITAL AArUPERSCRIPT TRIANGULAR COLONzdHALF TRIANGULAR COLON",
     "rMALL AEwCAPITAL BwB WITH HOOK=10787wDZ DIGRAPHzh WITH RETROFLEX HOOKznCURLxEZH DIGRAPH",
     "x WITH TAILzeHOOKzi AND TAILwREVERSED EwCLOSED REVERSED OPEN EwFENG DIGRAPHwRAMS HORN",
     "wCAPITAL GwG WITH HOOKwCAPITAL G WITH HOOKwH WITH STROKEwCAPITAL HwHENG WITH HOOK",
     "wDOTLESS J WITH STROKE AND HOOKwLS DIGRAPHxZ DIGRAPHx WITH BELTwCAPITAL L WITH BELT",
     "wL WITH RETROFLEX HOOK AND BELTxEZHzb WITH RETROFLEX HOOKwTURNED Yzf WITH BELTwO WITH STROKE",
     "wCAPITAL OExLOSED OMEGAwQwTURNED R WITH LONG LEGzt AND RETROFLEX HOOKwR WITH TAILzeFISHHOOK",
     "wCAPITAL RwTC DIGRAPH WITH CURLxS DIGRAPHzh WITH RETROFLEX HOOKxESH DIGRAPH",
     "x WITH RETROFLEX HOOKwV WITH RIGHT HOOK=107B2wCAPITAL YqGLOTTAL STOP WITH STROKE",
     "qREVERSED GLOTTAL STOP WITH STROKEqBILABIAL CLICKqDENTAL CLICKqLATERAL CLICKqALVEOLAR CLICK",
     "qRETROFLEX CLICK WITH RETROFLEX HOOKqSMALL S WITH CURL=10800aCYPRIOT SYLLABLE ArErIrOrUrJA",
     "=10808sO=1080ArKAsEsIsOsUrLAsEsIsOsUrMAsEsIsOsUrNAsEsIsOsUrPAsEsIsOsUrRAsEsIsOsUrSAsEsIsOsU",
     "rTAsEsIsOsUrWAsEsIsO=10837rXAsE=1083CrZA=1083FsOaIMPERIAL ARAMAIC LETTER ALEPHyBETHyGIMEL",
     "yDALETHyHEyWAWyZAYINyHETHyTETHyYODHyKAPHyLAMEDHyMEMyNUNySAMEKHyAYINyPEySADHEyQOPHyRESHySHIN",
     "yTAW=10857rSECTION SIGNrNUMBER ONEyTWOzaHREEzaENzaWENTYyONE HUNDREDzdTHOUSANDyTEN THOUSAND",
     "aPALMYRENE LETTER ALEPHrBETHrGIMELrDALETHrHErWAWrZAYINrHETHrTETHrYODHrKAPHrLAMEDHrMEM",
     "rFINAL NUNrNUNrSAMEKHrAYINrPErSADHErQOPHrRESHrSHINrTAWmFT-POINTING FLEURON",
     "kRIGHT-POINTING FLEURONkNUMBER ONErTWOsHREErFOURsIVErTENsWENTYaNABATAEAN LETTER FINAL ALEPH",
     "rALEPHrFINAL BETHrBETHrGIMELrDALETHrFINAL HErHErWAWrZAYINrHETHrTETHrFINAL YODHrYODH",
     "rFINAL KAPHrKAPHrFINAL LAMEDHrLAMEDHrFINAL MEMrMEMrFINAL NUNrNUNrSAMEKHrAYINrPErSADHErQOPH",
     "rRESHrFINAL SHINrSHINrTAW=108A7kNUMBER ONErTWOsHREErFOURkCRUCIFORM NUMBER FOURkNUMBER FIVE",
     "rTENsWENTYrONE HUNDRED=108E0aHATRAN LETTER ALEPHoBETHoGIMELoDALETH-RESHoHEoWAWoZAYNoHETH",
     "oTETHoYODHoKAPHoLAMEDHoMEMoNUNoSAMEKHoAYNoPEoSADHEoQOPH=108F4oSHINoTAW=108FBhNUMBER ONEoFIVE",
     "oTENpWENTYoONE HUNDREDaPHOENICIAN LETTER ALFsBETsGAMLsDELTsHEsWAUsZAIsHETsTETsYODsKAFsLAMD",
     "sMEMsNUNsSEMKsAINsPEsSADEsQOFsROSHsSHINsTAUlNUMBER ONEsTENtWENTYsONE HUNDREDsTWOtHREE",
     "=1091FlWORD SEPARATORaLYDIAN LETTER AoBoGoDoEoVoIoYoKoLoMoNoOoRoSSoToUoFoQoSoTToANoENoLYoNN",
     "oC=1093FhTRIANGULAR MARK=10980aMEROITIC HIEROGLYPHIC LETTER AzeEzeIzeOzeYAzeWAzeBAzg-2zePA",
     "zeMAzeNAzg-2zfEzg-2zeRAzg-2zeLAzeKHAzeHHAzeSAzg-2zfEzeKAzeQAzeTAzg-2zfEzg-2zfOzeDA",
     "wSYMBOL VIDJzi-2jCURSIVE LETTER AyEyIyOyYAyWAyBAyPAyMAyNAzaEyRAyLAyKHAyHHAySAyARCHAIC SAySE",
     "yKAyQAyTAzaEzaOyDA=109BCrFRACTION ELEVEN TWELFTHSzbONE HALFrLOGOGRAM RMTzbIMNrNUMBER ONEyTWO",
     "zaHREEyFOURzaIVEySIXzaEVENyEIGHTyNINEyTENzaWENTYzaHIRTYyFORTYzaIFTYySIXTYzaEVENTY",
     "=109D2yONE HUNDREDyTWO HUNDREDzaHREE HUNDREDyFOUR HUNDREDzaIVE HUNDREDySIX HUNDRED",
     "zaEVEN HUNDREDyEIGHT HUNDREDyNINE HUNDREDyONE THOUSANDyTWO THOUSANDzaHREE THOUSAND",
     "yFOUR THOUSANDzaIVE THOUSANDySIX THOUSANDzaEVEN THOUSANDyEIGHT THOUSANDyNINE THOUSAND",
     "yTEN THOUSANDzaWENTY THOUSANDzaHIRTY THOUSANDyFORTY THOUSANDzaIFTY THOUSANDySIXTY THOUSAND",
     "zaEVENTY THOUSANDyEIGHTY THOUSANDyNINETY THOUSANDyONE HUNDRED THOUSANDyTWO HUNDRED THOUSAND",
     "zaHREE HUNDRED THOUSANDyFOUR HUNDRED THOUSANDzaIVE HUNDRED THOUSANDySIX HUNDRED THOUSAND",
     "zaEVEN HUNDRED THOUSANDyEIGHT HUNDRED THOUSANDyNINE HUNDRED THOUSANDrFRACTION ONE TWELFTH",
     "zbTWO TWELFTHSzcHREE TWELFTHSzbFOUR TWELFTHSzcIVE TWELFTHSzbSIX TWELFTHSzcEVEN TWELFTHS",
     "zbEIGHT TWELFTHSzbNINE TWELFTHSzbTEN TWELFTHSaKHAROSHTHI LETTER AlVOWEL SIGN IwUwVOCALIC R",
     "=10A05wEwO=10A0CrLENGTH MARKlSIGN DOUBLE RING BELOWqANUSVARAqVISARGAlLETTER KAtHAsGAtHA",
     "=10A15sCAtHAsJA=10A19sNYAsTTAuHAsDDAuHAsNNAsTAtHAsDAtHAsNAsPAtHAsBAtHAsMAsYAsRAsLAsVAsSHAtSA",
     "tAsZAsHAsKKAsTTTHAvAsVHA=10A38lSIGN BAR ABOVEqCAUDAqDOT BELOW=10A3FlVIRAMAlDIGIT ONErTWO",
     "sHREErFOURlNUMBER TENtWENTYsONE HUNDREDwTHOUSANDlFRACTION ONE HALF=10A50lPUNCTUATION DOT",
     "xSMALL CIRCLExCIRCLEyRESCENT BARxMANGALAMxLOTUSxDANDAyOUBLE DANDAxLINES",
     "=10A60aOLD SOUTH ARABIAN LETTER HEzaLAMEDHzaHETHzaMEMzaQOPHzaWAWzaSHINzaRESHzaBETHzaTAWzaSAT",
     "zaKAPHzaNUNzaKHETHzaSADHEzcMEKHzaFEzaALEFzbYNzaDHADHEzaGIMELzaDALETHzaGHAYNzaTETHzaZAYN",
     "zaDHALETHzaYODHzaTHAWzcETHsNUMBER ONEzaFIFTYvERIC INDICATOReNORTH ARABIAN LETTER HEHzaLAM",
     "zaHAHzaMEEMzaQAFzaWAWzaES-2zaREHzaBEHzaTEHzaES-1zaKAFzaNOONzaKHAHzaSADzaES-3zaFEHzaALEFzbIN",
     "zaDADzaGEEMzaDALzaGHAINzaTAHzaZAINzaTHALzaYEHzaTHEHzaZAHsNUMBER ONEzaTENzbWENTY",
     "=10AC0aMANICHAEAN LETTER ALEPHsBETHtHETHsGIMELtHIMELsDALETHsHEsWAWlSIGN UDlLETTER ZAYIN",
     "tHAYINsJAYINtHAYINsHETHsTETHsYODHsKAPHsXAPHsKHAPHsLAMEDHsDHAMEDHsTHAMEDHsMEMsNUNsSAMEKHsAYIN",
     "tAYINsPEsFEsSADHEsQOPHsXOPHsQHOPHsRESHsSHINtSHINsTAWlABBREVIATION MARK ABOVEzeBELOW",
     "=10AEBlNUMBER ONEsFIVEsTENtWENTYsONE HUNDREDlPUNCTUATION STARxFLEURONxDOUBLE DOT WITHIN DOT",
     "zaT WITHIN DOTzaTxTWO DOTSxLINE FILLER=10B00aAVESTAN LETTER AqAqOqAOqNqANqErEpEqEpOqOpIqIpU",
     "qUpKEpXEqYEqVEpGEqGEqHEpCEpJEpTEqHEpDEqHEpTTEpPEpFEpBEqHEpNGErYErVEqEqYEqNEpMEpHMEpYYEqEpVE",
     "pREpLEpSEpZEpSHEpZHEpSHYEqSHEpHE=10B39iABBREVIATION MARK",
     "aTINY TWO DOTS OVER ONE DOT PUNCTUATIONaSMALL TWO DOTS OVER ONE DOT PUNCTUATION",
     "aLARGE TWO DOTS OVER ONE DOT PUNCTUATIONgONE DOT OVER TWO DOTS PUNCTUATION",
     "gTWO RINGS OVER ONE RING PUNCTUATIONgONE RING OVER TWO RINGS PUNCTUATION",
     "aINSCRIPTIONAL PARTHIAN LETTER ALEPHzfBETHzfGIMELzfDALETHzfHEzfWAWzfZAYINzfHETHzfTETHzfYODH",
     "zfKAPHzfLAMEDHzfMEMzfNUNzfSAMEKHzfAYINzfPEzfSADHEzfQOPHzfRESHzfSHINzfTAW=10B58xNUMBER ONE",
     "zfTWOzgHREEzfFOURzfTENzgWENTYzfONE HUNDREDzjTHOUSANDqHLAVI LETTER ALEPHzeBETHzeGIMELzeDALETH",
     "zeHEzeWAW-AYIN-RESHzeZAYINzeHETHzeTETHzeYODHzeKAPHzeLAMEDHzeMEM-QOPHzeNUNzeSAMEKHzePEzeSADHE",
     "zfHINzeTAW=10B78wNUMBER ONEzeTWOzfHREEzeFOURzeTENzfWENTYzeONE HUNDREDziTHOUSAND",
     "aPSALTER PAHLAVI LETTER ALEPHxBETHxGIMELxDALETHxHExWAW-AYIN-RESHxZAYINxHETHxYODHxKAPHxLAMEDH",
     "xMEM-QOPHxNUNxSAMEKHxPExSADHEyHINxTAW=10B99qSECTION MARKqTURNED SECTION MARK",
     "qFOUR DOTS WITH CROSSzgDOT=10BA9qNUMBER ONExTWOyHREExFOURxTENyWENTYxONE HUNDRED",
     "=10C00aOLD TURKIC LETTER ORKHON AsYENISEI AzcEsORKHON IsYENISEI IzbEsORKHON OzbEsYENISEI OE",
     "sORKHON ABsYENISEI ABsORKHON AEBsYENISEI AEBsORKHON AGsYENISEI AGsORKHON AEGsYENISEI AEG",
     "sORKHON ADsYENISEI ADsORKHON AEDzaEZsYENISEI EZsORKHON AYsYENISEI AYsORKHON AEYsYENISEI AEY",
     "sORKHON AEKsYENISEI AEKsORKHON OEKsYENISEI OEKsORKHON ALsYENISEI ALsORKHON AELzaELTzbMzaAN",
     "zbENsYENISEI AENsORKHON ENTsYENISEI ENTsORKHON ENCsYENISEI ENCsORKHON ENYsYENISEI ENYzbANG",
     "sORKHON ENGsYENISEI AENGsORKHON EPzaOPzaICzaECsYENISEI ECsORKHON AQsYENISEI AQsORKHON IQ",
     "sYENISEI IQsORKHON OQsYENISEI OQsORKHON ARsYENISEI ARsORKHON AERzbSzbESzbSHsYENISEI ASH",
     "sORKHON ESHsYENISEI ESHsORKHON ATsYENISEI ATsORKHON AETsYENISEI AETsORKHON OTzaBASH",
     "=10C80eHUNGARIAN CAPITAL LETTER AzfAzeEBzeAMBzeECzfNCzfCSzfDzeANDzeEzeCLOSE EzeEEzfFzfGzgY",
     "zfHzeIzfIzeEJzfKzeAKzeUNKzeELzgYzfMzfNzgYzeOzfOzeNIKOLSBURG OEzeRUDIMENTA OEzeOEEzeEPzfMPzfR",
     "zeSHORT ERzeESzgZzfTzfNTzfTYzfCHzeUzfUzeNIKOLSBURG UEzeRUDIMENTA UEzeEVzfZzgS",
     "zfNT-SHAPED SIGNzeUS=10CC0oSMALL LETTER AzdAzcEBzcAMBzcECzdNCzdCSzdDzcANDzcEzcCLOSE EzcEEzdF",
     "zdGzeYzdHzcIzdIzcEJzdKzcAKzcUNKzcELzeYzdMzdNzeYzcOzdOzcNIKOLSBURG OEzcRUDIMENTA OEzcOEEzcEP",
     "zdMPzdRzcSHORT ERzcESzeZzdTzdNTzdTYzdCHzcUzdUzcNIKOLSBURG UEzcRUDIMENTA UEzcEVzdZzeS",
     "zdNT-SHAPED SIGNzcUS=10CFAoNUMBER ONEvFIVEvTENvFIFTYvONE HUNDREDzaTHOUSAND",
     "aHANIFI ROHINGYA LETTER AxBAxPAxTAyTAxJAxCAxHAxKHAxFAxDAyDAxRAyRAxZAxSAyHAxKAxGAxLAxMAxNAxWA",
     "xKINNA WAxYAxKINNA YAxNGAyYAxVAqVOWEL AwIwUwEwOqMARK SAKINvNA KHONNAqSIGN HARBAHAYvTAHALAxNA",
     "xSSI=10D30qDIGIT ZEROwONEwTWOxHREEwFOURxIVEwSIXxEVENwEIGHTwNINE=10E60aRUMI DIGIT ONElTWO",
     "mHREElFOURmIVElSIXmEVENlEIGHTlNINEfNUMBER TENnWENTYnHIRTYmFORTYnIFTYmSIXTYnEVENTYmEIGHTY",
     "mNINETYmONE HUNDREDmTWO HUNDREDnHREE HUNDREDmFOUR HUNDREDnIVE HUNDREDmSIX HUNDRED",
     "nEVEN HUNDREDmEIGHT HUNDREDmNINE HUNDREDfFRACTION ONE HALFsQUARTERsTHIRDoTWO THIRDS",
     "=10E80aYEZIDI LETTER ELIFoBEoPEpHEoTHEoSEoCIMpHIMqHIMoHHAoXAoDALoZALoRApHAoZAoJAoSINpHINpAD",
     "oDADoTAoZEoEYNoXHEYNoFAoVAq ALTERNATE FORMoQAFoKAFpHAFoGAFoLAMoMIMoNUNoUMoWAWoOWoEWoHAYoYOT",
     "oET=10EABhCOMBINING HAMZA MARKrMADDA MARKhHYPHENATION MARK=10EB0hLETTER LAM WITH DOT ABOVE",
     "oYOT WITH CIRCUMFLEX ABOVE=10F00aOLD SOGDIAN LETTER ALEPHtFINAL ALEPHtBETHtFINAL BETHtGIMEL",
     "tHEtFINAL HEtWAWtZAYINtHETHtYODHtKAPHtLAMEDHtMEMtNUNtFINAL NUNzd WITH VERTICAL TAILtSAMEKH",
     "tAYINuLTERNATE AYINtPEtSADHEtFINAL SADHEzf WITH VERTICAL TAILtRESH-AYIN-DALETHtSHINtTAW",
     "tFINAL TAWzd WITH VERTICAL TAILmNUMBER ONEtTWOuHREEtFOURuIVEtTENuWENTYuHIRTYtONE HUNDRED",
     "mFRACTION ONE HALFmLIGATURE AYIN-DALETH=10F30aSOGDIAN LETTER ALEPHpBETHpGIMELpHEpWAWpZAYIN",
     "pHETHpYODHpKAPHpLAMEDHpMEMpNUNpSAMEKHpAYINpPEpSADHEpRESH-AYINpSHINpTAWpFETHpLESH",
     "iINDEPENDENT SHINiCOMBINING DOT BELOWsTWO DOTS BELOWsDOT ABOVEsTWO DOTS ABOVEsCURVE ABOVE",
     "yBELOWsHOOK ABOVExBELOWsLONG HOOK BELOWsRESH BELOWsSTROKE BELOWiNUMBER ONEpTENqWENTY",
     "pONE HUNDREDiPUNCTUATION TWO VERTICAL BARSzm WITH DOTSuCIRCLE WITH DOTuTWO CIRCLES WITH DOTS",
     "uHALF CIRCLE WITH DOT=10F70aOLD UYGHUR LETTER ALEPHsBETHsGIMEL-HETHsWAWsZAYINsFINAL HETH",
     "sYODHsKAPHsLAMEDHsMEMsNUNsSAMEKHsPEsSADHEsRESHsSHINsTAWsLESHlCOMBINING DOT ABOVEzaBELOW",
     "vTWO DOTS ABOVEzfBELOWlPUNCTUATION BARxTWO BARSzcDOTSxFOUR DOTS",
     "=10FB0aCHORASMIAN LETTER ALEPHsSMALL ALEPHsBETHsGIMELsDALETHsHEsWAWsCURLED WAWsZAYINsHETH",
     "sYODHsKAPHsLAMEDHsMEMsNUNsSAMEKHsAYINsPEsRESHsSHINsTAWlNUMBER ONEsTWOtHREEsFOURsTENtWENTY",
     "sONE HUNDRED=10FE0aELYMAIC LETTER ALEPHpBETHpGIMELpDALETHpHEpWAWpZAYINpHETHpTETHpYODHpKAPH",
     "pLAMEDHpMEMpNUNpSAMEKHpAYINpPEpSADHEpQOPHpRESHpSHINpTAWjIGATURE ZAYIN-YODH",
     "=11000aBRAHMI SIGN CANDRABINDUmANUSVARAmVISARGAmJIHVAMULIYAmUPADHMANIYAhLETTER ApAoIpIoUpU",
     "oVOCALIC RxRwLxLoEoAIoOoAUoKApHAoGApHAoNGAoCApHAoJApHAoNYAoTTAqHAoDDAqHAoNNAoTApHAoDApHAoNA",
     "oPApHAoBApHAoMAoYAoRAoLAoVAoSHApSApAoHAoLLAoOLD TAMIL LLLAyRRAyNNNAhVOWEL SIGN AA",
     "sBHATTIPROLU AAsItIsUtUsVOCALIC RzcRzbLzcLsEsAIsOsAUiIRAMAhDANDAiOUBLE DANDAhPUNCTUATION DOT",
     "vUBLE DOTtLINEtCRESCENT BARtLOTUS=11052hNUMBER ONEoTWOpHREEoFOURpIVEoSIXpEVENoEIGHToNINEoTEN",
     "pWENTYpHIRTYoFORTYpIFTYoSIXTYpEVENTYoEIGHTYoNINETYoONE HUNDREDsTHOUSANDhDIGIT ZEROnONEnTWO",
     "oHREEnFOURoIVEnSIXoEVENnEIGHTnNINEhSIGN OLD TAMIL VIRAMAhLETTER OLD TAMIL SHORT EzfO",
     "hVOWEL SIGN OLD TAMIL SHORT EzjOhLETTER OLD TAMIL LLA=1107FhNUMBER JOINER",
     "aKAITHI SIGN CANDRABINDUmANUSVARAmVISARGAhLETTER ApAoIpIoUpUoEoAIoOoAUoKApHAoGApHAoNGAoCApHA",
     "oJApHAoNYAoTTAqHAoDDAqDHAqHAoRHAoNNAoTApHAoDApHAoNAoPApHAoBApHAoMAoYAoRAoLAoVAoSHApSApAoHA",
     "hVOWEL SIGN AAsItIsUtUsEsAIsOsAUhSIGN VIRAMAmNUKTAhABBREVIATION SIGNhENUMERATION SIGN",
     "hNUMBER SIGNhSECTION MARKhDOUBLE SECTION MARKiANDAiOUBLE DANDAhVOWEL SIGN VOCALIC R",
     "=110CDhNUMBER SIGN ABOVE=110D0aSORA SOMPENG LETTER SAHuTAHuBAHuCAHuDAHuGAHuMAHuNGAHuLAHuNAH",
     "uVAHuPAHuYAHuRAHuHAHuKAHuJAHuNYAHuAHuEEHuIHuUHuOHuEHuMAE=110F0nDIGIT ZEROtONEtTWOuHREEtFOUR",
     "uIVEtSIXuEVENtEIGHTtNINE=11100aCHAKMA SIGN CANDRABINDUmANUSVARAmVISARGAhLETTER AAoIoUoEoKAA",
     "pHAAoGAApHAAoNGAAoCAApHAAoJAApHAAoNYAAoTTAAqHAAoDDAAqHAAoNNAAoTAApHAAoDAApHAAoNAAoPAApHAA",
     "oBAApHAAoMAAoYYAApAAoRAAoLAAoWAAoSAAoHAAhVOWEL SIGN AsItIsUtUsEsAIsOsAUsOIhO MARKhAU MARK",
     "hVIRAMAhMAAYYAA=11136hDIGIT ZEROnONEnTWOoHREEnFOURoIVEnSIXoEVENnEIGHTnNINEhSECTION MARK",
     "hDANDAiOUBLE DANDAhQUESTION MARKhLETTER LHAAhVOWEL SIGN AAsEIhLETTER VAA",
     "=11150aMAHAJANI LETTER AqIqUqEqOqKArHAqGArHAqCArHAqJArHAqNYAqTTAsHAqDDAsHAqNNAqTArHAqDArHA",
     "qNAqPArHAqBArHAqMAqRAqLAqVAqSAqHAqRRAjSIGN NUKTAjABBREVIATION SIGNjSECTION MARK",
     "jLIGATURE SHRI=11180aSHARADA SIGN CANDRABINDUnANUSVARAnVISARGAiLETTER AqApIqIpUqUpVOCALIC R",
     "yRxLyLpEpAIpOpAUpKAqHApGAqHApNGApCAqHApJAqHApNYApTTArHApDDArHApNNApTAqHApDAqHApNApPAqHApBA",
     "qHApMApYApRApLAqLApVApSHAqSAqApHAiVOWEL SIGN AAtIuItUuUtVOCALIC RzdRzcLzdLtEtAItOtAU",
     "iSIGN VIRAMAnAVAGRAHAnJIHVAMULIYAnUPADHMANIYAiOMiDANDAjOUBLE DANDAiABBREVIATION SIGN",
     "iSEPARATORjANDHI MARKjIGN NUKTAiVOWEL MODIFIER MARKiEXTRA SHORT VOWEL MARKiSUTRA MARK",
     "iVOWEL SIGN PRISHTHAMATRA EiSIGN INVERTED CANDRABINDUiDIGIT ZEROoONEoTWOpHREEoFOURpIVEoSIX",
     "pEVENoEIGHToNINEiEKAMiSIGN SIDDHAMiHEADSTROKEiCONTINUATION SIGNiSECTION MARK-1v2",
     "=111E1bINHALA ARCHAIC DIGIT ONEwTWOxHREEwFOURxIVEwSIXxEVENwEIGHTwNINEqNUMBER TENyWENTYyHIRTY",
     "xFORTYyIFTYxSIXTYyEVENTYxEIGHTYxNINETYxONE HUNDREDzcTHOUSAND=11200aKHOJKI LETTER ApAoIoUoE",
     "oAIoOoAUoKApHAoGApGApHAoNGAoCApHAoJApJA=11213oNYAoTTAqHAoDDAqHAoNNAoTApHAoDApDDApHAoNAoPApHA",
     "oBApBApHAoMAoYAoRAoLAoVAoSAoHAoLLAhVOWEL SIGN AAsItIsUsEsAIsOsAUhSIGN ANUSVARAmVIRAMAmNUKTA",
     "mSHADDAhDANDAiOUBLE DANDAhWORD SEPARATORhSECTION MARKhDOUBLE SECTION MARKhABBREVIATION SIGN",
     "hSIGN SUKUN=11280aMULTANI LETTER ApIpUpEpKAqHApGA=11288qHA=1128ApCAqHApJAqJA=1128FpNYApTTA",
     "rHApDDArDArHApNNApTAqHApDAqHApNApPAqHApBA=1129FqHApMApYApRApLApVApSApHApRRAqHAiSECTION MARK",
     "=112B0aKHUDAWADI LETTER AsArIsIrUsUrErAIrOrAUrKAsHArGAsGAsHArNGArCAsHArJAsJAsHArNYArTTAtHA",
     "rDDAtDArRRArDDHArNNArTAsHArDAsHArNArPAsHArBAsBAsHArMArYArRArLArVArSHAsArHAkSIGN ANUSVARA",
     "kVOWEL SIGN AAvIwIvUwUvEvAIvOvAUkSIGN NUKTApVIRAMA=112F0kDIGIT ZEROqONEqTWOrHREEqFOURrIVE",
     "qSIXrEVENqEIGHTqNINE=11300aGRANTHA SIGN COMBINING ANUSVARA ABOVEoANDRABINDUnANUSVARAnVISARGA",
     "=11305iLETTER AqApIqIpUqUpVOCALIC RxL=1130FpEEpAI=11313pOOpAUpKAqHApGAqHApNGApCAqHApJAqHA",
     "pNYApTTArHApDDArHApNNApTAqHApDAqHApNA=1132ApPAqHApBAqHApMApYApRA=11332pLAqLA=11335pVApSHAqSA",
     "qApHA=1133BaCOMBINING BINDU BELOWaGRANTHA SIGN NUKTAnAVAGRAHAiVOWEL SIGN AAtIuItUuU",
     "tVOCALIC RzdR=11347tEEtAI=1134BtOOtAUiSIGN VIRAMA=11350iOM=11357iAU LENGTH MARK",
     "=1135DiSIGN PLUTAiLETTER VEDIC ANUSVARAvDOUBLE ANUSVARAqOCALIC RRxLLiVOWEL SIGN VOCALIC LzdL",
     "=11366aCOMBINING GRANTHA DIGIT ZEROyONEyTWOzaHREEyFOURzaIVEySIX=11370sLETTER AzaKAzaNAzaVI",
     "zaPA=11400aNEWA LETTER AnAmInImUnUmVOCALIC RvRuLvLmEmAImOmAUmKAnHAmGAnHAmNGAoHAmCAnHAmJAnHA",
     "mNYAoHAmTTAoHAmDDAoHAmNNAmTAnHAmDAnHAmNAnHAmPAnHAmBAnHAmMAnHAmYAmRAnHAmLAnHAmWAmSHAnSAnAmHA",
     "fVOWEL SIGN AAqIrIqUrUqVOCALIC RzaRyLzaLqEqAIqOqAUfSIGN VIRAMAkCANDRABINDUkANUSVARAkVISARGA",
     "kNUKTAkAVAGRAHAkFINAL ANUSVARAfOMfSIDDHIfDANDAgOUBLE DANDAfCOMMAfGAP FILLER",
     "fABBREVIATION SIGNfDIGIT ZEROlONElTWOmHREElFOURmIVElSIXmEVENlEIGHTlNINEgOUBLE COMMA",
     "fPLACEHOLDER MARK=1145DfINSERTION SIGNfSANDHI MARKfLETTER VEDIC ANUSVARAfSIGN JIHVAMULIYA",
     "kUPADHMANIYA=11480aTIRHUTA ANJIiLETTER AqApIqIpUqUpVOCALIC RyRxLyLpEpAIpOpAUpKAqHApGAqHApNGA",
     "pCAqHApJAqHApNYApTTArHApDDArHApNNApTAqHApDAqHApNApPAqHApBAqHApMApYApRApLApVApSHAqSAqApHA",
     "iVOWEL SIGN AAtIuItUuUtVOCALIC RzdRzcLzdLtEtSHORT EtAItOtSHORT OtAUiSIGN CANDRABINDU",
     "nANUSVARAnVISARGApRAMAnNUKTAnAVAGRAHAiGVANGiABBREVIATION SIGNiOM=114D0iDIGIT ZEROoONEoTWO",
     "pHREEoFOURpIVEoSIXpEVENoEIGHToNINE=11580aSIDDHAM LETTER AqApIqIpUqUpVOCALIC RyRxLyLpEpAIpO",
     "pAUpKAqHApGAqHApNGApCAqHApJAqHApNYApTTArHApDDArHApNNApTAqHApDAqHApNApPAqHApBAqHApMApYApRApLA",
     "pVApSHAqSAqApHAiVOWEL SIGN AAtIuItUuUtVOCALIC RzdR=115B8tEtAItOtAUiSIGN CANDRABINDUnANUSVARA",
     "nVISARGApRAMAnNUKTAnSIDDHAMiDANDAjOUBLE DANDAiSEPARATOR DOTsBARiREPETITION MARK-1y2y3",
     "iEND OF TEXT MARKiSECTION MARK WITH TRIDENT AND U-SHAPED ORNAMENTSznDOTTED CRESCENTS",
     "zbRAYS AND DOTTED CRESCENTSzrDOUBLE CRESCENTSzrTRIPLE CRESCENTSvDOUBLE RINGzh WITH RAYS",
     "vWITH DOUBLE CRESCENTSzbTRIPLE CRESCENTSzbQUADRUPLE CRESCENTSzbSEPTUPLE CRESCENTS",
     "zbCIRCLES AND RAYSznTWO ENCLOSURESznFOUR ENCLOSURESiLETTER THREE-CIRCLE ALTERNATE I",
     "qWO-CIRCLE ALTERNATE IzmIpALTERNATE UiVOWEL SIGN ALTERNATE UzfU=11600aMODI LETTER AnAmInImU",
     "nUmVOCALIC RvRuLvLmEmAImOmAUmKAnHAmGAnHAmNGAmCAnHAmJAnHAmNYAmTTAoHAmDDAoHAmNNAmTAnHAmDAnHA",
     "mNAmPAnHAmBAnHAmMAmYAmRAmLAmVAmSHAnSAnAmHAmLLAfVOWEL SIGN AAqIrIqUrUqVOCALIC RzaRyLzaLqEqAI",
     "qOqAUfSIGN ANUSVARAkVISARGAmRAMAkARDHACANDRAfDANDAgOUBLE DANDAfABBREVIATION SIGNfSIGN HUVA",
     "=11650fDIGIT ZEROlONElTWOmHREElFOURmIVElSIXmEVENlEIGHTlNINE",
     "=11660cNGOLIAN BIRGA WITH ORNAMENTkROTATED BIRGAkDOUBLE BIRGA WITH ORNAMENT",
     "kTRIPLE BIRGA WITH ORNAMENTkBIRGA WITH DOUBLE ORNAMENTkROTATED BIRGA WITH ORNAMENT",
     "zeDOUBLE ORNAMENTkINVERTED BIRGAy WITH DOUBLE ORNAMENTkSWIRL BIRGAv WITH ORNAMENT",
     "zcDOUBLE ORNAMENTkTURNED SWIRL BIRGA WITH DOUBLE ORNAMENT=11680aTAKRI LETTER AoAnIoInUoUnE",
     "nAInOnAUnKAoHAnGAoHAnNGAnCAoHAnJAoHAnNYAnTTApHAnDDApHAnNNAnTAoHAnDAoHAnNAnPAoHAnBAoHAnMAnYA",
     "nRAnLAnVAnSHAoAnHAnRRAgSIGN ANUSVARAlVISARGAgVOWEL SIGN AArIsIrUsUrErAIrOrAUgSIGN VIRAMA",
     "lNUKTAgLETTER ARCHAIC KHAgABBREVIATION SIGN=116C0gDIGIT ZEROmONEmTWOnHREEmFOURnIVEmSIXnEVEN",
     "mEIGHTmNINE=11700aAHOM LETTER KAnHAmNGAnAmTAmALTERNATE TAmPAnHAmBAmMAmJAmCHAmTHAmRAmLAmSA",
     "mNYAmHAmAmDAnHAmGAmALTERNATE GAmGHAmBHAmJHAmALTERNATE BA=1171DfCONSONANT SIGN MEDIAL LAzcRA",
     "zcLIGATING RAfVOWEL SIGN ArAqIrIqUrUqEqAWqOqAIrMfSIGN KILLER=11730fDIGIT ZEROlONElTWOmHREE",
     "lFOURmIVElSIXmEVENlEIGHTlNINEfNUMBER TENnWENTYfSIGN SMALL SECTIONlECTIONkRULAIgYMBOL VI",
     "fLETTER CAmTTAoHAmDDAoHAmNNAmLLA=11800aDOGRA LETTER AoAnIoInUoUnEnAInOnAUnKAoHAnGAoHAnNGAnCA",
     "oHAnJAoHAnNYAnTTApHAnDDApHAnNNAnTAoHAnDAoHAnNAnPAoHAnBAoHAnMAnYAnRAnLAnVAnSHAoSAoAnHAnRRA",
     "gVOWEL SIGN AArIsIrUsUrVOCALIC RzbRrErAIrOrAUgSIGN ANUSVARAlVISARGAnRAMAlNUKTA",
     "gABBREVIATION SIGN=118A0aWARANG CITI CAPITAL LETTER NGAAzcAzcWIzcYUzdAzdOzcIIzcUUzcEzcOzcANG",
     "zcGAzcKOzcENYzcYUJzcUCzcENNzcODDzcTTEzcNUNGzcDAzcATzdMzcBUzcPUzcHIYOzdOLOzeRRzdARzcSSUUzdII",
     "zcVIYOmSMALL LETTER NGAAzaAzaWIzaYUzbAzbOzaIIzaUUzaEzaOzaANGzaGAzaKOzaENYzaYUJzaUCzaENNzaODD",
     "zaTTEzaNUNGzaDAzaATzbMzaBUzaPUzaHIYOzbOLOzcRRzbARzaSSUUzbIIzaVIYOmDIGIT ZEROsONEsTWOtHREE",
     "sFOURtIVEsSIXtEVENsEIGHTsNINEmNUMBER TENuWENTYuHIRTYtFORTYuIFTYtSIXTYuEVENTYtEIGHTYtNINETY",
     "=118FFmOMaDIVES AKURU LETTER AuAtIuItUuUtE=11909tO=1190CtKAuHAtGAuHAtNGAtCAuHAtJA=11915tNYA",
     "tTTA=11918tDDAvHAtNNAtTAuHAtDAuHAtNAtPAuHAtBAuHAtMAtYAuYAtRAtLAtVAtSHAuSAuAtHAtLLAtZA",
     "mVOWEL SIGN AAxIyIxUyUxE=11937xAIxO=1193BmSIGN ANUSVARArCANDRABINDUrHALANTAmVIRAMA",
     "mPREFIXED NASAL SIGNmMEDIAL YAmINITIAL RAmMEDIAL RAmSIGN NUKTAmDOUBLE DANDAmGAP FILLER",
     "mEND OF TEXT MARK=11950mDIGIT ZEROsONEsTWOtHREEsFOURtIVEsSIXtEVENsEIGHTsNINE",
     "=119A0aNANDINAGARI LETTER AuAtIuItUuUtVOCALIC RzdR=119AAtEtAItOtAUtKAuHAtGAuHAtNGAtCAuHAtJA",
     "uHAtNYAtTTAvHAtDDAvHAtNNAtTAuHAtDAuHAtNAtPAuHAtBAuHAtMAtYAtRAtLAtVAtSHAuSAuAtHAtLLAtRRA",
     "mVOWEL SIGN AAxIyIxUyUxVOCALIC RzhR=119DAxExAIxOxAUmSIGN ANUSVARArVISARGAtRAMArAVAGRAHA",
     "rSIDDHAMmHEADSTROKEmVOWEL SIGN PRISHTHAMATRA E=11A00aZANABAZAR SQUARE LETTER ArVOWEL SIGN I",
     "zdUEzdUzdEzdOEzdOzdAIzeUzdREVERSED IxLENGTH MARKrLETTER KAzaHAyGAzaHAyNGAyCAzaHAyJAyNYAyTTA",
     "zbHAyDDAzbHAyNNAyTAzaHAyDAzaHAyNAyPAzaHAyBAzaHAyMAyTSAzbHAyDZAzbHAyZHAzaAy-AyYAyRAyLAyVAySHA",
     "zaSAzaAyHAyKSSArFINAL CONSONANT MARKrSIGN VIRAMAwCANDRABINDUzi WITH ORNAMENTzd WITH ORNAMENT",
     "wANUSVARAwVISARGArCLUSTER-INITIAL LETTER RAzaFINAL LETTER YAznRAznLAznVArINITIAL HEAD MARK",
     "rCLOSING HEAD MARKrMARK TSHEGwSHADwDOUBLE SHADwLONG TSHEGrINITIAL DOUBLE-LINED HEAD MARK",
     "rCLOSING DOUBLE-LINED HEAD MARKrSUBJOINER=11A50aSOYOMBO LETTER AiVOWEL SIGN ItUEtUtEtOuEtAI",
     "uUtVOCALIC RzcLoLENGTH MARKiLETTER KAqHApGAqHApNGApCAqHApJAqHApNYApTTArHApDDArHApNNApTAqHA",
     "pDAqHApNApPAqHApBAqHApMApTSArHApDZApZHAqAp-ApYApRApLApVApSHAqSAqApHApKSSAiSIGN JIHVAMULIYA",
     "nUPADHMANIYAiCLUSTER-INITIAL LETTER RAzgLAzgSHAzhAiFINAL CONSONANT SIGN GzeKzeNGzeDzeNzeBzeM",
     "zeRzeLzeSHzeSze-AiSIGN ANUSVARAnVISARGAiGEMINATION MARKiSUBJOINERiMARK TSHEGnSHAD",
     "nDOUBLE SHADnPLUTAiHEAD MARK WITH MOON AND SUN AND TRIPLE FLAMEzpFLAMEzjNiTERMINAL MARK-1w2",
     "=11AB0aCANADIAN SYLLABICS NATTILIK HIzfIzeOzfOzeAzfAzdSHRIzhIzgOzhOzgAzhAtSPEvIvOvA",
     "aPAU CIN HAU LETTER PAtKAtLAtMAtDAtZAtVAtNGAtHAtGAtKHAtSAtBAtCAtTAuHAtNAtPHAtRAtFAtCHAtAtEtI",
     "tOtUuAtIAtFINAL PzaKzaTzaMzaNzaLzaWzaNGzaYmRISING TONE LONGwEmSANDHI GLOTTAL STOP",
     "mRISING TONE LONG FINALyFINALmSANDHI GLOTTAL STOP FINALtTONE LONGwEx LONG FINALyFINAL",
     "mMID-LEVEL TONEmGLOTTAL STOP VARIANTmMID-LEVEL TONE LONG FINALzcFINALmLOW-FALLING TONE LONG",
     "zcEmGLOTTAL STOPmLOW-FALLING TONE LONG FINALzeFINALmGLOTTAL STOP FINAL",
     "=11C00aBHAIKSUKI LETTER AsArIsIrUsUrVOCALIC RzbRzaL=11C0ArErAIrOrAUrKAsHArGAsHArNGArCAsHArJA",
     "sHArNYArTTAtHArDDAtHArNNArTAsHArDAsHArNArPAsHArBAsHArMArYArRArLArVArSHAsSAsArHA",
     "kVOWEL SIGN AAvIwIvUwUvVOCALIC RzfRzeL=11C38vEvAIvOvAUkSIGN CANDRABINDUpANUSVARApVISARGA",
     "rRAMApAVAGRAHAkDANDAlOUBLE DANDAkWORD SEPARATORkGAP FILLER-1v2=11C50kDIGIT ZEROqONEqTWOrHREE",
     "qFOURrIVEqSIXrEVENqEIGHTqNINEkNUMBER ONErTWOsHREErFOURsIVErSIXsEVENrEIGHTrNINErTENsWENTY",
     "sHIRTYrFORTYsIFTYrSIXTYsEVENTYrEIGHTYrNINETYkHUNDREDS UNIT MARK=11C70aMARCHEN HEAD MARK",
     "iMARK SHADiLETTER KAqHApGApNGApCAqHApJApNYApTAqHApDApNApPAqHApBApMApTSArHApDZApWApZHAqAp-A",
     "pYApRApLApSHAqApHApA=11C92iSUBJOINED LETTER KAzbHAzaGAzaNGAzaCAzbHAzaJAzaNYAzaTAzbHAzaDAzaNA",
     "zaPAzbHAzaBAzaMAzaTSAzcHAzaDZAzaWAzaZHAzbA=11CA9zaYAzaRAzaLAzaSHAzbAzaHAzaAiVOWEL SIGN AAtI",
     "tUtEtOiSIGN ANUSVARAnCANDRABINDU=11D00cSARAM GONDI LETTER AwAvIwIvUwUvE=11D08vAIvO=11D0BvAU",
     "vKAwHAvGAwHAvNGAvCAwHAvJAwHAvNYAvTTAxHAvDDAxHAvNNAvTAwHAvDAwHAvNAvPAwHAvBAwHAvMAvYAvRAvLAvVA",
     "vSHAwSAwAvHAvLLAvKSSAvJNYAvTRAoVOWEL SIGN AAzaIzbIzaUzbUzaVOCALIC R=11D3AzaE=11D3CzaAIzaO",
     "=11D3FzaAUoSIGN ANUSVARAtVISARGAtNUKTAtCANDRAtHALANTAoVIRAMAoREPHApA-KARA=11D50oDIGIT ZERO",
     "uONEuTWOvHREEuFOURvIVEuSIXvEVENuEIGHTuNINE=11D60aGUNJALA GONDI LETTER AwAvIwIvUwU=11D67vEE",
     "vAI=11D6AvOOvAUvYAvVAvBAwHAvMAvKAwHAvTAwHAvLAvGAwHAvDAwHAvNAvCAwHAvTTAxHAvLLAvJAwHAvDDAxHA",
     "vNGAvPAwHAvHAvRAvSAoVOWEL SIGN AAzaIzbIzaUzbU=11D90zaEEzaAI=11D93zaOOzaAUoSIGN ANUSVARA",
     "tVISARGAoVIRAMAoOM=11DA0oDIGIT ZEROuONEuTWOvHREEuFOURvIVEuSIXvEVENuEIGHTuNINE",
     "=11EE0aMAKASAR LETTER KApGApNGApPApBApMApTApDApNApCApJApNYApYApRApLApVApSApAiANGKA",
     "iVOWEL SIGN ItUtEtOiPASSIMBANGiEND OF SECTION=11FB0aLISU LETTER YHA",
     "=11FC0aTAMIL FRACTION ONE THREE-HUNDRED-AND-TWENTIETHtONE-HUNDRED-AND-SIXTIETHtEIGHTIETH",
     "tSIXTY-FOURTHtFORTIETHtTHIRTY-SECONDpTHREE EIGHTIETHSvSIXTY-FOURTHSpONE TWENTIETH",
     "tSIXTEENTH-1ze2tTENTHtEIGHTHpTHREE TWENTIETHSvSIXTEENTHSpONE FIFTHtQUARTERtHALF-1y2",
     "pTHREE QUARTERSpDOWNSCALING FACTOR KIIZHgSIGN NELlCEVITUlAAZHAAKKUlUZHAKKUlMUUVUZHAKKU",
     "lKURUNIlPATHAKKUlMUKKURUNIlKAACUlPANAMmONlVARAAKANlPAARAMlKUZHIlVELIgWET CULTIVATION SIGN",
     "gDRY CULTIVATION SIGNgLAND SIGNgSALT PAN SIGNgTRADITIONAL CREDIT SIGNsNUMBER SIGN",
     "gCURRENT SIGNgAND ODD SIGNgSPENT SIGNgTOTAL SIGNgIN POSSESSION SIGNgSTARTING FROM SIGN",
     "hIGN MUTHALIYAlVAKAIYARAA=11FFFgPUNCTUATION END OF TEXTaCUNEIFORM SIGN Aq TIMES AxBAD",
     "xGAN2 TENUxHAxIGIxLAGAR GUNUxMUSHxSAGq2qBr TIMES ASH2yDUN3 GUNUyGALzbN2 TENUyHAyIGI GUNU",
     "zaMINyLAGABySHESHyU PLUS U PLUS UsGUNUr2s TIMES BALAGzaGAN2 TENUzaME PLUS ENzaSHA3zaTAK4qDqK",
     "r TIMES ERIN2ySHITA PLUS GISHqLr TIMES ALyDIM2yGISHyHAyKAD3zaIySHEyUSHrANrEPHqMARt TIMES SHE",
     "qNr OVER ANsTHREE TIMESsPLUS NAGA OPPOSING AN PLUS NAGAzdSQUAREDrSHEqPINqRADt TIMES KURrKAB",
     "qSAL2rHs ZIDA TENUtKABA TENUtOVER ASH TUG2 OVER TUG2 TUG2 OVER TUG2 PAPzdOVER ASH",
     "zl CROSSING ASH OVER ASH OVER ASHs2sGABpBArDrG3rHAR2rLs OVER BALsAGrRsA2qIr TIMES AyGAR",
     "yIGI GUNUqUr OVER BU ABzbUNsCROSSING BUrLUGu OVER BULUGrRs2pDArGs KISIM5 TIMES A PLUS MASH",
     "ziMARzhBALAGziIzhGAzj PLUS MASHziIzjR2ziUDzhHAzhIRzj PLUS LUzhKAKzhLAziUzj PLUS MASH2zjMzhNE",
     "zhPAP PLUS PAPzhSIzhTAK4zhU2 PLUS GIR2ziSHrMrRsA3t4qIrBrMs TIMES SHEs2rNs KASKAL U GUNU DISH",
     "rSHqUr OVER DUsGUNUsSHESHIGrBs TIMES ESH2s2rGsUDrHrNs3t GUNUy GUNUs4rR2pEq TIMES PAP",
     "rOVER E NUN OVER NUNq2r TIMES A PLUS HA PLUS DAyGARyMIySALzaHEyUqDINqGIRqLqNr TIMES GAN2",
     "zd TENUyMEsCROSSING ENsOPPOSING ENsSQUAREDqRENrIN2qSH2qZENt TIMES Azc PLUS LALzl TIMES LAL",
     "zcNzbBADzbDUN3 GUNUzk GUNUzbHAzd GUNUzbIGI GUNUzbKASKALzh SQUAREDzcU3zbLAzdL TIMES LALzcIzcU",
     "zbU2zcDpGAr GUNUr2s TIMES A PLUS DA PLUS HAzhHAzhIGIzbB2 TENU PLUS TABzbNzbSHzd2 PLUS GAL",
     "zaBADzcR PLUS RAzbURzd PLUS RAzaDAzbIzcM TIMES SHEzbUBzaELzc PLUS LAzbNzc TIMES GAN2 TENU",
     "zaGAN2 TENUzcRzbIzc4zd PLUS AzcR2 PLUS SUzaHA PLUS LU PLUS ESH2zcLzd PLUS LAzbI PLUS LIzbUB2",
     "zaIGI GUNUzbSH PLUS HU PLUS ASHzaKAKzcSKALzbIDzd PLUS LALzbU3 PLUS ANzaLAzaME PLUS ENzbI",
     "zaNUNzd OVER NUNzaPAzaSALzcRzbHEzd PLUS TURzcIDzbUMzaTAK4zaUzbDzc PLUS DUtOVER GA2rBA",
     "t CROSSING GABArDs OVER GAD GAR OVER GARrLs GAD OVER GAD GAR OVER GARsAMrMrNs2t TENU",
     "uOVER GAN2uCROSSING GAN2rRs3rSHANqESHTINw TIMES KURqIr TIMES EyUsCROSSING GIr4s OVER GI4",
     "tCROSSING GI4rDIMrR2t GUNUs3t TIMES A PLUS IGIzbGAN2 TENUzbIGIzbLU PLUS IGIzbPArSALsH",
     "t CROSSING GISHuTIMES BADzbTAK4vENUqUr CROSSING GUr2s TIMES KAKzd TIMES IGI GUNUzaNUN",
     "zaSAL PLUS TUG2tGUNUrDs TIMES A PLUS KURzaKURtOVER GUD LUGALrLrMs TIMES SHErRs7sUNtSHpHA",
     "r TENUsGUNUrLqIr TIMES ASHzc2yBADyDISHyGADyKINyNUNySHEyUqUrB2t TIMES ANzbHALzbKASKALzbLISH",
     "zbUDrL2pIq AqBqDIMt OVER IDIM BURzfSQUAREDqGrIs DIBtRItOVER IGI SHIR OVER SHIR UD OVER UD",
     "tGUNUqLr TIMES GAN2 TENUr2qMr TIMES TAK4sCROSSING IMsOPPOSING IMsSQUAREDrINqNqRqSHpKA",
     "r TIMES AzaDzb PLUS KU3zaSH2yBADzbLAGzbRzaIyERIN2zaSH2yGAzbLzbN2 TENUzbRzc PLUS SHA3 PLUS A",
     "zaIzbR2zbSH PLUS SARzeCROSSING GISHzaUzbR7yIGIzaMyKAKzaIzbDyLIzaUyMEzb PLUS DUzhGIzhTEzaI",
     "zb PLUS NUNUZyNEzaUNyPIyRUySAzbRzaHAzbEzbIDzbUzaIGzaUHURyTARyUza2zaDzaMUM TIMES PAzaSHyZIr2",
     "s CROSSING KA2rBrD2s3s4s5t OVER KAD5rKs TIMES IGI GUNUrLs TIMES BADtCROSSING KALrM2s4rSKAL",
     "v LAGAB TIMES U OVER LAGAB TIMES UwOVER KASKAL LAGAB TIMES U OVER LAGAB TIMES UqESH2qI",
     "r TIMES BADyUzaDrDrNrSALsHsIM5v OVER KISIM5qUr OVER HI TIMES ASH2 KU OVER HI TIMES ASH2r3r4",
     "s VARIANT FORMr7rLs GUNUrNrRs OPPOSING KURrSHU2qWU318pLArGABu TIMES Azd PLUS DA PLUS HAzjGAR",
     "zjLALzdLzdNzdSH ZIDA TENUzcBADzdIzcDARzcENzcGAzeRzdUDzf PLUS GUDzcHAzeLzdI TIMES NUN",
     "zcIGI GUNUzdMze PLUS HAzkLUzcKIzeNzdU3zeLzf PLUS HI PLUS AzcLAGABzdISHzdUzeLzcMEze PLUS EN",
     "zdUSHzcNEzcSHE PLUS SUMzeITA PLUS GISH PLUS ERIN2zsTENUzeU2zg PLUS SHU2zdUMzcTAGzeK4",
     "zdE PLUS A PLUS SU PLUS NAzcUzd PLUS AzjU PLUS Uzd2 PLUS ASHzdDzdSHvSQUAREDtRu TIMES SHE",
     "zf PLUS SUMvGUNUza OVER LAGAR GUNU SHErHSHUrLs TIMES LALrMs TIMES KURzd PLUS RUqIrLrMMU2rSH",
     "qUr TIMES BADr2s TIMES ALzaBADzaESH2ze TENUzaGAN2 TENUzaHI TIMES BADzaIMzaKAD2zd3ze PLUS ASH",
     "zbIzaLA PLUS ASHzcGABzaME PLUS ENzaNEzbUzaSI PLUS ASHzcK2 PLUS BUzaTUG2uENUtCROSSING LU2",
     "tOPPOSING LU2tSQUAREDuHESHIGr3rGALu OVER LUGALwPPOSING LUGALvSHESHIGrHrLrMs OVER LUM",
     "zc GAR OVER GARpMAr TIMES TAK4sGUNUr2rHrRrSHt2qErSqIrNqUr OVER MUrGs GUNUrNSUBrRGU2rSH",
     "t TIMES AzbKURzbZAuOVER MUSHze TIMES A PLUS NAuCROSSING MUSHt3u TIMES Azd PLUS DIzcDIvGUNU",
     "pNAr2rGAt INVERTEDuTIMES SHU TENUuOPPOSING NAGAtRrM NUTILLUrMs2qEr TIMES AyUDsSHESHIGqI",
     "r TIMES Er2rMs TIMES GAN2 TENUzcR PLUS GAN2 TENUrNDA2v TIMES ANzeSHzg PLUS ASHzdGUD",
     "zdME PLUS GAN2 TENUzdNEzeUNzdSHEzg PLUS A ANznSHzp PLUS ASHzdU2 PLUS ASHzeSHrSAGqUr11rN",
     "s LAGAR TIMES GARzgMASHzgSALzj OVER NUN LAGAR TIMES SALzgUSHtTENUtOVER NUNtCROSSING NUN",
     "zg LAGAR OVER LAGARsUZu AB2 TIMES ASHGABzgBIzgDUGzgGUDzgIGI GUNUzgKAD3zgLAzgNEzgSILA3zgU2",
     "vKISIM5 TIMES BIzl UpPArDrNrPqESH2qIr TIMES AzaByBIzaUyEyIzaByUza2sCROSSING PIrRIG",
     "u TIMES KALzcUDzcZAvOPPOSING PIRIGpRArBqIqUpSArG NUTILLUrGs TIMES AzaDUzcBzaHAzaKAKzbURzaLUM",
     "zaMIzaNUNzaSALzbHIDzaTABzaU2zbBzbMzbRzbSHtOVER SAGtGUNUrLs LAGAB TIMES ASH2rNGA2rRqHAs3",
     "t TIMES AzbBADzbGISHzbNEzbSHU2zbTURzbUzc PLUS As6sB6sR2rEs HU",
     "tOVER SHE GAD OVER GAD GAR OVER GARzdTAB OVER TAB GAR OVER GARsG9sNsSHu2uLAMrIDt TIMES AzbIM",
     "sMt TIMES AzbBALzcULUGzbDINzbGARzbIGIze GUNUzbKUSHU2zbLULzbMUGzbSALsNIGsRt TENU",
     "uOVER SHIR BUR OVER BURsTArUs OVER INVERTED SHUs2sBURqIr GUNUrGs4t OVER SIG4 SHU2rK2rLA3qU",
     "r OVER SUrDs2rHURrMsASHrRs9pTAr ASTERISKsTIMES HIyMIsGUNUrB",
     "s OVER TAB NI OVER NI DISH OVER DISHtSQUAREDrGs TIMES BIzaGUDzaSHEzcUzaTUG2zaUDrK4rRqEr GUNU",
     "qIr TENUrLrRs TIMES TAK4tOVER TIRzc GAD OVER GAD GAR OVER GARqUrG2rKrMrR",
     "s OVER TUR ZA OVER ZApUq GUDrU UrOVER U PA OVER PA GAR OVER GARySUR OVER SUR",
     "yU REVERSED OVER U REVERSEDq2qBqDr KUSHU2sTIMES BADyMIyU PLUS U PLUS Uzo GUNUsGUNUsSHESHIG",
     "za TIMES BADrUGqMr TIMES LAGAByME PLUS DAySHA3yUrBINrUMt TIMES KASKALzbPAqNr GUNUqR",
     "r CROSSING URsSHESHIGr2s TIMES A PLUS HAzhNAzbLzaHAzaNUNzaU2zc PLUS ASHziBIr4rIs3rUs TIMES A",
     "zbSHGABzaBARzaDUNzaGAzcLzcN2 TENUzcRzbUzaHAzaIGIzbMzbSHzaKIzaLUMzaMINzaPAzaSHEzbIG4zaTU",
     "zaU PLUS GUDzbDzbRUDAsDAu TIMES UqSHs TIMES AzaKUzcRzaTAK4sXs2sUMXqTUKIqZ3s TIMES KASKALrU",
     "pZAr TENUsSQUARED TIMES KURrGrMXqE2qIr OVER ZIr3rBs KABA TENUrGrZ2qUr5s TIMES ArBURrM",
     "pKAP ELAMITEpAB TIMES NUNr2 TIMES AqMAR TIMES KUGpDAG KISIM5 TIMES U2 PLUS MASHs3",
     "qISH PLUS SHUqUB TIMES SHEpEZEN TIMES GUDzbSHEpGA2 TIMES AN PLUS KAK PLUS AzbSH2qE22qIGpHUSH",
     "pKA TIMES ANSHEzaSH3yGISHzaUDyHI TIMES ASH2yLUMyPAySHULyTUyUR2pLAGAB TIMES GI",
     "qU2 SHESHIG TIMES BADtTIMES ESH2 PLUS LALzaSHUpMESHqUSH3 TIMES ZApNA4qINs9sDA2 TIMES BALzdGI",
     "qU11 ROTATED NINETY DEGREESpPESH2 ASTERISKqIR2pSAG TIMES IGI GUNUpTI2pUM TIMES MEq U",
     "=12400kNUMERIC SIGN TWO ASHyHREE ASHxFOUR ASHyIVE ASHxSIX ASHyEVEN ASHxEIGHT ASHxNINE ASH",
     "xTHREE DISHxFOUR DISHyIVE DISHxSIX DISHyEVEN DISHxEIGHT DISHxNINE DISHxFOUR UyIVE UxSIX U",
     "yEVEN UxEIGHT UxNINE UxONE GESH2xTWO GESH2yHREE GESH2xFOUR GESH2yIVE GESH2xSIX GESH2",
     "yEVEN GESH2xEIGHT GESH2xNINE GESH2xONE GESHUxTWO GESHUyHREE GESHUxFOUR GESHUyIVE GESHU",
     "xTWO SHAR2yHREE SHAR2zj VARIANT FORMxFOUR SHAR2yIVE SHAR2xSIX SHAR2yEVEN SHAR2xEIGHT SHAR2",
     "xNINE SHAR2xONE SHARUxTWO SHARUyHREE SHARUzj VARIANT FORMxFOUR SHARUyIVE SHARU",
     "xSHAR2 TIMES GAL PLUS DISHztMINxONE BURUxTWO BURUyHREE BURUzi VARIANT FORMxFOUR BURU",
     "yIVE BURUxTHREE VARIANT FORM ESH16zu21xFOUR VARIANT FORM LIMMUzv4zv AzwB",
     "xSIX VARIANT FORM ASH9yEVEN VARIANT FORM IMIN3zv AzwBxEIGHT VARIANT FORM USSUzv3",
     "xNINE VARIANT FORM ILIMMUzw3zw4zw AxTWO ASH TENUyHREE ASH TENUxFOUR ASH TENUyIVE ASH TENU",
     "xSIX ASH TENUxONE BAN2xTWO BAN2yHREE BAN2xFOUR BAN2zh VARIANT FORMyIVE BAN2zh VARIANT FORM",
     "xNIGIDAMINzeESHxONE ESHE3xTWO ESHE3xONE THIRD DISHxTWO THIRDS DISHxFIVE SIXTHS DISH",
     "xONE THIRD VARIANT FORM AxTWO THIRDS VARIANT FORM AxONE EIGHTH ASHzcQUARTER ASH",
     "yLD ASSYRIAN ONE SIXTHzpQUARTERyNE QUARTER GURzcHALF GURxELAMITE ONE THIRDzgTWO THIRDS",
     "zgFORTYzhIFTYxFOUR U VARIANT FORMyIVE U VARIANT FORMxSIX U VARIANT FORMyEVEN U VARIANT FORM",
     "xEIGHT U VARIANT FORMxNINE U VARIANT FORM=12470kPUNCTUATION SIGN OLD ASSYRIAN WORD DIVIDER",
     "zcVERTICAL COLONzcDIAGONAL COLONzlTRICOLONzlQUADCOLON=12480kSIGN AB TIMES NUN TENUySHU2",
     "qD TIMES ESH2pBAD TIMES DISH TENUrHAR2 TIMES AB2zdNIzdZAqU OVER BU TIMES NA2pDA TIMES TAK4",
     "rG TIMES KURqIM TIMES IGIzaU U Us2 TIMES UDqUG TIMES ANSHEzbSHzd AT LEFTzaDINzbUNzaERIN2zaGA",
     "zbIzcR2 GUNUzcSHzaHAzbIzaIGI GUNUzaKASKALzbURzcSHU2zg PLUS KASKALzaLAK-020zcMzd TIMES KUR",
     "zbUH PLUS GISHzaMASHzbESzbIzaNIzaPIzaSHEzbI GUNUpE2 TIMES KURyPAPqRIN2 XqSH2 CROSSING ESH2",
     "qZEN SHESHIG TIMES ASHzjHIzjIGI GUNUzjLAzlLzjMEzlSzjSUuTIMES SUpGA2 TIMES BAHAR2zaDIM GUNU",
     "zbUG TIMES IGI GUNUzkKASKALzaERENzaGAzcR PLUS DIzjNEzaHA PLUS AzaKUSHU2 PLUS KASKALzaLAM",
     "zd TIMES KURzbUHzaMUSHzaNEzc PLUS E2ziGIzaSHIMzaZIZ2rBA ROTATED NINETY DEGREES",
     "qESHTIN TIMES UqISH TIMES GISH CROSSING GISHqU2 TIMES IGI GUNUrD PLUS GISH TIMES TAK4",
     "pHA TENU GUNUqI TIMES ASH OVER HI TIMES ASHpKA TIMES BUyKAyU U UzaRpLAGAB TIMES ZU OVER ZU",
     "rK-003u21v5u30u50v1u62u79 OVER LAK-079 GUNUu80v1 OVER LAK-081u92t130u42t210v9u20v5v8u38u65v6",
     "t343v7v8u83v4u90t441v9w TIMES GUzeIGIzePAP PLUS LU3znPAP PLUS LU3zeU2 PLUS BAu50v7u70u83u90",
     "v2v3v5t550t608u17w TIMES ASHzeBADzeDUN3 GUNU GUNUzeKU3zeLAzeTARzfEzeU2zfDzfRUDAu36u48",
     "w TIMES DUBzeGAzeIGIzh GUNUzeNIzePAP PLUS PAP PLUS LU3zeSHESH PLUS KIzeUDzfRUDAt724u49",
     "qU2 GUNU TIMES ASHtTIMES DISHzaHALzaPAPzd PLUS PAP PLUS LU3zaTAK4pMI PLUS ZA7",
     "qUSH OVER MUSH TIMES GAzlKAKpNINDA2 TIMES DIM GUNUzdGISHzeULzdHIzdKESH2zdLAK-050zdMASH",
     "zdPAP PLUS PAPzdUze PLUS UzeRUDApSAG GUNU TIMES HAtTIMES ENzaSHE AT LEFTzaTAK4qHA6 TENU",
     "rE OVER SHEtPLUS HUB2yNAM2ySARrU2 PLUS DUG TIMES NIzaE2 TIMES ANqI TIMES TAK4pTAK4 PLUS SAG",
     "qUM TIMES GAN2 TENUzaTHREE DISHpUR2 INVERTEDtTIMES UDrU TIMES DARA3zaLAK-668zbU3pZA7",
     "qU OVER ZU PLUS SARr5 TIMES THREE DISH TENU=12F90bYPRO-MINOAN SIGN CM001w2w4w5w6w7w8w9v10w1",
     "w2xBw3w5w7w9v21w3w4w5w6w7w8w9v30w3w4w5w6w7w8w9v40w1w4w6w7w9v50w1w2w3w4w5w6w8w9v60w1w2w3w4w6",
     "w7w8w9v70w1w2w3w4w5xBw6w8w9v80w1w2w3w4w5w6w7w8w9v90w1w2w4w5w6w7w8w9u100w1w2w3w4w5w7w8w9v10w2",
     "w4u301w2"]

end Inlay.Text
