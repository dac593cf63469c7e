/-
  Inlay.Text.NameTable.Scripts
  ────────────────────────────────
  **NAMES OF CHARACTERS.**

  The Unicode 14 names of the letters from U+3000 to U+FFFF, in the form that
  `Inlay.Text.CharacterName` reads.
-/

namespace Inlay.Text

/-- The names of the letters from U+3000 to U+FFFF. -/
def scriptsNames : String :=
  String.join
    ["=3000aIDEOGRAPHIC SPACEmCOMMAmFULL STOPaDITTO MARKaJAPANESE INDUSTRIAL STANDARD SYMBOL",
     "aIDEOGRAPHIC ITERATION MARKmCLOSING MARKmNUMBER ZEROaLEFT ANGLE BRACKETaRIGHT ANGLE BRACKET",
     "aLEFT DOUBLE ANGLE BRACKETaRIGHT DOUBLE ANGLE BRACKETaLEFT CORNER BRACKET",
     "aRIGHT CORNER BRACKETaLEFT WHITE CORNER BRACKETaRIGHT WHITE CORNER BRACKET",
     "aLEFT BLACK LENTICULAR BRACKETaRIGHT BLACK LENTICULAR BRACKETaPOSTAL MARKaGETA MARK",
     "aLEFT TORTOISE SHELL BRACKETaRIGHT TORTOISE SHELL BRACKETaLEFT WHITE LENTICULAR BRACKET",
     "aRIGHT WHITE LENTICULAR BRACKETaLEFT WHITE TORTOISE SHELL BRACKET",
     "aRIGHT WHITE TORTOISE SHELL BRACKETaLEFT WHITE SQUARE BRACKETaRIGHT WHITE SQUARE BRACKET",
     "aWAVE DASHaREVERSED DOUBLE PRIME QUOTATION MARKaDOUBLE PRIME QUOTATION MARK",
     "aLOW DOUBLE PRIME QUOTATION MARKaPOSTAL MARK FACEaHANGZHOU NUMERAL ONErTWOsHREErFOURsIVErSIX",
     "sEVENrEIGHTrNINEaIDEOGRAPHIC LEVEL TONE MARKmRISING TONE MARKmDEPARTING TONE MARK",
     "mENTERING TONE MARKaHANGUL SINGLE DOT TONE MARKhDOUBLE DOT TONE MARKaWAVY DASH",
     "aVERTICAL KANA REPEAT MARKvWITH VOICED SOUND MARKvMARK UPPER HALF",
     "vWITH VOICED SOUND MARK UPPER HALFvMARK LOWER HALFaCIRCLED POSTAL MARK",
     "aIDEOGRAPHIC TELEGRAPH LINE FEED SEPARATOR SYMBOLaHANGZHOU NUMERAL TENsWENTYsHIRTY",
     "aVERTICAL IDEOGRAPHIC ITERATION MARKaMASU MARKaPART ALTERNATION MARK",
     "aIDEOGRAPHIC VARIATION INDICATORmHALF FILL SPACE=3041aHIRAGANA LETTER SMALL AqAqSMALL IqI",
     "qSMALL UqUqSMALL EqEqSMALL OqOqKAqGAqKIqGIqKUqGUqKEqGEqKOqGOqSAqZAqSIqZIqSUqZUqSEqZEqSOqZO",
     "qTAqDAqTIqDIqSMALL TUqTUqDUqTEqDEqTOqDOqNArIrUrErOqHAqBAqPAqHIqBIqPIqHUqBUqPUqHEqBEqPEqHOqBO",
     "qPOqMArIrUrErOqSMALL YAqYAqSMALL YUqYUqSMALL YOqYOqRArIrUrErOqSMALL WAqWArIrErOqNqVU",
     "qSMALL KAxE=3099aCOMBINING KATAKANA-HIRAGANA VOICED SOUND MARKzdSEMI-VOICED SOUND MARK",
     "aKATAKANA-HIRAGANA VOICED SOUND MARKsSEMI-VOICED SOUND MARKaHIRAGANA ITERATION MARK",
     "jVOICED ITERATION MARKjDIGRAPH YORIaKATAKANA-HIRAGANA DOUBLE HYPHENi LETTER SMALL AqA",
     "qSMALL IqIqSMALL UqUqSMALL EqEqSMALL OqOqKAqGAqKIqGIqKUqGUqKEqGEqKOqGOqSAqZAqSIqZIqSUqZUqSE",
     "qZEqSOqZOqTAqDAqTIqDIqSMALL TUqTUqDUqTEqDEqTOqDOqNArIrUrErOqHAqBAqPAqHIqBIqPIqHUqBUqPUqHEqBE",
     "qPEqHOqBOqPOqMArIrUrErOqSMALL YAqYAqSMALL YUqYUqSMALL YOqYOqRArIrUrErOqSMALL WAqWArIrErOqN",
     "qVUqSMALL KAxEqVArIrErOjMIDDLE DOTi-HIRAGANA PROLONGED SOUND MARKi ITERATION MARK",
     "jVOICED ITERATION MARKjDIGRAPH KOTO=3105aBOPOMOFO LETTER BqPqMqFqDqTqNqLqGqKqHqJqQqXqZHqCH",
     "qSHqRqZqCqSqAqOqErHqAIqEIqAUqOUqANqENqANGqENGrRqIqUqIUqVqNGqGNqIHqO WITH DOT ABOVEqNN",
     "=3131aHANGUL LETTER KIYEOKoSSANGKIYEOKoKIYEOK-SIOSoNIEUNt-CIEUCuHIEUHoTIKEUToSSANGTIKEUT",
     "oRIEULt-KIYEOKuMIEUMuPIEUPuSIOSuTHIEUTHuPHIEUPHuHIEUHoMIEUMoPIEUPoSSANGPIEUPoPIEUP-SIOSoSIOS",
     "pSANGSIOSoIEUNGoCIEUCoSSANGCIEUCoCHIEUCHoKHIEUKHoTHIEUTHoPHIEUPHoHIEUHoApEoYAqEoEOoEoYEOpEoO",
     "oWAqEoOEoYOoUoWEOpEpIoYUoEUoYIoIhFILLERhLETTER SSANGNIEUNoNIEUN-TIKEUTuSIOSuPANSIOS",
     "oRIEUL-KIYEOK-SIOSuTIKEUTuPIEUP-SIOSvANSIOSuYEORINHIEUHoMIEUM-PIEUPuSIOSuPANSIOS",
     "oKAPYEOUNMIEUMoPIEUP-KIYEOKuTIKEUTuSIOS-KIYEOKzaTIKEUTuCIEUCuTHIEUTHoKAPYEOUNPIEUP",
     "wSSANGPIEUPoSIOS-KIYEOKtNIEUNtTIKEUTtPIEUPtCIEUCoPANSIOSoSSANGIEUNGoYESIEUNGw-SIOSxPANSIOS",
     "oKAPYEOUNPHIEUPHoSSANGHIEUHoYEORINHIEUHpO-YAtErIpU-YEOsErIoARAEAtE",
     "=3190aIDEOGRAPHIC ANNOTATION LINKING MARKxREVERSE MARKxONE MARKxTWO MARKyHREE MARKxFOUR MARK",
     "xTOP MARKxMIDDLE MARKxBOTTOM MARKxFIRST MARKxSECOND MARKxTHIRD MARKxFOURTH MARKxHEAVEN MARK",
     "xEARTH MARKxMAN MARKaBOPOMOFO LETTER BUqZIqJIqGUqEErNNqOOrNNqIRqANNqINNqUNNqIMqNGGqAINNrUNN",
     "rMqOMrNGqINNNjFINAL LETTER PwTwKwHjLETTER GHqLHqZYjFINAL LETTER GjLETTER GWqKWqOEqAH",
     "aCJK STROKE TlWGlXGlBXGlSWlHZZnGmPmZWGlSZWGlHZTnZPmPWGmZWnZZlNlHlSlPlSPlDlHZmGlSZmWZmTmGlPD",
     "mZlTNlSZZmWGlHXWGmZZZGlPGlQ=31F0aKATAKANA LETTER SMALL KUwSIxUwTOwNUwHAxIxUxExOwMUwRAxIxUxE",
     "xOaPARENTHESIZED HANGUL KIYEOKvNIEUNvTIKEUTvRIEULvMIEUMvPIEUPvSIOSvIEUNGvCIEUCwHIEUCH",
     "vKHIEUKHvTHIEUTHvPHIEUPHvHIEUHvKIYEOK AvNIEUN AvTIKEUT AvRIEUL AvMIEUM AvPIEUP AvSIOS A",
     "vIEUNG AvCIEUC AwHIEUCH AvKHIEUKH AvTHIEUTH AvPHIEUPH AvHIEUH AvCIEUC U",
     "oKOREAN CHARACTER OJEONzh HU=3220oIDEOGRAPH ONEyTWOzaHREEyFOURzaIVEySIXzaEVENyEIGHTyNINEyTEN",
     "yMOONyFIREyWATERzaOODyMETALyEARTHySUNzaTOCKyHAVEySOCIETYyNAMEySPECIALyFINANCIAL",
     "yCONGRATULATIONyLABORyREPRESENTyCALLySTUDYzaUPERVISEyENTERPRISEyRESOURCEyALLIANCEyFESTIVAL",
     "yRESTySELFyREACHaCIRCLED IDEOGRAPH QUESTIONsKINDERGARTENsSCHOOLsKOTO",
     "iNUMBER TEN ON BLACK SQUAREqWENTY ON BLACK SQUAREqHIRTY ON BLACK SQUARE",
     "pFORTY ON BLACK SQUAREqIFTY ON BLACK SQUAREpSIXTY ON BLACK SQUAREqEVENTY ON BLACK SQUARE",
     "pEIGHTY ON BLACK SQUAREaPARTNERSHIP SIGNaCIRCLED NUMBER TWENTY ONEwTWOxHREEwFOURxIVEwSIX",
     "xEVENwEIGHTwNINEqHIRTYv ONEwTWOxHREEwFOURxIVEiHANGUL KIYEOKpNIEUNpTIKEUTpRIEULpMIEUMpPIEUP",
     "pSIOSpIEUNGpCIEUCqHIEUCHpKHIEUKHpTHIEUTHpPHIEUPHpHIEUHpKIYEOK ApNIEUN ApTIKEUT ApRIEUL A",
     "pMIEUM ApPIEUP ApSIOS ApIEUNG ApCIEUC AqHIEUCH ApKHIEUKH ApTHIEUTH ApPHIEUPH ApHIEUH A",
     "iKOREAN CHARACTER CHAMKOzaJUEUIiHANGUL IEUNG UaKOREAN STANDARD SYMBOLaCIRCLED IDEOGRAPH ONE",
     "sTWOtHREEsFOURtIVEsSIXtEVENsEIGHTsNINEsTENsMOONsFIREsWATERtOODsMETALsEARTHsSUNtTOCKsHAVE",
     "sSOCIETYsNAMEsSPECIALsFINANCIALsCONGRATULATIONsLABORsSECRETsMALEsFEMALEsSUITABLEsEXCELLENT",
     "sPRINTsATTENTIONsITEMsRESTsCOPYuRRECTsHIGHsCENTREsLOWtEFTsRIGHTsMEDICINEsRELIGIONsSTUDY",
     "tUPERVISEsENTERPRISEsRESOURCEsALLIANCEsNIGHTiNUMBER THIRTY SIXxEVENwEIGHTwNINEpFORTYu ONE",
     "vTWOwHREEvFOURwIVEvSIXwEVENvEIGHTvNINEqIFTYaIDEOGRAPHIC TELEGRAPH SYMBOL FOR JANUARY",
     "ziFEBRUARYziMARCHziAPRILziMAYziJUNEzkLYziAUGUSTziSEPTEMBERziOCTOBERziNOVEMBERziDECEMBER",
     "aSQUARE HGhERGiVaLIMITED LIABILITY SIGNaCIRCLED KATAKANA ArIrUrErOrKAsIsUsEsOrSAsIsUsEsOrTA",
     "sIsUsEsOrNAsIsUsEsOrHAsIsUsEsOrMAsIsUsEsOrYAsUsOrRAsIsUsEsOrWAsIsEsOaSQUARE ERA NAME REIWA",
     "hAPAATOiRUHUAiNPEAiARUhININGUjTIhUONhESUKUUDOiEKAAhONSUiOMUhKAIRIjRATTOkORIIhGARONjNMAiIGA",
     "jNIIhKYURIIhGIRUDAAhKIROlGURAMUlMEETORUlWATTOhGURAMUnTONhKURUZEIROkOONEiEESUiORUNAjOPO",
     "hSAIKURUjNTIIMUiIRINGUiENTIlOhDAASUiESIiORUhTONhNANOiOTTOhHAITUhPAASENTOkTUhBAARERU",
     "hPIASUTORUjKURUkOhBIRUhHUARADDOjIITOhBUSSYERUhHURANiEKUTAARUhPESOjNIHIhHERUTUhPENSUjEZI",
     "hBEETAhPOINTOhBORUTOhHONhPONDOhHOORUkNhMAIKUROkRUjHHAjRUKUjNSYONiIKURONjRIlBAARUiEGAlTON",
     "jETORUhYAADOkRUiUANhRITTORUjRAiUPIIjUBURUiEMUjNTOGENhWATTO",
     "aIDEOGRAPHIC TELEGRAPH SYMBOL FOR HOUR ZEROznONEznTWOzoHREEznFOURzoIVEznSIXzoEVENznEIGHT",
     "znNINEznTENznELEVENznTWELVEzoHIRTEENznFOURTEENzoIFTEENznSIXTEENzoEVENTEENznEIGHTEEN",
     "znNINETEENznTWENTYzt-ONEzuTWOzvHREEzuFOURaSQUARE HPAhDAhAUhBARhOVhPChDMj SQUAREDkCUBEDhIU",
     "hERA NAME HEISEIqSYOUWAqTAISYOUqMEIZIhCORPORATIONhPA AMPShNAhMU AiAhKAiBhMBhGBhCALhKCALhPF",
     "hNFhMU FkGiGhKGhHZhKHZhMHZhGHZhTHZhMU LiLhDLhKLhFMhNMhMU MiMhCMhKMhMM SQUAREDhCM SQUARED",
     "hM SQUAREDhKM SQUAREDhMM CUBEDhCM CUBEDhM CUBEDhKM CUBEDhM OVER Sp SQUAREDhPAhKPAhMPAhGPA",
     "hRADk OVER Sr SQUAREDhPShNShMU SiShPVhNVhMU ViVhKVhMV MEGAhPWhNWhMU WiWhKWhMW MEGAhK OHM",
     "hM OHMhAMhBQhCCiDi OVER KGiOhDBhGYhHAiPhINhKKiM CAPITALiThLMiNiOGiXhMB SMALLiILiOLhPHiMiPMiR",
     "hSRiVhWBhV OVER MhA OVER MaIDEOGRAPHIC TELEGRAPH SYMBOL FOR DAY ONEzmTWOznHREEzmFOURznIVE",
     "zmSIXznEVENzmEIGHTzmNINEzmTENzmELEVENzmTWELVEznHIRTEENzmFOURTEENznIFTEENzmSIXTEENznEVENTEEN",
     "zmEIGHTEENzmNINETEENzmTWENTYzs-ONEztTWOzuHREEztFOURzuIVEztSIXzuEVENztEIGHTztNINEznHIRTY",
     "zs-ONEaSQUARE GAL=4DC0aHEXAGRAM FOR THE CREATIVE HEAVENrRECEPTIVE EARTH",
     "nDIFFICULTY AT THE BEGINNINGnYOUTHFUL FOLLYnWAITINGnCONFLICTnTHE ARMYnHOLDING TOGETHER",
     "nSMALL TAMINGnTREADINGnPEACEnSTANDSTILLnFELLOWSHIPnGREAT POSSESSIONnMODESTYnENTHUSIASM",
     "nFOLLOWINGnWORK ON THE DECAYEDnAPPROACHnCONTEMPLATIONnBITING THROUGHnGRACEnSPLITTING APART",
     "nRETURNnINNOCENCEnGREAT TAMINGnMOUTH CORNERSnGREAT PREPONDERANCEnTHE ABYSMAL WATER",
     "rCLINGING FIREnINFLUENCEnDURATIONnRETREATnGREAT POWERnPROGRESSnDARKENING OF THE LIGHT",
     "nTHE FAMILYnOPPOSITIONoBSTRUCTIONnDELIVERANCEpCREASEnINCREASEnBREAKTHROUGHnCOMING TO MEET",
     "nGATHERING TOGETHERnPUSHING UPWARDnOPPRESSIONnTHE WELLnREVOLUTIONnTHE CAULDRON",
     "rAROUSING THUNDERrKEEPING STILL MOUNTAINnDEVELOPMENTnTHE MARRYING MAIDENnABUNDANCE",
     "nTHE WANDERERrGENTLE WINDrJOYOUS LAKEnDISPERSIONnLIMITATIONnINNER TRUTHnSMALL PREPONDERANCE",
     "nAFTER COMPLETIONnBEFORE COMPLETION=A000aYI SYLLABLE ITnXmInPnEToXnEoPmATnXmAnPmUOXnOoPmOTnX",
     "mOnPmEXmEmWUmBIToXnIoPoETpXoEpPnAToXnAoPnUOXoOpPnOToXnOoPnEXnEoPnUToXnUoPoRXoRnYToXnYoPoRXoR",
     "mPIToXnIoPoEXoEpPnAToXnAoPnUOXoOpPnOToXnOoPnUToXnUoPoRXoRnYToXnYoPoRXoRmBBITpXoIpPpETqXpEqP",
     "oATpXoApPoUOXpOqPoOTpXoOpPoEXoEpPoUTpXoUpPpRXpRoYTpXoYpPmNBITpXoIpPpEXpEqPoATpXoApPoOTpXoOpP",
     "oUTpXoUpPpRXpRoYTpXoYpPpRXpRmHMITpXoIpPpEXpEqPoATpXoApPoUOXpOqPoOTpXoOpPoUTpXoUpPpRXpRoYXoY",
     "pPpRXpRmMIToXnIoPoEXoEpPnAToXnAoPnUOTpXoOpPnOToXnOoPnEXnEnUToXnUoPoRXoRnYToXnYoPmFIToXnIoP",
     "nAToXnAoPnOXnOoPnUToXnUoPoRXoRnYToXnYoPmVIToXnIoPoETpXoEpPnAToXnAoPnOToXnOoPnEXoPnUToXnUoP",
     "oRXoRnYToXnYoPoRXoRmDIToXnIoPoEXoEpPnAToXnAoPnUOXoOnOToXnOoPnEXnEoPnUToXnUoPoRXoRmTIToXnIoP",
     "oEXoEpPnAToXnAoPnUOTpXoOpPnOToXnOoPnEXnEoPnUToXnUoPoRXoRmDDITpXoIpPpEXpEqPoATpXoApPoUOXpOqP",
     "oOTpXoOpPoEXoEpPoUTpXoUpPpRXpRmNDITpXoIpPpEXpEoATpXoApPoOTpXoOpPoEXoEpPoUTpXoUpPpRXpRmHNITpX",
     "oIpPpETqXpEqPoATpXoApPoUOXpOoOTpXpPoEXoEpPoUTmNIToXnIoPoEXoEpPnAXnAoPnUOXoOpPnOToXnOoPnEXnE",
     "oPnUToXnUoPoRXoRmHLITpXoIpPpEXpEqPoATpXoApPoUOXpOqPoOXoOpPoEXoEpPoUTpXoUpPpRXpRoYTpXoYpPpRX",
     "pRmLIToXnIoPoETpXoEpPnAToXnAoPnUOTpXoOpPnOToXnOoPnEXnEoPnUToXnUoPoRXoRnYToXnYoPoRXoRmGIToXnI",
     "oPoETpXoEpPnAToXnAoPnUOTpXoOpPnOToXnOoPnEToXnEoPnUToXnUoPoRXoRmKIToXnIoPoEXoEpPnAToXnAoPnUOX",
     "oOpPnOToXnOoPnEToXnEoPnUToXnUoPoRXoRmGGITpXoIpEXpEqPoATpXoApPoUOTqXpOqPoOTpXoOpPoETpXoEpPoUT",
     "pXoUpPpRXpRmMGIEXpEoATpXoApPoUOXpOqPoOTpXoOpPoEXoEpPoUTpXoUpPpRXpRmHXITpXoIpPpETqXpEqPoATpX",
     "oApPoUOTqXpOqPoOTpXoOpPoEXoEpPmNGIEXpEqPoATpXoApPoUOTqXpOoOTpXoOpPoEXoEpPmHIToEXoEnAToXnAoP",
     "nUOTpXoOpPnOToXnOoPnEXnEoPmWAToXnAoPnUOXoOpPnOXnOoPnEXnEoPmZIToXnIoPoEXoEpPnAToXnAoPnUOXoOpP",
     "nOToXnOoPnEXnEoPnUToXnUoPoRXoRnYToXnYoPoRXoRmCIToXnIoPoETpXoEpPnAToXnAoPnUOXoOpPnOToXnOoPnEX",
     "nEoPnUToXnUoPoRXoRnYToXnYoPoRXoRmZZITpXoIpPpETqXpEqPoATpXoApPoOXoOpPoEXoEpPoUXoUpPpRXpRoYTpX",
     "oYpPpRXpRmNZITpXoIpPpEXpEqPoATpXoApPoUOXpOoOXpPoEXoEoUXoUpPpRXpRoYTpXoYpPpRXpRmSIToXnIoPoEX",
     "oEpPnAToXnAoPnUOXoOpPnOToXnOoPnEXnEoPnUToXnUoPoRXoRnYToXnYoPoRXoRnSITpXoIpPpEXpEqPoATpXoApP",
     "oOTpXoOpPoEXoEpPoUTpXoUpPoYTpXoYpPpRXpRmZHATpXoApPoUOXpOqPoOTpXoOpPoETpXoEpPoUTpXoUpPpRXpR",
     "oYTpXoYpPpRXpRmCHATpXoApPoUOTqXpOqPoOTpXoOpPoETpXoEpPoUXoUpPpRXpRoYTpXoYpPpRXpRmRRAXoAoUOXpO",
     "oOTpXoOpPoETpXoEpPoUTpXoUpPpRXpRoYTpXoYpPpRXpRmNRATpXoApPoOXoOpPoETpXoEpPoUTpXoUpPpRXpRoYTpX",
     "oYpPpRXpRmSHATpXoApPoUOXpOqPoOTpXoOpPoETpXoEpPoUTpXoUpPpRXpRoYTpXoYpPpRXpRmRAToXnAoPnUOXoOpP",
     "nOToXnOoPnEXnEoPnUToXnUoPoRXoRnYToXnYoPoRXoRmJIToXnIoPoETpXoEpPnUOTpXoOpPnOToXnOoPnUToXnUoP",
     "oRXoRnYToXnYoPoRXoRmQIToXnIoPoETpXoEpPnUOTpXoOpPnOToXnOoPnUToXnUoPoRXoRnYToXnYoPoRXoRmJJITpX",
     "oIpPpETqXpEqPoUOXpOqPoOTpXoOpPoUTpXoUpPpRXpRoYTpXoYpPmNJITpXoIpPpETqXpEqPoUOXpOoOTpXoOpPoUX",
     "oUpPpRXpRoYTpXoYpPpRXpRnYITpXoIpPpETqXpEqPoUOXpOqPoOTpXoOpPoUTpXoUpPmXIToXnIoPoETpXoEpPnUOX",
     "oOnOToXnOoPnYToXnYoPoRXoRmYIToXnIoPoETpXoEpPnUOTpXoOpPnOToXnOoPnUToXnUoPoRXoRnYToXnYoPoRXoR",
     "=A490dRADICAL QOTlLIlKITlNYIPlCYPlSSIlGGOPmEPlMIlHXITlLYRlBBUTlMOPlYOlPUTlHXUOlTATlGAlZUP",
     "lCYTlDDURlBURlGGUOlNYOPlTUlOPlJJUTlZOTlPYTlHMOlYITlVURlSHYlVEPlZAlJOlNZUPlJJYlGOTlJJIElWOlDU",
     "lSHURlLIElCYmUOPmIPlHXOPlSHATlZURlSHOPlCHElZZIETlNBIElKE=A4D0aLISU LETTER BAmPAnHAmDAmTAnHA",
     "mGAmKAnHAmJAmCAnHAmDZAmTSAoHAmMAmNAmLAmSAmZHAnAmNGAmHAmXAmHHAmFAmWAmSHAmYAmGHAmAnEmEnUmImOmU",
     "nEnHmOEmTONE MYA TIrNA POrMYA CYAvBOvNAvJEUfPUNCTUATION COMMArFULL STOPaVAI SYLLABLE EEpN",
     "nHEEnWEEqNnPEEnBHEEoEEnMBEEnKPEEnMGBEEnGBEEnFEEnVEEnTEEoHEEnDHEEpHEEnLEEnREEnDEEnNDEEnSEE",
     "oHEEnZEEoHEEnCEEnJEEnNJEEnYEEnKEEnNGGEEnGEEnMEEnNEEoYEEnIoNnHIpNnWIpNnPInBHIoInMBInKPInMGBI",
     "nGBInFInVInTIoHInDHIpHInLInRInDInNDInSIoHInZIoHInCInJInNJInYInKInNGGInGInMInNIoYInAoNnNGAN",
     "nHApNnWApNnPAnBHAoAnMBAnKPAqNnMGBAnGBAnFAnVAnTAoHAnDHApHAnLAnRAnDAnNDAnSAoHAnZAoHAnCAnJAnNJA",
     "nYAnKApNnNGGAnGAnMAnNAoYAnOOpNnHOOnWOOqNnPOOnBHOOoOOnMBOOnKPOOnMGBOOnGBOOnFOOnVOOnTOOoHOO",
     "nDHOOpHOOnLOOnROOnDOOnNDOOnSOOoHOOnZOOoHOOnCOOnJOOnNJOOnYOOnKOOnNGGOOnGOOnMOOnNOOoYOOnUoNnHU",
     "pNnWUpNnPUnBHUoUnMBUnKPUnMGBUnGBUnFUnVUnTUoHUnDHUpHUnLUnRUnDUnNDUnSUoHUnZUoHUnCUnJUnNJUnYU",
     "nKUnNGGUnGUnMUnNUoYUnOoNnNGONnHOpNnWOpNnPOnBHOoOnMBOnKPOnMGBOnGBOqNnFOnVOnTOoHOnDHOpHOnLOnRO",
     "nDOnNDOnSOoHOnZOoHOnCOnJOnNJOnYOnKOnNGGOnGOnMOnNOoYOnEoNnNGENnHEpNnWEpNnPEnBHEoEnMBEnKPEqN",
     "nMGBEnGBEqNnFEnVEnTEoHEnDHEpHEnLEnREnDEnNDEnSEoHEnZEoHEnCEnJEnNJEnYEnKEnNGGErNnGEpNnMEnNEoYE",
     "oGnLENGTHENEReCOMMAeFULL STOPeQUESTION MARKeSYLLABLE NDOLE FAtKAtSOOgMBOL FEENGlKEENGlTING",
     "lNIIlBANGlFAAlTAAlDANGmOONGlKUNGlTONGlDO-OlJONGeDIGIT ZEROkONEkTWOlHREEkFOURlIVEkSIXlEVEN",
     "kEIGHTkNINEeSYLLABLE NDOLE MAtDO=A640aCYRILLIC CAPITAL LETTER ZEMLYAjSMALL LETTER ZEMLYA",
     "jCAPITAL LETTER DZELOjSMALL LETTER DZELOjCAPITAL LETTER REVERSED DZE",
     "jSMALL LETTER REVERSED DZEjCAPITAL LETTER IOTAjSMALL LETTER IOTAjCAPITAL LETTER DJERV",
     "jSMALL LETTER DJERVjCAPITAL LETTER MONOGRAPH UKjSMALL LETTER MONOGRAPH UK",
     "jCAPITAL LETTER BROAD OMEGAjSMALL LETTER BROAD OMEGAjCAPITAL LETTER NEUTRAL YER",
     "jSMALL LETTER NEUTRAL YERjCAPITAL LETTER YERU WITH BACK YERjSMALL LETTER YERU WITH BACK YER",
     "jCAPITAL LETTER IOTIFIED YATjSMALL LETTER IOTIFIED YATjCAPITAL LETTER REVERSED YU",
     "jSMALL LETTER REVERSED YUjCAPITAL LETTER IOTIFIED AjSMALL LETTER IOTIFIED A",
     "jCAPITAL LETTER CLOSED LITTLE YUSjSMALL LETTER CLOSED LITTLE YUSjCAPITAL LETTER BLENDED YUS",
     "jSMALL LETTER BLENDED YUSjCAPITAL LETTER IOTIFIED CLOSED LITTLE YUS",
     "jSMALL LETTER IOTIFIED CLOSED LITTLE YUSjCAPITAL LETTER YNjSMALL LETTER YN",
     "jCAPITAL LETTER REVERSED TSEjSMALL LETTER REVERSED TSEjCAPITAL LETTER SOFT DE",
     "jSMALL LETTER SOFT DEjCAPITAL LETTER SOFT ELjSMALL LETTER SOFT ELjCAPITAL LETTER SOFT EM",
     "jSMALL LETTER SOFT EMjCAPITAL LETTER MONOCULAR OjSMALL LETTER MONOCULAR O",
     "jCAPITAL LETTER BINOCULAR OjSMALL LETTER BINOCULAR OjCAPITAL LETTER DOUBLE MONOCULAR O",
     "jSMALL LETTER DOUBLE MONOCULAR OjLETTER MULTIOCULAR ObOMBINING CYRILLIC VZMET",
     "tTEN MILLIONS SIGNtHUNDRED MILLIONS SIGNtTHOUSAND MILLIONS SIGNaSLAVONIC ASTERISK",
     "aCOMBINING CYRILLIC LETTER UKRAINIAN IEzbIzbYIzbUzbHARD SIGNzbYERUzbSOFT SIGNzbOMEGAtKAVYKA",
     "tPAYEROKbYRILLIC KAVYKAjPAYEROKjCAPITAL LETTER DWEjSMALL LETTER DWEjCAPITAL LETTER DZWE",
     "jSMALL LETTER DZWEjCAPITAL LETTER ZHWEjSMALL LETTER ZHWEjCAPITAL LETTER CCHE",
     "jSMALL LETTER CCHEjCAPITAL LETTER DZZEjSMALL LETTER DZZEjCAPITAL LETTER TE WITH MIDDLE HOOK",
     "jSMALL LETTER TE WITH MIDDLE HOOKjCAPITAL LETTER TWEjSMALL LETTER TWEjCAPITAL LETTER TSWE",
     "jSMALL LETTER TSWEjCAPITAL LETTER TSSEjSMALL LETTER TSSEjCAPITAL LETTER TCHE",
     "jSMALL LETTER TCHEjCAPITAL LETTER HWEjSMALL LETTER HWEjCAPITAL LETTER SHWEjSMALL LETTER SHWE",
     "jCAPITAL LETTER DOUBLE OjSMALL LETTER DOUBLE OjCAPITAL LETTER CROSSED O",
     "jSMALL LETTER CROSSED OaMODIFIER LETTER CYRILLIC HARD SIGNzaSOFT SIGN",
     "aCOMBINING CYRILLIC LETTER EFzbIOTIFIED EaBAMUM LETTER AnKAnUnKUnEEnREEnTAEnOnNYInInLAnPA",
     "nRIIpEEnLEEEEnMEEEEnTAAnNDAAoJAEMnMnSUUnMUnSHIIoIoHEUXoEUXnKYEEoETnNUAEoUoJUAEnYOQnSHUnYUQoA",
     "nNSHAnKEUXnPEUXnNJEEoTEEnPUEnWUEnPEEnFEEnRUnLUnMInNInREUXoAEnKENnNGKWAENpGApAnSHOnPUAEnFUoOM",
     "nWAnNAnLInPInLOQnKOnMBENnRENnMENoAnTInKInMOoBAAnTETnKPAnTENnNTUUnSAMBAnFAAMAEnKOVUUpGHOM",
     "gCOMBINING MARK KOQNDONvTUKWENTISgNJAEMLIgFULL STOPgCOLONiMMAgSEMICOLONgQUESTION MARK",
     "=A700aMODIFIER LETTER CHINESE TONE YIN PINGzfANG PINGzfIN SHANGzfANG SHANGzfIN QUzfANG QU",
     "zfIN RUzfANG RUqEXTRA-HIGH DOTTED TONE BARqHIGH DOTTED TONE BARqMID DOTTED TONE BAR",
     "qLOW DOTTED TONE BARqEXTRA-LOW DOTTED TONE BARwHIGH DOTTED LEFT-STEM TONE BAR",
     "qHIGH DOTTED LEFT-STEM TONE BARqMID DOTTED LEFT-STEM TONE BARqLOW DOTTED LEFT-STEM TONE BAR",
     "qEXTRA-LOW DOTTED LEFT-STEM TONE BARwHIGH LEFT-STEM TONE BARqHIGH LEFT-STEM TONE BAR",
     "qMID LEFT-STEM TONE BARqLOW LEFT-STEM TONE BARqEXTRA-LOW LEFT-STEM TONE BARqDOT VERTICAL BAR",
     "uSLASHuHORIZONTAL BARqLOWER RIGHT CORNER ANGLEqRAISED UP ARROWxDOWN ARROWxEXCLAMATION MARK",
     "xINVERTED EXCLAMATION MARKqLOW INVERTED EXCLAMATION MARKqSTRESS AND HIGH TONEzcLOW TONE",
     "aLATIN CAPITAL LETTER EGYPTOLOGICAL ALEFgSMALL LETTER EGYPTOLOGICAL ALEF",
     "gCAPITAL LETTER EGYPTOLOGICAL AINgSMALL LETTER EGYPTOLOGICAL AINgCAPITAL LETTER HENG",
     "gSMALL LETTER HENGgCAPITAL LETTER TZgSMALL LETTER TZgCAPITAL LETTER TRESILLO",
     "gSMALL LETTER TRESILLOgCAPITAL LETTER CUATRILLOgSMALL LETTER CUATRILLO",
     "gCAPITAL LETTER CUATRILLO WITH COMMAgSMALL LETTER CUATRILLO WITH COMMA",
     "gLETTER SMALL CAPITAL FzcSgCAPITAL LETTER AAgSMALL LETTER AAgCAPITAL LETTER AO",
     "gSMALL LETTER AOgCAPITAL LETTER AUgSMALL LETTER AUgCAPITAL LETTER AVgSMALL LETTER AV",
     "gCAPITAL LETTER AV WITH HORIZONTAL BARgSMALL LETTER AV WITH HORIZONTAL BARgCAPITAL LETTER AY",
     "gSMALL LETTER AYgCAPITAL LETTER REVERSED C WITH DOTgSMALL LETTER REVERSED C WITH DOT",
     "gCAPITAL LETTER K WITH STROKEgSMALL LETTER K WITH STROKE",
     "gCAPITAL LETTER K WITH DIAGONAL STROKEgSMALL LETTER K WITH DIAGONAL STROKE",
     "gCAPITAL LETTER K WITH STROKE AND DIAGONAL STROKE",
     "gSMALL LETTER K WITH STROKE AND DIAGONAL STROKEgCAPITAL LETTER BROKEN L",
     "gSMALL LETTER BROKEN LgCAPITAL LETTER L WITH HIGH STROKEgSMALL LETTER L WITH HIGH STROKE",
     "gCAPITAL LETTER O WITH LONG STROKE OVERLAYgSMALL LETTER O WITH LONG STROKE OVERLAY",
     "gCAPITAL LETTER O WITH LOOPgSMALL LETTER O WITH LOOPgCAPITAL LETTER OOgSMALL LETTER OO",
     "gCAPITAL LETTER P WITH STROKE THROUGH DESCENDERgSMALL LETTER P WITH STROKE THROUGH DESCENDER",
     "gCAPITAL LETTER P WITH FLOURISHgSMALL LETTER P WITH FLOURISH",
     "gCAPITAL LETTER P WITH SQUIRREL TAILgSMALL LETTER P WITH SQUIRREL TAIL",
     "gCAPITAL LETTER Q WITH STROKE THROUGH DESCENDERgSMALL LETTER Q WITH STROKE THROUGH DESCENDER",
     "gCAPITAL LETTER Q WITH DIAGONAL STROKEgSMALL LETTER Q WITH DIAGONAL STROKE",
     "gCAPITAL LETTER R ROTUNDAgSMALL LETTER R ROTUNDAgCAPITAL LETTER RUM ROTUNDA",
     "gSMALL LETTER RUM ROTUNDAgCAPITAL LETTER V WITH DIAGONAL STROKE",
     "gSMALL LETTER V WITH DIAGONAL STROKEgCAPITAL LETTER VYgSMALL LETTER VY",
     "gCAPITAL LETTER VISIGOTHIC ZgSMALL LETTER VISIGOTHIC ZgCAPITAL LETTER THORN WITH STROKE",
     "gSMALL LETTER THORN WITH STROKEgCAPITAL LETTER THORN WITH STROKE THROUGH DESCENDER",
     "gSMALL LETTER THORN WITH STROKE THROUGH DESCENDERgCAPITAL LETTER VENDgSMALL LETTER VEND",
     "gCAPITAL LETTER ETgSMALL LETTER ETgCAPITAL LETTER ISgSMALL LETTER ISgCAPITAL LETTER CON",
     "gSMALL LETTER CONaMODIFIER LETTER USaLATIN SMALL LETTER DUMtLUMtMUMtNUMtRUM",
     "gLETTER SMALL CAPITAL RUMgSMALL LETTER TUMtUMgCAPITAL LETTER INSULAR D",
     "gSMALL LETTER INSULAR DgCAPITAL LETTER INSULAR FgSMALL LETTER INSULAR F",
     "gCAPITAL LETTER INSULAR GvTURNED INSULAR GgSMALL LETTER TURNED INSULAR G",
     "gCAPITAL LETTER TURNED LgSMALL LETTER TURNED LgCAPITAL LETTER INSULAR R",
     "gSMALL LETTER INSULAR RgCAPITAL LETTER INSULAR SgSMALL LETTER INSULAR S",
     "gCAPITAL LETTER INSULAR TgSMALL LETTER INSULAR TaMODIFIER LETTER LOW CIRCUMFLEX ACCENTqCOLON",
     "qSHORT EQUALS SIGNaLATIN CAPITAL LETTER SALTILLOgSMALL LETTER SALTILLO",
     "gCAPITAL LETTER TURNED HgSMALL LETTER L WITH RETROFLEX HOOK AND BELTgLETTER SINOLOGICAL DOT",
     "gCAPITAL LETTER N WITH DESCENDERgSMALL LETTER N WITH DESCENDERgCAPITAL LETTER C WITH BAR",
     "gSMALL LETTER C WITH BARzbPALATAL HOOKtH WITH PALATAL HOOKgCAPITAL LETTER B WITH FLOURISH",
     "gSMALL LETTER B WITH FLOURISHgCAPITAL LETTER F WITH STROKEgSMALL LETTER F WITH STROKE",
     "gCAPITAL LETTER VOLAPUK AEgSMALL LETTER VOLAPUK AEgCAPITAL LETTER VOLAPUK OE",
     "gSMALL LETTER VOLAPUK OEgCAPITAL LETTER VOLAPUK UEgSMALL LETTER VOLAPUK UE",
     "gCAPITAL LETTER G WITH OBLIQUE STROKEgSMALL LETTER G WITH OBLIQUE STROKE",
     "gCAPITAL LETTER K WITH OBLIQUE STROKEgSMALL LETTER K WITH OBLIQUE STROKE",
     "gCAPITAL LETTER N WITH OBLIQUE STROKEgSMALL LETTER N WITH OBLIQUE STROKE",
     "gCAPITAL LETTER R WITH OBLIQUE STROKEgSMALL LETTER R WITH OBLIQUE STROKE",
     "gCAPITAL LETTER S WITH OBLIQUE STROKEgSMALL LETTER S WITH OBLIQUE STROKE",
     "gCAPITAL LETTER H WITH HOOKvREVERSED OPEN EvSCRIPT GvL WITH BELTvSMALL CAPITAL I",
     "gLETTER SMALL CAPITAL QgCAPITAL LETTER TURNED KzdTvJ WITH CROSSED-TAILvCHIvBETA",
     "gSMALL LETTER BETAgCAPITAL LETTER OMEGAgSMALL LETTER OMEGAgCAPITAL LETTER U WITH STROKE",
     "gSMALL LETTER U WITH STROKEgCAPITAL LETTER GLOTTAL AgSMALL LETTER GLOTTAL A",
     "gCAPITAL LETTER GLOTTAL IgSMALL LETTER GLOTTAL IgCAPITAL LETTER GLOTTAL U",
     "gSMALL LETTER GLOTTAL UgCAPITAL LETTER OLD POLISH OgSMALL LETTER OLD POLISH O",
     "gCAPITAL LETTER ANGLICANA WgSMALL LETTER ANGLICANA WgCAPITAL LETTER C WITH PALATAL HOOK",
     "vS WITH HOOKvZ WITH PALATAL HOOKvD WITH SHORT STROKE OVERLAY",
     "gSMALL LETTER D WITH SHORT STROKE OVERLAYgCAPITAL LETTER S WITH SHORT STROKE OVERLAY",
     "gSMALL LETTER S WITH SHORT STROKE OVERLAY=A7D0gCAPITAL LETTER CLOSED INSULAR G",
     "gSMALL LETTER CLOSED INSULAR G=A7D3tDOUBLE THORN=A7D5zbWYNNgCAPITAL LETTER MIDDLE SCOTS S",
     "gSMALL LETTER MIDDLE SCOTS SgCAPITAL LETTER SIGMOID SgSMALL LETTER SIGMOID S",
     "=A7F2aMODIFIER LETTER CAPITAL CyFyQaLATIN CAPITAL LETTER REVERSED HALF H",
     "gSMALL LETTER REVERSED HALF HgEPIGRAPHIC LETTER SIDEWAYS I",
     "aMODIFIER LETTER CAPITAL H WITH STROKEqSMALL LIGATURE OEaLATIN LETTER SMALL CAPITAL TURNED M",
     "gEPIGRAPHIC LETTER REVERSED FziPyINVERTED Mza LONGAyARCHAIC MaSYLOTI NAGRI LETTER AuI",
     "nSIGN DVISVARAnLETTER UuEuOnSIGN HASANTAnLETTER KOvHOuGOvHOnSIGN ANUSVARAnLETTER COvHOuJOvHO",
     "uTTOwHOuDDOwHOuTOvHOuDOvHOuNOuPOvHOuBOvHOuMOuROuLOuRROuSOuHOnVOWEL SIGN AyIyUyEyOO",
     "nPOETRY MARK-1za2za3za4nSIGN ALTERNATE HASANTA=A830aNORTH INDIC FRACTION ONE QUARTERzaHALF",
     "vTHREE QUARTERSvONE SIXTEENTHzaEIGHTHvTHREE SIXTEENTHSmQUARTER MARKmPLACEHOLDER MARK",
     "mRUPEE MARKmQUANTITY MARK=A840aPHAGS-PA LETTER KArHAqGAqNGAqCArHAqJAqNYAqTArHAqDAqNAqPArHA",
     "qBAqMAqTSAsHAqDZAqWAqZHArAqSMALL AqYAqRAqLAqSHArAqHAqAqIqUqEqOqQAqXAqFAqGGAqEE",
     "jSUBJOINED LETTER WAzbYAjLETTER TTAsHAqDDAqNNAqALTERNATE YAqVOICELESS SHAvD HAqASPIRATED FA",
     "jSUBJOINED LETTER RAlPERFIXED LETTER RAjLETTER CANDRABINDUjSINGLE HEAD MARKjDOUBLE HEAD MARK",
     "jMARK SHADoDOUBLE SHAD=A880aSAURASHTRA SIGN ANUSVARAqVISARGAlLETTER AtAsItIsUtUsVOCALIC RzcR",
     "zbLzcLsEtEsAIsOtOsAUsKAtHAsGAtHAsNGAsCAtHAsJAtHAsNYAsTTAuHAsDDAuHAsNNAsTAtHAsDAtHAsNAsPAtHA",
     "sBAtHAsMAsYAsRAsLAsVAsSHAtSAtAsHAsLLAlCONSONANT SIGN HAARUlVOWEL SIGN AAwIxIwUxUwVOCALIC R",
     "zgRzfLzgLwExEwAIwOxOwAUlSIGN VIRAMAqCANDRABINDU=A8CElDANDAmOUBLE DANDAmIGIT ZEROrONErTWO",
     "sHREErFOURsIVErSIXsEVENrEIGHTrNINE=A8E0aCOMBINING DEVANAGARI DIGIT ZEROzcONEzcTWOzdHREE",
     "zcFOURzdIVEzcSIXzdEVENzcEIGHTzcNINEvLETTER AzdUzdKAzdNAzdPAzdRAzdVIvSIGN AVAGRAHA",
     "aDEVANAGARI SIGN SPACING CANDRABINDUqCANDRABINDU VIRAMAqDOUBLE CANDRABINDU VIRAMA",
     "qCANDRABINDU TWOzeHREEzdAVAGRAHAqPUSHPIKAlGAP FILLERlCARETlHEADSTROKElSIGN SIDDHAMlJAIN OM",
     "lLETTER AYlVOWEL SIGN AYaKAYAH LI DIGIT ZEROpONEpTWOqHREEpFOURqIVEpSIXqEVENpEIGHTpNINE",
     "jLETTER KArHAqGAqNGAqSArHAqZAqNYAqTAqHTAqNAqPArHAqMAqDAqBAqRAqYAqLAqWAqTHAqHAqVAqCAqAqOEqI",
     "qOOjVOWEL UEpEpUpEEpOjTONE PLOPHUoCALYAt PLOPHUjSIGN CWIoSHYAaREJANG LETTER KAoGAoNGAoTAoDA",
     "oNAoPAoBAoMAoCAoJAoNYAoSAoRAoLAoYAoWAoHAoMBAoNGGApDApYJAoAhVOWEL SIGN IsUsEsAIsOsAUsEUtA",
     "hCONSONANT SIGN NGwNwRwHhVIRAMA=A95FhSECTION MARKaHANGUL CHOSEONG TIKEUT-MIEUMxPIEUPxSIOS",
     "xCIEUCqRIEUL-KIYEOKwSSANGKIYEOKwTIKEUTwSSANGTIKEUTwMIEUMwPIEUPwSSANGPIEUPwKAPYEOUNPIEUPwSIOS",
     "wCIEUCwKHIEUKHqMIEUM-KIYEOKwTIKEUTwSIOSqPIEUP-SIOS-THIEUTHwKHIEUKHwHIEUHqSSANGSIOS-PIEUP",
     "qIEUNG-RIEULwHIEUHqSSANGCIEUC-HIEUHvTHIEUTHqPHIEUPH-HIEUHqHIEUH-SIOSqSSANGYEORINHIEUH",
     "=A980aJAVANESE SIGN PANYANGGAoCECAKoLAYARoWIGNYANjLETTER AqI KAWIqIrIqUqPA CEREKqNGA LELET",
     "za RASWADIqEqAIqOqKAs SASAKtMURDAqGAs MURDAqNGAqCAs MURDAqJAqNYA MURDAqJA MAHAPRANAqNYAqTTA",
     "t MAHAPRANAqDDAt MAHAPRANAqNA MURDAqTAs MURDAqDAs MAHAPRANAqNAqPAs MURDAqBAs MURDAqMAqYAqRA",
     "s AGUNGqLAqWAqSA MURDAuAHAPRANArAqHAjSIGN CECAK TELUjVOWEL SIGN TARUNGvOLONGuWULUy MELIK",
     "uSUKUy MENDUTuTALINGuDIRGA MUREuPEPETjCONSONANT SIGN KERETyPENGKALyCAKRAjPANGKON",
     "jLEFT RERENGGANjRIGHT RERENGGANjPADA ANDAPoMADYAoLUHURoWINDUoPANGKAToLINGSApUNGSIoADEGs ADEG",
     "oPISELEHjTURNED PADA PISELEH=A9CFjPANGRANGKEPjDIGIT ZEROpONEpTWOqHREEpFOURqIVEpSIXqEVEN",
     "pEIGHTpNINE=A9DEjPADA TIRTA TUMETESoISEN-ISENaMYANMAR LETTER SHAN GHAuCHAuJHAuNNAuBHA",
     "iSIGN SHAN SAWiMODIFIER LETTER SHAN REDUPLICATIONiLETTER TAI LAING NYAzaFAzaGAzbHAzaJAzbHA",
     "zaDDAzcHAzaNNAiTAI LAING DIGIT ZEROyONEyTWOzaHREEyFOURzaIVEySIXzaEVENyEIGHTyNINE",
     "iLETTER TAI LAING LLAzaDAzbHAzaBAzbHA=AA00aCHAM LETTER AmImUmEmAImOmKAnHAmGAnHAmNGUEoAmCHA",
     "oHAmJAnHAmNHUEoAoJAmTAnHAmDAnHAmNUEnAmDDAmPAnPAnHAmBAnHAmMUEnAmBBAmYAmRAmLAmVAmSSAnAmHA",
     "fVOWEL SIGN AAqIrIqEIqUqOEqOqAIrUqUEfCONSONANT SIGN YAuRAuLAuWA=AA40fLETTER FINAL KsGsNG",
     "fCONSONANT SIGN FINAL NGfLETTER FINAL CHsTsNsPsYsRsLsSSfCONSONANT SIGN FINAL MzbH",
     "=AA50fDIGIT ZEROlONElTWOmHREElFOURmIVElSIXmEVENlEIGHTlNINE=AA5CfPUNCTUATION SPIRALrDANDA",
     "sOUBLE DANDArTRIPLE DANDAaMYANMAR LETTER KHAMTI GAwCAxHAwJAxHAwNYAwTTAyHAwDDAyHAxHAwNAwSAwHA",
     "xHAwFAiMODIFIER LETTER KHAMTI REDUPLICATIONiLETTER KHAMTI XAwZAwRAjOGOGRAM KHAMTI OAYyQNyHM",
     "iSYMBOL AITON EXCLAMATIONvONEvTWOiLETTER AITON RAiSIGN PAO KAREN TONEnTAI LAING TONE-2zd5",
     "iLETTER SHWE PALAUNG CHAzdSHAaTAI VIET LETTER LOW KOqHIGH KOqLOW KHOqHIGH KHOqLOW KHHO",
     "qHIGH KHHOqLOW GOqHIGH GOqLOW NGOqHIGH NGOqLOW COqHIGH COqLOW CHOqHIGH CHOqLOW SOqHIGH SO",
     "qLOW NYOqHIGH NYOqLOW DOqHIGH DOqLOW TOqHIGH TOqLOW THOqHIGH THOqLOW NOqHIGH NOqLOW BO",
     "qHIGH BOqLOW POqHIGH POqLOW PHOqHIGH PHOqLOW FOqHIGH FOqLOW MOqHIGH MOqLOW YOqHIGH YOqLOW RO",
     "qHIGH ROqLOW LOqHIGH LOqLOW VOqHIGH VOqLOW HOqHIGH HOqLOW OqHIGH OjMAI KANGjVOWEL AApIpUEpU",
     "pEpOjMAI KHITjVOWEL IApUEAqApAUEqYqNqMjTONE MAI EKsNUENGsTHOsSONG=AADBjSYMBOL KONqNUENGqSAM",
     "qHO HOIqKOI KOIaMEETEI MAYEK LETTER EuOuCHAuNYAuTTAwHAuDDAwHAuNNAuSHAvSAnVOWEL SIGN IIyUU",
     "yAAIzaUzaAUnCHEIKHANnAHANG KHUDAMoNJInSYLLABLE REPETITION MARKnWORD REPETITION MARK",
     "nVOWEL SIGN VISARGAoIRAMA=AB01aETHIOPIC SYLLABLE TTHUvIvAAvEEvEvO=AB09sDDHUvIvAAvEEvEvO",
     "=AB11tZUuIuAAuEEuEuO=AB20sCCHHAwUwIwAAwEEwEwO=AB28sBBAuUuIuAAuEEuEuO",
     "=AB30aLATIN SMALL LETTER BARRED ALPHAtA REVERSED-SCHWAtBLACKLETTER EuARRED EtE WITH FLOURISH",
     "tLENIS FtSCRIPT G WITH CROSSED-TAILtL WITH INVERTED LAZY SzbDOUBLE MIDDLE TILDEzbMIDDLE RING",
     "tM WITH CROSSED-TAILtN WITH CROSSED-TAILtENG WITH CROSSED-TAILtBLACKLETTER Ozh WITH STROKE",
     "tOPEN O WITH STROKEtINVERTED OEtTURNED OE WITH STROKEzjHORIZONTAL STROKEzc OPEN-O",
     "zj WITH STROKEtSTIRRUP RgLETTER SMALL CAPITAL R WITH RIGHT LEGgSMALL LETTER R WITHOUT HANDLE",
     "tDOUBLE RtR WITH CROSSED-TAILtDOUBLE R WITH CROSSED-TAILtSCRIPT Rzc WITH RINGtBASELINE ESH",
     "tU WITH SHORT RIGHT LEGvBAR WITH SHORT RIGHT LEGuItTURNED UItU WITH LEFT HOOKtCHI",
     "w WITH LOW RIGHT RINGzhLEFT SERIFtX WITH LOW RIGHT RINGzdNG LEFT LEGzo AND LOW RIGHT RING",
     "zpWITH SERIFtY WITH SHORT RIGHT LEGaMODIFIER BREVE WITH INVERTED BREVEjLETTER SMALL HENG",
     "wL WITH INVERTED LAZY SzeMIDDLE TILDEwU WITH LEFT HOOKaLATIN SMALL LETTER SAKHA YAT",
     "tIOTIFIED EtOPEN OEtUOtINVERTED ALPHAaGREEK LETTER SMALL CAPITAL OMEGA",
     "aLATIN SMALL LETTER DZ DIGRAPH WITH RETROFLEX HOOKtTS DIGRAPH WITH RETROFLEX HOOK",
     "uURNED R WITH MIDDLE TILDEaMODIFIER LETTER SMALL TURNED WqLEFT TACKqRIGHT TACK",
     "=AB70aCHEROKEE SMALL LETTER AwEwIwOwUwVwGAwKAwGExIxOxUxVwHAxExIxOxUxVwLAxExIxOxUxVwMAxExIxO",
     "xUwNAwHNAwNAHxExIxOxUxVwQUAyEyIyOyUyVwSAwSxExIxOxUxVwDAwTAwDEwTEwDIwTIwDOxUxVxLAwTLAyEyIyOyU",
     "yVxSAyEyIyOyUyVwWAxExIxOxUxVwYAaMEETEI MAYEK LETTER KOKuSAMuLAIuMITuPAuNAuCHILuTILuKHOUuNGOU",
     "uTHOUuWAIuYANGuHUKuUNuIuPHAMuATIYAuGOKuJHAMuRAIuBAuJILuDILuGHOUuDHOUuBHAMuKOK LONSUM",
     "uLAI LONSUMuMIT LONSUMuPA LONSUMuNA LONSUMuTIL LONSUMuNGOU LONSUMuI LONSUMnVOWEL SIGN ONAP",
     "yINAPyANAPyYENAPySOUNAPyUNAPyCHEINAPyNUNGnCHEIKHEInLUM IYEKnAPUN IYEK=ABF0nDIGIT ZEROtONE",
     "tTWOuHREEtFOURuIVEtSIXuEVENtEIGHTtNINE=D7B0aHANGUL JUNGSEONG O-YEOtO-IrYO-AvEuEOrU-YEOtI-I",
     "rYU-AEuOrEU-AuEOuEuOrI-YA-OvEuEOuEtO-ItYOuUtIrARAEA-AxE=D7CBiONGSEONG NIEUN-RIEULxCHIEUCH",
     "rSSANGTIKEUTzd-PIEUPrTIKEUT-PIEUPySIOSzd-KIYEOKyCIEUCzaHIEUCHyTHIEUTHrRIEUL-SSANGKIYEOK",
     "xKIYEOK-HIEUHrSSANGRIEUL-KHIEUKHrRIEUL-MIEUM-HIEUHxPIEUP-TIKEUTzePHIEUPHxYESIEUNG",
     "zaORINHIEUH-HIEUHrKAPYEOUNRIEULrMIEUM-NIEUNxSSANGNIEUNrSSANGMIEUMrMIEUM-PIEUP-SIOSxCIEUC",
     "rPIEUP-TIKEUTxRIEUL-PHIEUPHxMIEUMrSSANGPIEUPrPIEUP-SIOS-TIKEUTxCIEUCyHIEUCHrSIOS-MIEUM",
     "wKAPYEOUNPIEUPsSANGSIOS-KIYEOKzcTIKEUTsIOS-PANSIOSwCIEUCxHIEUCHwTHIEUTHwHIEUHrPANSIOS-PIEUP",
     "zaKAPYEOUNPIEUPrYESIEUNG-MIEUMzbHIEUHrCIEUC-PIEUPxSSANGPIEUPrSSANGCIEUCrPHIEUPH-SIOS",
     "zaTHIEUTH=FB00aLATIN SMALL LIGATURE FFwIwLwFIxLvLONG S TvST",
     "=FB13aARMENIAN SMALL LIGATURE MEN NOWzdECHzdINIyVEW NOWyMEN XEH",
     "=FB1DaHEBREW LETTER YOD WITH HIRIQhPOINT JUDEO-SPANISH VARIKAhLIGATURE YIDDISH YOD YOD PATAH",
     "iETTER ALTERNATIVE AYINoWIDE ALEFtDALETtHEtKAFtLAMEDtFINAL MEMtRESHtTAV",
     "oALTERNATIVE PLUS SIGNoSHIN WITH SHIN DOTzaIN DOTyDAGESH AND SHIN DOTzlIN DOT",
     "oALEF WITH PATAHyQAMATSyMAPIQoBET WITH DAGESHoGIMEL WITH DAGESHoDALET WITH DAGESH",
     "oHE WITH MAPIQoVAV WITH DAGESHoZAYIN WITH DAGESH=FB38oTET WITH DAGESHoYOD WITH DAGESH",
     "oFINAL KAF WITH DAGESHoKAF WITH DAGESHoLAMED WITH DAGESH=FB3EoMEM WITH DAGESH",
     "=FB40oNUN WITH DAGESHoSAMEKH WITH DAGESH=FB43oFINAL PE WITH DAGESHoPE WITH DAGESH",
     "=FB46oTSADI WITH DAGESHoQOF WITH DAGESHoRESH WITH DAGESHoSHIN WITH DAGESHoTAV WITH DAGESH",
     "oVAV WITH HOLAMoBET WITH RAFEoKAF WITH RAFEoPE WITH RAFEiIGATURE ALEF LAMED",
     "aARABIC LETTER ALEF WASLA ISOLATED FORMzaFINAL FORMoBEEH ISOLATED FORMtFINAL FORM",
     "tINITIAL FORMtMEDIAL FORMoPEH ISOLATED FORMsFINAL FORMsINITIAL FORMsMEDIAL FORM",
     "oBEHEH ISOLATED FORMuFINAL FORMuINITIAL FORMuMEDIAL FORMoTTEHEH ISOLATED FORMvFINAL FORM",
     "vINITIAL FORMvMEDIAL FORMpEHEH ISOLATED FORMuFINAL FORMuINITIAL FORMuMEDIAL FORM",
     "pTEH ISOLATED FORMtFINAL FORMtINITIAL FORMtMEDIAL FORMoVEH ISOLATED FORMsFINAL FORM",
     "sINITIAL FORMsMEDIAL FORMoPEHEH ISOLATED FORMuFINAL FORMuINITIAL FORMuMEDIAL FORM",
     "oDYEH ISOLATED FORMtFINAL FORMtINITIAL FORMtMEDIAL FORMoNYEH ISOLATED FORMtFINAL FORM",
     "tINITIAL FORMtMEDIAL FORMoTCHEH ISOLATED FORMuFINAL FORMuINITIAL FORMuMEDIAL FORM",
     "tEH ISOLATED FORMwFINAL FORMwINITIAL FORMwMEDIAL FORMoDDAHAL ISOLATED FORMvFINAL FORM",
     "pAHAL ISOLATED FORMuFINAL FORMpUL ISOLATED FORMsFINAL FORMpDAL ISOLATED FORMtFINAL FORM",
     "oJEH ISOLATED FORMsFINAL FORMoRREH ISOLATED FORMtFINAL FORMoKEHEH ISOLATED FORMuFINAL FORM",
     "uINITIAL FORMuMEDIAL FORMoGAF ISOLATED FORMsFINAL FORMsINITIAL FORMsMEDIAL FORM",
     "pUEH ISOLATED FORMtFINAL FORMtINITIAL FORMtMEDIAL FORMoNGOEH ISOLATED FORMuFINAL FORM",
     "uINITIAL FORMuMEDIAL FORMpOON GHUNNA ISOLATED FORMzbFINAL FORMoRNOON ISOLATED FORM",
     "uFINAL FORMuINITIAL FORMuMEDIAL FORMoHEH WITH YEH ABOVE ISOLATED FORMziFINAL FORM",
     "sGOAL ISOLATED FORMxFINAL FORMxINITIAL FORMxMEDIAL FORMsDOACHASHMEE ISOLATED FORM",
     "zfFINAL FORMzfINITIAL FORMzfMEDIAL FORMoYEH BARREE ISOLATED FORMzaFINAL FORM",
     "zaWITH HAMZA ABOVE ISOLATED FORMzrFINAL FORMhSYMBOL DOT ABOVEsBELOWoTWO DOTS ABOVExBELOW",
     "pHREE DOTS ABOVEzaBELOWzaPOINTING DOWNWARDS ABOVEztBELOWoFOUR DOTS ABOVEyBELOW",
     "oDOUBLE VERTICAL BAR BELOWoTWO DOTS VERTICALLY ABOVEzjBELOWoRINGoSMALL TAH ABOVEyBELOW",
     "oWASLA ABOVE=FBD3hLETTER NG ISOLATED FORMrFINAL FORMrINITIAL FORMrMEDIAL FORM",
     "oU ISOLATED FORMqFINAL FORMoOE ISOLATED FORMrFINAL FORMoYU ISOLATED FORMrFINAL FORM",
     "oU WITH HAMZA ABOVE ISOLATED FORMoVE ISOLATED FORMrFINAL FORMoKIRGHIZ OE ISOLATED FORM",
     "zaFINAL FORMwYU ISOLATED FORMzaFINAL FORMoE ISOLATED FORMqFINAL FORMqINITIAL FORM",
     "qMEDIAL FORMoUIGHUR KAZAKH KIRGHIZ ALEF MAKSURA INITIAL FORMzyMEDIAL FORM",
     "iIGATURE YEH WITH HAMZA ABOVE WITH ALEF ISOLATED FORMzwFINAL FORMzsE ISOLATED FORM",
     "zuFINAL FORMzrWAW ISOLATED FORMzvFINAL FORMzrU ISOLATED FORMztFINAL FORMzrOE ISOLATED FORM",
     "zuFINAL FORMzrYU ISOLATED FORMzuFINAL FORMzrE ISOLATED FORMztFINAL FORMztINITIAL FORM",
     "qUIGHUR KIRGHIZ YEH WITH HAMZA ABOVE WITH ALEF MAKSURA ISOLATED FORMzzuFINAL FORM",
     "zzuINITIAL FORMiETTER FARSI YEH ISOLATED FORMyFINAL FORMyINITIAL FORMyMEDIAL FORM",
     "iIGATURE YEH WITH HAMZA ABOVE WITH JEEM ISOLATED FORMzrHAH ISOLATED FORMzrMEEM ISOLATED FORM",
     "zrALEF MAKSURA ISOLATED FORMzrYEH ISOLATED FORMqBEH WITH JEEM ISOLATED FORM",
     "zaHAH ISOLATED FORMzaKHAH ISOLATED FORMzaMEEM ISOLATED FORMzaALEF MAKSURA ISOLATED FORM",
     "zaYEH ISOLATED FORMqTEH WITH JEEM ISOLATED FORMzaHAH ISOLATED FORMzaKHAH ISOLATED FORM",
     "zaMEEM ISOLATED FORMzaALEF MAKSURA ISOLATED FORMzaYEH ISOLATED FORM",
     "rHEH WITH JEEM ISOLATED FORMzbMEEM ISOLATED FORMzbALEF MAKSURA ISOLATED FORM",
     "zbYEH ISOLATED FORMqJEEM WITH HAH ISOLATED FORMzbMEEM ISOLATED FORM",
     "qHAH WITH JEEM ISOLATED FORMzaMEEM ISOLATED FORMqKHAH WITH JEEM ISOLATED FORM",
     "zbHAH ISOLATED FORMzbMEEM ISOLATED FORMqSEEN WITH JEEM ISOLATED FORMzbHAH ISOLATED FORM",
     "zbKHAH ISOLATED FORMzbMEEM ISOLATED FORMrAD WITH HAH ISOLATED FORMzaMEEM ISOLATED FORM",
     "qDAD WITH JEEM ISOLATED FORMzaHAH ISOLATED FORMzaKHAH ISOLATED FORMzaMEEM ISOLATED FORM",
     "qTAH WITH HAH ISOLATED FORMzaMEEM ISOLATED FORMqZAH WITH MEEM ISOLATED FORM",
     "qAIN WITH JEEM ISOLATED FORMzaMEEM ISOLATED FORMqGHAIN WITH JEEM ISOLATED FORM",
     "zcMEEM ISOLATED FORMqFEH WITH JEEM ISOLATED FORMzaHAH ISOLATED FORMzaKHAH ISOLATED FORM",
     "zaMEEM ISOLATED FORMzaALEF MAKSURA ISOLATED FORMzaYEH ISOLATED FORM",
     "qQAF WITH HAH ISOLATED FORMzaMEEM ISOLATED FORMzaALEF MAKSURA ISOLATED FORM",
     "zaYEH ISOLATED FORMqKAF WITH ALEF ISOLATED FORMzaJEEM ISOLATED FORMzaHAH ISOLATED FORM",
     "zaKHAH ISOLATED FORMzaLAM ISOLATED FORMzaMEEM ISOLATED FORMzaALEF MAKSURA ISOLATED FORM",
     "zaYEH ISOLATED FORMqLAM WITH JEEM ISOLATED FORMzaHAH ISOLATED FORMzaKHAH ISOLATED FORM",
     "zaMEEM ISOLATED FORMzaALEF MAKSURA ISOLATED FORMzaYEH ISOLATED FORM",
     "qMEEM WITH JEEM ISOLATED FORMzbHAH ISOLATED FORMzbKHAH ISOLATED FORMzbMEEM ISOLATED FORM",
     "zbALEF MAKSURA ISOLATED FORMzbYEH ISOLATED FORMqNOON WITH JEEM ISOLATED FORM",
     "zbHAH ISOLATED FORMzbKHAH ISOLATED FORMzbMEEM ISOLATED FORMzbALEF MAKSURA ISOLATED FORM",
     "zbYEH ISOLATED FORMqHEH WITH JEEM ISOLATED FORMzaMEEM ISOLATED FORM",
     "zaALEF MAKSURA ISOLATED FORMzaYEH ISOLATED FORMqYEH WITH JEEM ISOLATED FORM",
     "zaHAH ISOLATED FORMzaKHAH ISOLATED FORMzaMEEM ISOLATED FORMzaALEF MAKSURA ISOLATED FORM",
     "zaYEH ISOLATED FORMqTHAL WITH SUPERSCRIPT ALEF ISOLATED FORM",
     "qREH WITH SUPERSCRIPT ALEF ISOLATED FORMqALEF MAKSURA WITH SUPERSCRIPT ALEF ISOLATED FORM",
     "qSHADDA WITH DAMMATAN ISOLATED FORMzdKASRATAN ISOLATED FORMzdFATHA ISOLATED FORM",
     "zdDAMMA ISOLATED FORMzdKASRA ISOLATED FORMzdSUPERSCRIPT ALEF ISOLATED FORM",
     "qYEH WITH HAMZA ABOVE WITH REH FINAL FORMzrZAIN FINAL FORMzrMEEM FINAL FORMzrNOON FINAL FORM",
     "zrALEF MAKSURA FINAL FORMzrYEH FINAL FORMqBEH WITH REH FINAL FORMzaZAIN FINAL FORM",
     "zaMEEM FINAL FORMzaNOON FINAL FORMzaALEF MAKSURA FINAL FORMzaYEH FINAL FORM",
     "qTEH WITH REH FINAL FORMzaZAIN FINAL FORMzaMEEM FINAL FORMzaNOON FINAL FORM",
     "zaALEF MAKSURA FINAL FORMzaYEH FINAL FORMrHEH WITH REH FINAL FORMzbZAIN FINAL FORM",
     "zbMEEM FINAL FORMzbNOON FINAL FORMzbALEF MAKSURA FINAL FORMzbYEH FINAL FORM",
     "qFEH WITH ALEF MAKSURA FINAL FORMzaYEH FINAL FORMqQAF WITH ALEF MAKSURA FINAL FORM",
     "zaYEH FINAL FORMqKAF WITH ALEF FINAL FORMzaLAM FINAL FORMzaMEEM FINAL FORM",
     "zaALEF MAKSURA FINAL FORMzaYEH FINAL FORMqLAM WITH MEEM FINAL FORMzaALEF MAKSURA FINAL FORM",
     "zaYEH FINAL FORMqMEEM WITH ALEF FINAL FORMzbMEEM FINAL FORMqNOON WITH REH FINAL FORM",
     "zbZAIN FINAL FORMzbMEEM FINAL FORMzbNOON FINAL FORMzbALEF MAKSURA FINAL FORMzbYEH FINAL FORM",
     "qALEF MAKSURA WITH SUPERSCRIPT ALEF FINAL FORMqYEH WITH REH FINAL FORMzaZAIN FINAL FORM",
     "zaMEEM FINAL FORMzaNOON FINAL FORMzaALEF MAKSURA FINAL FORMzaYEH FINAL FORM",
     "zaHAMZA ABOVE WITH JEEM INITIAL FORMzrHAH INITIAL FORMzrKHAH INITIAL FORMzrMEEM INITIAL FORM",
     "zrHEH INITIAL FORMqBEH WITH JEEM INITIAL FORMzaHAH INITIAL FORMzaKHAH INITIAL FORM",
     "zaMEEM INITIAL FORMzaHEH INITIAL FORMqTEH WITH JEEM INITIAL FORMzaHAH INITIAL FORM",
     "zaKHAH INITIAL FORMzaMEEM INITIAL FORMzaHEH INITIAL FORMrHEH WITH MEEM INITIAL FORM",
     "qJEEM WITH HAH INITIAL FORMzbMEEM INITIAL FORMqHAH WITH JEEM INITIAL FORMzaMEEM INITIAL FORM",
     "qKHAH WITH JEEM INITIAL FORMzbMEEM INITIAL FORMqSEEN WITH JEEM INITIAL FORM",
     "zbHAH INITIAL FORMzbKHAH INITIAL FORMzbMEEM INITIAL FORMrAD WITH HAH INITIAL FORM",
     "zaKHAH INITIAL FORMzaMEEM INITIAL FORMqDAD WITH JEEM INITIAL FORMzaHAH INITIAL FORM",
     "zaKHAH INITIAL FORMzaMEEM INITIAL FORMqTAH WITH HAH INITIAL FORMqZAH WITH MEEM INITIAL FORM",
     "qAIN WITH JEEM INITIAL FORMzaMEEM INITIAL FORMqGHAIN WITH JEEM INITIAL FORM",
     "zcMEEM INITIAL FORMqFEH WITH JEEM INITIAL FORMzaHAH INITIAL FORMzaKHAH INITIAL FORM",
     "zaMEEM INITIAL FORMqQAF WITH HAH INITIAL FORMzaMEEM INITIAL FORMqKAF WITH JEEM INITIAL FORM",
     "zaHAH INITIAL FORMzaKHAH INITIAL FORMzaLAM INITIAL FORMzaMEEM INITIAL FORM",
     "qLAM WITH JEEM INITIAL FORMzaHAH INITIAL FORMzaKHAH INITIAL FORMzaMEEM INITIAL FORM",
     "zaHEH INITIAL FORMqMEEM WITH JEEM INITIAL FORMzbHAH INITIAL FORMzbKHAH INITIAL FORM",
     "zbMEEM INITIAL FORMqNOON WITH JEEM INITIAL FORMzbHAH INITIAL FORMzbKHAH INITIAL FORM",
     "zbMEEM INITIAL FORMzbHEH INITIAL FORMqHEH WITH JEEM INITIAL FORMzaMEEM INITIAL FORM",
     "zaSUPERSCRIPT ALEF INITIAL FORMqYEH WITH JEEM INITIAL FORMzaHAH INITIAL FORM",
     "zaKHAH INITIAL FORMzaMEEM INITIAL FORMzaHEH INITIAL FORMzbAMZA ABOVE WITH MEEM MEDIAL FORM",
     "zrHEH MEDIAL FORMqBEH WITH MEEM MEDIAL FORMzaHEH MEDIAL FORMqTEH WITH MEEM MEDIAL FORM",
     "zaHEH MEDIAL FORMrHEH WITH MEEM MEDIAL FORMzbHEH MEDIAL FORMqSEEN WITH MEEM MEDIAL FORM",
     "zbHEH MEDIAL FORMrHEEN WITH MEEM MEDIAL FORMzcHEH MEDIAL FORMqKAF WITH LAM MEDIAL FORM",
     "zaMEEM MEDIAL FORMqLAM WITH MEEM MEDIAL FORMqNOON WITH MEEM MEDIAL FORMzbHEH MEDIAL FORM",
     "qYEH WITH MEEM MEDIAL FORMzaHEH MEDIAL FORMqSHADDA WITH FATHA MEDIAL FORMzdDAMMA MEDIAL FORM",
     "zdKASRA MEDIAL FORMqTAH WITH ALEF MAKSURA ISOLATED FORMzaYEH ISOLATED FORM",
     "qAIN WITH ALEF MAKSURA ISOLATED FORMzaYEH ISOLATED FORM",
     "qGHAIN WITH ALEF MAKSURA ISOLATED FORMzcYEH ISOLATED FORM",
     "qSEEN WITH ALEF MAKSURA ISOLATED FORMzbYEH ISOLATED FORM",
     "rHEEN WITH ALEF MAKSURA ISOLATED FORMzcYEH ISOLATED FORMqHAH WITH ALEF MAKSURA ISOLATED FORM",
     "zaYEH ISOLATED FORMqJEEM WITH ALEF MAKSURA ISOLATED FORMzbYEH ISOLATED FORM",
     "qKHAH WITH ALEF MAKSURA ISOLATED FORMzbYEH ISOLATED FORMqSAD WITH ALEF MAKSURA ISOLATED FORM",
     "zaYEH ISOLATED FORMqDAD WITH ALEF MAKSURA ISOLATED FORMzaYEH ISOLATED FORM",
     "qSHEEN WITH JEEM ISOLATED FORMzcHAH ISOLATED FORMzcKHAH ISOLATED FORMzcMEEM ISOLATED FORM",
     "zcREH ISOLATED FORMrEEN WITH REH ISOLATED FORMrAD WITH REH ISOLATED FORM",
     "qDAD WITH REH ISOLATED FORMqTAH WITH ALEF MAKSURA FINAL FORMzaYEH FINAL FORM",
     "qAIN WITH ALEF MAKSURA FINAL FORMzaYEH FINAL FORMqGHAIN WITH ALEF MAKSURA FINAL FORM",
     "zcYEH FINAL FORMqSEEN WITH ALEF MAKSURA FINAL FORMzbYEH FINAL FORM",
     "rHEEN WITH ALEF MAKSURA FINAL FORMzcYEH FINAL FORMqHAH WITH ALEF MAKSURA FINAL FORM",
     "zaYEH FINAL FORMqJEEM WITH ALEF MAKSURA FINAL FORMzbYEH FINAL FORM",
     "qKHAH WITH ALEF MAKSURA FINAL FORMzbYEH FINAL FORMqSAD WITH ALEF MAKSURA FINAL FORM",
     "zaYEH FINAL FORMqDAD WITH ALEF MAKSURA FINAL FORMzaYEH FINAL FORMqSHEEN WITH JEEM FINAL FORM",
     "zcHAH FINAL FORMzcKHAH FINAL FORMzcMEEM FINAL FORMzcREH FINAL FORMrEEN WITH REH FINAL FORM",
     "rAD WITH REH FINAL FORMqDAD WITH REH FINAL FORMqSHEEN WITH JEEM INITIAL FORM",
     "zcHAH INITIAL FORMzcKHAH INITIAL FORMzcMEEM INITIAL FORMrEEN WITH HEH INITIAL FORM",
     "rHEEN WITH HEH INITIAL FORMqTAH WITH MEEM INITIAL FORMqSEEN WITH JEEM MEDIAL FORM",
     "zbHAH MEDIAL FORMzbKHAH MEDIAL FORMrHEEN WITH JEEM MEDIAL FORMzcHAH MEDIAL FORM",
     "zcKHAH MEDIAL FORMqTAH WITH MEEM MEDIAL FORMqZAH WITH MEEM MEDIAL FORM",
     "qALEF WITH FATHATAN FINAL FORMzkISOLATED FORMaORNATE LEFT PARENTHESIShRIGHT PARENTHESIS",
     "aARABIC LIGATURE RAHIMAHU ALLAAHsDI ALLAAHU ANHzhAAzhUMzjAAziNNAqSALLALLAAHU ALAYHI WA-AALIH",
     "qALAYHI AS-SALAAMwM AS-SALAAMxAA AS-SALAAMw AS-SALAATU WAS-SALAAMqQUDDISA SIRRAH",
     "qSALLALLAHU ALAYHI WAAALIHEE WA-SALLAMqALAYHAA AS-SALAAMqTABAARAKA WA-TAAALAA",
     "qRAHIMAHUM ALLAAHqTEH WITH JEEM WITH MEEM INITIAL FORMzaHAH WITH JEEM FINAL FORM",
     "zoINITIAL FORMzjMEEM INITIAL FORMzaKHAH WITH MEEM INITIAL FORMzaMEEM WITH JEEM INITIAL FORM",
     "zkHAH INITIAL FORMzkKHAH INITIAL FORMqJEEM WITH MEEM WITH HAH FINAL FORMzpINITIAL FORM",
     "qHAH WITH MEEM WITH YEH FINAL FORMzkALEF MAKSURA FINAL FORM",
     "qSEEN WITH HAH WITH JEEM INITIAL FORMzbJEEM WITH HAH INITIAL FORMzlALEF MAKSURA FINAL FORM",
     "zbMEEM WITH HAH FINAL FORMzpINITIAL FORMzlJEEM INITIAL FORMzlMEEM FINAL FORMzqINITIAL FORM",
     "rAD WITH HAH WITH HAH FINAL FORMznINITIAL FORMzaMEEM WITH MEEM FINAL FORM",
     "rHEEN WITH HAH WITH MEEM FINAL FORMzqINITIAL FORMzcJEEM WITH YEH FINAL FORM",
     "zcMEEM WITH KHAH FINAL FORMzrINITIAL FORMzmMEEM FINAL FORMzrINITIAL FORM",
     "qDAD WITH HAH WITH ALEF MAKSURA FINAL FORMzaKHAH WITH MEEM FINAL FORMzpINITIAL FORM",
     "qTAH WITH MEEM WITH HAH FINAL FORMzoINITIAL FORMzkMEEM INITIAL FORMzkYEH FINAL FORM",
     "qAIN WITH JEEM WITH MEEM FINAL FORMzaMEEM WITH MEEM FINAL FORMzpINITIAL FORM",
     "zkALEF MAKSURA FINAL FORMqGHAIN WITH MEEM WITH MEEM FINAL FORMzmYEH FINAL FORM",
     "zmALEF MAKSURA FINAL FORMqFEH WITH KHAH WITH MEEM FINAL FORMzpINITIAL FORM",
     "qQAF WITH MEEM WITH HAH FINAL FORMzkMEEM FINAL FORMqLAM WITH HAH WITH MEEM FINAL FORM",
     "zjYEH FINAL FORMzjALEF MAKSURA FINAL FORMzaJEEM WITH JEEM INITIAL FORMzpFINAL FORM",
     "zaKHAH WITH MEEM FINAL FORMzpINITIAL FORMzaMEEM WITH HAH FINAL FORMzoINITIAL FORM",
     "qMEEM WITH HAH WITH JEEM INITIAL FORMzkMEEM INITIAL FORMzkYEH FINAL FORM",
     "zbJEEM WITH HAH INITIAL FORMzlMEEM INITIAL FORMzbKHAH WITH JEEM INITIAL FORM",
     "zlMEEM INITIAL FORM=FD92zbJEEM WITH KHAH INITIAL FORMqHEH WITH MEEM WITH JEEM INITIAL FORM",
     "zkMEEM INITIAL FORMqNOON WITH HAH WITH MEEM INITIAL FORMzkALEF MAKSURA FINAL FORM",
     "zbJEEM WITH MEEM FINAL FORMzqINITIAL FORMzlALEF MAKSURA FINAL FORMzbMEEM WITH YEH FINAL FORM",
     "zlALEF MAKSURA FINAL FORMqYEH WITH MEEM WITH MEEM FINAL FORMzpINITIAL FORM",
     "qBEH WITH KHAH WITH YEH FINAL FORMqTEH WITH JEEM WITH YEH FINAL FORM",
     "zkALEF MAKSURA FINAL FORMzaKHAH WITH YEH FINAL FORMzkALEF MAKSURA FINAL FORM",
     "zaMEEM WITH YEH FINAL FORMzkALEF MAKSURA FINAL FORMqJEEM WITH MEEM WITH YEH FINAL FORM",
     "zbHAH WITH ALEF MAKSURA FINAL FORMzbMEEM WITH ALEF MAKSURA FINAL FORM",
     "qSEEN WITH KHAH WITH ALEF MAKSURA FINAL FORMrAD WITH HAH WITH YEH FINAL FORM",
     "rHEEN WITH HAH WITH YEH FINAL FORMqDAD WITH HAH WITH YEH FINAL FORM",
     "qLAM WITH JEEM WITH YEH FINAL FORMzaMEEM WITH YEH FINAL FORM",
     "qYEH WITH HAH WITH YEH FINAL FORMzaJEEM WITH YEH FINAL FORMzaMEEM WITH YEH FINAL FORM",
     "qMEEM WITH MEEM WITH YEH FINAL FORMqQAF WITH MEEM WITH YEH FINAL FORM",
     "qNOON WITH HAH WITH YEH FINAL FORMqQAF WITH MEEM WITH HAH INITIAL FORM",
     "qLAM WITH HAH WITH MEEM INITIAL FORMqAIN WITH MEEM WITH YEH FINAL FORM",
     "qKAF WITH MEEM WITH YEH FINAL FORMqNOON WITH JEEM WITH HAH INITIAL FORM",
     "qMEEM WITH KHAH WITH YEH FINAL FORMqLAM WITH JEEM WITH MEEM INITIAL FORM",
     "qKAF WITH MEEM WITH MEEM FINAL FORMqLAM WITH JEEM WITH MEEM FINAL FORM",
     "qNOON WITH JEEM WITH HAH FINAL FORMqJEEM WITH HAH WITH YEH FINAL FORM",
     "qHAH WITH JEEM WITH YEH FINAL FORMqMEEM WITH JEEM WITH YEH FINAL FORM",
     "qFEH WITH MEEM WITH YEH FINAL FORMqBEH WITH HAH WITH YEH FINAL FORM",
     "qKAF WITH MEEM WITH MEEM INITIAL FORMqAIN WITH JEEM WITH MEEM INITIAL FORM",
     "qSAD WITH MEEM WITH MEEM INITIAL FORMrEEN WITH KHAH WITH YEH FINAL FORM",
     "qNOON WITH JEEM WITH YEH FINAL FORM=FDCFqSALAAMUHU ALAYNAA",
     "=FDF0tLA USED AS KORANIC STOP SIGN ISOLATED FORM",
     "qQALA USED AS KORANIC STOP SIGN ISOLATED FORMqALLAH ISOLATED FORMrKBAR ISOLATED FORM",
     "qMOHAMMAD ISOLATED FORMqSALAM ISOLATED FORMqRASOUL ISOLATED FORMqALAYHE ISOLATED FORM",
     "qWASALLAM ISOLATED FORMqSALLA ISOLATED FORMvLLAHOU ALAYHE WASALLAMqJALLAJALALOUHOUaRIAL SIGN",
     "aARABIC LIGATURE BISMILLAH AR-RAHMAN AR-RAHEEMqSUBHAANAHU WA TAAALAAqAZZA WA JALL",
     "=FE10aPRESENTATION FORM FOR VERTICAL COMMAzgIDEOGRAPHIC COMMAzsFULL STOPzgCOLONzgSEMICOLON",
     "zgEXCLAMATION MARKzgQUESTION MARKzgLEFT WHITE LENTICULAR BRACKET",
     "zgRIGHT WHITE LENTICULAR BRAKCETzgHORIZONTAL ELLIPSIS=FE20aCOMBINING LIGATURE LEFT HALF",
     "tRIGHT HALFkDOUBLE TILDE LEFT HALFxRIGHT HALFkMACRON LEFT HALFrRIGHT HALFkCONJOINING MACRON",
     "kLIGATURE LEFT HALF BELOWtRIGHT HALF BELOWkTILDE LEFT HALF BELOWqRIGHT HALF BELOW",
     "kMACRON LEFT HALF BELOWrRIGHT HALF BELOWkCONJOINING MACRON BELOWlYRILLIC TITLO LEFT HALF",
     "zaRIGHT HALFaPRESENTATION FORM FOR VERTICAL TWO DOT LEADERzgEM DASHzhN DASHzgLOW LINE",
     "zgWAVY LOW LINEzgLEFT PARENTHESISzgRIGHT PARENTHESISzgLEFT CURLY BRACKET",
     "zgRIGHT CURLY BRACKETzgLEFT TORTOISE SHELL BRACKETzgRIGHT TORTOISE SHELL BRACKET",
     "zgLEFT BLACK LENTICULAR BRACKETzgRIGHT BLACK LENTICULAR BRACKETzgLEFT DOUBLE ANGLE BRACKET",
     "zgRIGHT DOUBLE ANGLE BRACKETzgLEFT ANGLE BRACKETzgRIGHT ANGLE BRACKETzgLEFT CORNER BRACKET",
     "zgRIGHT CORNER BRACKETzgLEFT WHITE CORNER BRACKETzgRIGHT WHITE CORNER BRACKETaSESAME DOT",
     "aWHITE SESAME DOTaPRESENTATION FORM FOR VERTICAL LEFT SQUARE BRACKETzgRIGHT SQUARE BRACKET",
     "aDASHED OVERLINEaCENTRELINE OVERLINEaWAVY OVERLINEaDOUBLE WAVY OVERLINEbASHED LOW LINE",
     "aCENTRELINE LOW LINEaWAVY LOW LINEaSMALL COMMAgIDEOGRAPHIC COMMAgFULL STOP=FE54gSEMICOLON",
     "gCOLONgQUESTION MARKgEXCLAMATION MARKhM DASHgLEFT PARENTHESISgRIGHT PARENTHESIS",
     "gLEFT CURLY BRACKETgRIGHT CURLY BRACKETgLEFT TORTOISE SHELL BRACKET",
     "gRIGHT TORTOISE SHELL BRACKETgNUMBER SIGNgAMPERSANDhSTERISKgPLUS SIGNgHYPHEN-MINUS",
     "gLESS-THAN SIGNgGREATER-THAN SIGNgEQUALS SIGN=FE68gREVERSE SOLIDUSgDOLLAR SIGNgPERCENT SIGN",
     "gCOMMERCIAL AT=FE70aARABIC FATHATAN ISOLATED FORMhTATWEEL WITH FATHATAN ABOVE",
     "hDAMMATAN ISOLATED FORMhTAIL FRAGMENThKASRATAN ISOLATED FORM=FE76hFATHA ISOLATED FORM",
     "nMEDIAL FORMhDAMMA ISOLATED FORMnMEDIAL FORMhKASRA ISOLATED FORMnMEDIAL FORM",
     "hSHADDA ISOLATED FORMoMEDIAL FORMiUKUN ISOLATED FORMnMEDIAL FORMhLETTER HAMZA ISOLATED FORM",
     "oALEF WITH MADDA ABOVE ISOLATED FORMzlFINAL FORMyHAMZA ABOVE ISOLATED FORMzlFINAL FORM",
     "oWAW WITH HAMZA ABOVE ISOLATED FORMzkFINAL FORMoALEF WITH HAMZA BELOW ISOLATED FORM",
     "zlFINAL FORMoYEH WITH HAMZA ABOVE ISOLATED FORMzkFINAL FORMzkINITIAL FORMzkMEDIAL FORM",
     "oALEF ISOLATED FORMtFINAL FORMoBEH ISOLATED FORMsFINAL FORMsINITIAL FORMsMEDIAL FORM",
     "oTEH MARBUTA ISOLATED FORMzbFINAL FORMsISOLATED FORMsFINAL FORMsINITIAL FORMsMEDIAL FORM",
     "pHEH ISOLATED FORMtFINAL FORMtINITIAL FORMtMEDIAL FORMoJEEM ISOLATED FORMtFINAL FORM",
     "tINITIAL FORMtMEDIAL FORMoHAH ISOLATED FORMsFINAL FORMsINITIAL FORMsMEDIAL FORM",
     "oKHAH ISOLATED FORMtFINAL FORMtINITIAL FORMtMEDIAL FORMoDAL ISOLATED FORMsFINAL FORM",
     "oTHAL ISOLATED FORMtFINAL FORMoREH ISOLATED FORMsFINAL FORMoZAIN ISOLATED FORMtFINAL FORM",
     "oSEEN ISOLATED FORMtFINAL FORMtINITIAL FORMtMEDIAL FORMpHEEN ISOLATED FORMuFINAL FORM",
     "uINITIAL FORMuMEDIAL FORMpAD ISOLATED FORMsFINAL FORMsINITIAL FORMsMEDIAL FORM",
     "oDAD ISOLATED FORMsFINAL FORMsINITIAL FORMsMEDIAL FORMoTAH ISOLATED FORMsFINAL FORM",
     "sINITIAL FORMsMEDIAL FORMoZAH ISOLATED FORMsFINAL FORMsINITIAL FORMsMEDIAL FORM",
     "oAIN ISOLATED FORMsFINAL FORMsINITIAL FORMsMEDIAL FORMoGHAIN ISOLATED FORMuFINAL FORM",
     "uINITIAL FORMuMEDIAL FORMoFEH ISOLATED FORMsFINAL FORMsINITIAL FORMsMEDIAL FORM",
     "oQAF ISOLATED FORMsFINAL FORMsINITIAL FORMsMEDIAL FORMoKAF ISOLATED FORMsFINAL FORM",
     "sINITIAL FORMsMEDIAL FORMoLAM ISOLATED FORMsFINAL FORMsINITIAL FORMsMEDIAL FORM",
     "oMEEM ISOLATED FORMtFINAL FORMtINITIAL FORMtMEDIAL FORMoNOON ISOLATED FORMtFINAL FORM",
     "tINITIAL FORMtMEDIAL FORMoHEH ISOLATED FORMsFINAL FORMsINITIAL FORMsMEDIAL FORM",
     "oWAW ISOLATED FORMsFINAL FORMoALEF MAKSURA ISOLATED FORMzcFINAL FORMoYEH ISOLATED FORM",
     "sFINAL FORMsINITIAL FORMsMEDIAL FORMiIGATURE LAM WITH ALEF WITH MADDA ABOVE ISOLATED FORM",
     "zwFINAL FORMzkHAMZA ABOVE ISOLATED FORMzwFINAL FORMzqBELOW ISOLATED FORMzwFINAL FORM",
     "zfISOLATED FORMzfFINAL FORM=FEFFaZERO WIDTH NO-BREAK SPACE=FF01aFULLWIDTH EXCLAMATION MARK",
     "kQUOTATION MARKkNUMBER SIGNkDOLLAR SIGNkPERCENT SIGNkAMPERSANDlPOSTROPHEkLEFT PARENTHESIS",
     "kRIGHT PARENTHESISkASTERISKkPLUS SIGNkCOMMAkHYPHEN-MINUSkFULL STOPkSOLIDUSkDIGIT ZEROqONE",
     "qTWOrHREEqFOURrIVEqSIXrEVENqEIGHTqNINEkCOLONkSEMICOLONkLESS-THAN SIGNkEQUALS SIGN",
     "kGREATER-THAN SIGNkQUESTION MARKkCOMMERCIAL ATkLATIN CAPITAL LETTER AzgBzgCzgDzgEzgFzgGzgH",
     "zgIzgJzgKzgLzgMzgNzgOzgPzgQzgRzgSzgTzgUzgVzgWzgXzgYzgZlEFT SQUARE BRACKETkREVERSE SOLIDUS",
     "lIGHT SQUARE BRACKETkCIRCUMFLEX ACCENTkLOW LINEkGRAVE ACCENTkLATIN SMALL LETTER AzeBzeCzeD",
     "zeEzeFzeGzeHzeIzeJzeKzeLzeMzeNzeOzePzeQzeRzeSzeTzeUzeVzeWzeXzeYzeZlEFT CURLY BRACKET",
     "kVERTICAL LINEkRIGHT CURLY BRACKETkTILDEkLEFT WHITE PARENTHESISkRIGHT WHITE PARENTHESIS",
     "aHALFWIDTH IDEOGRAPHIC FULL STOPkLEFT CORNER BRACKETkRIGHT CORNER BRACKETkIDEOGRAPHIC COMMA",
     "kKATAKANA MIDDLE DOTtLETTER WOzbSMALL AzhIzhUzhEzhOzhYAziUziOzhTU",
     "s-HIRAGANA PROLONGED SOUND MARKs LETTER AzbIzbUzbEzbOzbKAzcIzcUzcEzcOzbSAzcIzcUzcEzcOzbTAzcI",
     "zcUzcEzcOzbNAzcIzcUzcEzcOzbHAzcIzcUzcEzcOzbMAzcIzcUzcEzcOzbYAzcUzcOzbRAzcIzcUzcEzcOzbWAzbN",
     "tVOICED SOUND MARKtSEMI-VOICED SOUND MARKkHANGUL FILLERrLETTER KIYEOKySSANGKIYEOK",
     "yKIYEOK-SIOSyNIEUNze-CIEUCzfHIEUHyTIKEUTySSANGTIKEUTyRIEULze-KIYEOKzfMIEUMzfPIEUPzfSIOS",
     "zfTHIEUTHzfPHIEUPHzfHIEUHyMIEUMyPIEUPySSANGPIEUPyPIEUP-SIOSySIOSzaSANGSIOSyIEUNGyCIEUC",
     "ySSANGCIEUCyCHIEUCHyKHIEUKHyTHIEUTHyPHIEUPHyHIEUH=FFC2yAzaEyYAzbEyEOyE=FFCAyYEOzaEyOyWAzbE",
     "yOE=FFD2yYOyUyWEOzaEzaIyYU=FFDAyEUyYIyI=FFE0aFULLWIDTH CENT SIGNkPOUND SIGNkNOT SIGNkMACRON",
     "kBROKEN BARkYEN SIGNkWON SIGN=FFE8aHALFWIDTH FORMS LIGHT VERTICALkLEFTWARDS ARROW",
     "kUPWARDS ARROWkRIGHTWARDS ARROWkDOWNWARDS ARROWkBLACK SQUAREkWHITE CIRCLE",
     "=FFF9aINTERLINEAR ANNOTATION ANCHORxSEPARATORxTERMINATORaOBJECT REPLACEMENT CHARACTER",
     "aREPLACEMENT CHARACTER"]

end Inlay.Text
