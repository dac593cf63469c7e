/-
  Inlay.Text.NameTable.Syllables
  ────────────────────────────────
  **NAMES OF CHARACTERS.**

  The Unicode 14 names of the letters from U+1000 to U+1FFF, in the form that
  `Inlay.Text.CharacterName` reads.
-/

namespace Inlay.Text

/-- The names of the letters from U+1000 to U+1FFF. -/
def syllablesNames : String :=
  String.join
    ["=1000aMYANMAR LETTER KAqHApGAqHApNGApCAqHApJAqHApNYAqNYApTTArHApDDArHApNNApTAqHApDAqHApNApPA",
     "qHApBAqHApMApYApRApLApWApSApHApLLApApSHAN ApIqIpUqUpEpMON EpOpAUiVOWEL SIGN TALL AAtAAtIuItU",
     "uUtEtAItMON IIxOtE ABOVEiSIGN ANUSVARAnDOT BELOWnVISARGApRAMAnASATiCONSONANT SIGN MEDIAL YA",
     "zfRAzfWAzfHAiLETTER GREAT SAiDIGIT ZEROoONEoTWOpHREEoFOURpIVEoSIXpEVENoEIGHToNINE",
     "iSIGN LITTLE SECTIONnSECTIONjYMBOL LOCATIVEpCOMPLETEDpAFOREMENTIONEDpGENITIVEiLETTER SHAqSA",
     "pVOCALIC RyRxLyLiVOWEL SIGN VOCALIC RzdRzcLzdLiLETTER MON NGAtJHAtBBAvE",
     "iCONSONANT SIGN MON MEDIAL NAzjMAzjLAiLETTER SGAW KAREN SHAiVOWEL SIGN SGAW KAREN EU",
     "iTONE MARK SGAW KAREN HATHIzeKE PHOiLETTER WESTERN PWO KAREN THAziPWA",
     "iVOWEL SIGN WESTERN PWO KAREN EUzmUEiSIGN WESTERN PWO KAREN TONE-1zl2zl3zl4zl5",
     "iLETTER EASTERN PWO KAREN NNAziYWAziGHWAiVOWEL SIGN GEBA KAREN ItKAYAH OEzaUzaEE",
     "iLETTER SHAN KAvHAuGAuCAuZAuNYAuDAuNAuPHAuFAuBAuTHAuHAiCONSONANT SIGN SHAN MEDIAL WA",
     "iVOWEL SIGN SHAN AAyEza ABOVEyFINAL YiSIGN SHAN TONE-2x3x5x6sCOUNCIL TONE-2zg3",
     "zbEMPHATIC TONEiLETTER RUMAI PALAUNG FAiSIGN RUMAI PALAUNG TONE-5jHAN DIGIT ZEROtONEtTWO",
     "uHREEtFOURuIVEtSIXuEVENtEIGHTtNINEjIGN KHAMTI TONE-1za3iVOWEL SIGN AITON AzbI",
     "iSYMBOL SHAN ONEuEXCLAMATIONaGEORGIAN CAPITAL LETTER ANyBANyGANyDONyENyVINyZENyTANyINyKAN",
     "yLASyMANyNARyONyPARyZHARyRAEySANyTARyUNyPHARyKHARyGHANyQARySHINyCHINzaANyJILyCILzaHARyXAN",
     "yJHANyHAEzaEzaIEyWEyHARzaOE=10C7yYN=10CDyAEN=10D0jLETTER ANqBANqGANqDONqENqVINqZENqTANqIN",
     "qKANqLASqMANqNARqONqPARqZHARqRAEqSANqTARqUNqPHARqKHARqGHANqQARqSHINqCHINrANqJILqCILrHARqXAN",
     "qJHANqHAErErIEqWEqHARrOEqFIqYNqELIFIqTURNED GANqAINjPARAGRAPH SEPARATOR",
     "aMODIFIER LETTER GEORGIAN NARaGEORGIAN LETTER AENqHARD SIGNqLABIAL SIGN",
     "aHANGUL CHOSEONG KIYEOKqSSANGKIYEOKqNIEUNqTIKEUTqSSANGTIKEUTqRIEULqMIEUMqPIEUPqSSANGPIEUP",
     "rIOSrSANGSIOSqIEUNGqCIEUCqSSANGCIEUCqCHIEUCHqKHIEUKHqTHIEUTHqPHIEUPHqHIEUHqNIEUN-KIYEOK",
     "qSSANGNIEUNqNIEUN-TIKEUTwPIEUPqTIKEUT-KIYEOKqRIEUL-NIEUNqSSANGRIEULqRIEUL-HIEUH",
     "qKAPYEOUNRIEULqMIEUM-PIEUPqKAPYEOUNMIEUMqPIEUP-KIYEOKwNIEUNwTIKEUTwSIOSzb-KIYEOKzcTIKEUT",
     "zcPIEUPxSANGSIOSxIOS-CIEUCwCIEUCxHIEUCHwTHIEUTHwPHIEUPHqKAPYEOUNPIEUPySSANGPIEUPqSIOS-KIYEOK",
     "vNIEUNvTIKEUTvRIEULvMIEUMvPIEUPzb-KIYEOKvSSANGSIOSvIEUNGvCIEUCwHIEUCHvKHIEUKHvTHIEUTH",
     "vPHIEUPHvHIEUHqCHITUEUMSIOSzaSANGSIOSrEONGCHIEUMSIOSzdSANGSIOSqPANSIOSqIEUNG-KIYEOKwTIKEUT",
     "wMIEUMwPIEUPwSIOSwPANSIOSqSSANGIEUNGqIEUNG-CIEUCxHIEUCHwTHIEUTHwPHIEUPHqYESIEUNGqCIEUC-IEUNG",
     "rHITUEUMCIEUCySSANGCIEUCrEONGCHIEUMCIEUCzcSSANGCIEUCrHIEUCH-KHIEUKHyHIEUHtTUEUMCHIEUCH",
     "rEONGCHIEUMCHIEUCHqPHIEUPH-PIEUPqKAPYEOUNPHIEUPHqSSANGHIEUHqYEORINHIEUHqKIYEOK-TIKEUT",
     "qNIEUN-SIOSwCIEUCwHIEUHqTIKEUT-RIEULqFILLERhJUNGSEONG FILLERrAsErYAtErEOrErYEOsErOrWAtErOE",
     "rYOrUrWEOsEsIrYUrEUrYIrIrA-OtUrYA-OuYOrEO-OuUuEUrYEO-OvUrO-EOtEtYEtOtUrYO-YAwEvEOuOuIrU-AuE",
     "tEO-EUtYEtUrYU-AuEOuEuYEOvEuUuIrEU-UuEUrYI-UrI-AtYAtOtUtEUtARAEArARAEAw-EOxUxIrSSANGARAEA",
     "rA-EUrYA-UsEO-YArO-YAvEiONGSEONG KIYEOKrSSANGKIYEOKrKIYEOK-SIOSrNIEUNw-CIEUCxHIEUHrTIKEUT",
     "rRIEULw-KIYEOKxMIEUMxPIEUPxSIOSxTHIEUTHxPHIEUPHxHIEUHrMIEUMrPIEUPw-SIOSrSIOSsSANGSIOSrIEUNG",
     "rCIEUCsHIEUCHrKHIEUKHrTHIEUTHrPHIEUPHrHIEUHrKIYEOK-RIEULySIOS-KIYEOKrNIEUN-KIYEOKxTIKEUT",
     "xSIOSxPANSIOSxTHIEUTHrTIKEUT-KIYEOKyRIEULrRIEUL-KIYEOK-SIOSxNIEUNxTIKEUTze-HIEUHrSSANGRIEUL",
     "rRIEUL-MIEUM-KIYEOKzeSIOSxPIEUP-SIOSzeHIEUHxKAPYEOUNPIEUPxSSANGSIOSxPANSIOSxKHIEUKH",
     "xYEORINHIEUHrMIEUM-KIYEOKxRIEULxPIEUPxSIOSySANGSIOSxPANSIOSxCHIEUCHxHIEUHrKAPYEOUNMIEUM",
     "rPIEUP-RIEULxPHIEUPHxHIEUHrKAPYEOUNPIEUPrSIOS-KIYEOKwTIKEUTwRIEULwPIEUPrPANSIOSrIEUNG-KIYEOK",
     "xSSANGKIYEOKrSSANGIEUNGrIEUNG-KHIEUKHrYESIEUNGza-SIOSzbPANSIOSrPHIEUPH-PIEUPrKAPYEOUNPHIEUPH",
     "rHIEUH-NIEUNxRIEULxMIEUMxPIEUPrYEORINHIEUHrKIYEOK-NIEUNyPIEUPyCHIEUCHyKHIEUKHyHIEUH",
     "rSSANGNIEUNaETHIOPIC SYLLABLE HAtUtItAAtEEtEtOuAsLAtUtItAAtEEtEtOtWAsHHAuUuIuAAuEEuEuOuWAsMA",
     "tUtItAAtEEtEtOtWAsSZAuUuIuAAuEEuEuOuWAsRAtUtItAAtEEtEtOtWAsSAtUtItAAtEEtEtOtWAtHAuUuIuAAuEE",
     "uEuOuWAsQAtUtItAAtEEtEtOuAtWA=124AuIuAAuEEuE=1250tHAuUuIuAAuEEuEuO=1258uWA=125AvIvAAvEEvE",
     "=1260sBAtUtItAAtEEtEtOtWAsVAtUtItAAtEEtEtOtWAsTAtUtItAAtEEtEtOtWAsCAtUtItAAtEEtEtOtWAsXAtUtI",
     "tAAtEEtEtOuAtWA=128AuIuAAuEEuE=1290sNAtUtItAAtEEtEtOtWAtYAuUuIuAAuEEuEuOuWAsGLOTTAL AzbUzbI",
     "zbAAzbEEzbEzbOzbWAsKAtUtItAAtEEtEtOuAtWA=12B2uIuAAuEEuE=12B8tXAuUuIuAAuEEuEuO=12C0uWA=12C2vI",
     "vAAvEEvE=12C8sWAtUtItAAtEEtEtOuAsPHARYNGEAL AzeUzeIzeAAzeEEzeEzeO=12D8sZAtUtItAAtEEtEtOtWA",
     "tHAuUuIuAAuEEuEuOuWAsYAtUtItAAtEEtEtOuAsDAtUtItAAtEEtEtOtWAtDAuUuIuAAuEEuEuOuWAsJAtUtItAAtEE",
     "tEtOtWAsGAtUtItAAtEEtEtOuAtWA=1312uIuAAuEEuE=1318tGAuUuIuAAuEEuEuOuWAAsTHAuUuIuAAuEEuEuOuWA",
     "sCHAuUuIuAAuEEuEuOuWAsPHAuUuIuAAuEEuEuOuWAsTSAuUuIuAAuEEuEuOuWAtZAuUuIuAAuEEuEuOvAsFAtUtItAA",
     "tEEtEtOtWAsPAtUtItAAtEEtEtOtWAsRYAsMYAsFYA=135DjCOMBINING GEMINATION AND VOWEL LENGTH MARK",
     "tVOWEL LENGTH MARKtGEMINATION MARKjSECTION MARKjWORDSPACEjFULL STOPjCOMMAjSEMICOLONjCOLON",
     "jPREFACE COLONjQUESTION MARKjPARAGRAPH SEPARATORjDIGIT ONEpTWOqHREEpFOURqIVEpSIXqEVENpEIGHT",
     "pNINEjNUMBER TENrWENTYrHIRTYqFORTYrIFTYqSIXTYrEVENTYqEIGHTYqNINETYqHUNDREDqTEN THOUSAND",
     "=1380jSYLLABLE SEBATBEIT MWAsMWIuEEuEsSEBATBEIT BWAsBWIuEEuEsSEBATBEIT FWAsFWIuEEuE",
     "sSEBATBEIT PWAsPWIuEEuEjTONAL MARK YIZETuDERETuRIKRIKuSHORT RIKRIKuDIFATuKENATuCHIRETuHIDET",
     "uDERET-HIDETuKURT=13A0aCHEROKEE LETTER AqEqIqOqUqVqGAqKAqGErIrOrUrVqHArErIrOrUrVqLArErIrOrU",
     "rVqMArErIrOrUqNAqHNAqNAHrErIrOrUrVqQUAsEsIsOsUsVqSAqSrErIrOrUrVqDAqTAqDEqTEqDIqTIqDOrUrVrLA",
     "qTLAsEsIsOsUsVrSAsEsIsOsUsVqWArErIrOrUrVqYArErIrOrUrVqMV=13F8jSMALL LETTER YExIxOxUxVwMV",
     "=1400bANADIAN SYLLABICS HYPHENtEtAAItIuItOuOtY-CREE OOtCARRIER EEzcItAuAtWEvST-CREE WEuI",
     "uEST-CREE WIuIIuEST-CREE WIIuOuEST-CREE WOuOOuEST-CREE WOOtNASKAPI WOOtWAuEST-CREE WAuAA",
     "uEST-CREE WAAtNASKAPI WAAtAItY-CREE WtGLOTTAL STOPtFINAL ACUTEzaGRAVEzaBOTTOM HALF RING",
     "zaTOP HALF RINGzaRIGHT HALF RINGzcNGzaDOUBLE ACUTEzhSHORT VERTICAL STROKESzaMIDDLE DOT",
     "zaSHORT HORIZONTAL STROKEzaPLUSzaDOWN TACKtENtINtONtANtPEuAAIuIvIuOvOtY-CREE POOtCARRIER HEE",
     "zdItPAvAuWEtWEST-CREE PWEtPWItWEST-CREE PWItPWIItWEST-CREE PWIItPWOtWEST-CREE PWOtPWOO",
     "tWEST-CREE PWOOtPWAtWEST-CREE PWAtPWAAtWEST-CREE PWAAtY-CREE PWAAtPtWEST-CREE PtCARRIER HtTE",
     "uAAIuIvIuOvOtY-CREE TOOtCARRIER DEEzdItTAvAuWEtWEST-CREE TWEtTWItWEST-CREE TWItTWII",
     "tWEST-CREE TWIItTWOtWEST-CREE TWOtTWOOtWEST-CREE TWOOtTWAtWEST-CREE TWAtTWAAtWEST-CREE TWAA",
     "tNASKAPI TWAAtTuTEvIvOvAtKEuAAIuIvIuOvOtY-CREE KOOtKAvAuWEtWEST-CREE KWEtKWItWEST-CREE KWI",
     "tKWIItWEST-CREE KWIItKWOtWEST-CREE KWOtKWOOtWEST-CREE KWOOtKWAtWEST-CREE KWAtKWAA",
     "tWEST-CREE KWAAtNASKAPI KWAAtKuWtSOUTH-SLAVEY KEHziIHziOHziAHtCEuAAIuIvIuOvOtY-CREE COOtCAvA",
     "uWEtWEST-CREE CWEtCWItWEST-CREE CWItCWIItWEST-CREE CWIItCWOtWEST-CREE CWOtCWOO",
     "tWEST-CREE CWOOtCWAtWEST-CREE CWAtCWAAtWEST-CREE CWAAtNASKAPI CWAAtCtSAYISI THtMEuAAIuIvIuO",
     "vOtY-CREE MOOtMAvAuWEtWEST-CREE MWEtMWItWEST-CREE MWItMWIItWEST-CREE MWIItMWOtWEST-CREE MWO",
     "tMWOOtWEST-CREE MWOOtMWAtWEST-CREE MWAtMWAAtWEST-CREE MWAAtNASKAPI MWAAtMtWEST-CREE MtMH",
     "tATHAPASCAN MtSAYISI MtNEuAAIuIvIuOvOtY-CREE NOOtNAvAuWEtWEST-CREE NWEtNWAtWEST-CREE NWA",
     "tNWAAtWEST-CREE NWAAtNASKAPI NWAAtNtCARRIER NGtNHtLEuAAIuIvIuOvOtY-CREE LOOtLAvAuWE",
     "tWEST-CREE LWEtLWItWEST-CREE LWItLWIItWEST-CREE LWIItLWOtWEST-CREE LWOtLWOOtWEST-CREE LWOO",
     "tLWAtWEST-CREE LWAtLWAAtWEST-CREE LWAAtLtWEST-CREE LtMEDIAL LtSEuAAIuIvIuOvOtY-CREE SOOtSAvA",
     "uWEtWEST-CREE SWEtSWItWEST-CREE SWItSWIItWEST-CREE SWIItSWOtWEST-CREE SWOtSWOO",
     "tWEST-CREE SWOOtSWAtWEST-CREE SWAtSWAAtWEST-CREE SWAAtNASKAPI SWAAtStATHAPASCAN StSW",
     "tBLACKFOOT StMOOSE-CREE SKtNASKAPI SKWzd-WzdPWAzdTWAzdKWAzdCWAtSHEvIwIvOwOvAwAvWE",
     "tWEST-CREE SHWEtSHWItWEST-CREE SHWItSHWIItWEST-CREE SHWIItSHWOtWEST-CREE SHWOtSHWOO",
     "tWEST-CREE SHWOOtSHWAtWEST-CREE SHWAtSHWAAtWEST-CREE SHWAAtSHtYEuAAIuIvIuOvOu-CREE YOOuAvA",
     "uWEtWEST-CREE YWEtYWItWEST-CREE YWItYWIItWEST-CREE YWIItYWOtWEST-CREE YWOtYWOO",
     "tWEST-CREE YWOOtYWAtWEST-CREE YWAtYWAAtWEST-CREE YWAAtNASKAPI YWAAtYtBIBLE-CREE Y",
     "tWEST-CREE YtSAYISI YItREu-CREE REtWEST-CREE LEtRAAIuIvIuOvOtWEST-CREE LOtRAvAtWEST-CREE LA",
     "tRWAAtWEST-CREE RWAAtRtWEST-CREE RtMEDIAL RtFEuAAIuIvIuOvOuAvAuWAAtWEST-CREE FWAAtFtTHE",
     "tN-CREE THEtTHItN-CREE THItTHIItN-CREE THIItTHOwOvAwAvWAAtWEST-CREE THWAAtTHuTHEwIwOwAvHuYE",
     "vIvOvAtNUNAVIK HEzdIzeIzdOzeOzdAzeAzcHyUT HtHKtQAAIuIvIuOvOuAvAtQtTLHEwIwOwAtWEST-CREE REzfI",
     "zfOzfAtNGAAIvIwIvOwOvAwAuGuNGtSAYISI SHEzdIzdOzdAtWOODS-CREE THEzhIzhOzhAzgHtLHIwIvOwOvAwAuH",
     "tTH-CREE THEzeIzfIzeOzfOzeAzfAzdHtAIVILIK BtBLACKFOOT EzeIzeOzeAzeWEzfIzfOzfAzeNEzfIzfOzfA",
     "zeKEzfIzfOzfAtSAYISI HEzcIzcOzcAtCARRIER GHUzeOzeEzfEzeIzeAzcRUzdOzdEzeEzdIzdAzcWUzdOzdEzeE",
     "zdIzdAzcHWUzeOzeEzfEzeIzeAzcTHUzeOzeEzfEzeIzeAzdTUzeOzeEzfEzeIzeAzcPUzdOzdEzeEzdIzdAzcPzcGU",
     "zdOzdEzeEzdIzdAzcKHUzeOzeEzfEzeIzeAzdKUzeOzeEzfEzeIzeAzdKzcNUzdOzdEzeEzdIzdAzcMUzdOzdEzeEzdI",
     "zdAzcYUzdOzdEzeEzdIzdAzcJUtSAYISI JUtCARRIER JOzdEzeEzdItSAYISI JItCARRIER JAzdJUzeOzeEzfE",
     "zeIzeAzcLUzdOzdEzeEzdIzdAzcDLUzeOzeEzfEzeIzeAzcLHUzeOzeEzfEzeIzeAzcTLHUzfOzfEzgEzfIzfAzeUzeO",
     "zeEzfEzeIzeAzcZUzdOzdEzeEzdIzdAzcZzcINITIAL ZzcDZUzeOzeEzfEzeIzeAzcSUzdOzdEzeEzdIzdAzdHUzeO",
     "zeEzfEzeIzeAzdHzcTSUzeOzeEzfEzeIzeAzcCHUzeOzeEzfEzeIzeAzcTTSUzfOzfEzgEzfIzfAuHI SIGN",
     "tFULL STOPtQAItNGAIuNGIxIwOxOwAxAtWOODS-CREE THWEEziIzjIziOzjOziAzjAzfFINAL THtBLACKFOOT W",
     "aOGHAM SPACE MARKgLETTER BEITHnLUISnFEARNnSAILnNIONnUATHnDAIRnTINNEnCOLLoEIRTnMUINnGORT",
     "nNGEADALnSTRAIFnRUISnAILMnONNnURnEADHADHnIODHADHnEABHADHnORnUILLEANNnIFINnEAMHANCHOLLnPEITH",
     "gFEATHER MARKgREVERSED FEATHER MARK=16A0aRUNIC LETTER FEHU FEOH FE FnVnURUZ UR UnYRnYnW",
     "nTHURISAZ THURS THORNnETHnANSUZ AnOS OnAC AoESCnLONG-BRANCH-OSS OnSHORT-TWIG-OSS OnOoEoN",
     "nRAIDO RAD REID RnKAUNAnCENnKAUN KnGnENGnGEBO GYFU GoARnWUNJO WYNN WnHAGLAZ HpEGL H",
     "nLONG-BRANCH-HAGALL HnSHORT-TWIG-HAGALL HnNAUDIZ NYD NAUD NnSHORT-TWIG-NAUD NnDOTTED-N",
     "nISAZ IS ISS InEnJERAN JnGERnLONG-BRANCH-AR AEnSHORT-TWIG-AR AnIWAZ EOHnPERTHO PEORTH P",
     "nALGIZ EOLHXnSOWILO SoIGEL LONG-BRANCH-SOL SoHORT-TWIG-SOL SnCnZnTIWAZ TIR TYR T",
     "nSHORT-TWIG-TYR TnDnBERKANAN BEORC BJARKAN BnSHORT-TWIG-BJARKAN BnDOTTED-PnOPEN-PnEHWAZ EH E",
     "nMANNAZ MAN MnLONG-BRANCH-MADR MnSHORT-TWIG-MADR MnLAUKAZ LAGU LOGR LnDOTTED-LnINGWAZpG",
     "nDAGAZ DAEG DnOTHALAN ETHEL OnEARnIORnCWEORTHoALCoEALCnSTANnLONG-BRANCH-YRnSHORT-TWIG-YR",
     "nICELANDIC-YRnQnXgSINGLE PUNCTUATIONgMULTIPLE PUNCTUATIONgCROSS PUNCTUATIONgARLAUG SYMBOL",
     "gTVIMADUR SYMBOLgBELGTHOR SYMBOLgLETTER KnSHnOOnFRANKS CASKET OSzcISzcEHzcACzdESC",
     "=1700aTAGALOG LETTER ApIpUpKApGApNGApTApDApNApPApBApMApYApRApLApWApSApHAiVOWEL SIGN ItU",
     "iSIGN VIRAMAnPAMUDPOD=171FiLETTER ARCHAIC RAaHANUNOO LETTER ApIpUpKApGApNGApTApDApNApPApBA",
     "pMApYApRApLApWApSApHAiVOWEL SIGN ItUiSIGN PAMUDPODaPHILIPPINE SINGLE PUNCTUATION",
     "lDOUBLE PUNCTUATION=1740aBUHID LETTER AnInUnKAnGAnNGAnTAnDAnNAnPAnBAnMAnYAnRAnLAnWAnSAnHA",
     "gVOWEL SIGN IrU=1760aTAGBANWA LETTER AqIqUqKAqGAqNGAqTAqDAqNAqPAqBAqMAqYA=176EqLAqWAqSA",
     "=1772jVOWEL SIGN IuU=1780aKHMER LETTER KAoHAoOoHOnNGOnCAoHAoOoHOnNYOnDAnTTHAnDOnTTHOnNNOnTA",
     "oHAoOoHOnNOnBAnPHAoOoHOnMOnYOnROnLOnVOnSHAoSOoAnHAnLAnQAgINDEPENDENT VOWEL QAQzbAzaIzbIzaU",
     "zbKzbUzcVyRYzbYyLYzbYyQEzaAIzaOO TYPE ONEziTWOzaAUgVOWEL INHERENT AQwAmSIGN AArIsIrYsYrUsUsA",
     "rOErYArIErErAEsIrOOrAUgSIGN NIKAHITlREAHMUKlYUUKALEAPINTUlMUUSIKATOANlTRIISAPlBANTOClROBAT",
     "lTOANDAKHIATlKAKABATlAHSDAlSAMYOK SANNYAlVIRIAMlCOENGlBATHAMASATlKHANlBARIYOOSAN",
     "lCAMNUC PII KUUHlLEK TOOlBEYYALlPHNAEK MUANlKOOMUUTgCURRENCY SYMBOL RIELgSIGN AVAKRAHASANYA",
     "mTTHACAN=17E0gDIGIT ZEROmONEmTWOnHREEmFOURnIVEmSIXnEVENmEIGHTmNINE=17F0gSYMBOL LEK ATTAK SON",
     "xMUOYxPIIxBEIyUONxPRAMzc-MUOYzdPIIzdBEIzeUON=1800aMONGOLIAN BIRGAkELLIPSISkCOMMAkFULL STOP",
     "kCOLONkFOUR DOTSkTODO SOFT HYPHENkSIBE SYLLABLE BOUNDARY MARKERkMANCHU COMMArFULL STOP",
     "kNIRUGUkFREE VARIATION SELECTOR ONEzjTWOzkHREEkVOWEL SEPARATORkFREE VARIATION SELECTOR FOUR",
     "kDIGIT ZEROqONEqTWOrHREEqFOURrIVEqSIXrEVENqEIGHTqNINE=1820kLETTER ArErIrOrUrOErUErEErNArANG",
     "rBArPArQArGArMArLArSAsHArTArDArCHArJArYArRArWArFArKAsHArTSArZArHAArZRArLHArZHIrCHI",
     "rTODO LONG VOWEL SIGNwEwIwOwUwOEwUEwANGwBAwPAwQAwGAwMAwTAwDAwCHAwJAwTSAwYAwWAwKAwGAAwHAAwJIA",
     "wNIAwDZArSIBE EwIxYwUEwUwANGwKAwGAwHAwPAwSHAwTAwDAwJAwFAwGAAwHAAwTSAwZAwRAAwCHAwZHArMANCHU I",
     "yKAyRAyFAyZHArCHA WITH TWO DOTS=1880rALI GALI ANUSVARA ONEzbVISARGA ONEzbDAMARUzbUBADAMA",
     "zbINVERTED UBADAMAzbBALUDAzbTHREE BALUDAzbAzbIzbKAzbNGAzbCAzbTTAzdHAzbDDAzbNNAzbTAzbDAzbPA",
     "zcHAzbSSAzbZHAzcAzbAHrTODO ALI GALI TAzgZHArMANCHU ALI GALI GHAziNGAziCAziJHAziTTAziDDHAziTA",
     "ziDHAziSSAziCYAziZHAzjArALI GALI HALF UzgYArMANCHU ALI GALI BHArALI GALI DAGALGA",
     "rMANCHU ALI GALI LHA=18B0aCANADIAN SYLLABICS OYtAYuAYtWAYtPOYuAYuWOYtTAYtKAYuWAYtMAYtNOYuAY",
     "tLAYtSOYuAYuHOYvAYvWOYtYOYuAYtRAYtNWItOJIBWAY NWItNWIItOJIBWAY NWIItNWOtOJIBWAY NWOtNWOO",
     "tOJIBWAY NWOOtRWEEvIwIvOwOvAtOJIBWAY PzcTzcKzcCzcMzcNzcSzdHtEASTERN WtWESTERN W",
     "tFINAL SMALL RINGzaRAISED DOTtR-CREE RWEtWEST-CREE LOOzfAAtTHWEwAuTHWEwOOwAAuLHWEwOO",
     "tSAYISI SHWEzdOOzbHOOtCARRIER GWUzcDENE GEEzcGAAzdWAtSAYISI JUUtCARRIER JWAtBEAVER DENE LzgR",
     "tCARRIER DENTAL S=1900aLIMBU VOWEL-CARRIER LETTERgLETTER KAoHAnGAoHAnNGAnCAoHAnJAoHAnYANnTA",
     "oHAnDAoHAnNAnPAoHAnBAoHAnMAnYAnRAnLAnWAnSHAoSAoAnHAnGYANnTRA=1920gVOWEL SIGN ArIrUrEErAIrOO",
     "rAUrErOgSUBJOINED LETTER YAxRAxWA=1930hMALL LETTER KAtNGAtANUSVARAtTAtNAtPAtMAtRAtLA",
     "hIGN MUKPHRENGlKEMPHRENGlSA-I=1940lLOO=1944gEXCLAMATION MARKgQUESTION MARKgDIGIT ZEROmONE",
     "mTWOnHREEmFOURnIVEmSIXnEVENmEIGHTmNINEaTAI LE LETTER KAoXAoNGAoTSAoSAoYAoTApHAoLAoPApHAoMA",
     "oFAoVAoHAoQAoKHAoTSHAoNAoAoIoEEpHoUoOOoOoUEoEoAUEpI=1970oTONE-2t3t4t5t6",
     "=1980aNEW TAI LUE LETTER HIGH QAtLOW QAtHIGH KAyXAyNGAtLOW KAxXAxNGAtHIGH TSAySAyYAtLOW TSA",
     "xSAxYAtHIGH TAzaHAyNAtLOW TAyHAxNAtHIGH PAzaHAyMAtLOW PAyHAxMAtHIGH FAyVAyLAtLOW FAxVAxLA",
     "tHIGH HAyDAyBAtLOW HAxDAxBAtHIGH KVAyXVAtLOW KVAxXVAtHIGH SUAtLOW SUA",
     "=19B0mVOWEL SIGN VOWEL SHORTENERxAAxIIxUyUxExAExOyAxUExAYyAYxUYxOYyAYxUEYxIYmLETTER FINAL V",
     "zaNGzaNzaMzaKzaDzaBmTONE MARK-1w2=19D0mDIGIT ZEROsONEsTWOtHREEsFOURtIVEsSIXtEVENsEIGHTsNINE",
     "mTHAM DIGIT ONE=19DEmSIGN LAEuVaKHMER SYMBOL PATHAMASATnMUOY KOETnPII KOETnBEI KOEToUON KOET",
     "nPRAM KOETr-MUOY KOETsPII KOETsBEI KOETtUON KOETnDAP KOETq-MUOY KOETrPII KOETrBEI KOET",
     "sUON KOETrPRAM KOETnTUTEYASATnMUOY ROCnPII ROCnBEI ROCoUON ROCnPRAM ROCr-MUOY ROCsPII ROC",
     "sBEI ROCtUON ROCnDAP ROCq-MUOY ROCrPII ROCrBEI ROCsUON ROCrPRAM ROCaBUGINESE LETTER KAqGA",
     "qNGAsKAqPAqBAqMArPAqTAqDAqNArRAqCAqJAqNYAsCAqYAqRAqLAqVAqSAqAqHAjVOWEL SIGN IuUuEuOuAE",
     "=1A1EjPALLAWAjEND OF SECTIONaTAI THAM LETTER HIGH KAwHAwXAqLOW KAvXAvHAqNGAqHIGH CAwHA",
     "qLOW CAuSAuCHAqNYAqRATAqHIGH RATHAqDAqLOW RATHAqRANAqHIGH TAwHAqLOW TAvHAqNAqBAqHIGH PAwHA",
     "vFAqLOW PAuFAuPHAqMAqLOW YAqHIGH YAqRArUEqLArUEqWAqHIGH SHAwSAwAvHAqLLAqAqLOW HAqIrIqUrUqEE",
     "qOOqLAEqGREAT SAjCONSONANT SIGN MEDIAL RAzgLAyLA TANG LAIjSIGN MAI KANG LAI",
     "jCONSONANT SIGN FINAL NGAyLOW PAyHIGH RATHA OR LOW PAyMAyBAySA=1A60jSIGN SAKOTjVOWEL SIGN A",
     "uMAI SATuAAuTALL AAuIvIuUEvUEuUvUuOvA BELOWvYuEuAEuOOuAIuTHAM AIuOA ABOVEjSIGN MAI KANG",
     "oTONE-1t2oKHUEN TONE-3za4za5oRA HAAMoMAI SAMoKHUEN-LUE KARAN",
     "=1A7FjCOMBINING CRYPTOGRAMMIC DOTjHORA DIGIT ZEROuONEuTWOvHREEuFOURvIVEuSIXvEVENuEIGHTuNINE",
     "=1A90jTHAM DIGIT ZEROuONEuTWOvHREEuFOURvIVEuSIXvEVENuEIGHTuNINE=1AA0jSIGN WIANGtWAAKoSAWAN",
     "oKEOWoHOYoDOKMAIoREVERSED ROTATED RANAoMAI YAMOKoKAANsKUUoSATKAANvKUUoHANGoCAANG",
     "=1AB0aCOMBINING DOUBLED CIRCUMFLEX ACCENTlIAERESIS-RINGkINFINITYkDOWNWARDS ARROWkTRIPLE DOT",
     "kX-X BELOWkWIGGLY LINE BELOWkOPEN MARK BELOWkDOUBLE OPEN MARK BELOW",
     "kLIGHT CENTRALIZATION STROKE BELOWkSTRONG CENTRALIZATION STROKE BELOWkPARENTHESES ABOVE",
     "kDOUBLE PARENTHESES ABOVEkPARENTHESES BELOWwOVERLAYkLATIN SMALL LETTER W BELOW",
     "zeTURNED W BELOWlEFT PARENTHESIS ABOVE LEFTkRIGHT PARENTHESIS ABOVE RIGHT",
     "kLEFT PARENTHESIS BELOW LEFTkRIGHT PARENTHESIS BELOW RIGHTkSQUARE BRACKETS ABOVE",
     "kNUMBER SIGN ABOVEkINVERTED DOUBLE ARCH ABOVEkPLUS SIGN ABOVEkDOUBLE PLUS SIGN ABOVEzcBELOW",
     "kTRIPLE ACUTE ACCENTkLATIN SMALL LETTER INSULAR GzmRzmT=1B00aBALINESE SIGN ULU RICEMsCANDRA",
     "oCECEKoSURANGoBISAHjLETTER AKARAv TEDUNGqIKARAv TEDUNGqUKARAv TEDUNGqRA REPAx TEDUNG",
     "qLA LENGAy TEDUNGqEKARAqAIKARAqOKARAv TEDUNGqKAs MAHAPRANAqGAs GORAqNGAqCAs LACAqJAs JERA",
     "qNYAqTA LATIKtMURDA MAHAPRANAqDA MURDA ALPAPRANAzaMAHAPRANAqNA RAMBATqTAs TAWAqDAs MADUqNA",
     "qPAs KAPALqBAs KEMBANGqMAqYAqRAqLAqWAqSA SAGAvPArAqHAjSIGN REREKANjVOWEL SIGN TEDUNGuULU",
     "x SARIuSUKUy ILUTuRA REPAzc TEDUNGuLA LENGAzd TEDUNGuTALINGzb REPAzcTEDUNGzcREPA TEDUNG",
     "uPEPETza TEDUNGjADEG ADEGjLETTER KAF SASAKrHOT SASAKqTZIR SASAKqEF SASAKqVE SASAKqZAL SASAK",
     "qASYURA SASAKrRCHAIC JNYA=1B50jDIGIT ZEROpONEpTWOqHREEpFOURqIVEpSIXqEVENpEIGHTpNINEjPANTI",
     "lMADAjWINDUjCARIK PAMUNGKAHpSIKIpPARERENjPAMENENGjMUSICAL SYMBOL DONGzaENGzaUNGzaANG",
     "zd SURANGzaINGzaAENGzaEUNGzaAINGzbNG GEDEyCOMBINING TEGEHzjENDEPzjKEMPULznLIzjJEGOGAN",
     "zjKEMPUL WITH JEGOGANznLI WITH JEGOGANzjBENDEzjGONGyRIGHT-HAND OPEN DUGzqAGzkCLOSED TUKzsAK",
     "yLEFT-HAND OPEN PANGzpUNGzjCLOSED PLAKzsUKzjOPEN PINGjPANTI LANTANGlMADA LANTANG",
     "=1B80aSUNDANESE SIGN PANYECEKsGLAYARtWISADkLETTER ArIrUrAErOrEsUrKArQArGArNGArCArJArZArNYA",
     "rTArDArNArPArFArVArBArMArYArRArLArWArSArXArHAkCONSONANT SIGN PAMINGKALzcNYAKRAzeIKU",
     "kVOWEL SIGN PANGHULUyYUKUyAELAENGyOLONGxMEPETxNEULEUNGkSIGN PAMAAEHpVIRAMA",
     "kCONSONANT SIGN PASANGAN MAzjWAkLETTER KHArSYAkDIGIT ZEROqONEqTWOrHREEqFOURrIVEqSIXrEVEN",
     "qEIGHTqNINEkAVAGRAHAkLETTER REUrLEUrBHArFINAL KxMaBATAK LETTER AnSIMALUNGUN AnHA",
     "nSIMALUNGUN HAnMANDAILING HAnBAnKARO BAnPAnSIMALUNGUN PAnNAnMANDAILING NAnWAnSIMALUNGUN WA",
     "nPAKPAK WAnGAnSIMALUNGUN GAnJAnDAnRAnSIMALUNGUN RAnMAnSIMALUNGUN MAoOUTHERN TAnNORTHERN TA",
     "nSAoIMALUNGUN SAnMANDAILING SAnYAnSIMALUNGUN YAnNGAnLAnSIMALUNGUN LAnNYAnCAnNDAnMBAnInU",
     "gSIGN TOMPIgVOWEL SIGN ErPAKPAK ErEErIrKARO IrOrKARO OrUs FOR SIMALUNGUN SA",
     "gCONSONANT SIGN NGvHgPANGOLATjONGONAN=1BFCgSYMBOL BINDU NA METEKtPINARBORAStJUDULtPANGOLAT",
     "aLEPCHA LETTER KApLApHAoGApLAoNGAoCApHAoJAoNYAoTApHAoDAoNAoPApLApHAoFApLAoBApLAoMApLAoTSAqHA",
     "oDZAoYAoRAoLAoHApLAoVAoSApHAoWAoAhSUBJOINED LETTER YAyRAhVOWEL SIGN AAsIsOtOsUtUsE",
     "hCONSONANT SIGN KwMwLwNwPwRwTwNYIN-DOwKANGhSIGN RANmNUKTA=1C3BhPUNCTUATION TA-ROL",
     "tNYET THYOOM TA-ROLtCER-WAtTSHOOK CER-WAyKhDIGIT ZEROnONEnTWOoHREEnFOURoIVEnSIXoEVENnEIGHT",
     "nNINE=1C4DhLETTER TTAqHAoDDAaOL CHIKI DIGIT ZEROpONEpTWOqHREEpFOURqIVEpSIXqEVENpEIGHTpNINE",
     "jLETTER LAqATrGrNGrLqLAAqAAKsJsMsWqLIqISrHrNYrRqLUqUCrDrNNrYqLEqEPrDDrNrRRqLOqOTTrBrVrH",
     "jMU TTUDDAGjGAAHLAA TTUDDAAGjMU-GAAHLAA TTUDDAAGjRELAAjPHAARKAAjAHADjPUNCTUATION MUCAAD",
     "vDOUBLE MUCAADaCYRILLIC SMALL LETTER ROUNDED VEwLONG-LEGGED DEwNARROW OwWIDE ESwTALL TE",
     "xHREE-LEGGED TExALL HARD SIGNzcYATwUNBLENDED UK=1C90aGEORGIAN MTAVRULI CAPITAL LETTER AN",
     "ziBANziGANziDONziENziVINziZENziTANziINziKANziLASziMANziNARziONziPARziZHARziRAEziSANziTARziUN",
     "ziPHARziKHARziGHANziQARziSHINziCHINzjANziJILziCILzjHARziXANziJHANziHAEzjEzjIEziWEziHARzjOE",
     "ziFIziYNziELIFIziTURNED GANziAIN=1CBDzjENziHARD SIGNziLABIAL SIGN",
     "aSUNDANESE PUNCTUATION BINDU SURYAzdPANGLONGzeURNAMAzdCAKRAzdLEU SATANGAzdKA SATANGA",
     "zdDA SATANGAzdBA SATANGA=1CD0aVEDIC TONE KARSHANAlSHARAlPRENKHAgSIGN NIHSHVASA",
     "lYAJURVEDIC MIDLINE SVARITAgTONE YAJURVEDIC AGGRAVATED INDEPENDENT SVARITA",
     "wINDEPENDENT SVARITAwKATHAKA INDEPENDENT SVARITAlCANDRA BELOW",
     "lYAJURVEDIC KATHAKA INDEPENDENT SVARITA SCHROEDERlDOUBLE SVARITAlTRIPLE SVARITA",
     "lKATHAKA ANUDATTAlDOT BELOWlTWO DOTS BELOWmHREE DOTS BELOW",
     "lRIGVEDIC KASHMIRI INDEPENDENT SVARITAlATHARVAVEDIC INDEPENDENT SVARITAgSIGN VISARGA SVARITA",
     "tUDATTAlREVERSED VISARGA UDATTAlVISARGA ANUDATTAlREVERSED VISARGA ANUDATTA",
     "lVISARGA UDATTA WITH TAILtANUDATTA WITH TAILlANUSVARA ANTARGOMUKHAuBAHIRGOMUKHAuVAMAGOMUKHA",
     "zg WITH TAILlTIRYAKlHEXIFORM LONG ANUSVARAlLONG ANUSVARAlRTHANG LONG ANUSVARA",
     "lANUSVARA UBHAYATO MUKHAmRDHAVISARGAlROTATED ARDHAVISARGAgTONE CANDRA ABOVEgSIGN JIHVAMULIYA",
     "lUPADHMANIYAlATIKRAMAgTONE RING ABOVElDOUBLE RING ABOVEgSIGN DOUBLE ANUSVARA ANTARGOMUKHA",
     "=1D00aLATIN LETTER SMALL CAPITAL AzdEgSMALL LETTER TURNED AEgLETTER SMALL CAPITAL BARRED B",
     "zcCzcDzcETHzcEgSMALL LETTER TURNED OPEN EzbIgLETTER SMALL CAPITAL JzcKzcL WITH STROKEzcM",
     "zcREVERSED NzcOzdPEN OgSMALL LETTER SIDEWAYS OzePEN Oze WITH STROKEtTURNED OE",
     "gLETTER SMALL CAPITAL OUgSMALL LETTER TOP HALF OtBOTTOM HALF OgLETTER SMALL CAPITAL P",
     "zcREVERSED RzcTURNED RzcTzcUgSMALL LETTER SIDEWAYS UzdDIAERESIZED UzdTURNED M",
     "gLETTER SMALL CAPITAL VzcWzcZzcEZHnVOICED LARYNGEAL SPIRANTnAIN",
     "aGREEK LETTER SMALL CAPITAL GAMMAzcLAMDAzcPIzcRHOzcPSIaCYRILLIC LETTER SMALL CAPITAL EL",
     "aMODIFIER LETTER CAPITAL AzaEyBzaARRED ByDyEyREVERSED EyGyHyIyJyKyLyMyNyREVERSED NyOzaUyPyR",
     "yTyUyWqSMALL AwTURNED AwALPHAwTURNED AEwBwDwEwSCHWAwOPEN EwTURNED OPEN EwGwTURNED IwKwMwENG",
     "wOxPEN OwTOP HALF OwBOTTOM HALF OwPwTwUwSIDEWAYS UwTURNED MwVwAINwBETAwGREEK GAMMAwDELTA",
     "wGREEK PHIwCHIaLATIN SUBSCRIPT SMALL LETTER IzeRzeUzeVaGREEK SUBSCRIPT SMALL LETTER BETA",
     "zeGAMMAzeRHOzePHIzeCHIaLATIN SMALL LETTER UEtB WITH MIDDLE TILDEtD WITH MIDDLE TILDE",
     "tF WITH MIDDLE TILDEtM WITH MIDDLE TILDEtN WITH MIDDLE TILDEtP WITH MIDDLE TILDE",
     "tR WITH MIDDLE TILDEzbFISHHOOK AND MIDDLE TILDEtS WITH MIDDLE TILDEtT WITH MIDDLE TILDE",
     "tZ WITH MIDDLE TILDEtTURNED GaMODIFIER LETTER CYRILLIC ENaLATIN SMALL LETTER INSULAR G",
     "tTH WITH STRIKETHROUGHmCAPITAL LETTER I WITH STROKEmLETTER IOTA WITH STROKEtP WITH STROKE",
     "mCAPITAL LETTER U WITH STROKEmLETTER UPSILON WITH STROKEtB WITH PALATAL HOOK",
     "tD WITH PALATAL HOOKtF WITH PALATAL HOOKtG WITH PALATAL HOOKtK WITH PALATAL HOOK",
     "tL WITH PALATAL HOOKtM WITH PALATAL HOOKtN WITH PALATAL HOOKtP WITH PALATAL HOOK",
     "tR WITH PALATAL HOOKtS WITH PALATAL HOOKtESH WITH PALATAL HOOKtV WITH PALATAL HOOK",
     "tX WITH PALATAL HOOKtZ WITH PALATAL HOOKtA WITH RETROFLEX HOOKuLPHA WITH RETROFLEX HOOK",
     "tD WITH HOOK AND TAILtE WITH RETROFLEX HOOKtOPEN E WITH RETROFLEX HOOK",
     "tREVERSED OPEN E WITH RETROFLEX HOOKtSCHWA WITH RETROFLEX HOOKtI WITH RETROFLEX HOOK",
     "tOPEN O WITH RETROFLEX HOOKtESH WITH RETROFLEX HOOKtU WITH RETROFLEX HOOK",
     "tEZH WITH RETROFLEX HOOKaMODIFIER LETTER SMALL TURNED ALPHAwCx WITH CURLwETHwREVERSED OPEN E",
     "wFwDOTLESS J WITH STROKEwSCRIPT GwTURNED HwI WITH STROKExOTAwCAPITAL Izg WITH STROKE",
     "wJ WITH CROSSED-TAILwL WITH RETROFLEX HOOKzePALATAL HOOKwCAPITAL LwM WITH HOOK",
     "wTURNED M WITH LONG LEGwN WITH LEFT HOOKzeRETROFLEX HOOKwCAPITAL NwBARRED OwPHIwS WITH HOOK",
     "wESHwT WITH PALATAL HOOKwU BARxPSILONwCAPITAL UwV WITH HOOKwTURNED VwZx WITH RETROFLEX HOOK",
     "zeCURLwEZHwTHETAaCOMBINING DOTTED GRAVE ACCENTrACUTE ACCENTkSNAKE BELOWlUSPENSION MARK",
     "kMACRON-ACUTEkGRAVE-MACRONkMACRON-GRAVEkACUTE-MACRONkGRAVE-ACUTE-GRAVEkACUTE-GRAVE-ACUTE",
     "kLATIN SMALL LETTER R BELOWkBREVE-MACRONkMACRON-BREVEkDOUBLE CIRCUMFLEX ABOVEkOGONEK ABOVE",
     "kZIGZAG BELOWkIS BELOWkUR ABOVElS ABOVEkLATIN SMALL LETTER FLATTENED OPEN A ABOVEzeAEzfOzfV",
     "zeC CEDILLAzeINSULAR DzeETHzeGqLETTER SMALL CAPITAL GqSMALL LETTER KzeL",
     "qLETTER SMALL CAPITAL LzmMqSMALL LETTER NqLETTER SMALL CAPITAL NzmRqSMALL LETTER R ROTUNDA",
     "zeSzeLONG SzeZzeALPHAzeBzfETAzeSCHWAzeFzeL WITH DOUBLE MIDDLE TILDE",
     "zeO WITH LIGHT CENTRALIZATION STROKEzePzeESHzeU WITH LIGHT CENTRALIZATION STROKEzeW",
     "zeA WITH DIAERESISzeO WITH DIAERESISzeU WITH DIAERESISkUP TACK ABOVEkKAVYKA ABOVE RIGHTxLEFT",
     "kDOT ABOVE LEFTkWIDE INVERTED BRIDGE BELOWkDOT BELOW LEFTlELETION MARK",
     "lOUBLE INVERTED BREVE BELOWkALMOST EQUAL TO BELOWkLEFT ARROWHEAD ABOVE",
     "kRIGHT ARROWHEAD AND DOWN ARROWHEAD BELOWaLATIN CAPITAL LETTER A WITH RING BELOW",
     "gSMALL LETTER A WITH RING BELOWgCAPITAL LETTER B WITH DOT ABOVE",
     "gSMALL LETTER B WITH DOT ABOVEgCAPITAL LETTER B WITH DOT BELOWgSMALL LETTER B WITH DOT BELOW",
     "gCAPITAL LETTER B WITH LINE BELOWgSMALL LETTER B WITH LINE BELOW",
     "gCAPITAL LETTER C WITH CEDILLA AND ACUTEgSMALL LETTER C WITH CEDILLA AND ACUTE",
     "gCAPITAL LETTER D WITH DOT ABOVEgSMALL LETTER D WITH DOT ABOVE",
     "gCAPITAL LETTER D WITH DOT BELOWgSMALL LETTER D WITH DOT BELOW",
     "gCAPITAL LETTER D WITH LINE BELOWgSMALL LETTER D WITH LINE BELOW",
     "gCAPITAL LETTER D WITH CEDILLAgSMALL LETTER D WITH CEDILLA",
     "gCAPITAL LETTER D WITH CIRCUMFLEX BELOWgSMALL LETTER D WITH CIRCUMFLEX BELOW",
     "gCAPITAL LETTER E WITH MACRON AND GRAVEgSMALL LETTER E WITH MACRON AND GRAVE",
     "gCAPITAL LETTER E WITH MACRON AND ACUTEgSMALL LETTER E WITH MACRON AND ACUTE",
     "gCAPITAL LETTER E WITH CIRCUMFLEX BELOWgSMALL LETTER E WITH CIRCUMFLEX BELOW",
     "gCAPITAL LETTER E WITH TILDE BELOWgSMALL LETTER E WITH TILDE BELOW",
     "gCAPITAL LETTER E WITH CEDILLA AND BREVEgSMALL LETTER E WITH CEDILLA AND BREVE",
     "gCAPITAL LETTER F WITH DOT ABOVEgSMALL LETTER F WITH DOT ABOVEgCAPITAL LETTER G WITH MACRON",
     "gSMALL LETTER G WITH MACRONgCAPITAL LETTER H WITH DOT ABOVEgSMALL LETTER H WITH DOT ABOVE",
     "gCAPITAL LETTER H WITH DOT BELOWgSMALL LETTER H WITH DOT BELOW",
     "gCAPITAL LETTER H WITH DIAERESISgSMALL LETTER H WITH DIAERESISgCAPITAL LETTER H WITH CEDILLA",
     "gSMALL LETTER H WITH CEDILLAgCAPITAL LETTER H WITH BREVE BELOW",
     "gSMALL LETTER H WITH BREVE BELOWgCAPITAL LETTER I WITH TILDE BELOW",
     "gSMALL LETTER I WITH TILDE BELOWgCAPITAL LETTER I WITH DIAERESIS AND ACUTE",
     "gSMALL LETTER I WITH DIAERESIS AND ACUTEgCAPITAL LETTER K WITH ACUTE",
     "gSMALL LETTER K WITH ACUTEgCAPITAL LETTER K WITH DOT BELOWgSMALL LETTER K WITH DOT BELOW",
     "gCAPITAL LETTER K WITH LINE BELOWgSMALL LETTER K WITH LINE BELOW",
     "gCAPITAL LETTER L WITH DOT BELOWgSMALL LETTER L WITH DOT BELOW",
     "gCAPITAL LETTER L WITH DOT BELOW AND MACRONgSMALL LETTER L WITH DOT BELOW AND MACRON",
     "gCAPITAL LETTER L WITH LINE BELOWgSMALL LETTER L WITH LINE BELOW",
     "gCAPITAL LETTER L WITH CIRCUMFLEX BELOWgSMALL LETTER L WITH CIRCUMFLEX BELOW",
     "gCAPITAL LETTER M WITH ACUTEgSMALL LETTER M WITH ACUTEgCAPITAL LETTER M WITH DOT ABOVE",
     "gSMALL LETTER M WITH DOT ABOVEgCAPITAL LETTER M WITH DOT BELOWgSMALL LETTER M WITH DOT BELOW",
     "gCAPITAL LETTER N WITH DOT ABOVEgSMALL LETTER N WITH DOT ABOVE",
     "gCAPITAL LETTER N WITH DOT BELOWgSMALL LETTER N WITH DOT BELOW",
     "gCAPITAL LETTER N WITH LINE BELOWgSMALL LETTER N WITH LINE BELOW",
     "gCAPITAL LETTER N WITH CIRCUMFLEX BELOWgSMALL LETTER N WITH CIRCUMFLEX BELOW",
     "gCAPITAL LETTER O WITH TILDE AND ACUTEgSMALL LETTER O WITH TILDE AND ACUTE",
     "gCAPITAL LETTER O WITH TILDE AND DIAERESISgSMALL LETTER O WITH TILDE AND DIAERESIS",
     "gCAPITAL LETTER O WITH MACRON AND GRAVEgSMALL LETTER O WITH MACRON AND GRAVE",
     "gCAPITAL LETTER O WITH MACRON AND ACUTEgSMALL LETTER O WITH MACRON AND ACUTE",
     "gCAPITAL LETTER P WITH ACUTEgSMALL LETTER P WITH ACUTEgCAPITAL LETTER P WITH DOT ABOVE",
     "gSMALL LETTER P WITH DOT ABOVEgCAPITAL LETTER R WITH DOT ABOVEgSMALL LETTER R WITH DOT ABOVE",
     "gCAPITAL LETTER R WITH DOT BELOWgSMALL LETTER R WITH DOT BELOW",
     "gCAPITAL LETTER R WITH DOT BELOW AND MACRONgSMALL LETTER R WITH DOT BELOW AND MACRON",
     "gCAPITAL LETTER R WITH LINE BELOWgSMALL LETTER R WITH LINE BELOW",
     "gCAPITAL LETTER S WITH DOT ABOVEgSMALL LETTER S WITH DOT ABOVE",
     "gCAPITAL LETTER S WITH DOT BELOWgSMALL LETTER S WITH DOT BELOW",
     "gCAPITAL LETTER S WITH ACUTE AND DOT ABOVEgSMALL LETTER S WITH ACUTE AND DOT ABOVE",
     "gCAPITAL LETTER S WITH CARON AND DOT ABOVEgSMALL LETTER S WITH CARON AND DOT ABOVE",
     "gCAPITAL LETTER S WITH DOT BELOW AND DOT ABOVEgSMALL LETTER S WITH DOT BELOW AND DOT ABOVE",
     "gCAPITAL LETTER T WITH DOT ABOVEgSMALL LETTER T WITH DOT ABOVE",
     "gCAPITAL LETTER T WITH DOT BELOWgSMALL LETTER T WITH DOT BELOW",
     "gCAPITAL LETTER T WITH LINE BELOWgSMALL LETTER T WITH LINE BELOW",
     "gCAPITAL LETTER T WITH CIRCUMFLEX BELOWgSMALL LETTER T WITH CIRCUMFLEX BELOW",
     "gCAPITAL LETTER U WITH DIAERESIS BELOWgSMALL LETTER U WITH DIAERESIS BELOW",
     "gCAPITAL LETTER U WITH TILDE BELOWgSMALL LETTER U WITH TILDE BELOW",
     "gCAPITAL LETTER U WITH CIRCUMFLEX BELOWgSMALL LETTER U WITH CIRCUMFLEX BELOW",
     "gCAPITAL LETTER U WITH TILDE AND ACUTEgSMALL LETTER U WITH TILDE AND ACUTE",
     "gCAPITAL LETTER U WITH MACRON AND DIAERESISgSMALL LETTER U WITH MACRON AND DIAERESIS",
     "gCAPITAL LETTER V WITH TILDEgSMALL LETTER V WITH TILDEgCAPITAL LETTER V WITH DOT BELOW",
     "gSMALL LETTER V WITH DOT BELOWgCAPITAL LETTER W WITH GRAVEgSMALL LETTER W WITH GRAVE",
     "gCAPITAL LETTER W WITH ACUTEgSMALL LETTER W WITH ACUTEgCAPITAL LETTER W WITH DIAERESIS",
     "gSMALL LETTER W WITH DIAERESISgCAPITAL LETTER W WITH DOT ABOVEgSMALL LETTER W WITH DOT ABOVE",
     "gCAPITAL LETTER W WITH DOT BELOWgSMALL LETTER W WITH DOT BELOW",
     "gCAPITAL LETTER X WITH DOT ABOVEgSMALL LETTER X WITH DOT ABOVE",
     "gCAPITAL LETTER X WITH DIAERESISgSMALL LETTER X WITH DIAERESIS",
     "gCAPITAL LETTER Y WITH DOT ABOVEgSMALL LETTER Y WITH DOT ABOVE",
     "gCAPITAL LETTER Z WITH CIRCUMFLEXgSMALL LETTER Z WITH CIRCUMFLEX",
     "gCAPITAL LETTER Z WITH DOT BELOWgSMALL LETTER Z WITH DOT BELOW",
     "gCAPITAL LETTER Z WITH LINE BELOWgSMALL LETTER Z WITH LINE BELOWtH WITH LINE BELOW",
     "tT WITH DIAERESIStW WITH RING ABOVEtY WITH RING ABOVEtA WITH RIGHT HALF RING",
     "tLONG S WITH DOT ABOVEzhIAGONAL STROKEzgHIGH STROKEgCAPITAL LETTER SHARP S",
     "gSMALL LETTER DELTAgCAPITAL LETTER A WITH DOT BELOWgSMALL LETTER A WITH DOT BELOW",
     "gCAPITAL LETTER A WITH HOOK ABOVEgSMALL LETTER A WITH HOOK ABOVE",
     "gCAPITAL LETTER A WITH CIRCUMFLEX AND ACUTEgSMALL LETTER A WITH CIRCUMFLEX AND ACUTE",
     "gCAPITAL LETTER A WITH CIRCUMFLEX AND GRAVEgSMALL LETTER A WITH CIRCUMFLEX AND GRAVE",
     "gCAPITAL LETTER A WITH CIRCUMFLEX AND HOOK ABOVE",
     "gSMALL LETTER A WITH CIRCUMFLEX AND HOOK ABOVEgCAPITAL LETTER A WITH CIRCUMFLEX AND TILDE",
     "gSMALL LETTER A WITH CIRCUMFLEX AND TILDEgCAPITAL LETTER A WITH CIRCUMFLEX AND DOT BELOW",
     "gSMALL LETTER A WITH CIRCUMFLEX AND DOT BELOWgCAPITAL LETTER A WITH BREVE AND ACUTE",
     "gSMALL LETTER A WITH BREVE AND ACUTEgCAPITAL LETTER A WITH BREVE AND GRAVE",
     "gSMALL LETTER A WITH BREVE AND GRAVEgCAPITAL LETTER A WITH BREVE AND HOOK ABOVE",
     "gSMALL LETTER A WITH BREVE AND HOOK ABOVEgCAPITAL LETTER A WITH BREVE AND TILDE",
     "gSMALL LETTER A WITH BREVE AND TILDEgCAPITAL LETTER A WITH BREVE AND DOT BELOW",
     "gSMALL LETTER A WITH BREVE AND DOT BELOWgCAPITAL LETTER E WITH DOT BELOW",
     "gSMALL LETTER E WITH DOT BELOWgCAPITAL LETTER E WITH HOOK ABOVE",
     "gSMALL LETTER E WITH HOOK ABOVEgCAPITAL LETTER E WITH TILDEgSMALL LETTER E WITH TILDE",
     "gCAPITAL LETTER E WITH CIRCUMFLEX AND ACUTEgSMALL LETTER E WITH CIRCUMFLEX AND ACUTE",
     "gCAPITAL LETTER E WITH CIRCUMFLEX AND GRAVEgSMALL LETTER E WITH CIRCUMFLEX AND GRAVE",
     "gCAPITAL LETTER E WITH CIRCUMFLEX AND HOOK ABOVE",
     "gSMALL LETTER E WITH CIRCUMFLEX AND HOOK ABOVEgCAPITAL LETTER E WITH CIRCUMFLEX AND TILDE",
     "gSMALL LETTER E WITH CIRCUMFLEX AND TILDEgCAPITAL LETTER E WITH CIRCUMFLEX AND DOT BELOW",
     "gSMALL LETTER E WITH CIRCUMFLEX AND DOT BELOWgCAPITAL LETTER I WITH HOOK ABOVE",
     "gSMALL LETTER I WITH HOOK ABOVEgCAPITAL LETTER I WITH DOT BELOW",
     "gSMALL LETTER I WITH DOT BELOWgCAPITAL LETTER O WITH DOT BELOWgSMALL LETTER O WITH DOT BELOW",
     "gCAPITAL LETTER O WITH HOOK ABOVEgSMALL LETTER O WITH HOOK ABOVE",
     "gCAPITAL LETTER O WITH CIRCUMFLEX AND ACUTEgSMALL LETTER O WITH CIRCUMFLEX AND ACUTE",
     "gCAPITAL LETTER O WITH CIRCUMFLEX AND GRAVEgSMALL LETTER O WITH CIRCUMFLEX AND GRAVE",
     "gCAPITAL LETTER O WITH CIRCUMFLEX AND HOOK ABOVE",
     "gSMALL LETTER O WITH CIRCUMFLEX AND HOOK ABOVEgCAPITAL LETTER O WITH CIRCUMFLEX AND TILDE",
     "gSMALL LETTER O WITH CIRCUMFLEX AND TILDEgCAPITAL LETTER O WITH CIRCUMFLEX AND DOT BELOW",
     "gSMALL LETTER O WITH CIRCUMFLEX AND DOT BELOWgCAPITAL LETTER O WITH HORN AND ACUTE",
     "gSMALL LETTER O WITH HORN AND ACUTEgCAPITAL LETTER O WITH HORN AND GRAVE",
     "gSMALL LETTER O WITH HORN AND GRAVEgCAPITAL LETTER O WITH HORN AND HOOK ABOVE",
     "gSMALL LETTER O WITH HORN AND HOOK ABOVEgCAPITAL LETTER O WITH HORN AND TILDE",
     "gSMALL LETTER O WITH HORN AND TILDEgCAPITAL LETTER O WITH HORN AND DOT BELOW",
     "gSMALL LETTER O WITH HORN AND DOT BELOWgCAPITAL LETTER U WITH DOT BELOW",
     "gSMALL LETTER U WITH DOT BELOWgCAPITAL LETTER U WITH HOOK ABOVE",
     "gSMALL LETTER U WITH HOOK ABOVEgCAPITAL LETTER U WITH HORN AND ACUTE",
     "gSMALL LETTER U WITH HORN AND ACUTEgCAPITAL LETTER U WITH HORN AND GRAVE",
     "gSMALL LETTER U WITH HORN AND GRAVEgCAPITAL LETTER U WITH HORN AND HOOK ABOVE",
     "gSMALL LETTER U WITH HORN AND HOOK ABOVEgCAPITAL LETTER U WITH HORN AND TILDE",
     "gSMALL LETTER U WITH HORN AND TILDEgCAPITAL LETTER U WITH HORN AND DOT BELOW",
     "gSMALL LETTER U WITH HORN AND DOT BELOWgCAPITAL LETTER Y WITH GRAVE",
     "gSMALL LETTER Y WITH GRAVEgCAPITAL LETTER Y WITH DOT BELOWgSMALL LETTER Y WITH DOT BELOW",
     "gCAPITAL LETTER Y WITH HOOK ABOVEgSMALL LETTER Y WITH HOOK ABOVEgCAPITAL LETTER Y WITH TILDE",
     "gSMALL LETTER Y WITH TILDEgCAPITAL LETTER MIDDLE-WELSH LLgSMALL LETTER MIDDLE-WELSH LL",
     "gCAPITAL LETTER MIDDLE-WELSH VgSMALL LETTER MIDDLE-WELSH VgCAPITAL LETTER Y WITH LOOP",
     "gSMALL LETTER Y WITH LOOPaGREEK SMALL LETTER ALPHA WITH PSILIzfDASIAzfPSILI AND VARIA",
     "zfDASIA AND VARIAzfPSILI AND OXIAzfDASIA AND OXIAzfPSILI AND PERISPOMENI",
     "zfDASIA AND PERISPOMENIgCAPITAL LETTER ALPHA WITH PSILIzhDASIAzhPSILI AND VARIA",
     "zhDASIA AND VARIAzhPSILI AND OXIAzhDASIA AND OXIAzhPSILI AND PERISPOMENI",
     "zhDASIA AND PERISPOMENIgSMALL LETTER EPSILON WITH PSILIzhDASIAzhPSILI AND VARIA",
     "zhDASIA AND VARIAzhPSILI AND OXIAzhDASIA AND OXIA=1F18gCAPITAL LETTER EPSILON WITH PSILI",
     "zjDASIAzjPSILI AND VARIAzjDASIA AND VARIAzjPSILI AND OXIAzjDASIA AND OXIA",
     "=1F20gSMALL LETTER ETA WITH PSILIzdDASIAzdPSILI AND VARIAzdDASIA AND VARIAzdPSILI AND OXIA",
     "zdDASIA AND OXIAzdPSILI AND PERISPOMENIzdDASIA AND PERISPOMENIgCAPITAL LETTER ETA WITH PSILI",
     "zfDASIAzfPSILI AND VARIAzfDASIA AND VARIAzfPSILI AND OXIAzfDASIA AND OXIA",
     "zfPSILI AND PERISPOMENIzfDASIA AND PERISPOMENIgSMALL LETTER IOTA WITH PSILIzeDASIA",
     "zePSILI AND VARIAzeDASIA AND VARIAzePSILI AND OXIAzeDASIA AND OXIAzePSILI AND PERISPOMENI",
     "zeDASIA AND PERISPOMENIgCAPITAL LETTER IOTA WITH PSILIzgDASIAzgPSILI AND VARIA",
     "zgDASIA AND VARIAzgPSILI AND OXIAzgDASIA AND OXIAzgPSILI AND PERISPOMENI",
     "zgDASIA AND PERISPOMENIgSMALL LETTER OMICRON WITH PSILIzhDASIAzhPSILI AND VARIA",
     "zhDASIA AND VARIAzhPSILI AND OXIAzhDASIA AND OXIA=1F48gCAPITAL LETTER OMICRON WITH PSILI",
     "zjDASIAzjPSILI AND VARIAzjDASIA AND VARIAzjPSILI AND OXIAzjDASIA AND OXIA",
     "=1F50gSMALL LETTER UPSILON WITH PSILIzhDASIAzhPSILI AND VARIAzhDASIA AND VARIA",
     "zhPSILI AND OXIAzhDASIA AND OXIAzhPSILI AND PERISPOMENIzhDASIA AND PERISPOMENI",
     "=1F59gCAPITAL LETTER UPSILON WITH DASIA=1F5Bzo AND VARIA=1F5DztOXIA=1F5FztPERISPOMENI",
     "gSMALL LETTER OMEGA WITH PSILIzfDASIAzfPSILI AND VARIAzfDASIA AND VARIAzfPSILI AND OXIA",
     "zfDASIA AND OXIAzfPSILI AND PERISPOMENIzfDASIA AND PERISPOMENI",
     "gCAPITAL LETTER OMEGA WITH PSILIzhDASIAzhPSILI AND VARIAzhDASIA AND VARIAzhPSILI AND OXIA",
     "zhDASIA AND OXIAzhPSILI AND PERISPOMENIzhDASIA AND PERISPOMENIgSMALL LETTER ALPHA WITH VARIA",
     "zfOXIAtEPSILON WITH VARIAzhOXIAuTA WITH VARIAzdOXIAtIOTA WITH VARIAzeOXIAtOMICRON WITH VARIA",
     "zhOXIAtUPSILON WITH VARIAzhOXIAtOMEGA WITH VARIAzfOXIA",
     "=1F80tALPHA WITH PSILI AND YPOGEGRAMMENIzfDASIA AND YPOGEGRAMMENI",
     "zfPSILI AND VARIA AND YPOGEGRAMMENIzfDASIA AND VARIA AND YPOGEGRAMMENI",
     "zfPSILI AND OXIA AND YPOGEGRAMMENIzfDASIA AND OXIA AND YPOGEGRAMMENI",
     "zfPSILI AND PERISPOMENI AND YPOGEGRAMMENIzfDASIA AND PERISPOMENI AND YPOGEGRAMMENI",
     "gCAPITAL LETTER ALPHA WITH PSILI AND PROSGEGRAMMENIzhDASIA AND PROSGEGRAMMENI",
     "zhPSILI AND VARIA AND PROSGEGRAMMENIzhDASIA AND VARIA AND PROSGEGRAMMENI",
     "zhPSILI AND OXIA AND PROSGEGRAMMENIzhDASIA AND OXIA AND PROSGEGRAMMENI",
     "zhPSILI AND PERISPOMENI AND PROSGEGRAMMENIzhDASIA AND PERISPOMENI AND PROSGEGRAMMENI",
     "gSMALL LETTER ETA WITH PSILI AND YPOGEGRAMMENIzdDASIA AND YPOGEGRAMMENI",
     "zdPSILI AND VARIA AND YPOGEGRAMMENIzdDASIA AND VARIA AND YPOGEGRAMMENI",
     "zdPSILI AND OXIA AND YPOGEGRAMMENIzdDASIA AND OXIA AND YPOGEGRAMMENI",
     "zdPSILI AND PERISPOMENI AND YPOGEGRAMMENIzdDASIA AND PERISPOMENI AND YPOGEGRAMMENI",
     "gCAPITAL LETTER ETA WITH PSILI AND PROSGEGRAMMENIzfDASIA AND PROSGEGRAMMENI",
     "zfPSILI AND VARIA AND PROSGEGRAMMENIzfDASIA AND VARIA AND PROSGEGRAMMENI",
     "zfPSILI AND OXIA AND PROSGEGRAMMENIzfDASIA AND OXIA AND PROSGEGRAMMENI",
     "zfPSILI AND PERISPOMENI AND PROSGEGRAMMENIzfDASIA AND PERISPOMENI AND PROSGEGRAMMENI",
     "gSMALL LETTER OMEGA WITH PSILI AND YPOGEGRAMMENIzfDASIA AND YPOGEGRAMMENI",
     "zfPSILI AND VARIA AND YPOGEGRAMMENIzfDASIA AND VARIA AND YPOGEGRAMMENI",
     "zfPSILI AND OXIA AND YPOGEGRAMMENIzfDASIA AND OXIA AND YPOGEGRAMMENI",
     "zfPSILI AND PERISPOMENI AND YPOGEGRAMMENIzfDASIA AND PERISPOMENI AND YPOGEGRAMMENI",
     "gCAPITAL LETTER OMEGA WITH PSILI AND PROSGEGRAMMENIzhDASIA AND PROSGEGRAMMENI",
     "zhPSILI AND VARIA AND PROSGEGRAMMENIzhDASIA AND VARIA AND PROSGEGRAMMENI",
     "zhPSILI AND OXIA AND PROSGEGRAMMENIzhDASIA AND OXIA AND PROSGEGRAMMENI",
     "zhPSILI AND PERISPOMENI AND PROSGEGRAMMENIzhDASIA AND PERISPOMENI AND PROSGEGRAMMENI",
     "gSMALL LETTER ALPHA WITH VRACHYzfMACRONzfVARIA AND YPOGEGRAMMENIzfYPOGEGRAMMENI",
     "zfOXIA AND YPOGEGRAMMENI=1FB6zfPERISPOMENIzq AND YPOGEGRAMMENI",
     "gCAPITAL LETTER ALPHA WITH VRACHYzhMACRONzhVARIAzhOXIAzhPROSGEGRAMMENIgKORONIS",
     "gPROSGEGRAMMENIhSILIhERISPOMENIgDIALYTIKA AND PERISPOMENI",
     "gSMALL LETTER ETA WITH VARIA AND YPOGEGRAMMENIzdYPOGEGRAMMENIzdOXIA AND YPOGEGRAMMENI",
     "=1FC6zdPERISPOMENIzo AND YPOGEGRAMMENIgCAPITAL LETTER EPSILON WITH VARIAzjOXIAwTA WITH VARIA",
     "zfOXIAzfPROSGEGRAMMENIgPSILI AND VARIAqOXIAqPERISPOMENIgSMALL LETTER IOTA WITH VRACHY",
     "zeMACRONzeDIALYTIKA AND VARIAzsOXIA=1FD6zePERISPOMENIzeDIALYTIKA AND PERISPOMENI",
     "gCAPITAL LETTER IOTA WITH VRACHYzgMACRONzgVARIAzgOXIA=1FDDgDASIA AND VARIAqOXIAqPERISPOMENI",
     "gSMALL LETTER UPSILON WITH VRACHYzhMACRONzhDIALYTIKA AND VARIAzvOXIAtRHO WITH PSILIzdDASIA",
     "tUPSILON WITH PERISPOMENIzhDIALYTIKA AND PERISPOMENIgCAPITAL LETTER UPSILON WITH VRACHY",
     "zjMACRONzjVARIAzjOXIAvRHO WITH DASIAgDIALYTIKA AND VARIAuOXIAgVARIA",
     "=1FF2gSMALL LETTER OMEGA WITH VARIA AND YPOGEGRAMMENIzfYPOGEGRAMMENIzfOXIA AND YPOGEGRAMMENI",
     "=1FF6zfPERISPOMENIzq AND YPOGEGRAMMENIgCAPITAL LETTER OMICRON WITH VARIAzjOXIA",
     "xEGA WITH VARIAzhOXIAzhPROSGEGRAMMENIgOXIAgDASIA"]

end Inlay.Text
