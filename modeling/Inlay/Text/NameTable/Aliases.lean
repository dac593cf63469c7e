/-
  Inlay.Text.NameTable.Aliases
  ────────────────────────────────
  **OTHER NAMES OF CHARACTERS.**

  The formal aliases of Unicode 14, in the form that
  `Inlay.Text.CharacterName` reads.
-/

namespace Inlay.Text

/-- Further names of characters: of controls, abbreviations, and corrections. -/
def aliasNames : String :=
  String.join
    ["=0aNUL=0dLaSOH=1bTART OF HEADINGjTEXT=2cXaEND OF TEXT=3bTXbND OF TRANSMISSION=4bOTbNQ=5dUIRY",
     "aACK=6dNOWLEDGEbLERT=7aBELbACKSPACE=8bSaCHARACTER TABULATION=9aHORIZONTAL TABULATION=9bT",
     "=9aTABaEND OF LINE=AbOL=AaLF=AbINE FEED=AaNEW LINE=AbLaLINE TABULATION=BaVERTICAL TABULATION",
     "=BbTaFF=CbORM FEEDaCARRIAGE RETURN=DbRaLOCKING-SHIFT ONE=EaSHIFT OUT=EbOaLOCKING-SHIFT ZERO",
     "=FaSHIFT IN=FbIaDATA LINK ESCAPE=10bLEbC1=11bEVICE CONTROL ONEbC2=12bEVICE CONTROL TWObC3",
     "=13bEVICE CONTROL THREEbC4=14bEVICE CONTROL FOURaNAK=15bEGATIVE ACKNOWLEDGEaSYN",
     "=16dCHRONOUS IDLEaEND OF TRANSMISSION BLOCK=17bTBaCAN=18dCELaEND OF MEDIUM=19bOMaSUB",
     "=1AdSTITUTEaESC=1BdAPEaFILE SEPARATOR=1CbS=1CaINFORMATION SEPARATOR FOURaGROUP SEPARATOR",
     "=1DbS=1DaINFORMATION SEPARATOR THREExWO=1EaRECORD SEPARATOR=1EbSaINFORMATION SEPARATOR ONE",
     "=1FaUNIT SEPARATOR=1FbSaSP=7FaDEL=7FdETEaPAD=80dDING CHARACTERaHIGH OCTET PRESET=81bOPaBPH",
     "=82bREAK PERMITTED HEREaNBH=83bO BREAK HEREaIND=84dEXaNEL=85cXT LINEaSSA",
     "=86bTART OF SELECTED AREAaEND OF SELECTED AREA=87bSAaCHARACTER TABULATION SET",
     "=88aHORIZONTAL TABULATION SET=88bTSaCHARACTER TABULATION WITH JUSTIFICATION",
     "=89aHORIZONTAL TABULATION WITH JUSTIFICATION=89bTJaLINE TABULATION SET",
     "=8AaVERTICAL TABULATION SET=8AbTSaPARTIAL LINE DOWN=8BnFORWARD=8BbLDbARTIAL LINE BACKWARD",
     "=8CnUP=8CbLUaREVERSE INDEX=8DiLINE FEED=8DbIaSINGLE SHIFT TWO=8Eg-SHIFT-2=8EbS2",
     "bINGLE SHIFT THREE=8Fg-SHIFT-3=8FbS3aDCS=90bEVICE CONTROL STRINGaPRIVATE USE ONE=91l-1=91bU1",
     "bRIVATE USE TWO=92l-2=92bU2aSET TRANSMIT STATE=93bTSaCANCEL CHARACTER=94bCHaMESSAGE WAITING",
     "=95bWaSPA=96bTART OF GUARDED AREA=96jPROTECTED AREAaEND OF GUARDED AREA=97hPROTECTED AREA",
     "=97bPAaSOS=98bTART OF STRINGbGC=99bINGLE GRAPHIC CHARACTER INTRODUCERbCI",
     "=9AbINGLE CHARACTER INTRODUCERaCONTROL SEQUENCE INTRODUCER=9BbSIaST=9CcRING TERMINATOR",
     "aOPERATING SYSTEM COMMAND=9DbSCaPM=9EbRIVACY MESSAGEaAPC=9FcPLICATION PROGRAM COMMANDaNBSP",
     "=ADaSHY=1A2aLATIN CAPITAL LETTER GHAgSMALL LETTER GHA=34FaCGJ=61CaALM",
     "=709aSYRIAC SUBLINEAR COLON SKEWED LEFT=CDEaKANNADA LETTER LLLA=E9DaLAO LETTER FO FON=E9FpAY",
     "=EA3lRO=EA5lLO=FD0aTIBETAN MARK BKA- SHOG GI MGO RGYAN=11ECaHANGUL JONGSEONG YESIEUNG-KIYEOK",
     "zbSSANGKIYEOKrSSANGYESIEUNGrYESIEUNG-KHIEUKH=180BaFVS1d2d3aMVSaFVS4=200BaZWSPcNJcJaLRMaRLM",
     "=202AaLREaRLEaPDFaLROaRLOaNNBSP=205FaMMSPaWJ=2066aLRIaRLIaFSIaPDI",
     "=2118aWEIERSTRASS ELLIPTIC FUNCTION=2448aMICR ON US SYMBOLfDASH SYMBOL",
     "=2B7AaLEFTWARDS TRIANGLE-HEADED ARROW WITH DOUBLE VERTICAL STROKE",
     "=2B7CaRIGHTWARDS TRIANGLE-HEADED ARROW WITH DOUBLE VERTICAL STROKE",
     "=A015aYI SYLLABLE ITERATION MARK=AA6EaMYANMAR LETTER KHAMTI LLA",
     "=FE18aPRESENTATION FORM FOR VERTICAL RIGHT WHITE LENTICULAR BRACKET=FEFFaBOM",
     "=FEFFbYTE ORDER MARK=FEFFaZWNBSP=122D4aCUNEIFORM SIGN NU11 TENUuOVER NU11 BUR OVER BUR",
     "=16E56aMEDEFAIDRIN CAPITAL LETTER HzcNG=16E76mSMALL LETTER HzaNG=1B001aHENTAIGANA LETTER E-1",
     "=1D0C5aBYZANTINE MUSICAL SYMBOL FTHORA SKLIRON CHROMA VASIS"]

end Inlay.Text
