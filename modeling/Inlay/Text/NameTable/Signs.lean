/-
  Inlay.Text.NameTable.Signs
  ────────────────────────────────
  **NAMES OF CHARACTERS.**

  The Unicode 14 names of the signs from U+13000 to U+1D7FF, in the form that
  `Inlay.Text.CharacterName` reads.
-/

namespace Inlay.Text

/-- The names of the signs from U+13000 to U+1D7FF. -/
def signsNames : String :=
  String.join
    ["=13000aEGYPTIAN HIEROGLYPH A001x2x3x4x5yAx6yAyBx7x8x9w10x1x2x3x4yAx5x6x7yAx8x9w20x1x2x3x4x5",
     "x6x7x8x9w30x1x2yAx3x4x5x6x7x8x9w40yAx1x2yAx3yAx4x5yAx6x7x8x9w50x1x2x3x4x5x6x7x8x9w60x1x2x3x4",
     "x5x6x7x8x9w70uB001x2x3x4x5yAx6x7x8x9uC001x2yAyByCx3x4x5x6x7x8x9w10yAx1x2x3x4x5x6x7x8x9w20x1",
     "x2x3x4uD001x2x3x4x5x6x7x8yAx9w10x1x2x3x4x5x6x7x8x9w20x1x2x3x4x5x6x7yAx8x9w30x1yAx2x3x4yAx5x6",
     "x7x8x9w40x1x2x3x4x5x6yAx7x8yAx9w50yAyByCyDyEyFyGyHyIx1x2yAx3x4yAx5x6x7x8x9w60x1x2x3x4x5x6x7",
     "yAyByCyDyEyFyGyHuE001x2x3x4x5x6x7x8yAx9yAw10x1x2x3x4x5x6yAx7yAx8x9w20yAx1x2x3x4x5x6x7x8yAx9",
     "w30x1x2x3x4yAx6x7x8uF001yAx2x3x4x5x6x7x8x9w10x1x2x3yAx4x5x6x7x8x9w20x1yAx2x3x4x5x6x7x8x9w30",
     "x1yAx2x3x4x5x6x7yAx8yAx9w40x1x2x3x4x5yAx6yAx7yAx8x9w50x1yAyByCx2x3uG001x2x3x4x5x6yAx7yAyBx8",
     "x9w10x1yAx2x3x4x5x6x7x8x9w20yAx1x2x3x4x5x6yAx7x8x9w30x1x2x3x4x5x6yAx7yAx8x9w40x1x2x3yAx4x5yA",
     "x6x7x8x9w50x1x2x3x4uH001x2x3x4x5x6yAx7x8uI001x2x3x4x5yAx6x7x8x9yAw10yAx1yAx2x3x4x5uK001x2x3",
     "x4x5x6x7x8uL001x2yAx3x4x5x6yAx7x8uM001yAyBx2x3yAx4x5x6x7x8x9w10yAx1x2yAyByCyDyEyFyGyHx3x4x5",
     "yAx6yAx7yAx8x9w20x1x2yAx3x4yAx5x6x7x8yAx9w30x1yAx2x3yAyBx4x5x6x7x8x9w40yAx1x2x3x4uN001x2x3x4",
     "x5x6x7x8x9w10x1x2x3x4x5x6x7x8yAyBx9w20x1x2x3x4x5yAx6x7x8x9w30x1x2x3yAx4yAx5yAx6x7yAx8x9w40x1",
     "x2vL001y2y3y4y5zaAy6y7y8y9x10y1y2y3y4y5y6y7zaAy8y9x20vU001y2y3y4y5y6y7y8y9x10zaAy1zaAy2y3y4",
     "y5y6y7y8zaAy9x20y1y2zaAuO001yAx2x3x4x5yAx6yAyByCyDyEyFx7x8x9w10yAyByCx1x2x3x4x5x6x7x8x9yAw20",
     "yAx1x2x3x4yAx5yAx6x7x8x9yAw30yAx1x2x3yAx4x5x6yAyByCyDx7x8x9w40x1x2x3x4x5x6x7x8x9w50yAyBx1",
     "uP001yAx2x3yAx4x5x6x7x8x9w10x1uQ001x2x3x4x5x6x7uR001x2yAx3yAyBx4x5x6x7x8x9w10yAx1x2x3x4x5x6",
     "yAx7x8x9w20x1x2x3x4x5x6x7x8x9uS001x2yAx3x4x5x6yAx7x8x9w10x1x2x3x4yAyBx5x6x7yAx8x9w20x1x2x3x4",
     "x5x6yAyBx7x8x9w30x1x2x3x4x5yAx6x7x8x9w40x1x2x3x4x5x6uT001x2x3yAx4x5x6x7yAx8yAx9yAw10x1yAx2x3",
     "x4x5x6yAx7x8x9w20x1x2x3x4x5x6x7x8x9w30x1x2yAx3yAx4x5x6uU001x2x3x4x5x6yAyBx7x8x9w10x1x2x3x4x5",
     "x6x7x8x9w20x1x2x3yAx4x5x6x7x8x9yAw30x1x2yAx3x4x5x6x7x8x9w40x1x2uV001yAyByCyDyEyFyGyHyIx2yAx3",
     "x4x5x6x7yAyBx8x9w10x1yAyByCx2yAyBx3x4x5x6x7x8x9w20yAyByCyDyEyFyGyHyIyJyKyLx1x2x3yAx4x5x6x7x8",
     "yAx9yAw30yAx1yAx2x3yAx4x5x6x7yAx8x9w40yAuW001x2x3yAx4x5x6x7x8x9yAw10yAx1x2x3x4yAx5x6x7yAx8yA",
     "x9w20x1x2x3x4yAx5uX001x2x3x4yAyBx5x6yAx7x8yAuY001yAx2x3x4x5x6x7x8uZ001x2yAyByCyDx3yAyBx4yAx5",
     "yAx6x7x8x9w10x1x2x3x4x5yAyByCyDyEyFyGyHyIx6yAyByCyDyEyFyGyHuAA001y2y3y4y5y6y7zaAzaBy8y9x10y1",
     "y2y3y4y5y6y7y8y9x20y1y2y3y4y5y6y7y8y9x30y1y2=13430uVERTICAL JOINERuHORIZONTAL JOINER",
     "uINSERT AT TOP STARTzfBOTTOM STARTzfTOP ENDzfBOTTOM ENDuOVERLAY MIDDLEuBEGIN SEGMENT",
     "uEND SEGMENT=14400aANATOLIAN HIEROGLYPH A001y2y3y4y5y6y7y8y9x10zaAy1y2y3y4y5y6y7y8y9x20y1y2",
     "y3y4y5y6zaAy7y8y9x30y1y2y3y4y5y6y7y8y9zaAx40y1zaAy2y3y4y5zaAy6zaAzaBy7y8y9x50y1y2y3y4y5y6y7",
     "y8y9x60y1y2y3y4y5y6zaAzaBzaCy7y8y9x70y1y2y3y4y5y6y7y8y9x80y1y2y3y4y5y6y7y8y9x90y1y2y3y4y5y6",
     "y7zaAy8zaAy9w100zaAy1zaAy2zaAy3y4zaAzaBzaCy5zaAzaBy6y7zaAzaBzaCy8y9x10zaAzaBy1y2y3y4y5zaAy6",
     "y7y8y9x20y1y2y3y4y5zaAy6y7y8y9x30y1y2y3y4y5zaAy6y7y8y9x40y1y2y3y4y5y6y7y8y9x50y1y2y3y4y5y6y7",
     "y8y9x60y1y2y3y4y5y6y7y8y9x70y1y2y3y4y5y6y7y8y9x80y1y2y3y4y5y6y7y8y9x90y1y2y3y4y5y6y7y8y9w200",
     "y1y2zaAzaBy3y4y5y6y7zaAy8y9zaAx10y1y2y3y4y5zaAy6zaAy7y8y9x20y1y2y3y4y5y6y7zaAy8y9x30y1y2y3y4",
     "y5y6y7y8y9x40y1y2y3y4y5y6y7y8y9x50y1y2y3y4y5y6y7y8y9x60y1y2y3y4y5y6y7zaAy8y9x70y1y2y3y4y5y6",
     "y7y8y9x80y1y2y3y4y5y6y7y8y9zaAx90y1y2y3y4zaAy5y6y7y8y9zaAw300y1y2y3y4y5y6y7y8y9zaAx10y1y2y3",
     "y4y5y6y7y8y9x20y1y2y3y4y5y6y7y8y9zaAx30y1y2AzaBzaCy3y4y5y6zaAzaBzaCy7y8y9x40y1y2y3y4y5y6y7y8",
     "y9x50y1y2y3y4y5y6y7y8y9zaAx60y1y2y3y4zaAy5y6y7y8zaAy9x70y1zaAy2y3y4y5y6y7y8y9x80y1zaAy2",
     "y3 RA OR RIzaAy4y5y6zaAy7y8y9x90y1y2y3 EIGHTy4y5y6y7y8y9w400y1y2y3y4y5y6y7y8y9",
     "x10 BEGIN LOGOGRAM MARKzaA END LOGOGRAM MARKy1y2y3y4y5y6y7y8y9x20y1y2y3y4y5y6y7y8y9x30y1y2y3",
     "y4y5y6y7y8y9x40y1y2y3y4y5y6y7y8y9x50zaAy1y2y3y4y5y6y7zaAy8y9x60y1y2y3y4y5y6y7y8y9x70y1y2y3y4",
     "y5y6y7y8y9x80y1y2y3y4y5y6y7y8y9x90y1y2y3y4y5y6y7w501y2y3y4y5y6y7y8y9x10y1y2y3y4y5y6y7y8y9x20",
     "y1y2y3y4y5y6y7y8y9x30=16800aBAMUM LETTER PHASE-A NGKUE MFONvGBIEE FONvPON MFON PIPAEMGBIEE",
     "zlBAvNAA MFONvSHUENSHUETvTITA MFONvNZA MFONvSHINDA PA NJIvPON PA NJI PIPAEMGBIEEznBA",
     "vMAEMBGBIEEvTU MAEMBAvNGANGUvMAEMVEUXxNSUAEwVEUAENGAMvSEUNYAMvNTOQPENvKEUKEUTNDAvNKINDIvSUU",
     "vNGKUENZEUMvLAPAQwET KUTvNTAP MFAAvMAEKEUPvPASHAEvGHEUAERAEvPAMSHAEvMON NGGEUAETvNZUN MEUT",
     "vU YUQ NAEvGHEUAEGHEUAEvNTAP NTAAvSISAvMGBASAwEUNJOMNDEUQwOOMPUQvKAFAvPA LEERAEWA",
     "vNDA LEERAEWAvPETvMAEMKPENvNIKAvPUPvTUAEPvLUAEPvSONJAMvTEUTEUWENvMAENYIvKETvNDAANGGEUAET",
     "vKUOQvMOOMEUTvSHUMvLOMMAEvFIRIvROMvKPOQvSOQvMAP PIEETvSHIRAEvNTAPvSHOQ NSHUT YUM",
     "vNYIT MONGKEUAEQvPAARAEvNKAARAEvUNKNOWNvNGGENvMAESIvNJAMvMBANYIvNYETvTEUAENvSOTvPAAMvNSHIEE",
     "vMAEMvNYIvKAQvNSHAvVEEvLUvNENwAQvMBAQtB NSHUETvTU MAEMGBIEEvSIEEwET TUvLOM NTEUMvMBA MAELEE",
     "vKIEEMvYEURAEvMBAARAEvKAMvPEESHIvYAFU LEERAEWAvLAM NSHUT NYAMvNTIEE SHEUOQwDU NJAA",
     "vGHEUGHEUAEMvPITvTU NSIEEvSHET NJAQyUAEQTUvMFON TEUAEQwBIT MBAAKETvNYI NTEUMvKEUPUQvGHEUGHEN",
     "vKEUYEUXvLAANAEvPARUMvVEUMvNGKINDI MVOPxGEU MBUvWUAETvSAKEUAEvTAAMvMEUQvNGGUOQzc LARGE",
     "vMFIYAQvSUEvMBEURIwONTIEENvNYAEMAEvPUNGAAMvMEUT NGGEETvFEUXvMBUOQvFEEvKEUAEMvMA NJEUAENA",
     "zbUQAvLETvNGGAAMwSENvMAvKIQvNGOMtC NGKUE MAEMBAwZAvYUMvWANGKUOQvNGGENwDEUAEREEwGKAQvGHARAE",
     "vMBEEKEETvGBAYIvNYIR MKPARAQ MEUNwTU MBITvMBEUMvPIRIEENvNDOMBUvMBAA CABBAGE-TREEvKEUSHEUAEP",
     "vGHAPvKEUKAQvYU MUOMAEvNZEUMvMBUEvNSEUAENvMBITvYEUQvKPARAQwAAvSEUXvNDIDAvTAASHAEvNJUEQ",
     "vTITA YUEvSUAETvNGGUAEN NYAMvVEUXvNANSANAQvMA KEUAERIvNTAAwGGUONvLAPvMBIRIEENwGBASAQ",
     "vNTEUNGBAvTEUTEUXvNGGUMvFUEvNDEUTwSAxHAQvBUNGvVEUAEPENvMBERAEvRUvNJAEMvLAMvTITUAEP",
     "vNSUOT NGOMwJEEEEvKETvNGGUvMAESIwBUAEMvLUvKUTvNJAMwGOMvWUPvNGGUEETwSOMwTENvKUOP NKAARAEvNSUN",
     "wDAMvMA NSIEEvYAAvNDAPvSHUEQwETFONvMBIwAEMBAwBANYIvKEUSEUXvMBEUXvKEUMvMBAA PICKETvYUWOQ",
     "vNJEUXvMIEEwUAEvSHIQvKEN LAWzaFATIGUEvNGAQwAQvLIQvPINwENvTETtD MBUOvWAPvNJIvMFONvNJIEEvLIEE",
     "vNJEUTwSHEEwGGAAMAEwYAMvWUAENvNGKUNvSHEEvNGKAPvKEUAETMEUNvTEUTvSHEUAEvNJAPvSUEvKETvYAEMMAE",
     "vKUOMvSAPvMFEUTvNDEUXvMALEERIwEUTvSEUAEQvYENvNJEUAEMvKEUOT MBUAEvNGKEURIvTUvGHAAvNGKYEE",
     "vFEUFEUAETvNDEEvMGBOFUMvLEUAEPvNDONvMONIwGBEUNvPUUTvMGBIEEwFOvLUMvNSIEEPvMBAAvKWAETvNYET",
     "vTEUAENvSOTvYUWOQvKEUMvRAEMvTEEEEvNGKEUAEQvMFEUAEvNSIEETvKEUPvPIPwEUTAEvNYUEvLETvNGGAAM",
     "vMFIEEvNGGWAENvYUOMvPAPvYUOPvNDAMwTEUMvSUAEvKUNvNGGEUXxKIEEvTUOTvMEUNvKUQvNSUMvTEUNvMAENJET",
     "vNGGAPvLEUMvNGGUOMwSHUTwJUEQvGHEUAEvKUvREN OLDvTAEwOQvNYIvRIIvLEEEEvMEEEEvMvSUUvMUvSHIIxEUX",
     "vKYEEvNUvSHUvNTEEvPEEvNIvSHOQvPUQvMVOPvLOQvREN MUCHvTIvNTUUvMBAA SEVENvSAQvFAAtE NDAPvTOON",
     "vMBEUMvLAPvVOMvLOONvPAAvSOMvRAQvNSHUOPwDUNvPUAEvTAMvNGKAvKPEUXvWUOvSEEvNGGEUAETvPAAMvTOO",
     "vKUOPvLOMvNSHIEEwGOPvMAEMvNGKEUXxOQwSHUEvRIMGBAvNJEUXvPEEMvSAAvNGGURAEvMGBAvGHEUXvNGKEUAEM",
     "wJAEMLIvMAPvLOOTvNGGEEEEwDIQvTAEN NTEUMvSETvPUMvNDAA SOFTNESSwGGUAESHAE NYAMvYIEEvGHEUNvTUAE",
     "vYEUAEvPOvTUMAEvKEUAEvSUAENvTEUAEQvVEUAEvWEUXvLAAMvPUvTAAQvGHAAMAEvNGEUREUTvSHEUAEQvMGBEN",
     "wBEEvNZAQwKOMvGBETvTUMvKUETvYAPvNYI CLEAVERvYITvMFEUQvNDIAQvPIEEQvYUEQvLEUAEMvFUEvGBEUX",
     "vNGKUPvKETvMAEvNGKAAMIvGHETvFAvNTUMvPEUTvYEUMvNGGEUAEwYI BETWEENwZUQvPOONvMIEEvFUETvNAEvMUAE",
     "vGHEUAEvFU IvMVIvPUAQvNGKUMvKUTvPIETvNTAPvYEUAETvNGGUPvPA PEOPLEvFU CALLwOMvNJEEvAvTOQvOvI",
     "vLAQvPA PLURALvTAAxQvNDAA MY HOUSEvSHIQvYEUXvNGUAEvYUAENwOQ SWIMMINGzaCOVERwUQxNvKEUXvPEUX",
     "vNJEE EPOCHvPUEvWUEvFEEvVEEvLUvMIvREUXwAEvNGUAETxAvSHOyQvFU REMEDYvNAvPIvLOQvKOvMENwAxQvTEU",
     "vKIvMONvTENvFAQvGHOMtF KAvUvKUvEEvREEvTAEvNYIvLAvRIIxEEvMEEEEvTAAvNDAAwJAEMvMvSUUwHIIwIwEUX",
     "vKYEEwETvNUAEwUwJUAEvYOQvSHUvYAvNSHAvPEUXvNTEEvWUEvPEEvRUvNIvREUXvKENvNGKWAENxGAvSHOvPUAE",
     "vFOMvWAvLIwOQvKOvMBENvRENvMAwOwBAAvTETvKPAvSAMBAvVUEQ=16A40aMRO LETTER TAlNGIlYOlMIMlBAlDAlA",
     "lPHIlKHAIlHAOlDAIlCHUlKEAAElOLlMAEMlNINlPAlOOlOlROlSHIlTHEAlEAlWAlElKOlLANmAlHAIlRIlTEK",
     "=16A60eDIGIT ZEROkONEkTWOlHREEkFOURlIVEkSIXlEVENkEIGHTkNINE=16A6EfANDAfOUBLE DANDA",
     "aTANGSA LETTER OZpCpQpXoAZpCpQpXoVZpCpQpXoEZpCpQpXoIZpCpQpXoUZpCpQpXoAWZqCqQqXoUIZqCqQqX",
     "oFINAL NGoLONG UEXoSHORT UEZuAWXoUECqZqQqXpIUZrCrQrXoMZpCpQpXoKApHAoGAoNGAoSAoYAoWAoPAoNYA",
     "oPHAoBAoMAoNAoHAoLAoHTAoTAoDAoRAoNHAoSHAoCAoTSAoGHAoHTTAoTHAoXAoFAoDHAoCHAoZA",
     "=16AC0hDIGIT ZEROnONEnTWOoHREEnFOURoIVEnSIXoEVENnEIGHTnNINE=16AD0aBASSA VAH LETTER ENNIrKA",
     "rSErFArMBErYIErGAHrDHIIrKPAHrJOrHWAHrWArZOrGBUrDOrCErUWUrTOrBArVUrYEINrPArWADDArArOsOrUrEErE",
     "rI=16AF0kCOMBINING HIGH TONEuLOW TONEuMID TONEuLOW-MID TONEuHIGH-LOW TONEkFULL STOP",
     "=16B00aPAHAWH HMONG VOWEL KEEBwVuIBvVuAUBwVuUBvVuEBvVuAIBwVuOOBwVuAWBwVuUABwVuOBvVuIABwVuAB",
     "vVuWBvVuAABwVnCONSONANT VAUxNTSAUxLAUxHAUxNLAUxRAUxNKAUxQHAUxYAUxHLAUxMAUxCHAUxNCHAUxHNAU",
     "xPLHAUxNTHAUyAUxAUxXAUxCAUnMARK CIM TUBwSOwKESxHAVwSUAMwHOMwTAUMnSIGN VOS THOMxSHAB CEEB",
     "sCIM CHEEMsVOS THIABwFEEMsXYEEM NTXIVyRHOyTOVyFAIBsVOS SEEVsMEEJ SUABsVOS NRUAsIB YAMsXAUS",
     "sCIM TSOV ROG=16B50nDIGIT ZEROtONEtTWOuHREEtFOURuIVEtSIXuEVENtEIGHTtNINE=16B5BnNUMBER TENS",
     "uHUNDREDSuTEN THOUSANDSuMILLIONSuHUNDRED MILLIONSuTEN BILLIONSvRILLIONS=16B63nSIGN VOS LUB",
     "sXYOOsHLIsTHIRD-STAGE HLIsZWJ THAJsHNUBsNQIGsXIABsNTUJsAVsTXHEEJ CEEVsMEEJ TSEEBsTAUsLOSsMUS",
     "sCIM HAIS LUS NTOG NTOGwCUAM TSHOOJwTXWVzb CHWVwPUB DAWBwNRES TOS=16B7DnCLAN SIGN TSHEEJ",
     "xYEEGxLISyAUJxXYOOJxKOOxHAWJxMUASxTHOJySABxPHABxKHABxHAMxVAJxFAJxYAJxTSWBxKWMxVWJ",
     "=16E40aMEDEFAIDRIN CAPITAL LETTER MzcSzcVzcWzcATIUzcZzcKPzcPzcTzcGzcFzcIzcKzcAzcJzcEzcBzcC",
     "zcUzcYUzcLzcQzcHPzcNYzcXzcDzcOEzcNzcRzcOzcAIzcYmSMALL LETTER MzaSzaVzaWzaATIUzaZzaKPzaPzaT",
     "zaGzaFzaIzaKzaAzaJzaEzaBzaCzaUzaYUzaLzaQzaHPzaNYzaXzaDzaOEzaNzaRzaOzaAIzaYmDIGIT ZEROsONE",
     "sTWOtHREEsFOURtIVEsSIXtEVENsEIGHTsNINEmNUMBER TENtELEVENtTWELVEuHIRTEENtFOURTEENuIFTEEN",
     "tSIXTEENuEVENTEENtEIGHTEENtNINETEENmDIGIT ONE ALTERNATE FORMsTWO ALTERNATE FORM",
     "tHREE ALTERNATE FORMmCOMMAmFULL STOPmSYMBOL AIVAmEXCLAMATION OH=16F00bIAO LETTER PAmBAmYI PA",
     "mPLAmMAnHAmARCHAIC MAmFAmVAnFAmTAmDAmYI TTAqAmTTAmDDAmNAnHAmYI NNAmARCHAIC NAmNNAoHAmLAnYA",
     "nHAoYAmTLHAmDLHAmTLHYAmDLHYAmKAmGAmYI KAmQAnGAmNGAoHAmARCHAIC NGAmHAmXAmGHAoHAmTSSAmDZZAmNYA",
     "oHAmTSHAmDZHAmYI TSHApDZHAmREFORMED TSHAmSHAnSAmZHAnSHAmTSAmDZAmYI TSAmSAmZAnSAnZAoSA",
     "mARCHAIC ZZAmZZYAoSYAmWAmAHmHHAmBRImSYImDZYImTEnSEmRTE=16F4FfSIGN CONSONANT MODIFIER BAR",
     "fLETTER NASALIZATIONfSIGN ASPIRATIONkREFORMED VOICINGtASPIRATIONfVOWEL SIGN ArArHHrNsGqOrO",
     "qWOqWqErNsGqOEYqIrAsNtGrOrErIrUrNGqUrAsNtGrUrEIrNGqYrIqAEsEqERRqROUNDED ERRqERqROUNDED ERqAI",
     "qEIqAUqOUqNrGqUOGqYUIqOGrERqVWqIGqEAqIONGqUI=16F8FfTONE RIGHTkTOP RIGHTkABOVEkBELOW",
     "fLETTER TONE-2r3r4r5r6r7r8mREFORMED TONE-1zb2zb4zb5zb6zb8=16FE0aTANGUT ITERATION MARK",
     "aNUSHU ITERATION MARKaOLD CHINESE HOOK MARKmITERATION MARKaKHITAN SMALL SCRIPT FILLER",
     "=16FF0aVIETNAMESE ALTERNATE READING MARK CAzjNHAY=18800aTANGUT COMPONENT-001t2t3t4t5t6t7t8t9",
     "s10t1t2t3t4t5t6t7t8t9s20t1t2t3t4t5t6t7t8t9s30t1t2t3t4t5t6t7t8t9s40t1t2t3t4t5t6t7t8t9s50t1t2",
     "t3t4t5t6t7t8t9s60t1t2t3t4t5t6t7t8t9s70t1t2t3t4t5t6t7t8t9s80t1t2t3t4t5t6t7t8t9s90t1t2t3t4t5t6",
     "t7t8t9r100t1t2t3t4t5t6t7t8t9s10t1t2t3t4t5t6t7t8t9s20t1t2t3t4t5t6t7t8t9s30t1t2t3t4t5t6t7t8t9",
     "s40t1t2t3t4t5t6t7t8t9s50t1t2t3t4t5t6t7t8t9s60t1t2t3t4t5t6t7t8t9s70t1t2t3t4t5t6t7t8t9s80t1t2",
     "t3t4t5t6t7t8t9s90t1t2t3t4t5t6t7t8t9r200t1t2t3t4t5t6t7t8t9s10t1t2t3t4t5t6t7t8t9s20t1t2t3t4t5",
     "t6t7t8t9s30t1t2t3t4t5t6t7t8t9s40t1t2t3t4t5t6t7t8t9s50t1t2t3t4t5t6t7t8t9s60t1t2t3t4t5t6t7t8t9",
     "s70t1t2t3t4t5t6t7t8t9s80t1t2t3t4t5t6t7t8t9s90t1t2t3t4t5t6t7t8t9r300t1t2t3t4t5t6t7t8t9s10t1t2",
     "t3t4t5t6t7t8t9s20t1t2t3t4t5t6t7t8t9s30t1t2t3t4t5t6t7t8t9s40t1t2t3t4t5t6t7t8t9s50t1t2t3t4t5t6",
     "t7t8t9s60t1t2t3t4t5t6t7t8t9s70t1t2t3t4t5t6t7t8t9s80t1t2t3t4t5t6t7t8t9s90t1t2t3t4t5t6t7t8t9",
     "r400t1t2t3t4t5t6t7t8t9s10t1t2t3t4t5t6t7t8t9s20t1t2t3t4t5t6t7t8t9s30t1t2t3t4t5t6t7t8t9s40t1t2",
     "t3t4t5t6t7t8t9s50t1t2t3t4t5t6t7t8t9s60t1t2t3t4t5t6t7t8t9s70t1t2t3t4t5t6t7t8t9s80t1t2t3t4t5t6",
     "t7t8t9s90t1t2t3t4t5t6t7t8t9r500t1t2t3t4t5t6t7t8t9s10t1t2t3t4t5t6t7t8t9s20t1t2t3t4t5t6t7t8t9",
     "s30t1t2t3t4t5t6t7t8t9s40t1t2t3t4t5t6t7t8t9s50t1t2t3t4t5t6t7t8t9s60t1t2t3t4t5t6t7t8t9s70t1t2",
     "t3t4t5t6t7t8t9s80t1t2t3t4t5t6t7t8t9s90t1t2t3t4t5t6t7t8t9r600t1t2t3t4t5t6t7t8t9s10t1t2t3t4t5",
     "t6t7t8t9s20t1t2t3t4t5t6t7t8t9s30t1t2t3t4t5t6t7t8t9s40t1t2t3t4t5t6t7t8t9s50t1t2t3t4t5t6t7t8t9",
     "s60t1t2t3t4t5t6t7t8t9s70t1t2t3t4t5t6t7t8t9s80t1t2t3t4t5t6t7t8t9s90t1t2t3t4t5t6t7t8t9r700t1t2",
     "t3t4t5t6t7t8t9s10t1t2t3t4t5t6t7t8t9s20t1t2t3t4t5t6t7t8t9s30t1t2t3t4t5t6t7t8t9s40t1t2t3t4t5t6",
     "t7t8t9s50t1t2t3t4t5t6t7t8t9s60t1t2t3t4t5t6t7t8=1AFF0aKATAKANA LETTER MINNAN TONE-2zd3zd4zd5",
     "=1AFF5zd7zd8xNASALIZED TONE-1zn2zn3zn4zn5=1AFFDzn7zn8=1B000qARCHAIC E",
     "aHIRAGANA LETTER ARCHAIC YEbENTAIGANA LETTER A-1u2u3uWOsI-1u2u3u4sU-1u2u3u4u5sE-2u3u4u5u6",
     "sO-1u2u3sKA-1v2v3v4v5v6v7v8v9v10w1vKEtI-1v2v3v4v5v6v7v8tU-1v2v3v4v5v6v7tE-1v2v3v4v5v6tO-1v2",
     "v3vKIsSA-1v2v3v4v5v6v7v8tI-1v2v3v4v5v6tU-1v2v3v4v5v6v7v8tE-1v2v3v4v5tO-1v2v3v4v5v6v7sTA-1v2",
     "v3v4tI-1v2v3v4v5v6v7tU-1v2v3v4vTOtE-1v2v3v4v5v6v7v8v9tO-1v2v3v4v5v6vRAsNA-1v2v3v4v5v6v7v8v9",
     "tI-1v2v3v4v5v6v7vTEtU-1v2v3tE-1v2v3v4v5v6vKOtO-1v2v3v4v5sHA-1v2v3v4v5v6v7v8v9v10w1tI-1v2v3v4",
     "v5v6v7tU-1v2v3tE-1v2v3v4v5v6v7tO-1v2v3v4v5v6v7v8sMA-1v2v3v4v5v6v7tI-1v2v3v4v5v6v7tU-1v2v3v4",
     "tE-1v2vMAtO-1v2v3v4v5v6sYA-1v2v3v4v5vYOtU-1v2v3v4tO-1v2v3v4v5v6sRA-1v2v3v4tI-1v2v3v4v5v6v7",
     "tU-1v2v3v4v5v6tE-1v2v3v4tO-1v2v3v4v5v6sWA-1v2v3v4v5tI-1v2v3v4v5tE-1v2v3v4tO-1v2v3v4v5v6v7",
     "sN-MU-MO-1zb2bIRAGANA LETTER ARCHAIC WUaKATAKANA LETTER ARCHAIC YIzaEyWU",
     "=1B150aHIRAGANA LETTER SMALL WIxExO=1B164aKATAKANA LETTER SMALL WIxExOwN",
     "=1BC00aDUPLOYAN LETTER HqXqPqTqFqKqLqBqDqVqGqRqP NqD SqF NqK MqR SqTHqSLOAN DHqDHqKKqSLOAN J",
     "qHLqLHqRHqMqNqJqSqM NqN MqJ MqS JqM WITH DOTqN WITH DOTqJ WITH DOTzbS INSIDE AND ABOVE",
     "qS WITH DOTzb BELOWqM SqN SqJ SqS SqM N SqN M SqJ M SqS J SqJ S WITH DOTsNt SqS Tt RsPt R",
     "qT SsR SqWrHr RqS NsMqK R SqG R SqS Kt RqAqSLOAN OWqOAqOqAOUqIqEqIEqSHORT IqUIqEEqSLOAN EH",
     "qROMANIAN IqSLOAN EEqLONG IqYEqUqEUqXWqU NqLONG UqROMANIAN UqUHqSLOAN UqOOHrWrUqWArOrIrEIrOW",
     "qNASAL UwOwIwAqPERNIN ANyMqSLOAN ENwANwONqVOCALIC M=1BC70jAFFIX LEFT HORIZONTAL SECANT",
     "pMID HORIZONTAL SECANTpRIGHT HORIZONTAL SECANTpLOW VERTICAL SECANTpMID VERTICAL SECANT",
     "pHIGH VERTICAL SECANTpATTACHED SECANTyLEFT-TO-RIGHT SECANTyTANGENTzbILyE HOOKyI HOOK",
     "yTANGENT HOOK=1BC80pHIGH ACUTEuTIGHT ACUTEuGRAVEuLONG GRAVEuDOTuCIRCLEuLINEuWAVEuVERTICAL",
     "=1BC90pLOW ACUTEtTIGHT ACUTEtGRAVEtLONG GRAVEtDOTtCIRCLEtLINEtWAVEtVERTICALtARROW",
     "=1BC9CjSIGN O WITH CROSSjTHICK LETTER SELECTORjDOUBLE MARKjPUNCTUATION CHINOOK FULL STOP",
     "aSHORTHAND FORMAT LETTER OVERLAPrCONTINUING OVERLAPrDOWN STEPrUP STEP",
     "=1CF00aZNAMENNY COMBINING MARK GORAZDO NIZKO S KRYZHEM ON LEFTyNIZKO S KRYZHEM ON LEFT",
     "yTSATA ON LEFTyGORAZDO NIZKO ON LEFTyNIZKO ON LEFTySREDNE ON LEFTyMALO POVYSHE ON LEFT",
     "yPOVYSHE ON LEFTyVYSOKO ON LEFTyMALO POVYSHE S KHOKHLOM ON LEFTyPOVYSHE S KHOKHLOM ON LEFT",
     "yVYSOKO S KHOKHLOM ON LEFTyGORAZDO NIZKO S KRYZHEM ON RIGHTyNIZKO S KRYZHEM ON RIGHT",
     "yTSATA ON RIGHTyGORAZDO NIZKO ON RIGHTyNIZKO ON RIGHTySREDNE ON RIGHTyMALO POVYSHE ON RIGHT",
     "yPOVYSHE ON RIGHTyVYSOKO ON RIGHTyMALO POVYSHE S KHOKHLOM ON RIGHT",
     "yPOVYSHE S KHOKHLOM ON RIGHTyVYSOKO S KHOKHLOM ON RIGHTyTSATA S KRYZHEM",
     "yMALO POVYSHE S KRYZHEMySTRANNO MALO POVYSHEyPOVYSHE S KRYZHEMziTRANNOyVYSOKO S KRYZHEM",
     "yMALO POVYSHE STRANNOyGORAZDO VYSOKOyZELOyONyRAVNOyTIKHAYAyBORZAYAyUDARKAyPODVERTKAyLOMKA",
     "yKUPNAYAzaACHKAyZEVOKySKOBAyRAZSEKAyKRYZH ON LEFT=1CF30tTONAL RANGE MARK MRACHNOzlSVETLO",
     "zlTRESVETLOtMARK ZADERZHKAyDEMESTVENNY ZADERZHKAyOTSECHKAyPODCHASHIEzj WITH VERTICAL STROKE",
     "yCHASHKAzg POLNAYAyOBLACHKOySOROCHYA NOZHKAyTOCHKAyDVOETOCHIEtATTACHING VERTICAL OMET",
     "tMARK CURVED OMETyKRYZHtLOWER TONAL RANGE INDICATORjPRIZNAK MODIFIER LEVEL-2zh3",
     "zbDIRECTION FLIPzbKRYZHzbROG=1CF50jNEUME KRYUKu TIKHYpPARAKLITpDVA V CHELNUpKLYUCHpZANOZHEK",
     "pSTOPITSAx S OCHKOMpPEREVODKAy NEPOSTOYANNAYApSTOPITSA WITH SOROCHYA NOZHKApCHELYUSTKApPALKA",
     "pZAPYATAYApGOLUBCHIK BORZYzaTIKHYzaMRACHNYzaSVETLYzaTRESVETLYpVRAKHIYA PROSTAYAyMRACHNAYA",
     "ySVETLAYAyTRESVETLAYAyKLYUCHEVAYA PROSTAYAzlMRACHNAYAzlSVETLAYAzlTRESVETLAYA",
     "pDOUBLE ZAPYATAYApREVERSED CHELYUSTKApDERBITSApKHAMILOpCHASHKApPODCHASHIE",
     "pSKAMEYTSA MRACHNAYAzaSVETLAYAzaTRESVETLAYAzbIKHAYApDEMESTVENNY KLYUCH",
     "pSKAMEYTSA KLYUCHEVAYA SVETLAYAzhNEPOSTOYANNAYAzhVAYA TIKHAYAzaDVOECHELNAYA PROSTAYA",
     "znSVETLAYAznNEPOSTOYANNAYAznKLYUCHEVAYAqLOZHITIEy S ZAPYATOYzaZAKRYTOEzaS KRYZHEMpKRYZHpROG",
     "pFITApKOBYLApZMEYTSApSTATYAv S ZAPYATOYyKRYZHEMyZAPYATOY I KRYZHEMyKRYZHEM I ZAPYATOY",
     "wZAKRYTAYAzg S ZAPYATOYwS ROGOMyDVUMYA ZAPYATYMIyZAPYATOY I PODCHASHIEMpPOLKULIZMY",
     "pSTATYA NEPOSTOYANNAYArRELA PROSTAYAwMRACHNOTIKHAYAwKRYZHEVAYAwPOLUPOVODNAYAyVODNAYA",
     "wNEPOSTOYANNAYAwKLYUCHEPOVODNAYAzeNEPOSTOYANNAYAwTIKHAYA PUTNAYAwDVOECHELNAYAzgOKRYZHEVAYA",
     "zhPOVODNAYAzgAYA KLYUCHEVAYAzgOPOVODNAYA KLYUCHEVAYAwGROMNAYA WITH SINGLE ZAPYATAYA",
     "zbOPOVODNAYA WITH SINGLE ZAPYATAYAzbNAYAzbOPOVODNAYAzl WITH DOUBLE ZAPYATAYAzcKRYZHEVAYA",
     "zm POVODNAYApMECHIKv POVODNYwKLYUCHEVOYzePOVODNYzeNEPOSTOYANNYpSTRELA TRYASOGLASNAYA",
     "zdPOVODNAYAzdSTRELNAYApOSOKAu SVETLAYAvTRESVETLAYAvKRYUKOVAYA SVETLAYAwLYUCHEVAYA SVETLAYA",
     "ziNEPOSTOYANNAYApSTRELA KRYUKOVAYAzh POVODNAYAziGROMNAYA WITH SINGLE ZAPYATAYA",
     "zmOPOVODNAYA WITH SINGLE ZAPYATAYAzmNAYAzmOPOVODNAYAzw WITH DOUBLE ZAPYATAYAznKRYZHEVAYA",
     "zx POVODNAYAziTRYASKApKUFISMApOBLAKOpDUDApNEMKApPAUK=1D000aBYZANTINE MUSICAL SYMBOL PSILI",
     "zaDASEIAzaPERISPOMENIzaOXEIA EKFONITIKONzgDIPLIzaVAREIA EKFONITIKONzhDIPLIzaKATHISTI",
     "zaSYRMATIKIzaPARAKLITIKIzaYPOKRISISzj DIPLIzaKREMASTIzaAPESO EKFONITIKONzaEXO EKFONITIKON",
     "zaTELEIAzaKENTIMATAzaAPOSTROFOSzk DIPLIzaSYNEVMAzaTHITAzaOLIGON ARCHAIONzaGORGON ARCHAION",
     "zaPSILONzaCHAMILONzaVATHYzaISON ARCHAIONzaKENTIMA ARCHAIONzhTA ARCHAIONzaSAXIMATAzaPARICHON",
     "zaSTAVROS APODEXIAzaOXEIAI ARCHAIONzaVAREIAI ARCHAIONzaAPODERMA ARCHAIONzdTHEMAzaKLASMA",
     "zaREVMAzaPIASMA ARCHAIONzaTINAGMAzaANATRICHISMAzaSEISMAzbYNAGMA ARCHAIONziMETA STAVROU",
     "zaOYRANISMA ARCHAIONzaTHEMAzaLEMOIzaDYOzaTRIAzbESSERAzaKRATIMATAzaAPESO EXO NEO",
     "zaFTHORA ARCHAIONzaIMIFTHORAzaTROMIKON ARCHAIONzaKATAVA TROMIKONzaPELASTONzbSIFISTON",
     "zaKONTEVMAzaCHOREVMA ARCHAIONzaRAPISMAzaPARAKALESMA ARCHAIONzfLITIKI ARCHAIONzaICHADINzaNANA",
     "zaPETASMAzaKONTEVMA ALLOzaTROMIKON ALLOzaSTRAGGISMATAzaGRONTHISMATAzaISON NEOzaOLIGON NEO",
     "zbXEIA NEOzaPETASTIzaKOUFISMAzaPETASTOKOUFISMAzaKRATIMOKOUFISMAzaPELASTON NEO",
     "zaKENTIMATA NEO ANOzh NEO ANOzaYPSILIzaAPOSTROFOS NEOzjI SYNDESMOS NEOzaYPORROI",
     "zaKRATIMOYPORROONzaELAFRONzaCHAMILIzaMIKRON ISONzaVAREIA NEOzaPIASMA NEOzbSIFISTON NEO",
     "zaOMALONzaANTIKENOMAzaLYGISMAzaPARAKLITIKI NEOzfALESMA NEOzaETERON PARAKALESMAzaKYLISMA",
     "zaANTIKENOKYLISMAzaTROMIKON NEOzaEKSTREPTONzaSYNAGMA NEOzcRMAzaCHOREVMA NEOzaEPEGERMA",
     "zaSEISMA NEOzaXIRON KLASMAzaTROMIKOPSIFISTONzaPSIFISTOLYGISMAzaTROMIKOLYGISMAzhPARAKALESMA",
     "zaPSIFISTOPARAKALESMAzaTROMIKOSYNAGMAzaPSIFISTOSYNAGMAzaGORGOSYNTHETONzaARGOSYNTHETON",
     "zaETERON ARGOSYNTHETONzaOYRANISMA NEOzaTHEMATISMOS ESOznXOzf APLOUNzdS KAI APOTHES",
     "zaKATAVASMAzaENDOFONONzaYFEN KATOzfANOzaSTAVROSzaKLASMA ANOzaDIPLI ARCHAION",
     "zaKRATIMA ARCHAIONzjLLOziNEOzaAPODERMA NEOzcLIzaDIPLIzaTRIPLIzbETRAPLIzaKORONIS",
     "zaLEIMMA ENOS CHRONOUzhDYO CHRONONzhTRION CHRONONziESSARON CHRONONzhIMISEOS CHRONOU",
     "zaGORGON NEO ANOzhPARESTIGMENON ARISTERAzvDEXIAzaDIGORGONzi PARESTIGMENON ARISTERA KATO",
     "zzhANOzxDEXIAzaTRIGORGONzaARGONzaIMIDIARGONzaDIARGONzaAGOGI POLI ARGIzgARGOTERIzjIzgMETRIA",
     "ziSIzgGORGIzkOTERIzgPOLI GORGIzaMARTYRIA PROTOS ICHOSzjALLI PROTOS ICHOSzjDEYTEROS ICHOS",
     "zjALLI DEYTEROS ICHOSzjTRITOS ICHOSzmFONIASzkETARTOS ICHOSzsLEGETOS ICHOSzjLEGETOS ICHOS",
     "zjPLAGIOS ICHOSzaISAKIA TELOUS ICHIMATOSzaAPOSTROFOI TELOUS ICHIMATOSzaFANEROSIS TETRAFONIAS",
     "zkMONOFONIASzkDIFONIASzaMARTYRIA VARYS ICHOSzjPROTOVARYS ICHOSzkLAGIOS TETARTOS ICHOS",
     "zaGORTHMIKON N APLOUNznDIPLOUNzaENARXIS KAI FTHORA VOUzaIMIFONONzeTHORON",
     "zaFTHORA ARCHAION DEYTEROU ICHOUzhDIATONIKI PAzrNANAzhNAOS ICHOSzhDIATONIKI DI",
     "zhSKLIRON DIATONON DIzhDIATONIKI KEzrZOzrNI KATOzuANOzhMALAKON CHROMA DIFONIASzwMONOFONIAS",
     "zbHTORA SKLIRON CHROMA VASISzbTHORA SKLIRON CHROMA SYNAFIzhNENANOzaCHROA ZYGOSzgKLITON",
     "zgSPATHIzaFTHORA I YFESIS TETARTIMORIONzhENARMONIOS ANTIFONIAzaYFESIS TRITIMORION",
     "zaDIESIS TRITIMORIONziETARTIMORIONzhAPLI DYO DODEKATAzhMONOGRAMMOS TESSERA DODEKATA",
     "zhDIGRAMMOS EX DODEKATAzhTRIGRAMMOS OKTO DODEKATAzaYFESIS APLI DYO DODEKATA",
     "zhMONOGRAMMOS TESSERA DODEKATAzhDIGRAMMOS EX DODEKATAzhTRIGRAMMOS OKTO DODEKATA",
     "zaGENIKI DIESISzhYFESISzaDIASTOLI APLI MIKRIzpEGALIzjDIPLIzjTHESEOSzaSIMANSIS THESEOS",
     "zq DISIMOUzrTRISIMOUzsETRASIMOUzjARSEOSzp DISIMOUzqTRISIMOUzrETRASIMOUzaDIGRAMMA GG",
     "zcFTOGGOS OUzaSTIGMAzaARKTIKO PAziVOUziGAziDIziKEziZOziNIzaKENTIMATA NEO MESOzh NEO MESO",
     "zhTA NEO KATOzh NEO KATOzbLASMA KATOzaGORGON NEO KATO=1D100aMUSICAL SYMBOL SINGLE BARLINE",
     "pDOUBLE BARLINEpFINAL BARLINEpREVERSE FINAL BARLINEpDASHED BARLINEpSHORT BARLINE",
     "pLEFT REPEAT SIGNpRIGHT REPEAT SIGNqEPEAT DOTSpDAL SEGNOr CAPOpSEGNOpCODApREPEATED FIGURE-1",
     "zg2zg3pFERMATAw BELOWpBREATH MARKpCAESURApBRACEtKETpONE-LINE STAFFpTWO-LINE STAFF",
     "qHREE-LINE STAFFpFOUR-LINE STAFFqIVE-LINE STAFFpSIX-LINE STAFFtSTRING FRETBOARD",
     "pFOUR-STRING FRETBOARDpG CLEFv OTTAVA ALTAzeBASSApC CLEFpF CLEFv OTTAVA ALTAzeBASSA",
     "pDRUM CLEF-1za2=1D129pMULTIPLE MEASURE RESTpDOUBLE SHARPwFLATpFLAT UPuDOWNpNATURAL UPxDOWN",
     "pSHARP UPvDOWNpQUARTER TONE SHARPzdFLATpCOMMON TIMEqUT TIMEpOTTAVA ALTAwBASSA",
     "pQUINDICESIMA ALTAzdBASSApMULTI RESTpWHOLE RESTpHALF RESTpQUARTER RESTpEIGHTH REST",
     "pSIXTEENTH RESTpTHIRTY-SECOND RESTpSIXTY-FOURTH RESTpONE HUNDRED TWENTY-EIGHTH REST",
     "pX NOTEHEADpPLUS NOTEHEADpCIRCLE X NOTEHEADpSQUARE NOTEHEAD WHITEzgBLACK",
     "pTRIANGLE NOTEHEAD UP WHITEzlBLACKziLEFT WHITEznBLACKziRIGHT WHITEzoBLACKziDOWN WHITEznBLACK",
     "ziUP RIGHT WHITEzrBLACKpMOON NOTEHEAD WHITEzeBLACKpTRIANGLE-ROUND NOTEHEAD DOWN WHITEztBLACK",
     "pPARENTHESIS NOTEHEADpVOID NOTEHEADpNOTEHEAD BLACKqULL NOTEHEADpCLUSTER NOTEHEAD WHITE",
     "zhBLACKpBREVEpWHOLE NOTEpHALF NOTEpQUARTER NOTEpEIGHTH NOTEpSIXTEENTH NOTE",
     "pTHIRTY-SECOND NOTEpSIXTY-FOURTH NOTEpONE HUNDRED TWENTY-EIGHTH NOTEpCOMBINING STEM",
     "zbPRECHGESANG STEMzaTREMOLO-1zi2zi3pFINGERED TREMOLO-1zh2zh3pCOMBINING AUGMENTATION DOT",
     "zaFLAG-1zf2zf3zf4zf5pBEGIN BEAMpEND BEAMpBEGIN TIEpEND TIEpBEGIN SLURpEND SLURpBEGIN PHRASE",
     "pEND PHRASEpCOMBINING ACCENTzaSTACCATOzaTENUTOzaSTACCATISSIMOzaMARCATOzh-STACCATO",
     "zaACCENT-STACCATOzaLOUREpARPEGGIATO UPzbDOWNpCOMBINING DOITzaRIPzaFLIPzaSMEARzaBEND",
     "zaDOUBLE TONGUEzaTRIPLE TONGUEpRINFORZANDOpSUBITOpZpPIANOpMEZZOpFORTEpCRESCENDOpDECRESCENDO",
     "pGRACE NOTE SLASHzbNO SLASHpTRqURNpINVERTED TURNpTURN SLASHuUPpORNAMENT STROKE-1zg2zg3zg4zg5",
     "zg6zg7zg8zg9zg10zh1pHAUPTSTIMMEpNEBENSTIMMEpEND OF STIMMEpDEGREE SLASHpCOMBINING DOWN BOW",
     "zaUP BOWzaHARMONICzaSNAP PIZZICATOpPEDAL MARKvUP MARKpHALF PEDAL MARKpGLISSANDO UPzaDOWN",
     "pWITH FINGERNAILSpDAMPt ALLpMAXIMApLONGApBREVISpSEMIBREVIS WHITEzbBLACKpMINIMAv BLACK",
     "pSEMIMINIMA WHITEzbBLACKpFUSA WHITEuBLACKpLONGA PERFECTA RESTvIMPERFECTA RESTpBREVIS REST",
     "pSEMIBREVIS RESTpMINIMA RESTpSEMIMINIMA RESTpTEMPUS PERFECTUM CUM PROLATIONE PERFECTA",
     "zwIMPERFECTAzwPERFECTA DIMINUTION-1wIMPERFECTUM CUM PROLATIONE PERFECTAzyIMPERFECTA",
     "zzj DIMINUTION-1zzv2zzv3pCROIXpGREGORIAN C CLEFzaF CLEFpSQUARE BpVIRGApPODATUSpCLIVIS",
     "pSCANDICUSpCLIMACUSpTORCULUSpPORRECTUSy FLEXUSpSCANDICUS FLEXUSpTORCULUS RESUPINUS",
     "pPES SUBPUNCTISpKIEVAN C CLEFwEND OF PIECEwFINAL NOTEwRECITATIVE MARKwWHOLE NOTEwHALF NOTE",
     "wQUARTER NOTE STEM DOWNzpUPwEIGHTH NOTE STEM DOWNzoUPwFLAT SIGNpSORIpKORON",
     "=1D200aGREEK VOCAL NOTATION SYMBOL-1zd2zd3zd4zd5zd6zd7zd8zd9zd10ze1ze2ze3ze4ze5ze6ze7ze8ze9",
     "zd20ze1ze2ze3ze4zd50ze1ze2ze3ze4gINSTRUMENTAL NOTATION SYMBOL-1zk2zk4zk5zk7zk8zk11zl2zl3zl4",
     "zl7zl8zl9zk23zl4zl5zl6zl7zl9zk30zl2zl6zl7zl8zl9zk40zl2zl3zl5zl7zl8zl9zk50zl1zl2zl3zl4",
     "aCOMBINING GREEK MUSICAL TRISEMEzaETRASEMEyPENTASEMEaGREEK MUSICAL LEIMMA",
     "=1D2E0aMAYAN NUMERAL ZEROoONEoTWOpHREEoFOURpIVEoSIXpEVENoEIGHToNINEoTENoELEVENoTWELVE",
     "pHIRTEENoFOURTEENpIFTEENoSIXTEENpEVENTEENoEIGHTEENoNINETEEN=1D300bONOGRAM FOR EARTH",
     "aDIGRAM FOR HEAVENLY EARTHmUMAN EARTHlEARTHLY HEAVENuUMANpHaTETRAGRAM FOR CENTREoFULL CIRCLE",
     "oMIREDoBARRIERoKEEPING SMALLoCONTRARIETYoASCENToOPPOSITIONoBRANCHING OUT",
     "oDEFECTIVENESS OR DISTORTIONpIVERGENCEoYOUTHFULNESSoINCREASEoPENETRATIONoREACHoCONTACT",
     "oHOLDING BACKoWAITINGoFOLLOWINGoADVANCEoRELEASEqSISTANCEoEASEoJOYoCONTENTIONoENDEAVOUR",
     "oDUTIESoCHANGEoDECISIVENESSoBOLD RESOLUTIONoPACKINGoLEGIONoCLOSENESSoKINSHIPoGATHERING",
     "oSTRENGTHoPURITYoFULLNESSoRESIDENCEoLAW OR MODELoRESPONSEoGOING TO MEEToENCOUNTERSoSTOVE",
     "oGREATNESSoENLARGEMENToPATTERNoRITUALoFLIGHToVASTNESS OR WASTINGoCONSTANCYoMEASUREoETERNITY",
     "oUNITYoDIMINISHMENToCLOSED MOUTHoGUARDEDNESSpATHERING INoMASSINGoACCUMULATIONoEMBELLISHMENT",
     "oDOUBToWATCHoSINKINGoINNERoDEPARTUREpARKENINGpIMMINGoEXHAUSTIONoSEVERANCEpTOPPAGEoHARDNESS",
     "oCOMPLETIONpLOSUREoFAILUREoAGGRAVATIONoCOMPLIANCEoON THE VERGEoDIFFICULTIESoLABOURING",
     "oFOSTERING=1D360aCOUNTING ROD UNIT DIGIT ONEyTWOzaHREEyFOURzaIVEySIXzaEVENyEIGHTyNINE",
     "nTENS DIGIT ONEyTWOzaHREEyFOURzaIVEySIXzaEVENyEIGHTyNINEaIDEOGRAPHIC TALLY MARK ONExTWOyHREE",
     "xFOURyIVEaTALLY MARK ONElFIVE=1D400aMATHEMATICAL BOLD CAPITAL AzbBzbCzbDzbEzbFzbGzbHzbIzbJ",
     "zbKzbLzbMzbNzbOzbPzbQzbRzbSzbTzbUzbVzbWzbXzbYzbZsSMALL AyByCyDyEyFyGyHyIyJyKyLyMyNyOyPyQyRyS",
     "yTyUyVyWyXyYyZnITALIC CAPITAL AzdBzdCzdDzdEzdFzdGzdHzdIzdJzdKzdLzdMzdNzdOzdPzdQzdRzdSzdTzdU",
     "zdVzdWzdXzdYzdZuSMALL AzbBzbCzbDzbEzbFzbG=1D456zbIzbJzbKzbLzbMzbNzbOzbPzbQzbRzbSzbTzbUzbVzbW",
     "zbXzbYzbZnBOLD ITALIC CAPITAL AziBziCziDziEziFziGziHziIziJziKziLziMziNziOziPziQziRziSziTziU",
     "ziVziWziXziYziZzaSMALL AzgBzgCzgDzgEzgFzgGzgHzgIzgJzgKzgLzgMzgNzgOzgPzgQzgRzgSzgTzgUzgVzgW",
     "zgXzgYzgZnSCRIPT CAPITAL A=1D49EzdCzdD=1D4A2zdG=1D4A5zdJzdK=1D4A9zdNzdOzdPzdQ=1D4AEzdSzdTzdU",
     "zdVzdWzdXzdYzdZuSMALL AzbBzbCzbD=1D4BBzbF=1D4BDzbHzbIzbJzbKzbLzbMzbN=1D4C5zbPzbQzbRzbSzbTzbU",
     "zbVzbWzbXzbYzbZnBOLD SCRIPT CAPITAL AziBziCziDziEziFziGziHziIziJziKziLziMziNziOziPziQziRziS",
     "ziTziUziVziWziXziYziZzaSMALL AzgBzgCzgDzgEzgFzgGzgHzgIzgJzgKzgLzgMzgNzgOzgPzgQzgRzgSzgTzgU",
     "zgVzgWzgXzgYzgZnFRAKTUR CAPITAL AzeB=1D507zeDzeEzeFzeG=1D50DzeJzeKzeLzeMzeNzeOzePzeQ",
     "=1D516zeSzeTzeUzeVzeWzeXzeY=1D51EvSMALL AzcBzcCzcDzcEzcFzcGzcHzcIzcJzcKzcLzcMzcNzcOzcPzcQzcR",
     "zcSzcTzcUzcVzcWzcXzcYzcZnDOUBLE-STRUCK CAPITAL AzkB=1D53BzkDzkEzkFzkG=1D540zkIzkJzkKzkLzkM",
     "=1D546zkO=1D54AzkSzkTzkUzkVzkWzkXzkY=1D552zcSMALL AziBziCziDziEziFziGziHziIziJziKziLziMziN",
     "ziOziPziQziRziSziTziUziVziWziXziYziZnBOLD FRAKTUR CAPITAL AzjBzjCzjDzjEzjFzjGzjHzjIzjJzjKzjL",
     "zjMzjNzjOzjPzjQzjRzjSzjTzjUzjVzjWzjXzjYzjZzbSMALL AzhBzhCzhDzhEzhFzhGzhHzhIzhJzhKzhLzhMzhN",
     "zhOzhPzhQzhRzhSzhTzhUzhVzhWzhXzhYzhZnSANS-SERIF CAPITAL AzhBzhCzhDzhEzhFzhGzhHzhIzhJzhKzhL",
     "zhMzhNzhOzhPzhQzhRzhSzhTzhUzhVzhWzhXzhYzhZySMALL AzfBzfCzfDzfEzfFzfGzfHzfIzfJzfKzfLzfMzfNzfO",
     "zfPzfQzfRzfSzfTzfUzfVzfWzfXzfYzfZyBOLD CAPITAL AzmBzmCzmDzmEzmFzmGzmHzmIzmJzmKzmLzmMzmNzmO",
     "zmPzmQzmRzmSzmTzmUzmVzmWzmXzmYzmZzeSMALL AzkBzkCzkDzkEzkFzkGzkHzkIzkJzkKzkLzkMzkNzkOzkPzkQ",
     "zkRzkSzkTzkUzkVzkWzkXzkYzkZyITALIC CAPITAL AzoBzoCzoDzoEzoFzoGzoHzoIzoJzoKzoLzoMzoNzoOzoPzoQ",
     "zoRzoSzoTzoUzoVzoWzoXzoYzoZzgSMALL AzmBzmCzmDzmEzmFzmGzmHzmIzmJzmKzmLzmMzmNzmOzmPzmQzmRzmS",
     "zmTzmUzmVzmWzmXzmYzmZyBOLD ITALIC CAPITAL AztBztCztDztEztFztGztHztIztJztKztLztMztNztOztPztQ",
     "ztRztSztTztUztVztWztXztYztZzlSMALL AzrBzrCzrDzrEzrFzrGzrHzrIzrJzrKzrLzrMzrNzrOzrPzrQzrRzrS",
     "zrTzrUzrVzrWzrXzrYzrZnMONOSPACE CAPITAL AzgBzgCzgDzgEzgFzgGzgHzgIzgJzgKzgLzgMzgNzgOzgPzgQzgR",
     "zgSzgTzgUzgVzgWzgXzgYzgZxSMALL AzeBzeCzeDzeEzeFzeGzeHzeIzeJzeKzeLzeMzeNzeOzePzeQzeRzeSzeTzeU",
     "zeVzeWzeXzeYzeZnITALIC SMALL DOTLESS IzjJ=1D6A8nBOLD CAPITAL ALPHAzbBETAzbGAMMAzbDELTA",
     "zbEPSILONzbZETAzbETAzbTHETAzbIOTAzbKAPPAzbLAMDAzbMUzbNUzbXIzbOMICRONzbPIzbRHOzbTHETA SYMBOL",
     "zbSIGMAzbTAUzbUPSILONzbPHIzbCHIzbPSIzbOMEGAsNABLAsSMALL ALPHAyBETAyGAMMAyDELTAyEPSILONyZETA",
     "yETAyTHETAyIOTAyKAPPAyLAMDAyMUyNUyXIyOMICRONyPIyRHOyFINAL SIGMAySIGMAyTAUyUPSILONyPHIyCHI",
     "yPSIyOMEGAsPARTIAL DIFFERENTIALsEPSILON SYMBOLsTHETA SYMBOLsKAPPA SYMBOLsPHI SYMBOL",
     "sRHO SYMBOLsPI SYMBOLnITALIC CAPITAL ALPHAzdBETAzdGAMMAzdDELTAzdEPSILONzdZETAzdETAzdTHETA",
     "zdIOTAzdKAPPAzdLAMDAzdMUzdNUzdXIzdOMICRONzdPIzdRHOzdTHETA SYMBOLzdSIGMAzdTAUzdUPSILONzdPHI",
     "zdCHIzdPSIzdOMEGAuNABLAuSMALL ALPHAzbBETAzbGAMMAzbDELTAzbEPSILONzbZETAzbETAzbTHETAzbIOTA",
     "zbKAPPAzbLAMDAzbMUzbNUzbXIzbOMICRONzbPIzbRHOzbFINAL SIGMAzbSIGMAzbTAUzbUPSILONzbPHIzbCHI",
     "zbPSIzbOMEGAuPARTIAL DIFFERENTIALuEPSILON SYMBOLuTHETA SYMBOLuKAPPA SYMBOLuPHI SYMBOL",
     "uRHO SYMBOLuPI SYMBOLnBOLD ITALIC CAPITAL ALPHAziBETAziGAMMAziDELTAziEPSILONziZETAziETA",
     "ziTHETAziIOTAziKAPPAziLAMDAziMUziNUziXIziOMICRONziPIziRHOziTHETA SYMBOLziSIGMAziTAUziUPSILON",
     "ziPHIziCHIziPSIziOMEGAzaNABLAzaSMALL ALPHAzgBETAzgGAMMAzgDELTAzgEPSILONzgZETAzgETAzgTHETA",
     "zgIOTAzgKAPPAzgLAMDAzgMUzgNUzgXIzgOMICRONzgPIzgRHOzgFINAL SIGMAzgSIGMAzgTAUzgUPSILONzgPHI",
     "zgCHIzgPSIzgOMEGAzaPARTIAL DIFFERENTIALzaEPSILON SYMBOLzaTHETA SYMBOLzaKAPPA SYMBOL",
     "zaPHI SYMBOLzaRHO SYMBOLzaPI SYMBOLnSANS-SERIF BOLD CAPITAL ALPHAzmBETAzmGAMMAzmDELTA",
     "zmEPSILONzmZETAzmETAzmTHETAzmIOTAzmKAPPAzmLAMDAzmMUzmNUzmXIzmOMICRONzmPIzmRHOzmTHETA SYMBOL",
     "zmSIGMAzmTAUzmUPSILONzmPHIzmCHIzmPSIzmOMEGAzeNABLAzeSMALL ALPHAzkBETAzkGAMMAzkDELTAzkEPSILON",
     "zkZETAzkETAzkTHETAzkIOTAzkKAPPAzkLAMDAzkMUzkNUzkXIzkOMICRONzkPIzkRHOzkFINAL SIGMAzkSIGMA",
     "zkTAUzkUPSILONzkPHIzkCHIzkPSIzkOMEGAzePARTIAL DIFFERENTIALzeEPSILON SYMBOLzeTHETA SYMBOL",
     "zeKAPPA SYMBOLzePHI SYMBOLzeRHO SYMBOLzePI SYMBOLzeITALIC CAPITAL ALPHAztBETAztGAMMAztDELTA",
     "ztEPSILONztZETAztETAztTHETAztIOTAztKAPPAztLAMDAztMUztNUztXIztOMICRONztPIztRHOztTHETA SYMBOL",
     "ztSIGMAztTAUztUPSILONztPHIztCHIztPSIztOMEGAzlNABLAzlSMALL ALPHAzrBETAzrGAMMAzrDELTAzrEPSILON",
     "zrZETAzrETAzrTHETAzrIOTAzrKAPPAzrLAMDAzrMUzrNUzrXIzrOMICRONzrPIzrRHOzrFINAL SIGMAzrSIGMA",
     "zrTAUzrUPSILONzrPHIzrCHIzrPSIzrOMEGAzlPARTIAL DIFFERENTIALzlEPSILON SYMBOLzlTHETA SYMBOL",
     "zlKAPPA SYMBOLzlPHI SYMBOLzlRHO SYMBOLzlPI SYMBOLnBOLD CAPITAL DIGAMMAsSMALL DIGAMMA",
     "=1D7CEsDIGIT ZEROyONEyTWOzaHREEyFOURzaIVEySIXzaEVENyEIGHTyNINEnDOUBLE-STRUCK DIGIT ZEROziONE",
     "ziTWOzjHREEziFOURzjIVEziSIXzjEVENziEIGHTziNINEnSANS-SERIF DIGIT ZEROzfONEzfTWOzgHREEzfFOUR",
     "zgIVEzfSIXzgEVENzfEIGHTzfNINEyBOLD DIGIT ZEROzkONEzkTWOzlHREEzkFOURzlIVEzkSIXzlEVENzkEIGHT",
     "zkNINEnMONOSPACE DIGIT ZEROzeONEzeTWOzfHREEzeFOURzfIVEzeSIXzfEVENzeEIGHTzeNINE"]

end Inlay.Text
