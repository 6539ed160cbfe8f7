/-!
# Other names of characters

Corrected names, names of control characters and abbreviations.
-/

namespace AttrsUpgrade.Text

/-- Runs of names in the short form that `nameIndex?` reads. -/
def aliasRuns : List (Nat × String) :=
  [(0x0000, "aNULaSOHbTART OF TEXTaEND OF TEXTiRANSMISSIONcQaACKbLERTaBACKSPACEaCHARACTER TABULATIONaEND OF LINE" ++
     "aLINE TABULATIONaFFaCARRIAGE RETURNaLOCKING-SHIFT ONEoZEROaDATA LINK ESCAPEbC1c2c3c4aNAKaSYNaEND OF TRANSM" ++
     "ISSION BLOCKaCANaEND OF MEDIUMaSUBaESCaFILE SEPARATORaGROUP SEPARATORaINFORMATION SEPARATOR TWOwONEaSP"),
   (0x007f, "aDELaPADaHIGH OCTET PRESETaBPHaNBHaINDaNELaSSAaEND OF SELECTED AREAaCHARACTER TABULATION SETvWITH J" ++
     "USTIFICATIONaLINE TABULATION SETaPARTIAL LINE DOWNnBACKWARDaREVERSE INDEXaSINGLE SHIFT TWOoHREEaDCSaPRIVAT" ++
     "E USE ONEmTWOaSET TRANSMIT STATEaCANCEL CHARACTERaMESSAGE WAITINGaSPAaEND OF GUARDED AREAaSOSbGCbCIaCONTRO" ++
     "L SEQUENCE INTRODUCERaSTaOPERATING SYSTEM COMMANDaPMaAPCaNBSP"),
   (0x00ad, "aSHY"),
   (0x01a2, "aLATIN CAPITAL LETTER GHAgSMALL LETTER GHA"),
   (0x034f, "aCGJ"),
   (0x061c, "aALM"),
   (0x0709, "aSYRIAC SUBLINEAR COLON SKEWED LEFT"),
   (0x0cde, "aKANNADA LETTER LLLA"),
   (0x0e9d, "aLAO LETTER FO FON"),
   (0x0e9f, "aLAO LETTER FO FAY"),
   (0x0ea3, "aLAO LETTER RO"),
   (0x0ea5, "aLAO LETTER LO"),
   (0x0fd0, "aTIBETAN MARK BKA- SHOG GI MGO RGYAN"),
   (0x11ec, "aHANGUL JONGSEONG YESIEUNG-KIYEOKz-SSANGKIYEOKrSSANGYESIEUNGrYESIEUNG-KHIEUKH"),
   (0x180b, "aFVS1d2d3aMVSaFVS4"),
   (0x200b, "aZWSPcNJcJaLRMaRLM"),
   (0x202a, "aLREaRLEaPDFaLROaRLOaNNBSP"),
   (0x205f, "aMMSPaWJ"),
   (0x2066, "aLRIaRLIaFSIaPDI"),
   (0x2118, "aWEIERSTRASS ELLIPTIC FUNCTION"),
   (0x2448, "aMICR ON US SYMBOLfDASH SYMBOL"),
   (0x2b7a, "aLEFTWARDS TRIANGLE-HEADED ARROW WITH DOUBLE VERTICAL STROKE"),
   (0x2b7c, "aRIGHTWARDS TRIANGLE-HEADED ARROW WITH DOUBLE VERTICAL STROKE"),
   (0xa015, "aYI SYLLABLE ITERATION MARK"),
   (0xaa6e, "aMYANMAR LETTER KHAMTI LLA"),
   (0xfe00, "aVS1c2c3c4c5c6c7c8c9c10d1d2d3d4d5d6"),
   (0xfe18, "aPRESENTATION FORM FOR VERTICAL RIGHT WHITE LENTICULAR BRACKET"),
   (0xfeff, "aBOM"),
   (0x122d4, "aCUNEIFORM SIGN NU11 TENUuOVER NU11 BUR OVER BUR"),
   (0x16e56, "aMEDEFAIDRIN CAPITAL LETTER HzR NG"),
   (0x16e76, "aMEDEFAIDRIN SMALL LETTER HzNG"),
   (0x1b001, "aHENTAIGANA LETTER E-1"),
   (0x1d0c5, "aBYZANTINE MUSICAL SYMBOL FTHORA SKLIRON CHROMA VASIS"),
   (0xe0100, "aVS17d8d9c20d1d2d3d4d5d6d7d8d9c30d1d2d3d4d5d6d7d8d9c40d1d2d3d4d5d6d7d8d9c50d1d2d3d4d5d6d7d8d9c60d1" ++
     "d2d3d4d5d6d7d8d9c70d1d2d3d4d5d6d7d8d9c80d1d2d3d4d5d6d7d8d9c90d1d2d3d4d5d6d7d8d9c100e1e2e3e4e5e6e7e8e9d10e1" ++
     "e2e3e4e5e6e7e8e9d20e1e2e3e4e5e6e7e8e9d30e1e2e3e4e5e6e7e8e9d40e1e2e3e4e5e6e7e8e9d50e1e2e3e4e5e6e7e8e9d60e1e" ++
     "2e3e4e5e6e7e8e9d70e1e2e3e4e5e6e7e8e9d80e1e2e3e4e5e6e7e8e9d90e1e2e3e4e5e6e7e8e9c200e1e2e3e4e5e6e7e8e9d10e1e" ++
     "2e3e4e5e6e7e8e9d20e1e2e3e4e5e6e7e8e9d30e1e2e3e4e5e6e7e8e9d40e1e2e3e4e5e6e7e8e9d50e1e2e3e4e5e6"),
   (0x0000, "aNULLaSTART OF HEADINGcXaETXbOTbNQUIRYaACKNOWLEDGEaBELbSaHORIZONTAL TABULATIONaEOLaVERTICAL TABULAT" ++
     "IONaFORM FEEDaCRaSHIFT OUTgINaDLEbEVICE CONTROL ONEpTWOqHREEpFOURaNEGATIVE ACKNOWLEDGEaSYNCHRONOUS IDLEaET" ++
     "BaCANCELaEOMaSUBSTITUTEaESCAPEaFSaGSaRECORD SEPARATORaUNIT SEPARATOR"),
   (0x007f, "aDELETEaPADDING CHARACTERaHOPaBREAK PERMITTED HEREaNO BREAK HEREaINDEXaNEXT LINEaSTART OF SELECTED " ++
     "AREAaESAaHORIZONTAL TABULATION SETwWITH JUSTIFICATIONaVERTICAL TABULATION SETaPARTIAL LINE FORWARDnUPaREVE" ++
     "RSE LINE FEEDaSINGLE-SHIFT-2n3aDEVICE CONTROL STRINGaPRIVATE USE-1m2aSTSaCCHaMWaSTART OF GUARDED AREAaEND " ++
     "OF PROTECTED AREAaSTART OF STRINGbINGLE GRAPHIC CHARACTER INTRODUCERhCHARACTER INTRODUCERaCSIaSTRING TERMI" ++
     "NATORaOSCaPRIVACY MESSAGEaAPPLICATION PROGRAM COMMAND"),
   (0xfeff, "aBYTE ORDER MARK"),
   (0x0009, "aHTaLFaVT"),
   (0x000e, "aSObI"),
   (0x001c, "aINFORMATION SEPARATOR FOURwTHREEaRSaUS"),
   (0x0088, "aHTScJaVTSaPLDcUaRIaSS2c3"),
   (0x0091, "aPU1c2"),
   (0x0096, "aSTART OF PROTECTED AREAaEPA"),
   (0xfeff, "aZWNBSP"),
   (0x0009, "aTABaLINE FEED"),
   (0x000a, "aNEW LINE"),
   (0x000a, "aNL")]

end AttrsUpgrade.Text
