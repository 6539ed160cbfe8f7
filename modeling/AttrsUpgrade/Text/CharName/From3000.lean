/-!
# Names of characters from U+3000 to U+FFFF
-/

namespace AttrsUpgrade.Text

/-- Runs of names in the short form that `nameIndex?` reads. -/
def nameRuns3000 : List (Nat × String) :=
  [(0x3000, "aIDEOGRAPHIC SPACEmCOMMAmFULL STOPaDITTO MARKaJAPANESE INDUSTRIAL STANDARD SYMBOLaIDEOGRAPHIC ITERA" ++
     "TION MARKmCLOSING MARKmNUMBER ZEROaLEFT ANGLE BRACKETaRIGHT ANGLE BRACKETaLEFT DOUBLE ANGLE BRACKETaRIGHT " ++
     "DOUBLE ANGLE BRACKETaLEFT CORNER BRACKETaRIGHT CORNER BRACKETaLEFT WHITE CORNER BRACKETaRIGHT WHITE CORNER" ++
     " BRACKETaLEFT BLACK LENTICULAR BRACKETaRIGHT BLACK LENTICULAR BRACKETaPOSTAL MARKaGETA MARKaLEFT TORTOISE " ++
     "SHELL BRACKETaRIGHT TORTOISE SHELL BRACKETaLEFT WHITE LENTICULAR BRACKETaRIGHT WHITE LENTICULAR BRACKETaLE" ++
     "FT WHITE TORTOISE SHELL BRACKETaRIGHT WHITE TORTOISE SHELL BRACKETaLEFT WHITE SQUARE BRACKETaRIGHT WHITE S" ++
     "QUARE BRACKETaWAVE DASHaREVERSED DOUBLE PRIME QUOTATION MARKaDOUBLE PRIME QUOTATION MARKaLOW DOUBLE PRIME " ++
     "QUOTATION MARKaPOSTAL MARK FACEaHANGZHOU NUMERAL ONErTWOsHREErFOURsIVErSIXsEVENrEIGHTrNINEaIDEOGRAPHIC LEV" ++
     "EL TONE MARKmRISING TONE MARKmDEPARTING TONE MARKmENTERING TONE MARKaHANGUL SINGLE DOT TONE MARKhDOUBLE DO" ++
     "T TONE MARKaWAVY DASHaVERTICAL KANA REPEAT MARKvWITH VOICED SOUND MARKvMARK UPPER HALFvWITH VOICED SOUND M" ++
     "ARK UPPER HALFvMARK LOWER HALFaCIRCLED POSTAL MARKaIDEOGRAPHIC TELEGRAPH LINE FEED SEPARATOR SYMBOLaHANGZH" ++
     "OU NUMERAL TENsWENTYsHIRTYaVERTICAL IDEOGRAPHIC ITERATION MARKaMASU MARKaPART ALTERNATION MARKaIDEOGRAPHIC" ++
     " VARIATION INDICATORmHALF FILL SPACE"),
   (0x3041, "aHIRAGANA LETTER SMALL AqAqSMALL IqIqSMALL UqUqSMALL EqEqSMALL OqOqKAqGAqKIqGIqKUqGUqKEqGEqKOqGOqSA" ++
     "qZAqSIqZIqSUqZUqSEqZEqSOqZOqTAqDAqTIqDIqSMALL TUqTUqDUqTEqDEqTOqDOqNArIrUrErOqHAqBAqPAqHIqBIqPIqHUqBUqPUqH" ++
     "EqBEqPEqHOqBOqPOqMArIrUrErOqSMALL YAqYAqSMALL YUqYUqSMALL YOqYOqRArIrUrErOqSMALL WAqWArIrErOqNqVUqSMALL KA" ++
     "xE"),
   (0x3099, "aCOMBINING KATAKANA-HIRAGANA VOICED SOUND MARKzNA SEMI-VOICED SOUND MARKaKATAKANA-HIRAGANA VOICED S" ++
     "OUND MARKsSEMI-VOICED SOUND MARKaHIRAGANA ITERATION MARKjVOICED ITERATION MARKjDIGRAPH YORIaKATAKANA-HIRAG" ++
     "ANA DOUBLE HYPHENi LETTER SMALL AqAqSMALL IqIqSMALL UqUqSMALL EqEqSMALL OqOqKAqGAqKIqGIqKUqGUqKEqGEqKOqGOq" ++
     "SAqZAqSIqZIqSUqZUqSEqZEqSOqZOqTAqDAqTIqDIqSMALL TUqTUqDUqTEqDEqTOqDOqNArIrUrErOqHAqBAqPAqHIqBIqPIqHUqBUqPU" ++
     "qHEqBEqPEqHOqBOqPOqMArIrUrErOqSMALL YAqYAqSMALL YUqYUqSMALL YOqYOqRArIrUrErOqSMALL WAqWArIrErOqNqVUqSMALL " ++
     "KAxEqVArIrErOjMIDDLE DOTi-HIRAGANA PROLONGED SOUND MARKi ITERATION MARKjVOICED ITERATION MARKjDIGRAPH KOTO"),
   (0x3105, "aBOPOMOFO LETTER BqPqMqFqDqTqNqLqGqKqHqJqQqXqZHqCHqSHqRqZqCqSqAqOqErHqAIqEIqAUqOUqANqENqANGqENGrRqI" ++
     "qUqIUqVqNGqGNqIHqO WITH DOT ABOVEqNN"),
   (0x3131, "aHANGUL LETTER KIYEOKoSSANGKIYEOKoKIYEOK-SIOSoNIEUNt-CIEUCuHIEUHoTIKEUToSSANGTIKEUToRIEULt-KIYEOKuM" ++
     "IEUMuPIEUPuSIOSuTHIEUTHuPHIEUPHuHIEUHoMIEUMoPIEUPoSSANGPIEUPoPIEUP-SIOSoSIOSpSANGSIOSoIEUNGoCIEUCoSSANGCIE" ++
     "UCoCHIEUCHoKHIEUKHoTHIEUTHoPHIEUPHoHIEUHoApEoYAqEoEOpoYEOqoOoWAqEoOEoYOoUoWEOqpIoYUoEUoYIoIhFILLERhLETTER " ++
     "SSANGNIEUNoNIEUN-TIKEUTuSIOSuPANSIOSoRIEUL-KIYEOK-SIOSuTIKEUTuPIEUP-SIOSvANSIOSuYEORINHIEUHoMIEUM-PIEUPuSI" ++
     "OSuPANSIOSoKAPYEOUNMIEUMoPIEUP-KIYEOKuTIKEUTuSIOS-KIYEOKzTIKEUTuCIEUCuTHIEUTHoKAPYEOUNPIEUPwSSANGPIEUPoSIO" ++
     "S-KIYEOKtNIEUNtTIKEUTtPIEUPtCIEUCoPANSIOSoSSANGIEUNGoYESIEUNGw-SIOSxPANSIOSoKAPYEOUNPHIEUPHoSSANGHIEUHoYEO" ++
     "RINHIEUHpO-YAtErIpU-YEOtrIoARAEAtE"),
   (0x3190, "aIDEOGRAPHIC ANNOTATION LINKING MARKxREVERSE MARKxONE MARKxTWO MARKyHREE MARKxFOUR MARKxTOP MARKxMI" ++
     "DDLE MARKxBOTTOM MARKxFIRST MARKxSECOND MARKxTHIRD MARKxFOURTH MARKxHEAVEN MARKxEARTH MARKxMAN MARKaBOPOMO" ++
     "FO LETTER BUqZIqJIqGUqEErNNqOOrNNqIRqANNqINNqUNNqIMqNGGqAINNrUNNrMqOMrNGqINNNjFINAL LETTER PwTwKwHjLETTER " ++
     "GHqLHqZYjFINAL LETTER GjLETTER GWqKWqOEqAHaCJK STROKE TlWGlXGlBXGlSWlHZZnGmPmZWGlSZWGlHZTnZPmPWGmZWnZZlNlH" ++
     "lSlPlSPlDlHZmGlSZmWZmTmGlPDmZlTNlSZZmWGlHXWGmZZZGlPGlQ"),
   (0x31f0, "aKATAKANA LETTER SMALL KUwSIxUwTOwNUwHAxIxUxExOwMUwRAxIxUxExOaPARENTHESIZED HANGUL KIYEOKvNIEUNvTIK" ++
     "EUTvRIEULvMIEUMvPIEUPvSIOSvIEUNGvCIEUCwHIEUCHvKHIEUKHvTHIEUTHvPHIEUPHvHIEUHvKIYEOK AvNIEUN AvTIKEUT AvRIEU" ++
     "L AvMIEUM AvPIEUP AvSIOS AvIEUNG AvCIEUC AwHIEUCH AvKHIEUKH AvTHIEUTH AvPHIEUPH AvHIEUH AvCIEUC UoKOREAN C" ++
     "HARACTER OJEONzACTER O HU"),
   (0x3220, "aPARENTHESIZED IDEOGRAPH ONEyTWOzHREEyFOURzIVEySIXzEVENyEIGHTyNINEyTENyMOONyFIREyWATERzOODyMETALyEA" ++
     "RTHySUNzTOCKyHAVEySOCIETYyNAMEySPECIALyFINANCIALyCONGRATULATIONyLABORyREPRESENTyCALLySTUDYzUPERVISEyENTERP" ++
     "RISEyRESOURCEyALLIANCEyFESTIVALyRESTySELFyREACHaCIRCLED IDEOGRAPH QUESTIONsKINDERGARTENsSCHOOLsKOTOiNUMBER" ++
     " TEN ON BLACK SQUAREqWENTY ON BLACK SQUAREqHIRTY ON BLACK SQUAREpFORTY ON BLACK SQUAREqIFTY ON BLACK SQUAR" ++
     "EpSIXTY ON BLACK SQUAREqEVENTY ON BLACK SQUAREpEIGHTY ON BLACK SQUAREaPARTNERSHIP SIGNaCIRCLED NUMBER TWEN" ++
     "TY ONEwTWOxHREEwFOURxIVEwSIXxEVENwEIGHTwNINEqHIRTYv ONEwTWOxHREEwFOURxIVEiHANGUL KIYEOKpNIEUNpTIKEUTpRIEUL" ++
     "pMIEUMpPIEUPpSIOSpIEUNGpCIEUCqHIEUCHpKHIEUKHpTHIEUTHpPHIEUPHpHIEUHpKIYEOK ApNIEUN ApTIKEUT ApRIEUL ApMIEUM" ++
     " ApPIEUP ApSIOS ApIEUNG ApCIEUC AqHIEUCH ApKHIEUKH ApTHIEUTH ApPHIEUPH ApHIEUH AiKOREAN CHARACTER CHAMKOzJ" ++
     "UEUIiHANGUL IEUNG UaKOREAN STANDARD SYMBOLaCIRCLED IDEOGRAPH ONEsTWOtHREEsFOURtIVEsSIXtEVENsEIGHTsNINEsTEN" ++
     "sMOONsFIREsWATERtOODsMETALsEARTHsSUNtTOCKsHAVEsSOCIETYsNAMEsSPECIALsFINANCIALsCONGRATULATIONsLABORsSECRETs" ++
     "MALEsFEMALEsSUITABLEsEXCELLENTsPRINTsATTENTIONsITEMsRESTsCOPYuRRECTsHIGHsCENTREsLOWtEFTsRIGHTsMEDICINEsREL" ++
     "IGIONsSTUDYtUPERVISEsENTERPRISEsRESOURCEsALLIANCEsNIGHTiNUMBER THIRTY SIXxEVENwEIGHTwNINEpFORTYu ONEvTWOwH" ++
     "REEvFOURwIVEvSIXwEVENvEIGHTvNINEqIFTYaIDEOGRAPHIC TELEGRAPH SYMBOL FOR JANUARYzBOL FOR FEBRUARYzBOL FOR MA" ++
     "RCHzBOL FOR APRILzBOL FOR MAYzBOL FOR JUNEzBOL FOR JULYzBOL FOR AUGUSTzBOL FOR SEPTEMBERzBOL FOR OCTOBERzB" ++
     "OL FOR NOVEMBERzBOL FOR DECEMBERaSQUARE HGhERGiVaLIMITED LIABILITY SIGNaCIRCLED KATAKANA ArIrUrErOrKAsIsUs" ++
     "EsOrSAsIsUsEsOrTAsIsUsEsOrNAsIsUsEsOrHAsIsUsEsOrMAsIsUsEsOrYAsUsOrRAsIsUsEsOrWAsIsEsOaSQUARE ERA NAME REIW" ++
     "AhAPAATOiRUHUAiNPEAiARUhININGUjTIhUONhESUKUUDOiEKAAhONSUiOMUhKAIRIjRATTOkORIIhGARONjNMAiIGAjNIIhKYURIIhGIR" ++
     "UDAAhKIRO"),
   (0x3315, "aSQUARE KIROGURAMUlMEETORUlWATTOhGURAMUnTONhKURUZEIROkOONEiEESUiORUNAjOPOhSAIKURUjNTIIMUiIRINGUiENT" ++
     "IlOhDAASUiESIiORUhTONhNANOiOTTOhHAITUhPAASENTOkTUhBAARERUhPIASUTORUjKURUkOhBIRUhHUARADDOjIITOhBUSSYERUhHUR" ++
     "ANiEKUTAARUhPESOjNIHIhHERUTUhPENSUjEZIhBEETAhPOINTOhBORUTOhHONhPONDOhHOORUkNhMAIKUROkRUjHHAjRUKUjNSYONiIKU" ++
     "RONjRIlBAARUiEGAlTONjETORUhYAADOkRUiUANhRITTORUjRAiUPIIjUBURUiEMUjNTOGENhWATTOaIDEOGRAPHIC TELEGRAPH SYMBO" ++
     "L FOR HOUR ZEROzBOL FOR HOUR ONEzBOL FOR HOUR TWOzBOL FOR HOUR THREEzBOL FOR HOUR FOURzBOL FOR HOUR FIVEzB" ++
     "OL FOR HOUR SIXzBOL FOR HOUR SEVENzBOL FOR HOUR EIGHTzBOL FOR HOUR NINEzBOL FOR HOUR TENzBOL FOR HOUR ELEV" ++
     "ENzBOL FOR HOUR TWELVEzBOL FOR HOUR THIRTEENzBOL FOR HOUR FOURTEENzBOL FOR HOUR FIFTEENzBOL FOR HOUR SIXTE" ++
     "ENzBOL FOR HOUR SEVENTEENzBOL FOR HOUR EIGHTEENzBOL FOR HOUR NINETEENzBOL FOR HOUR TWENTYzBOL FOR HOUR TWE" ++
     "NTY-ONEzBOL FOR HOUR TWENTY-TWOzBOL FOR HOUR TWENTY-THREEzBOL FOR HOUR TWENTY-FOURaSQUARE HPAhDAhAUhBARhOV" ++
     "hPChDMj SQUAREDkCUBEDhIUhERA NAME HEISEIqSYOUWAqTAISYOUqMEIZIhCORPORATIONhPA AMPShNAhMU AiAhKAiBhMBhGBhCAL" ++
     "hKCALhPFhNFhMU FkGiGhKGhHZhKHZhMHZhGHZhTHZhMU LiLhDLhKLhFMhNMhMU MiMhCMhKMhMM SQUAREDhCM SQUAREDhM SQUARED" ++
     "hKM SQUAREDhMM CUBEDhCM CUBEDhM CUBEDhKM CUBEDhM OVER Sp SQUAREDhPAhKPAhMPAhGPAhRADk OVER Sr SQUAREDhPShNS" ++
     "hMU SiShPVhNVhMU ViVhKVhMV MEGAhPWhNWhMU WiWhKWhMW MEGAhK OHMhM OHMhAMhBQhCCiDi OVER KGiOhDBhGYhHAiPhINhKK" ++
     "iM CAPITALiThLMiNiOGiXhMB SMALLiILiOLhPHiMiPMiRhSRiVhWBhV OVER MhA OVER MaIDEOGRAPHIC TELEGRAPH SYMBOL FOR" ++
     " DAY ONEzBOL FOR DAY TWOzBOL FOR DAY THREEzBOL FOR DAY FOURzBOL FOR DAY FIVEzBOL FOR DAY SIXzBOL FOR DAY S" ++
     "EVENzBOL FOR DAY EIGHTzBOL FOR DAY NINEzBOL FOR DAY TENzBOL FOR DAY ELEVENzBOL FOR DAY TWELVEzBOL FOR DAY " ++
     "THIRTEENzBOL FOR DAY FOURTEENzBOL FOR DAY FIFTEENzBOL FOR DAY SIXTEENzBOL FOR DAY SEVENTEENzBOL FOR DAY EI" ++
     "GHTEEN"),
   (0x33f2, "aIDEOGRAPHIC TELEGRAPH SYMBOL FOR DAY NINETEENzBOL FOR DAY TWENTYzBOL FOR DAY TWENTY-ONEzBOL FOR DA" ++
     "Y TWENTY-TWOzBOL FOR DAY TWENTY-THREEzBOL FOR DAY TWENTY-FOURzBOL FOR DAY TWENTY-FIVEzBOL FOR DAY TWENTY-S" ++
     "IXzBOL FOR DAY TWENTY-SEVENzBOL FOR DAY TWENTY-EIGHTzBOL FOR DAY TWENTY-NINEzBOL FOR DAY THIRTYzBOL FOR DA" ++
     "Y THIRTY-ONEaSQUARE GAL"),
   (0x4dc0, "aHEXAGRAM FOR THE CREATIVE HEAVENrRECEPTIVE EARTHnDIFFICULTY AT THE BEGINNINGnYOUTHFUL FOLLYnWAITIN" ++
     "GnCONFLICTnTHE ARMYnHOLDING TOGETHERnSMALL TAMINGnTREADINGnPEACEnSTANDSTILLnFELLOWSHIPnGREAT POSSESSIONnMO" ++
     "DESTYnENTHUSIASMnFOLLOWINGnWORK ON THE DECAYEDnAPPROACHnCONTEMPLATIONnBITING THROUGHnGRACEnSPLITTING APART" ++
     "nRETURNnINNOCENCEnGREAT TAMINGnMOUTH CORNERSnGREAT PREPONDERANCEnTHE ABYSMAL WATERrCLINGING FIREnINFLUENCE" ++
     "nDURATIONnRETREATnGREAT POWERnPROGRESSnDARKENING OF THE LIGHTnTHE FAMILYnOPPOSITIONoBSTRUCTIONnDELIVERANCE" ++
     "pCREASEnINCREASEnBREAKTHROUGHnCOMING TO MEETnGATHERING TOGETHERnPUSHING UPWARDnOPPRESSIONnTHE WELLnREVOLUT" ++
     "IONnTHE CAULDRONrAROUSING THUNDERrKEEPING STILL MOUNTAINnDEVELOPMENTnTHE MARRYING MAIDENnABUNDANCEnTHE WAN" ++
     "DERERrGENTLE WINDrJOYOUS LAKEnDISPERSIONnLIMITATIONnINNER TRUTHnSMALL PREPONDERANCEnAFTER COMPLETIONnBEFOR" ++
     "E COMPLETION"),
   (0xa000, "aYI SYLLABLE ITnXnnPnEToXooPmATnXnnPmUOXooPmOTnXnnPmEXnmWUmBIToXooPoETpXppPnAToXooPnUOXppPnOToXooPn" ++
     "EXooPnUToXooPoRXpnYToXooPoRXpmPIToXooPoEXppPnAToXooPnUOXppPnOToXooPnUToXooPoRXpnYToXooPoRXpmBBITpXppPpETqX" ++
     "qqPoATpXppPoUOXqqPoOTpXppPoEXppPoUTpXppPpRXqoYTpXppPmNBITpXppPpEXqqPoATpXppPoOTpXppPoUTpXppPpRXqoYTpXppPpR" ++
     "XqmHMITpXppPpEXqqPoATpXppPoUOXqqPoOTpXppPoUTpXppPpRXqoYXppPpRXqmMIToXooPoEXppPnAToXooPnUOTpXppPnOToXooPnEX" ++
     "onUToXooPoRXpnYToXooPmFIToXooPnAToXooPnOXooPnUToXooPoRXpnYToXooPmVIToXooPoETpXppPnAToXooPnOToXooPnEXoPnUTo" ++
     "XooPoRXpnYToXooPoRXpmDIToXooPoEXppPnAToXooPnUOXpnOToXooPnEXooPnUToXooPoRXpmTIToXooPoEXppPnAToXooPnUOTpXppP" ++
     "nOToXooPnEXooPnUToXooPoRXpmDDITpXppPpEXqqPoATpXppPoUOXqqPoOTpXppPoEXppPoUTpXppPpRXqmNDITpXppPpEXqoATpXppPo" ++
     "OTpXppPoEXppPoUTpXppPpRXqmHNITpXppPpETqXqqPoATpXppPoUOXqoOTpXpPoEXppPoUTmNIToXooPoEXppPnAXooPnUOXppPnOToXo" ++
     "oPnEXooPnUToXooPoRXpmHLITpXppPpEXqqPoATpXppPoUOXqqPoOXppPoEXppPoUTpXppPpRXqoYTpXppPpRXqmLIToXooPoETpXppPnA" ++
     "ToXooPnUOTpXppPnOToXooPnEXooPnUToXooPoRXpnYToXooPoRXpmGIToXooPoETpXppPnAToXooPnUOTpXppPnOToXooPnEToXooPnUT" ++
     "oXooPoRXpmKIToXooPoEXppPnAToXooPnUOXppPnOToXooPnEToXooPnUToXooPoRXpmGGITpXppEXqqPoATpXppPoUOTqXqqPoOTpXppP" ++
     "oETpXppPoUTpXppPpRXqmMGIEXqoATpXppPoUOXqqPoOTpXppPoEXppPoUTpXppPpRXqmHXITpXppPpETqXqqPoATpXppPoUOTqXqqPoOT" ++
     "pXppPoEXppPmNGIEXqqPoATpXppPoUOTqXqoOTpXppPoEXppPmHIToEXpnAToXooPnUOTpXppPnOToXooPnEXooPmWAToXooPnUOXppPnO" ++
     "XooPnEXooPmZIToXooPoEXppPnAToXooPnUOXppPnOToXooPnEXooPnUToXooPoRXpnYToXooPoRXpmCIToXooPoETpXppPnAToXooPnUO" ++
     "XppPnOToXooPnEXooPnUToXooPoRXpnYToXooPoRXpmZZITpXppPpETqXqqPoATpXppPoOXppPoEXppPoUXppPpRXqoYTpXppPpRXqmNZI" ++
     "TpXppPpEXqqPoATpXppPoUOXqoOXpPoEXpoUXppPpRXqoYTpXppPpRXqmSIToXooPoEXppPnAToXooPnUOXppPnOToXooPnEXooPnUToXo" ++
     "oPoRXpnYToXooPoRXpnSITpXppPpEXqqPoATpXppPoOTpXppPoEXppPoUTpXppPoYTpXppPpRXqmZHATpXppPoUOXqqPoOTpXppPoETpXp" ++
     "pPoUT"),
   (0xa356, "aYI SYLLABLE ZHUXppPpRXqoYTpXppPpRXqmCHATpXppPoUOTqXqqPoOTpXppPoETpXppPoUXppPpRXqoYTpXppPpRXqmRRAXp" ++
     "oUOXqoOTpXppPoETpXppPoUTpXppPpRXqoYTpXppPpRXqmNRATpXppPoOXppPoETpXppPoUTpXppPpRXqoYTpXppPpRXqmSHATpXppPoUO" ++
     "XqqPoOTpXppPoETpXppPoUTpXppPpRXqoYTpXppPpRXqmRAToXooPnUOXppPnOToXooPnEXooPnUToXooPoRXpnYToXooPoRXpmJIToXoo" ++
     "PoETpXppPnUOTpXppPnOToXooPnUToXooPoRXpnYToXooPoRXpmQIToXooPoETpXppPnUOTpXppPnOToXooPnUToXooPoRXpnYToXooPoR" ++
     "XpmJJITpXppPpETqXqqPoUOXqqPoOTpXppPoUTpXppPpRXqoYTpXppPmNJITpXppPpETqXqqPoUOXqoOTpXppPoUXppPpRXqoYTpXppPpR" ++
     "XqnYITpXppPpETqXqqPoUOXqqPoOTpXppPoUTpXppPmXIToXooPoETpXppPnUOXpnOToXooPnYToXooPoRXpmYIToXooPoETpXppPnUOTp" ++
     "XppPnOToXooPnUToXooPoRXpnYToXooPoRXp"),
   (0xa490, "aYI RADICAL QOTlLIlKITlNYIPlCYPlSSIlGGOPmEPlMIlHXITlLYRlBBUTlMOPlYOlPUTlHXUOlTATlGAlZUPlCYTlDDURlBU" ++
     "RlGGUOlNYOPlTUlOPlJJUTlZOTlPYTlHMOlYITlVURlSHYlVEPlZAlJOlNZUPlJJYlGOTlJJIElWOlDUlSHURlLIElCYmUOPmIPlHXOPlS" ++
     "HATlZURlSHOPlCHElZZIETlNBIElKE"),
   (0xa4d0, "aLISU LETTER BAmPAnHAmDAmTAnHAmGAmKAnHAmJAmCAnHAmDZAmTSAoHAmMAmNAmLAmSAmZHAnAmNGAmHAmXAmHHAmFAmWAmS" ++
     "HAmYAmGHAmAnEmEnUmImOmUnEnHmOEmTONE MYA TIrNA POrMYA CYAvBOvNAvJEUfPUNCTUATION COMMArFULL STOPaVAI SYLLABL" ++
     "E EEpNnHEEnWEEqNnPEEnBHEEoEEnMBEEnKPEEnMGBEEnGBEEnFEEnVEEnTEEoHEEnDHEEpHEEnLEEnREEnDEEnNDEEnSEEoHEEnZEEoHE" ++
     "EnCEEnJEEnNJEEnYEEnKEEnNGGEEnGEEnMEEnNEEoYEEnIoNnHIpNnWIpNnPInBHIoInMBInKPInMGBInGBInFInVInTIoHInDHIpHInLI" ++
     "nRInDInNDInSIoHInZIoHInCInJInNJInYInKInNGGInGInMInNIoYInAoNnNGANnHApNnWApNnPAnBHAoAnMBAnKPAqNnMGBAnGBAnFAn" ++
     "VAnTAoHAnDHApHAnLAnRAnDAnNDAnSAoHAnZAoHAnCAnJAnNJAnYAnKApNnNGGAnGAnMAnNAoYAnOOpNnHOOnWOOqNnPOOnBHOOoOOnMBO" ++
     "OnKPOOnMGBOOnGBOOnFOOnVOOnTOOoHOOnDHOOpHOOnLOOnROOnDOOnNDOOnSOOoHOOnZOOoHOOnCOOnJOOnNJOOnYOOnKOOnNGGOOnGOO" ++
     "nMOOnNOOoYOOnUoNnHUpNnWUpNnPUnBHUoUnMBUnKPUnMGBUnGBUnFUnVUnTUoHUnDHUpHUnLUnRUnDUnNDUnSUoHUnZUoHUnCUnJUnNJU" ++
     "nYUnKUnNGGUnGUnMUnNUoYUnOoNnNGONnHOpNnWOpNnPOnBHOoOnMBOnKPOnMGBOnGBOqNnFOnVOnTOoHOnDHOpHOnLOnROnDOnNDOnSOo" ++
     "HOnZOoHOnCOnJOnNJOnYOnKOnNGGOnGOnMOnNOoYOnEoNnNGENnHEpNnWEpNnPEnBHEoEnMBEnKPEqNnMGBEnGBEqNnFEnVEnTEoHEnDHE" ++
     "pHEnLEnREnDEnNDEnSEoHEnZEoHEnCEnJEnNJEnYEnKEnNGGErNnGEpNnMEnNEoYEoGnLENGTHENEReCOMMAeFULL STOPeQUESTION MA" ++
     "RKeSYLLABLE NDOLE FAtKAtSOOgMBOL FEENGlKEENGlTINGlNIIlBANGlFAAlTAAlDANGmOONGlKUNGlTONGlDO-OlJONGeDIGIT ZER" ++
     "OkONEkTWOlHREEkFOURlIVEkSIXlEVENkEIGHTkNINEeSYLLABLE NDOLE MAtDO"),
   (0xa640, "aCYRILLIC CAPITAL LETTER ZEMLYAjSMALL LETTER ZEMLYAjCAPITAL LETTER DZELOjSMALL LETTER DZELOjCAPITAL" ++
     " LETTER REVERSED DZEjSMALL LETTER REVERSED DZEjCAPITAL LETTER IOTAjSMALL LETTER IOTAjCAPITAL LETTER DJERVj" ++
     "SMALL LETTER DJERVjCAPITAL LETTER MONOGRAPH UKjSMALL LETTER MONOGRAPH UKjCAPITAL LETTER BROAD OMEGAjSMALL " ++
     "LETTER BROAD OMEGAjCAPITAL LETTER NEUTRAL YERjSMALL LETTER NEUTRAL YERjCAPITAL LETTER YERU WITH BACK YERjS" ++
     "MALL LETTER YERU WITH BACK YERjCAPITAL LETTER IOTIFIED YATjSMALL LETTER IOTIFIED YATjCAPITAL LETTER REVERS" ++
     "ED YUjSMALL LETTER REVERSED YUjCAPITAL LETTER IOTIFIED AjSMALL LETTER IOTIFIED AjCAPITAL LETTER CLOSED LIT" ++
     "TLE YUSjSMALL LETTER CLOSED LITTLE YUSjCAPITAL LETTER BLENDED YUSjSMALL LETTER BLENDED YUSjCAPITAL LETTER " ++
     "IOTIFIED CLOSED LITTLE YUSjSMALL LETTER IOTIFIED CLOSED LITTLE YUSjCAPITAL LETTER YNjSMALL LETTER YNjCAPIT" ++
     "AL LETTER REVERSED TSEjSMALL LETTER REVERSED TSEjCAPITAL LETTER SOFT DEjSMALL LETTER SOFT DEjCAPITAL LETTE" ++
     "R SOFT ELjSMALL LETTER SOFT ELjCAPITAL LETTER SOFT EMjSMALL LETTER SOFT EMjCAPITAL LETTER MONOCULAR OjSMAL" ++
     "L LETTER MONOCULAR OjCAPITAL LETTER BINOCULAR OjSMALL LETTER BINOCULAR OjCAPITAL LETTER DOUBLE MONOCULAR O" ++
     "jSMALL LETTER DOUBLE MONOCULAR OjLETTER MULTIOCULAR ObOMBINING CYRILLIC VZMETtTEN MILLIONS SIGNtHUNDRED MI" ++
     "LLIONS SIGNtTHOUSAND MILLIONS SIGNaSLAVONIC ASTERISKaCOMBINING CYRILLIC LETTER UKRAINIAN IEz Iz YIz Uz HAR" ++
     "D SIGNz YERUz SOFT SIGNz OMEGAtKAVYKAtPAYEROKbYRILLIC KAVYKAjPAYEROKjCAPITAL LETTER DWEjSMALL LETTER DWEjC" ++
     "APITAL LETTER DZWEjSMALL LETTER DZWEjCAPITAL LETTER ZHWEjSMALL LETTER ZHWEjCAPITAL LETTER CCHEjSMALL LETTE" ++
     "R CCHEjCAPITAL LETTER DZZEjSMALL LETTER DZZEjCAPITAL LETTER TE WITH MIDDLE HOOKjSMALL LETTER TE WITH MIDDL" ++
     "E HOOKjCAPITAL LETTER TWEjSMALL LETTER TWEjCAPITAL LETTER TSWEjSMALL LETTER TSWEjCAPITAL LETTER TSSEjSMALL" ++
     " LETTER TSSE"),
   (0xa692, "aCYRILLIC CAPITAL LETTER TCHEjSMALL LETTER TCHEjCAPITAL LETTER HWEjSMALL LETTER HWEjCAPITAL LETTER " ++
     "SHWEjSMALL LETTER SHWEjCAPITAL LETTER DOUBLE OjSMALL LETTER DOUBLE OjCAPITAL LETTER CROSSED OjSMALL LETTER" ++
     " CROSSED OaMODIFIER LETTER CYRILLIC HARD SIGNzSOFT SIGNaCOMBINING CYRILLIC LETTER EFz IOTIFIED EaBAMUM LET" ++
     "TER AnKAnUnKUnEEnREEnTAEnOnNYInInLAnPAnRIIpEEnLEEEEnMEEEEnTAAnNDAAoJAEMnMnSUUnMUnSHIIoIoHEUXoEUXnKYEEoETnN" ++
     "UAEpoJUAEnYOQnSHUnYUQoAnNSHAnKEUXnPEUXnNJEEoTEEnPUEnWUEnPEEnFEEnRUnLUnMInNInREUXoAEnKENnNGKWAENpGApAnSHOnP" ++
     "UAEnFUoOMnWAnNAnLInPInLOQnKOnMBENnRENnMENoAnTInKInMOoBAAnTETnKPAnTENnNTUUnSAMBAnFAAMAEnKOVUUpGHOMgCOMBININ" ++
     "G MARK KOQNDONvTUKWENTISgNJAEMLIgFULL STOPgCOLONiMMAgSEMICOLONgQUESTION MARK"),
   (0xa700, "aMODIFIER LETTER CHINESE TONE YIN PINGzONE YANG PINGzONE YIN SHANGzONE YANG SHANGzONE YIN QUzONE YA" ++
     "NG QUzONE YIN RUzONE YANG RUqEXTRA-HIGH DOTTED TONE BARqHIGH DOTTED TONE BARqMID DOTTED TONE BARqLOW DOTTE" ++
     "D TONE BARqEXTRA-LOW DOTTED TONE BARwHIGH DOTTED LEFT-STEM TONE BARqHIGH DOTTED LEFT-STEM TONE BARqMID DOT" ++
     "TED LEFT-STEM TONE BARqLOW DOTTED LEFT-STEM TONE BARqEXTRA-LOW DOTTED LEFT-STEM TONE BARwHIGH LEFT-STEM TO" ++
     "NE BARqHIGH LEFT-STEM TONE BARqMID LEFT-STEM TONE BARqLOW LEFT-STEM TONE BARqEXTRA-LOW LEFT-STEM TONE BARq" ++
     "DOT VERTICAL BARuSLASHuHORIZONTAL BARqLOWER RIGHT CORNER ANGLEqRAISED UP ARROWxDOWN ARROWxEXCLAMATION MARK" ++
     "xINVERTED EXCLAMATION MARKqLOW INVERTED EXCLAMATION MARKqSTRESS AND HIGH TONEzD LOW TONEaLATIN CAPITAL LET" ++
     "TER EGYPTOLOGICAL ALEFgSMALL LETTER EGYPTOLOGICAL ALEFgCAPITAL LETTER EGYPTOLOGICAL AINgSMALL LETTER EGYPT" ++
     "OLOGICAL AINgCAPITAL LETTER HENGgSMALL LETTER HENGgCAPITAL LETTER TZgSMALL LETTER TZgCAPITAL LETTER TRESIL" ++
     "LOgSMALL LETTER TRESILLOgCAPITAL LETTER CUATRILLOgSMALL LETTER CUATRILLOgCAPITAL LETTER CUATRILLO WITH COM" ++
     "MAgSMALL LETTER CUATRILLO WITH COMMAgLETTER SMALL CAPITAL FzL SgCAPITAL LETTER AAgSMALL LETTER AAgCAPITAL " ++
     "LETTER AOgSMALL LETTER AOgCAPITAL LETTER AUgSMALL LETTER AUgCAPITAL LETTER AVgSMALL LETTER AVgCAPITAL LETT" ++
     "ER AV WITH HORIZONTAL BARgSMALL LETTER AV WITH HORIZONTAL BARgCAPITAL LETTER AYgSMALL LETTER AYgCAPITAL LE" ++
     "TTER REVERSED C WITH DOTgSMALL LETTER REVERSED C WITH DOTgCAPITAL LETTER K WITH STROKEgSMALL LETTER K WITH" ++
     " STROKEgCAPITAL LETTER K WITH DIAGONAL STROKEgSMALL LETTER K WITH DIAGONAL STROKEgCAPITAL LETTER K WITH ST" ++
     "ROKE AND DIAGONAL STROKEgSMALL LETTER K WITH STROKE AND DIAGONAL STROKEgCAPITAL LETTER BROKEN LgSMALL LETT" ++
     "ER BROKEN LgCAPITAL LETTER L WITH HIGH STROKEgSMALL LETTER L WITH HIGH STROKEgCAPITAL LETTER O WITH LONG S" ++
     "TROKE OVERLAY"),
   (0xa74b, "aLATIN SMALL LETTER O WITH LONG STROKE OVERLAYgCAPITAL LETTER O WITH LOOPgSMALL LETTER O WITH LOOPg" ++
     "CAPITAL LETTER OOgSMALL LETTER OOgCAPITAL LETTER P WITH STROKE THROUGH DESCENDERgSMALL LETTER P WITH STROK" ++
     "E THROUGH DESCENDERgCAPITAL LETTER P WITH FLOURISHgSMALL LETTER P WITH FLOURISHgCAPITAL LETTER P WITH SQUI" ++
     "RREL TAILgSMALL LETTER P WITH SQUIRREL TAILgCAPITAL LETTER Q WITH STROKE THROUGH DESCENDERgSMALL LETTER Q " ++
     "WITH STROKE THROUGH DESCENDERgCAPITAL LETTER Q WITH DIAGONAL STROKEgSMALL LETTER Q WITH DIAGONAL STROKEgCA" ++
     "PITAL LETTER R ROTUNDAgSMALL LETTER R ROTUNDAgCAPITAL LETTER RUM ROTUNDAgSMALL LETTER RUM ROTUNDAgCAPITAL " ++
     "LETTER V WITH DIAGONAL STROKEgSMALL LETTER V WITH DIAGONAL STROKEgCAPITAL LETTER VYgSMALL LETTER VYgCAPITA" ++
     "L LETTER VISIGOTHIC ZgSMALL LETTER VISIGOTHIC ZgCAPITAL LETTER THORN WITH STROKEgSMALL LETTER THORN WITH S" ++
     "TROKEgCAPITAL LETTER THORN WITH STROKE THROUGH DESCENDERgSMALL LETTER THORN WITH STROKE THROUGH DESCENDERg" ++
     "CAPITAL LETTER VENDgSMALL LETTER VENDgCAPITAL LETTER ETgSMALL LETTER ETgCAPITAL LETTER ISgSMALL LETTER ISg" ++
     "CAPITAL LETTER CONgSMALL LETTER CONaMODIFIER LETTER USaLATIN SMALL LETTER DUMtLUMtMUMtNUMtRUMgLETTER SMALL" ++
     " CAPITAL RUMgSMALL LETTER TUMtUMgCAPITAL LETTER INSULAR DgSMALL LETTER INSULAR DgCAPITAL LETTER INSULAR Fg" ++
     "SMALL LETTER INSULAR FgCAPITAL LETTER INSULAR GvTURNED INSULAR GgSMALL LETTER TURNED INSULAR GgCAPITAL LET" ++
     "TER TURNED LgSMALL LETTER TURNED LgCAPITAL LETTER INSULAR RgSMALL LETTER INSULAR RgCAPITAL LETTER INSULAR " ++
     "SgSMALL LETTER INSULAR SgCAPITAL LETTER INSULAR TgSMALL LETTER INSULAR TaMODIFIER LETTER LOW CIRCUMFLEX AC" ++
     "CENTqCOLONqSHORT EQUALS SIGNaLATIN CAPITAL LETTER SALTILLOgSMALL LETTER SALTILLOgCAPITAL LETTER TURNED HgS" ++
     "MALL LETTER L WITH RETROFLEX HOOK AND BELTgLETTER SINOLOGICAL DOTgCAPITAL LETTER N WITH DESCENDERgSMALL LE" ++
     "TTER N WITH DESCENDER"),
   (0xa792, "aLATIN CAPITAL LETTER C WITH BARgSMALL LETTER C WITH BARz PALATAL HOOKtH WITH PALATAL HOOKgCAPITAL " ++
     "LETTER B WITH FLOURISHgSMALL LETTER B WITH FLOURISHgCAPITAL LETTER F WITH STROKEgSMALL LETTER F WITH STROK" ++
     "EgCAPITAL LETTER VOLAPUK AEgSMALL LETTER VOLAPUK AEgCAPITAL LETTER VOLAPUK OEgSMALL LETTER VOLAPUK OEgCAPI" ++
     "TAL LETTER VOLAPUK UEgSMALL LETTER VOLAPUK UEgCAPITAL LETTER G WITH OBLIQUE STROKEgSMALL LETTER G WITH OBL" ++
     "IQUE STROKEgCAPITAL LETTER K WITH OBLIQUE STROKEgSMALL LETTER K WITH OBLIQUE STROKEgCAPITAL LETTER N WITH " ++
     "OBLIQUE STROKEgSMALL LETTER N WITH OBLIQUE STROKEgCAPITAL LETTER R WITH OBLIQUE STROKEgSMALL LETTER R WITH" ++
     " OBLIQUE STROKEgCAPITAL LETTER S WITH OBLIQUE STROKEgSMALL LETTER S WITH OBLIQUE STROKEgCAPITAL LETTER H W" ++
     "ITH HOOKvREVERSED OPEN EvSCRIPT GvL WITH BELTvSMALL CAPITAL IgLETTER SMALL CAPITAL QgCAPITAL LETTER TURNED" ++
     " KzED TvJ WITH CROSSED-TAILvCHIvBETAgSMALL LETTER BETAgCAPITAL LETTER OMEGAgSMALL LETTER OMEGAgCAPITAL LET" ++
     "TER U WITH STROKEgSMALL LETTER U WITH STROKEgCAPITAL LETTER GLOTTAL AgSMALL LETTER GLOTTAL AgCAPITAL LETTE" ++
     "R GLOTTAL IgSMALL LETTER GLOTTAL IgCAPITAL LETTER GLOTTAL UgSMALL LETTER GLOTTAL UgCAPITAL LETTER OLD POLI" ++
     "SH OgSMALL LETTER OLD POLISH OgCAPITAL LETTER ANGLICANA WgSMALL LETTER ANGLICANA WgCAPITAL LETTER C WITH P" ++
     "ALATAL HOOKvS WITH HOOKvZ WITH PALATAL HOOKvD WITH SHORT STROKE OVERLAYgSMALL LETTER D WITH SHORT STROKE O" ++
     "VERLAYgCAPITAL LETTER S WITH SHORT STROKE OVERLAYgSMALL LETTER S WITH SHORT STROKE OVERLAY"),
   (0xa7d0, "aLATIN CAPITAL LETTER CLOSED INSULAR GgSMALL LETTER CLOSED INSULAR G"),
   (0xa7d3, "aLATIN SMALL LETTER DOUBLE THORN"),
   (0xa7d5, "aLATIN SMALL LETTER DOUBLE WYNNgCAPITAL LETTER MIDDLE SCOTS SgSMALL LETTER MIDDLE SCOTS SgCAPITAL L" ++
     "ETTER SIGMOID SgSMALL LETTER SIGMOID S"),
   (0xa7f2, "aMODIFIER LETTER CAPITAL CyFyQaLATIN CAPITAL LETTER REVERSED HALF HgSMALL LETTER REVERSED HALF HgEP" ++
     "IGRAPHIC LETTER SIDEWAYS IaMODIFIER LETTER CAPITAL H WITH STROKEqSMALL LIGATURE OEaLATIN LETTER SMALL CAPI" ++
     "TAL TURNED MgEPIGRAPHIC LETTER REVERSED FzEVERSED PyINVERTED Mz LONGAyARCHAIC MaSYLOTI NAGRI LETTER AuInSI" ++
     "GN DVISVARAnLETTER UuEuOnSIGN HASANTAnLETTER KOvHOuGOvHOnSIGN ANUSVARAnLETTER COvHOuJOvHOuTTOwHOuDDOwHOuTO" ++
     "vHOuDOvHOuNOuPOvHOuBOvHOuMOuROuLOuRROuSOuHOnVOWEL SIGN AyIyUyEyOOnPOETRY MARK-1z2z3z4nSIGN ALTERNATE HASAN" ++
     "TA"),
   (0xa830, "aNORTH INDIC FRACTION ONE QUARTERzHALFvTHREE QUARTERSvONE SIXTEENTHzEIGHTHvTHREE SIXTEENTHSmQUARTER" ++
     " MARKmPLACEHOLDER MARKmRUPEE MARKmQUANTITY MARK"),
   (0xa840, "aPHAGS-PA LETTER KArHAqGAqNGAqCArHAqJAqNYAqTArHAqDAqNAqPArHAqBAqMAqTSAsHAqDZAqWAqZHArAqSMALL AqYAqR" ++
     "AqLAqSHArAqHAqAqIqUqEqOqQAqXAqFAqGGAqEEjSUBJOINED LETTER WAz YAjLETTER TTAsHAqDDAqNNAqALTERNATE YAqVOICELE" ++
     "SS SHAvD HAqASPIRATED FAjSUBJOINED LETTER RAlPERFIXED LETTER RAjLETTER CANDRABINDUjSINGLE HEAD MARKjDOUBLE" ++
     " HEAD MARKjMARK SHADoDOUBLE SHAD"),
   (0xa880, "aSAURASHTRA SIGN ANUSVARAqVISARGAlLETTER AtAsItIsUtUsVOCALIC Rz RRz Lz LLsEtEsAIsOtOsAUsKAtHAsGAtHA" ++
     "sNGAsCAtHAsJAtHAsNYAsTTAuHAsDDAuHAsNNAsTAtHAsDAtHAsNAsPAtHAsBAtHAsMAsYAsRAsLAsVAsSHAtSAtAsHAsLLAlCONSONANT" ++
     " SIGN HAARUlVOWEL SIGN AAwIxIwUxUwVOCALIC RzALIC RRzALIC LzALIC LLwExEwAIwOxOwAUlSIGN VIRAMAqCANDRABINDU"),
   (0xa8ce, "aSAURASHTRA DANDAmOUBLE DANDAmIGIT ZEROrONErTWOsHREErFOURsIVErSIXsEVENrEIGHTrNINE"),
   (0xa8e0, "aCOMBINING DEVANAGARI DIGIT ZEROzT ONEzT TWOzT THREEzT FOURzT FIVEzT SIXzT SEVENzT EIGHTzT NINEvLET" ++
     "TER AzER UzER KAzER NAzER PAzER RAzER VIvSIGN AVAGRAHAaDEVANAGARI SIGN SPACING CANDRABINDUqCANDRABINDU VIR" ++
     "AMAqDOUBLE CANDRABINDU VIRAMAqCANDRABINDU TWOzDU THREEzDU AVAGRAHAqPUSHPIKAlGAP FILLERlCARETlHEADSTROKElSI" ++
     "GN SIDDHAMlJAIN OMlLETTER AYlVOWEL SIGN AYaKAYAH LI DIGIT ZEROpONEpTWOqHREEpFOURqIVEpSIXqEVENpEIGHTpNINEjL" ++
     "ETTER KArHAqGAqNGAqSArHAqZAqNYAqTAqHTAqNAqPArHAqMAqDAqBAqRAqYAqLAqWAqTHAqHAqVAqCAqAqOEqIqOOjVOWEL UEpEpUpE" ++
     "EpOjTONE PLOPHUoCALYAt PLOPHUjSIGN CWIoSHYAaREJANG LETTER KAoGAoNGAoTAoDAoNAoPAoBAoMAoCAoJAoNYAoSAoRAoLAoY" ++
     "AoWAoHAoMBAoNGGApDApYJAoAhVOWEL SIGN IsUsEsAIsOsAUsEUtAhCONSONANT SIGN NGxwRwHhVIRAMA"),
   (0xa95f, "aREJANG SECTION MARKaHANGUL CHOSEONG TIKEUT-MIEUMxPIEUPxSIOSxCIEUCqRIEUL-KIYEOKwSSANGKIYEOKwTIKEUTw" ++
     "SSANGTIKEUTwMIEUMwPIEUPwSSANGPIEUPwKAPYEOUNPIEUPwSIOSwCIEUCwKHIEUKHqMIEUM-KIYEOKwTIKEUTwSIOSqPIEUP-SIOS-TH" ++
     "IEUTHwKHIEUKHwHIEUHqSSANGSIOS-PIEUPqIEUNG-RIEULwHIEUHqSSANGCIEUC-HIEUHvTHIEUTHqPHIEUPH-HIEUHqHIEUH-SIOSqSS" ++
     "ANGYEORINHIEUH"),
   (0xa980, "aJAVANESE SIGN PANYANGGAoCECAKoLAYARoWIGNYANjLETTER AqI KAWIrrIqUqPA CEREKqNGA LELETz RASWADIqEqAIq" ++
     "OqKAs SASAKtMURDAqGAs MURDAqNGAqCAs MURDAqJAqNYA MURDAqJA MAHAPRANAqNYAqTTAt MAHAPRANAqDDAt MAHAPRANAqNA M" ++
     "URDAqTAs MURDAqDAs MAHAPRANAqNAqPAs MURDAqBAs MURDAqMAqYAqRAs AGUNGqLAqWAqSA MURDAuAHAPRANAsqHAjSIGN CECAK" ++
     " TELUjVOWEL SIGN TARUNGvOLONGuWULUy MELIKuSUKUy MENDUTuTALINGuDIRGA MUREuPEPETjCONSONANT SIGN KERETyPENGKA" ++
     "LyCAKRAjPANGKONjLEFT RERENGGANjRIGHT RERENGGANjPADA ANDAPoMADYAoLUHURoWINDUoPANGKAToLINGSApUNGSIoADEGs ADE" ++
     "GoPISELEHjTURNED PADA PISELEH"),
   (0xa9cf, "aJAVANESE PANGRANGKEPjDIGIT ZEROpONEpTWOqHREEpFOURqIVEpSIXqEVENpEIGHTpNINE"),
   (0xa9de, "aJAVANESE PADA TIRTA TUMETESoISEN-ISENaMYANMAR LETTER SHAN GHAuCHAuJHAuNNAuBHAiSIGN SHAN SAWiMODIFI" ++
     "ER LETTER SHAN REDUPLICATIONiLETTER TAI LAING NYAzFAzGAzGHAzJAzJHAzDDAzDDHAzNNAiTAI LAING DIGIT ZEROyONEyT" ++
     "WOzHREEyFOURzIVEySIXzEVENyEIGHTyNINEiLETTER TAI LAING LLAzDAzDHAzBAzBHA"),
   (0xaa00, "aCHAM LETTER AmImUmEmAImOmKAnHAmGAnHAmNGUEoAmCHAoHAmJAnHAmNHUEoAoJAmTAnHAmDAnHAmNUEnAmDDAmPAnPAnHAm" ++
     "BAnHAmMUEnAmBBAmYAmRAmLAmVAmSSAnAmHAfVOWEL SIGN AAqIrIqEIqUqOErqAIrUqUEfCONSONANT SIGN YAuRAuLAuWA"),
   (0xaa40, "aCHAM LETTER FINAL KsGsNGfCONSONANT SIGN FINAL NGfLETTER FINAL CHsTsNsPsYsRsLsSSfCONSONANT SIGN FIN" ++
     "AL Mz H"),
   (0xaa50, "aCHAM DIGIT ZEROlONElTWOmHREElFOURmIVElSIXmEVENlEIGHTlNINE"),
   (0xaa5c, "aCHAM PUNCTUATION SPIRALrDANDAsOUBLE DANDArTRIPLE DANDAaMYANMAR LETTER KHAMTI GAwCAxHAwJAxHAwNYAwTT" ++
     "AyHAwDDAyHAxHAwNAwSAwHAxHAwFAiMODIFIER LETTER KHAMTI REDUPLICATIONiLETTER KHAMTI XAwZAwRAjOGOGRAM KHAMTI O" ++
     "AYyQNyHMiSYMBOL AITON EXCLAMATIONvONEvTWOiLETTER AITON RAiSIGN PAO KAREN TONEnTAI LAING TONE-2zNE-5iLETTER" ++
     " SHWE PALAUNG CHAzNG SHAaTAI VIET LETTER LOW KOqHIGH KOqLOW KHOqHIGH KHOqLOW KHHOqHIGH KHHOqLOW GOqHIGH GO" ++
     "qLOW NGOqHIGH NGOqLOW COqHIGH COqLOW CHOqHIGH CHOqLOW SOqHIGH SOqLOW NYOqHIGH NYOqLOW DOqHIGH DOqLOW TOqHI" ++
     "GH TOqLOW THOqHIGH THOqLOW NOqHIGH NOqLOW BOqHIGH BOqLOW POqHIGH POqLOW PHOqHIGH PHOqLOW FOqHIGH FOqLOW MO" ++
     "qHIGH MOqLOW YOqHIGH YOqLOW ROqHIGH ROqLOW LOqHIGH LOqLOW VOqHIGH VOqLOW HOqHIGH HOqLOW OqHIGH OjMAI KANGj" ++
     "VOWEL AApIpUEqpEpOjMAI KHITjVOWEL IApUEAqApAUEqYqNqMjTONE MAI EKsNUENGsTHOsSONG"),
   (0xaadb, "aTAI VIET SYMBOL KONqNUENGqSAMqHO HOIqKOI KOIaMEETEI MAYEK LETTER EuOuCHAuNYAuTTAwHAuDDAwHAuNNAuSHA" ++
     "vSAnVOWEL SIGN IIyUUyAAIzUzAUnCHEIKHANnAHANG KHUDAMoNJInSYLLABLE REPETITION MARKnWORD REPETITION MARKnVOWE" ++
     "L SIGN VISARGAoIRAMA"),
   (0xab01, "aETHIOPIC SYLLABLE TTHUvIvAAvEEwvO"),
   (0xab09, "aETHIOPIC SYLLABLE DDHUvIvAAvEEwvO"),
   (0xab11, "aETHIOPIC SYLLABLE DZUuIuAAuEEvuO"),
   (0xab20, "aETHIOPIC SYLLABLE CCHHAwUwIwAAwEExwO"),
   (0xab28, "aETHIOPIC SYLLABLE BBAuUuIuAAuEEvuO"),
   (0xab30, "aLATIN SMALL LETTER BARRED ALPHAtA REVERSED-SCHWAtBLACKLETTER EuARRED EtE WITH FLOURISHtLENIS FtSCR" ++
     "IPT G WITH CROSSED-TAILtL WITH INVERTED LAZY Sz DOUBLE MIDDLE TILDEz MIDDLE RINGtM WITH CROSSED-TAILtN WIT" ++
     "H CROSSED-TAILtENG WITH CROSSED-TAILtBLACKLETTER OzETTER O WITH STROKEtOPEN O WITH STROKEtINVERTED OEtTURN" ++
     "ED OE WITH STROKEz OE WITH HORIZONTAL STROKEz O OPEN-Oz O OPEN-O WITH STROKEtSTIRRUP RgLETTER SMALL CAPITA" ++
     "L R WITH RIGHT LEGgSMALL LETTER R WITHOUT HANDLEtDOUBLE RtR WITH CROSSED-TAILtDOUBLE R WITH CROSSED-TAILtS" ++
     "CRIPT Rz R WITH RINGtBASELINE ESHtU WITH SHORT RIGHT LEGvBAR WITH SHORT RIGHT LEGuItTURNED UItU WITH LEFT " ++
     "HOOKtCHIw WITH LOW RIGHT RINGzTH LOW LEFT SERIFtX WITH LOW RIGHT RINGz LONG LEFT LEGz LONG LEFT LEG AND LO" ++
     "W RIGHT RINGz LONG LEFT LEG WITH SERIFtY WITH SHORT RIGHT LEGaMODIFIER BREVE WITH INVERTED BREVEjLETTER SM" ++
     "ALL HENGwL WITH INVERTED LAZY SzITH MIDDLE TILDEwU WITH LEFT HOOKaLATIN SMALL LETTER SAKHA YATtIOTIFIED Et" ++
     "OPEN OEtUOtINVERTED ALPHAaGREEK LETTER SMALL CAPITAL OMEGAaLATIN SMALL LETTER DZ DIGRAPH WITH RETROFLEX HO" ++
     "OKtTS DIGRAPH WITH RETROFLEX HOOKuURNED R WITH MIDDLE TILDEaMODIFIER LETTER SMALL TURNED WqLEFT TACKqRIGHT" ++
     " TACK"),
   (0xab70, "aCHEROKEE SMALL LETTER AwEwIwOwUwVwGAwKAwGExIxOxUxVwHAxExIxOxUxVwLAxExIxOxUxVwMAxExIxOxUwNAwHNAwNAH" ++
     "xExIxOxUxVwQUAyEyIyOyUyVwSAxxExIxOxUxVwDAwTAwDEwTEwDIwTIwDOxUxVxLAwTLAyEyIyOyUyVxSAyEyIyOyUyVwWAxExIxOxUxV" ++
     "wYAaMEETEI MAYEK LETTER KOKuSAMuLAIuMITuPAuNAuCHILuTILuKHOUuNGOUuTHOUuWAIuYANGuHUKuUNuIuPHAMuATIYAuGOKuJHA" ++
     "MuRAIuBAuJILuDILuGHOUuDHOUuBHAMuKOK LONSUMuLAI LONSUMuMIT LONSUMuPA LONSUMuNA LONSUMuTIL LONSUMuNGOU LONSU" ++
     "MuI LONSUMnVOWEL SIGN ONAPyINAPyANAPyYENAPySOUNAPyUNAPyCHEINAPyNUNGnCHEIKHEInLUM IYEKnAPUN IYEK"),
   (0xabf0, "aMEETEI MAYEK DIGIT ZEROtONEtTWOuHREEtFOURuIVEtSIXuEVENtEIGHTtNINE"),
   (0xd7b0, "aHANGUL JUNGSEONG O-YEOtO-IrYO-AvEuEOrU-YEOtI-IrYU-AEuOrEU-AuEOvuOrI-YA-OvEuEOvtO-ItYOuUtIrARAEA-AxE"),
   (0xd7cb, "aHANGUL JONGSEONG NIEUN-RIEULxCHIEUCHrSSANGTIKEUTzEUT-PIEUPrTIKEUT-PIEUPySIOSzIOS-KIYEOKyCIEUCzHIEU" ++
     "CHyTHIEUTHrRIEUL-SSANGKIYEOKxKIYEOK-HIEUHrSSANGRIEUL-KHIEUKHrRIEUL-MIEUM-HIEUHxPIEUP-TIKEUTzEUP-PHIEUPHxYE" ++
     "SIEUNGzORINHIEUH-HIEUHrKAPYEOUNRIEULrMIEUM-NIEUNxSSANGNIEUNrSSANGMIEUMrMIEUM-PIEUP-SIOSxCIEUCrPIEUP-TIKEUT" ++
     "xRIEUL-PHIEUPHxMIEUMrSSANGPIEUPrPIEUP-SIOS-TIKEUTxCIEUCyHIEUCHrSIOS-MIEUMwKAPYEOUNPIEUPsSANGSIOS-KIYEOKzS-" ++
     "TIKEUTsIOS-PANSIOSwCIEUCxHIEUCHwTHIEUTHwHIEUHrPANSIOS-PIEUPzKAPYEOUNPIEUPrYESIEUNG-MIEUMz-HIEUHrCIEUC-PIEU" ++
     "PxSSANGPIEUPrSSANGCIEUCrPHIEUPH-SIOSzTHIEUTH"),
   (0xfb00, "aLATIN SMALL LIGATURE FFwIwLwFIxLvLONG S TvST"),
   (0xfb13, "aARMENIAN SMALL LIGATURE MEN NOWzEN ECHzEN INIyVEW NOWyMEN XEH"),
   (0xfb1d, "aHEBREW LETTER YOD WITH HIRIQhPOINT JUDEO-SPANISH VARIKAhLIGATURE YIDDISH YOD YOD PATAHiETTER ALTER" ++
     "NATIVE AYINoWIDE ALEFtDALETtHEtKAFtLAMEDtFINAL MEMtRESHtTAVoALTERNATIVE PLUS SIGNoSHIN WITH SHIN DOTzIN DO" ++
     "TyDAGESH AND SHIN DOTzAGESH AND SIN DOToALEF WITH PATAHyQAMATSyMAPIQoBET WITH DAGESHoGIMEL WITH DAGESHoDAL" ++
     "ET WITH DAGESHoHE WITH MAPIQoVAV WITH DAGESHoZAYIN WITH DAGESH"),
   (0xfb38, "aHEBREW LETTER TET WITH DAGESHoYOD WITH DAGESHoFINAL KAF WITH DAGESHoKAF WITH DAGESHoLAMED WITH DAGESH"),
   (0xfb3e, "aHEBREW LETTER MEM WITH DAGESH"),
   (0xfb40, "aHEBREW LETTER NUN WITH DAGESHoSAMEKH WITH DAGESH"),
   (0xfb43, "aHEBREW LETTER FINAL PE WITH DAGESHoPE WITH DAGESH"),
   (0xfb46, "aHEBREW LETTER TSADI WITH DAGESHoQOF WITH DAGESHoRESH WITH DAGESHoSHIN WITH DAGESHoTAV WITH DAGESHo" ++
     "VAV WITH HOLAMoBET WITH RAFEoKAF WITH RAFEoPE WITH RAFEiIGATURE ALEF LAMEDaARABIC LETTER ALEF WASLA ISOLAT" ++
     "ED FORMzFINAL FORMoBEEH ISOLATED FORMtFINAL FORMtINITIAL FORMtMEDIAL FORMoPEH ISOLATED FORMsFINAL FORMsINI" ++
     "TIAL FORMsMEDIAL FORMoBEHEH ISOLATED FORMuFINAL FORMuINITIAL FORMuMEDIAL FORMoTTEHEH ISOLATED FORMvFINAL F" ++
     "ORMvINITIAL FORMvMEDIAL FORMpEHEH ISOLATED FORMuFINAL FORMuINITIAL FORMuMEDIAL FORMpTEH ISOLATED FORMtFINA" ++
     "L FORMtINITIAL FORMtMEDIAL FORMoVEH ISOLATED FORMsFINAL FORMsINITIAL FORMsMEDIAL FORMoPEHEH ISOLATED FORMu" ++
     "FINAL FORMuINITIAL FORMuMEDIAL FORMoDYEH ISOLATED FORMtFINAL FORMtINITIAL FORMtMEDIAL FORMoNYEH ISOLATED F" ++
     "ORMtFINAL FORMtINITIAL FORMtMEDIAL FORMoTCHEH ISOLATED FORMuFINAL FORMuINITIAL FORMuMEDIAL FORMtEH ISOLATE" ++
     "D FORMwFINAL FORMwINITIAL FORMwMEDIAL FORMoDDAHAL ISOLATED FORMvFINAL FORMpAHAL ISOLATED FORMuFINAL FORMpU" ++
     "L ISOLATED FORMsFINAL FORMpDAL ISOLATED FORMtFINAL FORMoJEH ISOLATED FORMsFINAL FORMoRREH ISOLATED FORMtFI" ++
     "NAL FORMoKEHEH ISOLATED FORMuFINAL FORMuINITIAL FORMuMEDIAL FORMoGAF ISOLATED FORMsFINAL FORMsINITIAL FORM" ++
     "sMEDIAL FORMpUEH ISOLATED FORMtFINAL FORMtINITIAL FORMtMEDIAL FORMoNGOEH ISOLATED FORMuFINAL FORMuINITIAL " ++
     "FORMuMEDIAL FORMpOON GHUNNA ISOLATED FORMz FINAL FORMoRNOON ISOLATED FORMuFINAL FORMuINITIAL FORMuMEDIAL F" ++
     "ORMoHEH WITH YEH ABOVE ISOLATED FORMzH ABOVE FINAL FORMsGOAL ISOLATED FORMxFINAL FORMxINITIAL FORMxMEDIAL " ++
     "FORMsDOACHASHMEE ISOLATED FORMzHMEE FINAL FORMzHMEE INITIAL FORMzHMEE MEDIAL FORMoYEH BARREE ISOLATED FORM" ++
     "zFINAL FORMzWITH HAMZA ABOVE ISOLATED FORMzWITH HAMZA ABOVE FINAL FORMhSYMBOL DOT ABOVEsBELOWoTWO DOTS ABO" ++
     "VExBELOWpHREE DOTS ABOVEzBELOWzPOINTING DOWNWARDS ABOVEzPOINTING DOWNWARDS BELOWoFOUR DOTS ABOVEyBELOWoDOU" ++
     "BLE VERTICAL BAR BELOW"),
   (0xfbbd, "aARABIC SYMBOL TWO DOTS VERTICALLY ABOVEzRTICALLY BELOWoRINGoSMALL TAH ABOVEyBELOWoWASLA ABOVE"),
   (0xfbd3, "aARABIC LETTER NG ISOLATED FORMrFINAL FORMrINITIAL FORMrMEDIAL FORMoU ISOLATED FORMqFINAL FORMoOE I" ++
     "SOLATED FORMrFINAL FORMoYU ISOLATED FORMrFINAL FORMoU WITH HAMZA ABOVE ISOLATED FORMoVE ISOLATED FORMrFINA" ++
     "L FORMoKIRGHIZ OE ISOLATED FORMzFINAL FORMwYU ISOLATED FORMzFINAL FORMoE ISOLATED FORMqFINAL FORMqINITIAL " ++
     "FORMqMEDIAL FORMoUIGHUR KAZAKH KIRGHIZ ALEF MAKSURA INITIAL FORMzKH KIRGHIZ ALEF MAKSURA MEDIAL FORMiIGATU" ++
     "RE YEH WITH HAMZA ABOVE WITH ALEF ISOLATED FORMzHAMZA ABOVE WITH ALEF FINAL FORMzHAMZA ABOVE WITH AE ISOLA" ++
     "TED FORMzHAMZA ABOVE WITH AE FINAL FORMzHAMZA ABOVE WITH WAW ISOLATED FORMzHAMZA ABOVE WITH WAW FINAL FORM" ++
     "zHAMZA ABOVE WITH U ISOLATED FORMzHAMZA ABOVE WITH U FINAL FORMzHAMZA ABOVE WITH OE ISOLATED FORMzHAMZA AB" ++
     "OVE WITH OE FINAL FORMzHAMZA ABOVE WITH YU ISOLATED FORMzHAMZA ABOVE WITH YU FINAL FORMzHAMZA ABOVE WITH E" ++
     " ISOLATED FORMzHAMZA ABOVE WITH E FINAL FORMzHAMZA ABOVE WITH E INITIAL FORMqUIGHUR KIRGHIZ YEH WITH HAMZA" ++
     " ABOVE WITH ALEF MAKSURA ISOLATED FORMzRGHIZ YEH WITH HAMZA ABOVE WITH ALEF MAKSURA FINAL FORMzRGHIZ YEH W" ++
     "ITH HAMZA ABOVE WITH ALEF MAKSURA INITIAL FORMiETTER FARSI YEH ISOLATED FORMyFINAL FORMyINITIAL FORMyMEDIA" ++
     "L FORMiIGATURE YEH WITH HAMZA ABOVE WITH JEEM ISOLATED FORMzHAMZA ABOVE WITH HAH ISOLATED FORMzHAMZA ABOVE" ++
     " WITH MEEM ISOLATED FORMzHAMZA ABOVE WITH ALEF MAKSURA ISOLATED FORMzHAMZA ABOVE WITH YEH ISOLATED FORMqBE" ++
     "H WITH JEEM ISOLATED FORMzHAH ISOLATED FORMzKHAH ISOLATED FORMzMEEM ISOLATED FORMzALEF MAKSURA ISOLATED FO" ++
     "RMzYEH ISOLATED FORMqTEH WITH JEEM ISOLATED FORMzHAH ISOLATED FORMzKHAH ISOLATED FORMzMEEM ISOLATED FORMzA" ++
     "LEF MAKSURA ISOLATED FORMzYEH ISOLATED FORMrHEH WITH JEEM ISOLATED FORMz MEEM ISOLATED FORMz ALEF MAKSURA " ++
     "ISOLATED FORMz YEH ISOLATED FORMqJEEM WITH HAH ISOLATED FORMz MEEM ISOLATED FORMqHAH WITH JEEM ISOLATED FO" ++
     "RMzMEEM ISOLATED FORM"),
   (0xfc19, "aARABIC LIGATURE KHAH WITH JEEM ISOLATED FORMz HAH ISOLATED FORMz MEEM ISOLATED FORMqSEEN WITH JEEM" ++
     " ISOLATED FORMz HAH ISOLATED FORMz KHAH ISOLATED FORMz MEEM ISOLATED FORMrAD WITH HAH ISOLATED FORMzMEEM I" ++
     "SOLATED FORMqDAD WITH JEEM ISOLATED FORMzHAH ISOLATED FORMzKHAH ISOLATED FORMzMEEM ISOLATED FORMqTAH WITH " ++
     "HAH ISOLATED FORMzMEEM ISOLATED FORMqZAH WITH MEEM ISOLATED FORMqAIN WITH JEEM ISOLATED FORMzMEEM ISOLATED" ++
     " FORMqGHAIN WITH JEEM ISOLATED FORMzH MEEM ISOLATED FORMqFEH WITH JEEM ISOLATED FORMzHAH ISOLATED FORMzKHA" ++
     "H ISOLATED FORMzMEEM ISOLATED FORMzALEF MAKSURA ISOLATED FORMzYEH ISOLATED FORMqQAF WITH HAH ISOLATED FORM" ++
     "zMEEM ISOLATED FORMzALEF MAKSURA ISOLATED FORMzYEH ISOLATED FORMqKAF WITH ALEF ISOLATED FORMzJEEM ISOLATED" ++
     " FORMzHAH ISOLATED FORMzKHAH ISOLATED FORMzLAM ISOLATED FORMzMEEM ISOLATED FORMzALEF MAKSURA ISOLATED FORM" ++
     "zYEH ISOLATED FORMqLAM WITH JEEM ISOLATED FORMzHAH ISOLATED FORMzKHAH ISOLATED FORMzMEEM ISOLATED FORMzALE" ++
     "F MAKSURA ISOLATED FORMzYEH ISOLATED FORMqMEEM WITH JEEM ISOLATED FORMz HAH ISOLATED FORMz KHAH ISOLATED F" ++
     "ORMz MEEM ISOLATED FORMz ALEF MAKSURA ISOLATED FORMz YEH ISOLATED FORMqNOON WITH JEEM ISOLATED FORMz HAH I" ++
     "SOLATED FORMz KHAH ISOLATED FORMz MEEM ISOLATED FORMz ALEF MAKSURA ISOLATED FORMz YEH ISOLATED FORMqHEH WI" ++
     "TH JEEM ISOLATED FORMzMEEM ISOLATED FORMzALEF MAKSURA ISOLATED FORMzYEH ISOLATED FORMqYEH WITH JEEM ISOLAT" ++
     "ED FORMzHAH ISOLATED FORMzKHAH ISOLATED FORMzMEEM ISOLATED FORMzALEF MAKSURA ISOLATED FORMzYEH ISOLATED FO" ++
     "RMqTHAL WITH SUPERSCRIPT ALEF ISOLATED FORMqREH WITH SUPERSCRIPT ALEF ISOLATED FORMqALEF MAKSURA WITH SUPE" ++
     "RSCRIPT ALEF ISOLATED FORMqSHADDA WITH DAMMATAN ISOLATED FORMzTH KASRATAN ISOLATED FORMzTH FATHA ISOLATED " ++
     "FORMzTH DAMMA ISOLATED FORMzTH KASRA ISOLATED FORMzTH SUPERSCRIPT ALEF ISOLATED FORMqYEH WITH HAMZA ABOVE " ++
     "WITH REH FINAL FORM"),
   (0xfc65, "aARABIC LIGATURE YEH WITH HAMZA ABOVE WITH ZAIN FINAL FORMzHAMZA ABOVE WITH MEEM FINAL FORMzHAMZA A" ++
     "BOVE WITH NOON FINAL FORMzHAMZA ABOVE WITH ALEF MAKSURA FINAL FORMzHAMZA ABOVE WITH YEH FINAL FORMqBEH WIT" ++
     "H REH FINAL FORMzZAIN FINAL FORMzMEEM FINAL FORMzNOON FINAL FORMzALEF MAKSURA FINAL FORMzYEH FINAL FORMqTE" ++
     "H WITH REH FINAL FORMzZAIN FINAL FORMzMEEM FINAL FORMzNOON FINAL FORMzALEF MAKSURA FINAL FORMzYEH FINAL FO" ++
     "RMrHEH WITH REH FINAL FORMz ZAIN FINAL FORMz MEEM FINAL FORMz NOON FINAL FORMz ALEF MAKSURA FINAL FORMz YE" ++
     "H FINAL FORMqFEH WITH ALEF MAKSURA FINAL FORMzYEH FINAL FORMqQAF WITH ALEF MAKSURA FINAL FORMzYEH FINAL FO" ++
     "RMqKAF WITH ALEF FINAL FORMzLAM FINAL FORMzMEEM FINAL FORMzALEF MAKSURA FINAL FORMzYEH FINAL FORMqLAM WITH" ++
     " MEEM FINAL FORMzALEF MAKSURA FINAL FORMzYEH FINAL FORMqMEEM WITH ALEF FINAL FORMz MEEM FINAL FORMqNOON WI" ++
     "TH REH FINAL FORMz ZAIN FINAL FORMz MEEM FINAL FORMz NOON FINAL FORMz ALEF MAKSURA FINAL FORMz YEH FINAL F" ++
     "ORMqALEF MAKSURA WITH SUPERSCRIPT ALEF FINAL FORMqYEH WITH REH FINAL FORMzZAIN FINAL FORMzMEEM FINAL FORMz" ++
     "NOON FINAL FORMzALEF MAKSURA FINAL FORMzYEH FINAL FORMzHAMZA ABOVE WITH JEEM INITIAL FORMzHAMZA ABOVE WITH" ++
     " HAH INITIAL FORMzHAMZA ABOVE WITH KHAH INITIAL FORMzHAMZA ABOVE WITH MEEM INITIAL FORMzHAMZA ABOVE WITH H" ++
     "EH INITIAL FORMqBEH WITH JEEM INITIAL FORMzHAH INITIAL FORMzKHAH INITIAL FORMzMEEM INITIAL FORMzHEH INITIA" ++
     "L FORMqTEH WITH JEEM INITIAL FORMzHAH INITIAL FORMzKHAH INITIAL FORMzMEEM INITIAL FORMzHEH INITIAL FORMrHE" ++
     "H WITH MEEM INITIAL FORMqJEEM WITH HAH INITIAL FORMz MEEM INITIAL FORMqHAH WITH JEEM INITIAL FORMzMEEM INI" ++
     "TIAL FORMqKHAH WITH JEEM INITIAL FORMz MEEM INITIAL FORMqSEEN WITH JEEM INITIAL FORMz HAH INITIAL FORMz KH" ++
     "AH INITIAL FORMz MEEM INITIAL FORMrAD WITH HAH INITIAL FORMzKHAH INITIAL FORMzMEEM INITIAL FORMqDAD WITH J" ++
     "EEM INITIAL FORM"),
   (0xfcb5, "aARABIC LIGATURE DAD WITH HAH INITIAL FORMzKHAH INITIAL FORMzMEEM INITIAL FORMqTAH WITH HAH INITIAL" ++
     " FORMqZAH WITH MEEM INITIAL FORMqAIN WITH JEEM INITIAL FORMzMEEM INITIAL FORMqGHAIN WITH JEEM INITIAL FORM" ++
     "zH MEEM INITIAL FORMqFEH WITH JEEM INITIAL FORMzHAH INITIAL FORMzKHAH INITIAL FORMzMEEM INITIAL FORMqQAF W" ++
     "ITH HAH INITIAL FORMzMEEM INITIAL FORMqKAF WITH JEEM INITIAL FORMzHAH INITIAL FORMzKHAH INITIAL FORMzLAM I" ++
     "NITIAL FORMzMEEM INITIAL FORMqLAM WITH JEEM INITIAL FORMzHAH INITIAL FORMzKHAH INITIAL FORMzMEEM INITIAL F" ++
     "ORMzHEH INITIAL FORMqMEEM WITH JEEM INITIAL FORMz HAH INITIAL FORMz KHAH INITIAL FORMz MEEM INITIAL FORMqN" ++
     "OON WITH JEEM INITIAL FORMz HAH INITIAL FORMz KHAH INITIAL FORMz MEEM INITIAL FORMz HEH INITIAL FORMqHEH W" ++
     "ITH JEEM INITIAL FORMzMEEM INITIAL FORMzSUPERSCRIPT ALEF INITIAL FORMqYEH WITH JEEM INITIAL FORMzHAH INITI" ++
     "AL FORMzKHAH INITIAL FORMzMEEM INITIAL FORMzHEH INITIAL FORMzHAMZA ABOVE WITH MEEM MEDIAL FORMzHAMZA ABOVE" ++
     " WITH HEH MEDIAL FORMqBEH WITH MEEM MEDIAL FORMzHEH MEDIAL FORMqTEH WITH MEEM MEDIAL FORMzHEH MEDIAL FORMr" ++
     "HEH WITH MEEM MEDIAL FORMz HEH MEDIAL FORMqSEEN WITH MEEM MEDIAL FORMz HEH MEDIAL FORMrHEEN WITH MEEM MEDI" ++
     "AL FORMzH HEH MEDIAL FORMqKAF WITH LAM MEDIAL FORMzMEEM MEDIAL FORMqLAM WITH MEEM MEDIAL FORMqNOON WITH ME" ++
     "EM MEDIAL FORMz HEH MEDIAL FORMqYEH WITH MEEM MEDIAL FORMzHEH MEDIAL FORMqSHADDA WITH FATHA MEDIAL FORMzTH" ++
     " DAMMA MEDIAL FORMzTH KASRA MEDIAL FORMqTAH WITH ALEF MAKSURA ISOLATED FORMzYEH ISOLATED FORMqAIN WITH ALE" ++
     "F MAKSURA ISOLATED FORMzYEH ISOLATED FORMqGHAIN WITH ALEF MAKSURA ISOLATED FORMzH YEH ISOLATED FORMqSEEN W" ++
     "ITH ALEF MAKSURA ISOLATED FORMz YEH ISOLATED FORMrHEEN WITH ALEF MAKSURA ISOLATED FORMzH YEH ISOLATED FORM" ++
     "qHAH WITH ALEF MAKSURA ISOLATED FORMzYEH ISOLATED FORMqJEEM WITH ALEF MAKSURA ISOLATED FORMz YEH ISOLATED " ++
     "FORMqKHAH WITH ALEF MAKSURA ISOLATED FORM"),
   (0xfd04, "aARABIC LIGATURE KHAH WITH YEH ISOLATED FORMqSAD WITH ALEF MAKSURA ISOLATED FORMzYEH ISOLATED FORMq" ++
     "DAD WITH ALEF MAKSURA ISOLATED FORMzYEH ISOLATED FORMqSHEEN WITH JEEM ISOLATED FORMzH HAH ISOLATED FORMzH " ++
     "KHAH ISOLATED FORMzH MEEM ISOLATED FORMzH REH ISOLATED FORMrEEN WITH REH ISOLATED FORMrAD WITH REH ISOLATE" ++
     "D FORMqDAD WITH REH ISOLATED FORMqTAH WITH ALEF MAKSURA FINAL FORMzYEH FINAL FORMqAIN WITH ALEF MAKSURA FI" ++
     "NAL FORMzYEH FINAL FORMqGHAIN WITH ALEF MAKSURA FINAL FORMzH YEH FINAL FORMqSEEN WITH ALEF MAKSURA FINAL F" ++
     "ORMz YEH FINAL FORMrHEEN WITH ALEF MAKSURA FINAL FORMzH YEH FINAL FORMqHAH WITH ALEF MAKSURA FINAL FORMzYE" ++
     "H FINAL FORMqJEEM WITH ALEF MAKSURA FINAL FORMz YEH FINAL FORMqKHAH WITH ALEF MAKSURA FINAL FORMz YEH FINA" ++
     "L FORMqSAD WITH ALEF MAKSURA FINAL FORMzYEH FINAL FORMqDAD WITH ALEF MAKSURA FINAL FORMzYEH FINAL FORMqSHE" ++
     "EN WITH JEEM FINAL FORMzH HAH FINAL FORMzH KHAH FINAL FORMzH MEEM FINAL FORMzH REH FINAL FORMrEEN WITH REH" ++
     " FINAL FORMrAD WITH REH FINAL FORMqDAD WITH REH FINAL FORMqSHEEN WITH JEEM INITIAL FORMzH HAH INITIAL FORM" ++
     "zH KHAH INITIAL FORMzH MEEM INITIAL FORMrEEN WITH HEH INITIAL FORMrHEEN WITH HEH INITIAL FORMqTAH WITH MEE" ++
     "M INITIAL FORMqSEEN WITH JEEM MEDIAL FORMz HAH MEDIAL FORMz KHAH MEDIAL FORMrHEEN WITH JEEM MEDIAL FORMzH " ++
     "HAH MEDIAL FORMzH KHAH MEDIAL FORMqTAH WITH MEEM MEDIAL FORMqZAH WITH MEEM MEDIAL FORMqALEF WITH FATHATAN " ++
     "FINAL FORMz FATHATAN ISOLATED FORMaORNATE LEFT PARENTHESIShRIGHT PARENTHESISaARABIC LIGATURE RAHIMAHU ALLA" ++
     "AHsDI ALLAAHU ANHzAHU ANHAAzAHU ANHUMzAHU ANHUMAAzAHU ANHUNNAqSALLALLAAHU ALAYHI WA-AALIHqALAYHI AS-SALAAM" ++
     "wM AS-SALAAMxAA AS-SALAAMw AS-SALAATU WAS-SALAAMqQUDDISA SIRRAHqSALLALLAHU ALAYHI WAAALIHEE WA-SALLAMqALAY" ++
     "HAA AS-SALAAMqTABAARAKA WA-TAAALAAqRAHIMAHUM ALLAAHqTEH WITH JEEM WITH MEEM INITIAL FORMzHAH WITH JEEM FIN" ++
     "AL FORM"),
   (0xfd52, "aARABIC LIGATURE TEH WITH HAH WITH JEEM INITIAL FORMzHAH WITH MEEM INITIAL FORMzKHAH WITH MEEM INIT" ++
     "IAL FORMzMEEM WITH JEEM INITIAL FORMzMEEM WITH HAH INITIAL FORMzMEEM WITH KHAH INITIAL FORMqJEEM WITH MEEM" ++
     " WITH HAH FINAL FORMz MEEM WITH HAH INITIAL FORMqHAH WITH MEEM WITH YEH FINAL FORMzMEEM WITH ALEF MAKSURA " ++
     "FINAL FORMqSEEN WITH HAH WITH JEEM INITIAL FORMz JEEM WITH HAH INITIAL FORMz JEEM WITH ALEF MAKSURA FINAL " ++
     "FORMz MEEM WITH HAH FINAL FORMz MEEM WITH HAH INITIAL FORMz MEEM WITH JEEM INITIAL FORMz MEEM WITH MEEM FI" ++
     "NAL FORMz MEEM WITH MEEM INITIAL FORMrAD WITH HAH WITH HAH FINAL FORMzHAH WITH HAH INITIAL FORMzMEEM WITH " ++
     "MEEM FINAL FORMrHEEN WITH HAH WITH MEEM FINAL FORMzH HAH WITH MEEM INITIAL FORMzH JEEM WITH YEH FINAL FORM" ++
     "zH MEEM WITH KHAH FINAL FORMzH MEEM WITH KHAH INITIAL FORMzH MEEM WITH MEEM FINAL FORMzH MEEM WITH MEEM IN" ++
     "ITIAL FORMqDAD WITH HAH WITH ALEF MAKSURA FINAL FORMzKHAH WITH MEEM FINAL FORMzKHAH WITH MEEM INITIAL FORM" ++
     "qTAH WITH MEEM WITH HAH FINAL FORMzMEEM WITH HAH INITIAL FORMzMEEM WITH MEEM INITIAL FORMzMEEM WITH YEH FI" ++
     "NAL FORMqAIN WITH JEEM WITH MEEM FINAL FORMzMEEM WITH MEEM FINAL FORMzMEEM WITH MEEM INITIAL FORMzMEEM WIT" ++
     "H ALEF MAKSURA FINAL FORMqGHAIN WITH MEEM WITH MEEM FINAL FORMzH MEEM WITH YEH FINAL FORMzH MEEM WITH ALEF" ++
     " MAKSURA FINAL FORMqFEH WITH KHAH WITH MEEM FINAL FORMzKHAH WITH MEEM INITIAL FORMqQAF WITH MEEM WITH HAH " ++
     "FINAL FORMzMEEM WITH MEEM FINAL FORMqLAM WITH HAH WITH MEEM FINAL FORMzHAH WITH YEH FINAL FORMzHAH WITH AL" ++
     "EF MAKSURA FINAL FORMzJEEM WITH JEEM INITIAL FORMzJEEM WITH JEEM FINAL FORMzKHAH WITH MEEM FINAL FORMzKHAH" ++
     " WITH MEEM INITIAL FORMzMEEM WITH HAH FINAL FORMzMEEM WITH HAH INITIAL FORMqMEEM WITH HAH WITH JEEM INITIA" ++
     "L FORMz HAH WITH MEEM INITIAL FORMz HAH WITH YEH FINAL FORMz JEEM WITH HAH INITIAL FORMz JEEM WITH MEEM IN" ++
     "ITIAL FORM"),
   (0xfd8e, "aARABIC LIGATURE MEEM WITH KHAH WITH JEEM INITIAL FORMz KHAH WITH MEEM INITIAL FORM"),
   (0xfd92, "aARABIC LIGATURE MEEM WITH JEEM WITH KHAH INITIAL FORMqHEH WITH MEEM WITH JEEM INITIAL FORMzMEEM WI" ++
     "TH MEEM INITIAL FORMqNOON WITH HAH WITH MEEM INITIAL FORMz HAH WITH ALEF MAKSURA FINAL FORMz JEEM WITH MEE" ++
     "M FINAL FORMz JEEM WITH MEEM INITIAL FORMz JEEM WITH ALEF MAKSURA FINAL FORMz MEEM WITH YEH FINAL FORMz ME" ++
     "EM WITH ALEF MAKSURA FINAL FORMqYEH WITH MEEM WITH MEEM FINAL FORMzMEEM WITH MEEM INITIAL FORMqBEH WITH KH" ++
     "AH WITH YEH FINAL FORMqTEH WITH JEEM WITH YEH FINAL FORMzJEEM WITH ALEF MAKSURA FINAL FORMzKHAH WITH YEH F" ++
     "INAL FORMzKHAH WITH ALEF MAKSURA FINAL FORMzMEEM WITH YEH FINAL FORMzMEEM WITH ALEF MAKSURA FINAL FORMqJEE" ++
     "M WITH MEEM WITH YEH FINAL FORMz HAH WITH ALEF MAKSURA FINAL FORMz MEEM WITH ALEF MAKSURA FINAL FORMqSEEN " ++
     "WITH KHAH WITH ALEF MAKSURA FINAL FORMrAD WITH HAH WITH YEH FINAL FORMrHEEN WITH HAH WITH YEH FINAL FORMqD" ++
     "AD WITH HAH WITH YEH FINAL FORMqLAM WITH JEEM WITH YEH FINAL FORMzMEEM WITH YEH FINAL FORMqYEH WITH HAH WI" ++
     "TH YEH FINAL FORMzJEEM WITH YEH FINAL FORMzMEEM WITH YEH FINAL FORMqMEEM WITH MEEM WITH YEH FINAL FORMqQAF" ++
     " WITH MEEM WITH YEH FINAL FORMqNOON WITH HAH WITH YEH FINAL FORMqQAF WITH MEEM WITH HAH INITIAL FORMqLAM W" ++
     "ITH HAH WITH MEEM INITIAL FORMqAIN WITH MEEM WITH YEH FINAL FORMqKAF WITH MEEM WITH YEH FINAL FORMqNOON WI" ++
     "TH JEEM WITH HAH INITIAL FORMqMEEM WITH KHAH WITH YEH FINAL FORMqLAM WITH JEEM WITH MEEM INITIAL FORMqKAF " ++
     "WITH MEEM WITH MEEM FINAL FORMqLAM WITH JEEM WITH MEEM FINAL FORMqNOON WITH JEEM WITH HAH FINAL FORMqJEEM " ++
     "WITH HAH WITH YEH FINAL FORMqHAH WITH JEEM WITH YEH FINAL FORMqMEEM WITH JEEM WITH YEH FINAL FORMqFEH WITH" ++
     " MEEM WITH YEH FINAL FORMqBEH WITH HAH WITH YEH FINAL FORMqKAF WITH MEEM WITH MEEM INITIAL FORMqAIN WITH J" ++
     "EEM WITH MEEM INITIAL FORMqSAD WITH MEEM WITH MEEM INITIAL FORMrEEN WITH KHAH WITH YEH FINAL FORMqNOON WIT" ++
     "H JEEM WITH YEH FINAL FORM"),
   (0xfdcf, "aARABIC LIGATURE SALAAMUHU ALAYNAA"),
   (0xfdf0, "aARABIC LIGATURE SALLA USED AS KORANIC STOP SIGN ISOLATED FORMqQALA USED AS KORANIC STOP SIGN ISOLA" ++
     "TED FORMqALLAH ISOLATED FORMrKBAR ISOLATED FORMqMOHAMMAD ISOLATED FORMqSALAM ISOLATED FORMqRASOUL ISOLATED" ++
     " FORMqALAYHE ISOLATED FORMqWASALLAM ISOLATED FORMqSALLA ISOLATED FORMvLLAHOU ALAYHE WASALLAMqJALLAJALALOUH" ++
     "OUaRIAL SIGNaARABIC LIGATURE BISMILLAH AR-RAHMAN AR-RAHEEMqSUBHAANAHU WA TAAALAAqAZZA WA JALLaVARIATION SE" ++
     "LECTOR-1t2t3t4t5t6t7t8t9t10u1u2u3u4u5u6aPRESENTATION FORM FOR VERTICAL COMMAzTICAL IDEOGRAPHIC COMMAzTICAL" ++
     " IDEOGRAPHIC FULL STOPzTICAL COLONzTICAL SEMICOLONzTICAL EXCLAMATION MARKzTICAL QUESTION MARKzTICAL LEFT W" ++
     "HITE LENTICULAR BRACKETzTICAL RIGHT WHITE LENTICULAR BRAKCETzTICAL HORIZONTAL ELLIPSIS"),
   (0xfe20, "aCOMBINING LIGATURE LEFT HALFtRIGHT HALFkDOUBLE TILDE LEFT HALFxRIGHT HALFkMACRON LEFT HALFrRIGHT H" ++
     "ALFkCONJOINING MACRONkLIGATURE LEFT HALF BELOWtRIGHT HALF BELOWkTILDE LEFT HALF BELOWqRIGHT HALF BELOWkMAC" ++
     "RON LEFT HALF BELOWrRIGHT HALF BELOWkCONJOINING MACRON BELOWlYRILLIC TITLO LEFT HALFzRIGHT HALFaPRESENTATI" ++
     "ON FORM FOR VERTICAL TWO DOT LEADERzTICAL EM DASHzTICAL EN DASHzTICAL LOW LINEzTICAL WAVY LOW LINEzTICAL L" ++
     "EFT PARENTHESISzTICAL RIGHT PARENTHESISzTICAL LEFT CURLY BRACKETzTICAL RIGHT CURLY BRACKETzTICAL LEFT TORT" ++
     "OISE SHELL BRACKETzTICAL RIGHT TORTOISE SHELL BRACKETzTICAL LEFT BLACK LENTICULAR BRACKETzTICAL RIGHT BLAC" ++
     "K LENTICULAR BRACKETzTICAL LEFT DOUBLE ANGLE BRACKETzTICAL RIGHT DOUBLE ANGLE BRACKETzTICAL LEFT ANGLE BRA" ++
     "CKETzTICAL RIGHT ANGLE BRACKETzTICAL LEFT CORNER BRACKETzTICAL RIGHT CORNER BRACKETzTICAL LEFT WHITE CORNE" ++
     "R BRACKETzTICAL RIGHT WHITE CORNER BRACKETaSESAME DOTaWHITE SESAME DOTaPRESENTATION FORM FOR VERTICAL LEFT" ++
     " SQUARE BRACKETzTICAL RIGHT SQUARE BRACKETaDASHED OVERLINEaCENTRELINE OVERLINEaWAVY OVERLINEaDOUBLE WAVY O" ++
     "VERLINEbASHED LOW LINEaCENTRELINE LOW LINEaWAVY LOW LINEaSMALL COMMAgIDEOGRAPHIC COMMAgFULL STOP"),
   (0xfe54, "aSMALL SEMICOLONgCOLONgQUESTION MARKgEXCLAMATION MARKhM DASHgLEFT PARENTHESISgRIGHT PARENTHESISgLEF" ++
     "T CURLY BRACKETgRIGHT CURLY BRACKETgLEFT TORTOISE SHELL BRACKETgRIGHT TORTOISE SHELL BRACKETgNUMBER SIGNgA" ++
     "MPERSANDhSTERISKgPLUS SIGNgHYPHEN-MINUSgLESS-THAN SIGNgGREATER-THAN SIGNgEQUALS SIGN"),
   (0xfe68, "aSMALL REVERSE SOLIDUSgDOLLAR SIGNgPERCENT SIGNgCOMMERCIAL AT"),
   (0xfe70, "aARABIC FATHATAN ISOLATED FORMhTATWEEL WITH FATHATAN ABOVEhDAMMATAN ISOLATED FORMhTAIL FRAGMENThKAS" ++
     "RATAN ISOLATED FORM"),
   (0xfe76, "aARABIC FATHA ISOLATED FORMnMEDIAL FORMhDAMMA ISOLATED FORMnMEDIAL FORMhKASRA ISOLATED FORMnMEDIAL " ++
     "FORMhSHADDA ISOLATED FORMoMEDIAL FORMiUKUN ISOLATED FORMnMEDIAL FORMhLETTER HAMZA ISOLATED FORMoALEF WITH " ++
     "MADDA ABOVE ISOLATED FORMzADDA ABOVE FINAL FORMyHAMZA ABOVE ISOLATED FORMzAMZA ABOVE FINAL FORMoWAW WITH H" ++
     "AMZA ABOVE ISOLATED FORMzMZA ABOVE FINAL FORMoALEF WITH HAMZA BELOW ISOLATED FORMzAMZA BELOW FINAL FORMoYE" ++
     "H WITH HAMZA ABOVE ISOLATED FORMzMZA ABOVE FINAL FORMzMZA ABOVE INITIAL FORMzMZA ABOVE MEDIAL FORMoALEF IS" ++
     "OLATED FORMtFINAL FORMoBEH ISOLATED FORMsFINAL FORMsINITIAL FORMsMEDIAL FORMoTEH MARBUTA ISOLATED FORMz FI" ++
     "NAL FORMsISOLATED FORMsFINAL FORMsINITIAL FORMsMEDIAL FORMpHEH ISOLATED FORMtFINAL FORMtINITIAL FORMtMEDIA" ++
     "L FORMoJEEM ISOLATED FORMtFINAL FORMtINITIAL FORMtMEDIAL FORMoHAH ISOLATED FORMsFINAL FORMsINITIAL FORMsME" ++
     "DIAL FORMoKHAH ISOLATED FORMtFINAL FORMtINITIAL FORMtMEDIAL FORMoDAL ISOLATED FORMsFINAL FORMoTHAL ISOLATE" ++
     "D FORMtFINAL FORMoREH ISOLATED FORMsFINAL FORMoZAIN ISOLATED FORMtFINAL FORMoSEEN ISOLATED FORMtFINAL FORM" ++
     "tINITIAL FORMtMEDIAL FORMpHEEN ISOLATED FORMuFINAL FORMuINITIAL FORMuMEDIAL FORMpAD ISOLATED FORMsFINAL FO" ++
     "RMsINITIAL FORMsMEDIAL FORMoDAD ISOLATED FORMsFINAL FORMsINITIAL FORMsMEDIAL FORMoTAH ISOLATED FORMsFINAL " ++
     "FORMsINITIAL FORMsMEDIAL FORMoZAH ISOLATED FORMsFINAL FORMsINITIAL FORMsMEDIAL FORMoAIN ISOLATED FORMsFINA" ++
     "L FORMsINITIAL FORMsMEDIAL FORMoGHAIN ISOLATED FORMuFINAL FORMuINITIAL FORMuMEDIAL FORMoFEH ISOLATED FORMs" ++
     "FINAL FORMsINITIAL FORMsMEDIAL FORMoQAF ISOLATED FORMsFINAL FORMsINITIAL FORMsMEDIAL FORMoKAF ISOLATED FOR" ++
     "MsFINAL FORMsINITIAL FORMsMEDIAL FORMoLAM ISOLATED FORMsFINAL FORMsINITIAL FORMsMEDIAL FORMoMEEM ISOLATED " ++
     "FORMtFINAL FORMtINITIAL FORMtMEDIAL FORMoNOON ISOLATED FORMtFINAL FORMtINITIAL FORMtMEDIAL FORMoHEH ISOLAT" ++
     "ED FORM"),
   (0xfeea, "aARABIC LETTER HEH FINAL FORMsINITIAL FORMsMEDIAL FORMoWAW ISOLATED FORMsFINAL FORMoALEF MAKSURA IS" ++
     "OLATED FORMzA FINAL FORMoYEH ISOLATED FORMsFINAL FORMsINITIAL FORMsMEDIAL FORMiIGATURE LAM WITH ALEF WITH " ++
     "MADDA ABOVE ISOLATED FORMzALEF WITH MADDA ABOVE FINAL FORMzALEF WITH HAMZA ABOVE ISOLATED FORMzALEF WITH H" ++
     "AMZA ABOVE FINAL FORMzALEF WITH HAMZA BELOW ISOLATED FORMzALEF WITH HAMZA BELOW FINAL FORMzALEF ISOLATED F" ++
     "ORMzALEF FINAL FORM"),
   (0xfeff, "aZERO WIDTH NO-BREAK SPACE"),
   (0xff01, "aFULLWIDTH EXCLAMATION MARKkQUOTATION MARKkNUMBER SIGNkDOLLAR SIGNkPERCENT SIGNkAMPERSANDlPOSTROPHE" ++
     "kLEFT PARENTHESISkRIGHT PARENTHESISkASTERISKkPLUS SIGNkCOMMAkHYPHEN-MINUSkFULL STOPkSOLIDUSkDIGIT ZEROqONE" ++
     "qTWOrHREEqFOURrIVEqSIXrEVENqEIGHTqNINEkCOLONkSEMICOLONkLESS-THAN SIGNkEQUALS SIGNkGREATER-THAN SIGNkQUESTI" ++
     "ON MARKkCOMMERCIAL ATkLATIN CAPITAL LETTER AzETTER BzETTER CzETTER DzETTER EzETTER FzETTER GzETTER HzETTER" ++
     " IzETTER JzETTER KzETTER LzETTER MzETTER NzETTER OzETTER PzETTER QzETTER RzETTER SzETTER TzETTER UzETTER V" ++
     "zETTER WzETTER XzETTER YzETTER ZlEFT SQUARE BRACKETkREVERSE SOLIDUSlIGHT SQUARE BRACKETkCIRCUMFLEX ACCENTk" ++
     "LOW LINEkGRAVE ACCENTkLATIN SMALL LETTER AzTER BzTER CzTER DzTER EzTER FzTER GzTER HzTER IzTER JzTER KzTER" ++
     " LzTER MzTER NzTER OzTER PzTER QzTER RzTER SzTER TzTER UzTER VzTER WzTER XzTER YzTER ZlEFT CURLY BRACKETkV" ++
     "ERTICAL LINEkRIGHT CURLY BRACKETkTILDEkLEFT WHITE PARENTHESISkRIGHT WHITE PARENTHESISaHALFWIDTH IDEOGRAPHI" ++
     "C FULL STOPkLEFT CORNER BRACKETkRIGHT CORNER BRACKETkIDEOGRAPHIC COMMAkKATAKANA MIDDLE DOTtLETTER WOz SMAL" ++
     "L Az SMALL Iz SMALL Uz SMALL Ez SMALL Oz SMALL YAz SMALL YUz SMALL YOz SMALL TUs-HIRAGANA PROLONGED SOUND " ++
     "MARKs LETTER Az Iz Uz Ez Oz KAz KIz KUz KEz KOz SAz SIz SUz SEz SOz TAz TIz TUz TEz TOz NAz NIz NUz NEz NO" ++
     "z HAz HIz HUz HEz HOz MAz MIz MUz MEz MOz YAz YUz YOz RAz RIz RUz REz ROz WAz NtVOICED SOUND MARKtSEMI-VOI" ++
     "CED SOUND MARKkHANGUL FILLERrLETTER KIYEOKySSANGKIYEOKyKIYEOK-SIOSyNIEUNzIEUN-CIEUCzIEUN-HIEUHyTIKEUTySSAN" ++
     "GTIKEUTyRIEULzIEUL-KIYEOKzIEUL-MIEUMzIEUL-PIEUPzIEUL-SIOSzIEUL-THIEUTHzIEUL-PHIEUPHzIEUL-HIEUHyMIEUMyPIEUP" ++
     "ySSANGPIEUPyPIEUP-SIOSySIOSzSANGSIOSyIEUNGyCIEUCySSANGCIEUCyCHIEUCHyKHIEUKHyTHIEUTHyPHIEUPHyHIEUH"),
   (0xffc2, "aHALFWIDTH HANGUL LETTER AzEyYAzAEyEOz"),
   (0xffca, "aHALFWIDTH HANGUL LETTER YEOzEyOyWAzAEyOE"),
   (0xffd2, "aHALFWIDTH HANGUL LETTER YOyUyWEOzEzIyYU"),
   (0xffda, "aHALFWIDTH HANGUL LETTER EUyYIyI"),
   (0xffe0, "aFULLWIDTH CENT SIGNkPOUND SIGNkNOT SIGNkMACRONkBROKEN BARkYEN SIGNkWON SIGN"),
   (0xffe8, "aHALFWIDTH FORMS LIGHT VERTICALkLEFTWARDS ARROWkUPWARDS ARROWkRIGHTWARDS ARROWkDOWNWARDS ARROWkBLAC" ++
     "K SQUAREkWHITE CIRCLE"),
   (0xfff9, "aINTERLINEAR ANNOTATION ANCHORxSEPARATORxTERMINATORaOBJECT REPLACEMENT CHARACTERaREPLACEMENT CHARACTER")]

end AttrsUpgrade.Text
