/-!
# Names of characters from U+0900 to U+13FF
-/

namespace AttrsUpgrade.Text

/-- Runs of names in the short form that `nameIndex?` reads. -/
def nameRuns0900 : List (Nat × String) :=
  [(0x0900, "aDEVANAGARI SIGN INVERTED CANDRABINDUqCANDRABINDUqANUSVARAqVISARGAlLETTER SHORT AsAtAsItIsUtUsVOCAL" ++
     "IC Rz LsCANDRA EsSHORT EsEsAIsCANDRA OsSHORT OsOsAUsKAtHAsGAtHAsNGAsCAtHAsJAtHAsNYAsTTAuHAsDDAuHAsNNAsTAtH" ++
     "AsDAtHAsNAtNNAsPAtHAsBAtHAsMAsYAsRAtRAsLAtLAuLAsVAsSHAtSAtAsHAlVOWEL SIGN OExOElSIGN NUKTAqAVAGRAHAlVOWEL " ++
     "SIGN AAwIxIwUxUwVOCALIC RzALIC RRwCANDRA EwSHORT EwEwAIwCANDRA OwSHORT OwOwAUlSIGN VIRAMAlVOWEL SIGN PRISH" ++
     "THAMATRA EwAWlOMlSTRESS SIGN UDATTAxANUDATTAlGRAVE ACCENTlACUTE ACCENTlVOWEL SIGN CANDRA LONG EwUExUElLETT" ++
     "ER QAsKHHAsGHHAsZAsDDDHAsRHAsFAsYYAsVOCALIC RRz LLlVOWEL SIGN VOCALIC LzALIC LLlDANDAmOUBLE DANDAmIGIT ZER" ++
     "OrONErTWOsHREErFOURsIVErSIXsEVENrEIGHTrNINElABBREVIATION SIGNlSIGN HIGH SPACING DOTlLETTER CANDRA AsOEtOEs" ++
     "AWsUEtUEsMARWARI DDAsZHAsHEAVY YAsGGAsJJAsGLOTTAL STOPsDDDAsBBAaBENGALI ANJIiSIGN CANDRABINDUnANUSVARAnVIS" ++
     "ARGA"),
   (0x0985, "aBENGALI LETTER AqApIqIpUqUpVOCALIC RxL"),
   (0x098f, "aBENGALI LETTER EpAI"),
   (0x0993, "aBENGALI LETTER OpAUpKAqHApGAqHApNGApCAqHApJAqHApNYApTTArHApDDArHApNNApTAqHApDAqHApNA"),
   (0x09aa, "aBENGALI LETTER PAqHApBAqHApMApYApRA"),
   (0x09b2, "aBENGALI LETTER LA"),
   (0x09b6, "aBENGALI LETTER SHAqSAqApHA"),
   (0x09bc, "aBENGALI SIGN NUKTAnAVAGRAHAiVOWEL SIGN AAtIuItUuUtVOCALIC RzC RR"),
   (0x09c7, "aBENGALI VOWEL SIGN EtAI"),
   (0x09cb, "aBENGALI VOWEL SIGN OtAUiSIGN VIRAMAiLETTER KHANDA TA"),
   (0x09d7, "aBENGALI AU LENGTH MARK"),
   (0x09dc, "aBENGALI LETTER RRAqHA"),
   (0x09df, "aBENGALI LETTER YYApVOCALIC RRxLLiVOWEL SIGN VOCALIC LzC LL"),
   (0x09e6, "aBENGALI DIGIT ZEROoONEoTWOpHREEoFOURpIVEoSIXpEVENoEIGHToNINEiLETTER RA WITH MIDDLE DIAGONALxLOWER " ++
     "DIAGONALiRUPEE MARKoSIGNiCURRENCY NUMERATOR ONEzR TWOzR THREEzR FOURzR ONE LESS THAN THE DENOMINATORrDENOM" ++
     "INATOR SIXTEENiISSHARiGANDA MARKiLETTER VEDIC ANUSVARAiABBREVIATION SIGNiSANDHI MARK"),
   (0x0a01, "aGURMUKHI SIGN ADAK BINDIoBINDIoVISARGA"),
   (0x0a05, "aGURMUKHI LETTER ArAqIrIqUrU"),
   (0x0a0f, "aGURMUKHI LETTER EEqAI"),
   (0x0a13, "aGURMUKHI LETTER OOqAUqKArHAqGArHAqNGAqCArHAqJArHAqNYAqTTAsHAqDDAsHAqNNAqTArHAqDArHAqNA"),
   (0x0a2a, "aGURMUKHI LETTER PArHAqBArHAqMAqYAqRA"),
   (0x0a32, "aGURMUKHI LETTER LArLA"),
   (0x0a35, "aGURMUKHI LETTER VAqSHA"),
   (0x0a38, "aGURMUKHI LETTER SAqHA"),
   (0x0a3c, "aGURMUKHI SIGN NUKTA"),
   (0x0a3e, "aGURMUKHI VOWEL SIGN AAuIvIuUvU"),
   (0x0a47, "aGURMUKHI VOWEL SIGN EEuAI"),
   (0x0a4b, "aGURMUKHI VOWEL SIGN OOuAUjSIGN VIRAMA"),
   (0x0a51, "aGURMUKHI SIGN UDAAT"),
   (0x0a59, "aGURMUKHI LETTER KHHAqGHHAqZAqRRA"),
   (0x0a5e, "aGURMUKHI LETTER FA"),
   (0x0a66, "aGURMUKHI DIGIT ZEROpONEpTWOqHREEpFOURqIVEpSIXqEVENpEIGHTpNINEjTIPPIjADDAKjIRIjURAjEK ONKARjSIGN YA" ++
     "KASHjABBREVIATION SIGN"),
   (0x0a81, "aGUJARATI SIGN CANDRABINDUoANUSVARAoVISARGA"),
   (0x0a85, "aGUJARATI LETTER ArAqIrIqUrUqVOCALIC RyLjVOWEL CANDRA E"),
   (0x0a8f, "aGUJARATI LETTER EqAIjVOWEL CANDRA O"),
   (0x0a93, "aGUJARATI LETTER OqAUqKArHAqGArHAqNGAqCArHAqJArHAqNYAqTTAsHAqDDAsHAqNNAqTArHAqDArHAqNA"),
   (0x0aaa, "aGUJARATI LETTER PArHAqBArHAqMAqYAqRA"),
   (0x0ab2, "aGUJARATI LETTER LArLA"),
   (0x0ab5, "aGUJARATI LETTER VAqSHArSArAqHA"),
   (0x0abc, "aGUJARATI SIGN NUKTAoAVAGRAHAjVOWEL SIGN AAuIvIuUvUuVOCALIC RzIC RRuCANDRA E"),
   (0x0ac7, "aGUJARATI VOWEL SIGN EuAIuCANDRA O"),
   (0x0acb, "aGUJARATI VOWEL SIGN OuAUjSIGN VIRAMA"),
   (0x0ad0, "aGUJARATI OM"),
   (0x0ae0, "aGUJARATI LETTER VOCALIC RRyLLjVOWEL SIGN VOCALIC LzIC LL"),
   (0x0ae6, "aGUJARATI DIGIT ZEROpONEpTWOqHREEpFOURqIVEpSIXqEVENpEIGHTpNINEjABBREVIATION SIGNjRUPEE SIGN"),
   (0x0af9, "aGUJARATI LETTER ZHAjSIGN SUKUNpHADDAoMADDAHoTHREE-DOT NUKTA ABOVEoCIRCLE NUKTA ABOVEoTWO-CIRCLE NU" ++
     "KTA ABOVE"),
   (0x0b01, "aORIYA SIGN CANDRABINDUlANUSVARAlVISARGA"),
   (0x0b05, "aORIYA LETTER AoAnIoInUoUnVOCALIC RvL"),
   (0x0b0f, "aORIYA LETTER EnAI"),
   (0x0b13, "aORIYA LETTER OnAUnKAoHAnGAoHAnNGAnCAoHAnJAoHAnNYAnTTApHAnDDApHAnNNAnTAoHAnDAoHAnNA"),
   (0x0b2a, "aORIYA LETTER PAoHAnBAoHAnMAnYAnRA"),
   (0x0b32, "aORIYA LETTER LAoLA"),
   (0x0b35, "aORIYA LETTER VAnSHAoSAoAnHA"),
   (0x0b3c, "aORIYA SIGN NUKTAlAVAGRAHAgVOWEL SIGN AArIsIrUsUrVOCALIC RzRR"),
   (0x0b47, "aORIYA VOWEL SIGN ErAI"),
   (0x0b4b, "aORIYA VOWEL SIGN OrAUgSIGN VIRAMA"),
   (0x0b55, "aORIYA SIGN OVERLINEgAI LENGTH MARKhU LENGTH MARK"),
   (0x0b5c, "aORIYA LETTER RRAoHA"),
   (0x0b5f, "aORIYA LETTER YYAnVOCALIC RRvLLgVOWEL SIGN VOCALIC LzLL"),
   (0x0b66, "aORIYA DIGIT ZEROmONEmTWOnHREEmFOURnIVEmSIXnEVENmEIGHTmNINEgISSHARgLETTER WAgFRACTION ONE QUARTERtH" ++
     "ALFpTHREE QUARTERSpONE SIXTEENTHtEIGHTHpTHREE SIXTEENTHS"),
   (0x0b82, "aTAMIL SIGN ANUSVARAlVISARGA"),
   (0x0b85, "aTAMIL LETTER AoAnIoInUoU"),
   (0x0b8e, "aTAMIL LETTER EoEnAI"),
   (0x0b92, "aTAMIL LETTER OoOnAUnKA"),
   (0x0b99, "aTAMIL LETTER NGAnCA"),
   (0x0b9c, "aTAMIL LETTER JA"),
   (0x0b9e, "aTAMIL LETTER NYAnTTA"),
   (0x0ba3, "aTAMIL LETTER NNAnTA"),
   (0x0ba8, "aTAMIL LETTER NAoNNAnPA"),
   (0x0bae, "aTAMIL LETTER MAnYAnRAoRAnLAoLApLAnVAnSHAoSAoAnHA"),
   (0x0bbe, "aTAMIL VOWEL SIGN AArIsIrUsU"),
   (0x0bc6, "aTAMIL VOWEL SIGN EsErAI"),
   (0x0bca, "aTAMIL VOWEL SIGN OsOrAUgSIGN VIRAMA"),
   (0x0bd0, "aTAMIL OM"),
   (0x0bd7, "aTAMIL AU LENGTH MARK"),
   (0x0be6, "aTAMIL DIGIT ZEROmONEmTWOnHREEmFOURnIVEmSIXnEVENmEIGHTmNINEgNUMBER TENnONE HUNDREDrTHOUSANDgDAY SIG" ++
     "NgMONTH SIGNgYEAR SIGNgDEBIT SIGNgCREDIT SIGNgAS ABOVE SIGNgRUPEE SIGNgNUMBER SIGN"),
   (0x0c00, "aTELUGU SIGN COMBINING CANDRABINDU ABOVEnANDRABINDUmANUSVARAmVISARGAmCOMBINING ANUSVARA ABOVEhLETTE" ++
     "R ApAoIpIoUpUoVOCALIC RwL"),
   (0x0c0e, "aTELUGU LETTER EpEoAI"),
   (0x0c12, "aTELUGU LETTER OpOoAUoKApHAoGApHAoNGAoCApHAoJApHAoNYAoTTAqHAoDDAqHAoNNAoTApHAoDApHAoNA"),
   (0x0c2a, "aTELUGU LETTER PApHAoBApHAoMAoYAoRApRAoLApLAqLAoVAoSHApSApAoHA"),
   (0x0c3c, "aTELUGU SIGN NUKTAmAVAGRAHAhVOWEL SIGN AAsItIsUtUsVOCALIC Rz RR"),
   (0x0c46, "aTELUGU VOWEL SIGN EtEsAI"),
   (0x0c4a, "aTELUGU VOWEL SIGN OtOsAUhSIGN VIRAMA"),
   (0x0c55, "aTELUGU LENGTH MARKhAI LENGTH MARK"),
   (0x0c58, "aTELUGU LETTER TSAoDZAoRRRA"),
   (0x0c5d, "aTELUGU LETTER NAKAARA POLLU"),
   (0x0c60, "aTELUGU LETTER VOCALIC RRwLLhVOWEL SIGN VOCALIC Lz LL"),
   (0x0c66, "aTELUGU DIGIT ZEROnONEnTWOoHREEnFOURoIVEnSIXoEVENnEIGHTnNINE"),
   (0x0c77, "aTELUGU SIGN SIDDHAMhFRACTION DIGIT ZERO FOR ODD POWERS OF FOURwONE FOR ODD POWERS OF FOURwTWO FOR " ++
     "ODD POWERS OF FOURxHREE FOR ODD POWERS OF FOURwONE FOR EVEN POWERS OF FOURwTWO FOR EVEN POWERS OF FOURxHRE" ++
     "E FOR EVEN POWERS OF FOURhSIGN TUUMUaKANNADA SIGN SPACING CANDRABINDUnCANDRABINDUnANUSVARAnVISARGAnSIDDHAM" ++
     "iLETTER AqApIqIpUqUpVOCALIC RxL"),
   (0x0c8e, "aKANNADA LETTER EqEpAI"),
   (0x0c92, "aKANNADA LETTER OqOpAUpKAqHApGAqHApNGApCAqHApJAqHApNYApTTArHApDDArHApNNApTAqHApDAqHApNA"),
   (0x0caa, "aKANNADA LETTER PAqHApBAqHApMApYApRAqRApLAqLA"),
   (0x0cb5, "aKANNADA LETTER VApSHAqSAqApHA"),
   (0x0cbc, "aKANNADA SIGN NUKTAnAVAGRAHAiVOWEL SIGN AAtIuItUuUtVOCALIC RzC RR"),
   (0x0cc6, "aKANNADA VOWEL SIGN EuEtAI"),
   (0x0cca, "aKANNADA VOWEL SIGN OuOtAUiSIGN VIRAMA"),
   (0x0cd5, "aKANNADA LENGTH MARKiAI LENGTH MARK"),
   (0x0cdd, "aKANNADA LETTER NAKAARA POLLUpFA"),
   (0x0ce0, "aKANNADA LETTER VOCALIC RRxLLiVOWEL SIGN VOCALIC LzC LL"),
   (0x0ce6, "aKANNADA DIGIT ZEROoONEoTWOpHREEoFOURpIVEoSIXpEVENoEIGHToNINE"),
   (0x0cf1, "aKANNADA SIGN JIHVAMULIYAnUPADHMANIYA"),
   (0x0d00, "aMALAYALAM SIGN COMBINING ANUSVARA ABOVEqANDRABINDUpANUSVARApVISARGAkLETTER VEDIC ANUSVARArAsArIsIr" ++
     "UsUrVOCALIC RzL"),
   (0x0d0e, "aMALAYALAM LETTER EsErAI"),
   (0x0d12, "aMALAYALAM LETTER OsOrAUrKAsHArGAsHArNGArCAsHArJAsHArNYArTTAtHArDDAtHArNNArTAsHArDAsHArNAsNNArPAsHA" ++
     "rBAsHArMArYArRAsRArLAsLAtLArVArSHAsSAsArHArTTTAkSIGN VERTICAL BAR VIRAMApCIRCULAR VIRAMApAVAGRAHAkVOWEL SI" ++
     "GN AAvIwIvUwUvVOCALIC RzLIC RR"),
   (0x0d46, "aMALAYALAM VOWEL SIGN EwEvAI"),
   (0x0d4a, "aMALAYALAM VOWEL SIGN OwOvAUkSIGN VIRAMAkLETTER DOT REPHkSIGN PARA"),
   (0x0d54, "aMALAYALAM LETTER CHILLU MyYyLLLkAU LENGTH MARKkFRACTION ONE ONE-HUNDRED-AND-SIXTIETHxFORTIETHtTHRE" ++
     "E EIGHTIETHStONE TWENTIETHyENTHtTHREE TWENTIETHStONE FIFTHkLETTER ARCHAIC IIrVOCALIC RRzLLkVOWEL SIGN VOCA" ++
     "LIC LzLIC LL"),
   (0x0d66, "aMALAYALAM DIGIT ZEROqONEqTWOrHREEqFOURrIVEqSIXrEVENqEIGHTqNINEkNUMBER TENrONE HUNDREDvTHOUSANDkFRA" ++
     "CTION ONE QUARTERxHALFtTHREE QUARTERStONE SIXTEENTHxEIGHTHtTHREE SIXTEENTHSkDATE MARKkLETTER CHILLU NNzyRR" ++
     "yLzLyK"),
   (0x0d81, "aSINHALA SIGN CANDRABINDUnANUSVARAYAnVISARGAYA"),
   (0x0d85, "aSINHALA LETTER AYANNAqAYANNAqEYANNArEYANNApIYANNAqIYANNApUYANNAqUYANNApIRUYANNAsUYANNAqLUYANNAsUYA" ++
     "NNApEYANNAqEYANNApAIYANNApOYANNAqOYANNApAUYANNA"),
   (0x0d9a, "aSINHALA LETTER ALPAPRAANA KAYANNApMAHAAPRAANA KAYANNApALPAPRAANA GAYANNApMAHAAPRAANA GAYANNApKANTA" ++
     "JA NAASIKYAYApSANYAKA GAYANNApALPAPRAANA CAYANNApMAHAAPRAANA CAYANNApALPAPRAANA JAYANNApMAHAAPRAANA JAYANN" ++
     "ApTAALUJA NAASIKYAYAxSANYOOGA NAAKSIKYAYApSANYAKA JAYANNApALPAPRAANA TTAYANNApMAHAAPRAANA TTAYANNApALPAPRA" ++
     "ANA DDAYANNApMAHAAPRAANA DDAYANNAqUURDHAJA NAYANNApSANYAKA DDAYANNApALPAPRAANA TAYANNApMAHAAPRAANA TAYANNA" ++
     "pALPAPRAANA DAYANNApMAHAAPRAANA DAYANNApDANTAJA NAYANNA"),
   (0x0db3, "aSINHALA LETTER SANYAKA DAYANNApALPAPRAANA PAYANNApMAHAAPRAANA PAYANNApALPAPRAANA BAYANNApMAHAAPRAA" ++
     "NA BAYANNArYANNApAMBA BAYANNApYAYANNApRAYANNA"),
   (0x0dbd, "aSINHALA LETTER DANTAJA LAYANNA"),
   (0x0dc0, "aSINHALA LETTER VAYANNApTAALUJA SAYANNApMUURDHAJA SAYANNApDANTAJA SAYANNApHAYANNApMUURDHAJA LAYANNA" ++
     "pFAYANNA"),
   (0x0dca, "aSINHALA SIGN AL-LAKUNA"),
   (0x0dcf, "aSINHALA VOWEL SIGN AELA-PILLAtKETTI AEDA-PILLAtDIGA AEDA-PILLAtKETTI IS-PILLAtDIGA IS-PILLAtKETTI " ++
     "PAA-PILLA"),
   (0x0dd6, "aSINHALA VOWEL SIGN DIGA PAA-PILLA"),
   (0x0dd8, "aSINHALA VOWEL SIGN GAETTA-PILLAtKOMBUVAtDIGA KOMBUVAtKOMBU DEKAyVA HAA AELA-PILLAzA HAA DIGA AELA-" ++
     "PILLAzA HAA GAYANUKITTAtGAYANUKITTA"),
   (0x0de6, "aSINHALA LITH DIGIT ZEROtONEtTWOuHREEtFOURuIVEtSIXuEVENtEIGHTtNINE"),
   (0x0df2, "aSINHALA VOWEL SIGN DIGA GAETTA-PILLAzAYANUKITTAiPUNCTUATION KUNDDALIYA"),
   (0x0e01, "aTHAI CHARACTER KO KAIqHO KHAIvUATvWAIvONtRAKHANGpNGO NGUpCHO CHANvINGvANGpSO SOpCHO CHOEpYO YINGpD" ++
     "O CHADApTO PATAKqHO THANtNANGMONTHOtPHUTHAOpNO NENpDO DEKpTO TAOqHO THUNGvAHANvONGpNO NUpBO BAIMAIpPO PLAq" ++
     "HO PHUNGpFO FApPHO PHANpFO FANpPHO SAMPHAOpMO MApYO YAKpRO RUAqUpLO LINGqUpWO WAENpSO SALAsRUSIsSUApHO HIP" ++
     "pLO CHULApO ANGpHO NOKHUKpPAIYANNOIpSARA ApMAI HAN-AKATpSARA AAvMuIvIuUEwEvvUpPHINTHU"),
   (0x0e3f, "aTHAI CURRENCY SYMBOL BAHTgHARACTER SARA EuAEuOuAI MAIMUANzIMALAIpLAKKHANGYAOpMAIYAMOKsTAIKHUs EKtT" ++
     "HOuRItCHATTAWApTHANTHAKHATpNIKHAHITpYAMAKKANpFONGMANfDIGIT ZEROlONElTWOmHREElFOURmIVElSIXmEVENlEIGHTlNINEf" ++
     "CHARACTER ANGKHANKHUpKHOMUT"),
   (0x0e81, "aLAO LETTER KOmHO SUNG"),
   (0x0e84, "aLAO LETTER KHO TAM"),
   (0x0e86, "aLAO LETTER PALI GHAlNGOlCOlPALI CHAlSO TAM"),
   (0x0e8c, "aLAO LETTER PALI JHAlNYOlPALI NYAqTTAsHAqDDAsHAqNNAlDOlTOmHO SUNGpTAMlPALI DHAlNOlBOlPOmHO SUNGlFO " ++
     "TAMlPHO TAMlFO SUNGlPALI BHAlMOlYOlLO LING"),
   (0x0ea5, "aLAO LETTER LO LOOT"),
   (0x0ea7, "aLAO LETTER WOlSANSKRIT SHAvSAmO SUNGlHO SUNGlPALI LLAlOlHO TAMeELLIPSISeVOWEL SIGN ApMAI KANpAAqMp" ++
     "IqIpYqYpUqUeSIGN PALI VIRAMAeVOWEL SIGN MAI KONeSEMIVOWEL SIGN LOtNYO"),
   (0x0ec0, "aLAO VOWEL SIGN EqIpOpAYqI"),
   (0x0ec6, "aLAO KO LA"),
   (0x0ec8, "aLAO TONE MAI EKnTHOoInCATAWAeCANCELLATION MARKeNIGGAHITA"),
   (0x0ed0, "aLAO DIGIT ZEROkONEkTWOlHREEkFOURlIVEkSIXlEVENkEIGHTkNINE"),
   (0x0edc, "aLAO HO NOhMOeLETTER KHMU GOqNYO"),
   (0x0f00, "aTIBETAN SYLLABLE OMiMARK GTER YIG MGO TRUNCATED Az -UM RNAM BCAD MAz -UM GTER TSHEG MAnINITIAL YIG" ++
     " MGO MDUN MAnCLOSING YIG MGO SGAB MAoARET YIG MGO PHUR SHAD MAnYIG MGO TSHEG SHAD MAnSBRUL SHADnBSKUR YIG " ++
     "MGOoKA- SHOG YIG MGOnINTERSYLLABIC TSHEGnDELIMITER TSHEG BSTARnSHADnNYIS SHADnTSHEG SHADnNYIS TSHEG SHADnR" ++
     "IN CHEN SPUNGS SHADoGYA GRAM SHADnCARET -DZUD RTAGS ME LONG CANnGTER TSHEGiLOGOTYPE SIGN CHAD RTAGSwLHAG R" ++
     "TAGSiASTROLOGICAL SIGN SGRA GCAN -CHAR RTAGSz -KHYUD PAz SDONG TSHUGSiSIGN RDEL DKAR GCIGyNYISySUMsNAG GCI" ++
     "GxNYISsDKAR RDEL NAGiDIGIT ZEROoONEoTWOpHREEoFOURpIVEoSIXpEVENoEIGHToNINEoHALF ONEtTWOuHREEtFOURuIVEtSIXuE" ++
     "VENtEIGHTtNINEtZEROiMARK BSDUS RTAGSnNGAS BZUNG NYI ZLAnCARET -DZUD RTAGS BZHI MIG CANnNGAS BZUNG SGOR RTA" ++
     "GSnCHE MGOnTSA -PHRUnGUG RTAGS GYONzASnANG KHANG GYONzASiSIGN YAR TSHESnMAR TSHESiLETTER KAqHApGAqHApNGApC" ++
     "AqHApJA"),
   (0x0f49, "aTIBETAN LETTER NYApTTArHApDDArHApNNApTAqHApDAqHApNApPAqHApBAqHApMApTSArHApDZArHApWApZHAqAp-ApYApRA" ++
     "pLApSHAqSAqApHApApKSSApFIXED-FORM RApKKApRRA"),
   (0x0f71, "aTIBETAN VOWEL SIGN AAtIuItUuUtVOCALIC RzC RRzC LzC LLtEuEtOuOiSIGN RJES SU NGA ROoNAM BCADiVOWEL S" ++
     "IGN REVERSED IzED IIiSIGN NYI ZLA NAA DAnSNA LDANiMARK HALANTAnPALUTAiSIGN LCI RTAGSnYANG RTAGSnLCE TSA CA" ++
     "NnMCHU CANnGRU CAN RGYINGSrMED RGYINGSnINVERTED MCHU CANjUBJOINED SIGN LCE TSA CANxMCHU CANxINVERTED MCHU " ++
     "CANsLETTER KAzKHAzGAzGHAzNGAzCAzCHAzJA"),
   (0x0f99, "aTIBETAN SUBJOINED LETTER NYAzTTAzTTHAzDDAzDDHAzNNAzTAzTHAzDAzDHAzNAzPAzPHAzBAzBHAzMAzTSAzTSHAzDZAz" ++
     "DZHAzWAzZHAzZAz-AzYAzRAzLAzSHAzSSAzSAzHAzAzKSSAzFIXED-FORM WAzFIXED-FORM YAzFIXED-FORM RA"),
   (0x0fbe, "aTIBETAN KU RU KHAr BZHI MIG CANiCANTILLATION SIGN HEAVY BEATz LIGHT BEATz CANG TE-Uz SBUB -CHALiSY" ++
     "MBOL DRIL BUpRDO RJEpPADMA GDANpRDO RJE RGYA GRAMpPHUR PApNOR BUv NYIS -KHYILwGSUM -KHYILwBZHI -KHYIL"),
   (0x0fce, "aTIBETAN SIGN RDEL NAG RDEL DKARwGSUMiMARK BSKA- SHOG GI MGO RGYANnMNYAM YIG GI MGO RGYANnNYIS TSHE" ++
     "GnINITIAL BRDA RNYING YIG MGO MDUN MAnCLOSING BRDA RNYING YIG MGO SGAB MAaRIGHT-FACING SVASTI SIGNaLEFT-FA" ++
     "CING SVASTI SIGNaRIGHT-FACING SVASTI SIGN WITH DOTSaLEFT-FACING SVASTI SIGN WITH DOTSaTIBETAN MARK LEADING" ++
     " MCHAN RTAGSnTRAILING MCHAN RTAGS"),
   (0x1000, "aMYANMAR LETTER KAqHApGAqHApNGApCAqHApJAqHApNYAqNYApTTArHApDDArHApNNApTAqHApDAqHApNApPAqHApBAqHApMA" ++
     "pYApRApLApWApSApHApLLApApSHAN ApIqIpUqUpEpMON EpOpAUiVOWEL SIGN TALL AAtAAtIuItUuUtEtAItMON IIxOtE ABOVEiS" ++
     "IGN ANUSVARAnDOT BELOWnVISARGApRAMAnASATiCONSONANT SIGN MEDIAL YAzDIAL RAzDIAL WAzDIAL HAiLETTER GREAT SAi" ++
     "DIGIT ZEROoONEoTWOpHREEoFOURpIVEoSIXpEVENoEIGHToNINEiSIGN LITTLE SECTIONnSECTIONjYMBOL LOCATIVEpCOMPLETEDp" ++
     "AFOREMENTIONEDpGENITIVEiLETTER SHAqSApVOCALIC RyRxLyLiVOWEL SIGN VOCALIC RzC RRzC LzC LLiLETTER MON NGAtJH" ++
     "AtBBAvEiCONSONANT SIGN MON MEDIAL NAzN MEDIAL MAzN MEDIAL LAiLETTER SGAW KAREN SHAiVOWEL SIGN SGAW KAREN E" ++
     "UiTONE MARK SGAW KAREN HATHIzREN KE PHOiLETTER WESTERN PWO KAREN THAzO KAREN PWAiVOWEL SIGN WESTERN PWO KA" ++
     "REN EUzN PWO KAREN UEiSIGN WESTERN PWO KAREN TONE-1zKAREN TONE-2zKAREN TONE-3zKAREN TONE-4zKAREN TONE-5iLE" ++
     "TTER EASTERN PWO KAREN NNAzO KAREN YWAzO KAREN GHWAiVOWEL SIGN GEBA KAREN ItKAYAH OEzUzEEiLETTER SHAN KAvH" ++
     "AuGAuCAuZAuNYAuDAuNAuPHAuFAuBAuTHAuHAiCONSONANT SIGN SHAN MEDIAL WAiVOWEL SIGN SHAN AAyEz ABOVEyFINAL YiSI" ++
     "GN SHAN TONE-2x3x5x6sCOUNCIL TONE-2z TONE-3z EMPHATIC TONEiLETTER RUMAI PALAUNG FAiSIGN RUMAI PALAUNG TONE" ++
     "-5jHAN DIGIT ZEROtONEtTWOuHREEtFOURuIVEtSIXuEVENtEIGHTtNINEjIGN KHAMTI TONE-1z3iVOWEL SIGN AITON AzAIiSYMB" ++
     "OL SHAN ONEuEXCLAMATIONaGEORGIAN CAPITAL LETTER ANyBANyGANyDONyENyVINyZENyTANyINyKANyLASyMANyNARyONyPARyZH" ++
     "ARyRAEySANyTARyUNyPHARyKHARyGHANyQARySHINyCHINzANyJILyCILzHARyXANyJHANyHAEzEzIEyWEyHARzOE"),
   (0x10c7, "aGEORGIAN CAPITAL LETTER YN"),
   (0x10cd, "aGEORGIAN CAPITAL LETTER AEN"),
   (0x10d0, "aGEORGIAN LETTER ANqBANqGANqDONqENqVINqZENqTANqINqKANqLASqMANqNARqONqPARqZHARqRAEqSANqTARqUNqPHARqK" ++
     "HARqGHANqQARqSHINqCHINrANqJILqCILrHARqXANqJHANqHAErErIEqWEqHARrOEqFIqYNqELIFIqTURNED GANqAINjPARAGRAPH SEP" ++
     "ARATORaMODIFIER LETTER GEORGIAN NARaGEORGIAN LETTER AENqHARD SIGNqLABIAL SIGNaHANGUL CHOSEONG KIYEOKqSSANG" ++
     "KIYEOKqNIEUNqTIKEUTqSSANGTIKEUTqRIEULqMIEUMqPIEUPqSSANGPIEUPrIOSrSANGSIOSqIEUNGqCIEUCqSSANGCIEUCqCHIEUCHqK" ++
     "HIEUKHqTHIEUTHqPHIEUPHqHIEUHqNIEUN-KIYEOKqSSANGNIEUNqNIEUN-TIKEUTwPIEUPqTIKEUT-KIYEOKqRIEUL-NIEUNqSSANGRIE" ++
     "ULqRIEUL-HIEUHqKAPYEOUNRIEULqMIEUM-PIEUPqKAPYEOUNMIEUMqPIEUP-KIYEOKwNIEUNwTIKEUTwSIOSzS-KIYEOKzS-TIKEUTzS-" ++
     "PIEUPxSANGSIOSxIOS-CIEUCwCIEUCxHIEUCHwTHIEUTHwPHIEUPHqKAPYEOUNPIEUPySSANGPIEUPqSIOS-KIYEOKvNIEUNvTIKEUTvRI" ++
     "EULvMIEUMvPIEUPzP-KIYEOKvSSANGSIOSvIEUNGvCIEUCwHIEUCHvKHIEUKHvTHIEUTHvPHIEUPHvHIEUHqCHITUEUMSIOSzSANGSIOSr" ++
     "EONGCHIEUMSIOSzUMSSANGSIOSqPANSIOSqIEUNG-KIYEOKwTIKEUTwMIEUMwPIEUPwSIOSwPANSIOSqSSANGIEUNGqIEUNG-CIEUCxHIE" ++
     "UCHwTHIEUTHwPHIEUPHqYESIEUNGqCIEUC-IEUNGrHITUEUMCIEUCySSANGCIEUCrEONGCHIEUMCIEUCzUMSSANGCIEUCrHIEUCH-KHIEU" ++
     "KHyHIEUHtTUEUMCHIEUCHrEONGCHIEUMCHIEUCHqPHIEUPH-PIEUPqKAPYEOUNPHIEUPHqSSANGHIEUHqYEORINHIEUHqKIYEOK-TIKEUT" ++
     "qNIEUN-SIOSwCIEUCwHIEUHqTIKEUT-RIEULqFILLERhJUNGSEONG FILLERrAsErYAtErEOsrYEOtrOrWAtErOErYOrUrWEOtsIrYUrEU" ++
     "rYIrIrA-OtUrYA-OuYOrEO-OuUuEUrYEO-OvUrO-EOutYEtOtUrYO-YAwEvEOuOuIrU-AuEtEO-EUtYEtUrYU-AuEOvuYEOwuUuIrEU-Uu" ++
     "EUrYI-UrI-AtYAtOtUtEUtARAEArARAEAw-EOxUxIrSSANGARAEArA-EUrYA-UsEO-YArO-YAvEiONGSEONG KIYEOKrSSANGKIYEOKrKI" ++
     "YEOK-SIOSrNIEUNw-CIEUCxHIEUHrTIKEUTrRIEULw-KIYEOKxMIEUMxPIEUPxSIOSxTHIEUTHxPHIEUPHxHIEUHrMIEUMrPIEUPw-SIOS" ++
     "rSIOSsSANGSIOSrIEUNGrCIEUCsHIEUCHrKHIEUKHrTHIEUTHrPHIEUPHrHIEUHrKIYEOK-RIEULySIOS-KIYEOKrNIEUN-KIYEOKxTIKE" ++
     "UTxSIOSxPANSIOSxTHIEUTHrTIKEUT-KIYEOKyRIEULrRIEUL-KIYEOK-SIOSxNIEUNxTIKEUTzKEUT-HIEUHrSSANGRIEULrRIEUL-MIE" ++
     "UM-KIYEOK"),
   (0x11d2, "aHANGUL JONGSEONG RIEUL-MIEUM-SIOSxPIEUP-SIOSzEUP-HIEUHxKAPYEOUNPIEUPxSSANGSIOSxPANSIOSxKHIEUKHxYEO" ++
     "RINHIEUHrMIEUM-KIYEOKxRIEULxPIEUPxSIOSySANGSIOSxPANSIOSxCHIEUCHxHIEUHrKAPYEOUNMIEUMrPIEUP-RIEULxPHIEUPHxHI" ++
     "EUHrKAPYEOUNPIEUPrSIOS-KIYEOKwTIKEUTwRIEULwPIEUPrPANSIOSrIEUNG-KIYEOKxSSANGKIYEOKrSSANGIEUNGrIEUNG-KHIEUKH" ++
     "rYESIEUNGz-SIOSz-PANSIOSrPHIEUPH-PIEUPrKAPYEOUNPHIEUPHrHIEUH-NIEUNxRIEULxMIEUMxPIEUPrYEORINHIEUHrKIYEOK-NI" ++
     "EUNyPIEUPyCHIEUCHyKHIEUKHyHIEUHrSSANGNIEUNaETHIOPIC SYLLABLE HAtUtItAAtEEutOuAsLAtUtItAAtEEutOtWAsHHAuUuIu" ++
     "AAuEEvuOuWAsMAtUtItAAtEEutOtWAsSZAuUuIuAAuEEvuOuWAsRAtUtItAAtEEutOtWAsSAtUtItAAtEEutOtWAtHAuUuIuAAuEEvuOuW" ++
     "AsQAtUtItAAtEEutOuAtWA"),
   (0x124a, "aETHIOPIC SYLLABLE QWIuAAuEEv"),
   (0x1250, "aETHIOPIC SYLLABLE QHAuUuIuAAuEEvuO"),
   (0x1258, "aETHIOPIC SYLLABLE QHWA"),
   (0x125a, "aETHIOPIC SYLLABLE QHWIvAAvEEw"),
   (0x1260, "aETHIOPIC SYLLABLE BAtUtItAAtEEutOtWAsVAtUtItAAtEEutOtWAsTAtUtItAAtEEutOtWAsCAtUtItAAtEEutOtWAsXAtU" ++
     "tItAAtEEutOuAtWA"),
   (0x128a, "aETHIOPIC SYLLABLE XWIuAAuEEv"),
   (0x1290, "aETHIOPIC SYLLABLE NAtUtItAAtEEutOtWAtYAuUuIuAAuEEvuOuWAsGLOTTAL Az Uz Iz AAz EEz Ez Oz WAsKAtUtItA" ++
     "AtEEutOuAtWA"),
   (0x12b2, "aETHIOPIC SYLLABLE KWIuAAuEEv"),
   (0x12b8, "aETHIOPIC SYLLABLE KXAuUuIuAAuEEvuO"),
   (0x12c0, "aETHIOPIC SYLLABLE KXWA"),
   (0x12c2, "aETHIOPIC SYLLABLE KXWIvAAvEEw"),
   (0x12c8, "aETHIOPIC SYLLABLE WAtUtItAAtEEutOuAsPHARYNGEAL AzEAL UzEAL IzEAL AAzEAL EEzEAL EzEAL O"),
   (0x12d8, "aETHIOPIC SYLLABLE ZAtUtItAAtEEutOtWAtHAuUuIuAAuEEvuOuWAsYAtUtItAAtEEutOuAsDAtUtItAAtEEutOtWAtDAuUu" ++
     "IuAAuEEvuOuWAsJAtUtItAAtEEutOtWAsGAtUtItAAtEEutOuAtWA"),
   (0x1312, "aETHIOPIC SYLLABLE GWIuAAuEEv"),
   (0x1318, "aETHIOPIC SYLLABLE GGAuUuIuAAuEEvuOuWAAsTHAuUuIuAAuEEvuOuWAsCHAuUuIuAAuEEvuOuWAsPHAuUuIuAAuEEvuOuWA" ++
     "sTSAuUuIuAAuEEvuOuWAtZAuUuIuAAuEEvuOvAsFAtUtItAAtEEutOtWAsPAtUtItAAtEEutOtWAsRYAsMYAsFYA"),
   (0x135d, "aETHIOPIC COMBINING GEMINATION AND VOWEL LENGTH MARKtVOWEL LENGTH MARKtGEMINATION MARKjSECTION MARK" ++
     "jWORDSPACEjFULL STOPjCOMMAjSEMICOLONjCOLONjPREFACE COLONjQUESTION MARKjPARAGRAPH SEPARATORjDIGIT ONEpTWOqH" ++
     "REEpFOURqIVEpSIXqEVENpEIGHTpNINEjNUMBER TENrWENTYrHIRTYqFORTYrIFTYqSIXTYrEVENTYqEIGHTYqNINETYqHUNDREDqTEN " ++
     "THOUSAND"),
   (0x1380, "aETHIOPIC SYLLABLE SEBATBEIT MWAsMWIuEEvsSEBATBEIT BWAsBWIuEEvsSEBATBEIT FWAsFWIuEEvsSEBATBEIT PWAs" ++
     "PWIuEEvjTONAL MARK YIZETuDERETuRIKRIKuSHORT RIKRIKuDIFATuKENATuCHIRETuHIDETuDERET-HIDETuKURT"),
   (0x13a0, "aCHEROKEE LETTER AqEqIqOqUqVqGAqKAqGErIrOrUrVqHArErIrOrUrVqLArErIrOrUrVqMArErIrOrUqNAqHNAqNAHrErIrO" ++
     "rUrVqQUAsEsIsOsUsVqSArrErIrOrUrVqDAqTAqDEqTEqDIqTIqDOrUrVrLAqTLAsEsIsOsUsVrSAsEsIsOsUsVqWArErIrOrUrVqYArEr" ++
     "IrOrUrVqMV"),
   (0x13f8, "aCHEROKEE SMALL LETTER YExIxOxUxVwMV")]

end AttrsUpgrade.Text
