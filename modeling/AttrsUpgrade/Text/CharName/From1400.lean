/-!
# Names of characters from U+1400 to U+1FFF
-/

namespace AttrsUpgrade.Text

/-- Runs of names in the short form that `nameIndex?` reads. -/
def nameRuns1400 : List (Nat × String) :=
  [(0x1400, "aCANADIAN SYLLABICS HYPHENtEtAAItIuItOuOtY-CREE OOtCARRIER EEzR ItAuAtWEvST-CREE WEuIuEST-CREE WIuI" ++
     "IuEST-CREE WIIuOuEST-CREE WOuOOuEST-CREE WOOtNASKAPI WOOtWAuEST-CREE WAuAAuEST-CREE WAAtNASKAPI WAAtAItY-C" ++
     "REE WtGLOTTAL STOPtFINAL ACUTEzGRAVEzBOTTOM HALF RINGzTOP HALF RINGzRIGHT HALF RINGzRINGzDOUBLE ACUTEzDOUB" ++
     "LE SHORT VERTICAL STROKESzMIDDLE DOTzSHORT HORIZONTAL STROKEzPLUSzDOWN TACKtENtINtONtANtPEuAAIuIvIuOvOtY-C" ++
     "REE POOtCARRIER HEEzR HItPAvAuWEtWEST-CREE PWEtPWItWEST-CREE PWItPWIItWEST-CREE PWIItPWOtWEST-CREE PWOtPWO" ++
     "OtWEST-CREE PWOOtPWAtWEST-CREE PWAtPWAAtWEST-CREE PWAAtY-CREE PWAAtPtWEST-CREE PtCARRIER HtTEuAAIuIvIuOvOt" ++
     "Y-CREE TOOtCARRIER DEEzR DItTAvAuWEtWEST-CREE TWEtTWItWEST-CREE TWItTWIItWEST-CREE TWIItTWOtWEST-CREE TWOt" ++
     "TWOOtWEST-CREE TWOOtTWAtWEST-CREE TWAtTWAAtWEST-CREE TWAAtNASKAPI TWAAtTuTEvIvOvAtKEuAAIuIvIuOvOtY-CREE KO" ++
     "OtKAvAuWEtWEST-CREE KWEtKWItWEST-CREE KWItKWIItWEST-CREE KWIItKWOtWEST-CREE KWOtKWOOtWEST-CREE KWOOtKWAtWE" ++
     "ST-CREE KWAtKWAAtWEST-CREE KWAAtNASKAPI KWAAtKuWtSOUTH-SLAVEY KEHzSLAVEY KIHzSLAVEY KOHzSLAVEY KAHtCEuAAIu" ++
     "IvIuOvOtY-CREE COOtCAvAuWEtWEST-CREE CWEtCWItWEST-CREE CWItCWIItWEST-CREE CWIItCWOtWEST-CREE CWOtCWOOtWEST" ++
     "-CREE CWOOtCWAtWEST-CREE CWAtCWAAtWEST-CREE CWAAtNASKAPI CWAAtCtSAYISI THtMEuAAIuIvIuOvOtY-CREE MOOtMAvAuW" ++
     "EtWEST-CREE MWEtMWItWEST-CREE MWItMWIItWEST-CREE MWIItMWOtWEST-CREE MWOtMWOOtWEST-CREE MWOOtMWAtWEST-CREE " ++
     "MWAtMWAAtWEST-CREE MWAAtNASKAPI MWAAtMtWEST-CREE MtMHtATHAPASCAN MtSAYISI MtNEuAAIuIvIuOvOtY-CREE NOOtNAvA" ++
     "uWEtWEST-CREE NWEtNWAtWEST-CREE NWAtNWAAtWEST-CREE NWAAtNASKAPI NWAAutCARRIER NGtNHtLEuAAIuIvIuOvOtY-CREE " ++
     "LOOtLAvAuWEtWEST-CREE LWEtLWItWEST-CREE LWItLWIItWEST-CREE LWIItLWOtWEST-CREE LWOtLWOOtWEST-CREE LWOOtLWAt" ++
     "WEST-CREE LWAtLWAAtWEST-CREE LWAAtLtWEST-CREE LtMEDIAL LtSEuAAIuIvIuOvOtY-CREE SOOtSAvAuWEtWEST-CREE SWEtS" ++
     "WItWEST-CREE SWI"),
   (0x14fa, "aCANADIAN SYLLABICS SWIItWEST-CREE SWIItSWOtWEST-CREE SWOtSWOOtWEST-CREE SWOOtSWAtWEST-CREE SWAtSWA" ++
     "AtWEST-CREE SWAAtNASKAPI SWAAtStATHAPASCAN StSWtBLACKFOOT StMOOSE-CREE SKtNASKAPI SKWzI S-WzI SPWAzI STWAz" ++
     "I SKWAzI SCWAtSHEvIwIvOwOvAwAvWEtWEST-CREE SHWEtSHWItWEST-CREE SHWItSHWIItWEST-CREE SHWIItSHWOtWEST-CREE S" ++
     "HWOtSHWOOtWEST-CREE SHWOOtSHWAtWEST-CREE SHWAtSHWAAtWEST-CREE SHWAAtSHtYEuAAIuIvIuOvOu-CREE YOOuAvAuWEtWES" ++
     "T-CREE YWEtYWItWEST-CREE YWItYWIItWEST-CREE YWIItYWOtWEST-CREE YWOtYWOOtWEST-CREE YWOOtYWAtWEST-CREE YWAtY" ++
     "WAAtWEST-CREE YWAAtNASKAPI YWAAtYtBIBLE-CREE YtWEST-CREE YtSAYISI YItREu-CREE REtWEST-CREE LEtRAAIuIvIuOvO" ++
     "tWEST-CREE LOtRAvAtWEST-CREE LAtRWAAtWEST-CREE RWAAtRtWEST-CREE RtMEDIAL RtFEuAAIuIvIuOvOuAvAuWAAtWEST-CRE" ++
     "E FWAAtFtTHEtN-CREE THEtTHItN-CREE THItTHIItN-CREE THIItTHOwOvAwAvWAAtWEST-CREE THWAAtTHuTHEwIwOwAwuYEvIvO" ++
     "vAtNUNAVIK HEzK HIzK HIIzK HOzK HOOzK HAzK HAAzK HyUT HtHKtQAAIuIvIuOvOuAvAutTLHEwIwOwAtWEST-CREE REzREE R" ++
     "IzREE ROzREE RAtNGAAIvIwIvOwOvAwAvuNGtSAYISI SHEz SHIz SHOz SHAtWOODS-CREE THEzCREE THIzCREE THOzCREE THAz" ++
     "CREE THtLHIwIvOwOvAwAvtTH-CREE THEzE THIzE THIIzE THOzE THOOzE THAzE THAAzE THtAIVILIK BtBLACKFOOT EzOOT I" ++
     "zOOT OzOOT AzOOT WEzOOT WIzOOT WOzOOT WAzOOT NEzOOT NIzOOT NOzOOT NAzOOT KEzOOT KIzOOT KOzOOT KAtSAYISI HE" ++
     "z HIz HOz HAtCARRIER GHUzR GHOzR GHEzR GHEEzR GHIzR GHAzR RUzR ROzR REzR REEzR RIzR RAzR WUzR WOzR WEzR WE" ++
     "EzR WIzR WAzR HWUzR HWOzR HWEzR HWEEzR HWIzR HWAzR THUzR THOzR THEzR THEEzR THIzR THAzR TTUzR TTOzR TTEzR " ++
     "TTEEzR TTIzR TTAzR PUzR POzR PEzR PEEzR PIzR PAzR PzR GUzR GOzR GEzR GEEzR GIzR GAzR KHUzR KHOzR KHEzR KHE" ++
     "EzR KHIzR KHAzR KKUzR KKOzR KKEzR KKEEzR KKIzR KKAzR KKzR NUzR NOzR NEzR NEEzR NIzR NAzR MUzR MOzR MEzR ME" ++
     "EzR MIzR MAzR YUzR YOzR YEzR YEEzR YIzR YAzR JUtSAYISI JUtCARRIER JOzR JEzR JEEzR JItSAYISI JItCARRIER JAz" ++
     "R JJU"),
   (0x161d, "aCANADIAN SYLLABICS CARRIER JJOzR JJEzR JJEEzR JJIzR JJAzR LUzR LOzR LEzR LEEzR LIzR LAzR DLUzR DLO" ++
     "zR DLEzR DLEEzR DLIzR DLAzR LHUzR LHOzR LHEzR LHEEzR LHIzR LHAzR TLHUzR TLHOzR TLHEzR TLHEEzR TLHIzR TLHAz" ++
     "R TLUzR TLOzR TLEzR TLEEzR TLIzR TLAzR ZUzR ZOzR ZEzR ZEEzR ZIzR ZAzR ZzR INITIAL ZzR DZUzR DZOzR DZEzR DZ" ++
     "EEzR DZIzR DZAzR SUzR SOzR SEzR SEEzR SIzR SAzR SHUzR SHOzR SHEzR SHEEzR SHIzR SHAzR SHzR TSUzR TSOzR TSEz" ++
     "R TSEEzR TSIzR TSAzR CHUzR CHOzR CHEzR CHEEzR CHIzR CHAzR TTSUzR TTSOzR TTSEzR TTSEEzR TTSIzR TTSAuHI SIGN" ++
     "tFULL STOPtQAItNGAIuNGIxIwOxOwAxAtWOODS-CREE THWEEzCREE THWIzCREE THWIIzCREE THWOzCREE THWOOzCREE THWAzCRE" ++
     "E THWAAzCREE FINAL THtBLACKFOOT WaOGHAM SPACE MARKgLETTER BEITHnLUISnFEARNnSAILnNIONnUATHnDAIRnTINNEnCOLLo" ++
     "EIRTnMUINnGORTnNGEADALnSTRAIFnRUISnAILMnONNnURnEADHADHnIODHADHnEABHADHnORnUILLEANNnIFINnEAMHANCHOLLnPEITHg" ++
     "FEATHER MARKgREVERSED FEATHER MARK"),
   (0x16a0, "aRUNIC LETTER FEHU FEOH FE FnVnURUZ UR UnYRonWnTHURISAZ THURS THORNnETHnANSUZ AnOS OnAC AoESCnLONG-" ++
     "BRANCH-OSS OnSHORT-TWIG-OSS OnOoEoNnRAIDO RAD REID RnKAUNAnCENnKAUN KnGnENGnGEBO GYFU GoARnWUNJO WYNN WnHA" ++
     "GLAZ HpEGL HnLONG-BRANCH-HAGALL HnSHORT-TWIG-HAGALL HnNAUDIZ NYD NAUD NnSHORT-TWIG-NAUD NnDOTTED-NnISAZ IS" ++
     " ISS InEnJERAN JnGERnLONG-BRANCH-AR AEnSHORT-TWIG-AR AnIWAZ EOHnPERTHO PEORTH PnALGIZ EOLHXnSOWILO SoIGEL " ++
     "LONG-BRANCH-SOL SoHORT-TWIG-SOL SnCnZnTIWAZ TIR TYR TnSHORT-TWIG-TYR TnDnBERKANAN BEORC BJARKAN BnSHORT-TW" ++
     "IG-BJARKAN BnDOTTED-PnOPEN-PnEHWAZ EH EnMANNAZ MAN MnLONG-BRANCH-MADR MnSHORT-TWIG-MADR MnLAUKAZ LAGU LOGR" ++
     " LnDOTTED-LnINGWAZqnDAGAZ DAEG DnOTHALAN ETHEL OnEARnIORnCWEORTHoALCoEALCnSTANnLONG-BRANCH-YRnSHORT-TWIG-Y" ++
     "RnICELANDIC-YRnQnXgSINGLE PUNCTUATIONgMULTIPLE PUNCTUATIONgCROSS PUNCTUATIONgARLAUG SYMBOLgTVIMADUR SYMBOL" ++
     "gBELGTHOR SYMBOLgLETTER KnSHnOOnFRANKS CASKET OSzT ISzT EHzT ACzT AESC"),
   (0x1700, "aTAGALOG LETTER ApIpUpKApGApNGApTApDApNApPApBApMApYApRApLApWApSApHAiVOWEL SIGN ItUiSIGN VIRAMAnPAMU" ++
     "DPOD"),
   (0x171f, "aTAGALOG LETTER ARCHAIC RAaHANUNOO LETTER ApIpUpKApGApNGApTApDApNApPApBApMApYApRApLApWApSApHAiVOWEL" ++
     " SIGN ItUiSIGN PAMUDPODaPHILIPPINE SINGLE PUNCTUATIONlDOUBLE PUNCTUATION"),
   (0x1740, "aBUHID LETTER AnInUnKAnGAnNGAnTAnDAnNAnPAnBAnMAnYAnRAnLAnWAnSAnHAgVOWEL SIGN IrU"),
   (0x1760, "aTAGBANWA LETTER AqIqUqKAqGAqNGAqTAqDAqNAqPAqBAqMAqYA"),
   (0x176e, "aTAGBANWA LETTER LAqWAqSA"),
   (0x1772, "aTAGBANWA VOWEL SIGN IuU"),
   (0x1780, "aKHMER LETTER KAoHAoOoHOnNGOnCAoHAoOoHOnNYOnDAnTTHAnDOnTTHOnNNOnTAoHAoOoHOnNOnBAnPHAoOoHOnMOnYOnROn" ++
     "LOnVOnSHAoSOoAnHAnLAnQAgINDEPENDENT VOWEL QAQzAAzIzIIzUzUKzUUzUUVyRYzYYyLYzYYyQEzAIzOO TYPE ONEzOO TYPE TW" ++
     "OzAUgVOWEL INHERENT AQwAmSIGN AArIsIrYsYrUsUsArOErYArIErErAEsIrOOrAUgSIGN NIKAHITlREAHMUKlYUUKALEAPINTUlMU" ++
     "USIKATOANlTRIISAPlBANTOClROBATlTOANDAKHIATlKAKABATlAHSDAlSAMYOK SANNYAlVIRIAMlCOENGlBATHAMASATlKHANlBARIYO" ++
     "OSANlCAMNUC PII KUUHlLEK TOOlBEYYALlPHNAEK MUANlKOOMUUTgCURRENCY SYMBOL RIELgSIGN AVAKRAHASANYAmTTHACAN"),
   (0x17e0, "aKHMER DIGIT ZEROmONEmTWOnHREEmFOURnIVEmSIXnEVENmEIGHTmNINE"),
   (0x17f0, "aKHMER SYMBOL LEK ATTAK SONxMUOYxPIIxBEIyUONxPRAMzAM-MUOYzAM-PIIzAM-BEIzAM-BUON"),
   (0x1800, "aMONGOLIAN BIRGAkELLIPSISkCOMMAkFULL STOPkCOLONkFOUR DOTSkTODO SOFT HYPHENkSIBE SYLLABLE BOUNDARY M" ++
     "ARKERkMANCHU COMMArFULL STOPkNIRUGUkFREE VARIATION SELECTOR ONEzSELECTOR TWOzSELECTOR THREEkVOWEL SEPARATO" ++
     "RkFREE VARIATION SELECTOR FOURkDIGIT ZEROqONEqTWOrHREEqFOURrIVEqSIXrEVENqEIGHTqNINE"),
   (0x1820, "aMONGOLIAN LETTER ArErIrOrUrOErUErEErNArANGrBArPArQArGArMArLArSAsHArTArDArCHArJArYArRArWArFArKAsHAr" ++
     "TSArZArHAArZRArLHArZHIrCHIrTODO LONG VOWEL SIGNwEwIwOwUwOEwUEwANGwBAwPAwQAwGAwMAwTAwDAwCHAwJAwTSAwYAwWAwKA" ++
     "wGAAwHAAwJIAwNIAwDZArSIBE EwIxYwUExwANGwKAwGAwHAwPAwSHAwTAwDAwJAwFAwGAAwHAAwTSAwZAwRAAwCHAwZHArMANCHU IyKA" ++
     "yRAyFAyZHArCHA WITH TWO DOTS"),
   (0x1880, "aMONGOLIAN LETTER ALI GALI ANUSVARA ONEz VISARGA ONEz DAMARUz UBADAMAz INVERTED UBADAMAz BALUDAz TH" ++
     "REE BALUDAz Az Iz KAz NGAz CAz TTAz TTHAz DDAz NNAz TAz DAz PAz PHAz SSAz ZHAz ZAz AHrTODO ALI GALI TAz GA" ++
     "LI ZHArMANCHU ALI GALI GHAzLI GALI NGAzLI GALI CAzLI GALI JHAzLI GALI TTAzLI GALI DDHAzLI GALI TAzLI GALI " ++
     "DHAzLI GALI SSAzLI GALI CYAzLI GALI ZHAzLI GALI ZArALI GALI HALF Uz HALF YArMANCHU ALI GALI BHArALI GALI D" ++
     "AGALGArMANCHU ALI GALI LHA"),
   (0x18b0, "aCANADIAN SYLLABICS OYtAYuAYtWAYtPOYuAYuWOYtTAYtKAYuWAYtMAYtNOYuAYtLAYtSOYuAYuHOYvAYvWOYtYOYuAYtRAY" ++
     "tNWItOJIBWAY NWItNWIItOJIBWAY NWIItNWOtOJIBWAY NWOtNWOOtOJIBWAY NWOOtRWEEvIwIvOwOvAtOJIBWAY PzY TzY KzY Cz" ++
     "Y MzY NzY SzY SHtEASTERN WtWESTERN WtFINAL SMALL RINGzRAISED DOTtR-CREE RWEtWEST-CREE LOOzREE LAAtTHWEwAuT" ++
     "HWEwOOwAAuLHWEwOOtSAYISI SHWEz SHOOz HOOtCARRIER GWUzR DENE GEEzR GAAzR GWAtSAYISI JUUtCARRIER JWAtBEAVER " ++
     "DENE Lz DENE RtCARRIER DENTAL S"),
   (0x1900, "aLIMBU VOWEL-CARRIER LETTERgLETTER KAoHAnGAoHAnNGAnCAoHAnJAoHAnYANnTAoHAnDAoHAnNAnPAoHAnBAoHAnMAnYA" ++
     "nRAnLAnWAnSHAoSAoAnHAnGYANnTRA"),
   (0x1920, "aLIMBU VOWEL SIGN ArIrUrEErAIrOOrAUrErOgSUBJOINED LETTER YAxRAxWA"),
   (0x1930, "aLIMBU SMALL LETTER KAtNGAtANUSVARAtTAtNAtPAtMAtRAtLAhIGN MUKPHRENGlKEMPHRENGlSA-I"),
   (0x1940, "aLIMBU SIGN LOO"),
   (0x1944, "aLIMBU EXCLAMATION MARKgQUESTION MARKgDIGIT ZEROmONEmTWOnHREEmFOURnIVEmSIXnEVENmEIGHTmNINEaTAI LE L" ++
     "ETTER KAoXAoNGAoTSAoSAoYAoTApHAoLAoPApHAoMAoFAoVAoHAoQAoKHAoTSHAoNAoAoIoEEpHoUoOOpoUEoEoAUEpI"),
   (0x1970, "aTAI LE LETTER TONE-2t3t4t5t6"),
   (0x1980, "aNEW TAI LUE LETTER HIGH QAtLOW QAtHIGH KAyXAyNGAtLOW KAxXAxNGAtHIGH TSAySAyYAtLOW TSAxSAxYAtHIGH T" ++
     "AzHAyNAtLOW TAyHAxNAtHIGH PAzHAyMAtLOW PAyHAxMAtHIGH FAyVAyLAtLOW FAxVAxLAtHIGH HAyDAyBAtLOW HAxDAxBAtHIGH" ++
     " KVAyXVAtLOW KVAxXVAtHIGH SUAtLOW SUA"),
   (0x19b0, "aNEW TAI LUE VOWEL SIGN VOWEL SHORTENERxAAxIIxUyUxExAExOyAxUExAYyAYxUYxOYyAYxUEYxIYmLETTER FINAL Vz" ++
     "NGzNzMzKzDzBmTONE MARK-1w2"),
   (0x19d0, "aNEW TAI LUE DIGIT ZEROsONEsTWOtHREEsFOURtIVEsSIXtEVENsEIGHTsNINEmTHAM DIGIT ONE"),
   (0x19de, "aNEW TAI LUE SIGN LAEuVaKHMER SYMBOL PATHAMASATnMUOY KOETnPII KOETnBEI KOEToUON KOETnPRAM KOETr-MUO" ++
     "Y KOETsPII KOETsBEI KOETtUON KOETnDAP KOETq-MUOY KOETrPII KOETrBEI KOETsUON KOETrPRAM KOETnTUTEYASATnMUOY " ++
     "ROCnPII ROCnBEI ROCoUON ROCnPRAM ROCr-MUOY ROCsPII ROCsBEI ROCtUON ROCnDAP ROCq-MUOY ROCrPII ROCrBEI ROCsU" ++
     "ON ROCrPRAM ROCaBUGINESE LETTER KAqGAqNGAsKAqPAqBAqMArPAqTAqDAqNArRAqCAqJAqNYAsCAqYAqRAqLAqVAqSAqAqHAjVOWE" ++
     "L SIGN IuUuEuOuAE"),
   (0x1a1e, "aBUGINESE PALLAWAjEND OF SECTIONaTAI THAM LETTER HIGH KAwHAwXAqLOW KAvXAvHAqNGAqHIGH CAwHAqLOW CAuS" ++
     "AuCHAqNYAqRATAqHIGH RATHAqDAqLOW RATHAqRANAqHIGH TAwHAqLOW TAvHAqNAqBAqHIGH PAwHAvFAqLOW PAuFAuPHAqMAqLOW " ++
     "YAqHIGH YAqRArUEqLArUEqWAqHIGH SHAwSAwAvHAqLLAqAqLOW HAqIrIqUrUqEEqOOqLAEqGREAT SAjCONSONANT SIGN MEDIAL R" ++
     "AzEDIAL LAyLA TANG LAIjSIGN MAI KANG LAIjCONSONANT SIGN FINAL NGAyLOW PAyHIGH RATHA OR LOW PAyMAyBAySA"),
   (0x1a60, "aTAI THAM SIGN SAKOTjVOWEL SIGN AuMAI SATuAAuTALL AAuIvIuUEvUEvvUuOvA BELOWvYuEuAEuOOuAIuTHAM AIuOA" ++
     " ABOVEjSIGN MAI KANGoTONE-1t2oKHUEN TONE-3z4z5oRA HAAMoMAI SAMoKHUEN-LUE KARAN"),
   (0x1a7f, "aTAI THAM COMBINING CRYPTOGRAMMIC DOTjHORA DIGIT ZEROuONEuTWOvHREEuFOURvIVEuSIXvEVENuEIGHTuNINE"),
   (0x1a90, "aTAI THAM THAM DIGIT ZEROuONEuTWOvHREEuFOURvIVEuSIXvEVENuEIGHTuNINE"),
   (0x1aa0, "aTAI THAM SIGN WIANGtWAAKoSAWANoKEOWoHOYoDOKMAIoREVERSED ROTATED RANAoMAI YAMOKoKAANsKUUoSATKAANvKU" ++
     "UoHANGoCAANG"),
   (0x1ab0, "aCOMBINING DOUBLED CIRCUMFLEX ACCENTlIAERESIS-RINGkINFINITYkDOWNWARDS ARROWkTRIPLE DOTkX-X BELOWkWI" ++
     "GGLY LINE BELOWkOPEN MARK BELOWkDOUBLE OPEN MARK BELOWkLIGHT CENTRALIZATION STROKE BELOWkSTRONG CENTRALIZA" ++
     "TION STROKE BELOWkPARENTHESES ABOVEkDOUBLE PARENTHESES ABOVEkPARENTHESES BELOWwOVERLAYkLATIN SMALL LETTER " ++
     "W BELOWzTER TURNED W BELOWlEFT PARENTHESIS ABOVE LEFTkRIGHT PARENTHESIS ABOVE RIGHTkLEFT PARENTHESIS BELOW" ++
     " LEFTkRIGHT PARENTHESIS BELOW RIGHTkSQUARE BRACKETS ABOVEkNUMBER SIGN ABOVEkINVERTED DOUBLE ARCH ABOVEkPLU" ++
     "S SIGN ABOVEkDOUBLE PLUS SIGN ABOVEzN BELOWkTRIPLE ACUTE ACCENTkLATIN SMALL LETTER INSULAR GzTER INSULAR R" ++
     "zTER INSULAR T"),
   (0x1b00, "aBALINESE SIGN ULU RICEMsCANDRAoCECEKoSURANGoBISAHjLETTER AKARAv TEDUNGqIKARAv TEDUNGqUKARAv TEDUNG" ++
     "qRA REPAx TEDUNGqLA LENGAy TEDUNGqEKARAqAIKARAqOKARAv TEDUNGqKAs MAHAPRANAqGAs GORAqNGAqCAs LACAqJAs JERAq" ++
     "NYAqTA LATIKtMURDA MAHAPRANAqDA MURDA ALPAPRANAzMAHAPRANAqNA RAMBATqTAs TAWAqDAs MADUqNAqPAs KAPALqBAs KEM" ++
     "BANGqMAqYAqRAqLAqWAqSA SAGAvPAsqHAjSIGN REREKANjVOWEL SIGN TEDUNGuULUx SARIuSUKUy ILUTuRA REPAzPA TEDUNGuL" ++
     "A LENGAzNGA TEDUNGuTALINGzG REPAzG TEDUNGzG REPA TEDUNGuPEPETz TEDUNGjADEG ADEGjLETTER KAF SASAKrHOT SASAK" ++
     "qTZIR SASAKqEF SASAKqVE SASAKqZAL SASAKqASYURA SASAKrRCHAIC JNYA"),
   (0x1b50, "aBALINESE DIGIT ZEROpONEpTWOqHREEpFOURqIVEpSIXqEVENpEIGHTpNINEjPANTIlMADAjWINDUjCARIK PAMUNGKAHpSIK" ++
     "IpPARERENjPAMENENGjMUSICAL SYMBOL DONGzENGzUNGzANGzANG SURANGzINGzAENGzEUNGzAINGzANG GEDEyCOMBINING TEGEHz" ++
     "OMBINING ENDEPzOMBINING KEMPULzOMBINING KEMPLIzOMBINING JEGOGANzOMBINING KEMPUL WITH JEGOGANzOMBINING KEMP" ++
     "LI WITH JEGOGANzOMBINING BENDEzOMBINING GONGyRIGHT-HAND OPEN DUGzIGHT-HAND OPEN DAGzIGHT-HAND CLOSED TUKzI" ++
     "GHT-HAND CLOSED TAKyLEFT-HAND OPEN PANGzEFT-HAND OPEN PUNGzEFT-HAND CLOSED PLAKzEFT-HAND CLOSED PLUKzEFT-H" ++
     "AND OPEN PINGjPANTI LANTANGlMADA LANTANG"),
   (0x1b80, "aSUNDANESE SIGN PANYECEKsGLAYARtWISADkLETTER ArIrUrAErOrEsUrKArQArGArNGArCArJArZArNYArTArDArNArPArF" ++
     "ArVArBArMArYArRArLArWArSArXArHAkCONSONANT SIGN PAMINGKALzPANYAKRAzPANYIKUkVOWEL SIGN PANGHULUyYUKUyAELAENG" ++
     "yOLONGxMEPETxNEULEUNGkSIGN PAMAAEHpVIRAMAkCONSONANT SIGN PASANGAN MAzPASANGAN WAkLETTER KHArSYAkDIGIT ZERO" ++
     "qONEqTWOrHREEqFOURrIVEqSIXrEVENqEIGHTqNINEkAVAGRAHAkLETTER REUrLEUrBHArFINAL KxMaBATAK LETTER AnSIMALUNGUN" ++
     " AnHAnSIMALUNGUN HAnMANDAILING HAnBAnKARO BAnPAnSIMALUNGUN PAnNAnMANDAILING NAnWAnSIMALUNGUN WAnPAKPAK WAn" ++
     "GAnSIMALUNGUN GAnJAnDAnRAnSIMALUNGUN RAnMAnSIMALUNGUN MAoOUTHERN TAnNORTHERN TAnSAoIMALUNGUN SAnMANDAILING" ++
     " SAnYAnSIMALUNGUN YAnNGAnLAnSIMALUNGUN LAnNYAnCAnNDAnMBAnInUgSIGN TOMPIgVOWEL SIGN ErPAKPAK ErEErIrKARO Ir" ++
     "OrKARO OrUs FOR SIMALUNGUN SAgCONSONANT SIGN NGvHgPANGOLATjONGONAN"),
   (0x1bfc, "aBATAK SYMBOL BINDU NA METEKtPINARBORAStJUDULtPANGOLATaLEPCHA LETTER KApLApHAoGApLAoNGAoCApHAoJAoNY" ++
     "AoTApHAoDAoNAoPApLApHAoFApLAoBApLAoMApLAoTSAqHAoDZAoYAoRAoLAoHApLAoVAoSApHAoWAoAhSUBJOINED LETTER YAyRAhVO" ++
     "WEL SIGN AAsIsOtOsUtUsEhCONSONANT SIGN KwMwLwNwPwRwTwNYIN-DOwKANGhSIGN RANmNUKTA"),
   (0x1c3b, "aLEPCHA PUNCTUATION TA-ROLtNYET THYOOM TA-ROLtCER-WAtTSHOOK CER-WAzhDIGIT ZEROnONEnTWOoHREEnFOURoIV" ++
     "EnSIXoEVENnEIGHTnNINE"),
   (0x1c4d, "aLEPCHA LETTER TTAqHAoDDAaOL CHIKI DIGIT ZEROpONEpTWOqHREEpFOURqIVEpSIXqEVENpEIGHTpNINEjLETTER LAqA" ++
     "TrGrNGrLqLAAqAAKsJsMsWqLIqISrHrNYrRqLUqUCrDrNNrYqLEqEPrDDrNrRRqLOqOTTrBrVrHjMU TTUDDAGjGAAHLAA TTUDDAAGjMU" ++
     "-GAAHLAA TTUDDAAGjRELAAjPHAARKAAjAHADjPUNCTUATION MUCAADvDOUBLE MUCAADaCYRILLIC SMALL LETTER ROUNDED VEwLO" ++
     "NG-LEGGED DEwNARROW OwWIDE ESwTALL TExHREE-LEGGED TExALL HARD SIGNzL YATwUNBLENDED UK"),
   (0x1c90, "aGEORGIAN MTAVRULI CAPITAL LETTER ANz LETTER BANz LETTER GANz LETTER DONz LETTER ENz LETTER VINz LE" ++
     "TTER ZENz LETTER TANz LETTER INz LETTER KANz LETTER LASz LETTER MANz LETTER NARz LETTER ONz LETTER PARz LE" ++
     "TTER ZHARz LETTER RAEz LETTER SANz LETTER TARz LETTER UNz LETTER PHARz LETTER KHARz LETTER GHANz LETTER QA" ++
     "Rz LETTER SHINz LETTER CHINz LETTER CANz LETTER JILz LETTER CILz LETTER CHARz LETTER XANz LETTER JHANz LET" ++
     "TER HAEz LETTER HEz LETTER HIEz LETTER WEz LETTER HARz LETTER HOEz LETTER FIz LETTER YNz LETTER ELIFIz LET" ++
     "TER TURNED GANz LETTER AIN"),
   (0x1cbd, "aGEORGIAN MTAVRULI CAPITAL LETTER AENz LETTER HARD SIGNz LETTER LABIAL SIGNaSUNDANESE PUNCTUATION B" ++
     "INDU SURYAzDU PANGLONGzDU PURNAMAzDU CAKRAzDU LEU SATANGAzDU KA SATANGAzDU DA SATANGAzDU BA SATANGA"),
   (0x1cd0, "aVEDIC TONE KARSHANAlSHARAlPRENKHAgSIGN NIHSHVASAlYAJURVEDIC MIDLINE SVARITAgTONE YAJURVEDIC AGGRAV" ++
     "ATED INDEPENDENT SVARITAwINDEPENDENT SVARITAwKATHAKA INDEPENDENT SVARITAlCANDRA BELOWlYAJURVEDIC KATHAKA I" ++
     "NDEPENDENT SVARITA SCHROEDERlDOUBLE SVARITAlTRIPLE SVARITAlKATHAKA ANUDATTAlDOT BELOWlTWO DOTS BELOWmHREE " ++
     "DOTS BELOWlRIGVEDIC KASHMIRI INDEPENDENT SVARITAlATHARVAVEDIC INDEPENDENT SVARITAgSIGN VISARGA SVARITAtUDA" ++
     "TTAlREVERSED VISARGA UDATTAlVISARGA ANUDATTAlREVERSED VISARGA ANUDATTAlVISARGA UDATTA WITH TAILtANUDATTA W" ++
     "ITH TAILlANUSVARA ANTARGOMUKHAuBAHIRGOMUKHAuVAMAGOMUKHAzOMUKHA WITH TAILlTIRYAKlHEXIFORM LONG ANUSVARAlLON" ++
     "G ANUSVARAlRTHANG LONG ANUSVARAlANUSVARA UBHAYATO MUKHAmRDHAVISARGAlROTATED ARDHAVISARGAgTONE CANDRA ABOVE" ++
     "gSIGN JIHVAMULIYAlUPADHMANIYAlATIKRAMAgTONE RING ABOVElDOUBLE RING ABOVEgSIGN DOUBLE ANUSVARA ANTARGOMUKHA"),
   (0x1d00, "aLATIN LETTER SMALL CAPITAL AzL AEgSMALL LETTER TURNED AEgLETTER SMALL CAPITAL BARRED BzL CzL DzL E" ++
     "THzL EgSMALL LETTER TURNED OPEN Ez IgLETTER SMALL CAPITAL JzL KzL L WITH STROKEzL MzL REVERSED NzL OzL OPE" ++
     "N OgSMALL LETTER SIDEWAYS OzYS OPEN OzYS O WITH STROKEtTURNED OEgLETTER SMALL CAPITAL OUgSMALL LETTER TOP " ++
     "HALF OtBOTTOM HALF OgLETTER SMALL CAPITAL PzL REVERSED RzL TURNED RzL TzL UgSMALL LETTER SIDEWAYS UzYS DIA" ++
     "ERESIZED UzYS TURNED MgLETTER SMALL CAPITAL VzL WzL ZzL EZHnVOICED LARYNGEAL SPIRANTnAINaGREEK LETTER SMAL" ++
     "L CAPITAL GAMMAzL LAMDAzL PIzL RHOzL PSIaCYRILLIC LETTER SMALL CAPITAL ELaMODIFIER LETTER CAPITAL AzEyBzAR" ++
     "RED ByDyEyREVERSED EyGyHyIyJyKyLyMyNyREVERSED NyOzUyPyRyTyUyWqSMALL AwTURNED AwALPHAwTURNED AEwBwDwEwSCHWA" ++
     "wOPEN EwTURNED OPEN EwGwTURNED IwKwMwENGwOxPEN OwTOP HALF OwBOTTOM HALF OwPwTwUwSIDEWAYS UwTURNED MwVwAINw" ++
     "BETAwGREEK GAMMAwDELTAwGREEK PHIwCHIaLATIN SUBSCRIPT SMALL LETTER IzTER RzTER UzTER VaGREEK SUBSCRIPT SMAL" ++
     "L LETTER BETAzTER GAMMAzTER RHOzTER PHIzTER CHIaLATIN SMALL LETTER UEtB WITH MIDDLE TILDEtD WITH MIDDLE TI" ++
     "LDEtF WITH MIDDLE TILDEtM WITH MIDDLE TILDEtN WITH MIDDLE TILDEtP WITH MIDDLE TILDEtR WITH MIDDLE TILDEz F" ++
     "ISHHOOK AND MIDDLE TILDEtS WITH MIDDLE TILDEtT WITH MIDDLE TILDEtZ WITH MIDDLE TILDEtTURNED GaMODIFIER LET" ++
     "TER CYRILLIC ENaLATIN SMALL LETTER INSULAR GtTH WITH STRIKETHROUGHmCAPITAL LETTER I WITH STROKEmLETTER IOT" ++
     "A WITH STROKEtP WITH STROKEmCAPITAL LETTER U WITH STROKEmLETTER UPSILON WITH STROKEtB WITH PALATAL HOOKtD " ++
     "WITH PALATAL HOOKtF WITH PALATAL HOOKtG WITH PALATAL HOOKtK WITH PALATAL HOOKtL WITH PALATAL HOOKtM WITH P" ++
     "ALATAL HOOKtN WITH PALATAL HOOKtP WITH PALATAL HOOKtR WITH PALATAL HOOKtS WITH PALATAL HOOKtESH WITH PALAT" ++
     "AL HOOKtV WITH PALATAL HOOKtX WITH PALATAL HOOKtZ WITH PALATAL HOOKtA WITH RETROFLEX HOOKuLPHA WITH RETROF" ++
     "LEX HOOK"),
   (0x1d91, "aLATIN SMALL LETTER D WITH HOOK AND TAILtE WITH RETROFLEX HOOKtOPEN E WITH RETROFLEX HOOKtREVERSED " ++
     "OPEN E WITH RETROFLEX HOOKtSCHWA WITH RETROFLEX HOOKtI WITH RETROFLEX HOOKtOPEN O WITH RETROFLEX HOOKtESH " ++
     "WITH RETROFLEX HOOKtU WITH RETROFLEX HOOKtEZH WITH RETROFLEX HOOKaMODIFIER LETTER SMALL TURNED ALPHAwCx WI" ++
     "TH CURLwETHwREVERSED OPEN EwFwDOTLESS J WITH STROKEwSCRIPT GwTURNED HwI WITH STROKExOTAwCAPITAL IzITAL I W" ++
     "ITH STROKEwJ WITH CROSSED-TAILwL WITH RETROFLEX HOOKzITH PALATAL HOOKwCAPITAL LwM WITH HOOKwTURNED M WITH " ++
     "LONG LEGwN WITH LEFT HOOKzITH RETROFLEX HOOKwCAPITAL NwBARRED OwPHIwS WITH HOOKwESHwT WITH PALATAL HOOKwU " ++
     "BARxPSILONwCAPITAL UwV WITH HOOKwTURNED VwZx WITH RETROFLEX HOOKzITH CURLwEZHwTHETAaCOMBINING DOTTED GRAVE" ++
     " ACCENTrACUTE ACCENTkSNAKE BELOWlUSPENSION MARKkMACRON-ACUTEkGRAVE-MACRONkMACRON-GRAVEkACUTE-MACRONkGRAVE-" ++
     "ACUTE-GRAVEkACUTE-GRAVE-ACUTEkLATIN SMALL LETTER R BELOWkBREVE-MACRONkMACRON-BREVEkDOUBLE CIRCUMFLEX ABOVE" ++
     "kOGONEK ABOVEkZIGZAG BELOWkIS BELOWkUR ABOVElS ABOVEkLATIN SMALL LETTER FLATTENED OPEN A ABOVEzTER AEzTER " ++
     "AOzTER AVzTER C CEDILLAzTER INSULAR DzTER ETHzTER GqLETTER SMALL CAPITAL GqSMALL LETTER KzTER LqLETTER SMA" ++
     "LL CAPITAL LzALL CAPITAL MqSMALL LETTER NqLETTER SMALL CAPITAL NzALL CAPITAL RqSMALL LETTER R ROTUNDAzTER " ++
     "SzTER LONG SzTER ZzTER ALPHAzTER BzTER BETAzTER SCHWAzTER FzTER L WITH DOUBLE MIDDLE TILDEzTER O WITH LIGH" ++
     "T CENTRALIZATION STROKEzTER PzTER ESHzTER U WITH LIGHT CENTRALIZATION STROKEzTER WzTER A WITH DIAERESISzTE" ++
     "R O WITH DIAERESISzTER U WITH DIAERESISkUP TACK ABOVEkKAVYKA ABOVE RIGHTxLEFTkDOT ABOVE LEFTkWIDE INVERTED" ++
     " BRIDGE BELOWkDOT BELOW LEFTlELETION MARKlOUBLE INVERTED BREVE BELOWkALMOST EQUAL TO BELOWkLEFT ARROWHEAD " ++
     "ABOVEkRIGHT ARROWHEAD AND DOWN ARROWHEAD BELOWaLATIN CAPITAL LETTER A WITH RING BELOWgSMALL LETTER A WITH " ++
     "RING BELOW"),
   (0x1e02, "aLATIN CAPITAL LETTER B WITH DOT ABOVEgSMALL LETTER B WITH DOT ABOVEgCAPITAL LETTER B WITH DOT BELO" ++
     "WgSMALL LETTER B WITH DOT BELOWgCAPITAL LETTER B WITH LINE BELOWgSMALL LETTER B WITH LINE BELOWgCAPITAL LE" ++
     "TTER C WITH CEDILLA AND ACUTEgSMALL LETTER C WITH CEDILLA AND ACUTEgCAPITAL LETTER D WITH DOT ABOVEgSMALL " ++
     "LETTER D WITH DOT ABOVEgCAPITAL LETTER D WITH DOT BELOWgSMALL LETTER D WITH DOT BELOWgCAPITAL LETTER D WIT" ++
     "H LINE BELOWgSMALL LETTER D WITH LINE BELOWgCAPITAL LETTER D WITH CEDILLAgSMALL LETTER D WITH CEDILLAgCAPI" ++
     "TAL LETTER D WITH CIRCUMFLEX BELOWgSMALL LETTER D WITH CIRCUMFLEX BELOWgCAPITAL LETTER E WITH MACRON AND G" ++
     "RAVEgSMALL LETTER E WITH MACRON AND GRAVEgCAPITAL LETTER E WITH MACRON AND ACUTEgSMALL LETTER E WITH MACRO" ++
     "N AND ACUTEgCAPITAL LETTER E WITH CIRCUMFLEX BELOWgSMALL LETTER E WITH CIRCUMFLEX BELOWgCAPITAL LETTER E W" ++
     "ITH TILDE BELOWgSMALL LETTER E WITH TILDE BELOWgCAPITAL LETTER E WITH CEDILLA AND BREVEgSMALL LETTER E WIT" ++
     "H CEDILLA AND BREVEgCAPITAL LETTER F WITH DOT ABOVEgSMALL LETTER F WITH DOT ABOVEgCAPITAL LETTER G WITH MA" ++
     "CRONgSMALL LETTER G WITH MACRONgCAPITAL LETTER H WITH DOT ABOVEgSMALL LETTER H WITH DOT ABOVEgCAPITAL LETT" ++
     "ER H WITH DOT BELOWgSMALL LETTER H WITH DOT BELOWgCAPITAL LETTER H WITH DIAERESISgSMALL LETTER H WITH DIAE" ++
     "RESISgCAPITAL LETTER H WITH CEDILLAgSMALL LETTER H WITH CEDILLAgCAPITAL LETTER H WITH BREVE BELOWgSMALL LE" ++
     "TTER H WITH BREVE BELOWgCAPITAL LETTER I WITH TILDE BELOWgSMALL LETTER I WITH TILDE BELOWgCAPITAL LETTER I" ++
     " WITH DIAERESIS AND ACUTEgSMALL LETTER I WITH DIAERESIS AND ACUTEgCAPITAL LETTER K WITH ACUTEgSMALL LETTER" ++
     " K WITH ACUTEgCAPITAL LETTER K WITH DOT BELOWgSMALL LETTER K WITH DOT BELOWgCAPITAL LETTER K WITH LINE BEL" ++
     "OWgSMALL LETTER K WITH LINE BELOWgCAPITAL LETTER L WITH DOT BELOWgSMALL LETTER L WITH DOT BELOWgCAPITAL LE" ++
     "TTER L WITH DOT BELOW AND MACRON"),
   (0x1e39, "aLATIN SMALL LETTER L WITH DOT BELOW AND MACRONgCAPITAL LETTER L WITH LINE BELOWgSMALL LETTER L WIT" ++
     "H LINE BELOWgCAPITAL LETTER L WITH CIRCUMFLEX BELOWgSMALL LETTER L WITH CIRCUMFLEX BELOWgCAPITAL LETTER M " ++
     "WITH ACUTEgSMALL LETTER M WITH ACUTEgCAPITAL LETTER M WITH DOT ABOVEgSMALL LETTER M WITH DOT ABOVEgCAPITAL" ++
     " LETTER M WITH DOT BELOWgSMALL LETTER M WITH DOT BELOWgCAPITAL LETTER N WITH DOT ABOVEgSMALL LETTER N WITH" ++
     " DOT ABOVEgCAPITAL LETTER N WITH DOT BELOWgSMALL LETTER N WITH DOT BELOWgCAPITAL LETTER N WITH LINE BELOWg" ++
     "SMALL LETTER N WITH LINE BELOWgCAPITAL LETTER N WITH CIRCUMFLEX BELOWgSMALL LETTER N WITH CIRCUMFLEX BELOW" ++
     "gCAPITAL LETTER O WITH TILDE AND ACUTEgSMALL LETTER O WITH TILDE AND ACUTEgCAPITAL LETTER O WITH TILDE AND" ++
     " DIAERESISgSMALL LETTER O WITH TILDE AND DIAERESISgCAPITAL LETTER O WITH MACRON AND GRAVEgSMALL LETTER O W" ++
     "ITH MACRON AND GRAVEgCAPITAL LETTER O WITH MACRON AND ACUTEgSMALL LETTER O WITH MACRON AND ACUTEgCAPITAL L" ++
     "ETTER P WITH ACUTEgSMALL LETTER P WITH ACUTEgCAPITAL LETTER P WITH DOT ABOVEgSMALL LETTER P WITH DOT ABOVE" ++
     "gCAPITAL LETTER R WITH DOT ABOVEgSMALL LETTER R WITH DOT ABOVEgCAPITAL LETTER R WITH DOT BELOWgSMALL LETTE" ++
     "R R WITH DOT BELOWgCAPITAL LETTER R WITH DOT BELOW AND MACRONgSMALL LETTER R WITH DOT BELOW AND MACRONgCAP" ++
     "ITAL LETTER R WITH LINE BELOWgSMALL LETTER R WITH LINE BELOWgCAPITAL LETTER S WITH DOT ABOVEgSMALL LETTER " ++
     "S WITH DOT ABOVEgCAPITAL LETTER S WITH DOT BELOWgSMALL LETTER S WITH DOT BELOWgCAPITAL LETTER S WITH ACUTE" ++
     " AND DOT ABOVEgSMALL LETTER S WITH ACUTE AND DOT ABOVEgCAPITAL LETTER S WITH CARON AND DOT ABOVEgSMALL LET" ++
     "TER S WITH CARON AND DOT ABOVEgCAPITAL LETTER S WITH DOT BELOW AND DOT ABOVEgSMALL LETTER S WITH DOT BELOW" ++
     " AND DOT ABOVEgCAPITAL LETTER T WITH DOT ABOVEgSMALL LETTER T WITH DOT ABOVEgCAPITAL LETTER T WITH DOT BEL" ++
     "OWgSMALL LETTER T WITH DOT BELOW"),
   (0x1e6e, "aLATIN CAPITAL LETTER T WITH LINE BELOWgSMALL LETTER T WITH LINE BELOWgCAPITAL LETTER T WITH CIRCUM" ++
     "FLEX BELOWgSMALL LETTER T WITH CIRCUMFLEX BELOWgCAPITAL LETTER U WITH DIAERESIS BELOWgSMALL LETTER U WITH " ++
     "DIAERESIS BELOWgCAPITAL LETTER U WITH TILDE BELOWgSMALL LETTER U WITH TILDE BELOWgCAPITAL LETTER U WITH CI" ++
     "RCUMFLEX BELOWgSMALL LETTER U WITH CIRCUMFLEX BELOWgCAPITAL LETTER U WITH TILDE AND ACUTEgSMALL LETTER U W" ++
     "ITH TILDE AND ACUTEgCAPITAL LETTER U WITH MACRON AND DIAERESISgSMALL LETTER U WITH MACRON AND DIAERESISgCA" ++
     "PITAL LETTER V WITH TILDEgSMALL LETTER V WITH TILDEgCAPITAL LETTER V WITH DOT BELOWgSMALL LETTER V WITH DO" ++
     "T BELOWgCAPITAL LETTER W WITH GRAVEgSMALL LETTER W WITH GRAVEgCAPITAL LETTER W WITH ACUTEgSMALL LETTER W W" ++
     "ITH ACUTEgCAPITAL LETTER W WITH DIAERESISgSMALL LETTER W WITH DIAERESISgCAPITAL LETTER W WITH DOT ABOVEgSM" ++
     "ALL LETTER W WITH DOT ABOVEgCAPITAL LETTER W WITH DOT BELOWgSMALL LETTER W WITH DOT BELOWgCAPITAL LETTER X" ++
     " WITH DOT ABOVEgSMALL LETTER X WITH DOT ABOVEgCAPITAL LETTER X WITH DIAERESISgSMALL LETTER X WITH DIAERESI" ++
     "SgCAPITAL LETTER Y WITH DOT ABOVEgSMALL LETTER Y WITH DOT ABOVEgCAPITAL LETTER Z WITH CIRCUMFLEXgSMALL LET" ++
     "TER Z WITH CIRCUMFLEXgCAPITAL LETTER Z WITH DOT BELOWgSMALL LETTER Z WITH DOT BELOWgCAPITAL LETTER Z WITH " ++
     "LINE BELOWgSMALL LETTER Z WITH LINE BELOWtH WITH LINE BELOWtT WITH DIAERESIStW WITH RING ABOVEtY WITH RING" ++
     " ABOVEtA WITH RIGHT HALF RINGtLONG S WITH DOT ABOVEz WITH DIAGONAL STROKEz WITH HIGH STROKEgCAPITAL LETTER" ++
     " SHARP SgSMALL LETTER DELTAgCAPITAL LETTER A WITH DOT BELOWgSMALL LETTER A WITH DOT BELOWgCAPITAL LETTER A" ++
     " WITH HOOK ABOVEgSMALL LETTER A WITH HOOK ABOVEgCAPITAL LETTER A WITH CIRCUMFLEX AND ACUTEgSMALL LETTER A " ++
     "WITH CIRCUMFLEX AND ACUTEgCAPITAL LETTER A WITH CIRCUMFLEX AND GRAVEgSMALL LETTER A WITH CIRCUMFLEX AND GR" ++
     "AVEgCAPITAL LETTER A WITH CIRCUMFLEX AND HOOK ABOVE"),
   (0x1ea9, "aLATIN SMALL LETTER A WITH CIRCUMFLEX AND HOOK ABOVEgCAPITAL LETTER A WITH CIRCUMFLEX AND TILDEgSMA" ++
     "LL LETTER A WITH CIRCUMFLEX AND TILDEgCAPITAL LETTER A WITH CIRCUMFLEX AND DOT BELOWgSMALL LETTER A WITH C" ++
     "IRCUMFLEX AND DOT BELOWgCAPITAL LETTER A WITH BREVE AND ACUTEgSMALL LETTER A WITH BREVE AND ACUTEgCAPITAL " ++
     "LETTER A WITH BREVE AND GRAVEgSMALL LETTER A WITH BREVE AND GRAVEgCAPITAL LETTER A WITH BREVE AND HOOK ABO" ++
     "VEgSMALL LETTER A WITH BREVE AND HOOK ABOVEgCAPITAL LETTER A WITH BREVE AND TILDEgSMALL LETTER A WITH BREV" ++
     "E AND TILDEgCAPITAL LETTER A WITH BREVE AND DOT BELOWgSMALL LETTER A WITH BREVE AND DOT BELOWgCAPITAL LETT" ++
     "ER E WITH DOT BELOWgSMALL LETTER E WITH DOT BELOWgCAPITAL LETTER E WITH HOOK ABOVEgSMALL LETTER E WITH HOO" ++
     "K ABOVEgCAPITAL LETTER E WITH TILDEgSMALL LETTER E WITH TILDEgCAPITAL LETTER E WITH CIRCUMFLEX AND ACUTEgS" ++
     "MALL LETTER E WITH CIRCUMFLEX AND ACUTEgCAPITAL LETTER E WITH CIRCUMFLEX AND GRAVEgSMALL LETTER E WITH CIR" ++
     "CUMFLEX AND GRAVEgCAPITAL LETTER E WITH CIRCUMFLEX AND HOOK ABOVEgSMALL LETTER E WITH CIRCUMFLEX AND HOOK " ++
     "ABOVEgCAPITAL LETTER E WITH CIRCUMFLEX AND TILDEgSMALL LETTER E WITH CIRCUMFLEX AND TILDEgCAPITAL LETTER E" ++
     " WITH CIRCUMFLEX AND DOT BELOWgSMALL LETTER E WITH CIRCUMFLEX AND DOT BELOWgCAPITAL LETTER I WITH HOOK ABO" ++
     "VEgSMALL LETTER I WITH HOOK ABOVEgCAPITAL LETTER I WITH DOT BELOWgSMALL LETTER I WITH DOT BELOWgCAPITAL LE" ++
     "TTER O WITH DOT BELOWgSMALL LETTER O WITH DOT BELOWgCAPITAL LETTER O WITH HOOK ABOVEgSMALL LETTER O WITH H" ++
     "OOK ABOVEgCAPITAL LETTER O WITH CIRCUMFLEX AND ACUTEgSMALL LETTER O WITH CIRCUMFLEX AND ACUTEgCAPITAL LETT" ++
     "ER O WITH CIRCUMFLEX AND GRAVEgSMALL LETTER O WITH CIRCUMFLEX AND GRAVEgCAPITAL LETTER O WITH CIRCUMFLEX A" ++
     "ND HOOK ABOVEgSMALL LETTER O WITH CIRCUMFLEX AND HOOK ABOVEgCAPITAL LETTER O WITH CIRCUMFLEX AND TILDEgSMA" ++
     "LL LETTER O WITH CIRCUMFLEX AND TILDE"),
   (0x1ed8, "aLATIN CAPITAL LETTER O WITH CIRCUMFLEX AND DOT BELOWgSMALL LETTER O WITH CIRCUMFLEX AND DOT BELOWg" ++
     "CAPITAL LETTER O WITH HORN AND ACUTEgSMALL LETTER O WITH HORN AND ACUTEgCAPITAL LETTER O WITH HORN AND GRA" ++
     "VEgSMALL LETTER O WITH HORN AND GRAVEgCAPITAL LETTER O WITH HORN AND HOOK ABOVEgSMALL LETTER O WITH HORN A" ++
     "ND HOOK ABOVEgCAPITAL LETTER O WITH HORN AND TILDEgSMALL LETTER O WITH HORN AND TILDEgCAPITAL LETTER O WIT" ++
     "H HORN AND DOT BELOWgSMALL LETTER O WITH HORN AND DOT BELOWgCAPITAL LETTER U WITH DOT BELOWgSMALL LETTER U" ++
     " WITH DOT BELOWgCAPITAL LETTER U WITH HOOK ABOVEgSMALL LETTER U WITH HOOK ABOVEgCAPITAL LETTER U WITH HORN" ++
     " AND ACUTEgSMALL LETTER U WITH HORN AND ACUTEgCAPITAL LETTER U WITH HORN AND GRAVEgSMALL LETTER U WITH HOR" ++
     "N AND GRAVEgCAPITAL LETTER U WITH HORN AND HOOK ABOVEgSMALL LETTER U WITH HORN AND HOOK ABOVEgCAPITAL LETT" ++
     "ER U WITH HORN AND TILDEgSMALL LETTER U WITH HORN AND TILDEgCAPITAL LETTER U WITH HORN AND DOT BELOWgSMALL" ++
     " LETTER U WITH HORN AND DOT BELOWgCAPITAL LETTER Y WITH GRAVEgSMALL LETTER Y WITH GRAVEgCAPITAL LETTER Y W" ++
     "ITH DOT BELOWgSMALL LETTER Y WITH DOT BELOWgCAPITAL LETTER Y WITH HOOK ABOVEgSMALL LETTER Y WITH HOOK ABOV" ++
     "EgCAPITAL LETTER Y WITH TILDEgSMALL LETTER Y WITH TILDEgCAPITAL LETTER MIDDLE-WELSH LLgSMALL LETTER MIDDLE" ++
     "-WELSH LLgCAPITAL LETTER MIDDLE-WELSH VgSMALL LETTER MIDDLE-WELSH VgCAPITAL LETTER Y WITH LOOPgSMALL LETTE" ++
     "R Y WITH LOOPaGREEK SMALL LETTER ALPHA WITH PSILIzWITH DASIAzWITH PSILI AND VARIAzWITH DASIA AND VARIAzWIT" ++
     "H PSILI AND OXIAzWITH DASIA AND OXIAzWITH PSILI AND PERISPOMENIzWITH DASIA AND PERISPOMENIgCAPITAL LETTER " ++
     "ALPHA WITH PSILIzA WITH DASIAzA WITH PSILI AND VARIAzA WITH DASIA AND VARIAzA WITH PSILI AND OXIAzA WITH D" ++
     "ASIA AND OXIAzA WITH PSILI AND PERISPOMENIzA WITH DASIA AND PERISPOMENIgSMALL LETTER EPSILON WITH PSILIzN " ++
     "WITH DASIA"),
   (0x1f12, "aGREEK SMALL LETTER EPSILON WITH PSILI AND VARIAzN WITH DASIA AND VARIAzN WITH PSILI AND OXIAzN WIT" ++
     "H DASIA AND OXIA"),
   (0x1f18, "aGREEK CAPITAL LETTER EPSILON WITH PSILIzLON WITH DASIAzLON WITH PSILI AND VARIAzLON WITH DASIA AND" ++
     " VARIAzLON WITH PSILI AND OXIAzLON WITH DASIA AND OXIA"),
   (0x1f20, "aGREEK SMALL LETTER ETA WITH PSILIzTH DASIAzTH PSILI AND VARIAzTH DASIA AND VARIAzTH PSILI AND OXIA" ++
     "zTH DASIA AND OXIAzTH PSILI AND PERISPOMENIzTH DASIA AND PERISPOMENIgCAPITAL LETTER ETA WITH PSILIzWITH DA" ++
     "SIAzWITH PSILI AND VARIAzWITH DASIA AND VARIAzWITH PSILI AND OXIAzWITH DASIA AND OXIAzWITH PSILI AND PERIS" ++
     "POMENIzWITH DASIA AND PERISPOMENIgSMALL LETTER IOTA WITH PSILIzITH DASIAzITH PSILI AND VARIAzITH DASIA AND" ++
     " VARIAzITH PSILI AND OXIAzITH DASIA AND OXIAzITH PSILI AND PERISPOMENIzITH DASIA AND PERISPOMENIgCAPITAL L" ++
     "ETTER IOTA WITH PSILIz WITH DASIAz WITH PSILI AND VARIAz WITH DASIA AND VARIAz WITH PSILI AND OXIAz WITH D" ++
     "ASIA AND OXIAz WITH PSILI AND PERISPOMENIz WITH DASIA AND PERISPOMENIgSMALL LETTER OMICRON WITH PSILIzN WI" ++
     "TH DASIAzN WITH PSILI AND VARIAzN WITH DASIA AND VARIAzN WITH PSILI AND OXIAzN WITH DASIA AND OXIA"),
   (0x1f48, "aGREEK CAPITAL LETTER OMICRON WITH PSILIzRON WITH DASIAzRON WITH PSILI AND VARIAzRON WITH DASIA AND" ++
     " VARIAzRON WITH PSILI AND OXIAzRON WITH DASIA AND OXIA"),
   (0x1f50, "aGREEK SMALL LETTER UPSILON WITH PSILIzN WITH DASIAzN WITH PSILI AND VARIAzN WITH DASIA AND VARIAzN" ++
     " WITH PSILI AND OXIAzN WITH DASIA AND OXIAzN WITH PSILI AND PERISPOMENIzN WITH DASIA AND PERISPOMENI"),
   (0x1f59, "aGREEK CAPITAL LETTER UPSILON WITH DASIA"),
   (0x1f5b, "aGREEK CAPITAL LETTER UPSILON WITH DASIA AND VARIA"),
   (0x1f5d, "aGREEK CAPITAL LETTER UPSILON WITH DASIA AND OXIA"),
   (0x1f5f, "aGREEK CAPITAL LETTER UPSILON WITH DASIA AND PERISPOMENIgSMALL LETTER OMEGA WITH PSILIzWITH DASIAzW" ++
     "ITH PSILI AND VARIAzWITH DASIA AND VARIAzWITH PSILI AND OXIAzWITH DASIA AND OXIAzWITH PSILI AND PERISPOMEN" ++
     "IzWITH DASIA AND PERISPOMENIgCAPITAL LETTER OMEGA WITH PSILIzA WITH DASIAzA WITH PSILI AND VARIAzA WITH DA" ++
     "SIA AND VARIAzA WITH PSILI AND OXIAzA WITH DASIA AND OXIAzA WITH PSILI AND PERISPOMENIzA WITH DASIA AND PE" ++
     "RISPOMENIgSMALL LETTER ALPHA WITH VARIAzWITH OXIAtEPSILON WITH VARIAzN WITH OXIAuTA WITH VARIAzTH OXIAtIOT" ++
     "A WITH VARIAzITH OXIAtOMICRON WITH VARIAzN WITH OXIAtUPSILON WITH VARIAzN WITH OXIAtOMEGA WITH VARIAzWITH " ++
     "OXIA"),
   (0x1f80, "aGREEK SMALL LETTER ALPHA WITH PSILI AND YPOGEGRAMMENIzWITH DASIA AND YPOGEGRAMMENIzWITH PSILI AND " ++
     "VARIA AND YPOGEGRAMMENIzWITH DASIA AND VARIA AND YPOGEGRAMMENIzWITH PSILI AND OXIA AND YPOGEGRAMMENIzWITH " ++
     "DASIA AND OXIA AND YPOGEGRAMMENIzWITH PSILI AND PERISPOMENI AND YPOGEGRAMMENIzWITH DASIA AND PERISPOMENI A" ++
     "ND YPOGEGRAMMENIgCAPITAL LETTER ALPHA WITH PSILI AND PROSGEGRAMMENIzA WITH DASIA AND PROSGEGRAMMENIzA WITH" ++
     " PSILI AND VARIA AND PROSGEGRAMMENIzA WITH DASIA AND VARIA AND PROSGEGRAMMENIzA WITH PSILI AND OXIA AND PR" ++
     "OSGEGRAMMENIzA WITH DASIA AND OXIA AND PROSGEGRAMMENIzA WITH PSILI AND PERISPOMENI AND PROSGEGRAMMENIzA WI" ++
     "TH DASIA AND PERISPOMENI AND PROSGEGRAMMENIgSMALL LETTER ETA WITH PSILI AND YPOGEGRAMMENIzTH DASIA AND YPO" ++
     "GEGRAMMENIzTH PSILI AND VARIA AND YPOGEGRAMMENIzTH DASIA AND VARIA AND YPOGEGRAMMENIzTH PSILI AND OXIA AND" ++
     " YPOGEGRAMMENIzTH DASIA AND OXIA AND YPOGEGRAMMENIzTH PSILI AND PERISPOMENI AND YPOGEGRAMMENIzTH DASIA AND" ++
     " PERISPOMENI AND YPOGEGRAMMENIgCAPITAL LETTER ETA WITH PSILI AND PROSGEGRAMMENIzWITH DASIA AND PROSGEGRAMM" ++
     "ENIzWITH PSILI AND VARIA AND PROSGEGRAMMENIzWITH DASIA AND VARIA AND PROSGEGRAMMENIzWITH PSILI AND OXIA AN" ++
     "D PROSGEGRAMMENIzWITH DASIA AND OXIA AND PROSGEGRAMMENIzWITH PSILI AND PERISPOMENI AND PROSGEGRAMMENIzWITH" ++
     " DASIA AND PERISPOMENI AND PROSGEGRAMMENIgSMALL LETTER OMEGA WITH PSILI AND YPOGEGRAMMENIzWITH DASIA AND Y" ++
     "POGEGRAMMENIzWITH PSILI AND VARIA AND YPOGEGRAMMENIzWITH DASIA AND VARIA AND YPOGEGRAMMENIzWITH PSILI AND " ++
     "OXIA AND YPOGEGRAMMENIzWITH DASIA AND OXIA AND YPOGEGRAMMENIzWITH PSILI AND PERISPOMENI AND YPOGEGRAMMENIz" ++
     "WITH DASIA AND PERISPOMENI AND YPOGEGRAMMENIgCAPITAL LETTER OMEGA WITH PSILI AND PROSGEGRAMMENIzA WITH DAS" ++
     "IA AND PROSGEGRAMMENIzA WITH PSILI AND VARIA AND PROSGEGRAMMENIzA WITH DASIA AND VARIA AND PROSGEGRAMMENIz" ++
     "A WITH PSILI AND OXIA AND PROSGEGRAMMENI"),
   (0x1fad, "aGREEK CAPITAL LETTER OMEGA WITH DASIA AND OXIA AND PROSGEGRAMMENIzA WITH PSILI AND PERISPOMENI AND" ++
     " PROSGEGRAMMENIzA WITH DASIA AND PERISPOMENI AND PROSGEGRAMMENIgSMALL LETTER ALPHA WITH VRACHYzWITH MACRON" ++
     "zWITH VARIA AND YPOGEGRAMMENIzWITH YPOGEGRAMMENIzWITH OXIA AND YPOGEGRAMMENI"),
   (0x1fb6, "aGREEK SMALL LETTER ALPHA WITH PERISPOMENIzWITH PERISPOMENI AND YPOGEGRAMMENIgCAPITAL LETTER ALPHA " ++
     "WITH VRACHYzA WITH MACRONzA WITH VARIAzA WITH OXIAzA WITH PROSGEGRAMMENIgKORONISgPROSGEGRAMMENIhSILIhERISP" ++
     "OMENIgDIALYTIKA AND PERISPOMENIgSMALL LETTER ETA WITH VARIA AND YPOGEGRAMMENIzTH YPOGEGRAMMENIzTH OXIA AND" ++
     " YPOGEGRAMMENI"),
   (0x1fc6, "aGREEK SMALL LETTER ETA WITH PERISPOMENIzTH PERISPOMENI AND YPOGEGRAMMENIgCAPITAL LETTER EPSILON WI" ++
     "TH VARIAzLON WITH OXIAwTA WITH VARIAzWITH OXIAzWITH PROSGEGRAMMENIgPSILI AND VARIAqOXIAqPERISPOMENIgSMALL " ++
     "LETTER IOTA WITH VRACHYzITH MACRONzITH DIALYTIKA AND VARIAzITH DIALYTIKA AND OXIA"),
   (0x1fd6, "aGREEK SMALL LETTER IOTA WITH PERISPOMENIzITH DIALYTIKA AND PERISPOMENIgCAPITAL LETTER IOTA WITH VR" ++
     "ACHYz WITH MACRONz WITH VARIAz WITH OXIA"),
   (0x1fdd, "aGREEK DASIA AND VARIAqOXIAqPERISPOMENIgSMALL LETTER UPSILON WITH VRACHYzN WITH MACRONzN WITH DIALY" ++
     "TIKA AND VARIAzN WITH DIALYTIKA AND OXIAtRHO WITH PSILIzTH DASIAtUPSILON WITH PERISPOMENIzN WITH DIALYTIKA" ++
     " AND PERISPOMENIgCAPITAL LETTER UPSILON WITH VRACHYzLON WITH MACRONzLON WITH VARIAzLON WITH OXIAvRHO WITH " ++
     "DASIAgDIALYTIKA AND VARIAuOXIAgVARIA"),
   (0x1ff2, "aGREEK SMALL LETTER OMEGA WITH VARIA AND YPOGEGRAMMENIzWITH YPOGEGRAMMENIzWITH OXIA AND YPOGEGRAMMENI"),
   (0x1ff6, "aGREEK SMALL LETTER OMEGA WITH PERISPOMENIzWITH PERISPOMENI AND YPOGEGRAMMENIgCAPITAL LETTER OMICRO" ++
     "N WITH VARIAzRON WITH OXIAxEGA WITH VARIAzA WITH OXIAzA WITH PROSGEGRAMMENIgOXIAgDASIA")]

end AttrsUpgrade.Text
