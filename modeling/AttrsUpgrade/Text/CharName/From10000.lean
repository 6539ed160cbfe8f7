/-!
# Names of characters from U+10000 to U+11FFF
-/

namespace AttrsUpgrade.Text

/-- Runs of names in the short form that `nameIndex?` reads. -/
def nameRuns10000 : List (Nat × String) :=
  [(0x10000, "aLINEAR B SYLLABLE B008 Au38 Eu28 Iu61 Ou10 Uu01 DAu45 DEu07 DIu14 DOu51 DUv7 JAu46 JE"),
   (0x1000d, "aLINEAR B SYLLABLE B036 JOu65 JUu77 KAu44 KEu67 KIu70 KOu81 KUv0 MAu13 MEu73 MIu15 MOu23 MUu06 NAu" ++
     "24 NEu30 NIu52 NOv5 NUu03 PAu72 PEu39 PIu11 POu50 PUu16 QAu78 QEu21 QIu32 QO"),
   (0x10028, "aLINEAR B SYLLABLE B060 RAu27 REu53 RIu02 ROu26 RUu31 SAu09 SEu41 SIu12 SOu58 SUv9 TAu04 TEu37 TIu" ++
     "05 TOu69 TUu54 WAu75 WEu40 WIv2 WO"),
   (0x1003c, "aLINEAR B SYLLABLE B017 ZAu74 ZE"),
   (0x1003f, "aLINEAR B SYLLABLE B020 ZOv5 A2u43 A3u85 AUu71 DWEu90 DWOu48 NWAu29 PU2u62 PTEu76 RA2u33 RA3u68 RO" ++
     "2v6 TA2u87 TWEu91 TWO"),
   (0x10050, "aLINEAR B SYMBOL B018t9s22s34s47t9s56s63t4s79s82t3t6t9"),
   (0x10080, "aLINEAR B IDEOGRAM B100 MANv2 WOMANv4 DEERv5 EQUIDwF MAREwM STALLIONv6F EWEwM RAMv7F SHE-GOATwM HE" ++
     "-GOATv8F SOWwM BOARv9F COWwM BULLu20 WHEATv1 BARLEYv2 OLIVEv3 SPICEv5 CYPERUSjMONOGRAM B127 KAPOv8 KANAKOj" ++
     "IDEOGRAM B130 OILv1 WINEv2jMONOGRAM B133 AREPAv5 MERIjIDEOGRAM B140 BRONZEv1 GOLDv2v5 WOOLv6u50v1 HORNv2v3" ++
     "v4jMONOGRAM B156 TURO2jIDEOGRAM B157v8v9 CLOTHu60v1v2 GARMENTv3 ARMOURv4v5v6v7v8v9u70v1v2v3 MONTHv4v6 TREE" ++
     "v7v8v9u80v1v2v3v4v5v9u90v1 HELMETt220 FOOTSTOOLv5 BATHTUBu30 SPEARv1 ARROWv2v3 SWORDv4v6u40 WHEELED CHARIO" ++
     "Tv1 CHARIOTv2 CHARIOT FRAMEv3 WHEELv5v6jMONOGRAM B247 DIPTEjIDEOGRAM B248v9u51v2v3v4 DARTv5v6v7v8v9sVESSEL" ++
     " B155zB200zB201zB202zB203zB204zB205zB206zB207zB208zB209zB210zB211zB212zB213zB214zB215zB216zB217zB218zB219z" ++
     "B221zB222zB226zB227zB228zB229zB250zB305"),
   (0x10100, "aAEGEAN WORD SEPARATOR LINEwDOThCHECK MARK"),
   (0x10107, "aAEGEAN NUMBER ONEoTWOpHREEoFOURpIVEoSIXpEVENoEIGHToNINEoTENpWENTYpHIRTYoFORTYpIFTYoSIXTYpEVENTYoE" ++
     "IGHTYoNINETYoONE HUNDREDoTWO HUNDREDpHREE HUNDREDoFOUR HUNDREDpIVE HUNDREDoSIX HUNDREDpEVEN HUNDREDoEIGHT " ++
     "HUNDREDoNINE HUNDREDoONE THOUSANDoTWO THOUSANDpHREE THOUSANDoFOUR THOUSANDpIVE THOUSANDoSIX THOUSANDpEVEN " ++
     "THOUSANDoEIGHT THOUSANDoNINE THOUSANDoTEN THOUSANDpWENTY THOUSANDpHIRTY THOUSANDoFORTY THOUSANDpIFTY THOUS" ++
     "ANDoSIXTY THOUSANDpEVENTY THOUSANDoEIGHTY THOUSANDoNINETY THOUSAND"),
   (0x10137, "aAEGEAN WEIGHT BASE UNIToFIRST SUBUNIToSECOND SUBUNIToTHIRD SUBUNIToFOURTH SUBUNIThDRY MEASURE FIR" ++
     "ST SUBUNIThLIQUID MEASURE FIRST SUBUNIThMEASURE SECOND SUBUNITpTHIRD SUBUNITaGREEK ACROPHONIC ATTIC ONE QU" ++
     "ARTERzE HALFzE DRACHMAxFIVEzFTYzVE HUNDREDzVE THOUSANDzFTY THOUSANDzVE TALENTSxTEN TALENTSxFIFTY TALENTSxO" ++
     "NE HUNDRED TALENTSxFIVE HUNDRED TALENTSxONE THOUSAND TALENTSxFIVE THOUSAND TALENTSzVE STATERSxTEN STATERSx" ++
     "FIFTY STATERSxONE HUNDRED STATERSxFIVE HUNDRED STATERSxONE THOUSAND STATERSxTEN THOUSAND STATERSxFIFTY THO" ++
     "USAND STATERSxTEN MNASrHERAEUM ONE PLETHRONrTHESPIAN ONErHERMIONIAN ONErEPIDAUREAN TWOrTHESPIAN TWOrCYRENA" ++
     "IC TWO DRACHMASrEPIDAUREAN TWO DRACHMASrTROEZENIAN FIVEzAN TENzAN TEN ALTERNATE FORMrHERMIONIAN TENrMESSEN" ++
     "IAN TENrTHESPIAN TENz THIRTYsROEZENIAN FIFTYzAN FIFTY ALTERNATE FORMrHERMIONIAN FIFTYrTHESPIAN FIFTYz ONE " ++
     "HUNDREDz THREE HUNDREDrEPIDAUREAN FIVE HUNDREDrTROEZENIAN FIVE HUNDREDsHESPIAN FIVE HUNDREDrCARYSTIAN FIVE" ++
     " HUNDREDrNAXIAN FIVE HUNDREDrTHESPIAN ONE THOUSANDz FIVE THOUSANDrDELPHIC FIVE MNASrSTRATIAN FIFTY MNASgON" ++
     "E HALF SIGNt ALTERNATE FORMgTWO THIRDS SIGNhHREE QUARTERS SIGNgYEAR SIGNgTALENT SIGNgDRACHMA SIGNgOBOL SIG" ++
     "NgTWO OBOLS SIGNhHREE OBOLS SIGNgFOUR OBOLS SIGNhIVE OBOLS SIGNgMETRETES SIGNgKYATHOS BASE SIGNgLITRA SIGN" ++
     "gOUNKIA SIGNgXESTES SIGNgARTABE SIGNiOURA SIGNgGRAMMA SIGNgTRYBLION BASE SIGNgZERO SIGNgONE QUARTER SIGNgS" ++
     "INUSOID SIGNgINDICTION SIGNaNOMISMA SIGN"),
   (0x10190, "aROMAN SEXTANS SIGNgUNCIA SIGNgSEMUNCIA SIGNiXTULA SIGNgDIMIDIA SEXTULA SIGNgSILIQUA SIGNgDENARIUS" ++
     " SIGNgQUINARIUS SIGNgSESTERTIUS SIGNgDUPONDIUS SIGNgAS SIGNgCENTURIAL SIGNaASCIA SYMBOL"),
   (0x101a0, "aGREEK SYMBOL TAU RHO"),
   (0x101d0, "aPHAISTOS DISC SIGN PEDESTRIANuLUMED HEADtTATTOOED HEADtCAPTIVEuHILDtWOMANtHELMETtGAUNTLETtTIARAtA" ++
     "RROWtBOWtSHIELDtCLUBtMANACLESvTTOCKtSAWtLIDtBOOMERANGtCARPENTRY PLANEtDOLIUMtCOMBtSLINGtCOLUMNtBEEHIVEtSHI" ++
     "PtHORNuIDEtBULLS LEGtCATtRAMtEAGLEtDOVEtTUNNYtBEEtPLANE TREEtVINEtPAPYRUStROSETTEtLILYtOX BACKtFLUTEtGRATE" ++
     "RtSTRAINERuMALL AXEtWAVY BANDtCOMBINING OBLIQUE STROKE"),
   (0x10280, "aLYCIAN LETTER AoEoBpHoGoDoIoWoZoTHoJoKoQoLoMoNoMMoNNoUoPoKKoRoSoTpToANoENoHoX"),
   (0x102a0, "aCARIAN LETTER AoP2oDoLoUUUoRoLDoA2oQoBoMoOoD2oToSHq2poC-18oUoNNoXoNoTT2oPoSSoIoEoUUUUoKp2oNDoUUoG" ++
     "p2oSTq2oNGoIIoC-39oTToUUU2oRRoMBq2q3q4oLD2oE2oUUU3"),
   (0x102e0, "aCOPTIC EPACT THOUSANDS MARKnDIGIT ONEtTWOuHREEtFOURuIVEtSIXuEVENtEIGHTtNINEnNUMBER TENvWENTYvHIRT" ++
     "YuFORTYvIFTYuSIXTYvEVENTYuEIGHTYuNINETYuONE HUNDREDuTWO HUNDREDvHREE HUNDREDuFOUR HUNDREDvIVE HUNDREDuSIX " ++
     "HUNDREDvEVEN HUNDREDuEIGHT HUNDREDuNINE HUNDRED"),
   (0x10300, "aOLD ITALIC LETTER AsBEsKEsDEsEsVEsZEsHEsTHEsIsKAsELtMtNtSHsOsPEsSHEsKUsERtSsTEsUsEKSsPHEsKHEsEFtR" ++
     "SsCHEsIIsUUsESSlNUMERAL ONEtFIVEtTENtFIFTY"),
   (0x1032d, "aOLD ITALIC LETTER YEsNORTHERN TSEsSOUTHERN TSEaGOTHIC LETTER AHSAoBAIRKANoGIBAoDAGSoAIHVUSoQAIRTH" ++
     "RAoIUJAoHAGLoTHIUTHoEISoKUSMAoLAGUSoMANNAoNAUTHSoJERoURUSoPAIRTHRAoNINETYoRAIDAoSAUILoTEIWSoWINJAoFAIHUoIG" ++
     "GWSoHWAIRoOTHALoNINE HUNDRED"),
   (0x10350, "aOLD PERMIC LETTER ANsBURsGAIsDOIsEsZHOIsDZHOIsZATAsDZITAsIsKOKEsLEIsMENOEsNENOEsVOOIsPEEIsREIsSII" ++
     "sTAIsUsCHERYsSHOOIuCHOOIsYRYtERUsOtOsEFsHAsTSIUsVERsYERvItATsIEsYUtAsIAaCOMBINING OLD PERMIC LETTER ANzER " ++
     "DOIzER ZATAzER NENOEzER SII"),
   (0x10380, "aUGARITIC LETTER ALPAqBETAqGAMLAqKHAqDELTAqHOqWOqZETAqHOTAqTETqYODqKAFqSHINqLAMDAqMEMqDHALqNUNqZUq" ++
     "SAMKAqAINqPUqSADEqQOPAqRASHAqTHANNAqGHAINqTOqIqUqSSU"),
   (0x1039f, "aUGARITIC WORD DIVIDERaOLD PERSIAN SIGN ArIrUrKAsUrGAsUrXArCArJAsIrTAsUrDAsIsUrTHArPArBArFArNAsUrM" ++
     "AsIsUrYArVAsIrRAsUrLArSArZArSHAsSArHA"),
   (0x103c8, "aOLD PERSIAN SIGN AURAMAZDAAzAA-2zAAHArXSHAAYATHIYArDAHYAAUSHzH-2rBAGAsUUMISHmWORD DIVIDERmNUMBER " ++
     "ONEtTWOuENuWENTYtHUNDRED"),
   (0x10400, "aDESERET CAPITAL LETTER LONG IzNG EzNG AzNG AHzNG OzNG OOxSHORT IzORT EzORT AzORT AHzORT OzORT OOx" ++
     "AYxOWxWUxYEExHxPEExBEExTEExDEExCHEExJEExKAYxGAYxEFxVEExETHxTHEExESxZEExESHxZHEExERyLyMyNzGxOIxEWiSMALL LET" ++
     "TER LONG Iz Ez Az AHz Oz OOvSHORT IzT EzT AzT AHzT OzT OOvAYvOWvWUvYEEvHvPEEvBEEvTEEvDEEvCHEEvJEEvKAYvGAYv" ++
     "EFvVEEvETHvTHEEvESvZEEvESHvZHEEvERwLwMwNxGvOIvEWaSHAVIAN LETTER PEEPpTOTpKICKpFEEpTHIGHpSOqUREpCHURCHpYEAp" ++
     "HUNGpBIBpDEADpGAGpVOWpTHEYpZOOpMEASUREpJUDGEpWOEpHA-HApLOLLpMIMEpIFpEGGpASHqDOpONpWOOLpOUTpAHpROARpNUNpEAT" ++
     "pAGEpICEpUPpOAKqOZEqILpAWEqREpORpAIRpERRpARRAYpEARpIANpYEWaOSMANYA LETTER ALEFpBApTApJApXApKHApDEELpRApSAq" ++
     "HIINpDHApCAYNpGApFApQAAFpKAAFpLAANpMIINpNUUNpWAWpHApYApApEpIpOpUpAApEEpOO"),
   (0x104a0, "aOSMANYA DIGIT ZEROoONEoTWOpHREEoFOURpIVEoSIXpEVENoEIGHToNINE"),
   (0x104b0, "aOSAGE CAPITAL LETTER AwIxNwHvBRAvCHAvEHCHAwwINvHAwYAvIvKAvEHKAvKYAvLAvMAvNAvOwINvPAvEHPAvSAwHAvTA" ++
     "vEHTAvTSAvEHTSAvTSHAvDHAvUvWAvKHAvGHAvZAwHA"),
   (0x104d8, "aOSAGE SMALL LETTER AuIvNuHtBRAtCHAtEHCHAuuINtHAuYAtItKAtEHKAtKYAtLAtMAtNAtOuINtPAtEHPAtSAuHAtTAtE" ++
     "HTAtTSAtEHTSAtTSHAtDHAtUtWAtKHAtGHAtZAuHA"),
   (0x10500, "aELBASAN LETTER ApBEpCEqHEpDEpNDEpDHEpEIqpFEpGEqJEpHEpIpJEpKEpLEqLEpMEpNEqAqJEpOpPEpQEpREqREpSEqHE" ++
     "pTEqHEpUpVEpXEpYpZEqHEpGHErAMMApKHE"),
   (0x10530, "aCAUCASIAN ALBANIAN LETTER ALTz BETz GIMz DATz EBz ZARLz EYNz ZHILz TASz CHAz YOWDz ZHAz IRBz SHAz" ++
     " LANz INYAz XEYNz DYANz CARz JHOXz KARz LYITz HEYTz QAYz AORz CHOYz CHIz CYAYz MAQz QARz NOWCz DZYAYz SHAK" ++
     "z JAYNz ONz TYAYz FAMz DZAYz CHATz PENz GHEYSz RATz SEYKz VEYZz TIWRz SHOYz IWNz CYAWz CAYNz YAYDz PIWRz K" ++
     "IW"),
   (0x1056f, "aCAUCASIAN ALBANIAN CITATION MARKaVITHKUQI CAPITAL LETTER AyBBEzEyCEzHEyDEzHEyEIzyFEyGA"),
   (0x1057c, "aVITHKUQI CAPITAL LETTER HAzHAyIzJEyJEyKAyLAzLAyMEyNEzJEyOyPEyQAyRE"),
   (0x1058c, "aVITHKUQI CAPITAL LETTER SEzHEyTEzHEyUyVEyXE"),
   (0x10594, "aVITHKUQI CAPITAL LETTER YyZE"),
   (0x10597, "aVITHKUQI SMALL LETTER AwBBExEwCExHEwDExHEwEIxwFEwGA"),
   (0x105a3, "aVITHKUQI SMALL LETTER HAxHAwIxJEwJEwKAwLAxLAwMEwNExJEwOwPEwQAwRE"),
   (0x105b3, "aVITHKUQI SMALL LETTER SExHEwTExHEwUwVEwXE"),
   (0x105bb, "aVITHKUQI SMALL LETTER YwZE"),
   (0x10600, "aLINEAR A SIGN AB001s2s3s4s5s6s7s8s9r10s1s3s6s7r20s1tFtMs2tFtMs3tMs4s6s7s8p028BpB029r30s1s4s7s8s9r" ++
     "40s1s4s5s6s7s8s9r50s1s3s4s5s6s7s8s9r60s1s5s6s7s9r70s3s4s6s7s8s9r80s1s2s5s6s7p100-102pB118r20p120BpB122s3r3" ++
     "1AtBp131CpB164r71r80s8r91p301r2r3r4r5r6r7r8r9AsBsCq10r1r2r3AsBsCr4r5r6r7r8r9q20r1r2r3r4r5r6r7r8r9q30r1r2r3" ++
     "r4r5r6r7r8r9q40r1r2r3r4r5r6r7r8r9q50r1r2r3r4r5r6r7r8r9q60r1r2r3r4r5r6r7r8r9q70r1p400-VASr1-VASr2-VASr3-VAS" ++
     "r4-VASr5-VASr6-VASr7-VASr8-VASr9-VASq10-VASr1-VASr2-VASr3-VASr4-VASr5-VASr6-VASr7-VASr8-VASp501r2r3r4r5r6r" ++
     "8r9q10r1r2r3r5r6q20r1r3r4r5r6r7r8r9q30r1r2r4r5r6r7r8r9q40r1r2r5r7r8r9q50r1r2r3r4r5r6r7r9q63r4r5r6r8r9q70r1" ++
     "r2r3r4r5r6r7r8r9q80r1r2r3r4r5r6r7r8r9q91r2r4r5r6r8p600r1r2r3r4r6r8r9q10r1r2r3r4r5r6r7r8r9q20r1r2r3r4r6r7r8" ++
     "r9q34r7r8q40r2r3r4r5r6r8r9q51r2r3r4r5r6r7r8r9q60r1r2r3r4"),
   (0x10740, "aLINEAR A SIGN A701 Ar2 Br3 Dr4 Er5 Fr6 Hr7 Jr8 Kr9 Ls-2 L2t3 L3t4 L4t6 L6q10 Wr1 Xr2 Yr3 OMEGAr4 " ++
     "ABBr5 BBr7 DDq26 EYYYq32 JE"),
   (0x10760, "aLINEAR A SIGN A800r1r2r3r4r5r6r7"),
   (0x10780, "aMODIFIER LETTER SMALL CAPITAL AArUPERSCRIPT TRIANGULAR COLONzPT HALF TRIANGULAR COLONrMALL AEwCAP" ++
     "ITAL BwB WITH HOOK"),
   (0x10787, "aMODIFIER LETTER SMALL DZ DIGRAPHzDIGRAPH WITH RETROFLEX HOOKzDIGRAPH WITH CURLxEZH DIGRAPHx WITH " ++
     "TAILzITH HOOKzITH HOOK AND TAILwREVERSED EwCLOSED REVERSED OPEN EwFENG DIGRAPHwRAMS HORNwCAPITAL GwG WITH " ++
     "HOOKwCAPITAL G WITH HOOKwH WITH STROKEwCAPITAL HwHENG WITH HOOKwDOTLESS J WITH STROKE AND HOOKwLS DIGRAPHx" ++
     "Z DIGRAPHx WITH BELTwCAPITAL L WITH BELTwL WITH RETROFLEX HOOK AND BELTxEZHzH WITH RETROFLEX HOOKwTURNED Y" ++
     "zNED Y WITH BELTwO WITH STROKEwCAPITAL OExLOSED OMEGAwQwTURNED R WITH LONG LEGzNED R WITH LONG LEG AND RET" ++
     "ROFLEX HOOKwR WITH TAILzITH FISHHOOKwCAPITAL RwTC DIGRAPH WITH CURLxS DIGRAPHzDIGRAPH WITH RETROFLEX HOOKx" ++
     "ESH DIGRAPHx WITH RETROFLEX HOOKwV WITH RIGHT HOOK"),
   (0x107b2, "aMODIFIER LETTER SMALL CAPITAL YqGLOTTAL STOP WITH STROKEqREVERSED GLOTTAL STOP WITH STROKEqBILABI" ++
     "AL CLICKqDENTAL CLICKqLATERAL CLICKqALVEOLAR CLICKqRETROFLEX CLICK WITH RETROFLEX HOOKqSMALL S WITH CURL"),
   (0x10800, "aCYPRIOT SYLLABLE ArErIrOrUrJA"),
   (0x10808, "aCYPRIOT SYLLABLE JO"),
   (0x1080a, "aCYPRIOT SYLLABLE KAsEsIsOsUrLAsEsIsOsUrMAsEsIsOsUrNAsEsIsOsUrPAsEsIsOsUrRAsEsIsOsUrSAsEsIsOsUrTAs" ++
     "EsIsOsUrWAsEsIsO"),
   (0x10837, "aCYPRIOT SYLLABLE XAsE"),
   (0x1083c, "aCYPRIOT SYLLABLE ZA"),
   (0x1083f, "aCYPRIOT SYLLABLE ZOaIMPERIAL ARAMAIC LETTER ALEPHyBETHyGIMELyDALETHyHEyWAWyZAYINyHETHyTETHyYODHyK" ++
     "APHyLAMEDHyMEMyNUNySAMEKHyAYINyPEySADHEyQOPHyRESHySHINyTAW"),
   (0x10857, "aIMPERIAL ARAMAIC SECTION SIGNrNUMBER ONEyTWOzHREEzENzWENTYyONE HUNDREDzNE THOUSANDyTEN THOUSANDaP" ++
     "ALMYRENE LETTER ALEPHrBETHrGIMELrDALETHrHErWAWrZAYINrHETHrTETHrYODHrKAPHrLAMEDHrMEMrFINAL NUNrNUNrSAMEKHrA" ++
     "YINrPErSADHErQOPHrRESHrSHINrTAWmFT-POINTING FLEURONkRIGHT-POINTING FLEURONkNUMBER ONErTWOsHREErFOURsIVErTE" ++
     "NsWENTYaNABATAEAN LETTER FINAL ALEPHrALEPHrFINAL BETHrBETHrGIMELrDALETHrFINAL HErHErWAWrZAYINrHETHrTETHrFI" ++
     "NAL YODHrYODHrFINAL KAPHrKAPHrFINAL LAMEDHrLAMEDHrFINAL MEMrMEMrFINAL NUNrNUNrSAMEKHrAYINrPErSADHErQOPHrRE" ++
     "SHrFINAL SHINrSHINrTAW"),
   (0x108a7, "aNABATAEAN NUMBER ONErTWOsHREErFOURkCRUCIFORM NUMBER FOURkNUMBER FIVErTENsWENTYrONE HUNDRED"),
   (0x108e0, "aHATRAN LETTER ALEPHoBETHoGIMELoDALETH-RESHoHEoWAWoZAYNoHETHoTETHoYODHoKAPHoLAMEDHoMEMoNUNoSAMEKHo" ++
     "AYNoPEoSADHEoQOPH"),
   (0x108f4, "aHATRAN LETTER SHINoTAW"),
   (0x108fb, "aHATRAN NUMBER ONEoFIVEoTENpWENTYoONE HUNDREDaPHOENICIAN LETTER ALFsBETsGAMLsDELTsHEsWAUsZAIsHETsT" ++
     "ETsYODsKAFsLAMDsMEMsNUNsSEMKsAINsPEsSADEsQOFsROSHsSHINsTAUlNUMBER ONEsTENtWENTYsONE HUNDREDsTWOtHREE"),
   (0x1091f, "aPHOENICIAN WORD SEPARATORaLYDIAN LETTER AoBoGoDoEoVoIoYoKoLoMoNoOoRoSSoToUoFoQoSoTToANoENoLYoNNoC"),
   (0x1093f, "aLYDIAN TRIANGULAR MARK"),
   (0x10980, "aMEROITIC HIEROGLYPHIC LETTER AzTER EzTER IzTER OzTER YAzTER WAzTER BAzTER BA-2zTER PAzTER MAzTER " ++
     "NAzTER NA-2zTER NEzTER NE-2zTER RAzTER RA-2zTER LAzTER KHAzTER HHAzTER SAzTER SA-2zTER SEzTER KAzTER QAzTE" ++
     "R TAzTER TA-2zTER TEzTER TE-2zTER TOzTER DAwSYMBOL VIDJzBOL VIDJ-2jCURSIVE LETTER AyEyIyOyYAyWAyBAyPAyMAyN" ++
     "AzEyRAyLAyKHAyHHAySAyARCHAIC SAySEyKAyQAyTAzEzOyDA"),
   (0x109bc, "aMEROITIC CURSIVE FRACTION ELEVEN TWELFTHSz ONE HALFrLOGOGRAM RMTz IMNrNUMBER ONEyTWOzHREEyFOURzIV" ++
     "EySIXzEVENyEIGHTyNINEyTENzWENTYzHIRTYyFORTYzIFTYySIXTYzEVENTY"),
   (0x109d2, "aMEROITIC CURSIVE NUMBER ONE HUNDREDyTWO HUNDREDzHREE HUNDREDyFOUR HUNDREDzIVE HUNDREDySIX HUNDRED" ++
     "zEVEN HUNDREDyEIGHT HUNDREDyNINE HUNDREDyONE THOUSANDyTWO THOUSANDzHREE THOUSANDyFOUR THOUSANDzIVE THOUSAN" ++
     "DySIX THOUSANDzEVEN THOUSANDyEIGHT THOUSANDyNINE THOUSANDyTEN THOUSANDzWENTY THOUSANDzHIRTY THOUSANDyFORTY" ++
     " THOUSANDzIFTY THOUSANDySIXTY THOUSANDzEVENTY THOUSANDyEIGHTY THOUSANDyNINETY THOUSANDyONE HUNDRED THOUSAN" ++
     "DyTWO HUNDRED THOUSANDzHREE HUNDRED THOUSANDyFOUR HUNDRED THOUSANDzIVE HUNDRED THOUSANDySIX HUNDRED THOUSA" ++
     "NDzEVEN HUNDRED THOUSANDyEIGHT HUNDRED THOUSANDyNINE HUNDRED THOUSANDrFRACTION ONE TWELFTHz TWO TWELFTHSz " ++
     "THREE TWELFTHSz FOUR TWELFTHSz FIVE TWELFTHSz SIX TWELFTHSz SEVEN TWELFTHSz EIGHT TWELFTHSz NINE TWELFTHSz" ++
     " TEN TWELFTHSaKHAROSHTHI LETTER AlVOWEL SIGN IwUwVOCALIC R"),
   (0x10a05, "aKHAROSHTHI VOWEL SIGN EwO"),
   (0x10a0c, "aKHAROSHTHI VOWEL LENGTH MARKlSIGN DOUBLE RING BELOWqANUSVARAqVISARGAlLETTER KAtHAsGAtHA"),
   (0x10a15, "aKHAROSHTHI LETTER CAtHAsJA"),
   (0x10a19, "aKHAROSHTHI LETTER NYAsTTAuHAsDDAuHAsNNAsTAtHAsDAtHAsNAsPAtHAsBAtHAsMAsYAsRAsLAsVAsSHAtSAtAsZAsHAs" ++
     "KKAsTTTHAvAsVHA"),
   (0x10a38, "aKHAROSHTHI SIGN BAR ABOVEqCAUDAqDOT BELOW"),
   (0x10a3f, "aKHAROSHTHI VIRAMAlDIGIT ONErTWOsHREErFOURlNUMBER TENtWENTYsONE HUNDREDwTHOUSANDlFRACTION ONE HALF"),
   (0x10a50, "aKHAROSHTHI PUNCTUATION DOTxSMALL CIRCLExCIRCLEyRESCENT BARxMANGALAMxLOTUSxDANDAyOUBLE DANDAxLINES"),
   (0x10a60, "aOLD SOUTH ARABIAN LETTER HEzLAMEDHzHETHzMEMzQOPHzWAWzSHINzRESHzBETHzTAWzSATzKAPHzNUNzKHETHzSADHEz" ++
     "SAMEKHzFEzALEFzAYNzDHADHEzGIMELzDALETHzGHAYNzTETHzZAYNzDHALETHzYODHzTHAWzTHETHsNUMBER ONEzFIFTYvERIC INDIC" ++
     "ATOReNORTH ARABIAN LETTER HEHzLAMzHAHzMEEMzQAFzWAWzES-2zREHzBEHzTEHzES-1zKAFzNOONzKHAHzSADzES-3zFEHzALEFzA" ++
     "INzDADzGEEMzDALzGHAINzTAHzZAINzTHALzYEHzTHEHzZAHsNUMBER ONEzTENzTWENTY"),
   (0x10ac0, "aMANICHAEAN LETTER ALEPHsBETHtHETHsGIMELtHIMELsDALETHsHEsWAWlSIGN UDlLETTER ZAYINtHAYINsJAYINtHAYI" ++
     "NsHETHsTETHsYODHsKAPHsXAPHsKHAPHsLAMEDHsDHAMEDHsTHAMEDHsMEMsNUNsSAMEKHsAYINtAYINsPEsFEsSADHEsQOPHsXOPHsQHO" ++
     "PHsRESHsSHINtSHINsTAWlABBREVIATION MARK ABOVEzARK BELOW"),
   (0x10aeb, "aMANICHAEAN NUMBER ONEsFIVEsTENtWENTYsONE HUNDREDlPUNCTUATION STARxFLEURONxDOUBLE DOT WITHIN DOTzT" ++
     " WITHIN DOTzTxTWO DOTSxLINE FILLER"),
   (0x10b00, "aAVESTAN LETTER AqAqOqAOqNqANqErEpEqEpOqOpIqIpUqUpKEpXEqYEqVEpGEqGEqHEpCEpJEpTEqHEpDEqHEpTTEpPEpFE" ++
     "pBEqHEpNGErYErVEqEqYEqNEpMEpHMEpYYEqEpVEpREpLEpSEpZEpSHEpZHEpSHYEqSHEpHE"),
   (0x10b39, "aAVESTAN ABBREVIATION MARKaTINY TWO DOTS OVER ONE DOT PUNCTUATIONaSMALL TWO DOTS OVER ONE DOT PUNC" ++
     "TUATIONaLARGE TWO DOTS OVER ONE DOT PUNCTUATIONgONE DOT OVER TWO DOTS PUNCTUATIONgTWO RINGS OVER ONE RING " ++
     "PUNCTUATIONgONE RING OVER TWO RINGS PUNCTUATIONaINSCRIPTIONAL PARTHIAN LETTER ALEPHzTTER BETHzTTER GIMELzT" ++
     "TER DALETHzTTER HEzTTER WAWzTTER ZAYINzTTER HETHzTTER TETHzTTER YODHzTTER KAPHzTTER LAMEDHzTTER MEMzTTER N" ++
     "UNzTTER SAMEKHzTTER AYINzTTER PEzTTER SADHEzTTER QOPHzTTER RESHzTTER SHINzTTER TAW"),
   (0x10b58, "aINSCRIPTIONAL PARTHIAN NUMBER ONEzMBER TWOzMBER THREEzMBER FOURzMBER TENzMBER TWENTYzMBER ONE HUN" ++
     "DREDzMBER ONE THOUSANDqHLAVI LETTER ALEPHzTER BETHzTER GIMELzTER DALETHzTER HEzTER WAW-AYIN-RESHzTER ZAYIN" ++
     "zTER HETHzTER TETHzTER YODHzTER KAPHzTER LAMEDHzTER MEM-QOPHzTER NUNzTER SAMEKHzTER PEzTER SADHEzTER SHINz" ++
     "TER TAW"),
   (0x10b78, "aINSCRIPTIONAL PAHLAVI NUMBER ONEzBER TWOzBER THREEzBER FOURzBER TENzBER TWENTYzBER ONE HUNDREDzBE" ++
     "R ONE THOUSANDaPSALTER PAHLAVI LETTER ALEPHxBETHxGIMELxDALETHxHExWAW-AYIN-RESHxZAYINxHETHxYODHxKAPHxLAMEDH" ++
     "xMEM-QOPHxNUNxSAMEKHxPExSADHEyHINxTAW"),
   (0x10b99, "aPSALTER PAHLAVI SECTION MARKqTURNED SECTION MARKqFOUR DOTS WITH CROSSz WITH DOT"),
   (0x10ba9, "aPSALTER PAHLAVI NUMBER ONExTWOyHREExFOURxTENyWENTYxONE HUNDRED"),
   (0x10c00, "aOLD TURKIC LETTER ORKHON AsYENISEI Az AEsORKHON IsYENISEI Iz EsORKHON OzOEsYENISEI OEsORKHON ABsY" ++
     "ENISEI ABsORKHON AEBsYENISEI AEBsORKHON AGsYENISEI AGsORKHON AEGsYENISEI AEGsORKHON ADsYENISEI ADsORKHON A" ++
     "EDzEZsYENISEI EZsORKHON AYsYENISEI AYsORKHON AEYsYENISEI AEYsORKHON AEKsYENISEI AEKsORKHON OEKsYENISEI OEK" ++
     "sORKHON ALsYENISEI ALsORKHON AELzELTzEMzANzAENsYENISEI AENsORKHON ENTsYENISEI ENTsORKHON ENCsYENISEI ENCsO" ++
     "RKHON ENYsYENISEI ENYz ANGsORKHON ENGsYENISEI AENGsORKHON EPzOPzICzECsYENISEI ECsORKHON AQsYENISEI AQsORKH" ++
     "ON IQsYENISEI IQsORKHON OQsYENISEI OQsORKHON ARsYENISEI ARsORKHON AERzASzAESzASHsYENISEI ASHsORKHON ESHsYE" ++
     "NISEI ESHsORKHON ATsYENISEI ATsORKHON AETsYENISEI AETsORKHON OTzBASH"),
   (0x10c80, "aOLD HUNGARIAN CAPITAL LETTER AzTER AAzTER EBzTER AMBzTER ECzTER ENCzTER ECSzTER EDzTER ANDzTER Ez" ++
     "TER CLOSE EzTER EEzTER EFzTER EGzTER EGYzTER EHzTER IzTER IIzTER EJzTER EKzTER AKzTER UNKzTER ELzTER ELYzT" ++
     "ER EMzTER ENzTER ENYzTER OzTER OOzTER NIKOLSBURG OEzTER RUDIMENTA OEzTER OEEzTER EPzTER EMPzTER ERzTER SHO" ++
     "RT ERzTER ESzTER ESZzTER ETzTER ENTzTER ETYzTER ECHzTER UzTER UUzTER NIKOLSBURG UEzTER RUDIMENTA UEzTER EV" ++
     "zTER EZzTER EZSzTER ENT-SHAPED SIGNzTER US"),
   (0x10cc0, "aOLD HUNGARIAN SMALL LETTER AzR AAzR EBzR AMBzR ECzR ENCzR ECSzR EDzR ANDzR EzR CLOSE EzR EEzR EFz" ++
     "R EGzR EGYzR EHzR IzR IIzR EJzR EKzR AKzR UNKzR ELzR ELYzR EMzR ENzR ENYzR OzR OOzR NIKOLSBURG OEzR RUDIME" ++
     "NTA OEzR OEEzR EPzR EMPzR ERzR SHORT ERzR ESzR ESZzR ETzR ENTzR ETYzR ECHzR UzR UUzR NIKOLSBURG UEzR RUDIM" ++
     "ENTA UEzR EVzR EZzR EZSzR ENT-SHAPED SIGNzR US"),
   (0x10cfa, "aOLD HUNGARIAN NUMBER ONEvFIVEvTENvFIFTYvONE HUNDREDzTHOUSANDaHANIFI ROHINGYA LETTER AxBAxPAxTAyTA" ++
     "xJAxCAxHAxKHAxFAxDAyDAxRAyRAxZAxSAyHAxKAxGAxLAxMAxNAxWAxKINNA WAxYAxKINNA YAxNGAyYAxVAqVOWEL AwIwUwEwOqMAR" ++
     "K SAKINvNA KHONNAqSIGN HARBAHAYvTAHALAxNAxSSI"),
   (0x10d30, "aHANIFI ROHINGYA DIGIT ZEROwONEwTWOxHREEwFOURxIVEwSIXxEVENwEIGHTwNINE"),
   (0x10e60, "aRUMI DIGIT ONElTWOmHREElFOURmIVElSIXmEVENlEIGHTlNINEfNUMBER TENnWENTYnHIRTYmFORTYnIFTYmSIXTYnEVEN" ++
     "TYmEIGHTYmNINETYmONE HUNDREDmTWO HUNDREDnHREE HUNDREDmFOUR HUNDREDnIVE HUNDREDmSIX HUNDREDnEVEN HUNDREDmEI" ++
     "GHT HUNDREDmNINE HUNDREDfFRACTION ONE HALFsQUARTERsTHIRDoTWO THIRDS"),
   (0x10e80, "aYEZIDI LETTER ELIFoBEoPEpHEoTHEoSEoCIMpHIMqHIMoHHAoXAoDALoZALoRApHAoZAoJAoSINpHINpADoDADoTAoZEoEY" ++
     "NoXHEYNoFAoVAq ALTERNATE FORMoQAFoKAFpHAFoGAFoLAMoMIMoNUNoUMoWAWoOWoEWoHAYoYOToET"),
   (0x10eab, "aYEZIDI COMBINING HAMZA MARKrMADDA MARKhHYPHENATION MARK"),
   (0x10eb0, "aYEZIDI LETTER LAM WITH DOT ABOVEoYOT WITH CIRCUMFLEX ABOVE"),
   (0x10f00, "aOLD SOGDIAN LETTER ALEPHtFINAL ALEPHtBETHtFINAL BETHtGIMELtHEtFINAL HEtWAWtZAYINtHETHtYODHtKAPHtL" ++
     "AMEDHtMEMtNUNtFINAL NUNzNUN WITH VERTICAL TAILtSAMEKHtAYINuLTERNATE AYINtPEtSADHEtFINAL SADHEzSADHE WITH V" ++
     "ERTICAL TAILtRESH-AYIN-DALETHtSHINtTAWtFINAL TAWzTAW WITH VERTICAL TAILmNUMBER ONEtTWOuHREEtFOURuIVEtTENuW" ++
     "ENTYuHIRTYtONE HUNDREDmFRACTION ONE HALFmLIGATURE AYIN-DALETH"),
   (0x10f30, "aSOGDIAN LETTER ALEPHpBETHpGIMELpHEpWAWpZAYINpHETHpYODHpKAPHpLAMEDHpMEMpNUNpSAMEKHpAYINpPEpSADHEpR" ++
     "ESH-AYINpSHINpTAWpFETHpLESHiINDEPENDENT SHINiCOMBINING DOT BELOWsTWO DOTS BELOWsDOT ABOVEsTWO DOTS ABOVEsC" ++
     "URVE ABOVEyBELOWsHOOK ABOVExBELOWsLONG HOOK BELOWsRESH BELOWsSTROKE BELOWiNUMBER ONEpTENqWENTYpONE HUNDRED" ++
     "iPUNCTUATION TWO VERTICAL BARSzERTICAL BARS WITH DOTSuCIRCLE WITH DOTuTWO CIRCLES WITH DOTSuHALF CIRCLE WI" ++
     "TH DOT"),
   (0x10f70, "aOLD UYGHUR LETTER ALEPHsBETHsGIMEL-HETHsWAWsZAYINsFINAL HETHsYODHsKAPHsLAMEDHsMEMsNUNsSAMEKHsPEsS" ++
     "ADHEsRESHsSHINsTAWsLESHlCOMBINING DOT ABOVEzBELOWvTWO DOTS ABOVEzDOTS BELOWlPUNCTUATION BARxTWO BARSzO DOT" ++
     "SxFOUR DOTS"),
   (0x10fb0, "aCHORASMIAN LETTER ALEPHsSMALL ALEPHsBETHsGIMELsDALETHsHEsWAWsCURLED WAWsZAYINsHETHsYODHsKAPHsLAME" ++
     "DHsMEMsNUNsSAMEKHsAYINsPEsRESHsSHINsTAWlNUMBER ONEsTWOtHREEsFOURsTENtWENTYsONE HUNDRED"),
   (0x10fe0, "aELYMAIC LETTER ALEPHpBETHpGIMELpDALETHpHEpWAWpZAYINpHETHpTETHpYODHpKAPHpLAMEDHpMEMpNUNpSAMEKHpAYI" ++
     "NpPEpSADHEpQOPHpRESHpSHINpTAWjIGATURE ZAYIN-YODH"),
   (0x11000, "aBRAHMI SIGN CANDRABINDUmANUSVARAmVISARGAmJIHVAMULIYAmUPADHMANIYAhLETTER ApAoIpIoUpUoVOCALIC RxRwL" ++
     "xLoEoAIoOoAUoKApHAoGApHAoNGAoCApHAoJApHAoNYAoTTAqHAoDDAqHAoNNAoTApHAoDApHAoNAoPApHAoBApHAoMAoYAoRAoLAoVAoS" ++
     "HApSApAoHAoLLAoOLD TAMIL LLLAyRRAyNNNAhVOWEL SIGN AAsBHATTIPROLU AAsItIsUtUsVOCALIC Rz RRz Lz LLsEsAIsOsAU" ++
     "iIRAMAhDANDAiOUBLE DANDAhPUNCTUATION DOTvUBLE DOTtLINEtCRESCENT BARtLOTUS"),
   (0x11052, "aBRAHMI NUMBER ONEoTWOpHREEoFOURpIVEoSIXpEVENoEIGHToNINEoTENpWENTYpHIRTYoFORTYpIFTYoSIXTYpEVENTYoE" ++
     "IGHTYoNINETYoONE HUNDREDsTHOUSANDhDIGIT ZEROnONEnTWOoHREEnFOURoIVEnSIXoEVENnEIGHTnNINEhSIGN OLD TAMIL VIRA" ++
     "MAhLETTER OLD TAMIL SHORT EzHORT OhVOWEL SIGN OLD TAMIL SHORT EzIL SHORT OhLETTER OLD TAMIL LLA"),
   (0x1107f, "aBRAHMI NUMBER JOINERaKAITHI SIGN CANDRABINDUmANUSVARAmVISARGAhLETTER ApAoIpIoUpUoEoAIoOoAUoKApHAo" ++
     "GApHAoNGAoCApHAoJApHAoNYAoTTAqHAoDDAqDHAqHAoRHAoNNAoTApHAoDApHAoNAoPApHAoBApHAoMAoYAoRAoLAoVAoSHApSApAoHAh" ++
     "VOWEL SIGN AAsItIsUtUsEsAIsOsAUhSIGN VIRAMAmNUKTAhABBREVIATION SIGNhENUMERATION SIGNhNUMBER SIGNhSECTION M" ++
     "ARKhDOUBLE SECTION MARKiANDAiOUBLE DANDAhVOWEL SIGN VOCALIC R"),
   (0x110cd, "aKAITHI NUMBER SIGN ABOVE"),
   (0x110d0, "aSORA SOMPENG LETTER SAHuTAHuBAHuCAHuDAHuGAHuMAHuNGAHuLAHuNAHuVAHuPAHuYAHuRAHuHAHuKAHuJAHuNYAHuAHu" ++
     "EEHuIHuUHuOHuEHuMAE"),
   (0x110f0, "aSORA SOMPENG DIGIT ZEROtONEtTWOuHREEtFOURuIVEtSIXuEVENtEIGHTtNINE"),
   (0x11100, "aCHAKMA SIGN CANDRABINDUmANUSVARAmVISARGAhLETTER AAoIoUoEoKAApHAAoGAApHAAoNGAAoCAApHAAoJAApHAAoNYA" ++
     "AoTTAAqHAAoDDAAqHAAoNNAAoTAApHAAoDAApHAAoNAAoPAApHAAoBAApHAAoMAAoYYAApAAoRAAoLAAoWAAoSAAoHAAhVOWEL SIGN As" ++
     "ItIsUtUsEsAIsOsAUsOIhO MARKhAU MARKhVIRAMAhMAAYYAA"),
   (0x11136, "aCHAKMA DIGIT ZEROnONEnTWOoHREEnFOURoIVEnSIXoEVENnEIGHTnNINEhSECTION MARKhDANDAiOUBLE DANDAhQUESTI" ++
     "ON MARKhLETTER LHAAhVOWEL SIGN AAsEIhLETTER VAA"),
   (0x11150, "aMAHAJANI LETTER AqIqUqEqOqKArHAqGArHAqCArHAqJArHAqNYAqTTAsHAqDDAsHAqNNAqTArHAqDArHAqNAqPArHAqBArH" ++
     "AqMAqRAqLAqVAqSAqHAqRRAjSIGN NUKTAjABBREVIATION SIGNjSECTION MARKjLIGATURE SHRI"),
   (0x11180, "aSHARADA SIGN CANDRABINDUnANUSVARAnVISARGAiLETTER AqApIqIpUqUpVOCALIC RyRxLyLpEpAIpOpAUpKAqHApGAqH" ++
     "ApNGApCAqHApJAqHApNYApTTArHApDDArHApNNApTAqHApDAqHApNApPAqHApBAqHApMApYApRApLAqLApVApSHAqSAqApHAiVOWEL SIG" ++
     "N AAtIuItUuUtVOCALIC RzC RRzC LzC LLtEtAItOtAUiSIGN VIRAMAnAVAGRAHAnJIHVAMULIYAnUPADHMANIYAiOMiDANDAjOUBLE" ++
     " DANDAiABBREVIATION SIGNiSEPARATORjANDHI MARKjIGN NUKTAiVOWEL MODIFIER MARKiEXTRA SHORT VOWEL MARKiSUTRA M" ++
     "ARKiVOWEL SIGN PRISHTHAMATRA EiSIGN INVERTED CANDRABINDUiDIGIT ZEROoONEoTWOpHREEoFOURpIVEoSIXpEVENoEIGHToN" ++
     "INEiEKAMiSIGN SIDDHAMiHEADSTROKEiCONTINUATION SIGNiSECTION MARK-1v2"),
   (0x111e1, "aSINHALA ARCHAIC DIGIT ONEwTWOxHREEwFOURxIVEwSIXxEVENwEIGHTwNINEqNUMBER TENyWENTYyHIRTYxFORTYyIFTY" ++
     "xSIXTYyEVENTYxEIGHTYxNINETYxONE HUNDREDzE THOUSAND"),
   (0x11200, "aKHOJKI LETTER ApAoIoUoEoAIoOoAUoKApHAoGApGApHAoNGAoCApHAoJApJA"),
   (0x11213, "aKHOJKI LETTER NYAoTTAqHAoDDAqHAoNNAoTApHAoDApDDApHAoNAoPApHAoBApBApHAoMAoYAoRAoLAoVAoSAoHAoLLAhVO" ++
     "WEL SIGN AAsItIsUsEsAIsOsAUhSIGN ANUSVARAmVIRAMAmNUKTAmSHADDAhDANDAiOUBLE DANDAhWORD SEPARATORhSECTION MAR" ++
     "KhDOUBLE SECTION MARKhABBREVIATION SIGNhSIGN SUKUN"),
   (0x11280, "aMULTANI LETTER ApIpUpEpKAqHApGA"),
   (0x11288, "aMULTANI LETTER GHA"),
   (0x1128a, "aMULTANI LETTER CAqHApJAqJA"),
   (0x1128f, "aMULTANI LETTER NYApTTArHApDDArDArHApNNApTAqHApDAqHApNApPAqHApBA"),
   (0x1129f, "aMULTANI LETTER BHApMApYApRApLApVApSApHApRRAqHAiSECTION MARK"),
   (0x112b0, "aKHUDAWADI LETTER AsArIsIrUsUrErAIrOrAUrKAsHArGAsGAsHArNGArCAsHArJAsJAsHArNYArTTAtHArDDAtDArRRArDD" ++
     "HArNNArTAsHArDAsHArNArPAsHArBAsBAsHArMArYArRArLArVArSHAsArHAkSIGN ANUSVARAkVOWEL SIGN AAvIwIvUwUvEvAIvOvAU" ++
     "kSIGN NUKTApVIRAMA"),
   (0x112f0, "aKHUDAWADI DIGIT ZEROqONEqTWOrHREEqFOURrIVEqSIXrEVENqEIGHTqNINE"),
   (0x11300, "aGRANTHA SIGN COMBINING ANUSVARA ABOVEoANDRABINDUnANUSVARAnVISARGA"),
   (0x11305, "aGRANTHA LETTER AqApIqIpUqUpVOCALIC RxL"),
   (0x1130f, "aGRANTHA LETTER EEpAI"),
   (0x11313, "aGRANTHA LETTER OOpAUpKAqHApGAqHApNGApCAqHApJAqHApNYApTTArHApDDArHApNNApTAqHApDAqHApNA"),
   (0x1132a, "aGRANTHA LETTER PAqHApBAqHApMApYApRA"),
   (0x11332, "aGRANTHA LETTER LAqLA"),
   (0x11335, "aGRANTHA LETTER VApSHAqSAqApHA"),
   (0x1133b, "aCOMBINING BINDU BELOWaGRANTHA SIGN NUKTAnAVAGRAHAiVOWEL SIGN AAtIuItUuUtVOCALIC RzC RR"),
   (0x11347, "aGRANTHA VOWEL SIGN EEtAI"),
   (0x1134b, "aGRANTHA VOWEL SIGN OOtAUiSIGN VIRAMA"),
   (0x11350, "aGRANTHA OM"),
   (0x11357, "aGRANTHA AU LENGTH MARK"),
   (0x1135d, "aGRANTHA SIGN PLUTAiLETTER VEDIC ANUSVARAvDOUBLE ANUSVARAqOCALIC RRxLLiVOWEL SIGN VOCALIC LzC LL"),
   (0x11366, "aCOMBINING GRANTHA DIGIT ZEROyONEyTWOzHREEyFOURzIVEySIX"),
   (0x11370, "aCOMBINING GRANTHA LETTER AzKAzNAzVIzPA"),
   (0x11400, "aNEWA LETTER AnAmInImUnUmVOCALIC RvRuLvLmEmAImOmAUmKAnHAmGAnHAmNGAoHAmCAnHAmJAnHAmNYAoHAmTTAoHAmDD" ++
     "AoHAmNNAmTAnHAmDAnHAmNAnHAmPAnHAmBAnHAmMAnHAmYAmRAnHAmLAnHAmWAmSHAnSAnAmHAfVOWEL SIGN AAqIrIqUrUqVOCALIC R" ++
     "zRyLzLqEqAIqOqAUfSIGN VIRAMAkCANDRABINDUkANUSVARAkVISARGAkNUKTAkAVAGRAHAkFINAL ANUSVARAfOMfSIDDHIfDANDAgOU" ++
     "BLE DANDAfCOMMAfGAP FILLERfABBREVIATION SIGNfDIGIT ZEROlONElTWOmHREElFOURmIVElSIXmEVENlEIGHTlNINEgOUBLE CO" ++
     "MMAfPLACEHOLDER MARK"),
   (0x1145d, "aNEWA INSERTION SIGNfSANDHI MARKfLETTER VEDIC ANUSVARAfSIGN JIHVAMULIYAkUPADHMANIYA"),
   (0x11480, "aTIRHUTA ANJIiLETTER AqApIqIpUqUpVOCALIC RyRxLyLpEpAIpOpAUpKAqHApGAqHApNGApCAqHApJAqHApNYApTTArHAp" ++
     "DDArHApNNApTAqHApDAqHApNApPAqHApBAqHApMApYApRApLApVApSHAqSAqApHAiVOWEL SIGN AAtIuItUuUtVOCALIC RzC RRzC Lz" ++
     "C LLtEtSHORT EtAItOtSHORT OtAUiSIGN CANDRABINDUnANUSVARAnVISARGApRAMAnNUKTAnAVAGRAHAiGVANGiABBREVIATION SI" ++
     "GNiOM"),
   (0x114d0, "aTIRHUTA DIGIT ZEROoONEoTWOpHREEoFOURpIVEoSIXpEVENoEIGHToNINE"),
   (0x11580, "aSIDDHAM LETTER AqApIqIpUqUpVOCALIC RyRxLyLpEpAIpOpAUpKAqHApGAqHApNGApCAqHApJAqHApNYApTTArHApDDArH" ++
     "ApNNApTAqHApDAqHApNApPAqHApBAqHApMApYApRApLApVApSHAqSAqApHAiVOWEL SIGN AAtIuItUuUtVOCALIC RzC RR"),
   (0x115b8, "aSIDDHAM VOWEL SIGN EtAItOtAUiSIGN CANDRABINDUnANUSVARAnVISARGApRAMAnNUKTAnSIDDHAMiDANDAjOUBLE DAN" ++
     "DAiSEPARATOR DOTsBARiREPETITION MARK-1y2y3iEND OF TEXT MARKiSECTION MARK WITH TRIDENT AND U-SHAPED ORNAMEN" ++
     "TSz TRIDENT AND DOTTED CRESCENTSz RAYS AND DOTTED CRESCENTSz RAYS AND DOTTED DOUBLE CRESCENTSz RAYS AND DO" ++
     "TTED TRIPLE CRESCENTSvDOUBLE RINGzLE RING WITH RAYSvWITH DOUBLE CRESCENTSz TRIPLE CRESCENTSz QUADRUPLE CRE" ++
     "SCENTSz SEPTUPLE CRESCENTSz CIRCLES AND RAYSz CIRCLES AND TWO ENCLOSURESz CIRCLES AND FOUR ENCLOSURESiLETT" ++
     "ER THREE-CIRCLE ALTERNATE IqWO-CIRCLE ALTERNATE Iz ALTERNATE IIpALTERNATE UiVOWEL SIGN ALTERNATE UzATE UU"),
   (0x11600, "aMODI LETTER AnAmInImUnUmVOCALIC RvRuLvLmEmAImOmAUmKAnHAmGAnHAmNGAmCAnHAmJAnHAmNYAmTTAoHAmDDAoHAmN" ++
     "NAmTAnHAmDAnHAmNAmPAnHAmBAnHAmMAmYAmRAmLAmVAmSHAnSAnAmHAmLLAfVOWEL SIGN AAqIrIqUrUqVOCALIC RzRyLzLqEqAIqOq" ++
     "AUfSIGN ANUSVARAkVISARGAmRAMAkARDHACANDRAfDANDAgOUBLE DANDAfABBREVIATION SIGNfSIGN HUVA"),
   (0x11650, "aMODI DIGIT ZEROlONElTWOmHREElFOURmIVElSIXmEVENlEIGHTlNINE"),
   (0x11660, "aMONGOLIAN BIRGA WITH ORNAMENTkROTATED BIRGAkDOUBLE BIRGA WITH ORNAMENTkTRIPLE BIRGA WITH ORNAMENT" ++
     "kBIRGA WITH DOUBLE ORNAMENTkROTATED BIRGA WITH ORNAMENTzITH DOUBLE ORNAMENTkINVERTED BIRGAy WITH DOUBLE OR" ++
     "NAMENTkSWIRL BIRGAv WITH ORNAMENTzH DOUBLE ORNAMENTkTURNED SWIRL BIRGA WITH DOUBLE ORNAMENT"),
   (0x11680, "aTAKRI LETTER AoAnIoInUoUnEnAInOnAUnKAoHAnGAoHAnNGAnCAoHAnJAoHAnNYAnTTApHAnDDApHAnNNAnTAoHAnDAoHAn" ++
     "NAnPAoHAnBAoHAnMAnYAnRAnLAnVAnSHAoAnHAnRRAgSIGN ANUSVARAlVISARGAgVOWEL SIGN AArIsIrUsUrErAIrOrAUgSIGN VIRA" ++
     "MAlNUKTAgLETTER ARCHAIC KHAgABBREVIATION SIGN"),
   (0x116c0, "aTAKRI DIGIT ZEROmONEmTWOnHREEmFOURnIVEmSIXnEVENmEIGHTmNINE"),
   (0x11700, "aAHOM LETTER KAnHAmNGAnAmTAmALTERNATE TAmPAnHAmBAmMAmJAmCHAmTHAmRAmLAmSAmNYAmHAmAmDAnHAmGAmALTERNA" ++
     "TE GAmGHAmBHAmJHAmALTERNATE BA"),
   (0x1171d, "aAHOM CONSONANT SIGN MEDIAL LAzL RAzL LIGATING RAfVOWEL SIGN ArAqIrIqUrUqEqAWqOqAIrMfSIGN KILLER"),
   (0x11730, "aAHOM DIGIT ZEROlONElTWOmHREElFOURmIVElSIXmEVENlEIGHTlNINEfNUMBER TENnWENTYfSIGN SMALL SECTIONlECT" ++
     "IONkRULAIgYMBOL VIfLETTER CAmTTAoHAmDDAoHAmNNAmLLA"),
   (0x11800, "aDOGRA LETTER AoAnIoInUoUnEnAInOnAUnKAoHAnGAoHAnNGAnCAoHAnJAoHAnNYAnTTApHAnDDApHAnNNAnTAoHAnDAoHAn" ++
     "NAnPAoHAnBAoHAnMAnYAnRAnLAnVAnSHAoSAoAnHAnRRAgVOWEL SIGN AArIsIrUsUrVOCALIC RzRRrErAIrOrAUgSIGN ANUSVARAlV" ++
     "ISARGAnRAMAlNUKTAgABBREVIATION SIGN"),
   (0x118a0, "aWARANG CITI CAPITAL LETTER NGAAzR AzR WIzR YUzR YAzR YOzR IIzR UUzR EzR OzR ANGzR GAzR KOzR ENYzR" ++
     " YUJzR UCzR ENNzR ODDzR TTEzR NUNGzR DAzR ATzR AMzR BUzR PUzR HIYOzR HOLOzR HORRzR HARzR SSUUzR SIIzR VIYO" ++
     "mSMALL LETTER NGAAzAzWIzYUzYAzYOzIIzUUzEzOzANGzGAzKOzENYzYUJzUCzENNzODDzTTEzNUNGzDAzATzAMzBUzPUzHIYOzHOLOz" ++
     "HORRzHARzSSUUzSIIzVIYOmDIGIT ZEROsONEsTWOtHREEsFOURtIVEsSIXtEVENsEIGHTsNINEmNUMBER TENuWENTYuHIRTYtFORTYuI" ++
     "FTYtSIXTYuEVENTYtEIGHTYtNINETY"),
   (0x118ff, "aWARANG CITI OMaDIVES AKURU LETTER AuAtIuItUuUtE"),
   (0x11909, "aDIVES AKURU LETTER O"),
   (0x1190c, "aDIVES AKURU LETTER KAuHAtGAuHAtNGAtCAuHAtJA"),
   (0x11915, "aDIVES AKURU LETTER NYAtTTA"),
   (0x11918, "aDIVES AKURU LETTER DDAvHAtNNAtTAuHAtDAuHAtNAtPAuHAtBAuHAtMAtYAuYAtRAtLAtVAtSHAuSAuAtHAtLLAtZAmVOW" ++
     "EL SIGN AAxIyIxUyUxE"),
   (0x11937, "aDIVES AKURU VOWEL SIGN AIxO"),
   (0x1193b, "aDIVES AKURU SIGN ANUSVARArCANDRABINDUrHALANTAmVIRAMAmPREFIXED NASAL SIGNmMEDIAL YAmINITIAL RAmMED" ++
     "IAL RAmSIGN NUKTAmDOUBLE DANDAmGAP FILLERmEND OF TEXT MARK"),
   (0x11950, "aDIVES AKURU DIGIT ZEROsONEsTWOtHREEsFOURtIVEsSIXtEVENsEIGHTsNINE"),
   (0x119a0, "aNANDINAGARI LETTER AuAtIuItUuUtVOCALIC RzC RR"),
   (0x119aa, "aNANDINAGARI LETTER EtAItOtAUtKAuHAtGAuHAtNGAtCAuHAtJAuHAtNYAtTTAvHAtDDAvHAtNNAtTAuHAtDAuHAtNAtPAu" ++
     "HAtBAuHAtMAtYAtRAtLAtVAtSHAuSAuAtHAtLLAtRRAmVOWEL SIGN AAxIyIxUyUxVOCALIC RzCALIC RR"),
   (0x119da, "aNANDINAGARI VOWEL SIGN ExAIxOxAUmSIGN ANUSVARArVISARGAtRAMArAVAGRAHArSIDDHAMmHEADSTROKEmVOWEL SIG" ++
     "N PRISHTHAMATRA E"),
   (0x11a00, "aZANABAZAR SQUARE LETTER ArVOWEL SIGN IzGN UEzGN UzGN EzGN OEzGN OzGN AIzGN AUzGN REVERSED IxLENGT" ++
     "H MARKrLETTER KAzHAyGAzHAyNGAyCAzHAyJAyNYAyTTAzTHAyDDAzDHAyNNAyTAzHAyDAzHAyNAyPAzHAyBAzHAyMAyTSAzSHAyDZAzZ" ++
     "HAyZHAzAy-AyYAyRAyLAyVAySHAzSAzAyHAyKSSArFINAL CONSONANT MARKrSIGN VIRAMAwCANDRABINDUzDRABINDU WITH ORNAME" ++
     "NTzDRA WITH ORNAMENTwANUSVARAwVISARGArCLUSTER-INITIAL LETTER RAzFINAL LETTER YAzFINAL LETTER RAzFINAL LETT" ++
     "ER LAzFINAL LETTER VArINITIAL HEAD MARKrCLOSING HEAD MARKrMARK TSHEGwSHADwDOUBLE SHADwLONG TSHEGrINITIAL D" ++
     "OUBLE-LINED HEAD MARKrCLOSING DOUBLE-LINED HEAD MARKrSUBJOINER"),
   (0x11a50, "aSOYOMBO LETTER AiVOWEL SIGN ItUEutEtOuEtAIuUtVOCALIC RzC LoLENGTH MARKiLETTER KAqHApGAqHApNGApCAq" ++
     "HApJAqHApNYApTTArHApDDArHApNNApTAqHApDAqHApNApPAqHApBAqHApMApTSArHApDZApZHAqAp-ApYApRApLApVApSHAqSAqApHApK" ++
     "SSAiSIGN JIHVAMULIYAnUPADHMANIYAiCLUSTER-INITIAL LETTER RAzETTER LAzETTER SHAzETTER SAiFINAL CONSONANT SIG" ++
     "N GzIGN KzIGN NGzIGN DzIGN NzIGN BzIGN MzIGN RzIGN LzIGN SHzIGN SzIGN -AiSIGN ANUSVARAnVISARGAiGEMINATION " ++
     "MARKiSUBJOINERiMARK TSHEGnSHADnDOUBLE SHADnPLUTAiHEAD MARK WITH MOON AND SUN AND TRIPLE FLAMEzON AND SUN A" ++
     "ND FLAMEzON AND SUNiTERMINAL MARK-1w2"),
   (0x11ab0, "aCANADIAN SYLLABICS NATTILIK HIzIK HIIzIK HOzIK HOOzIK HAzIK HAAzIK SHRIzIK SHRIIzIK SHROzIK SHROO" ++
     "zIK SHRAzIK SHRAAtSPEvIvOvAaPAU CIN HAU LETTER PAtKAtLAtMAtDAtZAtVAtNGAtHAtGAtKHAtSAtBAtCAtTAuHAtNAtPHAtRA" ++
     "tFAtCHAtAtEtItOtUuAtIAtFINAL PzKzTzMzNzLzWzNGzYmRISING TONE LONGxmSANDHI GLOTTAL STOPmRISING TONE LONG FIN" ++
     "ALyFINALmSANDHI GLOTTAL STOP FINALtTONE LONGxx LONG FINALyFINALmMID-LEVEL TONEmGLOTTAL STOP VARIANTmMID-LE" ++
     "VEL TONE LONG FINALzE FINALmLOW-FALLING TONE LONGzONEmGLOTTAL STOPmLOW-FALLING TONE LONG FINALzONE FINALmG" ++
     "LOTTAL STOP FINAL"),
   (0x11c00, "aBHAIKSUKI LETTER AsArIsIrUsUrVOCALIC RzRRzL"),
   (0x11c0a, "aBHAIKSUKI LETTER ErAIrOrAUrKAsHArGAsHArNGArCAsHArJAsHArNYArTTAtHArDDAtHArNNArTAsHArDAsHArNArPAsHA" ++
     "rBAsHArMArYArRArLArVArSHAsSAsArHAkVOWEL SIGN AAvIwIvUwUvVOCALIC RzLIC RRzLIC L"),
   (0x11c38, "aBHAIKSUKI VOWEL SIGN EvAIvOvAUkSIGN CANDRABINDUpANUSVARApVISARGArRAMApAVAGRAHAkDANDAlOUBLE DANDAk" ++
     "WORD SEPARATORkGAP FILLER-1v2"),
   (0x11c50, "aBHAIKSUKI DIGIT ZEROqONEqTWOrHREEqFOURrIVEqSIXrEVENqEIGHTqNINEkNUMBER ONErTWOsHREErFOURsIVErSIXsE" ++
     "VENrEIGHTrNINErTENsWENTYsHIRTYrFORTYsIFTYrSIXTYsEVENTYrEIGHTYrNINETYkHUNDREDS UNIT MARK"),
   (0x11c70, "aMARCHEN HEAD MARKiMARK SHADiLETTER KAqHApGApNGApCAqHApJApNYApTAqHApDApNApPAqHApBApMApTSArHApDZApW" ++
     "ApZHAqAp-ApYApRApLApSHAqApHApA"),
   (0x11c92, "aMARCHEN SUBJOINED LETTER KAzKHAzGAzNGAzCAzCHAzJAzNYAzTAzTHAzDAzNAzPAzPHAzBAzMAzTSAzTSHAzDZAzWAzZH" ++
     "AzZA"),
   (0x11ca9, "aMARCHEN SUBJOINED LETTER YAzRAzLAzSHAzSAzHAzAiVOWEL SIGN AAtItUtEtOiSIGN ANUSVARAnCANDRABINDU"),
   (0x11d00, "aMASARAM GONDI LETTER AwAvIwIvUwUvE"),
   (0x11d08, "aMASARAM GONDI LETTER AIvO"),
   (0x11d0b, "aMASARAM GONDI LETTER AUvKAwHAvGAwHAvNGAvCAwHAvJAwHAvNYAvTTAxHAvDDAxHAvNNAvTAwHAvDAwHAvNAvPAwHAvBA" ++
     "wHAvMAvYAvRAvLAvVAvSHAwSAwAvHAvLLAvKSSAvJNYAvTRAoVOWEL SIGN AAzIzIIzUzUUzVOCALIC R"),
   (0x11d3a, "aMASARAM GONDI VOWEL SIGN E"),
   (0x11d3c, "aMASARAM GONDI VOWEL SIGN AIzO"),
   (0x11d3f, "aMASARAM GONDI VOWEL SIGN AUoSIGN ANUSVARAtVISARGAtNUKTAtCANDRAtHALANTAoVIRAMAoREPHApA-KARA"),
   (0x11d50, "aMASARAM GONDI DIGIT ZEROuONEuTWOvHREEuFOURvIVEuSIXvEVENuEIGHTuNINE"),
   (0x11d60, "aGUNJALA GONDI LETTER AwAvIwIvUwU"),
   (0x11d67, "aGUNJALA GONDI LETTER EEvAI"),
   (0x11d6a, "aGUNJALA GONDI LETTER OOvAUvYAvVAvBAwHAvMAvKAwHAvTAwHAvLAvGAwHAvDAwHAvNAvCAwHAvTTAxHAvLLAvJAwHAvDD" ++
     "AxHAvNGAvPAwHAvHAvRAvSAoVOWEL SIGN AAzIzIIzUzUU"),
   (0x11d90, "aGUNJALA GONDI VOWEL SIGN EEzAI"),
   (0x11d93, "aGUNJALA GONDI VOWEL SIGN OOzAUoSIGN ANUSVARAtVISARGAoVIRAMAoOM"),
   (0x11da0, "aGUNJALA GONDI DIGIT ZEROuONEuTWOvHREEuFOURvIVEuSIXvEVENuEIGHTuNINE"),
   (0x11ee0, "aMAKASAR LETTER KApGApNGApPApBApMApTApDApNApCApJApNYApYApRApLApVApSApAiANGKAiVOWEL SIGN ItUtEtOiPA" ++
     "SSIMBANGiEND OF SECTION"),
   (0x11fb0, "aLISU LETTER YHA"),
   (0x11fc0, "aTAMIL FRACTION ONE THREE-HUNDRED-AND-TWENTIETHtONE-HUNDRED-AND-SIXTIETHtEIGHTIETHtSIXTY-FOURTHtFO" ++
     "RTIETHtTHIRTY-SECONDpTHREE EIGHTIETHSvSIXTY-FOURTHSpONE TWENTIETHtSIXTEENTH-1zNTH-2tTENTHtEIGHTHpTHREE TWE" ++
     "NTIETHSvSIXTEENTHSpONE FIFTHtQUARTERtHALF-1y2pTHREE QUARTERSpDOWNSCALING FACTOR KIIZHgSIGN NELlCEVITUlAAZH" ++
     "AAKKUlUZHAKKUlMUUVUZHAKKUlKURUNIlPATHAKKUlMUKKURUNIlKAACUlPANAMmONlVARAAKANlPAARAMlKUZHIlVELIgWET CULTIVAT" ++
     "ION SIGNgDRY CULTIVATION SIGNgLAND SIGNgSALT PAN SIGNgTRADITIONAL CREDIT SIGNsNUMBER SIGNgCURRENT SIGNgAND" ++
     " ODD SIGNgSPENT SIGNgTOTAL SIGNgIN POSSESSION SIGNgSTARTING FROM SIGNhIGN MUTHALIYAlVAKAIYARAA"),
   (0x11fff, "aTAMIL PUNCTUATION END OF TEXT")]

end AttrsUpgrade.Text
