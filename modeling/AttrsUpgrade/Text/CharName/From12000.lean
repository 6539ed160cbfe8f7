/-!
# Names of characters from U+12000 to U+12FFF
-/

namespace AttrsUpgrade.Text

/-- Runs of names in the short form that `nameIndex?` reads. -/
def nameRuns12000 : List (Nat × String) :=
  [(0x12000, "aCUNEIFORM SIGN Aq TIMES AxBADxGAN2 TENUxHAxIGIxLAGAR GUNUxMUSHxSAGq2qBr TIMES ASH2yDUN3 GUNUyGALz" ++
     "AN2 TENUyHAyIGI GUNUzMINyLAGABySHESHyU PLUS U PLUS UsGUNUr2s TIMES BALAGzGAN2 TENUzME PLUS ENzSHA3zTAK4qDq" ++
     "Kr TIMES ERIN2ySHITA PLUS GISHqLr TIMES ALyDIM2yGISHyHAyKAD3zIySHEyUSHrANrEPHqMARt TIMES SHEqNr OVER ANsTH" ++
     "REE TIMESsPLUS NAGA OPPOSING AN PLUS NAGAzGA SQUAREDrSHEqPINqRADt TIMES KURrKABqSAL2rHs ZIDA TENUtKABA TEN" ++
     "UtOVER ASH TUG2 OVER TUG2 TUG2 OVER TUG2 PAPzSH OVER ASHzSH OVER ASH CROSSING ASH OVER ASH OVER ASHs2sGABp" ++
     "BArDrG3rHAR2rLs OVER BALsAGrRsA2qIr TIMES AyGARyIGI GUNUqUr OVER BU ABz UNsCROSSING BUrLUGu OVER BULUGrRs2" ++
     "pDArGs KISIM5 TIMES A PLUS MASHz TIMES AMARz TIMES BALAGz TIMES BIz TIMES GAz TIMES GA PLUS MASHz TIMES GI" ++
     "z TIMES GIR2z TIMES GUDz TIMES HAz TIMES IRz TIMES IR PLUS LUz TIMES KAKz TIMES LAz TIMES LUz TIMES LU PLU" ++
     "S MASH2z TIMES LUMz TIMES NEz TIMES PAP PLUS PAPz TIMES SIz TIMES TAK4z TIMES U2 PLUS GIR2z TIMES USHrMrRs" ++
     "A3t4qIrBrMs TIMES SHEs2rNs KASKAL U GUNU DISHrSHqUr OVER DUsGUNUsSHESHIGrBs TIMES ESH2s2rGsUDrHrNs3t GUNUy" ++
     " GUNUs4rR2pEq TIMES PAPrOVER E NUN OVER NUNq2r TIMES A PLUS HA PLUS DAyGARyMIySALzHEyUqDINqGIRqLqNr TIMES " ++
     "GAN2zAN2 TENUyMEsCROSSING ENsOPPOSING ENsSQUAREDqRENrIN2qSH2qZENt TIMES Az A PLUS LALz A PLUS LAL TIMES LA" ++
     "Lz ANz BADz DUN3 GUNUz DUN3 GUNU GUNUz HAz HA GUNUz IGI GUNUz KASKALz KASKAL SQUAREDz KU3z LAz LAL TIMES L" ++
     "ALz LIz LUz U2z UDpGAr GUNUr2s TIMES A PLUS DA PLUS HAzA PLUS HAzA PLUS IGIzAB2 TENU PLUS TABzANzASHzASH2 " ++
     "PLUS GALzBADzBAR PLUS RAzBURzBUR PLUS RAzDAzDIzDIM TIMES SHEzDUBzELzEL PLUS LAzENzEN TIMES GAN2 TENUzGAN2 " ++
     "TENUzGARzGIzGI4zGI4 PLUS AzGIR2 PLUS SUzHA PLUS LU PLUS ESH2zHALzHAL PLUS LAzHI PLUS LIzHUB2zIGI GUNUzISH " ++
     "PLUS HU PLUS ASHzKAKzKASKALzKIDzKID PLUS LALzKU3 PLUS ANzLAzME PLUS ENzMIzNUNzNUN OVER NUNzPAzSALzSARzSHEz" ++
     "SHE PLUS TUR"),
   (0x120e7, "aCUNEIFORM SIGN GA2 TIMES SHIDzSUMzTAK4zUzUDzUD PLUS DUtOVER GA2rBAt CROSSING GABArDs OVER GAD GAR" ++
     " OVER GARrLs GAD OVER GAD GAR OVER GARsAMrMrNs2t TENUuOVER GAN2uCROSSING GAN2rRs3rSHANqESHTINw TIMES KURqI" ++
     "r TIMES EyUsCROSSING GIr4s OVER GI4tCROSSING GI4rDIMrR2t GUNUs3t TIMES A PLUS IGIz GAN2 TENUz IGIz LU PLUS" ++
     " IGIz PArSALsHt CROSSING GISHuTIMES BADz TAK4vENUqUr CROSSING GUr2s TIMES KAKzKAK TIMES IGI GUNUzNUNzSAL P" ++
     "LUS TUG2tGUNUrDs TIMES A PLUS KURzKURtOVER GUD LUGALrLrMs TIMES SHErRs7sUNtSHpHAr TENUsGUNUrLqIr TIMES ASH" ++
     "zSH2yBADyDISHyGADyKINyNUNySHEyUqUrB2t TIMES ANz HALz KASKALz LISHz UDrL2pIq AqBqDIMt OVER IDIM BURzIDIM SQ" ++
     "UAREDqGrIs DIBtRItOVER IGI SHIR OVER SHIR UD OVER UDtGUNUqLr TIMES GAN2 TENUr2qMr TIMES TAK4sCROSSING IMsO" ++
     "PPOSING IMsSQUAREDrINqNqRqSHpKAr TIMES AzDzD PLUS KU3zSH2yBADzALAGzARzIyERIN2zSH2yGAzALzAN2 TENUzARzAR PLU" ++
     "S SHA3 PLUS AzIzIR2zISH PLUS SARzISH CROSSING GISHzUzUR7yIGIzMyKAKzIzIDyLIzUyMEzE PLUS DUzE PLUS GIzE PLUS" ++
     " TEzIzI PLUS NUNUZyNEzUNyPIyRUySAzARzHAzHEzHIDzHUzIGzUHURyTARyUz2zDzMUM TIMES PAzSHyZIr2s CROSSING KA2rBrD" ++
     "2s3s4s5t OVER KAD5rKs TIMES IGI GUNUrLs TIMES BADtCROSSING KALrM2s4rSKALv LAGAB TIMES U OVER LAGAB TIMES U" ++
     "wOVER KASKAL LAGAB TIMES U OVER LAGAB TIMES UqESH2qIr TIMES BADyUzDrDrNrSALsHsIM5v OVER KISIM5qUr OVER HI " ++
     "TIMES ASH2 KU OVER HI TIMES ASH2r3r4s VARIANT FORMr7rLs GUNUrNrRs OPPOSING KURrSHU2qWU318pLArGABu TIMES Az" ++
     "S A PLUS DA PLUS HAzS A PLUS GARzS A PLUS LALzS ALzS ANzS ASH ZIDA TENUzS BADzS BIzS DARzS ENzS GAzS GARzS" ++
     " GUDzS GUD PLUS GUDzS HAzS HALzS HI TIMES NUNzS IGI GUNUzS IMzS IM PLUS HAzS IM PLUS LUzS KIzS KINzS KU3zS" ++
     " KULzS KUL PLUS HI PLUS AzS LAGABzS LISHzS LUzS LULzS MEzS ME PLUS ENzS MUSHzS NEzS SHE PLUS SUMzS SHITA P" ++
     "LUS GISH PLUS ERIN2zS SHITA PLUS GISH TENUzS SHU2zS SHU2 PLUS SHU2zS SUMzS TAGzS TAK4zS TE PLUS A PLUS SU " ++
     "PLUS NA"),
   (0x121e5, "aCUNEIFORM SIGN LAGAB TIMES UzS U PLUS AzS U PLUS U PLUS UzS U2 PLUS ASHzS UDzS USHvSQUAREDtRu TIM" ++
     "ES SHEzS SHE PLUS SUMvGUNUz OVER LAGAR GUNU SHErHSHUrLs TIMES LALrMs TIMES KURzKUR PLUS RUqIrLrMMU2rSHqUr " ++
     "TIMES BADr2s TIMES ALzBADzESH2zESH2 TENUzGAN2 TENUzHI TIMES BADzIMzKAD2zKAD3zKAD3 PLUS ASHzKIzLA PLUS ASHz" ++
     "LAGABzME PLUS ENzNEzNUzSI PLUS ASHzSIK2 PLUS BUzTUG2uENUtCROSSING LU2tOPPOSING LU2tSQUAREDuHESHIGr3rGALu O" ++
     "VER LUGALwPPOSING LUGALvSHESHIGrHrLrMs OVER LUMzUM GAR OVER GARpMAr TIMES TAK4sGUNUr2rHrRrSHt2qErSqIrNqUr " ++
     "OVER MUrGs GUNUrNSUBrRGU2rSHt TIMES Az KURz ZAuOVER MUSHzMUSH TIMES A PLUS NAuCROSSING MUSHt3u TIMES AzS A" ++
     " PLUS DIzS DIvGUNUpNAr2rGAt INVERTEDuTIMES SHU TENUuOPPOSING NAGAtRrM NUTILLUss2qEr TIMES AyUDsSHESHIGqIr " ++
     "TIMES Er2rMs TIMES GAN2 TENUzGAR PLUS GAN2 TENUrNDA2v TIMES ANzES ASHzES ASH PLUS ASHzES GUDzES ME PLUS GA" ++
     "N2 TENUzES NEzES NUNzES SHEzES SHE PLUS A ANzES SHE PLUS ASHzES SHE PLUS ASH PLUS ASHzES U2 PLUS ASHzES US" ++
     "HrSAGqUr11rNs LAGAR TIMES GARzTIMES MASHzTIMES SALzTIMES SAL OVER NUN LAGAR TIMES SALzTIMES USHtTENUtOVER " ++
     "NUNtCROSSING NUNzNG NUN LAGAR OVER LAGARsUZu AB2 TIMES ASHGABzTIMES BIzTIMES DUGzTIMES GUDzTIMES IGI GUNUz" ++
     "TIMES KAD3zTIMES LAzTIMES NEzTIMES SILA3zTIMES U2vKISIM5 TIMES BIzM5 TIMES BI UpPArDrNrPqESH2qIr TIMES AzB" ++
     "yBIzUyEyIzByUz2sCROSSING PIrRIGu TIMES KALzS UDzS ZAvOPPOSING PIRIGpRArBqIqUpSArG NUTILLUss TIMES AzDUzDUB" ++
     "zHAzKAKzKURzLUMzMIzNUNzSALzSHIDzTABzU2zUBzUMzURzUSHtOVER SAGtGUNUrLs LAGAB TIMES ASH2rNGA2rRqHAs3t TIMES A" ++
     "z BADz GISHz NEz SHU2z TURz Uz U PLUS As6sB6sR2rEs HUtOVER SHE GAD OVER GAD GAR OVER GARzHE TAB OVER TAB G" ++
     "AR OVER GARsG9sNsSHu2uLAMrIDt TIMES Az IMsMt TIMES Az BALz BULUGz DINz GARz IGIz IGI GUNUz KUSHU2z LULz MU" ++
     "Gz SALsNIGsRt TENUuOVER SHIR BUR OVER BURsTArUs OVER INVERTED SHUs2sBURqIr GUNUrGs4t OVER SIG4 SHU2rK2rLA3" ++
     "qUr OVER SU"),
   (0x122e4, "aCUNEIFORM SIGN SUDs2rHURrMsASHrRs9pTAr ASTERISKsTIMES HIyMIsGUNUrBs OVER TAB NI OVER NI DISH OVER" ++
     " DISHtSQUAREDrGs TIMES BIzGUDzSHEzSHUzTUG2zUDrK4rRqEr GUNUqIr TENUrLrRs TIMES TAK4tOVER TIRzIR GAD OVER GA" ++
     "D GAR OVER GARqUrG2rKrMrRs OVER TUR ZA OVER ZApUq GUDrU UrOVER U PA OVER PA GAR OVER GARySUR OVER SURyU RE" ++
     "VERSED OVER U REVERSEDq2qBqDr KUSHU2sTIMES BADyMIyU PLUS U PLUS Uz PLUS U PLUS U GUNUsGUNUsSHESHIGz TIMES " ++
     "BADrUGqMr TIMES LAGAByME PLUS DAySHA3yUrBINrUMt TIMES KASKALz PAqNr GUNUqRr CROSSING URsSHESHIGr2s TIMES A" ++
     " PLUS HAzA PLUS NAzALzHAzNUNzU2zU2 PLUS ASHzU2 PLUS BIr4rIs3rUs TIMES AzASHGABzBARzDUNzGAzGALzGAN2 TENUzGA" ++
     "RzGUzHAzIGIzIMzISHzKIzLUMzMINzPAzSHEzSIG4zTUzU PLUS GUDzUDzURUDAsDAu TIMES UqSHs TIMES AzKUzKURzTAK4sXs2sU" ++
     "MXqTUKIqZ3s TIMES KASKALrUpZAr TENUsSQUARED TIMES KURrGrMXqE2qIr OVER ZIr3rBs KABA TENUrGrZ2qUr5s TIMES Ar" ++
     "BURrMpKAP ELAMITEpAB TIMES NUNr2 TIMES AqMAR TIMES KUGpDAG KISIM5 TIMES U2 PLUS MASHs3qISH PLUS SHUqUB TIM" ++
     "ES SHEpEZEN TIMES GUDz SHEpGA2 TIMES AN PLUS KAK PLUS AzASH2qE22qIGpHUSHpKA TIMES ANSHEzSH3yGISHzUDyHI TIM" ++
     "ES ASH2yLUMyPAySHULyTUyUR2pLAGAB TIMES GIqU2 SHESHIG TIMES BADtTIMES ESH2 PLUS LALzSHUpMESHqUSH3 TIMES ZAp" ++
     "NA4qINs9sDA2 TIMES BALzES GIqU11 ROTATED NINETY DEGREESpPESH2 ASTERISKqIR2pSAG TIMES IGI GUNUpTI2pUM TIMES" ++
     " MEq U"),
   (0x12400, "aCUNEIFORM NUMERIC SIGN TWO ASHyHREE ASHxFOUR ASHyIVE ASHxSIX ASHyEVEN ASHxEIGHT ASHxNINE ASHxTHRE" ++
     "E DISHxFOUR DISHyIVE DISHxSIX DISHyEVEN DISHxEIGHT DISHxNINE DISHxFOUR UyIVE UxSIX UyEVEN UxEIGHT UxNINE U" ++
     "xONE GESH2xTWO GESH2yHREE GESH2xFOUR GESH2yIVE GESH2xSIX GESH2yEVEN GESH2xEIGHT GESH2xNINE GESH2xONE GESHU" ++
     "xTWO GESHUyHREE GESHUxFOUR GESHUyIVE GESHUxTWO SHAR2yHREE SHAR2zREE SHAR2 VARIANT FORMxFOUR SHAR2yIVE SHAR" ++
     "2xSIX SHAR2yEVEN SHAR2xEIGHT SHAR2xNINE SHAR2xONE SHARUxTWO SHARUyHREE SHARUzREE SHARU VARIANT FORMxFOUR S" ++
     "HARUyIVE SHARUxSHAR2 TIMES GAL PLUS DISHzAR2 TIMES GAL PLUS MINxONE BURUxTWO BURUyHREE BURUzREE BURU VARIA" ++
     "NT FORMxFOUR BURUyIVE BURUxTHREE VARIANT FORM ESH16zREE VARIANT FORM ESH21xFOUR VARIANT FORM LIMMUzUR VARI" ++
     "ANT FORM LIMMU4zUR VARIANT FORM LIMMU AzUR VARIANT FORM LIMMU BxSIX VARIANT FORM ASH9yEVEN VARIANT FORM IM" ++
     "IN3zVEN VARIANT FORM IMIN AzVEN VARIANT FORM IMIN BxEIGHT VARIANT FORM USSUzGHT VARIANT FORM USSU3xNINE VA" ++
     "RIANT FORM ILIMMUzNE VARIANT FORM ILIMMU3zNE VARIANT FORM ILIMMU4zNE VARIANT FORM ILIMMU AxTWO ASH TENUyHR" ++
     "EE ASH TENUxFOUR ASH TENUyIVE ASH TENUxSIX ASH TENUxONE BAN2xTWO BAN2yHREE BAN2xFOUR BAN2zUR BAN2 VARIANT " ++
     "FORMyIVE BAN2zVE BAN2 VARIANT FORMxNIGIDAMINzGIDAESHxONE ESHE3xTWO ESHE3xONE THIRD DISHxTWO THIRDS DISHxFI" ++
     "VE SIXTHS DISHxONE THIRD VARIANT FORM AxTWO THIRDS VARIANT FORM AxONE EIGHTH ASHzE QUARTER ASHyLD ASSYRIAN" ++
     " ONE SIXTHzD ASSYRIAN ONE QUARTERyNE QUARTER GURzE HALF GURxELAMITE ONE THIRDzAMITE TWO THIRDSzAMITE FORTY" ++
     "zAMITE FIFTYxFOUR U VARIANT FORMyIVE U VARIANT FORMxSIX U VARIANT FORMyEVEN U VARIANT FORMxEIGHT U VARIANT" ++
     " FORMxNINE U VARIANT FORM"),
   (0x12470, "aCUNEIFORM PUNCTUATION SIGN OLD ASSYRIAN WORD DIVIDERzN VERTICAL COLONzN DIAGONAL COLONzN DIAGONAL" ++
     " TRICOLONzN DIAGONAL QUADCOLON"),
   (0x12480, "aCUNEIFORM SIGN AB TIMES NUN TENUySHU2qD TIMES ESH2pBAD TIMES DISH TENUrHAR2 TIMES AB2zES NIzES ZA" ++
     "qU OVER BU TIMES NA2pDA TIMES TAK4rG TIMES KURqIM TIMES IGIzU U Us2 TIMES UDqUG TIMES ANSHEzASHzASH AT LEF" ++
     "TzDINzDUNzERIN2zGAzGIzGIR2 GUNUzGISHzHAzHIzIGI GUNUzKASKALzKURzKUSHU2zKUSHU2 PLUS KASKALzLAK-020zLAMzLAM T" ++
     "IMES KURzLUH PLUS GISHzMASHzMESzMIzNIzPIzSHEzSI GUNUpE2 TIMES KURyPAPqRIN2 XqSH2 CROSSING ESH2qZEN SHESHIG" ++
     " TIMES ASHzIG TIMES HIzIG TIMES IGI GUNUzIG TIMES LAzIG TIMES LALzIG TIMES MEzIG TIMES MESzIG TIMES SUuTIM" ++
     "ES SUpGA2 TIMES BAHAR2zDIM GUNUzDUG TIMES IGI GUNUzDUG TIMES KASKALzERENzGAzGAR PLUS DIzGAR PLUS NEzHA PLU" ++
     "S AzKUSHU2 PLUS KASKALzLAMzLAM TIMES KURzLUHzMUSHzNEzNE PLUS E2zNE PLUS GIzSHIMzZIZ2rBA ROTATED NINETY DEG" ++
     "REESqESHTIN TIMES UqISH TIMES GISH CROSSING GISHqU2 TIMES IGI GUNUrD PLUS GISH TIMES TAK4pHA TENU GUNUqI T" ++
     "IMES ASH OVER HI TIMES ASHpKA TIMES BUyKAyU U UzRpLAGAB TIMES ZU OVER ZUrK-003u21v5u30u50v1u62u79 OVER LAK" ++
     "-079 GUNUu80v1 OVER LAK-081u92t130u42t210v9u20v5v8u38u65v6t343v7v8u83v4u90t441v9w TIMES GUzMES IGIzMES PAP" ++
     " PLUS LU3zMES PAP PLUS PAP PLUS LU3zMES U2 PLUS BAu50v7u70u83u90v2v3v5t550t608u17w TIMES ASHzMES BADzMES D" ++
     "UN3 GUNU GUNUzMES KU3zMES LAzMES TARzMES TEzMES U2zMES UDzMES URUDAu36u48w TIMES DUBzMES GAzMES IGIzMES IG" ++
     "I GUNUzMES NIzMES PAP PLUS PAP PLUS LU3zMES SHESH PLUS KIzMES UDzMES URUDAt724u49qU2 GUNU TIMES ASHtTIMES " ++
     "DISHzHALzPAPzPAP PLUS PAP PLUS LU3zTAK4pMI PLUS ZA7qUSH OVER MUSH TIMES GAzMUSH TIMES KAKpNINDA2 TIMES DIM" ++
     " GUNUzES GISHzES GULzES HIzES KESH2zES LAK-050zES MASHzES PAP PLUS PAPzES UzES U PLUS UzES URUDApSAG GUNU " ++
     "TIMES HAtTIMES ENzSHE AT LEFTzTAK4qHA6 TENUrE OVER SHEtPLUS HUB2yNAM2ySARrU2 PLUS DUG TIMES NIzE2 TIMES AN" ++
     "qI TIMES TAK4pTAK4 PLUS SAGqUM TIMES GAN2 TENUzTHREE DISHpUR2 INVERTEDtTIMES UDrU TIMES DARA3zLAK-668zLU3p" ++
     "ZA7qU OVER ZU PLUS SAR"),
   (0x12543, "aCUNEIFORM SIGN ZU5 TIMES THREE DISH TENU"),
   (0x12f90, "aCYPRO-MINOAN SIGN CM001w2w4w5w6w7w8w9v10w1w2xBw3w5w7w9v21w3w4w5w6w7w8w9v30w3w4w5w6w7w8w9v40w1w4w6" ++
     "w7w9v50w1w2w3w4w5w6w8w9v60w1w2w3w4w6w7w8w9v70w1w2w3w4w5xBw6w8w9v80w1w2w3w4w5w6w7w8w9v90w1w2w4w5w6w7w8w9u10" ++
     "0w1w2w3w4w5w7w8w9v10w2w4u301w2")]

end AttrsUpgrade.Text
