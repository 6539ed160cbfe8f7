/-!
# Names of characters from U+1D000 to U+1EFFF
-/

namespace AttrsUpgrade.Text

/-- Runs of names in the short form that `nameIndex?` reads. -/
def nameRuns1D000 : List (Nat × String) :=
  [(0x1d000, "aBYZANTINE MUSICAL SYMBOL PSILIzDASEIAzPERISPOMENIzOXEIA EKFONITIKONzOXEIA DIPLIzVAREIA EKFONITIKO" ++
     "NzVAREIA DIPLIzKATHISTIzSYRMATIKIzPARAKLITIKIzYPOKRISISzYPOKRISIS DIPLIzKREMASTIzAPESO EKFONITIKONzEXO EKF" ++
     "ONITIKONzTELEIAzKENTIMATAzAPOSTROFOSzAPOSTROFOS DIPLIzSYNEVMAzTHITAzOLIGON ARCHAIONzGORGON ARCHAIONzPSILON" ++
     "zCHAMILONzVATHYzISON ARCHAIONzKENTIMA ARCHAIONzKENTIMATA ARCHAIONzSAXIMATAzPARICHONzSTAVROS APODEXIAzOXEIA" ++
     "I ARCHAIONzVAREIAI ARCHAIONzAPODERMA ARCHAIONzAPOTHEMAzKLASMAzREVMAzPIASMA ARCHAIONzTINAGMAzANATRICHISMAzS" ++
     "EISMAzSYNAGMA ARCHAIONzSYNAGMA META STAVROUzOYRANISMA ARCHAIONzTHEMAzLEMOIzDYOzTRIAzTESSERAzKRATIMATAzAPES" ++
     "O EXO NEOzFTHORA ARCHAIONzIMIFTHORAzTROMIKON ARCHAIONzKATAVA TROMIKONzPELASTONzPSIFISTONzKONTEVMAzCHOREVMA" ++
     " ARCHAIONzRAPISMAzPARAKALESMA ARCHAIONzPARAKLITIKI ARCHAIONzICHADINzNANAzPETASMAzKONTEVMA ALLOzTROMIKON AL" ++
     "LOzSTRAGGISMATAzGRONTHISMATAzISON NEOzOLIGON NEOzOXEIA NEOzPETASTIzKOUFISMAzPETASTOKOUFISMAzKRATIMOKOUFISM" ++
     "AzPELASTON NEOzKENTIMATA NEO ANOzKENTIMA NEO ANOzYPSILIzAPOSTROFOS NEOzAPOSTROFOI SYNDESMOS NEOzYPORROIzKR" ++
     "ATIMOYPORROONzELAFRONzCHAMILIzMIKRON ISONzVAREIA NEOzPIASMA NEOzPSIFISTON NEOzOMALONzANTIKENOMAzLYGISMAzPA" ++
     "RAKLITIKI NEOzPARAKALESMA NEOzETERON PARAKALESMAzKYLISMAzANTIKENOKYLISMAzTROMIKON NEOzEKSTREPTONzSYNAGMA N" ++
     "EOzSYRMAzCHOREVMA NEOzEPEGERMAzSEISMA NEOzXIRON KLASMAzTROMIKOPSIFISTONzPSIFISTOLYGISMAzTROMIKOLYGISMAzTRO" ++
     "MIKOPARAKALESMAzPSIFISTOPARAKALESMAzTROMIKOSYNAGMAzPSIFISTOSYNAGMAzGORGOSYNTHETONzARGOSYNTHETONzETERON ARG" ++
     "OSYNTHETONzOYRANISMA NEOzTHEMATISMOS ESOzTHEMATISMOS EXOzTHEMA APLOUNzTHES KAI APOTHESzKATAVASMAzENDOFONON" ++
     "zYFEN KATOzYFEN ANOzSTAVROSzKLASMA ANOzDIPLI ARCHAIONzKRATIMA ARCHAIONzKRATIMA ALLOzKRATIMA NEOzAPODERMA N" ++
     "EOzAPLIzDIPLIzTRIPLIzTETRAPLIzKORONISzLEIMMA ENOS CHRONOUzLEIMMA DYO CHRONONzLEIMMA TRION CHRONONzLEIMMA T" ++
     "ESSARON CHRONON"),
   (0x1d08e, "aBYZANTINE MUSICAL SYMBOL LEIMMA IMISEOS CHRONOUzGORGON NEO ANOzGORGON PARESTIGMENON ARISTERAzGORG" ++
     "ON PARESTIGMENON DEXIAzDIGORGONzDIGORGON PARESTIGMENON ARISTERA KATOzDIGORGON PARESTIGMENON ARISTERA ANOzD" ++
     "IGORGON PARESTIGMENON DEXIAzTRIGORGONzARGONzIMIDIARGONzDIARGONzAGOGI POLI ARGIzAGOGI ARGOTERIzAGOGI ARGIzA" ++
     "GOGI METRIAzAGOGI MESIzAGOGI GORGIzAGOGI GORGOTERIzAGOGI POLI GORGIzMARTYRIA PROTOS ICHOSzMARTYRIA ALLI PR" ++
     "OTOS ICHOSzMARTYRIA DEYTEROS ICHOSzMARTYRIA ALLI DEYTEROS ICHOSzMARTYRIA TRITOS ICHOSzMARTYRIA TRIFONIASzM" ++
     "ARTYRIA TETARTOS ICHOSzMARTYRIA TETARTOS LEGETOS ICHOSzMARTYRIA LEGETOS ICHOSzMARTYRIA PLAGIOS ICHOSzISAKI" ++
     "A TELOUS ICHIMATOSzAPOSTROFOI TELOUS ICHIMATOSzFANEROSIS TETRAFONIASzFANEROSIS MONOFONIASzFANEROSIS DIFONI" ++
     "ASzMARTYRIA VARYS ICHOSzMARTYRIA PROTOVARYS ICHOSzMARTYRIA PLAGIOS TETARTOS ICHOSzGORTHMIKON N APLOUNzGORT" ++
     "HMIKON N DIPLOUNzENARXIS KAI FTHORA VOUzIMIFONONzIMIFTHORONzFTHORA ARCHAION DEYTEROU ICHOUzFTHORA DIATONIK" ++
     "I PAzFTHORA DIATONIKI NANAzFTHORA NAOS ICHOSzFTHORA DIATONIKI DIzFTHORA SKLIRON DIATONON DIzFTHORA DIATONI" ++
     "KI KEzFTHORA DIATONIKI ZOzFTHORA DIATONIKI NI KATOzFTHORA DIATONIKI NI ANOzFTHORA MALAKON CHROMA DIFONIASz" ++
     "FTHORA MALAKON CHROMA MONOFONIASzFHTORA SKLIRON CHROMA VASISzFTHORA SKLIRON CHROMA SYNAFIzFTHORA NENANOzCH" ++
     "ROA ZYGOSzCHROA KLITONzCHROA SPATHIzFTHORA I YFESIS TETARTIMORIONzFTHORA ENARMONIOS ANTIFONIAzYFESIS TRITI" ++
     "MORIONzDIESIS TRITIMORIONzDIESIS TETARTIMORIONzDIESIS APLI DYO DODEKATAzDIESIS MONOGRAMMOS TESSERA DODEKAT" ++
     "AzDIESIS DIGRAMMOS EX DODEKATAzDIESIS TRIGRAMMOS OKTO DODEKATAzYFESIS APLI DYO DODEKATAzYFESIS MONOGRAMMOS" ++
     " TESSERA DODEKATAzYFESIS DIGRAMMOS EX DODEKATAzYFESIS TRIGRAMMOS OKTO DODEKATAzGENIKI DIESISzGENIKI YFESIS" ++
     "zDIASTOLI APLI MIKRIzDIASTOLI APLI MEGALIzDIASTOLI DIPLIzDIASTOLI THESEOSzSIMANSIS THESEOSzSIMANSIS THESEO" ++
     "S DISIMOU"),
   (0x1d0e0, "aBYZANTINE MUSICAL SYMBOL SIMANSIS THESEOS TRISIMOUzSIMANSIS THESEOS TETRASIMOUzSIMANSIS ARSEOSzSI" ++
     "MANSIS ARSEOS DISIMOUzSIMANSIS ARSEOS TRISIMOUzSIMANSIS ARSEOS TETRASIMOUzDIGRAMMA GGzDIFTOGGOS OUzSTIGMAz" ++
     "ARKTIKO PAzARKTIKO VOUzARKTIKO GAzARKTIKO DIzARKTIKO KEzARKTIKO ZOzARKTIKO NIzKENTIMATA NEO MESOzKENTIMA N" ++
     "EO MESOzKENTIMATA NEO KATOzKENTIMA NEO KATOzKLASMA KATOzGORGON NEO KATO"),
   (0x1d100, "aMUSICAL SYMBOL SINGLE BARLINEpDOUBLE BARLINEpFINAL BARLINEpREVERSE FINAL BARLINEpDASHED BARLINEpS" ++
     "HORT BARLINEpLEFT REPEAT SIGNpRIGHT REPEAT SIGNqEPEAT DOTSpDAL SEGNOr CAPOpSEGNOpCODApREPEATED FIGURE-1zIG" ++
     "URE-2zIGURE-3pFERMATAw BELOWpBREATH MARKpCAESURApBRACEtKETpONE-LINE STAFFpTWO-LINE STAFFqHREE-LINE STAFFpF" ++
     "OUR-LINE STAFFqIVE-LINE STAFFpSIX-LINE STAFFtSTRING FRETBOARDpFOUR-STRING FRETBOARDpG CLEFv OTTAVA ALTAzAV" ++
     "A BASSApC CLEFpF CLEFv OTTAVA ALTAzAVA BASSApDRUM CLEF-1z2"),
   (0x1d129, "aMUSICAL SYMBOL MULTIPLE MEASURE RESTpDOUBLE SHARPwFLATpFLAT UPuDOWNpNATURAL UPxDOWNpSHARP UPvDOWN" ++
     "pQUARTER TONE SHARPzNE FLATpCOMMON TIMEqUT TIMEpOTTAVA ALTAwBASSApQUINDICESIMA ALTAzMA BASSApMULTI RESTpWH" ++
     "OLE RESTpHALF RESTpQUARTER RESTpEIGHTH RESTpSIXTEENTH RESTpTHIRTY-SECOND RESTpSIXTY-FOURTH RESTpONE HUNDRE" ++
     "D TWENTY-EIGHTH RESTpX NOTEHEADpPLUS NOTEHEADpCIRCLE X NOTEHEADpSQUARE NOTEHEAD WHITEzEHEAD BLACKpTRIANGLE" ++
     " NOTEHEAD UP WHITEzOTEHEAD UP BLACKzOTEHEAD LEFT WHITEzOTEHEAD LEFT BLACKzOTEHEAD RIGHT WHITEzOTEHEAD RIGH" ++
     "T BLACKzOTEHEAD DOWN WHITEzOTEHEAD DOWN BLACKzOTEHEAD UP RIGHT WHITEzOTEHEAD UP RIGHT BLACKpMOON NOTEHEAD " ++
     "WHITEzEAD BLACKpTRIANGLE-ROUND NOTEHEAD DOWN WHITEzOUND NOTEHEAD DOWN BLACKpPARENTHESIS NOTEHEADpVOID NOTE" ++
     "HEADpNOTEHEAD BLACKqULL NOTEHEADpCLUSTER NOTEHEAD WHITEzTEHEAD BLACKpBREVEpWHOLE NOTEpHALF NOTEpQUARTER NO" ++
     "TEpEIGHTH NOTEpSIXTEENTH NOTEpTHIRTY-SECOND NOTEpSIXTY-FOURTH NOTEpONE HUNDRED TWENTY-EIGHTH NOTEpCOMBININ" ++
     "G STEMzSPRECHGESANG STEMzTREMOLO-1zTREMOLO-2zTREMOLO-3pFINGERED TREMOLO-1zREMOLO-2zREMOLO-3pCOMBINING AUGM" ++
     "ENTATION DOTzFLAG-1zFLAG-2zFLAG-3zFLAG-4zFLAG-5pBEGIN BEAMpEND BEAMpBEGIN TIEpEND TIEpBEGIN SLURpEND SLURp" ++
     "BEGIN PHRASEpEND PHRASEpCOMBINING ACCENTzSTACCATOzTENUTOzSTACCATISSIMOzMARCATOzMARCATO-STACCATOzACCENT-STA" ++
     "CCATOzLOUREpARPEGGIATO UPz DOWNpCOMBINING DOITzRIPzFLIPzSMEARzBENDzDOUBLE TONGUEzTRIPLE TONGUEpRINFORZANDO" ++
     "pSUBITOpZpPIANOpMEZZOpFORTEpCRESCENDOpDECRESCENDOpGRACE NOTE SLASHz NO SLASHpTRqURNpINVERTED TURNpTURN SLA" ++
     "SHuUPpORNAMENT STROKE-1zTROKE-2zTROKE-3zTROKE-4zTROKE-5zTROKE-6zTROKE-7zTROKE-8zTROKE-9zTROKE-10zTROKE-11p" ++
     "HAUPTSTIMMEpNEBENSTIMMEpEND OF STIMMEpDEGREE SLASHpCOMBINING DOWN BOWzUP BOWzHARMONICzSNAP PIZZICATOpPEDAL" ++
     " MARKvUP MARKpHALF PEDAL MARKpGLISSANDO UPzDOWNpWITH FINGERNAILSpDAMPt ALLpMAXIMApLONGApBREVISpSEMIBREVIS " ++
     "WHITEz BLACK"),
   (0x1d1bb, "aMUSICAL SYMBOL MINIMAv BLACKpSEMIMINIMA WHITEz BLACKpFUSA WHITEuBLACKpLONGA PERFECTA RESTvIMPERFE" ++
     "CTA RESTpBREVIS RESTpSEMIBREVIS RESTpMINIMA RESTpSEMIMINIMA RESTpTEMPUS PERFECTUM CUM PROLATIONE PERFECTAz" ++
     "FECTUM CUM PROLATIONE IMPERFECTAzFECTUM CUM PROLATIONE PERFECTA DIMINUTION-1wIMPERFECTUM CUM PROLATIONE PE" ++
     "RFECTAzERFECTUM CUM PROLATIONE IMPERFECTAzERFECTUM CUM PROLATIONE IMPERFECTA DIMINUTION-1zERFECTUM CUM PRO" ++
     "LATIONE IMPERFECTA DIMINUTION-2zERFECTUM CUM PROLATIONE IMPERFECTA DIMINUTION-3pCROIXpGREGORIAN C CLEFzF C" ++
     "LEFpSQUARE BpVIRGApPODATUSpCLIVISpSCANDICUSpCLIMACUSpTORCULUSpPORRECTUSy FLEXUSpSCANDICUS FLEXUSpTORCULUS " ++
     "RESUPINUSpPES SUBPUNCTISpKIEVAN C CLEFwEND OF PIECEwFINAL NOTEwRECITATIVE MARKwWHOLE NOTEwHALF NOTEwQUARTE" ++
     "R NOTE STEM DOWNzRTER NOTE STEM UPwEIGHTH NOTE STEM DOWNzHTH NOTE STEM UPwFLAT SIGNpSORIpKORON"),
   (0x1d200, "aGREEK VOCAL NOTATION SYMBOL-1zOL-2zOL-3zOL-4zOL-5zOL-6zOL-7zOL-8zOL-9zOL-10zOL-11zOL-12zOL-13zOL-" ++
     "14zOL-15zOL-16zOL-17zOL-18zOL-19zOL-20zOL-21zOL-22zOL-23zOL-24zOL-50zOL-51zOL-52zOL-53zOL-54gINSTRUMENTAL " ++
     "NOTATION SYMBOL-1zON SYMBOL-2zON SYMBOL-4zON SYMBOL-5zON SYMBOL-7zON SYMBOL-8zON SYMBOL-11zON SYMBOL-12zON" ++
     " SYMBOL-13zON SYMBOL-14zON SYMBOL-17zON SYMBOL-18zON SYMBOL-19zON SYMBOL-23zON SYMBOL-24zON SYMBOL-25zON S" ++
     "YMBOL-26zON SYMBOL-27zON SYMBOL-29zON SYMBOL-30zON SYMBOL-32zON SYMBOL-36zON SYMBOL-37zON SYMBOL-38zON SYM" ++
     "BOL-39zON SYMBOL-40zON SYMBOL-42zON SYMBOL-43zON SYMBOL-45zON SYMBOL-47zON SYMBOL-48zON SYMBOL-49zON SYMBO" ++
     "L-50zON SYMBOL-51zON SYMBOL-52zON SYMBOL-53zON SYMBOL-54aCOMBINING GREEK MUSICAL TRISEMEzETRASEMEyPENTASEM" ++
     "EaGREEK MUSICAL LEIMMA"),
   (0x1d2e0, "aMAYAN NUMERAL ZEROoONEoTWOpHREEoFOURpIVEoSIXpEVENoEIGHToNINEoTENoELEVENoTWELVEpHIRTEENoFOURTEENpI" ++
     "FTEENoSIXTEENpEVENTEENoEIGHTEENoNINETEEN"),
   (0x1d300, "aMONOGRAM FOR EARTHaDIGRAM FOR HEAVENLY EARTHmUMAN EARTHlEARTHLY HEAVENuUMANqaTETRAGRAM FOR CENTRE" ++
     "oFULL CIRCLEoMIREDoBARRIERoKEEPING SMALLoCONTRARIETYoASCENToOPPOSITIONoBRANCHING OUToDEFECTIVENESS OR DIST" ++
     "ORTIONpIVERGENCEoYOUTHFULNESSoINCREASEoPENETRATIONoREACHoCONTACToHOLDING BACKoWAITINGoFOLLOWINGoADVANCEoRE" ++
     "LEASEqSISTANCEoEASEoJOYoCONTENTIONoENDEAVOURoDUTIESoCHANGEoDECISIVENESSoBOLD RESOLUTIONoPACKINGoLEGIONoCLO" ++
     "SENESSoKINSHIPoGATHERINGoSTRENGTHoPURITYoFULLNESSoRESIDENCEoLAW OR MODELoRESPONSEoGOING TO MEEToENCOUNTERS" ++
     "oSTOVEoGREATNESSoENLARGEMENToPATTERNoRITUALoFLIGHToVASTNESS OR WASTINGoCONSTANCYoMEASUREoETERNITYoUNITYoDI" ++
     "MINISHMENToCLOSED MOUTHoGUARDEDNESSpATHERING INoMASSINGoACCUMULATIONoEMBELLISHMENToDOUBToWATCHoSINKINGoINN" ++
     "ERoDEPARTUREpARKENINGpIMMINGoEXHAUSTIONoSEVERANCEpTOPPAGEoHARDNESSoCOMPLETIONpLOSUREoFAILUREoAGGRAVATIONoC" ++
     "OMPLIANCEoON THE VERGEoDIFFICULTIESoLABOURINGoFOSTERING"),
   (0x1d360, "aCOUNTING ROD UNIT DIGIT ONEyTWOzHREEyFOURzIVEySIXzEVENyEIGHTyNINEnTENS DIGIT ONEyTWOzHREEyFOURzIV" ++
     "EySIXzEVENyEIGHTyNINEaIDEOGRAPHIC TALLY MARK ONExTWOyHREExFOURyIVEaTALLY MARK ONElFIVE"),
   (0x1d400, "aMATHEMATICAL BOLD CAPITAL Az Bz Cz Dz Ez Fz Gz Hz Iz Jz Kz Lz Mz Nz Oz Pz Qz Rz Sz Tz Uz Vz Wz Xz" ++
     " Yz ZsSMALL AyByCyDyEyFyGyHyIyJyKyLyMyNyOyPyQyRySyTyUyVyWyXyYyZnITALIC CAPITAL AzAL BzAL CzAL DzAL EzAL Fz" ++
     "AL GzAL HzAL IzAL JzAL KzAL LzAL MzAL NzAL OzAL PzAL QzAL RzAL SzAL TzAL UzAL VzAL WzAL XzAL YzAL ZuSMALL " ++
     "Az Bz Cz Dz Ez Fz G"),
   (0x1d456, "aMATHEMATICAL ITALIC SMALL Iz Jz Kz Lz Mz Nz Oz Pz Qz Rz Sz Tz Uz Vz Wz Xz Yz ZnBOLD ITALIC CAPITA" ++
     "L AzCAPITAL BzCAPITAL CzCAPITAL DzCAPITAL EzCAPITAL FzCAPITAL GzCAPITAL HzCAPITAL IzCAPITAL JzCAPITAL KzCA" ++
     "PITAL LzCAPITAL MzCAPITAL NzCAPITAL OzCAPITAL PzCAPITAL QzCAPITAL RzCAPITAL SzCAPITAL TzCAPITAL UzCAPITAL " ++
     "VzCAPITAL WzCAPITAL XzCAPITAL YzCAPITAL ZzSMALL AzSMALL BzSMALL CzSMALL DzSMALL EzSMALL FzSMALL GzSMALL Hz" ++
     "SMALL IzSMALL JzSMALL KzSMALL LzSMALL MzSMALL NzSMALL OzSMALL PzSMALL QzSMALL RzSMALL SzSMALL TzSMALL UzSM" ++
     "ALL VzSMALL WzSMALL XzSMALL YzSMALL ZnSCRIPT CAPITAL A"),
   (0x1d49e, "aMATHEMATICAL SCRIPT CAPITAL CzAL D"),
   (0x1d4a2, "aMATHEMATICAL SCRIPT CAPITAL G"),
   (0x1d4a5, "aMATHEMATICAL SCRIPT CAPITAL JzAL K"),
   (0x1d4a9, "aMATHEMATICAL SCRIPT CAPITAL NzAL OzAL PzAL Q"),
   (0x1d4ae, "aMATHEMATICAL SCRIPT CAPITAL SzAL TzAL UzAL VzAL WzAL XzAL YzAL ZuSMALL Az Bz Cz D"),
   (0x1d4bb, "aMATHEMATICAL SCRIPT SMALL F"),
   (0x1d4bd, "aMATHEMATICAL SCRIPT SMALL Hz Iz Jz Kz Lz Mz N"),
   (0x1d4c5, "aMATHEMATICAL SCRIPT SMALL Pz Qz Rz Sz Tz Uz Vz Wz Xz Yz ZnBOLD SCRIPT CAPITAL AzCAPITAL BzCAPITAL" ++
     " CzCAPITAL DzCAPITAL EzCAPITAL FzCAPITAL GzCAPITAL HzCAPITAL IzCAPITAL JzCAPITAL KzCAPITAL LzCAPITAL MzCAP" ++
     "ITAL NzCAPITAL OzCAPITAL PzCAPITAL QzCAPITAL RzCAPITAL SzCAPITAL TzCAPITAL UzCAPITAL VzCAPITAL WzCAPITAL X" ++
     "zCAPITAL YzCAPITAL ZzSMALL AzSMALL BzSMALL CzSMALL DzSMALL EzSMALL FzSMALL GzSMALL HzSMALL IzSMALL JzSMALL" ++
     " KzSMALL LzSMALL MzSMALL NzSMALL OzSMALL PzSMALL QzSMALL RzSMALL SzSMALL TzSMALL UzSMALL VzSMALL WzSMALL X" ++
     "zSMALL YzSMALL ZnFRAKTUR CAPITAL AzTAL B"),
   (0x1d507, "aMATHEMATICAL FRAKTUR CAPITAL DzTAL EzTAL FzTAL G"),
   (0x1d50d, "aMATHEMATICAL FRAKTUR CAPITAL JzTAL KzTAL LzTAL MzTAL NzTAL OzTAL PzTAL Q"),
   (0x1d516, "aMATHEMATICAL FRAKTUR CAPITAL SzTAL TzTAL UzTAL VzTAL WzTAL XzTAL Y"),
   (0x1d51e, "aMATHEMATICAL FRAKTUR SMALL AzL BzL CzL DzL EzL FzL GzL HzL IzL JzL KzL LzL MzL NzL OzL PzL QzL Rz" ++
     "L SzL TzL UzL VzL WzL XzL YzL ZnDOUBLE-STRUCK CAPITAL AzK CAPITAL B"),
   (0x1d53b, "aMATHEMATICAL DOUBLE-STRUCK CAPITAL DzK CAPITAL EzK CAPITAL FzK CAPITAL G"),
   (0x1d540, "aMATHEMATICAL DOUBLE-STRUCK CAPITAL IzK CAPITAL JzK CAPITAL KzK CAPITAL LzK CAPITAL M"),
   (0x1d546, "aMATHEMATICAL DOUBLE-STRUCK CAPITAL O"),
   (0x1d54a, "aMATHEMATICAL DOUBLE-STRUCK CAPITAL SzK CAPITAL TzK CAPITAL UzK CAPITAL VzK CAPITAL WzK CAPITAL Xz" ++
     "K CAPITAL Y"),
   (0x1d552, "aMATHEMATICAL DOUBLE-STRUCK SMALL AzK SMALL BzK SMALL CzK SMALL DzK SMALL EzK SMALL FzK SMALL GzK " ++
     "SMALL HzK SMALL IzK SMALL JzK SMALL KzK SMALL LzK SMALL MzK SMALL NzK SMALL OzK SMALL PzK SMALL QzK SMALL " ++
     "RzK SMALL SzK SMALL TzK SMALL UzK SMALL VzK SMALL WzK SMALL XzK SMALL YzK SMALL ZnBOLD FRAKTUR CAPITAL Az " ++
     "CAPITAL Bz CAPITAL Cz CAPITAL Dz CAPITAL Ez CAPITAL Fz CAPITAL Gz CAPITAL Hz CAPITAL Iz CAPITAL Jz CAPITAL" ++
     " Kz CAPITAL Lz CAPITAL Mz CAPITAL Nz CAPITAL Oz CAPITAL Pz CAPITAL Qz CAPITAL Rz CAPITAL Sz CAPITAL Tz CAP" ++
     "ITAL Uz CAPITAL Vz CAPITAL Wz CAPITAL Xz CAPITAL Yz CAPITAL Zz SMALL Az SMALL Bz SMALL Cz SMALL Dz SMALL E" ++
     "z SMALL Fz SMALL Gz SMALL Hz SMALL Iz SMALL Jz SMALL Kz SMALL Lz SMALL Mz SMALL Nz SMALL Oz SMALL Pz SMALL" ++
     " Qz SMALL Rz SMALL Sz SMALL Tz SMALL Uz SMALL Vz SMALL Wz SMALL Xz SMALL Yz SMALL ZnSANS-SERIF CAPITAL AzA" ++
     "PITAL BzAPITAL CzAPITAL DzAPITAL EzAPITAL FzAPITAL GzAPITAL HzAPITAL IzAPITAL JzAPITAL KzAPITAL LzAPITAL M" ++
     "zAPITAL NzAPITAL OzAPITAL PzAPITAL QzAPITAL RzAPITAL SzAPITAL TzAPITAL UzAPITAL VzAPITAL WzAPITAL XzAPITAL" ++
     " YzAPITAL ZySMALL AzMALL BzMALL CzMALL DzMALL EzMALL FzMALL GzMALL HzMALL IzMALL JzMALL KzMALL LzMALL MzMA" ++
     "LL NzMALL OzMALL PzMALL QzMALL RzMALL SzMALL TzMALL UzMALL VzMALL WzMALL XzMALL YzMALL ZyBOLD CAPITAL AzOL" ++
     "D CAPITAL BzOLD CAPITAL CzOLD CAPITAL DzOLD CAPITAL EzOLD CAPITAL FzOLD CAPITAL GzOLD CAPITAL HzOLD CAPITA" ++
     "L IzOLD CAPITAL JzOLD CAPITAL KzOLD CAPITAL LzOLD CAPITAL MzOLD CAPITAL NzOLD CAPITAL OzOLD CAPITAL PzOLD " ++
     "CAPITAL QzOLD CAPITAL RzOLD CAPITAL SzOLD CAPITAL TzOLD CAPITAL UzOLD CAPITAL VzOLD CAPITAL WzOLD CAPITAL " ++
     "XzOLD CAPITAL YzOLD CAPITAL ZzOLD SMALL AzOLD SMALL BzOLD SMALL CzOLD SMALL DzOLD SMALL EzOLD SMALL FzOLD " ++
     "SMALL GzOLD SMALL HzOLD SMALL IzOLD SMALL JzOLD SMALL KzOLD SMALL LzOLD SMALL MzOLD SMALL NzOLD SMALL OzOL" ++
     "D SMALL P"),
   (0x1d5fe, "aMATHEMATICAL SANS-SERIF BOLD SMALL QzOLD SMALL RzOLD SMALL SzOLD SMALL TzOLD SMALL UzOLD SMALL Vz" ++
     "OLD SMALL WzOLD SMALL XzOLD SMALL YzOLD SMALL ZyITALIC CAPITAL AzTALIC CAPITAL BzTALIC CAPITAL CzTALIC CAP" ++
     "ITAL DzTALIC CAPITAL EzTALIC CAPITAL FzTALIC CAPITAL GzTALIC CAPITAL HzTALIC CAPITAL IzTALIC CAPITAL JzTAL" ++
     "IC CAPITAL KzTALIC CAPITAL LzTALIC CAPITAL MzTALIC CAPITAL NzTALIC CAPITAL OzTALIC CAPITAL PzTALIC CAPITAL" ++
     " QzTALIC CAPITAL RzTALIC CAPITAL SzTALIC CAPITAL TzTALIC CAPITAL UzTALIC CAPITAL VzTALIC CAPITAL WzTALIC C" ++
     "APITAL XzTALIC CAPITAL YzTALIC CAPITAL ZzTALIC SMALL AzTALIC SMALL BzTALIC SMALL CzTALIC SMALL DzTALIC SMA" ++
     "LL EzTALIC SMALL FzTALIC SMALL GzTALIC SMALL HzTALIC SMALL IzTALIC SMALL JzTALIC SMALL KzTALIC SMALL LzTAL" ++
     "IC SMALL MzTALIC SMALL NzTALIC SMALL OzTALIC SMALL PzTALIC SMALL QzTALIC SMALL RzTALIC SMALL SzTALIC SMALL" ++
     " TzTALIC SMALL UzTALIC SMALL VzTALIC SMALL WzTALIC SMALL XzTALIC SMALL YzTALIC SMALL ZyBOLD ITALIC CAPITAL" ++
     " AzOLD ITALIC CAPITAL BzOLD ITALIC CAPITAL CzOLD ITALIC CAPITAL DzOLD ITALIC CAPITAL EzOLD ITALIC CAPITAL " ++
     "FzOLD ITALIC CAPITAL GzOLD ITALIC CAPITAL HzOLD ITALIC CAPITAL IzOLD ITALIC CAPITAL JzOLD ITALIC CAPITAL K" ++
     "zOLD ITALIC CAPITAL LzOLD ITALIC CAPITAL MzOLD ITALIC CAPITAL NzOLD ITALIC CAPITAL OzOLD ITALIC CAPITAL Pz" ++
     "OLD ITALIC CAPITAL QzOLD ITALIC CAPITAL RzOLD ITALIC CAPITAL SzOLD ITALIC CAPITAL TzOLD ITALIC CAPITAL UzO" ++
     "LD ITALIC CAPITAL VzOLD ITALIC CAPITAL WzOLD ITALIC CAPITAL XzOLD ITALIC CAPITAL YzOLD ITALIC CAPITAL ZzOL" ++
     "D ITALIC SMALL AzOLD ITALIC SMALL BzOLD ITALIC SMALL CzOLD ITALIC SMALL DzOLD ITALIC SMALL EzOLD ITALIC SM" ++
     "ALL FzOLD ITALIC SMALL GzOLD ITALIC SMALL HzOLD ITALIC SMALL IzOLD ITALIC SMALL JzOLD ITALIC SMALL KzOLD I" ++
     "TALIC SMALL LzOLD ITALIC SMALL MzOLD ITALIC SMALL NzOLD ITALIC SMALL OzOLD ITALIC SMALL PzOLD ITALIC SMALL" ++
     " QzOLD ITALIC SMALL R"),
   (0x1d668, "aMATHEMATICAL SANS-SERIF BOLD ITALIC SMALL SzOLD ITALIC SMALL TzOLD ITALIC SMALL UzOLD ITALIC SMAL" ++
     "L VzOLD ITALIC SMALL WzOLD ITALIC SMALL XzOLD ITALIC SMALL YzOLD ITALIC SMALL ZnMONOSPACE CAPITAL AzPITAL " ++
     "BzPITAL CzPITAL DzPITAL EzPITAL FzPITAL GzPITAL HzPITAL IzPITAL JzPITAL KzPITAL LzPITAL MzPITAL NzPITAL Oz" ++
     "PITAL PzPITAL QzPITAL RzPITAL SzPITAL TzPITAL UzPITAL VzPITAL WzPITAL XzPITAL YzPITAL ZxSMALL AzALL BzALL " ++
     "CzALL DzALL EzALL FzALL GzALL HzALL IzALL JzALL KzALL LzALL MzALL NzALL OzALL PzALL QzALL RzALL SzALL TzAL" ++
     "L UzALL VzALL WzALL XzALL YzALL ZnITALIC SMALL DOTLESS Iz DOTLESS J"),
   (0x1d6a8, "aMATHEMATICAL BOLD CAPITAL ALPHAz BETAz GAMMAz DELTAz EPSILONz ZETAz ETAz THETAz IOTAz KAPPAz LAMD" ++
     "Az MUz NUz XIz OMICRONz PIz RHOz THETA SYMBOLz SIGMAz TAUz UPSILONz PHIz CHIz PSIz OMEGAsNABLAsSMALL ALPHA" ++
     "yBETAyGAMMAyDELTAyEPSILONyZETAyETAyTHETAyIOTAyKAPPAyLAMDAyMUyNUyXIyOMICRONyPIyRHOyFINAL SIGMAySIGMAyTAUyUP" ++
     "SILONyPHIyCHIyPSIyOMEGAsPARTIAL DIFFERENTIALsEPSILON SYMBOLsTHETA SYMBOLsKAPPA SYMBOLsPHI SYMBOLsRHO SYMBO" ++
     "LsPI SYMBOLnITALIC CAPITAL ALPHAzAL BETAzAL GAMMAzAL DELTAzAL EPSILONzAL ZETAzAL ETAzAL THETAzAL IOTAzAL K" ++
     "APPAzAL LAMDAzAL MUzAL NUzAL XIzAL OMICRONzAL PIzAL RHOzAL THETA SYMBOLzAL SIGMAzAL TAUzAL UPSILONzAL PHIz" ++
     "AL CHIzAL PSIzAL OMEGAuNABLAuSMALL ALPHAz BETAz GAMMAz DELTAz EPSILONz ZETAz ETAz THETAz IOTAz KAPPAz LAMD" ++
     "Az MUz NUz XIz OMICRONz PIz RHOz FINAL SIGMAz SIGMAz TAUz UPSILONz PHIz CHIz PSIz OMEGAuPARTIAL DIFFERENTI" ++
     "ALuEPSILON SYMBOLuTHETA SYMBOLuKAPPA SYMBOLuPHI SYMBOLuRHO SYMBOLuPI SYMBOLnBOLD ITALIC CAPITAL ALPHAzCAPI" ++
     "TAL BETAzCAPITAL GAMMAzCAPITAL DELTAzCAPITAL EPSILONzCAPITAL ZETAzCAPITAL ETAzCAPITAL THETAzCAPITAL IOTAzC" ++
     "APITAL KAPPAzCAPITAL LAMDAzCAPITAL MUzCAPITAL NUzCAPITAL XIzCAPITAL OMICRONzCAPITAL PIzCAPITAL RHOzCAPITAL" ++
     " THETA SYMBOLzCAPITAL SIGMAzCAPITAL TAUzCAPITAL UPSILONzCAPITAL PHIzCAPITAL CHIzCAPITAL PSIzCAPITAL OMEGAz" ++
     "NABLAzSMALL ALPHAzSMALL BETAzSMALL GAMMAzSMALL DELTAzSMALL EPSILONzSMALL ZETAzSMALL ETAzSMALL THETAzSMALL " ++
     "IOTAzSMALL KAPPAzSMALL LAMDAzSMALL MUzSMALL NUzSMALL XIzSMALL OMICRONzSMALL PIzSMALL RHOzSMALL FINAL SIGMA" ++
     "zSMALL SIGMAzSMALL TAUzSMALL UPSILONzSMALL PHIzSMALL CHIzSMALL PSIzSMALL OMEGAzPARTIAL DIFFERENTIALzEPSILO" ++
     "N SYMBOLzTHETA SYMBOLzKAPPA SYMBOLzPHI SYMBOLzRHO SYMBOLzPI SYMBOLnSANS-SERIF BOLD CAPITAL ALPHAzOLD CAPIT" ++
     "AL BETAzOLD CAPITAL GAMMAzOLD CAPITAL DELTAzOLD CAPITAL EPSILONzOLD CAPITAL ZETAzOLD CAPITAL ETAzOLD CAPIT" ++
     "AL THETA"),
   (0x1d75e, "aMATHEMATICAL SANS-SERIF BOLD CAPITAL IOTAzOLD CAPITAL KAPPAzOLD CAPITAL LAMDAzOLD CAPITAL MUzOLD " ++
     "CAPITAL NUzOLD CAPITAL XIzOLD CAPITAL OMICRONzOLD CAPITAL PIzOLD CAPITAL RHOzOLD CAPITAL THETA SYMBOLzOLD " ++
     "CAPITAL SIGMAzOLD CAPITAL TAUzOLD CAPITAL UPSILONzOLD CAPITAL PHIzOLD CAPITAL CHIzOLD CAPITAL PSIzOLD CAPI" ++
     "TAL OMEGAzOLD NABLAzOLD SMALL ALPHAzOLD SMALL BETAzOLD SMALL GAMMAzOLD SMALL DELTAzOLD SMALL EPSILONzOLD S" ++
     "MALL ZETAzOLD SMALL ETAzOLD SMALL THETAzOLD SMALL IOTAzOLD SMALL KAPPAzOLD SMALL LAMDAzOLD SMALL MUzOLD SM" ++
     "ALL NUzOLD SMALL XIzOLD SMALL OMICRONzOLD SMALL PIzOLD SMALL RHOzOLD SMALL FINAL SIGMAzOLD SMALL SIGMAzOLD" ++
     " SMALL TAUzOLD SMALL UPSILONzOLD SMALL PHIzOLD SMALL CHIzOLD SMALL PSIzOLD SMALL OMEGAzOLD PARTIAL DIFFERE" ++
     "NTIALzOLD EPSILON SYMBOLzOLD THETA SYMBOLzOLD KAPPA SYMBOLzOLD PHI SYMBOLzOLD RHO SYMBOLzOLD PI SYMBOLzOLD" ++
     " ITALIC CAPITAL ALPHAzOLD ITALIC CAPITAL BETAzOLD ITALIC CAPITAL GAMMAzOLD ITALIC CAPITAL DELTAzOLD ITALIC" ++
     " CAPITAL EPSILONzOLD ITALIC CAPITAL ZETAzOLD ITALIC CAPITAL ETAzOLD ITALIC CAPITAL THETAzOLD ITALIC CAPITA" ++
     "L IOTAzOLD ITALIC CAPITAL KAPPAzOLD ITALIC CAPITAL LAMDAzOLD ITALIC CAPITAL MUzOLD ITALIC CAPITAL NUzOLD I" ++
     "TALIC CAPITAL XIzOLD ITALIC CAPITAL OMICRONzOLD ITALIC CAPITAL PIzOLD ITALIC CAPITAL RHOzOLD ITALIC CAPITA" ++
     "L THETA SYMBOLzOLD ITALIC CAPITAL SIGMAzOLD ITALIC CAPITAL TAUzOLD ITALIC CAPITAL UPSILONzOLD ITALIC CAPIT" ++
     "AL PHIzOLD ITALIC CAPITAL CHIzOLD ITALIC CAPITAL PSIzOLD ITALIC CAPITAL OMEGAzOLD ITALIC NABLAzOLD ITALIC " ++
     "SMALL ALPHAzOLD ITALIC SMALL BETAzOLD ITALIC SMALL GAMMAzOLD ITALIC SMALL DELTAzOLD ITALIC SMALL EPSILONzO" ++
     "LD ITALIC SMALL ZETAzOLD ITALIC SMALL ETAzOLD ITALIC SMALL THETAzOLD ITALIC SMALL IOTAzOLD ITALIC SMALL KA" ++
     "PPAzOLD ITALIC SMALL LAMDAzOLD ITALIC SMALL MUzOLD ITALIC SMALL NUzOLD ITALIC SMALL XIzOLD ITALIC SMALL OM" ++
     "ICRONzOLD ITALIC SMALL PI"),
   (0x1d7ba, "aMATHEMATICAL SANS-SERIF BOLD ITALIC SMALL RHOzOLD ITALIC SMALL FINAL SIGMAzOLD ITALIC SMALL SIGMA" ++
     "zOLD ITALIC SMALL TAUzOLD ITALIC SMALL UPSILONzOLD ITALIC SMALL PHIzOLD ITALIC SMALL CHIzOLD ITALIC SMALL " ++
     "PSIzOLD ITALIC SMALL OMEGAzOLD ITALIC PARTIAL DIFFERENTIALzOLD ITALIC EPSILON SYMBOLzOLD ITALIC THETA SYMB" ++
     "OLzOLD ITALIC KAPPA SYMBOLzOLD ITALIC PHI SYMBOLzOLD ITALIC RHO SYMBOLzOLD ITALIC PI SYMBOLnBOLD CAPITAL D" ++
     "IGAMMAsSMALL DIGAMMA"),
   (0x1d7ce, "aMATHEMATICAL BOLD DIGIT ZEROyONEyTWOzHREEyFOURzIVEySIXzEVENyEIGHTyNINEnDOUBLE-STRUCK DIGIT ZEROzK" ++
     " DIGIT ONEzK DIGIT TWOzK DIGIT THREEzK DIGIT FOURzK DIGIT FIVEzK DIGIT SIXzK DIGIT SEVENzK DIGIT EIGHTzK D" ++
     "IGIT NINEnSANS-SERIF DIGIT ZEROzIGIT ONEzIGIT TWOzIGIT THREEzIGIT FOURzIGIT FIVEzIGIT SIXzIGIT SEVENzIGIT " ++
     "EIGHTzIGIT NINEyBOLD DIGIT ZEROzOLD DIGIT ONEzOLD DIGIT TWOzOLD DIGIT THREEzOLD DIGIT FOURzOLD DIGIT FIVEz" ++
     "OLD DIGIT SIXzOLD DIGIT SEVENzOLD DIGIT EIGHTzOLD DIGIT NINEnMONOSPACE DIGIT ZEROzGIT ONEzGIT TWOzGIT THRE" ++
     "EzGIT FOURzGIT FIVEzGIT SIXzGIT SEVENzGIT EIGHTzGIT NINEaSIGNWRITING HAND-FIST INDEXrCIRCLE INDEXsUP INDEX" ++
     "rOVAL INDEXrHINGE INDEXrANGLE INDEXrFIST INDEX BENTrCIRCLE INDEX BENTrFIST THUMB UNDER INDEX BENTwINDEX RA" ++
     "ISED KNUCKLEzEX CUPPEDzEX HINGEDzEX HINGED LOWrCIRCLE INDEX HINGErFIST INDEX MIDDLErCIRCLE INDEX MIDDLErFI" ++
     "ST INDEX MIDDLE BENTzEX MIDDLE RAISED KNUCKLESzEX MIDDLE HINGEDzEX UP MIDDLE HINGEDzEX HINGED MIDDLE UPzEX" ++
     " MIDDLE CONJOINEDzEX MIDDLE CONJOINED INDEX BENTzEX MIDDLE CONJOINED MIDDLE BENTzEX MIDDLE CONJOINED CUPPE" ++
     "DzEX MIDDLE CONJOINED HINGEDzEX MIDDLE CROSSEDrCIRCLE INDEX MIDDLE CROSSEDrFIST MIDDLE BENT OVER INDEXwIND" ++
     "EX BENT OVER MIDDLEzEX MIDDLE THUMBrCIRCLE INDEX MIDDLE THUMBrFIST INDEX MIDDLE STRAIGHT THUMB BENTzEX MID" ++
     "DLE BENT THUMB STRAIGHTzEX MIDDLE THUMB BENTzEX MIDDLE HINGED SPREAD THUMB SIDEzEX UP MIDDLE HINGED THUMB " ++
     "SIDEzEX UP MIDDLE HINGED THUMB CONJOINEDzEX HINGED MIDDLE UP THUMB SIDEzEX MIDDLE UP SPREAD THUMB FORWARDz" ++
     "EX MIDDLE THUMB CUPPEDzEX MIDDLE THUMB CIRCLEDzEX MIDDLE THUMB HOOKEDzEX MIDDLE THUMB HINGEDwTHUMB BETWEEN" ++
     " INDEX MIDDLE STRAIGHTwINDEX MIDDLE CONJOINED THUMB SIDEzEX MIDDLE CONJOINED THUMB SIDE CONJOINEDzEX MIDDL" ++
     "E CONJOINED THUMB SIDE BENTwMIDDLE THUMB HOOKED INDEX UPwINDEX THUMB HOOKED MIDDLE UPzEX MIDDLE CONJOINED " ++
     "HINGED THUMB SIDE"),
   (0x1d833, "aSIGNWRITING HAND-FIST INDEX MIDDLE CROSSED THUMB SIDEzEX MIDDLE CONJOINED THUMB FORWARDzEX MIDDLE" ++
     " CONJOINED CUPPED THUMB FORWARDwMIDDLE THUMB CUPPED INDEX UPwINDEX THUMB CUPPED MIDDLE UPwMIDDLE THUMB CIR" ++
     "CLED INDEX UPzDLE THUMB CIRCLED INDEX HINGEDwINDEX THUMB ANGLED OUT MIDDLE UPzEX THUMB ANGLED IN MIDDLE UP" ++
     "zEX THUMB CIRCLED MIDDLE UPzEX MIDDLE THUMB CONJOINED HINGEDzEX MIDDLE THUMB ANGLED OUTzEX MIDDLE THUMB AN" ++
     "GLEDwMIDDLE THUMB ANGLED OUT INDEX UPzDLE THUMB ANGLED OUT INDEX CROSSEDzDLE THUMB ANGLED INDEX UPwINDEX T" ++
     "HUMB HOOKED MIDDLE HINGEDsLAT FOUR FINGERSzR FINGERS BENTzR FINGERS HINGEDzR FINGERS CONJOINEDzR FINGERS C" ++
     "ONJOINED SPLITrCLAW FOUR FINGERS CONJOINEDrFIST FOUR FINGERS CONJOINED BENTrHINGE FOUR FINGERS CONJOINEDrF" ++
     "LAT FIVE FINGERS SPREADwHEEL FIVE FINGERS SPREADwFIVE FINGERS SPREAD FOUR BENTwHEEL FIVE FINGERS SPREAD FO" ++
     "UR BENTwFIVE FINGERS SPREAD BENTwHEEL FIVE FINGERS SPREAD BENTwFIVE FINGERS SPREAD THUMB FORWARDrCUP FIVE " ++
     "FINGERS SPREADz FINGERS SPREAD OPENrHINGE FIVE FINGERS SPREAD OPENrOVAL FIVE FINGERS SPREADrFLAT FIVE FING" ++
     "ERS SPREAD HINGEDzE FINGERS SPREAD HINGED THUMB SIDEzE FINGERS SPREAD HINGED NO THUMBvv BETWEEN PALM FACIN" ++
     "GSwHEELwTHUMB SIDEwHEEL THUMB SIDEwTHUMB BENTzMB FORWARDwSPLIT INDEX THUMB SIDEzIT CENTREzIT CENTRE THUMB " ++
     "SIDEzIT CENTRE THUMB SIDE BENTzIT LITTLErCLAWv THUMB SIDEwNO THUMBwTHUMB FORWARDrHOOK CURLICUEvrCUP OPENuu" ++
     " OPEN THUMB SIDEvTHUMB SIDEvOPEN NO THUMBvNO THUMBvOPEN THUMB FORWARDvTHUMB FORWARDtRLICUE OPENzsIRCLErOVA" ++
     "Lv THUMB SIDEwNO THUMBwTHUMB FORWARDrHINGE OPENzEN THUMB FORWARDww SMALLxOPEN THUMB SIDExTHUMB SIDExOPEN N" ++
     "O THUMBxNO THUMBxTHUMB SIDE TOUCHING INDEXzUMB BETWEEN MIDDLE RINGrANGLErFIST INDEX MIDDLE RINGrCIRCLE IND" ++
     "EX MIDDLE RINGrHINGE INDEX MIDDLE RINGrANGLE INDEX MIDDLE RINGrHINGE LITTLErFIST INDEX MIDDLE RING BENTzEX" ++
     " MIDDLE RING CONJOINED"),
   (0x1d88d, "aSIGNWRITING HAND-HINGE INDEX MIDDLE RING CONJOINEDrFIST LITTLE DOWNzTLE DOWN RIPPLE STRAIGHTzTLE " ++
     "DOWN RIPPLE CURVEDzTLE DOWN OTHERS CIRCLEDzTLE UPwTHUMB UNDER LITTLE UPrCIRCLE LITTLE UPrOVAL LITTLE UPrAN" ++
     "GLE LITTLE UPrFIST LITTLE RAISED KNUCKLEzTLE BENTzTLE TOUCHES THUMBzTLE THUMBrHINGE LITTLE THUMBrFIST LITT" ++
     "LE INDEX THUMBrHINGE LITTLE INDEX THUMBrANGLE LITTLE INDEX THUMB INDEX THUMB OUTzTTLE INDEX THUMB INDEX TH" ++
     "UMBrFIST LITTLE INDEXrCIRCLE LITTLE INDEXrHINGE LITTLE INDEXrANGLE LITTLE INDEXrFIST INDEX MIDDLE LITTLErC" ++
     "IRCLE INDEX MIDDLE LITTLErHINGE INDEX MIDDLE LITTLExRINGrANGLE INDEX MIDDLE LITTLErFIST INDEX MIDDLE CROSS" ++
     " LITTLErCIRCLE INDEX MIDDLE CROSS LITTLErFIST RING DOWNrHINGE RING DOWN INDEX THUMB HOOK MIDDLErANGLE RING" ++
     " DOWN MIDDLE THUMB INDEX CROSSrFIST RING UPzG RAISED KNUCKLEzG LITTLErCIRCLE RING LITTLErOVAL RING LITTLEr" ++
     "ANGLE RING LITTLErFIST RING MIDDLEzG MIDDLE CONJOINEDzG MIDDLE RAISED KNUCKLESzG INDEXzG THUMBrHOOK RING T" ++
     "HUMBrFIST INDEX RING LITTLErCIRCLE INDEX RING LITTLEsURLICUE INDEX RING LITTLE ONrHOOK INDEX RING LITTLE O" ++
     "UTzEX RING LITTLE INzEX RING LITTLE UNDERrCUP INDEX RING LITTLErHINGE INDEX RING LITTLErANGLE INDEX RING L" ++
     "ITTLE OUTzDEX RING LITTLErFIST MIDDLE DOWNrHINGE MIDDLErFIST MIDDLE UPrCIRCLE MIDDLE UPrFIST MIDDLE RAISED" ++
     " KNUCKLEzDLE UP THUMB SIDErHOOK MIDDLE THUMBrFIST MIDDLE THUMB LITTLEzDLE LITTLEzDLE RING LITTLErCIRCLE MI" ++
     "DDLE RING LITTLEsURLICUE MIDDLE RING LITTLE ONtP MIDDLE RING LITTLErHINGE MIDDLE RING LITTLErANGLE MIDDLE " ++
     "RING LITTLE OUTzDDLE RING LITTLE INzDDLE RING LITTLErCIRCLE MIDDLE RING LITTLE BENTsLAW MIDDLE RING LITTLE" ++
     " CONJOINEDzDLE RING LITTLE CONJOINED SIDErHOOK MIDDLE RING LITTLE CONJOINED OUTzDLE RING LITTLE CONJOINED " ++
     "INzDLE RING LITTLE CONJOINEDsINGE INDEX HINGEDrFIST INDEX THUMB SIDErHINGE INDEX THUMB SIDErFIST INDEX THU" ++
     "MB SIDE THUMB DIAGONAL"),
   (0x1d8df, "aSIGNWRITING HAND-FIST INDEX THUMB SIDE THUMB CONJOINEDzEX THUMB SIDE THUMB BENTzEX THUMB SIDE IND" ++
     "EX BENTzEX THUMB SIDE BOTH BENTzEX THUMB SIDE INDEX HINGEzEX THUMB FORWARD INDEX STRAIGHTzEX THUMB FORWARD" ++
     " INDEX BENTzEX THUMB HOOKzEX THUMB CURLICUEzEX THUMB CURVE THUMB INSIDErCLAW INDEX THUMB CURVE THUMB INSID" ++
     "ErFIST INDEX THUMB CURVE THUMB UNDERzEX THUMB CIRCLErCUP INDEX THUMBzX THUMB OPENrHINGE INDEX THUMB OPENzD" ++
     "EX THUMB LARGEzDEX THUMBzDEX THUMB SMALLrANGLE INDEX THUMB OUTzDEX THUMB INzDEX THUMBrFIST THUMBzMB HEELzM" ++
     "B SIDE DIAGONALzMB SIDE CONJOINEDzMB SIDE BENTzMB FORWARDzMB BETWEEN INDEX MIDDLEzMB BETWEEN MIDDLE RINGzM" ++
     "B BETWEEN RING LITTLEzMB UNDER TWO FINGERSzMB OVER TWO FINGERSzMB UNDER THREE FINGERSzMB UNDER FOUR FINGER" ++
     "SzMB OVER FOUR RAISED KNUCKLESvv HEELmTOUCH SINGLEsMULTIPLEsBETWEENmGRASP SINGLEsMULTIPLEsBETWEENmSTRIKE S" ++
     "INGLEtMULTIPLEtBETWEENmBRUSH SINGLEsMULTIPLEsBETWEENmRUB SINGLEqMULTIPLEqBETWEENmSURFACE SYMBOLSuBETWEENnQ" ++
     "UEEZE LARGE SINGLEuSMALL SINGLEuLARGE MULTIPLEuSMALL MULTIPLEvEQUENTIALmFLICK LARGE SINGLEsSMALL SINGLEsLA" ++
     "RGE MULTIPLEsSMALL MULTIPLEtEQUENTIALmSQUEEZE FLICK ALTERNATINGmMOVEMENT-HINGE UP DOWN LARGEzE UP DOWN SMA" ++
     "LLzE UP SEQUENTIALzE DOWN SEQUENTIALzE UP DOWN ALTERNATING LARGEzE UP DOWN ALTERNATING SMALLzE SIDE TO SID" ++
     "E SCISSORSvWALLPLANE FINGER CONTACTvFLOORPLANE FINGER CONTACTvWALLPLANE SINGLE STRAIGHT SMALLzPLANE SINGLE" ++
     " STRAIGHT MEDIUMzPLANE SINGLE STRAIGHT LARGEzPLANE SINGLE STRAIGHT LARGESTzPLANE SINGLE WRIST FLEXzPLANE D" ++
     "OUBLE STRAIGHTzPLANE DOUBLE WRIST FLEXzPLANE DOUBLE ALTERNATINGzPLANE DOUBLE ALTERNATING WRIST FLEXzPLANE " ++
     "CROSSzPLANE TRIPLE STRAIGHT MOVEMENTzPLANE TRIPLE WRIST FLEXzPLANE TRIPLE ALTERNATINGzPLANE TRIPLE ALTERNA" ++
     "TING WRIST FLEXzPLANE BEND SMALLzPLANE BEND MEDIUMzPLANE BEND LARGEzPLANE CORNER SMALLzPLANE CORNER MEDIUM" ++
     "zPLANE CORNER LARGE"),
   (0x1d93e, "aSIGNWRITING MOVEMENT-WALLPLANE CORNER ROTATIONzPLANE CHECK SMALLzPLANE CHECK MEDIUMzPLANE CHECK L" ++
     "ARGEzPLANE BOX SMALLzPLANE BOX MEDIUMzPLANE BOX LARGEzPLANE ZIGZAG SMALLzPLANE ZIGZAG MEDIUMzPLANE ZIGZAG " ++
     "LARGEzPLANE PEAKS SMALLzPLANE PEAKS MEDIUMzPLANE PEAKS LARGEmTRAVEL-WALLPLANE ROTATION-WALLPLANE SINGLEzAN" ++
     "E ROTATION-WALLPLANE DOUBLEzANE ROTATION-WALLPLANE ALTERNATINGzANE ROTATION-FLOORPLANE SINGLEzANE ROTATION" ++
     "-FLOORPLANE DOUBLEzANE ROTATION-FLOORPLANE ALTERNATINGzANE SHAKINGzANE ARM SPIRAL SINGLEzANE ARM SPIRAL DO" ++
     "UBLEzANE ARM SPIRAL TRIPLEmMOVEMENT-DIAGONAL AWAY SMALLzONAL AWAY MEDIUMzONAL AWAY LARGEzONAL AWAY LARGEST" ++
     "zONAL TOWARDS SMALLzONAL TOWARDS MEDIUMzONAL TOWARDS LARGEzONAL TOWARDS LARGESTzONAL BETWEEN AWAY SMALLzON" ++
     "AL BETWEEN AWAY MEDIUMzONAL BETWEEN AWAY LARGEzONAL BETWEEN AWAY LARGESTzONAL BETWEEN TOWARDS SMALLzONAL B" ++
     "ETWEEN TOWARDS MEDIUMzONAL BETWEEN TOWARDS LARGEzONAL BETWEEN TOWARDS LARGESTvFLOORPLANE SINGLE STRAIGHT S" ++
     "MALLzRPLANE SINGLE STRAIGHT MEDIUMzRPLANE SINGLE STRAIGHT LARGEzRPLANE SINGLE STRAIGHT LARGESTzRPLANE SING" ++
     "LE WRIST FLEXzRPLANE DOUBLE STRAIGHTzRPLANE DOUBLE WRIST FLEXzRPLANE DOUBLE ALTERNATINGzRPLANE DOUBLE ALTE" ++
     "RNATING WRIST FLEXzRPLANE CROSSzRPLANE TRIPLE STRAIGHT MOVEMENTzRPLANE TRIPLE WRIST FLEXzRPLANE TRIPLE ALT" ++
     "ERNATING MOVEMENTzRPLANE TRIPLE ALTERNATING WRIST FLEXzRPLANE BENDzRPLANE CORNER SMALLzRPLANE CORNER MEDIU" ++
     "MzRPLANE CORNER LARGEzRPLANE CHECKzRPLANE BOX SMALLzRPLANE BOX MEDIUMzRPLANE BOX LARGEzRPLANE ZIGZAG SMALL" ++
     "zRPLANE ZIGZAG MEDIUMzRPLANE ZIGZAG LARGEzRPLANE PEAKS SMALLzRPLANE PEAKS MEDIUMzRPLANE PEAKS LARGEmTRAVEL" ++
     "-FLOORPLANE ROTATION-FLOORPLANE SINGLEzLANE ROTATION-FLOORPLANE DOUBLEzLANE ROTATION-FLOORPLANE ALTERNATIN" ++
     "GzLANE ROTATION-WALLPLANE SINGLEzLANE ROTATION-WALLPLANE DOUBLEzLANE ROTATION-WALLPLANE ALTERNATINGzLANE S" ++
     "HAKING"),
   (0x1d988, "aSIGNWRITING MOVEMENT-WALLPLANE CURVE QUARTER SMALLzPLANE CURVE QUARTER MEDIUMzPLANE CURVE QUARTER" ++
     " LARGEzPLANE CURVE QUARTER LARGESTzPLANE CURVE HALF-CIRCLE SMALLzPLANE CURVE HALF-CIRCLE MEDIUMzPLANE CURV" ++
     "E HALF-CIRCLE LARGEzPLANE CURVE HALF-CIRCLE LARGESTzPLANE CURVE THREE-QUARTER CIRCLE SMALLzPLANE CURVE THR" ++
     "EE-QUARTER CIRCLE MEDIUMzPLANE HUMP SMALLzPLANE HUMP MEDIUMzPLANE HUMP LARGEzPLANE LOOP SMALLzPLANE LOOP M" ++
     "EDIUMzPLANE LOOP LARGEzPLANE LOOP SMALL DOUBLEzPLANE WAVE CURVE DOUBLE SMALLzPLANE WAVE CURVE DOUBLE MEDIU" ++
     "MzPLANE WAVE CURVE DOUBLE LARGEzPLANE WAVE CURVE TRIPLE SMALLzPLANE WAVE CURVE TRIPLE MEDIUMzPLANE WAVE CU" ++
     "RVE TRIPLE LARGEzPLANE CURVE THEN STRAIGHTzPLANE CURVED CROSS SMALLzPLANE CURVED CROSS MEDIUMmROTATION-WAL" ++
     "LPLANE SINGLEzPLANE DOUBLEzPLANE ALTERNATEmMOVEMENT-WALLPLANE SHAKINGzPLANE CURVE HITTING FRONT WALLzPLANE" ++
     " HUMP HITTING FRONT WALLzPLANE LOOP HITTING FRONT WALLzPLANE WAVE HITTING FRONT WALLmROTATION-WALLPLANE SI" ++
     "NGLE HITTING FRONT WALLzPLANE DOUBLE HITTING FRONT WALLzPLANE ALTERNATING HITTING FRONT WALLmMOVEMENT-WALL" ++
     "PLANE CURVE HITTING CHESTzPLANE HUMP HITTING CHESTzPLANE LOOP HITTING CHESTzPLANE WAVE HITTING CHESTmROTAT" ++
     "ION-WALLPLANE SINGLE HITTING CHESTzPLANE DOUBLE HITTING CHESTzPLANE ALTERNATING HITTING CHESTmMOVEMENT-WAL" ++
     "LPLANE WAVE DIAGONAL PATH SMALLzPLANE WAVE DIAGONAL PATH MEDIUMzPLANE WAVE DIAGONAL PATH LARGEvFLOORPLANE " ++
     "CURVE HITTING CEILING SMALLzRPLANE CURVE HITTING CEILING LARGEzRPLANE HUMP HITTING CEILING SMALL DOUBLEzRP" ++
     "LANE HUMP HITTING CEILING LARGE DOUBLEzRPLANE HUMP HITTING CEILING SMALL TRIPLEzRPLANE HUMP HITTING CEILIN" ++
     "G LARGE TRIPLEzRPLANE LOOP HITTING CEILING SMALL SINGLEzRPLANE LOOP HITTING CEILING LARGE SINGLEzRPLANE LO" ++
     "OP HITTING CEILING SMALL DOUBLEzRPLANE LOOP HITTING CEILING LARGE DOUBLEzRPLANE WAVE HITTING CEILING SMALL" ++
     "zRPLANE WAVE HITTING CEILING LARGE"),
   (0x1d9c3, "aSIGNWRITING ROTATION-FLOORPLANE SINGLE HITTING CEILINGzRPLANE DOUBLE HITTING CEILINGzRPLANE ALTER" ++
     "NATING HITTING CEILINGmMOVEMENT-FLOORPLANE CURVE HITTING FLOOR SMALLzRPLANE CURVE HITTING FLOOR LARGEzRPLA" ++
     "NE HUMP HITTING FLOOR SMALL DOUBLEzRPLANE HUMP HITTING FLOOR LARGE DOUBLEzRPLANE HUMP HITTING FLOOR TRIPLE" ++
     " SMALL TRIPLEzRPLANE HUMP HITTING FLOOR TRIPLE LARGE TRIPLEzRPLANE LOOP HITTING FLOOR SMALL SINGLEzRPLANE " ++
     "LOOP HITTING FLOOR LARGE SINGLEzRPLANE LOOP HITTING FLOOR SMALL DOUBLEzRPLANE LOOP HITTING FLOOR LARGE DOU" ++
     "BLEzRPLANE WAVE HITTING FLOOR SMALLzRPLANE WAVE HITTING FLOOR LARGEmROTATION-FLOORPLANE SINGLE HITTING FLO" ++
     "ORzRPLANE DOUBLE HITTING FLOORzRPLANE ALTERNATING HITTING FLOORmMOVEMENT-FLOORPLANE CURVE SMALLzRPLANE CUR" ++
     "VE MEDIUMzRPLANE CURVE LARGEzRPLANE CURVE LARGESTzRPLANE CURVE COMBINEDzRPLANE HUMP SMALLzRPLANE LOOP SMAL" ++
     "LzRPLANE WAVE SNAKEzRPLANE WAVE SMALLzRPLANE WAVE LARGEmROTATION-FLOORPLANE SINGLEzRPLANE DOUBLEzRPLANE AL" ++
     "TERNATINGmMOVEMENT-FLOORPLANE SHAKING PARALLELvWALLPLANE ARM CIRCLE SMALL SINGLEzPLANE ARM CIRCLE MEDIUM S" ++
     "INGLEzPLANE ARM CIRCLE SMALL DOUBLEzPLANE ARM CIRCLE MEDIUM DOUBLEvFLOORPLANE ARM CIRCLE HITTING WALL SMAL" ++
     "L SINGLEzRPLANE ARM CIRCLE HITTING WALL MEDIUM SINGLEzRPLANE ARM CIRCLE HITTING WALL LARGE SINGLEzRPLANE A" ++
     "RM CIRCLE HITTING WALL SMALL DOUBLEzRPLANE ARM CIRCLE HITTING WALL MEDIUM DOUBLEzRPLANE ARM CIRCLE HITTING" ++
     " WALL LARGE DOUBLEvWALLPLANE WRIST CIRCLE FRONT SINGLEzPLANE WRIST CIRCLE FRONT DOUBLEvFLOORPLANE WRIST CI" ++
     "RCLE HITTING WALL SINGLEzRPLANE WRIST CIRCLE HITTING WALL DOUBLEvWALLPLANE FINGER CIRCLES SINGLEzPLANE FIN" ++
     "GER CIRCLES DOUBLEvFLOORPLANE FINGER CIRCLES HITTING WALL SINGLEzRPLANE FINGER CIRCLES HITTING WALL DOUBLE" ++
     "mDYNAMIC ARROWHEAD SMALLzHEAD LARGEuFASTuSLOWuTENSEuRELAXEDuSIMULTANEOUSzTANEOUS ALTERNATINGuEVERY OTHER T" ++
     "IMEuGRADUAL"),
   (0x1d9ff, "aSIGNWRITING HEADq RIMrMOVEMENT-WALLPLANE STRAIGHTz-WALLPLANE TILTz-FLOORPLANE STRAIGHTz-WALLPLANE" ++
     " CURVEz-FLOORPLANE CURVEz CIRCLEmFACE DIRECTION POSITION NOSE FORWARD TILTINGzN POSITION NOSE UP OR DOWNzN" ++
     " POSITION NOSE UP OR DOWN TILTINGmEYEBROWS STRAIGHT UPzIGHT NEUTRALzIGHT DOWNmDREAMY EYEBROWS NEUTRAL DOWN" ++
     "zWS DOWN NEUTRALzWS UP NEUTRALzWS NEUTRAL UPmFOREHEAD NEUTRALvCONTACTvWRINKLEDmEYES OPENrSQUEEZEDrCLOSEDp " ++
     "BLINK SINGLEwMULTIPLEpS HALF OPENrWIDE OPENrHALF CLOSEDrWIDENING MOVEMENTp WINKpLASHES UPwDOWNwFLUTTERINGp" ++
     "GAZE-WALLPLANE STRAIGHTzLANE STRAIGHT DOUBLEzLANE STRAIGHT ALTERNATINGuFLOORPLANE STRAIGHTzPLANE STRAIGHT " ++
     "DOUBLEzPLANE STRAIGHT ALTERNATINGuWALLPLANE CURVEDuFLOORPLANE CURVEDuWALLPLANE CIRCLINGmCHEEKS PUFFEDtNEUT" ++
     "RALtSUCKEDmTENSE CHEEKS HIGHzMIDDLEzLOWmEARSmNOSE NEUTRALrCONTACTrWRINKLESsIGGLESmAIR BLOWING OUTqSUCKING " ++
     "INqBLOW SMALL ROTATIONSqSUCK SMALL ROTATIONSmBREATH INHALEtEXHALEmMOUTH CLOSED NEUTRALzFORWARDzCONTACTsSMI" ++
     "LEx WRINKLEDyOPENsFROWNx WRINKLEDyOPENsOPEN CIRCLExFORWARDxWRINKLEDxOVALzAL WRINKLEDzAL YAWNxRECTANGLEzCTA" ++
     "NGLE WRINKLEDzCTANGLE YAWNsKISSw FORWARDxWRINKLEDsTENSEx FORWARDySUCKEDmLIPS PRESSED TOGETHERp LOWER OVER " ++
     "UPPERqUPPER OVER LOWERmMOUTH CORNERSsWRINKLES SINGLEzS DOUBLEmTONGUE STICKING OUT FARtLICKING LIPStTIP BET" ++
     "WEEN LIPSxTOUCHING INSIDE MOUTHtINSIDE MOUTH RELAXEDtMOVES AGAINST CHEEKtCENTRE STICKING OUTz INSIDE MOUTH" ++
     "nEETHr MOVEMENTsON TONGUEzUE MOVEMENTvLIPSz MOVEMENTsBITE LIPSmMOVEMENT-WALLPLANE JAWvFLOORPLANE JAWmNECKm" ++
     "HAIRmEXCITEMENTmSHOULDER HIP SPINEzPOSITIONSmWALLPLANE SHOULDER HIP MOVEmFLOORPLANE SHOULDER HIP MOVEmSHOU" ++
     "LDER TILTING FROM WAISTmTORSO-WALLPLANE STRAIGHT STRETCHzNE CURVED BENDsFLOORPLANE TWISTINGmUPPER BODY TIL" ++
     "TING FROM HIP JOINTSmLIMB COMBINATIONrLENGTH-1y2y3y4y5y6y7mFINGERmLOCATION-WALLPLANE SPACEvFLOORPLANE SPAC" ++
     "Eu HEIGHT"),
   (0x1da82, "aSIGNWRITING LOCATION WIDTHvDEPTHvHEAD NECKvTORSOvLIMBS DIGITSmCOMMAmFULL STOPmSEMICOLONmCOLONmPAR" ++
     "ENTHESIS"),
   (0x1da9b, "aSIGNWRITING FILL MODIFIER-2z-3z-4z-5z-6"),
   (0x1daa1, "aSIGNWRITING ROTATION MODIFIER-2zFIER-3zFIER-4zFIER-5zFIER-6zFIER-7zFIER-8zFIER-9zFIER-10zFIER-11z" ++
     "FIER-12zFIER-13zFIER-14zFIER-15zFIER-16"),
   (0x1df00, "aLATIN SMALL LETTER FENG DIGRAPH WITH TRILLtREVERSED SCRIPT GgLETTER SMALL CAPITAL TURNED GgSMALL " ++
     "LETTER REVERSED KgLETTER SMALL CAPITAL L WITH BELTgSMALL LETTER LEZH WITH RETROFLEX HOOKtTURNED Y WITH BEL" ++
     "TtREVERSED ENGtTURNED R WITH LONG LEG AND RETROFLEX HOOKu WITH HOOK AND RETROFLEX HOOKgLETTER RETROFLEX CL" ++
     "ICK WITH RETROFLEX HOOKgSMALL LETTER ESH WITH DOUBLE BARzTH DOUBLE BAR AND CURLtTURNED T WITH CURLgLETTER " ++
     "INVERTED GLOTTAL STOP WITH CURLnSTRETCHED C WITH CURLoMALL CAPITAL TURNED KgSMALL LETTER L WITH FISHHOOKtD" ++
     "EZH DIGRAPH WITH PALATAL HOOKtL WITH BELT AND PALATAL HOOKtENG WITH PALATAL HOOKtTURNED R WITH PALATAL HOO" ++
     "KtR WITH FISHHOOK AND PALATAL HOOKtTESH DIGRAPH WITH PALATAL HOOKtEZH WITH PALATAL HOOKtDEZH DIGRAPH WITH " ++
     "RETROFLEX HOOKtI WITH STROKE AND RETROFLEX HOOKtO WITH RETROFLEX HOOKtTESH DIGRAPH WITH RETROFLEX HOOKtC W" ++
     "ITH RETROFLEX HOOKtS WITH CURL"),
   (0x1e000, "aCOMBINING GLAGOLITIC LETTER AZUzER BUKYzER VEDEzER GLAGOLIzER DOBROzER YESTUzER ZHIVETE"),
   (0x1e008, "aCOMBINING GLAGOLITIC LETTER ZEMLJAzER IZHEzER INITIAL IZHEzER IzER DJERVIzER KAKOzER LJUDIJEzER M" ++
     "YSLITEzER NASHIzER ONUzER POKOJIzER RITSIzER SLOVOzER TVRIDOzER UKUzER FRITUzER HERU"),
   (0x1e01b, "aCOMBINING GLAGOLITIC LETTER SHTAzER TSIzER CHRIVIzER SHAzER YERUzER YERIzER YATI"),
   (0x1e023, "aCOMBINING GLAGOLITIC LETTER YUzER SMALL YUS"),
   (0x1e026, "aCOMBINING GLAGOLITIC LETTER YOzER IOTATED SMALL YUSzER BIG YUSzER IOTATED BIG YUSzER FITA"),
   (0x1e100, "aNYIAKENG PUACHUE HMONG LETTER MAzTTER TSAzTTER NTAzTTER TAzTTER HAzTTER NAzTTER XAzTTER NKAzTTER " ++
     "CAzTTER LAzTTER SAzTTER ZAzTTER NCAzTTER NTSAzTTER KAzTTER DAzTTER NYAzTTER NRAzTTER VAzTTER NTXAzTTER TXA" ++
     "zTTER FAzTTER RAzTTER QAzTTER YAzTTER NQAzTTER PAzTTER XYAzTTER NPAzTTER DLAzTTER NPLAzTTER HAHzTTER MLAzT" ++
     "TER PLAzTTER GAzTTER RRAzTTER AzTTER AAzTTER IzTTER UzTTER OzTTER OOzTTER EzTTER EEzTTER W"),
   (0x1e130, "aNYIAKENG PUACHUE HMONG TONE-BzNE-MzNE-JzNE-VzNE-SzNE-GzNE-DxSIGN FOR PERSONzGN FOR THINGzGN FOR L" ++
     "OCATIONzGN FOR ANIMALzGN FOR INVERTEBRATEzGN XW XWyYLLABLE LENGTHENER"),
   (0x1e140, "aNYIAKENG PUACHUE HMONG DIGIT ZEROzGIT ONEzGIT TWOzGIT THREEzGIT FOURzGIT FIVEzGIT SIXzGIT SEVENzG" ++
     "IT EIGHTzGIT NINE"),
   (0x1e14e, "aNYIAKENG PUACHUE HMONG LOGOGRAM NYAJxCIRCLED CA"),
   (0x1e290, "aTOTO LETTER PAmBAmTAmDAmKAmGAmMAmNAnGAmSAmCHAmYAmWAmJAmHAmRAmLAmImBREATHY ImIUmBREATHY IUmUmEmBRE" ++
     "ATHY EmEOmBREATHY EOmOmAEmBREATHY AEmAfSIGN RISING TONE"),
   (0x1e2c0, "aWANCHO LETTER AApoBAoCAoDAoGAoYAoPHAoLAoNAoPAoTApHAoFAoSApHAoJAoZAoWAoVAoKAoOoAUoRAoMAoKHAoHAoEoI" ++
     "oNGAoUoLLHAoTSApRAoONGoAANGpNGoINGoONoENoAANoNYAoUENoYIHhTONE TUPpNImKOIpNIhDIGIT ZEROnONEnTWOoHREEnFOURoI" ++
     "VEnSIXoEVENnEIGHTnNINE"),
   (0x1e2ff, "aWANCHO NGUN SIGN"),
   (0x1e7e0, "aETHIOPIC SYLLABLE HHYAvUvIvAAvEEwvO"),
   (0x1e7e8, "aETHIOPIC SYLLABLE GURAGE HHWAsHHWIvEEw"),
   (0x1e7ed, "aETHIOPIC SYLLABLE GURAGE MWIzMWEE"),
   (0x1e7f0, "aETHIOPIC SYLLABLE GURAGE QWIzQWEEzQWEzBWIzBWEEzKWIzKWEEzKWEzGWIzGWEEzGWEzFWIzFWEEzPWIzPWEE"),
   (0x1e800, "aMENDE KIKAKUI SYLLABLE M001 KIz02 KAz03 KUz65 KEEz95 KEz76 KOOz48 KOy179 KUAy004 WIz05 WAz06 WUy1" ++
     "26 WEEz18 WEz14 WOOy045 WOy194 WUIz43 WEIy061 WVIz49 WVAy139 WVEy007 MINz08 MANz09 MUNz59 MENz94 MONy154 M" ++
     "UANz89 MUENy010 BIz11 BAz12 BUy150 BEEy097 BEy103 BOOz38 BOy013 Iz14 Az15 Uy163 EEz00 Ez65 OOz47 Oz37 EIz3" ++
     "1 INz35 INz95 ANz78 ENy019 SIz20 SAz21 SUy162 SEEz16 SEz36 SOOy079 SOy196 SIAy025 LIz26 LAz27 LUz84 LEEz73" ++
     " LEz54 LOOy153 LOz10 LONG LEy016 DIz17 DAz18 DUz89 DEEy180 DOOz81 DOy022 TIz23 TAz24 TUz91 TEEz55 TEy104 T" ++
     "OOy069 TOz28 JIz29 JAz30 JUy157 JEEz13 JEz60 JOOy063 JOy175 LONG JOy031 YIz32 YAz33 YUy109 YEEy080 YEy141 " ++
     "YOOz21 YOy034 FIz35 FAz36 FUz78 FEEz75 FEy133 FOOy088 FOy197 FUAz01 FANy037 NINz38 NANz39 NUNy117 NENz69 N" ++
     "ONz76 HIy041 HAy186 HUy040 HEEz96 HEz42 HOOy140 HOy083 HEEIy128 HOOUy053 HINy130 HANy087 HUNz52 HENy193 HO" ++
     "Ny046 HUANz90 NGGIz43 NGGAz82 NGGUy115 NGGEEz46 NGGEz56 NGGOOz20 NGGOz59 NGGAAz27 NGGUAy086 LONG NGGEy106 " ++
     "LONG NGGOOz83 LONG NGGOz55 GIz11 GAz68 GUz90 GEEz66 GUEIz67 GUANz84 NGENy057 NGONy177 NGUANy068 PIz99 PAz5" ++
     "0 PUz81 PEEz51 PEy102 POOy066 POy145 MBIy062 MBAy122 MBUy047 MBEEy188 MBEEy072 MBEy172 MBOOz74 MBOz87 MBUU" ++
     "z61 LONG MBEz05 LONG MBOOz42 LONG MBOz32 KPIy092 KPAz74 KPUz44 KPEEy108 KPEz12 KPOOz58 KPOz24 GBIy056 GBAy" ++
     "148 GBUy093 GBEEy107 GBEy071 GBOOz70 GBOy171 RAz23 NDIz29 NDAz25 NDUz91 NDEEz19 NDEy067 NDOOz64 NDOy152 NJ" ++
     "Az92 NJUz49 NJEEz34 NJOOz82 VIz85 VAz51 VUz73 VEEy085 VEy144 VOOy077 VOy164 NYINy058 NYANy170 NYUNy098 NYE" ++
     "Nz60 NYON"),
   (0x1e8c7, "aMENDE KIKAKUI DIGIT ONEuTWOvHREEuFOURvIVEuSIXvEVENuEIGHTuNINEoCOMBINING NUMBER TEENSzUMBER TENSzU" ++
     "MBER HUNDREDSzUMBER THOUSANDSzUMBER TEN THOUSANDSzUMBER HUNDRED THOUSANDSzUMBER MILLIONS"),
   (0x1e900, "aADLAM CAPITAL LETTER ALIFvDAALIvLAAMvMIIMvBAvSINNYIIYHEvPEvBHEvRAvEvFAvIvOvDHAvYHEvWAWvNUNvKAFvYA" ++
     "vUvJIIMvCHIvHAvQAAFvGAvNYAvTUvNHAvVAvKHAvGBEvZALvKPOvSHAgSMALL LETTER ALIFtDAALItLAAMtMIIMtBAtSINNYIIYHEtP" ++
     "EtBHEtRAtEtFAtItOtDHAtYHEtWAWtNUNtKAFtYAtUtJIIMtCHItHAtQAAFtGAtNYAtTUtNHAtVAtKHAtGBEtZALtKPOtSHAgALIF LENG" ++
     "THENERgVOWEL LENGTHENERgGEMINATION MARKgHAMZAgCONSONANT MODIFIERgGEMINATE CONSONANT MODIFIERgNUKTAhASALIZA" ++
     "TION MARK"),
   (0x1e950, "aADLAM DIGIT ZEROmONEmTWOnHREEmFOURnIVEmSIXnEVENmEIGHTmNINE"),
   (0x1e95e, "aADLAM INITIAL EXCLAMATION MARKoQUESTION MARK"),
   (0x1ec71, "aINDIC SIYAQ NUMBER ONEtTWOuHREEtFOURuIVEtSIXuEVENtEIGHTtNINEtTENuWENTYuHIRTYtFORTYuIFTYtSIXTYuEVE" ++
     "NTYtEIGHTYtNINETYtONE HUNDREDtTWO HUNDREDuHREE HUNDREDtFOUR HUNDREDuIVE HUNDREDtSIX HUNDREDuEVEN HUNDREDtE" ++
     "IGHT HUNDREDtNINE HUNDREDtONE THOUSANDtTWO THOUSANDuHREE THOUSANDtFOUR THOUSANDuIVE THOUSANDtSIX THOUSANDu" ++
     "EVEN THOUSANDtEIGHT THOUSANDtNINE THOUSANDtTEN THOUSANDuWENTY THOUSANDuHIRTY THOUSANDtFORTY THOUSANDuIFTY " ++
     "THOUSANDtSIXTY THOUSANDuEVENTY THOUSANDtEIGHTY THOUSANDtNINETY THOUSANDtLAKHxANmLAKH MARKmNUMBER KARORyANt" ++
     "PREFIXED ONEzED TWOzED THREEzED FOURzED FIVEzED SIXzED SEVENzED EIGHTzED NINEmPLACEHOLDERmFRACTION ONE QUA" ++
     "RTERzHALFvTHREE QUARTERSmRUPEE MARKmNUMBER ALTERNATE ONEzATE TWOzATE TEN THOUSANDmALTERNATE LAKH MARK"),
   (0x1ed01, "aOTTOMAN SIYAQ NUMBER ONEvTWOwHREEvFOURwIVEvSIXwEVENvEIGHTvNINEvTENwWENTYwHIRTYvFORTYwIFTYvSIXTYwE" ++
     "VENTYvEIGHTYvNINETYvONE HUNDREDvTWO HUNDREDwHREE HUNDREDvFOUR HUNDREDwIVE HUNDREDvSIX HUNDREDwEVEN HUNDRED" ++
     "vEIGHT HUNDREDvNINE HUNDREDvONE THOUSANDvTWO THOUSANDwHREE THOUSANDvFOUR THOUSANDwIVE THOUSANDvSIX THOUSAN" ++
     "DwEVEN THOUSANDvEIGHT THOUSANDvNINE THOUSANDvTEN THOUSANDwWENTY THOUSANDwHIRTY THOUSANDvFORTY THOUSANDwIFT" ++
     "Y THOUSANDvSIXTY THOUSANDwEVENTY THOUSANDvEIGHTY THOUSANDvNINETY THOUSANDoMARRATANoALTERNATE NUMBER TWOzUM" ++
     "BER THREEzUMBER FOURzUMBER FIVEzUMBER SIXzUMBER SEVENzUMBER EIGHTzUMBER NINEzUMBER TENzUMBER FOUR HUNDREDz" ++
     "UMBER SIX HUNDREDzUMBER TWO THOUSANDzUMBER TEN THOUSANDoFRACTION ONE HALFzE SIXTH"),
   (0x1ee00, "aARABIC MATHEMATICAL ALEFuBEHuJEEMuDAL"),
   (0x1ee05, "aARABIC MATHEMATICAL WAWuZAINuHAHuTAHuYEHuKAFuLAMuMEEMuNOONuSEENuAINuFEHuSADuQAFuREHuSHEENuTEHvHEH" ++
     "uKHAHuTHALuDADuZAHuGHAINuDOTLESS BEHzSS NOONzSS FEHzSS QAF"),
   (0x1ee21, "aARABIC MATHEMATICAL INITIAL BEHzAL JEEM"),
   (0x1ee24, "aARABIC MATHEMATICAL INITIAL HEH"),
   (0x1ee27, "aARABIC MATHEMATICAL INITIAL HAH"),
   (0x1ee29, "aARABIC MATHEMATICAL INITIAL YEHzAL KAFzAL LAMzAL MEEMzAL NOONzAL SEENzAL AINzAL FEHzAL SADzAL QAF"),
   (0x1ee34, "aARABIC MATHEMATICAL INITIAL SHEENzAL TEHzAL THEHzAL KHAH"),
   (0x1ee39, "aARABIC MATHEMATICAL INITIAL DAD"),
   (0x1ee3b, "aARABIC MATHEMATICAL INITIAL GHAIN"),
   (0x1ee42, "aARABIC MATHEMATICAL TAILED JEEM"),
   (0x1ee47, "aARABIC MATHEMATICAL TAILED HAH"),
   (0x1ee49, "aARABIC MATHEMATICAL TAILED YEH"),
   (0x1ee4b, "aARABIC MATHEMATICAL TAILED LAM"),
   (0x1ee4d, "aARABIC MATHEMATICAL TAILED NOONzD SEENzD AIN"),
   (0x1ee51, "aARABIC MATHEMATICAL TAILED SADzD QAF"),
   (0x1ee54, "aARABIC MATHEMATICAL TAILED SHEEN"),
   (0x1ee57, "aARABIC MATHEMATICAL TAILED KHAH"),
   (0x1ee59, "aARABIC MATHEMATICAL TAILED DAD"),
   (0x1ee5b, "aARABIC MATHEMATICAL TAILED GHAIN"),
   (0x1ee5d, "aARABIC MATHEMATICAL TAILED DOTLESS NOON"),
   (0x1ee5f, "aARABIC MATHEMATICAL TAILED DOTLESS QAF"),
   (0x1ee61, "aARABIC MATHEMATICAL STRETCHED BEHzCHED JEEM"),
   (0x1ee64, "aARABIC MATHEMATICAL STRETCHED HEH"),
   (0x1ee67, "aARABIC MATHEMATICAL STRETCHED HAHzCHED TAHzCHED YEHzCHED KAF"),
   (0x1ee6c, "aARABIC MATHEMATICAL STRETCHED MEEMzCHED NOONzCHED SEENzCHED AINzCHED FEHzCHED SADzCHED QAF"),
   (0x1ee74, "aARABIC MATHEMATICAL STRETCHED SHEENzCHED TEHzCHED THEHzCHED KHAH"),
   (0x1ee79, "aARABIC MATHEMATICAL STRETCHED DADzCHED ZAHzCHED GHAINzCHED DOTLESS BEH"),
   (0x1ee7e, "aARABIC MATHEMATICAL STRETCHED DOTLESS FEH"),
   (0x1ee80, "aARABIC MATHEMATICAL LOOPED ALEFzD BEHzD JEEMzD DALzD HEHzD WAWzD ZAINzD HAHzD TAHzD YEH"),
   (0x1ee8b, "aARABIC MATHEMATICAL LOOPED LAMzD MEEMzD NOONzD SEENzD AINzD FEHzD SADzD QAFzD REHzD SHEENzD TEHzD" ++
     " THEHzD KHAHzD THALzD DADzD ZAHzD GHAIN"),
   (0x1eea1, "aARABIC MATHEMATICAL DOUBLE-STRUCK BEHzE-STRUCK JEEMzE-STRUCK DAL"),
   (0x1eea5, "aARABIC MATHEMATICAL DOUBLE-STRUCK WAWzE-STRUCK ZAINzE-STRUCK HAHzE-STRUCK TAHzE-STRUCK YEH"),
   (0x1eeab, "aARABIC MATHEMATICAL DOUBLE-STRUCK LAMzE-STRUCK MEEMzE-STRUCK NOONzE-STRUCK SEENzE-STRUCK AINzE-ST" ++
     "RUCK FEHzE-STRUCK SADzE-STRUCK QAFzE-STRUCK REHzE-STRUCK SHEENzE-STRUCK TEHzE-STRUCK THEHzE-STRUCK KHAHzE-" ++
     "STRUCK THALzE-STRUCK DADzE-STRUCK ZAHzE-STRUCK GHAIN"),
   (0x1eef0, "aARABIC MATHEMATICAL OPERATOR MEEM WITH HAH WITH TATWEELzTOR HAH WITH DAL")]

end AttrsUpgrade.Text
