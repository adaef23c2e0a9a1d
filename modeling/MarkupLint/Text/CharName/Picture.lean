/-!
Names of the characters from U+1D000 on: notes, letters of mathematics and pictures.
-/

namespace MarkupLint.Text

/-- The packed names. -/
def pictureNames : String :=
".1D000aBYZANTINE MUSICAL SYMBOL PSILIzaDASEIAzaPERISPOMENIzaOXEIA EKFONITIKONzgDIPLIzaVAREIA EKFONI
TIKONzhDIPLIzaKATHISTIzaSYRMATIKIzaPARAKLITIKIzaYPOKRISISzj DIPLIzaKREMASTIzaAPESO EKFONITIKONzaEX
O EKFONITIKONzaTELEIAzaKENTIMATAzaAPOSTROFOSzk DIPLIzaSYNEVMAzaTHITAzaOLIGON ARCHAIONzaGORGON ARCHA
IONzaPSILONzaCHAMILONzaVATHYzaISON ARCHAIONzaKENTIMA ARCHAIONzhTA ARCHAIONzaSAXIMATAzaPARICHONzaSTA
VROS APODEXIAzaOXEIAI ARCHAIONzaVAREIAI ARCHAIONzaAPODERMA ARCHAIONzdTHEMAzaKLASMAzaREVMAzaPIASMA A
RCHAIONzaTINAGMAzaANATRICHISMAzaSEISMAzbYNAGMA ARCHAIONziMETA STAVROUzaOYRANISMA ARCHAIONzaTHEMAzaL
EMOIzaDYOzaTRIAzbESSERAzaKRATIMATAzaAPESO EXO NEOzaFTHORA ARCHAIONzaIMIFTHORAzaTROMIKON ARCHAIONzaK
ATAVA TROMIKONzaPELASTONzbSIFISTONzaKONTEVMAzaCHOREVMA ARCHAIONzaRAPISMAzaPARAKALESMA ARCHAIONzfLIT
IKI ARCHAIONzaICHADINzaNANAzaPETASMAzaKONTEVMA ALLOzaTROMIKON ALLOzaSTRAGGISMATAzaGRONTHISMATAzaISO
N NEOzaOLIGON NEOzbXEIA NEOzaPETASTIzaKOUFISMAzaPETASTOKOUFISMAzaKRATIMOKOUFISMAzaPELASTON NEOzaKEN
TIMATA NEO ANOzh NEO ANOzaYPSILIzaAPOSTROFOS NEOzjI SYNDESMOS NEOzaYPORROIzaKRATIMOYPORROONzaELAFRO
NzaCHAMILIzaMIKRON ISONzaVAREIA NEOzaPIASMA NEOzbSIFISTON NEOzaOMALONzaANTIKENOMAzaLYGISMAzaPARAKLI
TIKI NEOzfALESMA NEOzaETERON PARAKALESMAzaKYLISMAzaANTIKENOKYLISMAzaTROMIKON NEOzaEKSTREPTONzaSYNAG
MA NEOzcRMAzaCHOREVMA NEOzaEPEGERMAzaSEISMA NEOzaXIRON KLASMAzaTROMIKOPSIFISTONzaPSIFISTOLYGISMAzaT
ROMIKOLYGISMAzhPARAKALESMAzaPSIFISTOPARAKALESMAzaTROMIKOSYNAGMAzaPSIFISTOSYNAGMAzaGORGOSYNTHETONzaA
RGOSYNTHETONzaETERON ARGOSYNTHETONzaOYRANISMA NEOzaTHEMATISMOS ESOznXOzf APLOUNzdS KAI APOTHESzaKAT
AVASMAzaENDOFONONzaYFEN KATOzfANOzaSTAVROSzaKLASMA ANOzaDIPLI ARCHAIONzaKRATIMA ARCHAIONzjLLOziNEOz
aAPODERMA NEOzcLIzaDIPLIzaTRIPLIzbETRAPLIzaKORONISzaLEIMMA ENOS CHRONOUzhDYO CHRONONzhTRION CHRONON
ziESSARON CHRONONzhIMISEOS CHRONOUzaGORGON NEO ANOzhPARESTIGMENON ARISTERAzvDEXIAzaDIGORGONzi PARES
TIGMENON ARISTERA KATOzzhANOzxDEXIAzaTRIGORGONzaARGONzaIMIDIARGONzaDIARGONzaAGOGI POLI ARGIzgARGOTE
RIzjIzgMETRIAziSIzgGORGIzkOTERIzgPOLI GORGIzaMARTYRIA PROTOS ICHOSzjALLI PROTOS ICHOSzjDEYTEROS ICH
OSzjALLI DEYTEROS ICHOSzjTRITOS ICHOSzmFONIASzkETARTOS ICHOSzsLEGETOS ICHOSzjLEGETOS ICHOSzjPLAGIO
S ICHOSzaISAKIA TELOUS ICHIMATOSzaAPOSTROFOI TELOUS ICHIMATOSzaFANEROSIS TETRAFONIASzkMONOFONIASzkD
IFONIASzaMARTYRIA VARYS ICHOSzjPROTOVARYS ICHOSzkLAGIOS TETARTOS ICHOSzaGORTHMIKON N APLOUNznDIPLOU
NzaENARXIS KAI FTHORA VOUzaIMIFONONzeTHORONzaFTHORA ARCHAION DEYTEROU ICHOUzhDIATONIKI PAzrNANAzhNA
OS ICHOSzhDIATONIKI DIzhSKLIRON DIATONON DIzhDIATONIKI KEzrZOzrNI KATOzuANOzhMALAKON CHROMA DIFONIA
SzwMONOFONIASzbHTORA SKLIRON CHROMA VASISzbTHORA SKLIRON CHROMA SYNAFIzhNENANOzaCHROA ZYGOSzgKLITON
zgSPATHIzaFTHORA I YFESIS TETARTIMORIONzhENARMONIOS ANTIFONIAzaYFESIS TRITIMORIONzaDIESIS TRITIMORI
ONziETARTIMORIONzhAPLI DYO DODEKATAzhMONOGRAMMOS TESSERA DODEKATAzhDIGRAMMOS EX DODEKATAzhTRIGRAMMO
S OKTO DODEKATAzaYFESIS APLI DYO DODEKATAzhMONOGRAMMOS TESSERA DODEKATAzhDIGRAMMOS EX DODEKATAzhTRI
GRAMMOS OKTO DODEKATAzaGENIKI DIESISzhYFESISzaDIASTOLI APLI MIKRIzpEGALIzjDIPLIzjTHESEOSzaSIMANSI
S THESEOSzq DISIMOUzrTRISIMOUzsETRASIMOUzjARSEOSzp DISIMOUzqTRISIMOUzrETRASIMOUzaDIGRAMMA GGzcFTOGG
OS OUzaSTIGMAzaARKTIKO PAziVOUziGAziDIziKEziZOziNIzaKENTIMATA NEO MESOzh NEO MESOzhTA NEO KATOzh NE
O KATOzbLASMA KATOzaGORGON NEO KATO.1D100aMUSICAL SYMBOL SINGLE BARLINEpDOUBLE BARLINEpFINAL BARLIN
EpREVERSE FINAL BARLINEpDASHED BARLINEpSHORT BARLINEpLEFT REPEAT SIGNpRIGHT REPEAT SIGNqEPEAT DOTSp
DAL SEGNOr CAPOpSEGNOpCODApREPEATED FIGURE-1zg2zg3pFERMATAw BELOWpBREATH MARKpCAESURApBRACEtKETpONE
-LINE STAFFpTWO-LINE STAFFqHREE-LINE STAFFpFOUR-LINE STAFFqIVE-LINE STAFFpSIX-LINE STAFFtSTRING FRE
TBOARDpFOUR-STRING FRETBOARDpG CLEFv OTTAVA ALTAzeBASSApC CLEFpF CLEFv OTTAVA ALTAzeBASSApDRUM CLEF
-1za2.1D129aMUSICAL SYMBOL MULTIPLE MEASURE RESTpDOUBLE SHARPwFLATpFLAT UPuDOWNpNATURAL UPxDOWNpSHA
RP UPvDOWNpQUARTER TONE SHARPzdFLATpCOMMON TIMEqUT TIMEpOTTAVA ALTAwBASSApQUINDICESIMA ALTAzdBASSAp
MULTI RESTpWHOLE RESTpHALF RESTpQUARTER RESTpEIGHTH RESTpSIXTEENTH RESTpTHIRTY-SECOND RESTpSIXTY-FO
URTH RESTpONE HUNDRED TWENTY-EIGHTH RESTpX NOTEHEADpPLUS NOTEHEADpCIRCLE X NOTEHEADpSQUARE NOTEHEA
D WHITEzgBLACKpTRIANGLE NOTEHEAD UP WHITEzlBLACKziLEFT WHITEznBLACKziRIGHT WHITEzoBLACKziDOWN WHITE
znBLACKziUP RIGHT WHITEzrBLACKpMOON NOTEHEAD WHITEzeBLACKpTRIANGLE-ROUND NOTEHEAD DOWN WHITEztBLACK
pPARENTHESIS NOTEHEADpVOID NOTEHEADpNOTEHEAD BLACKqULL NOTEHEADpCLUSTER NOTEHEAD WHITEzhBLACKpBREVE
pWHOLE NOTEpHALF NOTEpQUARTER NOTEpEIGHTH NOTEpSIXTEENTH NOTEpTHIRTY-SECOND NOTEpSIXTY-FOURTH NOTEp
ONE HUNDRED TWENTY-EIGHTH NOTEpCOMBINING STEMzbPRECHGESANG STEMzaTREMOLO-1zi2zi3pFINGERED TREMOLO-1
zh2zh3pCOMBINING AUGMENTATION DOTzaFLAG-1zf2zf3zf4zf5pBEGIN BEAMpEND BEAMpBEGIN TIEpEND TIEpBEGIN S
LURpEND SLURpBEGIN PHRASEpEND PHRASEpCOMBINING ACCENTzaSTACCATOzaTENUTOzaSTACCATISSIMOzaMARCATOzh-S
TACCATOzaACCENT-STACCATOzaLOUREpARPEGGIATO UPzbDOWNpCOMBINING DOITzaRIPzaFLIPzaSMEARzaBENDzaDOUBL
E TONGUEzaTRIPLE TONGUEpRINFORZANDOpSUBITOpZpPIANOpMEZZOpFORTEpCRESCENDOpDECRESCENDOpGRACE NOTE SLA
SHzbNO SLASHpTRqURNpINVERTED TURNpTURN SLASHuUPpORNAMENT STROKE-1zg2zg3zg4zg5zg6zg7zg8zg9zg10zh1pHA
UPTSTIMMEpNEBENSTIMMEpEND OF STIMMEpDEGREE SLASHpCOMBINING DOWN BOWzaUP BOWzaHARMONICzaSNAP PIZZICA
TOpPEDAL MARKvUP MARKpHALF PEDAL MARKpGLISSANDO UPzaDOWNpWITH FINGERNAILSpDAMPt ALLpMAXIMApLONGApBR
EVISpSEMIBREVIS WHITEzbBLACKpMINIMAv BLACKpSEMIMINIMA WHITEzbBLACKpFUSA WHITEuBLACKpLONGA PERFECT
A RESTvIMPERFECTA RESTpBREVIS RESTpSEMIBREVIS RESTpMINIMA RESTpSEMIMINIMA RESTpTEMPUS PERFECTUM CU
M PROLATIONE PERFECTAzwIMPERFECTAzwPERFECTA DIMINUTION-1wIMPERFECTUM CUM PROLATIONE PERFECTAzyIMPER
FECTAzzj DIMINUTION-1zzv2zzv3pCROIXpGREGORIAN C CLEFzaF CLEFpSQUARE BpVIRGApPODATUSpCLIVISpSCANDICU
SpCLIMACUSpTORCULUSpPORRECTUSy FLEXUSpSCANDICUS FLEXUSpTORCULUS RESUPINUSpPES SUBPUNCTISpKIEVAN C C
LEFwEND OF PIECEwFINAL NOTEwRECITATIVE MARKwWHOLE NOTEwHALF NOTEwQUARTER NOTE STEM DOWNzpUPwEIGHT
H NOTE STEM DOWNzoUPwFLAT SIGNpSORIpKORON.1D200aGREEK VOCAL NOTATION SYMBOL-1zd2zd3zd4zd5zd6zd7zd8z
d9zd10ze1ze2ze3ze4ze5ze6ze7ze8ze9zd20ze1ze2ze3ze4zd50ze1ze2ze3ze4gINSTRUMENTAL NOTATION SYMBOL-1zk2
zk4zk5zk7zk8zk11zl2zl3zl4zl7zl8zl9zk23zl4zl5zl6zl7zl9zk30zl2zl6zl7zl8zl9zk40zl2zl3zl5zl7zl8zl9zk50z
l1zl2zl3zl4aCOMBINING GREEK MUSICAL TRISEMEzaETRASEMEyPENTASEMEaGREEK MUSICAL LEIMMA.1D2E0aMAYAN NU
MERAL ZEROoONEoTWOpHREEoFOURpIVEoSIXpEVENoEIGHToNINEoTENoELEVENoTWELVEpHIRTEENoFOURTEENpIFTEENoSIXT
EENpEVENTEENoEIGHTEENoNINETEEN.1D300aMONOGRAM FOR EARTHaDIGRAM FOR HEAVENLY EARTHmUMAN EARTHlEARTHL
Y HEAVENuUMANpHaTETRAGRAM FOR CENTREoFULL CIRCLEoMIREDoBARRIERoKEEPING SMALLoCONTRARIETYoASCENToOPP
OSITIONoBRANCHING OUToDEFECTIVENESS OR DISTORTIONpIVERGENCEoYOUTHFULNESSoINCREASEoPENETRATIONoREACH
oCONTACToHOLDING BACKoWAITINGoFOLLOWINGoADVANCEoRELEASEqSISTANCEoEASEoJOYoCONTENTIONoENDEAVOURoDUTI
ESoCHANGEoDECISIVENESSoBOLD RESOLUTIONoPACKINGoLEGIONoCLOSENESSoKINSHIPoGATHERINGoSTRENGTHoPURITYoF
ULLNESSoRESIDENCEoLAW OR MODELoRESPONSEoGOING TO MEEToENCOUNTERSoSTOVEoGREATNESSoENLARGEMENToPATTER
NoRITUALoFLIGHToVASTNESS OR WASTINGoCONSTANCYoMEASUREoETERNITYoUNITYoDIMINISHMENToCLOSED MOUTHoGUAR
DEDNESSpATHERING INoMASSINGoACCUMULATIONoEMBELLISHMENToDOUBToWATCHoSINKINGoINNERoDEPARTUREpARKENING
pIMMINGoEXHAUSTIONoSEVERANCEpTOPPAGEoHARDNESSoCOMPLETIONpLOSUREoFAILUREoAGGRAVATIONoCOMPLIANCEoON T
HE VERGEoDIFFICULTIESoLABOURINGoFOSTERING.1D360aCOUNTING ROD UNIT DIGIT ONEyTWOzaHREEyFOURzaIVEySIX
zaEVENyEIGHTyNINEnTENS DIGIT ONEyTWOzaHREEyFOURzaIVEySIXzaEVENyEIGHTyNINEaIDEOGRAPHIC TALLY MARK ON
ExTWOyHREExFOURyIVEaTALLY MARK ONElFIVE.1D400aMATHEMATICAL BOLD CAPITAL AzbBzbCzbDzbEzbFzbGzbHzbIzb
JzbKzbLzbMzbNzbOzbPzbQzbRzbSzbTzbUzbVzbWzbXzbYzbZsSMALL AyByCyDyEyFyGyHyIyJyKyLyMyNyOyPyQyRySyTyUyV
yWyXyYyZnITALIC CAPITAL AzdBzdCzdDzdEzdFzdGzdHzdIzdJzdKzdLzdMzdNzdOzdPzdQzdRzdSzdTzdUzdVzdWzdXzdYzd
ZuSMALL AzbBzbCzbDzbEzbFzbG.1D456aMATHEMATICAL ITALIC SMALL IzbJzbKzbLzbMzbNzbOzbPzbQzbRzbSzbTzbUzb
VzbWzbXzbYzbZnBOLD ITALIC CAPITAL AziBziCziDziEziFziGziHziIziJziKziLziMziNziOziPziQziRziSziTziUziVz
iWziXziYziZzaSMALL AzgBzgCzgDzgEzgFzgGzgHzgIzgJzgKzgLzgMzgNzgOzgPzgQzgRzgSzgTzgUzgVzgWzgXzgYzgZnSCR
IPT CAPITAL A.1D49EaMATHEMATICAL SCRIPT CAPITAL CzdD.1D4A2aMATHEMATICAL SCRIPT CAPITAL G.1D4A5aMATH
EMATICAL SCRIPT CAPITAL JzdK.1D4A9aMATHEMATICAL SCRIPT CAPITAL NzdOzdPzdQ.1D4AEaMATHEMATICAL SCRIP
T CAPITAL SzdTzdUzdVzdWzdXzdYzdZuSMALL AzbBzbCzbD.1D4BBaMATHEMATICAL SCRIPT SMALL F.1D4BDaMATHEMATI
CAL SCRIPT SMALL HzbIzbJzbKzbLzbMzbN.1D4C5aMATHEMATICAL SCRIPT SMALL PzbQzbRzbSzbTzbUzbVzbWzbXzbYzb
ZnBOLD SCRIPT CAPITAL AziBziCziDziEziFziGziHziIziJziKziLziMziNziOziPziQziRziSziTziUziVziWziXziYziZz
aSMALL AzgBzgCzgDzgEzgFzgGzgHzgIzgJzgKzgLzgMzgNzgOzgPzgQzgRzgSzgTzgUzgVzgWzgXzgYzgZnFRAKTUR CAPITA
L AzeB.1D507aMATHEMATICAL FRAKTUR CAPITAL DzeEzeFzeG.1D50DaMATHEMATICAL FRAKTUR CAPITAL JzeKzeLzeMz
eNzeOzePzeQ.1D516aMATHEMATICAL FRAKTUR CAPITAL SzeTzeUzeVzeWzeXzeY.1D51EaMATHEMATICAL FRAKTUR SMAL
L AzcBzcCzcDzcEzcFzcGzcHzcIzcJzcKzcLzcMzcNzcOzcPzcQzcRzcSzcTzcUzcVzcWzcXzcYzcZnDOUBLE-STRUCK CAPITA
L AzkB.1D53BaMATHEMATICAL DOUBLE-STRUCK CAPITAL DzkEzkFzkG.1D540aMATHEMATICAL DOUBLE-STRUCK CAPITA
L IzkJzkKzkLzkM.1D546aMATHEMATICAL DOUBLE-STRUCK CAPITAL O.1D54AaMATHEMATICAL DOUBLE-STRUCK CAPITA
L SzkTzkUzkVzkWzkXzkY.1D552aMATHEMATICAL DOUBLE-STRUCK SMALL AziBziCziDziEziFziGziHziIziJziKziLziMz
iNziOziPziQziRziSziTziUziVziWziXziYziZnBOLD FRAKTUR CAPITAL AzjBzjCzjDzjEzjFzjGzjHzjIzjJzjKzjLzjMzj
NzjOzjPzjQzjRzjSzjTzjUzjVzjWzjXzjYzjZzbSMALL AzhBzhCzhDzhEzhFzhGzhHzhIzhJzhKzhLzhMzhNzhOzhPzhQzhRzh
SzhTzhUzhVzhWzhXzhYzhZnSANS-SERIF CAPITAL AzhBzhCzhDzhEzhFzhGzhHzhIzhJzhKzhLzhMzhNzhOzhPzhQzhRzhSzh
TzhUzhVzhWzhXzhYzhZySMALL AzfBzfCzfDzfEzfFzfGzfHzfIzfJzfKzfLzfMzfNzfOzfPzfQzfRzfSzfTzfUzfVzfWzfXzfY
zfZyBOLD CAPITAL AzmBzmCzmDzmEzmFzmGzmHzmIzmJzmKzmLzmMzmNzmOzmPzmQzmRzmSzmTzmUzmVzmWzmXzmYzmZzeSMAL
L AzkBzkCzkDzkEzkFzkGzkHzkIzkJzkKzkLzkMzkNzkOzkPzkQzkRzkSzkTzkUzkVzkWzkXzkYzkZyITALIC CAPITAL AzoBz
oCzoDzoEzoFzoGzoHzoIzoJzoKzoLzoMzoNzoOzoPzoQzoRzoSzoTzoUzoVzoWzoXzoYzoZzgSMALL AzmBzmCzmDzmEzmFzmGz
mHzmIzmJzmKzmLzmMzmNzmOzmPzmQzmRzmSzmTzmUzmVzmWzmXzmYzmZyBOLD ITALIC CAPITAL AztBztCztDztEztFztGztH
ztIztJztKztLztMztNztOztPztQztRztSztTztUztVztWztXztYztZzlSMALL AzrBzrCzrDzrEzrFzrGzrHzrIzrJzrKzrLzrM
zrNzrOzrPzrQzrRzrSzrTzrUzrVzrWzrXzrYzrZnMONOSPACE CAPITAL AzgBzgCzgDzgEzgFzgGzgHzgIzgJzgKzgLzgMzgNz
gOzgPzgQzgRzgSzgTzgUzgVzgWzgXzgYzgZxSMALL AzeBzeCzeDzeEzeFzeGzeHzeIzeJzeKzeLzeMzeNzeOzePzeQzeRzeSze
TzeUzeVzeWzeXzeYzeZnITALIC SMALL DOTLESS IzjJ.1D6A8aMATHEMATICAL BOLD CAPITAL ALPHAzbBETAzbGAMMAzbD
ELTAzbEPSILONzbZETAzbETAzbTHETAzbIOTAzbKAPPAzbLAMDAzbMUzbNUzbXIzbOMICRONzbPIzbRHOzbTHETA SYMBOLzbSI
GMAzbTAUzbUPSILONzbPHIzbCHIzbPSIzbOMEGAsNABLAsSMALL ALPHAyBETAyGAMMAyDELTAyEPSILONyZETAyETAyTHETAyI
OTAyKAPPAyLAMDAyMUyNUyXIyOMICRONyPIyRHOyFINAL SIGMAySIGMAyTAUyUPSILONyPHIyCHIyPSIyOMEGAsPARTIAL DIF
FERENTIALsEPSILON SYMBOLsTHETA SYMBOLsKAPPA SYMBOLsPHI SYMBOLsRHO SYMBOLsPI SYMBOLnITALIC CAPITAL A
LPHAzdBETAzdGAMMAzdDELTAzdEPSILONzdZETAzdETAzdTHETAzdIOTAzdKAPPAzdLAMDAzdMUzdNUzdXIzdOMICRONzdPIzdR
HOzdTHETA SYMBOLzdSIGMAzdTAUzdUPSILONzdPHIzdCHIzdPSIzdOMEGAuNABLAuSMALL ALPHAzbBETAzbGAMMAzbDELTAzb
EPSILONzbZETAzbETAzbTHETAzbIOTAzbKAPPAzbLAMDAzbMUzbNUzbXIzbOMICRONzbPIzbRHOzbFINAL SIGMAzbSIGMAzbTA
UzbUPSILONzbPHIzbCHIzbPSIzbOMEGAuPARTIAL DIFFERENTIALuEPSILON SYMBOLuTHETA SYMBOLuKAPPA SYMBOLuPH
I SYMBOLuRHO SYMBOLuPI SYMBOLnBOLD ITALIC CAPITAL ALPHAziBETAziGAMMAziDELTAziEPSILONziZETAziETAziTH
ETAziIOTAziKAPPAziLAMDAziMUziNUziXIziOMICRONziPIziRHOziTHETA SYMBOLziSIGMAziTAUziUPSILONziPHIziCHIz
iPSIziOMEGAzaNABLAzaSMALL ALPHAzgBETAzgGAMMAzgDELTAzgEPSILONzgZETAzgETAzgTHETAzgIOTAzgKAPPAzgLAMDAz
gMUzgNUzgXIzgOMICRONzgPIzgRHOzgFINAL SIGMAzgSIGMAzgTAUzgUPSILONzgPHIzgCHIzgPSIzgOMEGAzaPARTIAL DIFF
ERENTIALzaEPSILON SYMBOLzaTHETA SYMBOLzaKAPPA SYMBOLzaPHI SYMBOLzaRHO SYMBOLzaPI SYMBOLnSANS-SERI
F BOLD CAPITAL ALPHAzmBETAzmGAMMAzmDELTAzmEPSILONzmZETAzmETAzmTHETAzmIOTAzmKAPPAzmLAMDAzmMUzmNUzmXI
zmOMICRONzmPIzmRHOzmTHETA SYMBOLzmSIGMAzmTAUzmUPSILONzmPHIzmCHIzmPSIzmOMEGAzeNABLAzeSMALL ALPHAzkBE
TAzkGAMMAzkDELTAzkEPSILONzkZETAzkETAzkTHETAzkIOTAzkKAPPAzkLAMDAzkMUzkNUzkXIzkOMICRONzkPIzkRHOzkFINA
L SIGMAzkSIGMAzkTAUzkUPSILONzkPHIzkCHIzkPSIzkOMEGAzePARTIAL DIFFERENTIALzeEPSILON SYMBOLzeTHETA SYM
BOLzeKAPPA SYMBOLzePHI SYMBOLzeRHO SYMBOLzePI SYMBOLzeITALIC CAPITAL ALPHAztBETAztGAMMAztDELTAztEPS
ILONztZETAztETAztTHETAztIOTAztKAPPAztLAMDAztMUztNUztXIztOMICRONztPIztRHOztTHETA SYMBOLztSIGMAztTAUz
tUPSILONztPHIztCHIztPSIztOMEGAzlNABLAzlSMALL ALPHAzrBETAzrGAMMAzrDELTAzrEPSILONzrZETAzrETAzrTHETAzr
IOTAzrKAPPAzrLAMDAzrMUzrNUzrXIzrOMICRONzrPIzrRHOzrFINAL SIGMAzrSIGMAzrTAUzrUPSILONzrPHIzrCHIzrPSIzr
OMEGAzlPARTIAL DIFFERENTIALzlEPSILON SYMBOLzlTHETA SYMBOLzlKAPPA SYMBOLzlPHI SYMBOLzlRHO SYMBOLzlP
I SYMBOLnBOLD CAPITAL DIGAMMAsSMALL DIGAMMA.1D7CEaMATHEMATICAL BOLD DIGIT ZEROyONEyTWOzaHREEyFOURza
IVEySIXzaEVENyEIGHTyNINEnDOUBLE-STRUCK DIGIT ZEROziONEziTWOzjHREEziFOURzjIVEziSIXzjEVENziEIGHTziNIN
EnSANS-SERIF DIGIT ZEROzfONEzfTWOzgHREEzfFOURzgIVEzfSIXzgEVENzfEIGHTzfNINEyBOLD DIGIT ZEROzkONEzkTW
OzlHREEzkFOURzlIVEzkSIXzlEVENzkEIGHTzkNINEnMONOSPACE DIGIT ZEROzeONEzeTWOzfHREEzeFOURzfIVEzeSIXzfEV
ENzeEIGHTzeNINEaSIGNWRITING HAND-FIST INDEXrCIRCLE INDEXsUP INDEXrOVAL INDEXrHINGE INDEXrANGLE INDE
XrFIST INDEX BENTrCIRCLE INDEX BENTrFIST THUMB UNDER INDEX BENTwINDEX RAISED KNUCKLEzdCUPPEDzdHINGE
Dzj LOWrCIRCLE INDEX HINGErFIST INDEX MIDDLErCIRCLE INDEX MIDDLErFIST INDEX MIDDLE BENTzkRAISED KNU
CKLESzkHINGEDzdUP MIDDLE HINGEDzdHINGED MIDDLE UPzdMIDDLE CONJOINEDzt INDEX BENTzuMIDDLE BENTzuCUPP
EDzuHINGEDzlROSSEDrCIRCLE INDEX MIDDLE CROSSEDrFIST MIDDLE BENT OVER INDEXwINDEX BENT OVER MIDDLEzd
MIDDLE THUMBrCIRCLE INDEX MIDDLE THUMBrFIST INDEX MIDDLE STRAIGHT THUMB BENTzkBENT THUMB STRAIGHTzk
THUMB BENTzkHINGED SPREAD THUMB SIDEzdUP MIDDLE HINGED THUMB SIDEzzbCONJOINEDzdHINGED MIDDLE UP THU
MB SIDEzdMIDDLE UP SPREAD THUMB FORWARDzkTHUMB CUPPEDzrIRCLEDzqHOOKEDzrINGEDwTHUMB BETWEEN INDEX MI
DDLE STRAIGHTwINDEX MIDDLE CONJOINED THUMB SIDEzzf CONJOINEDzzgBENTwMIDDLE THUMB HOOKED INDEX UPwIN
DEX THUMB HOOKED MIDDLE UPzdMIDDLE CONJOINED HINGED THUMB SIDEzlROSSED THUMB SIDEzlONJOINED THUMB F
ORWARDzuCUPPED THUMB FORWARDwMIDDLE THUMB CUPPED INDEX UPwINDEX THUMB CUPPED MIDDLE UPwMIDDLE THUM
B CIRCLED INDEX UPzyHINGEDwINDEX THUMB ANGLED OUT MIDDLE UPzqIN MIDDLE UPzjCIRCLED MIDDLE UPzdMIDDL
E THUMB CONJOINED HINGEDzqANGLED OUTzvDwMIDDLE THUMB ANGLED OUT INDEX UPzzcCROSSEDzrINDEX UPwINDE
X THUMB HOOKED MIDDLE HINGEDsLAT FOUR FINGERSzj BENTzkHINGEDzkCONJOINEDzt SPLITrCLAW FOUR FINGERS C
ONJOINEDrFIST FOUR FINGERS CONJOINED BENTrHINGE FOUR FINGERS CONJOINEDrFLAT FIVE FINGERS SPREADwHEE
L FIVE FINGERS SPREADwFIVE FINGERS SPREAD FOUR BENTwHEEL FIVE FINGERS SPREAD FOUR BENTwFIVE FINGER
S SPREAD BENTwHEEL FIVE FINGERS SPREAD BENTwFIVE FINGERS SPREAD THUMB FORWARDrCUP FIVE FINGERS SPRE
ADzp OPENrHINGE FIVE FINGERS SPREAD OPENrOVAL FIVE FINGERS SPREADrFLAT FIVE FINGERS SPREAD HINGEDz
x THUMB SIDEzyNO THUMBuTv BETWEEN PALM FACINGSwHEELwTHUMB SIDEwHEEL THUMB SIDEwTHUMB BENTzdFORWARDw
SPLIT INDEX THUMB SIDEzdCENTREzj THUMB SIDEzu BENTzdLITTLErCLAWv THUMB SIDEwNO THUMBwTHUMB FORWARDr
HOOK CURLICUEuKrCUP OPENtPu OPEN THUMB SIDEvTHUMB SIDEvOPEN NO THUMBvNO THUMBvOPEN THUMB FORWARDvTH
UMB FORWARDtRLICUE OPENyEsIRCLErOVALv THUMB SIDEwNO THUMBwTHUMB FORWARDrHINGE OPENzc THUMB FORWARDv
Ew SMALLxOPEN THUMB SIDExTHUMB SIDExOPEN NO THUMBxNO THUMBxTHUMB SIDE TOUCHING INDEXzeBETWEEN MIDDL
E RINGrANGLErFIST INDEX MIDDLE RINGrCIRCLE INDEX MIDDLE RINGrHINGE INDEX MIDDLE RINGrANGLE INDEX MI
DDLE RINGrHINGE LITTLErFIST INDEX MIDDLE RING BENTzpCONJOINEDrHINGE INDEX MIDDLE RING CONJOINEDrFIS
T LITTLE DOWNzi RIPPLE STRAIGHTzqCURVEDzjOTHERS CIRCLEDzeUPwTHUMB UNDER LITTLE UPrCIRCLE LITTLE UPr
OVAL LITTLE UPrANGLE LITTLE UPrFIST LITTLE RAISED KNUCKLEzeBENTzeTOUCHES THUMBzfHUMBrHINGE LITTLE T
HUMBrFIST LITTLE INDEX THUMBrHINGE LITTLE INDEX THUMBrANGLE LITTLE INDEX THUMB INDEX THUMB OUTzzcBr
FIST LITTLE INDEXrCIRCLE LITTLE INDEXrHINGE LITTLE INDEXrANGLE LITTLE INDEXrFIST INDEX MIDDLE LITTL
ErCIRCLE INDEX MIDDLE LITTLErHINGE INDEX MIDDLE LITTLExRINGrANGLE INDEX MIDDLE LITTLErFIST INDEX MI
DDLE CROSS LITTLErCIRCLE INDEX MIDDLE CROSS LITTLErFIST RING DOWNrHINGE RING DOWN INDEX THUMB HOO
K MIDDLErANGLE RING DOWN MIDDLE THUMB INDEX CROSSrFIST RING UPzcRAISED KNUCKLEzcLITTLErCIRCLE RIN
G LITTLErOVAL RING LITTLErANGLE RING LITTLErFIST RING MIDDLEzi CONJOINEDzjRAISED KNUCKLESzcINDEXzcT
HUMBrHOOK RING THUMBrFIST INDEX RING LITTLErCIRCLE INDEX RING LITTLEsURLICUE INDEX RING LITTLE ONrH
OOK INDEX RING LITTLE OUTzpINzpUNDERrCUP INDEX RING LITTLErHINGE INDEX RING LITTLErANGLE INDEX RIN
G LITTLE OUTzoErFIST MIDDLE DOWNrHINGE MIDDLErFIST MIDDLE UPrCIRCLE MIDDLE UPrFIST MIDDLE RAISED KN
UCKLEzeUP THUMB SIDErHOOK MIDDLE THUMBrFIST MIDDLE THUMB LITTLEzeLITTLEzeRING LITTLErCIRCLE MIDDL
E RING LITTLEsURLICUE MIDDLE RING LITTLE ONtP MIDDLE RING LITTLErHINGE MIDDLE RING LITTLErANGLE MID
DLE RING LITTLE OUTzrINzpErCIRCLE MIDDLE RING LITTLE BENTsLAW MIDDLE RING LITTLE CONJOINEDzza SIDEr
HOOK MIDDLE RING LITTLE CONJOINED OUTzzbINzyDsINGE INDEX HINGEDrFIST INDEX THUMB SIDErHINGE INDEX T
HUMB SIDErFIST INDEX THUMB SIDE THUMB DIAGONALzuCONJOINEDzuBENTzoINDEX BENTzoBOTH BENTzoINDEX HINGE
zjFORWARD INDEX STRAIGHTzxBENTzjHOOKzjCURLICUEzmVE THUMB INSIDErCLAW INDEX THUMB CURVE THUMB INSIDE
rFIST INDEX THUMB CURVE THUMB UNDERzkIRCLErCUP INDEX THUMBzh OPENrHINGE INDEX THUMB OPENzkLARGEziBz
j SMALLrANGLE INDEX THUMB OUTzkINziBrFIST THUMBzc HEELzdSIDE DIAGONALziCONJOINEDziBENTzdFORWARDzdBE
TWEEN INDEX MIDDLEzlMIDDLE RINGzlRING LITTLEzdUNDER TWO FINGERSzdOVER TWO FINGERSzdUNDER THREE FING
ERSzjFOUR FINGERSzdOVER FOUR RAISED KNUCKLESuTv HEELmTOUCH SINGLEsMULTIPLEsBETWEENmGRASP SINGLEsMUL
TIPLEsBETWEENmSTRIKE SINGLEtMULTIPLEtBETWEENmBRUSH SINGLEsMULTIPLEsBETWEENmRUB SINGLEqMULTIPLEqBETW
EENmSURFACE SYMBOLSuBETWEENnQUEEZE LARGE SINGLEuSMALL SINGLEuLARGE MULTIPLEuSMALL MULTIPLEvEQUENTIA
LmFLICK LARGE SINGLEsSMALL SINGLEsLARGE MULTIPLEsSMALL MULTIPLEtEQUENTIALmSQUEEZE FLICK ALTERNATING
mMOVEMENT-HINGE UP DOWN LARGEzkSMALLzfSEQUENTIALzcDOWN SEQUENTIALzcUP DOWN ALTERNATING LARGEzwSMALL
zcSIDE TO SIDE SCISSORSvWALLPLANE FINGER CONTACTvFLOORPLANE FINGER CONTACTvWALLPLANE SINGLE STRAIGH
T SMALLzwMEDIUMzwLARGEzzcSTznWRIST FLEXzgDOUBLE STRAIGHTznWRIST FLEXznALTERNATINGzy WRIST FLEXzgCRO
SSzgTRIPLE STRAIGHT MOVEMENTznWRIST FLEXznALTERNATINGzy WRIST FLEXzgBEND SMALLzlMEDIUMzlLARGEzgCORN
ER SMALLznMEDIUMznLARGEznROTATIONzhHECK SMALLzmMEDIUMzmLARGEzgBOX SMALLzkMEDIUMzkLARGEzgZIGZAG SMAL
LznMEDIUMznLARGEzgPEAKS SMALLzmMEDIUMzmLARGEmTRAVEL-WALLPLANE ROTATION-WALLPLANE SINGLEzxDOUBLEzxAL
TERNATINGznFLOORPLANE SINGLEzyDOUBLEzyALTERNATINGzeSHAKINGzeARM SPIRAL SINGLEzpDOUBLEzpTRIPLEmMOVEM
ENT-DIAGONAL AWAY SMALLzkMEDIUMzkLARGEzpSTzfTOWARDS SMALLznMEDIUMznLARGEzsSTzfBETWEEN AWAY SMALLzsM
EDIUMzsLARGEzxSTznTOWARDS SMALLzvMEDIUMzvLARGEzzbSTvFLOORPLANE SINGLE STRAIGHT SMALLzxMEDIUMzxLARGE
zzdSTzoWRIST FLEXzhDOUBLE STRAIGHTzoWRIST FLEXzoALTERNATINGzza WRIST FLEXzhCROSSzhTRIPLE STRAIGHT M
OVEMENTzoWRIST FLEXzoALTERNATING MOVEMENTzzbWRIST FLEXzhBENDzhCORNER SMALLzoMEDIUMzoLARGEziHECKzhBO
X SMALLzlMEDIUMzlLARGEzhZIGZAG SMALLzoMEDIUMzoLARGEzhPEAKS SMALLznMEDIUMznLARGEmTRAVEL-FLOORPLANE R
OTATION-FLOORPLANE SINGLEzzaDOUBLEzzaALTERNATINGzoWALLPLANE SINGLEzyDOUBLEzyALTERNATINGzfSHAKINGmMO
VEMENT-WALLPLANE CURVE QUARTER SMALLzuMEDIUMzuLARGEzzaSTzmHALF-CIRCLE SMALLzyMEDIUMzyLARGEzzeSTzmTH
REE-QUARTER CIRCLE SMALLzziMEDIUMzgHUMP SMALLzlMEDIUMzlLARGEzgLOOP SMALLzlMEDIUMzlLARGEzlSMALL DOUB
LEzgWAVE CURVE DOUBLE SMALLzyMEDIUMzyLARGEzrTRIPLE SMALLzyMEDIUMzyLARGEzgCURVE THEN STRAIGHTzlD CRO
SS SMALLztMEDIUMmROTATION-WALLPLANE SINGLEzgDOUBLEzgALTERNATEmMOVEMENT-WALLPLANE SHAKINGzgCURVE HIT
TING FRONT WALLzgHUMP HITTING FRONT WALLzgLOOP HITTING FRONT WALLzgWAVE HITTING FRONT WALLmROTATION
-WALLPLANE SINGLE HITTING FRONT WALLzgDOUBLE HITTING FRONT WALLzgALTERNATING HITTING FRONT WALLmMOV
EMENT-WALLPLANE CURVE HITTING CHESTzgHUMP HITTING CHESTzgLOOP HITTING CHESTzgWAVE HITTING CHESTmROT
ATION-WALLPLANE SINGLE HITTING CHESTzgDOUBLE HITTING CHESTzgALTERNATING HITTING CHESTmMOVEMENT-WALL
PLANE WAVE DIAGONAL PATH SMALLzzaMEDIUMzzaLARGEvFLOORPLANE CURVE HITTING CEILING SMALLzzeLARGEzhHUM
P HITTING CEILING SMALL DOUBLEzzdLARGE DOUBLEzzdSMALL TRIPLEzzdLARGE TRIPLEzhLOOP HITTING CEILING S
MALL SINGLEzzdLARGE SINGLEzzdSMALL DOUBLEzzdLARGE DOUBLEzhWAVE HITTING CEILING SMALLzzdLARGEmROTATI
ON-FLOORPLANE SINGLE HITTING CEILINGzhDOUBLE HITTING CEILINGzhALTERNATING HITTING CEILINGmMOVEMENT-
FLOORPLANE CURVE HITTING FLOOR SMALLzzcLARGEzhHUMP HITTING FLOOR SMALL DOUBLEzzbLARGE DOUBLEzzbTRIP
LE SMALL TRIPLEzziLARGE TRIPLEzhLOOP HITTING FLOOR SMALL SINGLEzzbLARGE SINGLEzzbSMALL DOUBLEzzbLAR
GE DOUBLEzhWAVE HITTING FLOOR SMALLzzbLARGEmROTATION-FLOORPLANE SINGLE HITTING FLOORzhDOUBLE HITTIN
G FLOORzhALTERNATING HITTING FLOORmMOVEMENT-FLOORPLANE CURVE SMALLznMEDIUMznLARGEzsSTznCOMBINEDzhHU
MP SMALLzhLOOP SMALLzhWAVE SNAKEznMALLzmLARGEmROTATION-FLOORPLANE SINGLEzhDOUBLEzhALTERNATINGmMOVEM
ENT-FLOORPLANE SHAKING PARALLELvWALLPLANE ARM CIRCLE SMALL SINGLEzrMEDIUM SINGLEzrSMALL DOUBLEzrMED
IUM DOUBLEvFLOORPLANE ARM CIRCLE HITTING WALL SMALL SINGLEzzgMEDIUM SINGLEzzgLARGE SINGLEzzgSMALL D
OUBLEzzgMEDIUM DOUBLEzzgLARGE DOUBLEvWALLPLANE WRIST CIRCLE FRONT SINGLEzzaDOUBLEvFLOORPLANE WRIS
T CIRCLE HITTING WALL SINGLEzziDOUBLEvWALLPLANE FINGER CIRCLES SINGLEzvDOUBLEvFLOORPLANE FINGER CIR
CLES HITTING WALL SINGLEzzkDOUBLEmDYNAMIC ARROWHEAD SMALLzfLARGEuFASTuSLOWuTENSEuRELAXEDuSIMULTANEO
USzh ALTERNATINGuEVERY OTHER TIMEuGRADUALmHEADq RIMrMOVEMENT-WALLPLANE STRAIGHTzlTILTzbFLOORPLANE S
TRAIGHTzbWALLPLANE CURVEzbFLOORPLANE CURVEza CIRCLEmFACE DIRECTION POSITION NOSE FORWARD TILTINGzqU
P OR DOWNzzb TILTINGmEYEBROWS STRAIGHT UPzfNEUTRALzfDOWNmDREAMY EYEBROWS NEUTRAL DOWNzdDOWN NEUTRAL
zdUP NEUTRALzdNEUTRAL UPmFOREHEAD NEUTRALvCONTACTvWRINKLEDmEYES OPENrSQUEEZEDrCLOSEDp BLINK SINGLEw
MULTIPLEpS HALF OPENrWIDE OPENrHALF CLOSEDrWIDENING MOVEMENTp WINKpLASHES UPwDOWNwFLUTTERINGpGAZE-W
ALLPLANE STRAIGHTzn DOUBLEzoALTERNATINGuFLOORPLANE STRAIGHTzo DOUBLEzpALTERNATINGuWALLPLANE CURVEDu
FLOORPLANE CURVEDuWALLPLANE CIRCLINGmCHEEKS PUFFEDtNEUTRALtSUCKEDmTENSE CHEEKS HIGHzaMIDDLEzaLOWmEA
RSmNOSE NEUTRALrCONTACTrWRINKLESsIGGLESmAIR BLOWING OUTqSUCKING INqBLOW SMALL ROTATIONSqSUCK SMAL
L ROTATIONSmBREATH INHALEtEXHALEmMOUTH CLOSED NEUTRALzaFORWARDzaCONTACTsSMILEx WRINKLEDyOPENsFROWN
x WRINKLEDyOPENsOPEN CIRCLExFORWARDxWRINKLEDxOVALzc WRINKLEDzdYAWNxRECTANGLEzh WRINKLEDziYAWNsKISS
w FORWARDxWRINKLEDsTENSEx FORWARDySUCKEDmLIPS PRESSED TOGETHERp LOWER OVER UPPERqUPPER OVER LOWERmM
OUTH CORNERSsWRINKLES SINGLEzcDOUBLEmTONGUE STICKING OUT FARtLICKING LIPStTIP BETWEEN LIPSxTOUCHIN
G INSIDE MOUTHtINSIDE MOUTH RELAXEDtMOVES AGAINST CHEEKtCENTRE STICKING OUTzbINSIDE MOUTHnEETHr MOV
EMENTsON TONGUEzc MOVEMENTvLIPSza MOVEMENTsBITE LIPSmMOVEMENT-WALLPLANE JAWvFLOORPLANE JAWmNECKmHAI
RmEXCITEMENTmSHOULDER HIP SPINEzaPOSITIONSmWALLPLANE SHOULDER HIP MOVEmFLOORPLANE SHOULDER HIP MOVE
mSHOULDER TILTING FROM WAISTmTORSO-WALLPLANE STRAIGHT STRETCHzdCURVED BENDsFLOORPLANE TWISTINGmUPPE
R BODY TILTING FROM HIP JOINTSmLIMB COMBINATIONrLENGTH-1y2y3y4y5y6y7mFINGERmLOCATION-WALLPLANE SPAC
EvFLOORPLANE SPACEu HEIGHTvWIDTHvDEPTHvHEAD NECKvTORSOvLIMBS DIGITSmCOMMAmFULL STOPmSEMICOLONmCOLON
mPARENTHESIS.1DA9BaSIGNWRITING FILL MODIFIER-2zb3zb4zb5zb6.1DAA1aSIGNWRITING ROTATION MODIFIER-2zf3
zf4zf5zf6zf7zf8zf9zf10zg1zg2zg3zg4zg5zg6.1DF00aLATIN SMALL LETTER FENG DIGRAPH WITH TRILLtREVERSE
D SCRIPT GgLETTER SMALL CAPITAL TURNED GgSMALL LETTER REVERSED KgLETTER SMALL CAPITAL L WITH BELTgS
MALL LETTER LEZH WITH RETROFLEX HOOKtTURNED Y WITH BELTtREVERSED ENGtTURNED R WITH LONG LEG AND RET
ROFLEX HOOKu WITH HOOK AND RETROFLEX HOOKgLETTER RETROFLEX CLICK WITH RETROFLEX HOOKgSMALL LETTER E
SH WITH DOUBLE BARzn AND CURLtTURNED T WITH CURLgLETTER INVERTED GLOTTAL STOP WITH CURLnSTRETCHE
D C WITH CURLoMALL CAPITAL TURNED KgSMALL LETTER L WITH FISHHOOKtDEZH DIGRAPH WITH PALATAL HOOKtL W
ITH BELT AND PALATAL HOOKtENG WITH PALATAL HOOKtTURNED R WITH PALATAL HOOKtR WITH FISHHOOK AND PALA
TAL HOOKtTESH DIGRAPH WITH PALATAL HOOKtEZH WITH PALATAL HOOKtDEZH DIGRAPH WITH RETROFLEX HOOKtI WI
TH STROKE AND RETROFLEX HOOKtO WITH RETROFLEX HOOKtTESH DIGRAPH WITH RETROFLEX HOOKtC WITH RETROFLE
X HOOKtS WITH CURL.1E000aCOMBINING GLAGOLITIC LETTER AZUzdBUKYzdVEDEzdGLAGOLIzdDOBROzdYESTUzdZHIVET
E.1E008aCOMBINING GLAGOLITIC LETTER ZEMLJAzdIZHEzeNITIAL IZHEzdIzdDJERVIzdKAKOzdLJUDIJEzdMYSLITEzdN
ASHIzdONUzdPOKOJIzdRITSIzdSLOVOzdTVRIDOzdUKUzdFRITUzdHERU.1E01BaCOMBINING GLAGOLITIC LETTER SHTAzdT
SIzdCHRIVIzdSHAzdYERUzgIzeATI.1E023aCOMBINING GLAGOLITIC LETTER YUzdSMALL YUS.1E026aCOMBINING GLAGO
LITIC LETTER YOzdIOTATED SMALL YUSzdBIG YUSzdIOTATED BIG YUSzdFITA.1E100aNYIAKENG PUACHUE HMONG LET
TER MAzfTSAzfNTAzfTAzfHAzfNAzfXAzfNKAzfCAzfLAzfSAzfZAzfNCAzgTSAzfKAzfDAzfNYAzgRAzfVAzfNTXAzfTXAzfFA
zfRAzfQAzfYAzfNQAzfPAzfXYAzfNPAzfDLAzfNPLAzfHAHzfMLAzfPLAzfGAzfRRAzfAzgAzfIzfUzfOzgOzfEzgEzfW.1E130
aNYIAKENG PUACHUE HMONG TONE-BzdMzdJzdVzdSzdGzdDxSIGN FOR PERSONzhTHINGzhLOCATIONzhANIMALzhINVERTEB
RATEzdXW XWyYLLABLE LENGTHENER.1E140aNYIAKENG PUACHUE HMONG DIGIT ZEROzeONEzeTWOzfHREEzeFOURzfIVEze
SIXzfEVENzeEIGHTzeNINE.1E14EaNYIAKENG PUACHUE HMONG LOGOGRAM NYAJxCIRCLED CA.1E290aTOTO LETTER PAmB
AmTAmDAmKAmGAmMAmNAnGAmSAmCHAmYAmWAmJAmHAmRAmLAmImBREATHY ImIUmBREATHY IUmUmEmBREATHY EmEOmBREATH
Y EOmOmAEmBREATHY AEmAfSIGN RISING TONE.1E2C0aWANCHO LETTER AAoAoBAoCAoDAoGAoYAoPHAoLAoNAoPAoTApHAo
FAoSApHAoJAoZAoWAoVAoKAoOoAUoRAoMAoKHAoHAoEoIoNGAoUoLLHAoTSApRAoONGoAANGpNGoINGoONoENoAANoNYAoUENoY
IHhTONE TUPpNImKOIpNIhDIGIT ZEROnONEnTWOoHREEnFOURoIVEnSIXoEVENnEIGHTnNINE.1E2FFaWANCHO NGUN SIGN.1
E7E0aETHIOPIC SYLLABLE HHYAvUvIvAAvEEvEvO.1E7E8aETHIOPIC SYLLABLE GURAGE HHWAsHHWIvEEvE.1E7EDaETHIO
PIC SYLLABLE GURAGE MWIzcEE.1E7F0aETHIOPIC SYLLABLE GURAGE QWIzcEEzcEzaBWIzcEEzaKWIzcEEzcEzaGWIzcEE
zcEzaFWIzcEEzaPWIzcEE.1E800aMENDE KIKAKUI SYLLABLE M001 KIzb2 KAzb3 KUza65 KEEza95 KEza76 KOOza48 K
Oy179 KUAy004 WIzb5 WAzb6 WUy126 WEEza18 WEzb4 WOOy045 WOy194 WUIza43 WEIy061 WVIza49 WVAy139 WVEy0
07 MINzb8 MANzb9 MUNza59 MENza94 MONy154 MUANza89 MUENy010 BIzb1 BAzb2 BUy150 BEEy097 BEy103 BOOza3
8 BOy013 Izb4 Azb5 Uy163 EEza00 Eza65 OOza47 Oza37 EIzb1 INzb5 INza95 ANza78 ENy019 SIza20 SAzb1 SU
y162 SEEza16 SEza36 SOOy079 SOy196 SIAy025 LIzb6 LAzb7 LUza84 LEEza73 LEza54 LOOy153 LOza10 LONG LE
y016 DIzb7 DAzb8 DUza89 DEEy180 DOOzb1 DOy022 TIzb3 TAzb4 TUza91 TEEza55 TEy104 TOOy069 TOza28 JIzb
9 JAza30 JUy157 JEEza13 JEza60 JOOy063 JOy175 LONG JOy031 YIzb2 YAzb3 YUy109 YEEy080 YEy141 YOOza2
1 YOy034 FIzb5 FAzb6 FUza78 FEEzb5 FEy133 FOOy088 FOy197 FUAza01 FANy037 NINzb8 NANzb9 NUNy117 NENz
a69 NONza76 HIy041 HAy186 HUy040 HEEza96 HEza42 HOOy140 HOy083 HEEIy128 HOOUy053 HINy130 HANy087 HU
Nza52 HENy193 HONy046 HUANza90 NGGIza43 NGGAza82 NGGUy115 NGGEEza46 NGGEza56 NGGOOza20 NGGOza59 NGG
AAza27 NGGUAy086 LONG NGGEy106 LONG NGGOOza83 LONG NGGOza55 GIza11 GAza68 GUza90 GEEza66 GUEIzb7 GU
ANza84 NGENy057 NGONy177 NGUANy068 PIza99 PAza50 PUza81 PEEza51 PEy102 POOy066 POy145 MBIy062 MBAy1
22 MBUy047 MBEEy188 MBEEy072 MBEy172 MBOOzb4 MBOza87 MBUUza61 LONG MBEza05 LONG MBOOza42 LONG MBOza
32 KPIy092 KPAza74 KPUza44 KPEEy108 KPEza12 KPOOza58 KPOza24 GBIy056 GBAy148 GBUy093 GBEEy107 GBEy0
71 GBOOzb0 GBOy171 RAza23 NDIzb9 NDAzb5 NDUza91 NDEEza19 NDEy067 NDOOzb4 NDOy152 NJAza92 NJUza49 NJ
EEza34 NJOOza82 VIzb5 VAza51 VUza73 VEEy085 VEy144 VOOy077 VOy164 NYINy058 NYANy170 NYUNy098 NYENza
60 NYON.1E8C7aMENDE KIKAKUI DIGIT ONEuTWOvHREEuFOURvIVEuSIXvEVENuEIGHTuNINEoCOMBINING NUMBER TEENSz
iNSzgHUNDREDSzgTHOUSANDSzhEN THOUSANDSzgHUNDRED THOUSANDSzgMILLIONS.1E900aADLAM CAPITAL LETTER ALIF
vDAALIvLAAMvMIIMvBAvSINNYIIYHEvPEvBHEvRAvEvFAvIvOvDHAvYHEvWAWvNUNvKAFvYAvUvJIIMvCHIvHAvQAAFvGAvNYAv
TUvNHAvVAvKHAvGBEvZALvKPOvSHAgSMALL LETTER ALIFtDAALItLAAMtMIIMtBAtSINNYIIYHEtPEtBHEtRAtEtFAtItOtDH
AtYHEtWAWtNUNtKAFtYAtUtJIIMtCHItHAtQAAFtGAtNYAtTUtNHAtVAtKHAtGBEtZALtKPOtSHAgALIF LENGTHENERgVOWE
L LENGTHENERgGEMINATION MARKgHAMZAgCONSONANT MODIFIERgGEMINATE CONSONANT MODIFIERgNUKTAhASALIZATIO
N MARK.1E950aADLAM DIGIT ZEROmONEmTWOnHREEmFOURnIVEmSIXnEVENmEIGHTmNINE.1E95EaADLAM INITIAL EXCLAMA
TION MARKoQUESTION MARK.1EC71aINDIC SIYAQ NUMBER ONEtTWOuHREEtFOURuIVEtSIXuEVENtEIGHTtNINEtTENuWENT
YuHIRTYtFORTYuIFTYtSIXTYuEVENTYtEIGHTYtNINETYtONE HUNDREDtTWO HUNDREDuHREE HUNDREDtFOUR HUNDREDuIV
E HUNDREDtSIX HUNDREDuEVEN HUNDREDtEIGHT HUNDREDtNINE HUNDREDtONE THOUSANDtTWO THOUSANDuHREE THOUSA
NDtFOUR THOUSANDuIVE THOUSANDtSIX THOUSANDuEVEN THOUSANDtEIGHT THOUSANDtNINE THOUSANDtTEN THOUSANDu
WENTY THOUSANDuHIRTY THOUSANDtFORTY THOUSANDuIFTY THOUSANDtSIXTY THOUSANDuEVENTY THOUSANDtEIGHTY TH
OUSANDtNINETY THOUSANDtLAKHxANmLAKH MARKmNUMBER KARORyANtPREFIXED ONEzdTWOzeHREEzdFOURzeIVEzdSIXzeE
VENzdEIGHTzdNINEmPLACEHOLDERmFRACTION ONE QUARTERzaHALFvTHREE QUARTERSmRUPEE MARKmNUMBER ALTERNAT
E ONEzeTWOzfEN THOUSANDmALTERNATE LAKH MARK.1ED01aOTTOMAN SIYAQ NUMBER ONEvTWOwHREEvFOURwIVEvSIXwEV
ENvEIGHTvNINEvTENwWENTYwHIRTYvFORTYwIFTYvSIXTYwEVENTYvEIGHTYvNINETYvONE HUNDREDvTWO HUNDREDwHREE HU
NDREDvFOUR HUNDREDwIVE HUNDREDvSIX HUNDREDwEVEN HUNDREDvEIGHT HUNDREDvNINE HUNDREDvONE THOUSANDvTW
O THOUSANDwHREE THOUSANDvFOUR THOUSANDwIVE THOUSANDvSIX THOUSANDwEVEN THOUSANDvEIGHT THOUSANDvNIN
E THOUSANDvTEN THOUSANDwWENTY THOUSANDwHIRTY THOUSANDvFORTY THOUSANDwIFTY THOUSANDvSIXTY THOUSANDwE
VENTY THOUSANDvEIGHTY THOUSANDvNINETY THOUSANDoMARRATANoALTERNATE NUMBER TWOzhHREEzgFOURzhIVEzgSIXz
hEVENzgEIGHTzgNINEzgTENzgFOUR HUNDREDzgSIX HUNDREDzgTWO THOUSANDzhEN THOUSANDoFRACTION ONE HALFzcSI
XTH.1EE00aARABIC MATHEMATICAL ALEFuBEHuJEEMuDAL.1EE05aARABIC MATHEMATICAL WAWuZAINuHAHuTAHuYEHuKAFu
LAMuMEEMuNOONuSEENuAINuFEHuSADuQAFuREHuSHEENuTEHvHEHuKHAHuTHALuDADuZAHuGHAINuDOTLESS BEHzdNOONzdFEH
zdQAF.1EE21aARABIC MATHEMATICAL INITIAL BEHzdJEEM.1EE24aARABIC MATHEMATICAL INITIAL HEH.1EE27aARABI
C MATHEMATICAL INITIAL HAH.1EE29aARABIC MATHEMATICAL INITIAL YEHzdKAFzdLAMzdMEEMzdNOONzdSEENzdAINzd
FEHzdSADzdQAF.1EE34aARABIC MATHEMATICAL INITIAL SHEENzdTEHzeHEHzdKHAH.1EE39aARABIC MATHEMATICAL INI
TIAL DAD.1EE3BaARABIC MATHEMATICAL INITIAL GHAIN.1EE42aARABIC MATHEMATICAL TAILED JEEM.1EE47aARABI
C MATHEMATICAL TAILED HAH.1EE49aARABIC MATHEMATICAL TAILED YEH.1EE4BaARABIC MATHEMATICAL TAILED LAM
.1EE4DaARABIC MATHEMATICAL TAILED NOONzcSEENzcAIN.1EE51aARABIC MATHEMATICAL TAILED SADzcQAF.1EE54aA
RABIC MATHEMATICAL TAILED SHEEN.1EE57aARABIC MATHEMATICAL TAILED KHAH.1EE59aARABIC MATHEMATICAL TAI
LED DAD.1EE5BaARABIC MATHEMATICAL TAILED GHAIN.1EE5DaARABIC MATHEMATICAL TAILED DOTLESS NOON.1EE5Fa
ARABIC MATHEMATICAL TAILED DOTLESS QAF.1EE61aARABIC MATHEMATICAL STRETCHED BEHzfJEEM.1EE64aARABIC M
ATHEMATICAL STRETCHED HEH.1EE67aARABIC MATHEMATICAL STRETCHED HAHzfTAHzfYEHzfKAF.1EE6CaARABIC MATHE
MATICAL STRETCHED MEEMzfNOONzfSEENzfAINzfFEHzfSADzfQAF.1EE74aARABIC MATHEMATICAL STRETCHED SHEENzfT
EHzgHEHzfKHAH.1EE79aARABIC MATHEMATICAL STRETCHED DADzfZAHzfGHAINzfDOTLESS BEH.1EE7EaARABIC MATHEMA
TICAL STRETCHED DOTLESS FEH.1EE80aARABIC MATHEMATICAL LOOPED ALEFzcBEHzcJEEMzcDALzcHEHzcWAWzcZAINzc
HAHzcTAHzcYEH.1EE8BaARABIC MATHEMATICAL LOOPED LAMzcMEEMzcNOONzcSEENzcAINzcFEHzcSADzcQAFzcREHzcSHEE
NzcTEHzdHEHzcKHAHzcTHALzcDADzcZAHzcGHAIN.1EEA1aARABIC MATHEMATICAL DOUBLE-STRUCK BEHzjJEEMzjDAL.1EE
A5aARABIC MATHEMATICAL DOUBLE-STRUCK WAWzjZAINzjHAHzjTAHzjYEH.1EEABaARABIC MATHEMATICAL DOUBLE-STRU
CK LAMzjMEEMzjNOONzjSEENzjAINzjFEHzjSADzjQAFzjREHzjSHEENzjTEHzkHEHzjKHAHzjTHALzjDADzjZAHzjGHAIN.1EE
F0aARABIC MATHEMATICAL OPERATOR MEEM WITH HAH WITH TATWEELzeHAH WITH DAL.1F000aMAHJONG TILE EAST WI
NDnSOUTH WINDnWEST WINDnNORTH WINDnRED DRAGONnGREEN DRAGONnWHITE DRAGONnONE OF CHARACTERSnTWO OF CH
ARACTERSoHREE OF CHARACTERSnFOUR OF CHARACTERSoIVE OF CHARACTERSnSIX OF CHARACTERSoEVEN OF CHARACTE
RSnEIGHT OF CHARACTERSnNINE OF CHARACTERSnONE OF BAMBOOSnTWO OF BAMBOOSoHREE OF BAMBOOSnFOUR OF BAM
BOOSoIVE OF BAMBOOSnSIX OF BAMBOOSoEVEN OF BAMBOOSnEIGHT OF BAMBOOSnNINE OF BAMBOOSnONE OF CIRCLESn
TWO OF CIRCLESoHREE OF CIRCLESnFOUR OF CIRCLESoIVE OF CIRCLESnSIX OF CIRCLESoEVEN OF CIRCLESnEIGH
T OF CIRCLESnNINE OF CIRCLESnPLUMnORCHIDnBAMBOOnCHRYSANTHEMUMnSPRINGoUMMERnAUTUMNnWINTERnJOKERnBACK
.1F030aDOMINO TILE HORIZONTAL BACKw-00-00zc1zc2zc3zc4zc5zc6y1-00zc1zc2zc3zc4zc5zc6y2-00zc1zc2zc3zc4
zc5zc6y3-00zc1zc2zc3zc4zc5zc6y4-00zc1zc2zc3zc4zc5zc6y5-00zc1zc2zc3zc4zc5zc6y6-00zc1zc2zc3zc4zc5zc6m
VERTICAL BACKu-00-00za1za2za3za4za5za6w1-00za1za2za3za4za5za6w2-00za1za2za3za4za5za6w3-00za1za2za3z
a4za5za6w4-00za1za2za3za4za5za6w5-00za1za2za3za4za5za6w6-00za1za2za3za4za5za6.1F0A0aPLAYING CARD BA
CKnACE OF SPADESnTWO OF SPADESoHREE OF SPADESnFOUR OF SPADESoIVE OF SPADESnSIX OF SPADESoEVEN OF SP
ADESnEIGHT OF SPADESnNINE OF SPADESnTEN OF SPADESnJACK OF SPADESnKNIGHT OF SPADESnQUEEN OF SPADESnK
ING OF SPADES.1F0B1aPLAYING CARD ACE OF HEARTSnTWO OF HEARTSoHREE OF HEARTSnFOUR OF HEARTSoIVE OF H
EARTSnSIX OF HEARTSoEVEN OF HEARTSnEIGHT OF HEARTSnNINE OF HEARTSnTEN OF HEARTSnJACK OF HEARTSnKNIG
HT OF HEARTSnQUEEN OF HEARTSnKING OF HEARTSnRED JOKER.1F0C1aPLAYING CARD ACE OF DIAMONDSnTWO OF DIA
MONDSoHREE OF DIAMONDSnFOUR OF DIAMONDSoIVE OF DIAMONDSnSIX OF DIAMONDSoEVEN OF DIAMONDSnEIGHT OF D
IAMONDSnNINE OF DIAMONDSnTEN OF DIAMONDSnJACK OF DIAMONDSnKNIGHT OF DIAMONDSnQUEEN OF DIAMONDSnKIN
G OF DIAMONDSnBLACK JOKER.1F0D1aPLAYING CARD ACE OF CLUBSnTWO OF CLUBSoHREE OF CLUBSnFOUR OF CLUBSo
IVE OF CLUBSnSIX OF CLUBSoEVEN OF CLUBSnEIGHT OF CLUBSnNINE OF CLUBSnTEN OF CLUBSnJACK OF CLUBSnKNI
GHT OF CLUBSnQUEEN OF CLUBSnKING OF CLUBSnWHITE JOKERnFOOLnTRUMP-1t2t3t4t5t6t7t8t9t10u1u2u3u4u5u6u7
u8u9t20u1.1F100aDIGIT ZERO FULL STOPlCOMMAgONE COMMAgTWO COMMAhHREE COMMAgFOUR COMMAhIVE COMMAgSI
X COMMAhEVEN COMMAgEIGHT COMMAgNINE COMMAcNGBAT CIRCLED SANS-SERIF DIGIT ZEROiNEGATIVE CIRCLED SANS
-SERIF DIGIT ZEROaCIRCLED ZERO WITH SLASHiANTICLOCKWISE ARROWiDOLLAR SIGN WITH OVERLAID BACKSLASHaP
ARENTHESIZED LATIN CAPITAL LETTER AzkBzkCzkDzkEzkFzkGzkHzkIzkJzkKzkLzkMzkNzkOzkPzkQzkRzkSzkTzkUzkVz
kWzkXzkYzkZaTORTOISE SHELL BRACKETED LATIN CAPITAL LETTER SaCIRCLED ITALIC LATIN CAPITAL LETTER Czl
RiCDiWZbOPYLEFT SYMBOLaSQUARED LATIN CAPITAL LETTER AzeBzeCzeDzeEzeFzeGzeHzeIzeJzeKzeLzeMzeNzeOzePz
eQzeRzeSzeTzeUzeVzeWzeXzeYzeZiHViMViSDjSiPPViWCaNEGATIVE CIRCLED LATIN CAPITAL LETTER AznBznCznDznE
znFznGznHznIznJznKznLznMznNznOznPznQznRznSznTznUznVznWznXznYznZaRAISED MC SIGNiD SIGNiR SIGNaCIRCLE
D CCj WITH OVERLAID BACKSLASHiHUMAN FIGUREaNEGATIVE SQUARED LATIN CAPITAL LETTER AznBznCznDznEznFzn
GznHznIznJznKznLznMznNznOznPznQznRznSznTznUznVznWznXznYznZaCROSSED NEGATIVE SQUARED LATIN CAPITAL L
ETTER PaNEGATIVE SQUARED ICrPArSArABrWCaSQUARE DJgD CLjOOLiFREEiIDiNEWjGiOKiSOSiUP WITH EXCLAMATIO
N MARKiVSiTHREE DiSECOND SCREENiTWO KiFOUR KiEIGHT KiFIVE POINT ONEiSEVEN POINT ONEiTWENTY-TWO POIN
T TWOiSIXTY PiONE HUNDRED TWENTY PiLATIN SMALL LETTER DiHCjDRjI-RESiLOSSLESSiSHViUHDiVODaMASK WOR
K SYMBOL.1F1E6aREGIONAL INDICATOR SYMBOL LETTER AziBziCziDziEziFziGziHziIziJziKziLziMziNziOziPziQzi
RziSziTziUziVziWziXziYziZaSQUARE HIRAGANA HOKAgD KATAKANA KOKOrSA.1F210aSQUARED CJK UNIFIED IDEOGRA
PH-624Bzf5B57zg3CCiKATAKANA DEiCJK UNIFIED IDEOGRAPH-4E8Czf591Azf89E3zf5929zf4EA4zf6620zf7121zf6599
zf524DzgF8Czg18Dzf65B0zf521Dzf7D42zg51Fzf8CA9zf58F0zg439zf6F14zg295zg355zf4E00zi9zf904Azf5DE6zf4E2D
zf53F3zf6307zf8D70zf6253zf7981zgA7Azf5408zf6E80zg709zi8zf7533zf5272zg5B6zf914D.1F240aTORTOISE SHEL
L BRACKETED CJK UNIFIED IDEOGRAPH-672Czw4E09zy8Czw5B89zw70B9zw6253zw76D7zw52DDzw6557.1F250aCIRCLE
D IDEOGRAPH ADVANTAGEtCCEPT.1F260aROUNDED SYMBOL FOR FUtLUtSHOUtXItSHUANGXItCAI.1F300aCYCLONEaFOGGY
aCLOSED UMBRELLAaNIGHT WITH STARSaSUNRISE OVER MOUNTAINSgEaCITYSCAPE AT DUSKaSUNSET OVER BUILDINGSa
RAINBOWaBRIDGE AT NIGHTaWATER WAVEaVOLCANOaMILKY WAYaEARTH GLOBE EUROPE-AFRICAmAMERICASnSIA-AUSTRAL
IAaGLOBE WITH MERIDIANSaNEW MOON SYMBOLaWAXING CRESCENT MOON SYMBOLaFIRST QUARTER MOON SYMBOLaWAXIN
G GIBBOUS MOON SYMBOLaFULL MOON SYMBOLaWANING GIBBOUS MOON SYMBOLaLAST QUARTER MOON SYMBOLaWANING C
RESCENT MOON SYMBOLaCRESCENT MOONaNEW MOON WITH FACEaFIRST QUARTER MOON WITH FACEaLAST QUARTER MOO
N WITH FACEaFULL MOON WITH FACEaSUN WITH FACEaGLOWING STARaSHOOTING STARaTHERMOMETERaBLACK DROPLETa
WHITE SUNj WITH SMALL CLOUDkBEHIND CLOUDw WITH RAINaCLOUD WITH RAINlSNOWlLIGHTNINGlTORNADOaFOGaWIN
D BLOWING FACEaHOT DOGaTACOaBURRITOaCHESTNUTaSEEDLINGaEVERGREEN TREEaDECIDUOUS TREEaPALM TREEaCACTU
SaHOT PEPPERaTULIPaCHERRY BLOSSOMaROSEaHIBISCUSaSUNFLOWERaBLOSSOMaEAR OF MAIZEhRICEaHERBaFOUR LEA
F CLOVERaMAPLE LEAFaFALLEN LEAFaLEAF FLUTTERING IN WINDaMUSHROOMaTOMATOaAUBERGINEaGRAPESaMELONaWATE
RMELONaTANGERINEaLEMONaBANANAaPINEAPPLEaRED APPLEaGREEN APPLEaPEARdCHaCHERRIESaSTRAWBERRYaHAMBURGER
aSLICE OF PIZZAaMEAT ON BONEaPOULTRY LEGaRICE CRACKERfBALLaCOOKED RICEbURRY AND RICEaSTEAMING BOWLb
PAGHETTIaBREADaFRENCH FRIESaROASTED SWEET POTATOaDANGOaODENaSUSHIaFRIED SHRIMPbISH CAKE WITH SWIR
L DESIGNaSOFT ICE CREAMbHAVED ICEaICE CREAMaDOUGHNUTaCOOKIEbHOCOLATE BARbANDYaLOLLIPOPaCUSTARDaHONE
Y POTaSHORTCAKEaBENTO BOXaPOT OF FOODaCOOKINGaFORK AND KNIFEaTEACUP WITHOUT HANDLEaSAKE BOTTLE AN
D CUPaWINE GLASSaCOCKTAIL GLASSaTROPICAL DRINKaBEER MUGaCLINKING BEER MUGSaBABY BOTTLEaFORK AND KNI
FE WITH PLATEaBOTTLE WITH POPPING CORKaPOPCORNaRIBBONaWRAPPED PRESENTaBIRTHDAY CAKEaJACK-O-LANTERNa
CHRISTMAS TREEaFATHER CHRISTMASbIREWORKSi SPARKLERaBALLOONaPARTY POPPERaCONFETTI BALLaTANABATA TREE
aCROSSED FLAGSaPINE DECORATIONaJAPANESE DOLLSaCARP STREAMERaWIND CHIMEaMOON VIEWING CEREMONYaSCHOO
L SATCHELaGRADUATION CAPaHEART WITH TIP ON THE LEFTaBOUQUET OF FLOWERSaMILITARY MEDALaREMINDER RIBB
ONaMUSICAL KEYBOARD WITH JACKSaSTUDIO MICROPHONEaLEVEL SLIDERaCONTROL KNOBSaBEAMED ASCENDING MUSICA
L NOTEShDESCENDING MUSICAL NOTESaFILM FRAMESaADMISSION TICKETSaCAROUSEL HORSEaFERRIS WHEELaROLLER C
OASTERaFISHING POLE AND FISHaMICROPHONEbOVIE CAMERAaCINEMAaHEADPHONEaARTIST PALETTEaTOP HATaCIRCU
S TENTaTICKETaCLAPPER BOARDaPERFORMING ARTSaVIDEO GAMEaDIRECT HITaSLOT MACHINEaBILLIARDSaGAME DIEaB
OWLINGaFLOWER PLAYING CARDSaMUSICAL NOTEcLTIPLE MUSICAL NOTESaSAXOPHONEaGUITARaMUSICAL KEYBOARDaTRU
MPETaVIOLINaMUSICAL SCOREaRUNNING SHIRT WITH SASHaTENNIS RACQUET AND BALLaSKI AND SKI BOOTaBASKETBA
LL AND HOOPaCHEQUERED FLAGaSNOWBOARDERaRUNNERaSURFERbPORTS MEDALaTROPHYaHORSE RACINGaAMERICAN FOOTB
ALLaRUGBY FOOTBALLaSWIMMERaWEIGHT LIFTERaGOLFERaRACING MOTORCYCLEhCARaCRICKET BAT AND BALLaVOLLEYBA
LLaFIELD HOCKEY STICK AND BALLaICE HOCKEY STICK AND PUCKaTABLE TENNIS PADDLE AND BALLaSNOW CAPPED M
OUNTAINaCAMPINGaBEACH WITH UMBRELLAbUILDING CONSTRUCTIONaHOUSE BUILDINGSaCITYSCAPEaDERELICT HOUSE B
UILDINGaCLASSICAL BUILDINGaDESERTg ISLANDaNATIONAL PARKaSTADIUMaHOUSE BUILDINGgWITH GARDENaOFFICE B
UILDINGaJAPANESE POST OFFICEaEUROPEAN POST OFFICEaHOSPITALaBANKaAUTOMATED TELLER MACHINEaHOTELaLOV
E HOTELaCONVENIENCE STOREaSCHOOLaDEPARTMENT STOREaFACTORYaIZAKAYA LANTERNaJAPANESE CASTLEaEUROPEA
N CASTLEaWHITE PENNANTaBLACK PENNANTaWAVING WHITE FLAGhBLACK FLAGaROSETTEaBLACK ROSETTEaLABELaBADMI
NTON RACQUET AND SHUTTLECOCKbOW AND ARROWaAMPHORAaEMOJI MODIFIER FITZPATRICK TYPE-1-2zh3zh4zh5zh6aR
ATaMOUSEaOXaWATER BUFFALOaCOWaTIGERaLEOPARDaRABBITaCATaDRAGONaCROCODILEaWHALEaSNAILdKEaHORSEaRAMaGO
ATaSHEEPaMONKEYaROOSTERaCHICKENaDOGaPIGaBOARaELEPHANTaOCTOPUSaSPIRAL SHELLaBUGaANTaHONEYBEEaLADY BE
ETLEaFISHaTROPICAL FISHaBLOWFISHaTURTLEaHATCHING CHICKaBABY CHICKaFRONT-FACING BABY CHICKaBIRDaPENG
UINaKOALAaPOODLEaDROMEDARY CAMELaBACTRIAN CAMELaDOLPHINaMOUSE FACEaCOW FACEaTIGER FACEaRABBIT FACEa
CAT FACEaDRAGON FACEaSPOUTING WHALEaHORSE FACEaMONKEY FACEaDOG FACEaPIG FACEaFROG FACEaHAMSTER FACE
aWOLF FACEaBEAR FACEaPANDA FACEbIG NOSEbAW PRINTSaCHIPMUNKaEYEScEbARaNOSEaMOUTHaTONGUEaWHITE UP POI
NTING BACKHAND INDEXgDOWN POINTING BACKHAND INDEXgLEFT POINTING BACKHAND INDEXgRIGHT POINTING BACKH
AND INDEXaFISTED HAND SIGNaWAVING HAND SIGNaOK HAND SIGNaTHUMBS UP SIGNhDOWN SIGNaCLAPPING HANDS SI
GNaOPEN HANDS SIGNaCROWNaWOMANS HATaEYEGLASSESaNECKTIEaT-SHIRTaJEANSaDRESSaKIMONOaBIKINIaWOMANS CLO
THESaPURSEaHANDBAGaPOUCHaMANS SHOEaATHLETIC SHOEaHIGH-HEELED SHOEaWOMANS SANDALhBOOTSaFOOTPRINTSaBU
ST IN SILHOUETTEeS IN SILHOUETTEbOYaGIRLaMANaWOMANaFAMILYaMAN AND WOMAN HOLDING HANDSaTWO MEN HOLDI
NG HANDSeWOMEN HOLDING HANDSaPOLICE OFFICERaWOMAN WITH BUNNY EARSaBRIDE WITH VEILaPERSON WITH BLON
D HAIRaMAN WITH GUA PI MAOjTURBANaOLDER MANgWOMANaBABYaCONSTRUCTION WORKERaPRINCESSaJAPANESE OGREjG
OBLINaGHOSTaBABY ANGELaEXTRATERRESTRIAL ALIENaALIEN MONSTERaIMPaSKULLaINFORMATION DESK PERSONaGUARD
SMANaDANCERaLIPSTICKaNAIL POLISHaFACE MASSAGEaHAIRCUTaBARBER POLEaSYRINGEaPILLaKISS MARKaLOVE LETTE
RaRINGaGEM STONEaKISSaBOUQUETaCOUPLE WITH HEARTaWEDDINGaBEATING HEARTbROKEN HEARTaTWO HEARTSaSPARKL
ING HEARTaGROWING HEARTaHEART WITH ARROWaBLUE HEARTaGREEN HEARTaYELLOW HEARTaPURPLE HEARTaHEART WIT
H RIBBONaREVOLVING HEARTSaHEART DECORATIONaDIAMOND SHAPE WITH A DOT INSIDEaELECTRIC LIGHT BULBaANGE
R SYMBOLaBOMBaSLEEPING SYMBOLaCOLLISION SYMBOLaSPLASHING SWEAT SYMBOLaDROPLETbASH SYMBOLaPILE OF PO
OaFLEXED BICEPSaDIZZY SYMBOLaSPEECH BALLOONaTHOUGHT BALLOONaWHITE FLOWERaHUNDRED POINTS SYMBOLaMONE
Y BAGaCURRENCY EXCHANGEaHEAVY DOLLAR SIGNaCREDIT CARDaBANKNOTE WITH YEN SIGNoDOLLAR SIGNoEURO SIGNo
POUND SIGNaMONEY WITH WINGSaCHART WITH UPWARDS TREND AND YEN SIGNaSEATaPERSONAL COMPUTERaBRIEFCASEa
MINIDISCaFLOPPY DISKaOPTICAL DISCaDVDaFILE FOLDERaOPEN FILE FOLDERaPAGE WITH CURLfFACING UPaCALENDA
RaTEAR-OFF CALENDARaCARD INDEXbHART WITH UPWARDS TRENDlDOWNWARDS TRENDaBAR CHARTaCLIPBOARDaPUSHPINa
ROUND PUSHPINaPAPERCLIPaSTRAIGHT RULERaTRIANGULAR RULERaBOOKMARK TABSaLEDGERaNOTEBOOKi WITH DECORAT
IVE COVERaCLOSED BOOKaOPEN BOOKaGREEN BOOKaBLUE BOOKaORANGE BOOKaBOOKSaNAME BADGEaSCROLLaMEMOaTELEP
HONE RECEIVERaPAGERaFAX MACHINEaSATELLITE ANTENNAaPUBLIC ADDRESS LOUDSPEAKERaCHEERING MEGAPHONEaOUT
BOX TRAYaINBOX TRAYaPACKAGEaE-MAIL SYMBOLaINCOMING ENVELOPEaENVELOPE WITH DOWNWARDS ARROW ABOVEaCLO
SED MAILBOX WITH LOWERED FLAGuRAISED FLAGaOPEN MAILBOX WITH RAISED FLAGsLOWERED FLAGaPOSTBOXeAL HOR
NaNEWSPAPERaMOBILE PHONEm WITH RIGHTWARDS ARROW AT LEFTaVIBRATION MODEaMOBILE PHONE OFFaNO MOBILE P
HONESaANTENNA WITH BARSaCAMERAg WITH FLASHaVIDEO CAMERAaTELEVISIONaRADIOaVIDEOCASSETTEaFILM PROJECT
ORaPORTABLE STEREObRAYER BEADSaTWISTED RIGHTWARDS ARROWSaCLOCKWISE RIGHTWARDS AND LEFTWARDS OPEN CI
RCLE ARROWSzzd WITH CIRCLED ONE OVERLAYkDOWNWARDS AND UPWARDS OPEN CIRCLE ARROWSaANTICLOCKWISE DOWN
WARDS AND UPWARDS OPEN CIRCLE ARROWSaLOW BRIGHTNESS SYMBOLaHIGH BRIGHTNESS SYMBOLaSPEAKER WITH CANC
ELLATION STROKEgRh WITH ONE SOUND WAVEnTHREE SOUND WAVESaBATTERYaELECTRIC PLUGaLEFT-POINTING MAGNIF
YING GLASSaRIGHT-POINTING MAGNIFYING GLASSaLOCK WITH INK PENaCLOSED LOCK WITH KEYaKEYaLOCKaOPEN LOC
KaBELLe WITH CANCELLATION STROKEbOOKMARKaLINK SYMBOLaRADIO BUTTONaBACK WITH LEFTWARDS ARROW ABOVEaE
ND WITH LEFTWARDS ARROW ABOVEaON WITH EXCLAMATION MARK WITH LEFT RIGHT ARROW ABOVEaSOON WITH RIGHTW
ARDS ARROW ABOVEaTOP WITH UPWARDS ARROW ABOVEaNO ONE UNDER EIGHTEEN SYMBOLaKEYCAP TENaINPUT SYMBO
L FOR LATIN CAPITAL LETTERSxSMALL LETTERSrNUMBERSrSYMBOLSrLATIN LETTERSaFIREaELECTRIC TORCHaWRENCHa
HAMMERaNUT AND BOLTaHOCHOaPISTOLaMICROSCOPEaTELESCOPEaCRYSTAL BALLaSIX POINTED STAR WITH MIDDLE DOT
aJAPANESE SYMBOL FOR BEGINNERaTRIDENT EMBLEMaBLACK SQUARE BUTTONaWHITE SQUARE BUTTONaLARGE RED CIRC
LEgBLUE CIRCLEgORANGE DIAMONDgBLUE DIAMONDaSMALL ORANGE DIAMONDgBLUE DIAMONDaUP-POINTING RED TRIANG
LEaDOWN-POINTING RED TRIANGLEaUP-POINTING SMALL RED TRIANGLEaDOWN-POINTING SMALL RED TRIANGLEaLOWE
R RIGHT SHADOWED WHITE CIRCLEaUPPER RIGHT SHADOWED WHITE CIRCLEaCIRCLED CROSS POMMEEbROSS POMMEE WI
TH HALF-CIRCLE BELOWlEaNOTCHED LEFT SEMICIRCLE WITH THREE DOTSiRIGHT SEMICIRCLE WITH THREE DOTSaSYM
BOL FOR MARKS CHAPTERaWHITE LATIN CROSSaHEAVY LATIN CROSSaCELTIC CROSSaOM SYMBOLaDOVE OF PEACEaKAAB
AaMOSQUEaSYNAGOGUEaMENORAH WITH NINE BRANCHESaBOWL OF HYGIEIAaCLOCK FACE ONE OCLOCKlTWO OCLOCKmHRE
E OCLOCKlFOUR OCLOCKmIVE OCLOCKlSIX OCLOCKmEVEN OCLOCKlEIGHT OCLOCKlNINE OCLOCKlTEN OCLOCKlELEVEN O
CLOCKlTWELVE OCLOCKlONE-THIRTYlTWO-THIRTYmHREE-THIRTYlFOUR-THIRTYmIVE-THIRTYlSIX-THIRTYmEVEN-THIRTY
lEIGHT-THIRTYlNINE-THIRTYlTEN-THIRTYlELEVEN-THIRTYlTWELVE-THIRTYaRIGHT SPEAKERn WITH ONE SOUND WAVE
tTHREE SOUND WAVESaBULLHORNi WITH SOUND WAVESaRINGING BELLaBOOKaCANDLEaMANTELPIECE CLOCKaBLACK SKUL
L AND CROSSBONESaNO PIRACYaHOLEaMAN IN BUSINESS SUIT LEVITATINGaSLEUTH OR SPYaDARK SUNGLASSESaSPIDE
Rg WEBaJOYSTICKaMAN DANCINGaLEFT HAND TELEPHONE RECEIVERaTELEPHONE RECEIVER WITH PAGEaRIGHT HAND TE
LEPHONE RECEIVERaWHITE TOUCHTONE TELEPHONEaBLACK TOUCHTONE TELEPHONEaTELEPHONE ON TOP OF MODEMaCLAM
SHELL MOBILE PHONEaBACK OF ENVELOPEaSTAMPED ENVELOPEaENVELOPE WITH LIGHTNINGaFLYING ENVELOPEaPEN OV
ER STAMPED ENVELOPEaLINKED PAPERCLIPSaBLACK PUSHPINaLOWER LEFT PENCILlBALLPOINT PENlFOUNTAIN PENlPA
INTBRUSHlCRAYONbEFT WRITING HANDaTURNED OK HAND SIGNaRAISED HAND WITH FINGERS SPLAYEDbEVERSED RAISE
D HAND WITH FINGERS SPLAYEDjTHUMBS UP SIGNqDOWN SIGNjVICTORY HANDjHAND WITH MIDDLE FINGER EXTENDEDb
AISED HAND WITH PART BETWEEN MIDDLE AND RING FINGERSaWHITE DOWN POINTING LEFT HAND INDEXaSIDEWAYS W
HITE LEFT POINTING INDEXpRIGHT POINTING INDEXjBLACK LEFT POINTING INDEXpRIGHT POINTING INDEXaBLAC
K LEFT POINTING BACKHAND INDEXgRIGHT POINTING BACKHAND INDEXaSIDEWAYS WHITE UP POINTING INDEXpDOW
N POINTING INDEXjBLACK UP POINTING INDEXpDOWN POINTING INDEXaBLACK UP POINTING BACKHAND INDEXgDOW
N POINTING BACKHAND INDEXgHEARTaDESKTOP COMPUTERaKEYBOARD AND MOUSEaTHREE NETWORKED COMPUTERSaPRINT
ERbOCKET CALCULATORaBLACK HARD SHELL FLOPPY DISKaWHITE HARD SHELL FLOPPY DISKaSOFT SHELL FLOPPY DIS
KaTAPE CARTRIDGEaWIRED KEYBOARDaONE BUTTON MOUSEaTWO BUTTON MOUSEbHREE BUTTON MOUSEbRACKBALLaOLD PE
RSONAL COMPUTERaHARD DISKaSCREENaPRINTER ICONaFAX ICONaOPTICAL DISC ICONaDOCUMENT WITH TEXTs AND PI
CTUREoPICTUREaFRAME WITH PICTURElTILESlAN XaBLACK FOLDERaFOLDERaOPEN FOLDERaCARD INDEX DIVIDERSfFIL
E BOXaFILE CABINETaEMPTY NOTEk PAGEnDaNOTEe PAGEhDaEMPTY DOCUMENTgPAGEkSaDOCUMENTaPAGEeSaWASTEBASKE
TaSPIRAL NOTE PADhCALENDAR PADaDESKTOP WINDOWaMINIMIZEbAXIMIZEaOVERLAPaCLOCKWISE RIGHT AND LEFT SEM
ICIRCLE ARROWSbANCELLATION XaINCREASE FONT SIZE SYMBOLaDECREASE FONT SIZE SYMBOLaCOMPRESSIONaOLD KE
YaROLLED-UP NEWSPAPERaPAGE WITH CIRCLED TEXTaSTOCK CHARTaDAGGER KNIFEaLIPSaSPEAKING HEAD IN SILHOUE
TTEaTHREE RAYS ABOVElBELOWlLEFTlRIGHTaLEFT SPEECH BUBBLEaRIGHT SPEECH BUBBLEaTWO SPEECH BUBBLESbHRE
E SPEECH BUBBLESaLEFT THOUGHT BUBBLEaRIGHT THOUGHT BUBBLEaLEFT ANGER BUBBLEaRIGHT ANGER BUBBLEaMOO
D BUBBLEaLIGHTNING MOOD BUBBLEnDaBALLOT BOX WITH BALLOThSCRIPT XhBOX WITH SCRIPT XjLD SCRIPT XjX WI
TH BOLD SCRIPT XaLIGHT CHECK MARKaBALLOT BOX WITH BOLD CHECKaWORLD MAPaMOUNT FUJIaTOKYO TOWERaSTATU
E OF LIBERTYbILHOUETTE OF JAPANaMOYAIaGRINNING FACEn WITH SMILING EYESaFACE WITH TEARS OF JOYaSMILI
NG FACE WITH OPEN MOUTHzd AND SMILING EYESziCOLD SWEATziTIGHTLY-CLOSED EYESsHALOtORNSaWINKING FACEa
SMILING FACE WITH SMILING EYESaFACE SAVOURING DELICIOUS FOODaRELIEVED FACEaSMILING FACE WITH HEART-
SHAPED EYESsSUNGLASSESdRKING FACEaNEUTRAL FACEaEXPRESSIONLESS FACEaUNAMUSED FACEaFACE WITH COLD SWE
ATaPENSIVE FACEaCONFUSED FACEeOUNDED FACEaKISSING FACEaFACE THROWING A KISSaKISSING FACE WITH SMILI
NG EYESsCLOSED EYESaFACE WITH STUCK-OUT TONGUEzb AND WINKING EYEzgTIGHTLY-CLOSED EYESaDISAPPOINTE
D FACEaWORRIED FACEaANGRY FACEaPOUTING FACEaCRYING FACEaPERSEVERING FACEaFACE WITH LOOK OF TRIUMPHa
DISAPPOINTED BUT RELIEVED FACEaFROWNING FACE WITH OPEN MOUTHaANGUISHED FACEaFEARFUL FACEaWEARY FACE
aSLEEPY FACEaTIRED FACEaGRIMACING FACEaLOUDLY CRYING FACEaFACE WITH OPEN MOUTHaHUSHED FACEaFACE WIT
H OPEN MOUTH AND COLD SWEATfSCREAMING IN FEARaASTONISHED FACEaFLUSHED FACEaSLEEPING FACEaDIZZY FACE
aFACE WITHOUT MOUTHj MEDICAL MASKaGRINNING CAT FACE WITH SMILING EYESaCAT FACE WITH TEARS OF JOYaSM
ILING CAT FACE WITH OPEN MOUTHwHEART-SHAPED EYESaCAT FACE WITH WRY SMILEaKISSING CAT FACE WITH CLOS
ED EYESaPOUTING CAT FACEaCRYING CAT FACEaWEARY CAT FACEaSLIGHTLY FROWNING FACEjSMILING FACEaUPSIDE-
DOWN FACEaFACE WITH ROLLING EYESkNO GOOD GESTUREkOK GESTUREaPERSON BOWING DEEPLYaSEE-NO-EVIL MONKEY
aHEAR-NO-EVIL MONKEYaSPEAK-NO-EVIL MONKEYaHAPPY PERSON RAISING ONE HANDaPERSON RAISING BOTH HANDS I
N CELEBRATIONhFROWNINGhWITH POUTING FACEmFOLDED HANDSaNORTH WEST POINTING LEAFaSOUTH WEST POINTIN
G LEAFaNORTH EAST POINTING LEAFaSOUTH EAST POINTING LEAFaTURNED NORTH WEST POINTING LEAFhSOUTH WES
T POINTING LEAFhNORTH EAST POINTING LEAFhSOUTH EAST POINTING LEAFaNORTH WEST POINTING VINE LEAFaSOU
TH WEST POINTING VINE LEAFaNORTH EAST POINTING VINE LEAFaSOUTH EAST POINTING VINE LEAFaHEAVY NORT
H WEST POINTING VINE LEAFgSOUTH WEST POINTING VINE LEAFgNORTH EAST POINTING VINE LEAFgSOUTH EAST PO
INTING VINE LEAFaNORTH WEST POINTING BUDaSOUTH WEST POINTING BUDaNORTH EAST POINTING BUDaSOUTH EAS
T POINTING BUDaHEAVY NORTH WEST POINTING BUDgSOUTH WEST POINTING BUDgNORTH EAST POINTING BUDgSOUT
H EAST POINTING BUDbOLLOW QUILT SQUARE ORNAMENTzd IN BLACK SQUAREaSOLID QUILT SQUARE ORNAMENTzc I
N BLACK SQUAREaLEFTWARDS ROCKETaUPWARDS ROCKETaRIGHTWARDS ROCKETaDOWNWARDS ROCKETaSCRIPT LIGATURE E
T ORNAMENTaHEAVY SCRIPT LIGATURE ET ORNAMENTaLIGATURE OPEN ET ORNAMENTaHEAVY LIGATURE OPEN ET ORNAM
ENTgAMPERSAND ORNAMENTaSWASH AMPERSAND ORNAMENTbANS-SERIF HEAVY DOUBLE TURNED COMMA QUOTATION MAR
K ORNAMENTyCOMMA QUOTATION MARK ORNAMENTrLOW DOUBLE COMMA QUOTATION MARK ORNAMENTaHEAVY INTERROBAN
G ORNAMENTaSANS-SERIF INTERROBANG ORNAMENTaHEAVY SANS-SERIF INTERROBANG ORNAMENTaVERY HEAVY SOLIDUS
lREVERSE SOLIDUSaCHECKER BOARDaREVERSE CHECKER BOARDbOCKETaHELICOPTERaSTEAM LOCOMOTIVEaRAILWAY CARa
HIGH-SPEED TRAINq WITH BULLET NOSEaTRAINaMETROaLIGHT RAILaSTATIONaTRAMe CARaBUSaONCOMING BUSaTROLLE
YBUSaBUS STOPaMINIBUSaAMBULANCEaFIRE ENGINEaPOLICE CARaONCOMING POLICE CARaTAXIaONCOMING TAXIaAUTOM
OBILEaONCOMING AUTOMOBILEaRECREATIONAL VEHICLEaDELIVERY TRUCKaARTICULATED LORRYaTRACTORaMONORAILcUN
TAIN RAILWAYaSUSPENSION RAILWAYaMOUNTAIN CABLEWAYaAERIAL TRAMWAYaSHIPaROWBOATaSPEEDBOATaHORIZONTA
L TRAFFIC LIGHTaVERTICAL TRAFFIC LIGHTaCONSTRUCTION SIGNaPOLICE CARS REVOLVING LIGHTaTRIANGULAR FLA
G ON POSTaDOORaNO ENTRY SIGNaSMOKING SYMBOLaNO SMOKING SYMBOLaPUT LITTER IN ITS PLACE SYMBOLaDO NO
T LITTER SYMBOLaPOTABLE WATER SYMBOLaNON-POTABLE WATER SYMBOLaBICYCLEaNO BICYCLESaBICYCLISTaMOUNTAI
N BICYCLISTaPEDESTRIANaNO PEDESTRIANSaCHILDREN CROSSINGaMENS SYMBOLaWOMENS SYMBOLaRESTROOMaBABY SYM
BOLaTOILETaWATER CLOSETaSHOWERaBATHeTUBaPASSPORT CONTROLaCUSTOMSaBAGGAGE CLAIMaLEFT LUGGAGEaTRIANGL
E WITH ROUNDED CORNERSaPROHIBITED SIGNaCIRCLED INFORMATION SOURCEaBOYS SYMBOLaGIRLS SYMBOLaCOUCH AN
D LAMPaSLEEPING ACCOMMODATIONbHOPPING BAGSaBELLHOP BELLcDaPLACE OF WORSHIPaOCTAGONAL SIGNaSHOPPIN
G TROLLEYbTUPAaPAGODAaHINDU TEMPLEbUTaELEVATOR.1F6DDaPLAYGROUND SLIDEaWHEELaRING BUOYaHAMMER AND WR
ENCHaSHIELDaOIL DRUMaMOTORWAYaRAILWAY TRACKaMOTOR BOATaUP-POINTING MILITARY AIRPLANEmAIRPLANEmSMAL
L AIRPLANEaSMALL AIRPLANEaNORTHEAST-POINTING AIRPLANEaAIRPLANE DEPARTUREjARRIVING.1F6F0aSATELLITEaO
NCOMING FIRE ENGINEaDIESEL LOCOMOTIVEaPASSENGER SHIPaSCOOTERaMOTOR SCOOTERaCANOEaSLEDaFLYING SAUCER
aSKATEBOARDaAUTO RICKSHAWaPICKUP TRUCKaROLLER SKATE.1F700aALCHEMICAL SYMBOL FOR QUINTESSENCEwAIRwFI
REwEARTHwWATERwAQUAFORTISzb REGIAzh-2zcVITAEzh-2wVINEGARze-2zf3wSULFURwPHILOSOPHERS SULFURwBLACK SU
LFURwMERCURY SUBLIMATEzo-2zp3wCINNABARwSALTwNITREwVITRIOLze-2wROCK SALTzg-2wGOLDwSILVERwIRON OREzf-
2wCROCUS OF IRONwREGULUS OF IRONwCOPPER OREwIRON-COPPER OREwSUBLIMATE OF COPPERwCROCUS OF COPPERzn-
2xOPPER ANTIMONIATEwSALT OF COPPER ANTIMONIATExUBLIMATE OF SALT OF COPPERwVERDIGRISwTIN OREwLEAD OR
EwANTIMONY OREwSUBLIMATE OF ANTIMONYxALT OF ANTIMONYxUBLIMATE OF SALT OF ANTIMONYwVINEGAR OF ANTIMO
NYwREGULUS OF ANTIMONYzq-2zdSze-2zf3zf4wALKALIzd-2wMARCASITEwSAL-AMMONIACwARSENICwREALGARze-2wAURIP
IGMENTwBISMUTH OREwTARTARzd-2wQUICK LIMEwBORAXzc-2zd3wALUMwOILwSPIRITwTINCTUREwGUMwWAXwPOWDERwCALXw
TUTTYwCAPUT MORTUUMwSCEPTER OF JOVEwCADUCEUSwTRIDENTwSTARRED TRIDENTwLODESTONEwSOAPwURINEwHORSE DUN
GwASHESwPOT ASHESwBRICKwPOWDERED BRICKwAMALGAMwSTRATUM SUPER STRATUMzs-2xUBLIMATIONwPRECIPITATEwDIS
TILLzaSOLVEzf-2wPURIFYyTREFACTIONwCRUCIBLEzf-2zg3zg4zg5wALEMBICwBATH OF MARYzfVAPOURSwRETORTwHOURwN
IGHTwDAY-NIGHTwMONTHwHALF DRAMzcOUNCE.1F780aBLACK LEFT-POINTING ISOSCELES RIGHT TRIANGLEgUP-POINTIN
G ISOSCELES RIGHT TRIANGLEgRIGHT-POINTING ISOSCELES RIGHT TRIANGLEgDOWN-POINTING ISOSCELES RIGHT TR
IANGLEgSLIGHTLY SMALL CIRCLEaMEDIUM BOLD WHITE CIRCLEaBOLD WHITE CIRCLEaHEAVY WHITE CIRCLEaVERY HEA
VY WHITE CIRCLEaEXTREMELY HEAVY WHITE CIRCLEaWHITE CIRCLE CONTAINING BLACK SMALL CIRCLEaROUND TARGE
TaBLACK TINY SQUAREgSLIGHTLY SMALL SQUAREaLIGHT WHITE SQUAREaMEDIUM WHITE SQUAREaBOLD WHITE SQUAREa
HEAVY WHITE SQUAREaVERY HEAVY WHITE SQUAREaEXTREMELY HEAVY WHITE SQUAREaWHITE SQUARE CONTAINING BLA
CK VERY SMALL SQUAREzfMEDIUM SQUAREaSQUARE TARGETaBLACK TINY DIAMONDgVERY SMALL DIAMONDgMEDIUM SMAL
L DIAMONDaWHITE DIAMOND CONTAINING BLACK VERY SMALL DIAMONDzgMEDIUM DIAMONDaDIAMOND TARGETaBLACK TI
NY LOZENGEgVERY SMALL LOZENGEgMEDIUM SMALL LOZENGEaWHITE LOZENGE CONTAINING BLACK SMALL LOZENGEaTHI
N GREEK CROSSaLIGHT GREEK CROSSaMEDIUM GREEK CROSSaBOLD GREEK CROSSaVERY BOLD GREEK CROSSfHEAVY GRE
EK CROSSaEXTREMELY HEAVY GREEK CROSSaTHIN SALTIREaLIGHT SALTIREaMEDIUM SALTIREaBOLD SALTIREaHEAVY S
ALTIREaVERY HEAVY SALTIREaEXTREMELY HEAVY SALTIREaLIGHT FIVE SPOKED ASTERISKaMEDIUM FIVE SPOKED AST
ERISKaBOLD FIVE SPOKED ASTERISKaHEAVY FIVE SPOKED ASTERISKaVERY HEAVY FIVE SPOKED ASTERISKaEXTREMEL
Y HEAVY FIVE SPOKED ASTERISKaLIGHT SIX SPOKED ASTERISKaMEDIUM SIX SPOKED ASTERISKaBOLD SIX SPOKED A
STERISKaHEAVY SIX SPOKED ASTERISKaVERY HEAVY SIX SPOKED ASTERISKaEXTREMELY HEAVY SIX SPOKED ASTERIS
KaLIGHT EIGHT SPOKED ASTERISKaMEDIUM EIGHT SPOKED ASTERISKaBOLD EIGHT SPOKED ASTERISKaHEAVY EIGHT S
POKED ASTERISKaVERY HEAVY EIGHT SPOKED ASTERISKaLIGHT THREE POINTED BLACK STARaMEDIUM THREE POINTE
D BLACK STARaTHREE POINTED BLACK STARaMEDIUM THREE POINTED PINWHEEL STARaLIGHT FOUR POINTED BLACK S
TARaMEDIUM FOUR POINTED BLACK STARaFOUR POINTED BLACK STARaMEDIUM FOUR POINTED PINWHEEL STARaREVERS
E LIGHT FOUR POINTED PINWHEEL STARaLIGHT FIVE POINTED BLACK STARaHEAVY FIVE POINTED BLACK STARaMEDI
UM SIX POINTED BLACK STARaHEAVY SIX POINTED BLACK STARaSIX POINTED PINWHEEL STARaMEDIUM EIGHT POINT
ED BLACK STARaHEAVY EIGHT POINTED BLACK STARaVERY HEAVY EIGHT POINTED BLACK STARaHEAVY EIGHT POINTE
D PINWHEEL STARaLIGHT TWELVE POINTED BLACK STARaHEAVY TWELVE POINTED BLACK STARvPINWHEEL STARaCIRCL
ED TRIANGLEaNEGATIVE CIRCLED TRIANGLEaCIRCLED SQUAREaNEGATIVE CIRCLED SQUARE.1F7E0aLARGE ORANGE CIR
CLEgYELLOW CIRCLEgGREEN CIRCLEgPURPLE CIRCLEgBROWN CIRCLEgRED SQUAREgBLUE SQUAREgORANGE SQUAREgYELL
OW SQUAREgGREEN SQUAREgPURPLE SQUAREgBROWN SQUARE.1F7F0aHEAVY EQUALS SIGN.1F800aLEFTWARDS ARROW WIT
H SMALL TRIANGLE ARROWHEADaUPWARDS ARROW WITH SMALL TRIANGLE ARROWHEADaRIGHTWARDS ARROW WITH SMAL
L TRIANGLE ARROWHEADaDOWNWARDS ARROW WITH SMALL TRIANGLE ARROWHEADaLEFTWARDS ARROW WITH MEDIUM TRIA
NGLE ARROWHEADaUPWARDS ARROW WITH MEDIUM TRIANGLE ARROWHEADaRIGHTWARDS ARROW WITH MEDIUM TRIANGLE A
RROWHEADaDOWNWARDS ARROW WITH MEDIUM TRIANGLE ARROWHEADaLEFTWARDS ARROW WITH LARGE TRIANGLE ARROWHE
ADaUPWARDS ARROW WITH LARGE TRIANGLE ARROWHEADaRIGHTWARDS ARROW WITH LARGE TRIANGLE ARROWHEADaDOWNW
ARDS ARROW WITH LARGE TRIANGLE ARROWHEAD.1F810aLEFTWARDS ARROW WITH SMALL EQUILATERAL ARROWHEADaUPW
ARDS ARROW WITH SMALL EQUILATERAL ARROWHEADaRIGHTWARDS ARROW WITH SMALL EQUILATERAL ARROWHEADaDOWNW
ARDS ARROW WITH SMALL EQUILATERAL ARROWHEADaLEFTWARDS ARROW WITH EQUILATERAL ARROWHEADaUPWARDS ARRO
W WITH EQUILATERAL ARROWHEADaRIGHTWARDS ARROW WITH EQUILATERAL ARROWHEADaDOWNWARDS ARROW WITH EQUIL
ATERAL ARROWHEADaHEAVY LEFTWARDS ARROW WITH EQUILATERAL ARROWHEADgUPWARDS ARROW WITH EQUILATERAL AR
ROWHEADgRIGHTWARDS ARROW WITH EQUILATERAL ARROWHEADgDOWNWARDS ARROW WITH EQUILATERAL ARROWHEADgLEFT
WARDS ARROW WITH LARGE EQUILATERAL ARROWHEADgUPWARDS ARROW WITH LARGE EQUILATERAL ARROWHEADgRIGHTWA
RDS ARROW WITH LARGE EQUILATERAL ARROWHEADgDOWNWARDS ARROW WITH LARGE EQUILATERAL ARROWHEADaLEFTWAR
DS TRIANGLE-HEADED ARROW WITH NARROW SHAFTaUPWARDS TRIANGLE-HEADED ARROW WITH NARROW SHAFTaRIGHTWAR
DS TRIANGLE-HEADED ARROW WITH NARROW SHAFTaDOWNWARDS TRIANGLE-HEADED ARROW WITH NARROW SHAFTaLEFTWA
RDS TRIANGLE-HEADED ARROW WITH MEDIUM SHAFTaUPWARDS TRIANGLE-HEADED ARROW WITH MEDIUM SHAFTaRIGHTWA
RDS TRIANGLE-HEADED ARROW WITH MEDIUM SHAFTaDOWNWARDS TRIANGLE-HEADED ARROW WITH MEDIUM SHAFTaLEFTW
ARDS TRIANGLE-HEADED ARROW WITH BOLD SHAFTaUPWARDS TRIANGLE-HEADED ARROW WITH BOLD SHAFTaRIGHTWARD
S TRIANGLE-HEADED ARROW WITH BOLD SHAFTaDOWNWARDS TRIANGLE-HEADED ARROW WITH BOLD SHAFTaLEFTWARDS T
RIANGLE-HEADED ARROW WITH HEAVY SHAFTaUPWARDS TRIANGLE-HEADED ARROW WITH HEAVY SHAFTaRIGHTWARDS TRI
ANGLE-HEADED ARROW WITH HEAVY SHAFTaDOWNWARDS TRIANGLE-HEADED ARROW WITH HEAVY SHAFTaLEFTWARDS TRIA
NGLE-HEADED ARROW WITH VERY HEAVY SHAFTaUPWARDS TRIANGLE-HEADED ARROW WITH VERY HEAVY SHAFTaRIGHTWA
RDS TRIANGLE-HEADED ARROW WITH VERY HEAVY SHAFTaDOWNWARDS TRIANGLE-HEADED ARROW WITH VERY HEAVY SHA
FTaLEFTWARDS FINGER-POST ARROWaUPWARDS FINGER-POST ARROWaRIGHTWARDS FINGER-POST ARROWaDOWNWARDS FIN
GER-POST ARROWaLEFTWARDS SQUARED ARROWaUPWARDS SQUARED ARROWaRIGHTWARDS SQUARED ARROWaDOWNWARDS SQU
ARED ARROWaLEFTWARDS COMPRESSED ARROWaUPWARDS COMPRESSED ARROWaRIGHTWARDS COMPRESSED ARROWaDOWNWARD
S COMPRESSED ARROWaLEFTWARDS HEAVY COMPRESSED ARROWaUPWARDS HEAVY COMPRESSED ARROWaRIGHTWARDS HEAV
Y COMPRESSED ARROWaDOWNWARDS HEAVY COMPRESSED ARROWaLEFTWARDS HEAVY ARROWaUPWARDS HEAVY ARROWaRIGHT
WARDS HEAVY ARROWaDOWNWARDS HEAVY ARROW.1F850aLEFTWARDS SANS-SERIF ARROWaUPWARDS SANS-SERIF ARROWaR
IGHTWARDS SANS-SERIF ARROWaDOWNWARDS SANS-SERIF ARROWaNORTH WEST SANS-SERIF ARROWgEAST SANS-SERIF A
RROWaSOUTH EAST SANS-SERIF ARROWgWEST SANS-SERIF ARROWaLEFT RIGHT SANS-SERIF ARROWaUP DOWN SANS-SER
IF ARROW.1F860aWIDE-HEADED LEFTWARDS LIGHT BARB ARROWmUPWARDS LIGHT BARB ARROWmRIGHTWARDS LIGHT BAR
B ARROWmDOWNWARDS LIGHT BARB ARROWmNORTH WEST LIGHT BARB ARROWsEAST LIGHT BARB ARROWmSOUTH EAST LIG
HT BARB ARROWsWEST LIGHT BARB ARROWmLEFTWARDS BARB ARROWmUPWARDS BARB ARROWmRIGHTWARDS BARB ARROWmD
OWNWARDS BARB ARROWmNORTH WEST BARB ARROWsEAST BARB ARROWmSOUTH EAST BARB ARROWsWEST BARB ARROWmLEF
TWARDS MEDIUM BARB ARROWmUPWARDS MEDIUM BARB ARROWmRIGHTWARDS MEDIUM BARB ARROWmDOWNWARDS MEDIUM BA
RB ARROWmNORTH WEST MEDIUM BARB ARROWsEAST MEDIUM BARB ARROWmSOUTH EAST MEDIUM BARB ARROWsWEST MEDI
UM BARB ARROWmLEFTWARDS HEAVY BARB ARROWmUPWARDS HEAVY BARB ARROWmRIGHTWARDS HEAVY BARB ARROWmDOWNW
ARDS HEAVY BARB ARROWmNORTH WEST HEAVY BARB ARROWsEAST HEAVY BARB ARROWmSOUTH EAST HEAVY BARB ARROW
sWEST HEAVY BARB ARROWmLEFTWARDS VERY HEAVY BARB ARROWmUPWARDS VERY HEAVY BARB ARROWmRIGHTWARDS VER
Y HEAVY BARB ARROWmDOWNWARDS VERY HEAVY BARB ARROWmNORTH WEST VERY HEAVY BARB ARROWsEAST VERY HEAV
Y BARB ARROWmSOUTH EAST VERY HEAVY BARB ARROWsWEST VERY HEAVY BARB ARROW.1F890aLEFTWARDS TRIANGLE A
RROWHEADaUPWARDS TRIANGLE ARROWHEADaRIGHTWARDS TRIANGLE ARROWHEADaDOWNWARDS TRIANGLE ARROWHEADaLEFT
WARDS WHITE ARROW WITHIN TRIANGLE ARROWHEADaUPWARDS WHITE ARROW WITHIN TRIANGLE ARROWHEADaRIGHTWARD
S WHITE ARROW WITHIN TRIANGLE ARROWHEADaDOWNWARDS WHITE ARROW WITHIN TRIANGLE ARROWHEADaLEFTWARDS A
RROW WITH NOTCHED TAILaUPWARDS ARROW WITH NOTCHED TAILaRIGHTWARDS ARROW WITH NOTCHED TAILaDOWNWARD
S ARROW WITH NOTCHED TAILaHEAVY ARROW SHAFT WIDTH ONEyTWO THIRDSyONE HALFzdTHIRDaLEFTWARDS BOTTOM-S
HADED WHITE ARROWaRIGHTWARDS BOTTOM SHADED WHITE ARROWaLEFTWARDS TOP SHADED WHITE ARROWaRIGHTWARD
S TOP SHADED WHITE ARROWaLEFTWARDS LEFT-SHADED WHITE ARROWaRIGHTWARDS RIGHT-SHADED WHITE ARROWaLEFT
WARDS RIGHT-SHADED WHITE ARROWaRIGHTWARDS LEFT-SHADED WHITE ARROWaLEFTWARDS BACK-TILTED SHADOWED WH
ITE ARROWaRIGHTWARDS BACK-TILTED SHADOWED WHITE ARROWaLEFTWARDS FRONT-TILTED SHADOWED WHITE ARROWaR
IGHTWARDS FRONT-TILTED SHADOWED WHITE ARROWaWHITE ARROW SHAFT WIDTH ONEyTWO THIRDS.1F8B0aARROW POIN
TING UPWARDS THEN NORTH WESTpRIGHTWARDS THEN CURVING SOUTH WEST.1F900aCIRCLED CROSS FORMEE WITH FOU
R DOTSzbTWO DOTStEaLEFT HALF CIRCLE WITH FOUR DOTSwTHREE DOTSxWO DOTSwDOTpEaDOWNWARD FACING HOOKqNO
TCHED HOOKqHOOK WITH DOTqNOTCHED HOOK WITH DOTaPINCHED FINGERSaWHITE HEARTaBROWN HEARTaPINCHING HAN
DaZIPPER-MOUTH FACEaMONEY-MOUTH FACEaFACE WITH THERMOMETERaNERD FACEaTHINKING FACEaFACE WITH HEAD-B
ANDAGEaROBOT FACEaHUGGING FACEaSIGN OF THE HORNSaCALL ME HANDaRAISED BACK OF HANDaLEFT-FACING FISTa
RIGHT-FACING FISTaHANDSHAKEe WITH INDEX AND MIDDLE FINGERS CROSSEDaI LOVE YOU HAND SIGNaFACE WITH C
OWBOY HATaCLOWN FACEaNAUSEATED FACEaROLLING ON THE FLOOR LAUGHINGaDROOLING FACEaLYING FACEaFACE PAL
MaSNEEZING FACEaFACE WITH ONE EYEBROW RAISEDaGRINNING FACE WITH STAR EYEStONE LARGE AND ONE SMALL E
YEaFACE WITH FINGER COVERING CLOSED LIPSaSERIOUS FACE WITH SYMBOLS COVERING MOUTHbMILING FACE WIT
H SMILING EYES AND HAND COVERING MOUTHaFACE WITH OPEN MOUTH VOMITINGaSHOCKED FACE WITH EXPLODING HE
ADaPREGNANT WOMANaBREAST-FEEDINGaPALMS UP TOGETHERaSELFIEaPRINCEaMAN IN TUXEDObOTHER CHRISTMASaSHRU
GaPERSON DOING CARTWHEELaJUGGLINGaFENCERaMODERN PENTATHLONaWRESTLERSbATER POLOaHANDBALLaDIVING MASK
aWILTED FLOWERaDRUM WITH DRUMSTICKSaCLINKING GLASSESaTUMBLER GLASSaSPOONaGOAL NETaRIFLEaFIRST PLAC
E MEDALaSECOND PLACE MEDALaTHIRD PLACE MEDALaBOXING GLOVEaMARTIAL ARTS UNIFORMaCURLING STONEaLACROS
SE STICK AND BALLaSOFTBALLaFLYING DISCaCROISSANTaAVOCADOaCUCUMBERaBACONaPOTATOaCARROTaBAGUETTE BREA
DaGREEN SALADaSHALLOW PAN OF FOODbTUFFED FLATBREADaEGGaGLASS OF MILKaPEANUTSaKIWIFRUITaPANCAKESaDUM
PLINGaFORTUNE COOKIEaTAKEOUT BOXaCHOPSTICKSaBOWL WITH SPOONaCUP WITH STRAWbOCONUTaBROCCOLIaPIEbRETZ
ELaCUT OF MEATaSANDWICHaCANNED FOODaLEAFY GREENaMANGObOON CAKEaBAGELaSMILING FACE WITH SMILING EYE
S AND THREE HEARTSaYAWNING FACEaSMILING FACE WITH TEARaFACE WITH PARTY HORN AND PARTY HATkUNEVEN EY
ES AND WAVY MOUTHaOVERHEATED FACEaFREEZING FACEaNINJAaDISGUISED FACEaFACE HOLDING BACK TEARSfWITH P
LEADING EYESaSARIaLAB COATaGOGGLESaHIKING BOOTaFLAT SHOEaCRABaLION FACEaSCORPIONaTURKEYaUNICORN FAC
EaEAGLEaDUCKaBATaSHARKaOWLaFOX FACEaBUTTERFLYaDEERaGORILLAaLIZARDaRHINOCEROSaSHRIMPbQUIDaGIRAFFE FA
CEaZEBRA FACEaHEDGEHOGaSAUROPODaT-REXaCRICKETaKANGAROOaLLAMAaPEACOCKaHIPPOPOTAMUSaPARROTaRACCOONaLO
BSTERaMOSQUITObICROBEaBADGERaSWANaMAMMOTHaDODOaSLOTHaOTTERbRANGUTANaSKUNKaFLAMINGOaOYSTERaBEAVERbIS
ONaSEALaGUIDE DOGaPROBING CANEaEMOJI COMPONENT RED HAIRqCURLY HAIRqBALDqWHITE HAIRaBONEaLEGaFOOTaTO
OTHaSUPERHEROfVILLAINbAFETY VESTaEAR WITH HEARING AIDaMOTORIZED WHEELCHAIRbANUAL WHEELCHAIRbECHANIC
AL ARMlLEGaCHEESE WEDGEbUPCAKEaSALT SHAKERaBEVERAGE BOXaGARLICaONIONaFALAFELaWAFFLEaBUTTERaMATE DRI
NKaICE CUBEaBUBBLE TEAaTROLLaSTANDING PERSONaKNEELING PERSONaDEAF PERSONaFACE WITH MONOCLEaADULTaCH
ILDaOLDER ADULTaBEARDED PERSONaPERSON WITH HEADSCARFhIN STEAMY ROOMhCLIMBINGhIN LOTUS POSITIONaMAGE
aFAIRYaVAMPIREaMERPERSONaELFaGENIEaZOMBIEaBRAINaORANGE HEARTaBILLED CAPaSCARFaGLOVESaCOATaSOCKSaRE
D GIFT ENVELOPEaFIRECRACKERaJIGSAW PUZZLE PIECEaTEST TUBEaPETRI DISHaDNA DOUBLE HELIXaCOMPASSaABACU
SaFIRE EXTINGUISHERaTOOLBOXaBRICKaMAGNETaLUGGAGEbOTION BOTTLEaSPOOL OF THREADaBALL OF YARNaSAFETY P
INaTEDDY BEARaBROOMbASKETaROLL OF PAPERaBAR OF SOAPaSPONGEaRECEIPTaNAZAR AMULETbEUTRAL CHESS KINGoQ
UEENoROOKoBISHOPoKNIGHToPAWNaWHITE CHESS KNIGHT ROTATED FORTY-FIVE DEGREESaBLACK CHESS KNIGHT ROTAT
ED FORTY-FIVE DEGREESaNEUTRAL CHESS KNIGHT ROTATED FORTY-FIVE DEGREESaWHITE CHESS KING ROTATED NINE
TY DEGREESmQUEEN ROTATED NINETY DEGREESmROOK ROTATED NINETY DEGREESmBISHOP ROTATED NINETY DEGREESmK
NIGHT ROTATED NINETY DEGREESmPAWN ROTATED NINETY DEGREESaBLACK CHESS KING ROTATED NINETY DEGREESmQU
EEN ROTATED NINETY DEGREESmROOK ROTATED NINETY DEGREESmBISHOP ROTATED NINETY DEGREESmKNIGHT ROTATE
D NINETY DEGREESmPAWN ROTATED NINETY DEGREESaNEUTRAL CHESS KING ROTATED NINETY DEGREESoQUEEN ROTATE
D NINETY DEGREESoROOK ROTATED NINETY DEGREESoBISHOP ROTATED NINETY DEGREESoKNIGHT ROTATED NINETY DE
GREESoPAWN ROTATED NINETY DEGREESaWHITE CHESS KNIGHT ROTATED ONE HUNDRED THIRTY-FIVE DEGREESaBLAC
K CHESS KNIGHT ROTATED ONE HUNDRED THIRTY-FIVE DEGREESaNEUTRAL CHESS KNIGHT ROTATED ONE HUNDRED THI
RTY-FIVE DEGREESaWHITE CHESS TURNED KINGtQUEENtROOKtBISHOPtKNIGHTtPAWNaBLACK CHESS TURNED KINGtQUEE
NtROOKtBISHOPtKNIGHTtPAWNaNEUTRAL CHESS TURNED KINGvQUEENvROOKvBISHOPvKNIGHTvPAWNaWHITE CHESS KNIGH
T ROTATED TWO HUNDRED TWENTY-FIVE DEGREESaBLACK CHESS KNIGHT ROTATED TWO HUNDRED TWENTY-FIVE DEGREE
SaNEUTRAL CHESS KNIGHT ROTATED TWO HUNDRED TWENTY-FIVE DEGREESaWHITE CHESS KING ROTATED TWO HUNDRE
D SEVENTY DEGREESmQUEEN ROTATED TWO HUNDRED SEVENTY DEGREESmROOK ROTATED TWO HUNDRED SEVENTY DEGREE
SmBISHOP ROTATED TWO HUNDRED SEVENTY DEGREESmKNIGHT ROTATED TWO HUNDRED SEVENTY DEGREESmPAWN ROTATE
D TWO HUNDRED SEVENTY DEGREESaBLACK CHESS KING ROTATED TWO HUNDRED SEVENTY DEGREESmQUEEN ROTATED TW
O HUNDRED SEVENTY DEGREESmROOK ROTATED TWO HUNDRED SEVENTY DEGREESmBISHOP ROTATED TWO HUNDRED SEVEN
TY DEGREESmKNIGHT ROTATED TWO HUNDRED SEVENTY DEGREESmPAWN ROTATED TWO HUNDRED SEVENTY DEGREESaNEUT
RAL CHESS KING ROTATED TWO HUNDRED SEVENTY DEGREESoQUEEN ROTATED TWO HUNDRED SEVENTY DEGREESoROOK R
OTATED TWO HUNDRED SEVENTY DEGREESoBISHOP ROTATED TWO HUNDRED SEVENTY DEGREESoKNIGHT ROTATED TWO HU
NDRED SEVENTY DEGREESoPAWN ROTATED TWO HUNDRED SEVENTY DEGREESaWHITE CHESS KNIGHT ROTATED THREE HUN
DRED FIFTEEN DEGREESaBLACK CHESS KNIGHT ROTATED THREE HUNDRED FIFTEEN DEGREESaNEUTRAL CHESS KNIGH
T ROTATED THREE HUNDRED FIFTEEN DEGREESaWHITE CHESS EQUIHOPPERaBLACK CHESS EQUIHOPPERaNEUTRAL CHES
S EQUIHOPPERaWHITE CHESS EQUIHOPPER ROTATED NINETY DEGREESaBLACK CHESS EQUIHOPPER ROTATED NINETY DE
GREESaNEUTRAL CHESS EQUIHOPPER ROTATED NINETY DEGREESaWHITE CHESS KNIGHT-QUEENtROOKtBISHOPaBLACK CH
ESS KNIGHT-QUEENtROOKtBISHOP.1FA60aXIANGQI RED GENERALmMANDARINmELEPHANTmHORSEmCHARIOTnANNONmSOLDIE
RiBLACK GENERALoMANDARINoELEPHANToHORSEoCHARIOTpANNONoSOLDIER.1FA70aBALLET SHOESaONE-PIECE SWIMSUIT
aBRIEFSaSHORTSaTHONG SANDAL.1FA78aDROP OF BLOODaADHESIVE BANDAGEaSTETHOSCOPEaX-RAYaCRUTCH.1FA80aYO-
YOaKITEaPARACHUTEaBOOMERANGaMAGIC WANDaPINATAaNESTING DOLLS.1FA90aRINGED PLANETaCHAIRaRAZORaAXEaDIY
A LAMPaBANJOaMILITARY HELMETaACCORDIONaLONG DRUMaCOINbARPENTRY SAWaSCREWDRIVERaLADDERaHOOKaMIRRORaW
INDOWaPLUNGERaSEWING NEEDLEaKNOTaBUCKETaMOUSE TRAPaTOOTHBRUSHaHEADSTONEaPLACARDaROCKaMIRROR BALLaID
ENTIFICATION CARDaLOW BATTERYaHAMSA.1FAB0aFLYaWORMaBEETLEaCOCKROACHaPOTTED PLANTaWOODaFEATHERaLOTUS
aCORALaEMPTY NESTaNEST WITH EGGS.1FAC0aANATOMICAL HEARTaLUNGSaPEOPLE HUGGINGbREGNANT MANjPERSONbERS
ON WITH CROWN.1FAD0aBLUEBERRIESbELL PEPPERaOLIVEaFLATBREADaTAMALEaFONDUEaTEAPOTaPOURING LIQUIDaBEAN
SaJAR.1FAE0aMELTING FACEaSALUTING FACEaFACE WITH OPEN EYES AND HAND OVER MOUTHkPEEKING EYEkDIAGONA
L MOUTHaDOTTED LINE FACEaBITING LIPbUBBLES.1FAF0aHAND WITH INDEX FINGER AND THUMB CROSSEDaRIGHTWARD
S HANDaLEFTWARDS HANDaPALM DOWN HANDfUP HANDaINDEX POINTING AT THE VIEWERaHEART HANDS.1FB00aBLOCK S
EXTANT-1o2o12o3o13o23o123o4o14o24o124o34o134o234o1234o5o15o25o125o35o235o1235o45o145o245o1245o345o1
345o2345o12345o6o16o26o126o36o136o236o1236o46o146p246o346o1346o2346o12346o56o156o256o1256o356o1356o
2356o12356o456o1456o2456o12456o3456o13456o23456aLOWER LEFT BLOCK DIAGONAL LOWER MIDDLE LEFT TO LOWE
R CENTREzzdRIGHTzbUPPER MIDDLE LEFT TO LOWER CENTREzzdRIGHTzhLEFT TO LOWER CENTREgRIGHT BLOCK DIAGO
NAL UPPER MIDDLE LEFT TO UPPER CENTREzzeRIGHTzcLOWER MIDDLE LEFT TO UPPER CENTREzzeRIGHTziLEFT TO U
PPER CENTREziMIDDLE LEFT TO UPPER MIDDLE RIGHTziCENTRE TO LOWER MIDDLE RIGHTziLEFT TO LOWER MIDDL
E RIGHTziCENTRE TO UPPER MIDDLE RIGHTziLEFT TO UPPER MIDDLE RIGHTziCENTRE TO UPPER RIGHTgLEFT BLOC
K DIAGONAL UPPER CENTRE TO UPPER MIDDLE RIGHTzhLEFT TO UPPER MIDDLE RIGHTzhCENTRE TO LOWER MIDDLE R
IGHTzhLEFT TO LOWER MIDDLE RIGHTzhCENTRE TO LOWER RIGHTzhMIDDLE LEFT TO LOWER MIDDLE RIGHTaUPPER RI
GHT BLOCK DIAGONAL LOWER MIDDLE LEFT TO LOWER CENTREzzeRIGHTzcUPPER MIDDLE LEFT TO LOWER CENTREzzeR
IGHTziLEFT TO LOWER CENTREgLEFT BLOCK DIAGONAL UPPER MIDDLE LEFT TO UPPER CENTREzzdRIGHTzbLOWER MID
DLE LEFT TO UPPER CENTREzzdRIGHTzhLEFT TO UPPER CENTREzhMIDDLE LEFT TO UPPER MIDDLE RIGHTzhCENTRE T
O LOWER MIDDLE RIGHTzhLEFT TO LOWER MIDDLE RIGHTzhCENTRE TO UPPER MIDDLE RIGHTzhLEFT TO UPPER MIDDL
E RIGHTzhCENTRE TO UPPER RIGHTgRIGHT BLOCK DIAGONAL UPPER CENTRE TO UPPER MIDDLE RIGHTziLEFT TO UPP
ER MIDDLE RIGHTziCENTRE TO LOWER MIDDLE RIGHTziLEFT TO LOWER MIDDLE RIGHTziCENTRE TO LOWER RIGHTziM
IDDLE LEFT TO LOWER MIDDLE RIGHTgAND RIGHT AND LOWER TRIANGULAR THREE QUARTERS BLOCKaLEFT AND LOWE
R AND RIGHT TRIANGULAR THREE QUARTERS BLOCKaUPPER AND LEFT AND LOWER TRIANGULAR THREE QUARTERS BLOC
KaLEFT AND UPPER AND RIGHT TRIANGULAR THREE QUARTERS BLOCKfTRIANGULAR ONE QUARTER BLOCKaUPPER TRIAN
GULAR ONE QUARTER BLOCKaRIGHT TRIANGULAR ONE QUARTER BLOCKaLOWER TRIANGULAR ONE QUARTER BLOCKaVERTI
CAL ONE EIGHTH BLOCK-2zb3zb4zb5zb6zb7aHORIZONTAL ONE EIGHTH BLOCK-2zd3zd4zd5zd6zd7aLEFT AND LOWER O
NE EIGHTH BLOCKjUPPER ONE EIGHTH BLOCKaRIGHT AND UPPER ONE EIGHTH BLOCKkLOWER ONE EIGHTH BLOCKaUPPE
R AND LOWER ONE EIGHTH BLOCKaHORIZONTAL ONE EIGHTH BLOCK-1358aUPPER ONE QUARTER BLOCKgTHREE EIGHTH
S BLOCKgFIVE EIGHTHS BLOCKgTHREE QUARTERS BLOCKgSEVEN EIGHTHS BLOCKaRIGHT ONE QUARTER BLOCKgTHREE E
IGHTHS BLOCKgFIVE EIGHTHS BLOCKgTHREE QUARTERS BLOCKgSEVEN EIGHTHS BLOCKaLEFT HALF MEDIUM SHADEaRIG
HT HALF MEDIUM SHADEaUPPER HALF MEDIUM SHADEaLOWER HALF MEDIUM SHADEaINVERSE MEDIUM SHADEaUPPER HAL
F BLOCK AND LOWER HALF INVERSE MEDIUM SHADElINVERSE MEDIUM SHADE AND LOWER HALF BLOCK.1FB94aLEFT HA
LF INVERSE MEDIUM SHADE AND RIGHT HALF BLOCKaCHECKER BOARD FILLaINVERSE CHECKER BOARD FILLaHEAVY HO
RIZONTAL FILLaUPPER LEFT TO LOWER RIGHT FILLgRIGHT TO LOWER LEFT FILLgAND LOWER TRIANGULAR HALF BLO
CKaLEFT AND RIGHT TRIANGULAR HALF BLOCKaUPPER LEFT TRIANGULAR MEDIUM SHADEgRIGHT TRIANGULAR MEDIU
M SHADEaLOWER RIGHT TRIANGULAR MEDIUM SHADEgLEFT TRIANGULAR MEDIUM SHADEaBOX DRAWINGS LIGHT DIAGONA
L UPPER CENTRE TO MIDDLE LEFTzzbRIGHTzdMIDDLE LEFT TO LOWER CENTREzkRIGHT TO LOWER CENTREzdUPPER CE
NTRE TO MIDDLE LEFT TO LOWER CENTREzzbRIGHT TO LOWER CENTREzdMIDDLE LEFT TO LOWER CENTRE TO MIDDL
E RIGHTzsUPPER CENTRE TO MIDDLE RIGHTzdUPPER CENTRE TO MIDDLE LEFT AND MIDDLE RIGHT TO LOWER CENTRE
zzbRIGHT AND MIDDLE LEFT TO LOWER CENTREzzhTO LOWER CENTRE TO MIDDLE LEFTzzbLEFT TO LOWER CENTRE T
O MIDDLE RIGHTzdMIDDLE LEFT TO UPPER CENTRE TO MIDDLE RIGHT TO LOWER CENTREzkRIGHT TO UPPER CENTR
E TO MIDDLE LEFT TO LOWER CENTREzdDIAMONDtHORIZONTAL WITH VERTICAL STROKEaARROWHEAD-SHAPED POINTERa
INVERSE CHECK MARKaLEFT HALF RUNNING MANaRIGHT HALF RUNNING MANaINVERSE DOWNWARDS ARROW WITH TIP LE
FTWARDSaLEFTWARDS ARROW AND UPPER AND LOWER ONE EIGHTH BLOCKaRIGHTWARDS ARROW AND UPPER AND LOWER O
NE EIGHTH BLOCKaDOWNWARDS ARROW AND RIGHT ONE EIGHTH BLOCKaUPWARDS ARROW AND RIGHT ONE EIGHTH BLOCK
aLEFT HALF FOLDERaRIGHT HALF FOLDERaVOIDED GREEK CROSSaRIGHT OPEN SQUARED DOTaNEGATIVE DIAGONAL CRO
SSsMIDDLE RIGHT TO LOWER CENTREsDIAMONDaWHITE HEAVY SALTIRE WITH ROUNDED CORNERSaLEFT THIRD WHITE R
IGHT POINTING INDEXaMIDDLE THIRD WHITE RIGHT POINTING INDEXaRIGHT THIRD WHITE RIGHT POINTING INDEXa
NEGATIVE SQUARED QUESTION MARKaSTICK FIGUREm WITH ARMS RAISEDnLEANING LEFTvRIGHTnWITH DRESSaWHITE U
P-POINTING CHEVRON.1FBF0aSEGMENTED DIGIT ZEROqONEqTWOrHREEqFOURrIVEqSIXrEVENqEIGHTqNINE.E0001aLANGU
AGE TAG.E0020aTAG SPACEeEXCLAMATION MARKeQUOTATION MARKeNUMBER SIGNeDOLLAR SIGNePERCENT SIGNeAMPERS
ANDfPOSTROPHEeLEFT PARENTHESISeRIGHT PARENTHESISeASTERISKePLUS SIGNeCOMMAeHYPHEN-MINUSeFULL STOPeSO
LIDUSeDIGIT ZEROkONEkTWOlHREEkFOURlIVEkSIXlEVENkEIGHTkNINEeCOLONeSEMICOLONeLESS-THAN SIGNeEQUALS SI
GNeGREATER-THAN SIGNeQUESTION MARKeCOMMERCIAL ATeLATIN CAPITAL LETTER AzaBzaCzaDzaEzaFzaGzaHzaIzaJz
aKzaLzaMzaNzaOzaPzaQzaRzaSzaTzaUzaVzaWzaXzaYzaZfEFT SQUARE BRACKETeREVERSE SOLIDUSfIGHT SQUARE BRAC
KETeCIRCUMFLEX ACCENTeLOW LINEeGRAVE ACCENTeLATIN SMALL LETTER AxBxCxDxExFxGxHxIxJxKxLxMxNxOxPxQxRx
SxTxUxVxWxXxYxZfEFT CURLY BRACKETeVERTICAL LINEeRIGHT CURLY BRACKETeTILDEaCANCEL TAG.E0100aVARIATIO
N SELECTOR-17u8u9t20u1u2u3u4u5u6u7u8u9t30u1u2u3u4u5u6u7u8u9t40u1u2u3u4u5u6u7u8u9t50u1u2u3u4u5u6u7u8
u9t60u1u2u3u4u5u6u7u8u9t70u1u2u3u4u5u6u7u8u9t80u1u2u3u4u5u6u7u8u9t90u1u2u3u4u5u6u7u8u9t100v1v2v3v4v
5v6v7v8v9u10v1v2v3v4v5v6v7v8v9u20v1v2v3v4v5v6v7v8v9u30v1v2v3v4v5v6v7v8v9u40v1v2v3v4v5v6v7v8v9u50v1v
2v3v4v5v6v7v8v9u60v1v2v3v4v5v6v7v8v9u70v1v2v3v4v5v6v7v8v9u80v1v2v3v4v5v6v7v8v9u90v1v2v3v4v5v6v7v8v9
t200v1v2v3v4v5v6v7v8v9u10v1v2v3v4v5v6v7v8v9u20v1v2v3v4v5v6v7v8v9u30v1v2v3v4v5v6v7v8v9u40v1v2v3v4v5v
6v7v8v9u50v1v2v3v4v5v6"

end MarkupLint.Text
