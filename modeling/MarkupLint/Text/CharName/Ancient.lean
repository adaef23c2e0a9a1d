/-!
Names of the characters from U+10000 up to U+1CFFF: mostly scripts of the past.
-/

namespace MarkupLint.Text

/-- The packed names. -/
def ancientNames : String :=
".10000aLINEAR B SYLLABLE B008 Au38 Eu28 Iu61 Ou10 Uu01 DAu45 DEu07 DIu14 DOu51 DUv7 JAu46 JE.1000Da
LINEAR B SYLLABLE B036 JOu65 JUu77 KAu44 KEu67 KIu70 KOu81 KUv0 MAu13 MEu73 MIu15 MOu23 MUu06 NAu2
4 NEu30 NIu52 NOv5 NUu03 PAu72 PEu39 PIu11 POu50 PUu16 QAu78 QEu21 QIu32 QO.10028aLINEAR B SYLLABL
E B060 RAu27 REu53 RIu02 ROu26 RUu31 SAu09 SEu41 SIu12 SOu58 SUv9 TAu04 TEu37 TIu05 TOu69 TUu54 WAu
75 WEu40 WIv2 WO.1003CaLINEAR B SYLLABLE B017 ZAu74 ZE.1003FaLINEAR B SYLLABLE B020 ZOv5 A2u43 A3u8
5 AUu71 DWEu90 DWOu48 NWAu29 PU2u62 PTEu76 RA2u33 RA3u68 RO2v6 TA2u87 TWEu91 TWO.10050aLINEAR B SYM
BOL B018t9s22s34s47t9s56s63t4s79s82t3t6t9.10080aLINEAR B IDEOGRAM B100 MANv2 WOMANv4 DEERv5 EQUIDw
F MAREwM STALLIONv6F EWEwM RAMv7F SHE-GOATwM HE-GOATv8F SOWwM BOARv9F COWwM BULLu20 WHEATv1 BARLEYv
2 OLIVEv3 SPICEv5 CYPERUSjMONOGRAM B127 KAPOv8 KANAKOjIDEOGRAM B130 OILv1 WINEv2jMONOGRAM B133 AREP
Av5 MERIjIDEOGRAM B140 BRONZEv1 GOLDv2v5 WOOLv6u50v1 HORNv2v3v4jMONOGRAM B156 TURO2jIDEOGRAM B157v8
v9 CLOTHu60v1v2 GARMENTv3 ARMOURv4v5v6v7v8v9u70v1v2v3 MONTHv4v6 TREEv7v8v9u80v1v2v3v4v5v9u90v1 HELM
ETt220 FOOTSTOOLv5 BATHTUBu30 SPEARv1 ARROWv2v3 SWORDv4v6u40 WHEELED CHARIOTv1 CHARIOTv2 CHARIOT FR
AMEv3 WHEELv5v6jMONOGRAM B247 DIPTEjIDEOGRAM B248v9u51v2v3v4 DARTv5v6v7v8v9sVESSEL B155zb200zd1zd2z
d3zd4zd5zd6zd7zd8zd9zc10zd1zd2zd3zd4zd5zd6zd7zd8zd9zc21zd2zd6zd7zd8zd9zc50zb305.10100aAEGEAN WORD S
EPARATOR LINEwDOThCHECK MARK.10107aAEGEAN NUMBER ONEoTWOpHREEoFOURpIVEoSIXpEVENoEIGHToNINEoTENpWENT
YpHIRTYoFORTYpIFTYoSIXTYpEVENTYoEIGHTYoNINETYoONE HUNDREDoTWO HUNDREDpHREE HUNDREDoFOUR HUNDREDpIV
E HUNDREDoSIX HUNDREDpEVEN HUNDREDoEIGHT HUNDREDoNINE HUNDREDoONE THOUSANDoTWO THOUSANDpHREE THOUSA
NDoFOUR THOUSANDpIVE THOUSANDoSIX THOUSANDpEVEN THOUSANDoEIGHT THOUSANDoNINE THOUSANDoTEN THOUSANDp
WENTY THOUSANDpHIRTY THOUSANDoFORTY THOUSANDpIFTY THOUSANDoSIXTY THOUSANDpEVENTY THOUSANDoEIGHTY TH
OUSANDoNINETY THOUSAND.10137aAEGEAN WEIGHT BASE UNIToFIRST SUBUNIToSECOND SUBUNIToTHIRD SUBUNIToFOU
RTH SUBUNIThDRY MEASURE FIRST SUBUNIThLIQUID MEASURE FIRST SUBUNIThMEASURE SECOND SUBUNITpTHIRD SUB
UNITaGREEK ACROPHONIC ATTIC ONE QUARTERzcHALFzcDRACHMAxFIVEzaFTYzaVE HUNDREDzdTHOUSANDzaFTY THOUSAN
DzaVE TALENTSxTEN TALENTSxFIFTY TALENTSxONE HUNDRED TALENTSxFIVE HUNDRED TALENTSxONE THOUSAND TALEN
TSxFIVE THOUSAND TALENTSzdSTATERSxTEN STATERSxFIFTY STATERSxONE HUNDRED STATERSxFIVE HUNDRED STATER
SxONE THOUSAND STATERSxTEN THOUSAND STATERSxFIFTY THOUSAND STATERSxTEN MNASrHERAEUM ONE PLETHRONrTH
ESPIAN ONErHERMIONIAN ONErEPIDAUREAN TWOrTHESPIAN TWOrCYRENAIC TWO DRACHMASrEPIDAUREAN TWO DRACHMAS
rTROEZENIAN FIVEzdTENzg ALTERNATE FORMrHERMIONIAN TENrMESSENIAN TENrTHESPIAN TENzcHIRTYsROEZENIAN F
IFTYzi ALTERNATE FORMrHERMIONIAN FIFTYrTHESPIAN FIFTYzbONE HUNDREDzbTHREE HUNDREDrEPIDAUREAN FIVE H
UNDREDrTROEZENIAN FIVE HUNDREDsHESPIAN FIVE HUNDREDrCARYSTIAN FIVE HUNDREDrNAXIAN FIVE HUNDREDrTHES
PIAN ONE THOUSANDzbFIVE THOUSANDrDELPHIC FIVE MNASrSTRATIAN FIFTY MNASgONE HALF SIGNt ALTERNATE FOR
MgTWO THIRDS SIGNhHREE QUARTERS SIGNgYEAR SIGNgTALENT SIGNgDRACHMA SIGNgOBOL SIGNgTWO OBOLS SIGNhHR
EE OBOLS SIGNgFOUR OBOLS SIGNhIVE OBOLS SIGNgMETRETES SIGNgKYATHOS BASE SIGNgLITRA SIGNgOUNKIA SIGN
gXESTES SIGNgARTABE SIGNiOURA SIGNgGRAMMA SIGNgTRYBLION BASE SIGNgZERO SIGNgONE QUARTER SIGNgSINUSO
ID SIGNgINDICTION SIGNaNOMISMA SIGN.10190aROMAN SEXTANS SIGNgUNCIA SIGNgSEMUNCIA SIGNiXTULA SIGNgDI
MIDIA SEXTULA SIGNgSILIQUA SIGNgDENARIUS SIGNgQUINARIUS SIGNgSESTERTIUS SIGNgDUPONDIUS SIGNgAS SIGN
gCENTURIAL SIGNaASCIA SYMBOL.101A0aGREEK SYMBOL TAU RHO.101D0aPHAISTOS DISC SIGN PEDESTRIANuLUMED H
EADtTATTOOED HEADtCAPTIVEuHILDtWOMANtHELMETtGAUNTLETtTIARAtARROWtBOWtSHIELDtCLUBtMANACLESvTTOCKtSAW
tLIDtBOOMERANGtCARPENTRY PLANEtDOLIUMtCOMBtSLINGtCOLUMNtBEEHIVEtSHIPtHORNuIDEtBULLS LEGtCATtRAMtEAG
LEtDOVEtTUNNYtBEEtPLANE TREEtVINEtPAPYRUStROSETTEtLILYtOX BACKtFLUTEtGRATERtSTRAINERuMALL AXEtWAV
Y BANDtCOMBINING OBLIQUE STROKE.10280aLYCIAN LETTER AoEoBpHoGoDoIoWoZoTHoJoKoQoLoMoNoMMoNNoUoPoKKoR
oSoTpToANoENoHoX.102A0aCARIAN LETTER AoP2oDoLoUUUoRoLDoA2oQoBoMoOoD2oToSHq2oSoC-18oUoNNoXoNoTT2oPoS
SoIoEoUUUUoKp2oNDoUUoGp2oSTq2oNGoIIoC-39oTToUUU2oRRoMBq2q3q4oLD2oE2oUUU3.102E0aCOPTIC EPACT THOUSAN
DS MARKnDIGIT ONEtTWOuHREEtFOURuIVEtSIXuEVENtEIGHTtNINEnNUMBER TENvWENTYvHIRTYuFORTYvIFTYuSIXTYvEVE
NTYuEIGHTYuNINETYuONE HUNDREDuTWO HUNDREDvHREE HUNDREDuFOUR HUNDREDvIVE HUNDREDuSIX HUNDREDvEVEN HU
NDREDuEIGHT HUNDREDuNINE HUNDRED.10300aOLD ITALIC LETTER AsBEsKEsDEsEsVEsZEsHEsTHEsIsKAsELtMtNtSHsO
sPEsSHEsKUsERtSsTEsUsEKSsPHEsKHEsEFtRSsCHEsIIsUUsESSlNUMERAL ONEtFIVEtTENtFIFTY.1032DaOLD ITALIC LE
TTER YEsNORTHERN TSEsSOUTHERN TSEaGOTHIC LETTER AHSAoBAIRKANoGIBAoDAGSoAIHVUSoQAIRTHRAoIUJAoHAGLoTH
IUTHoEISoKUSMAoLAGUSoMANNAoNAUTHSoJERoURUSoPAIRTHRAoNINETYoRAIDAoSAUILoTEIWSoWINJAoFAIHUoIGGWSoHWAI
RoOTHALoNINE HUNDRED.10350aOLD PERMIC LETTER ANsBURsGAIsDOIsEsZHOIsDZHOIsZATAsDZITAsIsKOKEsLEIsMENO
EsNENOEsVOOIsPEEIsREIsSIIsTAIsUsCHERYsSHOOIuCHOOIsYRYtERUsOtOsEFsHAsTSIUsVERsYERvItATsIEsYUtAsIAaCO
MBINING OLD PERMIC LETTER ANzdDOIzdZATAzdNENOEzdSII.10380aUGARITIC LETTER ALPAqBETAqGAMLAqKHAqDELTA
qHOqWOqZETAqHOTAqTETqYODqKAFqSHINqLAMDAqMEMqDHALqNUNqZUqSAMKAqAINqPUqSADEqQOPAqRASHAqTHANNAqGHAINqT
OqIqUqSSU.1039FaUGARITIC WORD DIVIDERaOLD PERSIAN SIGN ArIrUrKAsUrGAsUrXArCArJAsIrTAsUrDAsIsUrTHArP
ArBArFArNAsUrMAsIsUrYArVAsIrRAsUrLArSArZArSHAsSArHA.103C8aOLD PERSIAN SIGN AURAMAZDAAzc-2zcHArXSHAA
YATHIYArDAHYAAUSHzb-2rBAGAsUUMISHmWORD DIVIDERmNUMBER ONEtTWOuENuWENTYtHUNDRED.10400aDESERET CAPITA
L LETTER LONG IzdEzdAzeHzdOzeOxSHORT IzeEzeAzfHzeOzfOxAYxOWxWUxYEExHxPEExBEExTEExDEExCHEExJEExKAYxG
AYxEFxVEExETHxTHEExESxZEExESHxZHEExERyLyMyNzaGxOIxEWiSMALL LETTER LONG IzbEzbAzcHzbOzcOvSHORT IzcEz
cAzdHzcOzdOvAYvOWvWUvYEEvHvPEEvBEEvTEEvDEEvCHEEvJEEvKAYvGAYvEFvVEEvETHvTHEEvESvZEEvESHvZHEEvERwLwMw
NxGvOIvEWaSHAVIAN LETTER PEEPpTOTpKICKpFEEpTHIGHpSOqUREpCHURCHpYEApHUNGpBIBpDEADpGAGpVOWpTHEYpZOOpM
EASUREpJUDGEpWOEpHA-HApLOLLpMIMEpIFpEGGpASHqDOpONpWOOLpOUTpAHpROARpNUNpEATpAGEpICEpUPpOAKqOZEqILpAW
EqREpORpAIRpERRpARRAYpEARpIANpYEWaOSMANYA LETTER ALEFpBApTApJApXApKHApDEELpRApSAqHIINpDHApCAYNpGApF
ApQAAFpKAAFpLAANpMIINpNUUNpWAWpHApYApApEpIpOpUpAApEEpOO.104A0aOSMANYA DIGIT ZEROoONEoTWOpHREEoFOURp
IVEoSIXpEVENoEIGHToNINE.104B0aOSAGE CAPITAL LETTER AwIxNwHvBRAvCHAvEHCHAvEwINvHAwYAvIvKAvEHKAvKYAvL
AvMAvNAvOwINvPAvEHPAvSAwHAvTAvEHTAvTSAvEHTSAvTSHAvDHAvUvWAvKHAvGHAvZAwHA.104D8aOSAGE SMALL LETTER A
uIvNuHtBRAtCHAtEHCHAtEuINtHAuYAtItKAtEHKAtKYAtLAtMAtNAtOuINtPAtEHPAtSAuHAtTAtEHTAtTSAtEHTSAtTSHAtDH
AtUtWAtKHAtGHAtZAuHA.10500aELBASAN LETTER ApBEpCEqHEpDEpNDEpDHEpEIpEpFEpGEqJEpHEpIpJEpKEpLEqLEpMEpN
EqAqJEpOpPEpQEpREqREpSEqHEpTEqHEpUpVEpXEpYpZEqHEpGHErAMMApKHE.10530aCAUCASIAN ALBANIAN LETTER ALTzb
BETzbGIMzbDATzbEBzbZARLzbEYNzbZHILzbTASzbCHAzbYOWDzbZHAzbIRBzbSHAzbLANzbINYAzbXEYNzbDYANzbCARzbJHOX
zbKARzbLYITzbHEYTzbQAYzbAORzbCHOYzdIzcYAYzbMAQzbQARzbNOWCzbDZYAYzbSHAKzbJAYNzbONzbTYAYzbFAMzbDZAYzb
CHATzbPENzbGHEYSzbRATzbSEYKzbVEYZzbTIWRzbSHOYzbIWNzbCYAWzcAYNzbYAYDzbPIWRzbKIW.1056FaCAUCASIAN ALBA
NIAN CITATION MARKaVITHKUQI CAPITAL LETTER AyBBEzaEyCEzaHEyDEzaHEyEIyEyFEyGA.1057CaVITHKUQI CAPITA
L LETTER HAzaHAyIzaJEyJEyKAyLAzaLAyMEyNEzaJEyOyPEyQAyRE.1058CaVITHKUQI CAPITAL LETTER SEzaHEyTEzaHE
yUyVEyXE.10594aVITHKUQI CAPITAL LETTER YyZE.10597aVITHKUQI SMALL LETTER AwBBExEwCExHEwDExHEwEIwEwFE
wGA.105A3aVITHKUQI SMALL LETTER HAxHAwIxJEwJEwKAwLAxLAwMEwNExJEwOwPEwQAwRE.105B3aVITHKUQI SMALL LET
TER SExHEwTExHEwUwVEwXE.105BBaVITHKUQI SMALL LETTER YwZE.10600aLINEAR A SIGN AB001s2s3s4s5s6s7s8s9r
10s1s3s6s7r20s1tFtMs2tFtMs3tMs4s6s7s8p028BpB029r30s1s4s7s8s9r40s1s4s5s6s7s8s9r50s1s3s4s5s6s7s8s9r60
s1s5s6s7s9r70s3s4s6s7s8s9r80s1s2s5s6s7p100-102pB118r20p120BpB122s3r31AtBp131CpB164r71r80s8r91p301r2
r3r4r5r6r7r8r9AsBsCq10r1r2r3AsBsCr4r5r6r7r8r9q20r1r2r3r4r5r6r7r8r9q30r1r2r3r4r5r6r7r8r9q40r1r2r3r4r
5r6r7r8r9q50r1r2r3r4r5r6r7r8r9q60r1r2r3r4r5r6r7r8r9q70r1p400-VASr1-VASr2-VASr3-VASr4-VASr5-VASr6-VA
Sr7-VASr8-VASr9-VASq10-VASr1-VASr2-VASr3-VASr4-VASr5-VASr6-VASr7-VASr8-VASp501r2r3r4r5r6r8r9q10r1r2
r3r5r6q20r1r3r4r5r6r7r8r9q30r1r2r4r5r6r7r8r9q40r1r2r5r7r8r9q50r1r2r3r4r5r6r7r9q63r4r5r6r8r9q70r1r2r
3r4r5r6r7r8r9q80r1r2r3r4r5r6r7r8r9q91r2r4r5r6r8p600r1r2r3r4r6r8r9q10r1r2r3r4r5r6r7r8r9q20r1r2r3r4r6
r7r8r9q34r7r8q40r2r3r4r5r6r8r9q51r2r3r4r5r6r7r8r9q60r1r2r3r4.10740aLINEAR A SIGN A701 Ar2 Br3 Dr4 E
r5 Fr6 Hr7 Jr8 Kr9 Ls-2 L2t3 L3t4 L4t6 L6q10 Wr1 Xr2 Yr3 OMEGAr4 ABBr5 BBr7 DDq26 EYYYq32 JE.10760a
LINEAR A SIGN A800r1r2r3r4r5r6r7.10780aMODIFIER LETTER SMALL CAPITAL AArUPERSCRIPT TRIANGULAR COLON
zdHALF TRIANGULAR COLONrMALL AEwCAPITAL BwB WITH HOOK.10787aMODIFIER LETTER SMALL DZ DIGRAPHzh WIT
H RETROFLEX HOOKznCURLxEZH DIGRAPHx WITH TAILzeHOOKzi AND TAILwREVERSED EwCLOSED REVERSED OPEN EwFE
NG DIGRAPHwRAMS HORNwCAPITAL GwG WITH HOOKwCAPITAL G WITH HOOKwH WITH STROKEwCAPITAL HwHENG WITH HO
OKwDOTLESS J WITH STROKE AND HOOKwLS DIGRAPHxZ DIGRAPHx WITH BELTwCAPITAL L WITH BELTwL WITH RETROF
LEX HOOK AND BELTxEZHzb WITH RETROFLEX HOOKwTURNED Yzf WITH BELTwO WITH STROKEwCAPITAL OExLOSED OME
GAwQwTURNED R WITH LONG LEGzt AND RETROFLEX HOOKwR WITH TAILzeFISHHOOKwCAPITAL RwTC DIGRAPH WITH CU
RLxS DIGRAPHzh WITH RETROFLEX HOOKxESH DIGRAPHx WITH RETROFLEX HOOKwV WITH RIGHT HOOK.107B2aMODIFIE
R LETTER SMALL CAPITAL YqGLOTTAL STOP WITH STROKEqREVERSED GLOTTAL STOP WITH STROKEqBILABIAL CLICKq
DENTAL CLICKqLATERAL CLICKqALVEOLAR CLICKqRETROFLEX CLICK WITH RETROFLEX HOOKqSMALL S WITH CURL.108
00aCYPRIOT SYLLABLE ArErIrOrUrJA.10808aCYPRIOT SYLLABLE JO.1080AaCYPRIOT SYLLABLE KAsEsIsOsUrLAsEsI
sOsUrMAsEsIsOsUrNAsEsIsOsUrPAsEsIsOsUrRAsEsIsOsUrSAsEsIsOsUrTAsEsIsOsUrWAsEsIsO.10837aCYPRIOT SYLLA
BLE XAsE.1083CaCYPRIOT SYLLABLE ZA.1083FaCYPRIOT SYLLABLE ZOaIMPERIAL ARAMAIC LETTER ALEPHyBETHyGIM
ELyDALETHyHEyWAWyZAYINyHETHyTETHyYODHyKAPHyLAMEDHyMEMyNUNySAMEKHyAYINyPEySADHEyQOPHyRESHySHINyTAW.1
0857aIMPERIAL ARAMAIC SECTION SIGNrNUMBER ONEyTWOzaHREEzaENzaWENTYyONE HUNDREDzdTHOUSANDyTEN THOUSA
NDaPALMYRENE LETTER ALEPHrBETHrGIMELrDALETHrHErWAWrZAYINrHETHrTETHrYODHrKAPHrLAMEDHrMEMrFINAL NUNrN
UNrSAMEKHrAYINrPErSADHErQOPHrRESHrSHINrTAWmFT-POINTING FLEURONkRIGHT-POINTING FLEURONkNUMBER ONErTW
OsHREErFOURsIVErTENsWENTYaNABATAEAN LETTER FINAL ALEPHrALEPHrFINAL BETHrBETHrGIMELrDALETHrFINAL HEr
HErWAWrZAYINrHETHrTETHrFINAL YODHrYODHrFINAL KAPHrKAPHrFINAL LAMEDHrLAMEDHrFINAL MEMrMEMrFINAL NUNr
NUNrSAMEKHrAYINrPErSADHErQOPHrRESHrFINAL SHINrSHINrTAW.108A7aNABATAEAN NUMBER ONErTWOsHREErFOURkCRU
CIFORM NUMBER FOURkNUMBER FIVErTENsWENTYrONE HUNDRED.108E0aHATRAN LETTER ALEPHoBETHoGIMELoDALETH-RE
SHoHEoWAWoZAYNoHETHoTETHoYODHoKAPHoLAMEDHoMEMoNUNoSAMEKHoAYNoPEoSADHEoQOPH.108F4aHATRAN LETTER SHIN
oTAW.108FBaHATRAN NUMBER ONEoFIVEoTENpWENTYoONE HUNDREDaPHOENICIAN LETTER ALFsBETsGAMLsDELTsHEsWAUs
ZAIsHETsTETsYODsKAFsLAMDsMEMsNUNsSEMKsAINsPEsSADEsQOFsROSHsSHINsTAUlNUMBER ONEsTENtWENTYsONE HUNDRE
DsTWOtHREE.1091FaPHOENICIAN WORD SEPARATORaLYDIAN LETTER AoBoGoDoEoVoIoYoKoLoMoNoOoRoSSoToUoFoQoSoT
ToANoENoLYoNNoC.1093FaLYDIAN TRIANGULAR MARK.10980aMEROITIC HIEROGLYPHIC LETTER AzeEzeIzeOzeYAzeWAz
eBAzg-2zePAzeMAzeNAzg-2zfEzg-2zeRAzg-2zeLAzeKHAzeHHAzeSAzg-2zfEzeKAzeQAzeTAzg-2zfEzg-2zfOzeDAwSYMBO
L VIDJzi-2jCURSIVE LETTER AyEyIyOyYAyWAyBAyPAyMAyNAzaEyRAyLAyKHAyHHAySAyARCHAIC SAySEyKAyQAyTAzaEza
OyDA.109BCaMEROITIC CURSIVE FRACTION ELEVEN TWELFTHSzbONE HALFrLOGOGRAM RMTzbIMNrNUMBER ONEyTWOzaHR
EEyFOURzaIVEySIXzaEVENyEIGHTyNINEyTENzaWENTYzaHIRTYyFORTYzaIFTYySIXTYzaEVENTY.109D2aMEROITIC CURSIV
E NUMBER ONE HUNDREDyTWO HUNDREDzaHREE HUNDREDyFOUR HUNDREDzaIVE HUNDREDySIX HUNDREDzaEVEN HUNDREDy
EIGHT HUNDREDyNINE HUNDREDyONE THOUSANDyTWO THOUSANDzaHREE THOUSANDyFOUR THOUSANDzaIVE THOUSANDySI
X THOUSANDzaEVEN THOUSANDyEIGHT THOUSANDyNINE THOUSANDyTEN THOUSANDzaWENTY THOUSANDzaHIRTY THOUSAND
yFORTY THOUSANDzaIFTY THOUSANDySIXTY THOUSANDzaEVENTY THOUSANDyEIGHTY THOUSANDyNINETY THOUSANDyON
E HUNDRED THOUSANDyTWO HUNDRED THOUSANDzaHREE HUNDRED THOUSANDyFOUR HUNDRED THOUSANDzaIVE HUNDRED T
HOUSANDySIX HUNDRED THOUSANDzaEVEN HUNDRED THOUSANDyEIGHT HUNDRED THOUSANDyNINE HUNDRED THOUSANDrFR
ACTION ONE TWELFTHzbTWO TWELFTHSzcHREE TWELFTHSzbFOUR TWELFTHSzcIVE TWELFTHSzbSIX TWELFTHSzcEVEN TW
ELFTHSzbEIGHT TWELFTHSzbNINE TWELFTHSzbTEN TWELFTHSaKHAROSHTHI LETTER AlVOWEL SIGN IwUwVOCALIC R.10
A05aKHAROSHTHI VOWEL SIGN EwO.10A0CaKHAROSHTHI VOWEL LENGTH MARKlSIGN DOUBLE RING BELOWqANUSVARAqVI
SARGAlLETTER KAtHAsGAtHA.10A15aKHAROSHTHI LETTER CAtHAsJA.10A19aKHAROSHTHI LETTER NYAsTTAuHAsDDAuHA
sNNAsTAtHAsDAtHAsNAsPAtHAsBAtHAsMAsYAsRAsLAsVAsSHAtSAtAsZAsHAsKKAsTTTHAvAsVHA.10A38aKHAROSHTHI SIG
N BAR ABOVEqCAUDAqDOT BELOW.10A3FaKHAROSHTHI VIRAMAlDIGIT ONErTWOsHREErFOURlNUMBER TENtWENTYsONE HU
NDREDwTHOUSANDlFRACTION ONE HALF.10A50aKHAROSHTHI PUNCTUATION DOTxSMALL CIRCLExCIRCLEyRESCENT BARxM
ANGALAMxLOTUSxDANDAyOUBLE DANDAxLINES.10A60aOLD SOUTH ARABIAN LETTER HEzaLAMEDHzaHETHzaMEMzaQOPHzaW
AWzaSHINzaRESHzaBETHzaTAWzaSATzaKAPHzaNUNzaKHETHzaSADHEzcMEKHzaFEzaALEFzbYNzaDHADHEzaGIMELzaDALETHz
aGHAYNzaTETHzaZAYNzaDHALETHzaYODHzaTHAWzcETHsNUMBER ONEzaFIFTYvERIC INDICATOReNORTH ARABIAN LETTE
R HEHzaLAMzaHAHzaMEEMzaQAFzaWAWzaES-2zaREHzaBEHzaTEHzaES-1zaKAFzaNOONzaKHAHzaSADzaES-3zaFEHzaALEFzb
INzaDADzaGEEMzaDALzaGHAINzaTAHzaZAINzaTHALzaYEHzaTHEHzaZAHsNUMBER ONEzaTENzbWENTY.10AC0aMANICHAEA
N LETTER ALEPHsBETHtHETHsGIMELtHIMELsDALETHsHEsWAWlSIGN UDlLETTER ZAYINtHAYINsJAYINtHAYINsHETHsTETH
sYODHsKAPHsXAPHsKHAPHsLAMEDHsDHAMEDHsTHAMEDHsMEMsNUNsSAMEKHsAYINtAYINsPEsFEsSADHEsQOPHsXOPHsQHOPHsR
ESHsSHINtSHINsTAWlABBREVIATION MARK ABOVEzeBELOW.10AEBaMANICHAEAN NUMBER ONEsFIVEsTENtWENTYsONE HUN
DREDlPUNCTUATION STARxFLEURONxDOUBLE DOT WITHIN DOTzaT WITHIN DOTzaTxTWO DOTSxLINE FILLER.10B00aAVE
STAN LETTER AqAqOqAOqNqANqErEpEqEpOqOpIqIpUqUpKEpXEqYEqVEpGEqGEqHEpCEpJEpTEqHEpDEqHEpTTEpPEpFEpBEqH
EpNGErYErVEqEqYEqNEpMEpHMEpYYEqEpVEpREpLEpSEpZEpSHEpZHEpSHYEqSHEpHE.10B39aAVESTAN ABBREVIATION MARK
aTINY TWO DOTS OVER ONE DOT PUNCTUATIONaSMALL TWO DOTS OVER ONE DOT PUNCTUATIONaLARGE TWO DOTS OVE
R ONE DOT PUNCTUATIONgONE DOT OVER TWO DOTS PUNCTUATIONgTWO RINGS OVER ONE RING PUNCTUATIONgONE RIN
G OVER TWO RINGS PUNCTUATIONaINSCRIPTIONAL PARTHIAN LETTER ALEPHzfBETHzfGIMELzfDALETHzfHEzfWAWzfZAY
INzfHETHzfTETHzfYODHzfKAPHzfLAMEDHzfMEMzfNUNzfSAMEKHzfAYINzfPEzfSADHEzfQOPHzfRESHzfSHINzfTAW.10B58a
INSCRIPTIONAL PARTHIAN NUMBER ONEzfTWOzgHREEzfFOURzfTENzgWENTYzfONE HUNDREDzjTHOUSANDqHLAVI LETTE
R ALEPHzeBETHzeGIMELzeDALETHzeHEzeWAW-AYIN-RESHzeZAYINzeHETHzeTETHzeYODHzeKAPHzeLAMEDHzeMEM-QOPHzeN
UNzeSAMEKHzePEzeSADHEzfHINzeTAW.10B78aINSCRIPTIONAL PAHLAVI NUMBER ONEzeTWOzfHREEzeFOURzeTENzfWENTY
zeONE HUNDREDziTHOUSANDaPSALTER PAHLAVI LETTER ALEPHxBETHxGIMELxDALETHxHExWAW-AYIN-RESHxZAYINxHETHx
YODHxKAPHxLAMEDHxMEM-QOPHxNUNxSAMEKHxPExSADHEyHINxTAW.10B99aPSALTER PAHLAVI SECTION MARKqTURNED SEC
TION MARKqFOUR DOTS WITH CROSSzgDOT.10BA9aPSALTER PAHLAVI NUMBER ONExTWOyHREExFOURxTENyWENTYxONE HU
NDRED.10C00aOLD TURKIC LETTER ORKHON AsYENISEI AzcEsORKHON IsYENISEI IzbEsORKHON OzbEsYENISEI OEsOR
KHON ABsYENISEI ABsORKHON AEBsYENISEI AEBsORKHON AGsYENISEI AGsORKHON AEGsYENISEI AEGsORKHON ADsYEN
ISEI ADsORKHON AEDzaEZsYENISEI EZsORKHON AYsYENISEI AYsORKHON AEYsYENISEI AEYsORKHON AEKsYENISEI AE
KsORKHON OEKsYENISEI OEKsORKHON ALsYENISEI ALsORKHON AELzaELTzbMzaANzbENsYENISEI AENsORKHON ENTsYEN
ISEI ENTsORKHON ENCsYENISEI ENCsORKHON ENYsYENISEI ENYzbANGsORKHON ENGsYENISEI AENGsORKHON EPzaOPza
ICzaECsYENISEI ECsORKHON AQsYENISEI AQsORKHON IQsYENISEI IQsORKHON OQsYENISEI OQsORKHON ARsYENISE
I ARsORKHON AERzbSzbESzbSHsYENISEI ASHsORKHON ESHsYENISEI ESHsORKHON ATsYENISEI ATsORKHON AETsYENIS
EI AETsORKHON OTzaBASH.10C80aOLD HUNGARIAN CAPITAL LETTER AzfAzeEBzeAMBzeECzfNCzfCSzfDzeANDzeEzeCLO
SE EzeEEzfFzfGzgYzfHzeIzfIzeEJzfKzeAKzeUNKzeELzgYzfMzfNzgYzeOzfOzeNIKOLSBURG OEzeRUDIMENTA OEzeOEEz
eEPzfMPzfRzeSHORT ERzeESzgZzfTzfNTzfTYzfCHzeUzfUzeNIKOLSBURG UEzeRUDIMENTA UEzeEVzfZzgSzfNT-SHAPE
D SIGNzeUS.10CC0aOLD HUNGARIAN SMALL LETTER AzdAzcEBzcAMBzcECzdNCzdCSzdDzcANDzcEzcCLOSE EzcEEzdFzdG
zeYzdHzcIzdIzcEJzdKzcAKzcUNKzcELzeYzdMzdNzeYzcOzdOzcNIKOLSBURG OEzcRUDIMENTA OEzcOEEzcEPzdMPzdRzcSH
ORT ERzcESzeZzdTzdNTzdTYzdCHzcUzdUzcNIKOLSBURG UEzcRUDIMENTA UEzcEVzdZzeSzdNT-SHAPED SIGNzcUS.10CFA
aOLD HUNGARIAN NUMBER ONEvFIVEvTENvFIFTYvONE HUNDREDzaTHOUSANDaHANIFI ROHINGYA LETTER AxBAxPAxTAyTA
xJAxCAxHAxKHAxFAxDAyDAxRAyRAxZAxSAyHAxKAxGAxLAxMAxNAxWAxKINNA WAxYAxKINNA YAxNGAyYAxVAqVOWEL AwIwUw
EwOqMARK SAKINvNA KHONNAqSIGN HARBAHAYvTAHALAxNAxSSI.10D30aHANIFI ROHINGYA DIGIT ZEROwONEwTWOxHREEw
FOURxIVEwSIXxEVENwEIGHTwNINE.10E60aRUMI DIGIT ONElTWOmHREElFOURmIVElSIXmEVENlEIGHTlNINEfNUMBER TENn
WENTYnHIRTYmFORTYnIFTYmSIXTYnEVENTYmEIGHTYmNINETYmONE HUNDREDmTWO HUNDREDnHREE HUNDREDmFOUR HUNDRED
nIVE HUNDREDmSIX HUNDREDnEVEN HUNDREDmEIGHT HUNDREDmNINE HUNDREDfFRACTION ONE HALFsQUARTERsTHIRDoTW
O THIRDS.10E80aYEZIDI LETTER ELIFoBEoPEpHEoTHEoSEoCIMpHIMqHIMoHHAoXAoDALoZALoRApHAoZAoJAoSINpHINpAD
oDADoTAoZEoEYNoXHEYNoFAoVAq ALTERNATE FORMoQAFoKAFpHAFoGAFoLAMoMIMoNUNoUMoWAWoOWoEWoHAYoYOToET.10EA
BaYEZIDI COMBINING HAMZA MARKrMADDA MARKhHYPHENATION MARK.10EB0aYEZIDI LETTER LAM WITH DOT ABOVEoYO
T WITH CIRCUMFLEX ABOVE.10F00aOLD SOGDIAN LETTER ALEPHtFINAL ALEPHtBETHtFINAL BETHtGIMELtHEtFINAL H
EtWAWtZAYINtHETHtYODHtKAPHtLAMEDHtMEMtNUNtFINAL NUNzd WITH VERTICAL TAILtSAMEKHtAYINuLTERNATE AYINt
PEtSADHEtFINAL SADHEzf WITH VERTICAL TAILtRESH-AYIN-DALETHtSHINtTAWtFINAL TAWzd WITH VERTICAL TAILm
NUMBER ONEtTWOuHREEtFOURuIVEtTENuWENTYuHIRTYtONE HUNDREDmFRACTION ONE HALFmLIGATURE AYIN-DALETH.10F
30aSOGDIAN LETTER ALEPHpBETHpGIMELpHEpWAWpZAYINpHETHpYODHpKAPHpLAMEDHpMEMpNUNpSAMEKHpAYINpPEpSADHEp
RESH-AYINpSHINpTAWpFETHpLESHiINDEPENDENT SHINiCOMBINING DOT BELOWsTWO DOTS BELOWsDOT ABOVEsTWO DOT
S ABOVEsCURVE ABOVEyBELOWsHOOK ABOVExBELOWsLONG HOOK BELOWsRESH BELOWsSTROKE BELOWiNUMBER ONEpTENqW
ENTYpONE HUNDREDiPUNCTUATION TWO VERTICAL BARSzm WITH DOTSuCIRCLE WITH DOTuTWO CIRCLES WITH DOTSuHA
LF CIRCLE WITH DOT.10F70aOLD UYGHUR LETTER ALEPHsBETHsGIMEL-HETHsWAWsZAYINsFINAL HETHsYODHsKAPHsLAM
EDHsMEMsNUNsSAMEKHsPEsSADHEsRESHsSHINsTAWsLESHlCOMBINING DOT ABOVEzaBELOWvTWO DOTS ABOVEzfBELOWlPUN
CTUATION BARxTWO BARSzcDOTSxFOUR DOTS.10FB0aCHORASMIAN LETTER ALEPHsSMALL ALEPHsBETHsGIMELsDALETHsH
EsWAWsCURLED WAWsZAYINsHETHsYODHsKAPHsLAMEDHsMEMsNUNsSAMEKHsAYINsPEsRESHsSHINsTAWlNUMBER ONEsTWOtHR
EEsFOURsTENtWENTYsONE HUNDRED.10FE0aELYMAIC LETTER ALEPHpBETHpGIMELpDALETHpHEpWAWpZAYINpHETHpTETHpY
ODHpKAPHpLAMEDHpMEMpNUNpSAMEKHpAYINpPEpSADHEpQOPHpRESHpSHINpTAWjIGATURE ZAYIN-YODH.11000aBRAHMI SIG
N CANDRABINDUmANUSVARAmVISARGAmJIHVAMULIYAmUPADHMANIYAhLETTER ApAoIpIoUpUoVOCALIC RxRwLxLoEoAIoOoAU
oKApHAoGApHAoNGAoCApHAoJApHAoNYAoTTAqHAoDDAqHAoNNAoTApHAoDApHAoNAoPApHAoBApHAoMAoYAoRAoLAoVAoSHApSA
pAoHAoLLAoOLD TAMIL LLLAyRRAyNNNAhVOWEL SIGN AAsBHATTIPROLU AAsItIsUtUsVOCALIC RzcRzbLzcLsEsAIsOsAU
iIRAMAhDANDAiOUBLE DANDAhPUNCTUATION DOTvUBLE DOTtLINEtCRESCENT BARtLOTUS.11052aBRAHMI NUMBER ONEoT
WOpHREEoFOURpIVEoSIXpEVENoEIGHToNINEoTENpWENTYpHIRTYoFORTYpIFTYoSIXTYpEVENTYoEIGHTYoNINETYoONE HUND
REDsTHOUSANDhDIGIT ZEROnONEnTWOoHREEnFOURoIVEnSIXoEVENnEIGHTnNINEhSIGN OLD TAMIL VIRAMAhLETTER OL
D TAMIL SHORT EzfOhVOWEL SIGN OLD TAMIL SHORT EzjOhLETTER OLD TAMIL LLA.1107FaBRAHMI NUMBER JOINERa
KAITHI SIGN CANDRABINDUmANUSVARAmVISARGAhLETTER ApAoIpIoUpUoEoAIoOoAUoKApHAoGApHAoNGAoCApHAoJApHAoN
YAoTTAqHAoDDAqDHAqHAoRHAoNNAoTApHAoDApHAoNAoPApHAoBApHAoMAoYAoRAoLAoVAoSHApSApAoHAhVOWEL SIGN AAsIt
IsUtUsEsAIsOsAUhSIGN VIRAMAmNUKTAhABBREVIATION SIGNhENUMERATION SIGNhNUMBER SIGNhSECTION MARKhDOUBL
E SECTION MARKiANDAiOUBLE DANDAhVOWEL SIGN VOCALIC R.110CDaKAITHI NUMBER SIGN ABOVE.110D0aSORA SOMP
ENG LETTER SAHuTAHuBAHuCAHuDAHuGAHuMAHuNGAHuLAHuNAHuVAHuPAHuYAHuRAHuHAHuKAHuJAHuNYAHuAHuEEHuIHuUHuO
HuEHuMAE.110F0aSORA SOMPENG DIGIT ZEROtONEtTWOuHREEtFOURuIVEtSIXuEVENtEIGHTtNINE.11100aCHAKMA SIG
N CANDRABINDUmANUSVARAmVISARGAhLETTER AAoIoUoEoKAApHAAoGAApHAAoNGAAoCAApHAAoJAApHAAoNYAAoTTAAqHAAoD
DAAqHAAoNNAAoTAApHAAoDAApHAAoNAAoPAApHAAoBAApHAAoMAAoYYAApAAoRAAoLAAoWAAoSAAoHAAhVOWEL SIGN AsItIsU
tUsEsAIsOsAUsOIhO MARKhAU MARKhVIRAMAhMAAYYAA.11136aCHAKMA DIGIT ZEROnONEnTWOoHREEnFOURoIVEnSIXoEVE
NnEIGHTnNINEhSECTION MARKhDANDAiOUBLE DANDAhQUESTION MARKhLETTER LHAAhVOWEL SIGN AAsEIhLETTER VAA.1
1150aMAHAJANI LETTER AqIqUqEqOqKArHAqGArHAqCArHAqJArHAqNYAqTTAsHAqDDAsHAqNNAqTArHAqDArHAqNAqPArHAqB
ArHAqMAqRAqLAqVAqSAqHAqRRAjSIGN NUKTAjABBREVIATION SIGNjSECTION MARKjLIGATURE SHRI.11180aSHARADA SI
GN CANDRABINDUnANUSVARAnVISARGAiLETTER AqApIqIpUqUpVOCALIC RyRxLyLpEpAIpOpAUpKAqHApGAqHApNGApCAqHAp
JAqHApNYApTTArHApDDArHApNNApTAqHApDAqHApNApPAqHApBAqHApMApYApRApLAqLApVApSHAqSAqApHAiVOWEL SIGN AAt
IuItUuUtVOCALIC RzdRzcLzdLtEtAItOtAUiSIGN VIRAMAnAVAGRAHAnJIHVAMULIYAnUPADHMANIYAiOMiDANDAjOUBLE DA
NDAiABBREVIATION SIGNiSEPARATORjANDHI MARKjIGN NUKTAiVOWEL MODIFIER MARKiEXTRA SHORT VOWEL MARKiSUT
RA MARKiVOWEL SIGN PRISHTHAMATRA EiSIGN INVERTED CANDRABINDUiDIGIT ZEROoONEoTWOpHREEoFOURpIVEoSIXpE
VENoEIGHToNINEiEKAMiSIGN SIDDHAMiHEADSTROKEiCONTINUATION SIGNiSECTION MARK-1v2.111E1aSINHALA ARCHAI
C DIGIT ONEwTWOxHREEwFOURxIVEwSIXxEVENwEIGHTwNINEqNUMBER TENyWENTYyHIRTYxFORTYyIFTYxSIXTYyEVENTYxEI
GHTYxNINETYxONE HUNDREDzcTHOUSAND.11200aKHOJKI LETTER ApAoIoUoEoAIoOoAUoKApHAoGApGApHAoNGAoCApHAoJA
pJA.11213aKHOJKI LETTER NYAoTTAqHAoDDAqHAoNNAoTApHAoDApDDApHAoNAoPApHAoBApBApHAoMAoYAoRAoLAoVAoSAoH
AoLLAhVOWEL SIGN AAsItIsUsEsAIsOsAUhSIGN ANUSVARAmVIRAMAmNUKTAmSHADDAhDANDAiOUBLE DANDAhWORD SEPARA
TORhSECTION MARKhDOUBLE SECTION MARKhABBREVIATION SIGNhSIGN SUKUN.11280aMULTANI LETTER ApIpUpEpKAqH
ApGA.11288aMULTANI LETTER GHA.1128AaMULTANI LETTER CAqHApJAqJA.1128FaMULTANI LETTER NYApTTArHApDDAr
DArHApNNApTAqHApDAqHApNApPAqHApBA.1129FaMULTANI LETTER BHApMApYApRApLApVApSApHApRRAqHAiSECTION MARK
.112B0aKHUDAWADI LETTER AsArIsIrUsUrErAIrOrAUrKAsHArGAsGAsHArNGArCAsHArJAsJAsHArNYArTTAtHArDDAtDArR
RArDDHArNNArTAsHArDAsHArNArPAsHArBAsBAsHArMArYArRArLArVArSHAsArHAkSIGN ANUSVARAkVOWEL SIGN AAvIwIvU
wUvEvAIvOvAUkSIGN NUKTApVIRAMA.112F0aKHUDAWADI DIGIT ZEROqONEqTWOrHREEqFOURrIVEqSIXrEVENqEIGHTqNINE
.11300aGRANTHA SIGN COMBINING ANUSVARA ABOVEoANDRABINDUnANUSVARAnVISARGA.11305aGRANTHA LETTER AqApI
qIpUqUpVOCALIC RxL.1130FaGRANTHA LETTER EEpAI.11313aGRANTHA LETTER OOpAUpKAqHApGAqHApNGApCAqHApJAqH
ApNYApTTArHApDDArHApNNApTAqHApDAqHApNA.1132AaGRANTHA LETTER PAqHApBAqHApMApYApRA.11332aGRANTHA LETT
ER LAqLA.11335aGRANTHA LETTER VApSHAqSAqApHA.1133BaCOMBINING BINDU BELOWaGRANTHA SIGN NUKTAnAVAGRAH
AiVOWEL SIGN AAtIuItUuUtVOCALIC RzdR.11347aGRANTHA VOWEL SIGN EEtAI.1134BaGRANTHA VOWEL SIGN OOtAUi
SIGN VIRAMA.11350aGRANTHA OM.11357aGRANTHA AU LENGTH MARK.1135DaGRANTHA SIGN PLUTAiLETTER VEDIC ANU
SVARAvDOUBLE ANUSVARAqOCALIC RRxLLiVOWEL SIGN VOCALIC LzdL.11366aCOMBINING GRANTHA DIGIT ZEROyONEyT
WOzaHREEyFOURzaIVEySIX.11370aCOMBINING GRANTHA LETTER AzaKAzaNAzaVIzaPA.11400aNEWA LETTER AnAmInImU
nUmVOCALIC RvRuLvLmEmAImOmAUmKAnHAmGAnHAmNGAoHAmCAnHAmJAnHAmNYAoHAmTTAoHAmDDAoHAmNNAmTAnHAmDAnHAmNA
nHAmPAnHAmBAnHAmMAnHAmYAmRAnHAmLAnHAmWAmSHAnSAnAmHAfVOWEL SIGN AAqIrIqUrUqVOCALIC RzaRyLzaLqEqAIqOq
AUfSIGN VIRAMAkCANDRABINDUkANUSVARAkVISARGAkNUKTAkAVAGRAHAkFINAL ANUSVARAfOMfSIDDHIfDANDAgOUBLE DAN
DAfCOMMAfGAP FILLERfABBREVIATION SIGNfDIGIT ZEROlONElTWOmHREElFOURmIVElSIXmEVENlEIGHTlNINEgOUBLE CO
MMAfPLACEHOLDER MARK.1145DaNEWA INSERTION SIGNfSANDHI MARKfLETTER VEDIC ANUSVARAfSIGN JIHVAMULIYAkU
PADHMANIYA.11480aTIRHUTA ANJIiLETTER AqApIqIpUqUpVOCALIC RyRxLyLpEpAIpOpAUpKAqHApGAqHApNGApCAqHApJA
qHApNYApTTArHApDDArHApNNApTAqHApDAqHApNApPAqHApBAqHApMApYApRApLApVApSHAqSAqApHAiVOWEL SIGN AAtIuItU
uUtVOCALIC RzdRzcLzdLtEtSHORT EtAItOtSHORT OtAUiSIGN CANDRABINDUnANUSVARAnVISARGApRAMAnNUKTAnAVAGRA
HAiGVANGiABBREVIATION SIGNiOM.114D0aTIRHUTA DIGIT ZEROoONEoTWOpHREEoFOURpIVEoSIXpEVENoEIGHToNINE.11
580aSIDDHAM LETTER AqApIqIpUqUpVOCALIC RyRxLyLpEpAIpOpAUpKAqHApGAqHApNGApCAqHApJAqHApNYApTTArHApDDA
rHApNNApTAqHApDAqHApNApPAqHApBAqHApMApYApRApLApVApSHAqSAqApHAiVOWEL SIGN AAtIuItUuUtVOCALIC RzdR.11
5B8aSIDDHAM VOWEL SIGN EtAItOtAUiSIGN CANDRABINDUnANUSVARAnVISARGApRAMAnNUKTAnSIDDHAMiDANDAjOUBLE D
ANDAiSEPARATOR DOTsBARiREPETITION MARK-1y2y3iEND OF TEXT MARKiSECTION MARK WITH TRIDENT AND U-SHAPE
D ORNAMENTSznDOTTED CRESCENTSzbRAYS AND DOTTED CRESCENTSzrDOUBLE CRESCENTSzrTRIPLE CRESCENTSvDOUBL
E RINGzh WITH RAYSvWITH DOUBLE CRESCENTSzbTRIPLE CRESCENTSzbQUADRUPLE CRESCENTSzbSEPTUPLE CRESCENTS
zbCIRCLES AND RAYSznTWO ENCLOSURESznFOUR ENCLOSURESiLETTER THREE-CIRCLE ALTERNATE IqWO-CIRCLE ALTER
NATE IzmIpALTERNATE UiVOWEL SIGN ALTERNATE UzfU.11600aMODI LETTER AnAmInImUnUmVOCALIC RvRuLvLmEmAIm
OmAUmKAnHAmGAnHAmNGAmCAnHAmJAnHAmNYAmTTAoHAmDDAoHAmNNAmTAnHAmDAnHAmNAmPAnHAmBAnHAmMAmYAmRAmLAmVAmSH
AnSAnAmHAmLLAfVOWEL SIGN AAqIrIqUrUqVOCALIC RzaRyLzaLqEqAIqOqAUfSIGN ANUSVARAkVISARGAmRAMAkARDHACAN
DRAfDANDAgOUBLE DANDAfABBREVIATION SIGNfSIGN HUVA.11650aMODI DIGIT ZEROlONElTWOmHREElFOURmIVElSIXmE
VENlEIGHTlNINE.11660aMONGOLIAN BIRGA WITH ORNAMENTkROTATED BIRGAkDOUBLE BIRGA WITH ORNAMENTkTRIPL
E BIRGA WITH ORNAMENTkBIRGA WITH DOUBLE ORNAMENTkROTATED BIRGA WITH ORNAMENTzeDOUBLE ORNAMENTkINVER
TED BIRGAy WITH DOUBLE ORNAMENTkSWIRL BIRGAv WITH ORNAMENTzcDOUBLE ORNAMENTkTURNED SWIRL BIRGA WIT
H DOUBLE ORNAMENT.11680aTAKRI LETTER AoAnIoInUoUnEnAInOnAUnKAoHAnGAoHAnNGAnCAoHAnJAoHAnNYAnTTApHAnD
DApHAnNNAnTAoHAnDAoHAnNAnPAoHAnBAoHAnMAnYAnRAnLAnVAnSHAoAnHAnRRAgSIGN ANUSVARAlVISARGAgVOWEL SIGN A
ArIsIrUsUrErAIrOrAUgSIGN VIRAMAlNUKTAgLETTER ARCHAIC KHAgABBREVIATION SIGN.116C0aTAKRI DIGIT ZEROmO
NEmTWOnHREEmFOURnIVEmSIXnEVENmEIGHTmNINE.11700aAHOM LETTER KAnHAmNGAnAmTAmALTERNATE TAmPAnHAmBAmMAm
JAmCHAmTHAmRAmLAmSAmNYAmHAmAmDAnHAmGAmALTERNATE GAmGHAmBHAmJHAmALTERNATE BA.1171DaAHOM CONSONANT SI
GN MEDIAL LAzcRAzcLIGATING RAfVOWEL SIGN ArAqIrIqUrUqEqAWqOqAIrMfSIGN KILLER.11730aAHOM DIGIT ZEROl
ONElTWOmHREElFOURmIVElSIXmEVENlEIGHTlNINEfNUMBER TENnWENTYfSIGN SMALL SECTIONlECTIONkRULAIgYMBOL VI
fLETTER CAmTTAoHAmDDAoHAmNNAmLLA.11800aDOGRA LETTER AoAnIoInUoUnEnAInOnAUnKAoHAnGAoHAnNGAnCAoHAnJAo
HAnNYAnTTApHAnDDApHAnNNAnTAoHAnDAoHAnNAnPAoHAnBAoHAnMAnYAnRAnLAnVAnSHAoSAoAnHAnRRAgVOWEL SIGN AArIs
IrUsUrVOCALIC RzbRrErAIrOrAUgSIGN ANUSVARAlVISARGAnRAMAlNUKTAgABBREVIATION SIGN.118A0aWARANG CITI C
APITAL LETTER NGAAzcAzcWIzcYUzdAzdOzcIIzcUUzcEzcOzcANGzcGAzcKOzcENYzcYUJzcUCzcENNzcODDzcTTEzcNUNGzc
DAzcATzdMzcBUzcPUzcHIYOzdOLOzeRRzdARzcSSUUzdIIzcVIYOmSMALL LETTER NGAAzaAzaWIzaYUzbAzbOzaIIzaUUzaEz
aOzaANGzaGAzaKOzaENYzaYUJzaUCzaENNzaODDzaTTEzaNUNGzaDAzaATzbMzaBUzaPUzaHIYOzbOLOzcRRzbARzaSSUUzbIIz
aVIYOmDIGIT ZEROsONEsTWOtHREEsFOURtIVEsSIXtEVENsEIGHTsNINEmNUMBER TENuWENTYuHIRTYtFORTYuIFTYtSIXTYu
EVENTYtEIGHTYtNINETY.118FFaWARANG CITI OMaDIVES AKURU LETTER AuAtIuItUuUtE.11909aDIVES AKURU LETTE
R O.1190CaDIVES AKURU LETTER KAuHAtGAuHAtNGAtCAuHAtJA.11915aDIVES AKURU LETTER NYAtTTA.11918aDIVE
S AKURU LETTER DDAvHAtNNAtTAuHAtDAuHAtNAtPAuHAtBAuHAtMAtYAuYAtRAtLAtVAtSHAuSAuAtHAtLLAtZAmVOWEL SIG
N AAxIyIxUyUxE.11937aDIVES AKURU VOWEL SIGN AIxO.1193BaDIVES AKURU SIGN ANUSVARArCANDRABINDUrHALANT
AmVIRAMAmPREFIXED NASAL SIGNmMEDIAL YAmINITIAL RAmMEDIAL RAmSIGN NUKTAmDOUBLE DANDAmGAP FILLERmEN
D OF TEXT MARK.11950aDIVES AKURU DIGIT ZEROsONEsTWOtHREEsFOURtIVEsSIXtEVENsEIGHTsNINE.119A0aNANDINA
GARI LETTER AuAtIuItUuUtVOCALIC RzdR.119AAaNANDINAGARI LETTER EtAItOtAUtKAuHAtGAuHAtNGAtCAuHAtJAuHA
tNYAtTTAvHAtDDAvHAtNNAtTAuHAtDAuHAtNAtPAuHAtBAuHAtMAtYAtRAtLAtVAtSHAuSAuAtHAtLLAtRRAmVOWEL SIGN AAx
IyIxUyUxVOCALIC RzhR.119DAaNANDINAGARI VOWEL SIGN ExAIxOxAUmSIGN ANUSVARArVISARGAtRAMArAVAGRAHArSID
DHAMmHEADSTROKEmVOWEL SIGN PRISHTHAMATRA E.11A00aZANABAZAR SQUARE LETTER ArVOWEL SIGN IzdUEzdUzdEzd
OEzdOzdAIzeUzdREVERSED IxLENGTH MARKrLETTER KAzaHAyGAzaHAyNGAyCAzaHAyJAyNYAyTTAzbHAyDDAzbHAyNNAyTAz
aHAyDAzaHAyNAyPAzaHAyBAzaHAyMAyTSAzbHAyDZAzbHAyZHAzaAy-AyYAyRAyLAyVAySHAzaSAzaAyHAyKSSArFINAL CONSO
NANT MARKrSIGN VIRAMAwCANDRABINDUzi WITH ORNAMENTzd WITH ORNAMENTwANUSVARAwVISARGArCLUSTER-INITIA
L LETTER RAzaFINAL LETTER YAznRAznLAznVArINITIAL HEAD MARKrCLOSING HEAD MARKrMARK TSHEGwSHADwDOUBL
E SHADwLONG TSHEGrINITIAL DOUBLE-LINED HEAD MARKrCLOSING DOUBLE-LINED HEAD MARKrSUBJOINER.11A50aSOY
OMBO LETTER AiVOWEL SIGN ItUEtUtEtOuEtAIuUtVOCALIC RzcLoLENGTH MARKiLETTER KAqHApGAqHApNGApCAqHApJA
qHApNYApTTArHApDDArHApNNApTAqHApDAqHApNApPAqHApBAqHApMApTSArHApDZApZHAqAp-ApYApRApLApVApSHAqSAqApHA
pKSSAiSIGN JIHVAMULIYAnUPADHMANIYAiCLUSTER-INITIAL LETTER RAzgLAzgSHAzhAiFINAL CONSONANT SIGN GzeKz
eNGzeDzeNzeBzeMzeRzeLzeSHzeSze-AiSIGN ANUSVARAnVISARGAiGEMINATION MARKiSUBJOINERiMARK TSHEGnSHADnDO
UBLE SHADnPLUTAiHEAD MARK WITH MOON AND SUN AND TRIPLE FLAMEzpFLAMEzjNiTERMINAL MARK-1w2.11AB0aCANA
DIAN SYLLABICS NATTILIK HIzfIzeOzfOzeAzfAzdSHRIzhIzgOzhOzgAzhAtSPEvIvOvAaPAU CIN HAU LETTER PAtKAtL
AtMAtDAtZAtVAtNGAtHAtGAtKHAtSAtBAtCAtTAuHAtNAtPHAtRAtFAtCHAtAtEtItOtUuAtIAtFINAL PzaKzaTzaMzaNzaLza
WzaNGzaYmRISING TONE LONGwEmSANDHI GLOTTAL STOPmRISING TONE LONG FINALyFINALmSANDHI GLOTTAL STOP FI
NALtTONE LONGwEx LONG FINALyFINALmMID-LEVEL TONEmGLOTTAL STOP VARIANTmMID-LEVEL TONE LONG FINALzcFI
NALmLOW-FALLING TONE LONGzcEmGLOTTAL STOPmLOW-FALLING TONE LONG FINALzeFINALmGLOTTAL STOP FINAL.11C
00aBHAIKSUKI LETTER AsArIsIrUsUrVOCALIC RzbRzaL.11C0AaBHAIKSUKI LETTER ErAIrOrAUrKAsHArGAsHArNGArCA
sHArJAsHArNYArTTAtHArDDAtHArNNArTAsHArDAsHArNArPAsHArBAsHArMArYArRArLArVArSHAsSAsArHAkVOWEL SIGN AA
vIwIvUwUvVOCALIC RzfRzeL.11C38aBHAIKSUKI VOWEL SIGN EvAIvOvAUkSIGN CANDRABINDUpANUSVARApVISARGArRAM
ApAVAGRAHAkDANDAlOUBLE DANDAkWORD SEPARATORkGAP FILLER-1v2.11C50aBHAIKSUKI DIGIT ZEROqONEqTWOrHREEq
FOURrIVEqSIXrEVENqEIGHTqNINEkNUMBER ONErTWOsHREErFOURsIVErSIXsEVENrEIGHTrNINErTENsWENTYsHIRTYrFORTY
sIFTYrSIXTYsEVENTYrEIGHTYrNINETYkHUNDREDS UNIT MARK.11C70aMARCHEN HEAD MARKiMARK SHADiLETTER KAqHAp
GApNGApCAqHApJApNYApTAqHApDApNApPAqHApBApMApTSArHApDZApWApZHAqAp-ApYApRApLApSHAqApHApA.11C92aMARCHE
N SUBJOINED LETTER KAzbHAzaGAzaNGAzaCAzbHAzaJAzaNYAzaTAzbHAzaDAzaNAzaPAzbHAzaBAzaMAzaTSAzcHAzaDZAza
WAzaZHAzbA.11CA9aMARCHEN SUBJOINED LETTER YAzaRAzaLAzaSHAzbAzaHAzaAiVOWEL SIGN AAtItUtEtOiSIGN ANUS
VARAnCANDRABINDU.11D00aMASARAM GONDI LETTER AwAvIwIvUwUvE.11D08aMASARAM GONDI LETTER AIvO.11D0BaMAS
ARAM GONDI LETTER AUvKAwHAvGAwHAvNGAvCAwHAvJAwHAvNYAvTTAxHAvDDAxHAvNNAvTAwHAvDAwHAvNAvPAwHAvBAwHAvM
AvYAvRAvLAvVAvSHAwSAwAvHAvLLAvKSSAvJNYAvTRAoVOWEL SIGN AAzaIzbIzaUzbUzaVOCALIC R.11D3AaMASARAM GOND
I VOWEL SIGN E.11D3CaMASARAM GONDI VOWEL SIGN AIzaO.11D3FaMASARAM GONDI VOWEL SIGN AUoSIGN ANUSVARA
tVISARGAtNUKTAtCANDRAtHALANTAoVIRAMAoREPHApA-KARA.11D50aMASARAM GONDI DIGIT ZEROuONEuTWOvHREEuFOURv
IVEuSIXvEVENuEIGHTuNINE.11D60aGUNJALA GONDI LETTER AwAvIwIvUwU.11D67aGUNJALA GONDI LETTER EEvAI.11D
6AaGUNJALA GONDI LETTER OOvAUvYAvVAvBAwHAvMAvKAwHAvTAwHAvLAvGAwHAvDAwHAvNAvCAwHAvTTAxHAvLLAvJAwHAvD
DAxHAvNGAvPAwHAvHAvRAvSAoVOWEL SIGN AAzaIzbIzaUzbU.11D90aGUNJALA GONDI VOWEL SIGN EEzaAI.11D93aGUNJ
ALA GONDI VOWEL SIGN OOzaAUoSIGN ANUSVARAtVISARGAoVIRAMAoOM.11DA0aGUNJALA GONDI DIGIT ZEROuONEuTWOv
HREEuFOURvIVEuSIXvEVENuEIGHTuNINE.11EE0aMAKASAR LETTER KApGApNGApPApBApMApTApDApNApCApJApNYApYApRAp
LApVApSApAiANGKAiVOWEL SIGN ItUtEtOiPASSIMBANGiEND OF SECTION.11FB0aLISU LETTER YHA.11FC0aTAMIL FRA
CTION ONE THREE-HUNDRED-AND-TWENTIETHtONE-HUNDRED-AND-SIXTIETHtEIGHTIETHtSIXTY-FOURTHtFORTIETHtTHIR
TY-SECONDpTHREE EIGHTIETHSvSIXTY-FOURTHSpONE TWENTIETHtSIXTEENTH-1ze2tTENTHtEIGHTHpTHREE TWENTIETHS
vSIXTEENTHSpONE FIFTHtQUARTERtHALF-1y2pTHREE QUARTERSpDOWNSCALING FACTOR KIIZHgSIGN NELlCEVITUlAAZH
AAKKUlUZHAKKUlMUUVUZHAKKUlKURUNIlPATHAKKUlMUKKURUNIlKAACUlPANAMmONlVARAAKANlPAARAMlKUZHIlVELIgWET C
ULTIVATION SIGNgDRY CULTIVATION SIGNgLAND SIGNgSALT PAN SIGNgTRADITIONAL CREDIT SIGNsNUMBER SIGNgCU
RRENT SIGNgAND ODD SIGNgSPENT SIGNgTOTAL SIGNgIN POSSESSION SIGNgSTARTING FROM SIGNhIGN MUTHALIYAlV
AKAIYARAA.11FFFaTAMIL PUNCTUATION END OF TEXTaCUNEIFORM SIGN Aq TIMES AxBADxGAN2 TENUxHAxIGIxLAGA
R GUNUxMUSHxSAGq2qBr TIMES ASH2yDUN3 GUNUyGALzbN2 TENUyHAyIGI GUNUzaMINyLAGABySHESHyU PLUS U PLUS U
sGUNUr2s TIMES BALAGzaGAN2 TENUzaME PLUS ENzaSHA3zaTAK4qDqKr TIMES ERIN2ySHITA PLUS GISHqLr TIMES A
LyDIM2yGISHyHAyKAD3zaIySHEyUSHrANrEPHqMARt TIMES SHEqNr OVER ANsTHREE TIMESsPLUS NAGA OPPOSING AN P
LUS NAGAzdSQUAREDrSHEqPINqRADt TIMES KURrKABqSAL2rHs ZIDA TENUtKABA TENUtOVER ASH TUG2 OVER TUG2 TU
G2 OVER TUG2 PAPzdOVER ASHzl CROSSING ASH OVER ASH OVER ASHs2sGABpBArDrG3rHAR2rLs OVER BALsAGrRsA2q
Ir TIMES AyGARyIGI GUNUqUr OVER BU ABzbUNsCROSSING BUrLUGu OVER BULUGrRs2pDArGs KISIM5 TIMES A PLU
S MASHziMARzhBALAGziIzhGAzj PLUS MASHziIzjR2ziUDzhHAzhIRzj PLUS LUzhKAKzhLAziUzj PLUS MASH2zjMzhNEz
hPAP PLUS PAPzhSIzhTAK4zhU2 PLUS GIR2ziSHrMrRsA3t4qIrBrMs TIMES SHEs2rNs KASKAL U GUNU DISHrSHqUr O
VER DUsGUNUsSHESHIGrBs TIMES ESH2s2rGsUDrHrNs3t GUNUy GUNUs4rR2pEq TIMES PAPrOVER E NUN OVER NUNq2
r TIMES A PLUS HA PLUS DAyGARyMIySALzaHEyUqDINqGIRqLqNr TIMES GAN2zd TENUyMEsCROSSING ENsOPPOSING E
NsSQUAREDqRENrIN2qSH2qZENt TIMES Azc PLUS LALzl TIMES LALzcNzbBADzbDUN3 GUNUzk GUNUzbHAzd GUNUzbIG
I GUNUzbKASKALzh SQUAREDzcU3zbLAzdL TIMES LALzcIzcUzbU2zcDpGAr GUNUr2s TIMES A PLUS DA PLUS HAzhHAz
hIGIzbB2 TENU PLUS TABzbNzbSHzd2 PLUS GALzaBADzcR PLUS RAzbURzd PLUS RAzaDAzbIzcM TIMES SHEzbUBzaEL
zc PLUS LAzbNzc TIMES GAN2 TENUzaGAN2 TENUzcRzbIzc4zd PLUS AzcR2 PLUS SUzaHA PLUS LU PLUS ESH2zcLz
d PLUS LAzbI PLUS LIzbUB2zaIGI GUNUzbSH PLUS HU PLUS ASHzaKAKzcSKALzbIDzd PLUS LALzbU3 PLUS ANzaLAz
aME PLUS ENzbIzaNUNzd OVER NUNzaPAzaSALzcRzbHEzd PLUS TURzcIDzbUMzaTAK4zaUzbDzc PLUS DUtOVER GA2rBA
t CROSSING GABArDs OVER GAD GAR OVER GARrLs GAD OVER GAD GAR OVER GARsAMrMrNs2t TENUuOVER GAN2uCROS
SING GAN2rRs3rSHANqESHTINw TIMES KURqIr TIMES EyUsCROSSING GIr4s OVER GI4tCROSSING GI4rDIMrR2t GUNU
s3t TIMES A PLUS IGIzbGAN2 TENUzbIGIzbLU PLUS IGIzbPArSALsHt CROSSING GISHuTIMES BADzbTAK4vENUqUr C
ROSSING GUr2s TIMES KAKzd TIMES IGI GUNUzaNUNzaSAL PLUS TUG2tGUNUrDs TIMES A PLUS KURzaKURtOVER GU
D LUGALrLrMs TIMES SHErRs7sUNtSHpHAr TENUsGUNUrLqIr TIMES ASHzc2yBADyDISHyGADyKINyNUNySHEyUqUrB2t T
IMES ANzbHALzbKASKALzbLISHzbUDrL2pIq AqBqDIMt OVER IDIM BURzfSQUAREDqGrIs DIBtRItOVER IGI SHIR OVE
R SHIR UD OVER UDtGUNUqLr TIMES GAN2 TENUr2qMr TIMES TAK4sCROSSING IMsOPPOSING IMsSQUAREDrINqNqRqSH
pKAr TIMES AzaDzb PLUS KU3zaSH2yBADzbLAGzbRzaIyERIN2zaSH2yGAzbLzbN2 TENUzbRzc PLUS SHA3 PLUS AzaIzb
R2zbSH PLUS SARzeCROSSING GISHzaUzbR7yIGIzaMyKAKzaIzbDyLIzaUyMEzb PLUS DUzhGIzhTEzaIzb PLUS NUNUZyN
EzaUNyPIyRUySAzbRzaHAzbEzbIDzbUzaIGzaUHURyTARyUza2zaDzaMUM TIMES PAzaSHyZIr2s CROSSING KA2rBrD2s3s4
s5t OVER KAD5rKs TIMES IGI GUNUrLs TIMES BADtCROSSING KALrM2s4rSKALv LAGAB TIMES U OVER LAGAB TIME
S UwOVER KASKAL LAGAB TIMES U OVER LAGAB TIMES UqESH2qIr TIMES BADyUzaDrDrNrSALsHsIM5v OVER KISIM5q
Ur OVER HI TIMES ASH2 KU OVER HI TIMES ASH2r3r4s VARIANT FORMr7rLs GUNUrNrRs OPPOSING KURrSHU2qWU31
8pLArGABu TIMES Azd PLUS DA PLUS HAzjGARzjLALzdLzdNzdSH ZIDA TENUzcBADzdIzcDARzcENzcGAzeRzdUDzf PLU
S GUDzcHAzeLzdI TIMES NUNzcIGI GUNUzdMze PLUS HAzkLUzcKIzeNzdU3zeLzf PLUS HI PLUS AzcLAGABzdISHzdUz
eLzcMEze PLUS ENzdUSHzcNEzcSHE PLUS SUMzeITA PLUS GISH PLUS ERIN2zsTENUzeU2zg PLUS SHU2zdUMzcTAGzeK
4zdE PLUS A PLUS SU PLUS NAzcUzd PLUS AzjU PLUS Uzd2 PLUS ASHzdDzdSHvSQUAREDtRu TIMES SHEzf PLUS SU
MvGUNUza OVER LAGAR GUNU SHErHSHUrLs TIMES LALrMs TIMES KURzd PLUS RUqIrLrMMU2rSHqUr TIMES BADr2s T
IMES ALzaBADzaESH2ze TENUzaGAN2 TENUzaHI TIMES BADzaIMzaKAD2zd3ze PLUS ASHzbIzaLA PLUS ASHzcGABzaM
E PLUS ENzaNEzbUzaSI PLUS ASHzcK2 PLUS BUzaTUG2uENUtCROSSING LU2tOPPOSING LU2tSQUAREDuHESHIGr3rGAL
u OVER LUGALwPPOSING LUGALvSHESHIGrHrLrMs OVER LUMzc GAR OVER GARpMAr TIMES TAK4sGUNUr2rHrRrSHt2qEr
SqIrNqUr OVER MUrGs GUNUrNSUBrRGU2rSHt TIMES AzbKURzbZAuOVER MUSHze TIMES A PLUS NAuCROSSING MUSHt3
u TIMES Azd PLUS DIzcDIvGUNUpNAr2rGAt INVERTEDuTIMES SHU TENUuOPPOSING NAGAtRrM NUTILLUrMs2qEr TIME
S AyUDsSHESHIGqIr TIMES Er2rMs TIMES GAN2 TENUzcR PLUS GAN2 TENUrNDA2v TIMES ANzeSHzg PLUS ASHzdGUD
zdME PLUS GAN2 TENUzdNEzeUNzdSHEzg PLUS A ANznSHzp PLUS ASHzdU2 PLUS ASHzeSHrSAGqUr11rNs LAGAR TIME
S GARzgMASHzgSALzj OVER NUN LAGAR TIMES SALzgUSHtTENUtOVER NUNtCROSSING NUNzg LAGAR OVER LAGARsUZ
u AB2 TIMES ASHGABzgBIzgDUGzgGUDzgIGI GUNUzgKAD3zgLAzgNEzgSILA3zgU2vKISIM5 TIMES BIzl UpPArDrNrPqES
H2qIr TIMES AzaByBIzaUyEyIzaByUza2sCROSSING PIrRIGu TIMES KALzcUDzcZAvOPPOSING PIRIGpRArBqIqUpSAr
G NUTILLUrGs TIMES AzaDUzcBzaHAzaKAKzbURzaLUMzaMIzaNUNzaSALzbHIDzaTABzaU2zbBzbMzbRzbSHtOVER SAGtGUN
UrLs LAGAB TIMES ASH2rNGA2rRqHAs3t TIMES AzbBADzbGISHzbNEzbSHU2zbTURzbUzc PLUS As6sB6sR2rEs HUtOVE
R SHE GAD OVER GAD GAR OVER GARzdTAB OVER TAB GAR OVER GARsG9sNsSHu2uLAMrIDt TIMES AzbIMsMt TIMES A
zbBALzcULUGzbDINzbGARzbIGIze GUNUzbKUSHU2zbLULzbMUGzbSALsNIGsRt TENUuOVER SHIR BUR OVER BURsTArUs O
VER INVERTED SHUs2sBURqIr GUNUrGs4t OVER SIG4 SHU2rK2rLA3qUr OVER SUrDs2rHURrMsASHrRs9pTAr ASTERISK
sTIMES HIyMIsGUNUrBs OVER TAB NI OVER NI DISH OVER DISHtSQUAREDrGs TIMES BIzaGUDzaSHEzcUzaTUG2zaUDr
K4rRqEr GUNUqIr TENUrLrRs TIMES TAK4tOVER TIRzc GAD OVER GAD GAR OVER GARqUrG2rKrMrRs OVER TUR ZA O
VER ZApUq GUDrU UrOVER U PA OVER PA GAR OVER GARySUR OVER SURyU REVERSED OVER U REVERSEDq2qBqDr KUS
HU2sTIMES BADyMIyU PLUS U PLUS Uzo GUNUsGUNUsSHESHIGza TIMES BADrUGqMr TIMES LAGAByME PLUS DAySHA3y
UrBINrUMt TIMES KASKALzbPAqNr GUNUqRr CROSSING URsSHESHIGr2s TIMES A PLUS HAzhNAzbLzaHAzaNUNzaU2z
c PLUS ASHziBIr4rIs3rUs TIMES AzbSHGABzaBARzaDUNzaGAzcLzcN2 TENUzcRzbUzaHAzaIGIzbMzbSHzaKIzaLUMzaMI
NzaPAzaSHEzbIG4zaTUzaU PLUS GUDzbDzbRUDAsDAu TIMES UqSHs TIMES AzaKUzcRzaTAK4sXs2sUMXqTUKIqZ3s TIME
S KASKALrUpZAr TENUsSQUARED TIMES KURrGrMXqE2qIr OVER ZIr3rBs KABA TENUrGrZ2qUr5s TIMES ArBURrMpKA
P ELAMITEpAB TIMES NUNr2 TIMES AqMAR TIMES KUGpDAG KISIM5 TIMES U2 PLUS MASHs3qISH PLUS SHUqUB TIME
S SHEpEZEN TIMES GUDzbSHEpGA2 TIMES AN PLUS KAK PLUS AzbSH2qE22qIGpHUSHpKA TIMES ANSHEzaSH3yGISHzaU
DyHI TIMES ASH2yLUMyPAySHULyTUyUR2pLAGAB TIMES GIqU2 SHESHIG TIMES BADtTIMES ESH2 PLUS LALzaSHUpMES
HqUSH3 TIMES ZApNA4qINs9sDA2 TIMES BALzdGIqU11 ROTATED NINETY DEGREESpPESH2 ASTERISKqIR2pSAG TIME
S IGI GUNUpTI2pUM TIMES MEq U.12400aCUNEIFORM NUMERIC SIGN TWO ASHyHREE ASHxFOUR ASHyIVE ASHxSIX AS
HyEVEN ASHxEIGHT ASHxNINE ASHxTHREE DISHxFOUR DISHyIVE DISHxSIX DISHyEVEN DISHxEIGHT DISHxNINE DISH
xFOUR UyIVE UxSIX UyEVEN UxEIGHT UxNINE UxONE GESH2xTWO GESH2yHREE GESH2xFOUR GESH2yIVE GESH2xSIX G
ESH2yEVEN GESH2xEIGHT GESH2xNINE GESH2xONE GESHUxTWO GESHUyHREE GESHUxFOUR GESHUyIVE GESHUxTWO SHAR
2yHREE SHAR2zj VARIANT FORMxFOUR SHAR2yIVE SHAR2xSIX SHAR2yEVEN SHAR2xEIGHT SHAR2xNINE SHAR2xONE SH
ARUxTWO SHARUyHREE SHARUzj VARIANT FORMxFOUR SHARUyIVE SHARUxSHAR2 TIMES GAL PLUS DISHztMINxONE BUR
UxTWO BURUyHREE BURUzi VARIANT FORMxFOUR BURUyIVE BURUxTHREE VARIANT FORM ESH16zu21xFOUR VARIANT FO
RM LIMMUzv4zv AzwBxSIX VARIANT FORM ASH9yEVEN VARIANT FORM IMIN3zv AzwBxEIGHT VARIANT FORM USSUzv3x
NINE VARIANT FORM ILIMMUzw3zw4zw AxTWO ASH TENUyHREE ASH TENUxFOUR ASH TENUyIVE ASH TENUxSIX ASH TE
NUxONE BAN2xTWO BAN2yHREE BAN2xFOUR BAN2zh VARIANT FORMyIVE BAN2zh VARIANT FORMxNIGIDAMINzeESHxON
E ESHE3xTWO ESHE3xONE THIRD DISHxTWO THIRDS DISHxFIVE SIXTHS DISHxONE THIRD VARIANT FORM AxTWO THIR
DS VARIANT FORM AxONE EIGHTH ASHzcQUARTER ASHyLD ASSYRIAN ONE SIXTHzpQUARTERyNE QUARTER GURzcHALF G
URxELAMITE ONE THIRDzgTWO THIRDSzgFORTYzhIFTYxFOUR U VARIANT FORMyIVE U VARIANT FORMxSIX U VARIAN
T FORMyEVEN U VARIANT FORMxEIGHT U VARIANT FORMxNINE U VARIANT FORM.12470aCUNEIFORM PUNCTUATION SIG
N OLD ASSYRIAN WORD DIVIDERzcVERTICAL COLONzcDIAGONAL COLONzlTRICOLONzlQUADCOLON.12480aCUNEIFORM SI
GN AB TIMES NUN TENUySHU2qD TIMES ESH2pBAD TIMES DISH TENUrHAR2 TIMES AB2zdNIzdZAqU OVER BU TIMES N
A2pDA TIMES TAK4rG TIMES KURqIM TIMES IGIzaU U Us2 TIMES UDqUG TIMES ANSHEzbSHzd AT LEFTzaDINzbUNza
ERIN2zaGAzbIzcR2 GUNUzcSHzaHAzbIzaIGI GUNUzaKASKALzbURzcSHU2zg PLUS KASKALzaLAK-020zcMzd TIMES KURz
bUH PLUS GISHzaMASHzbESzbIzaNIzaPIzaSHEzbI GUNUpE2 TIMES KURyPAPqRIN2 XqSH2 CROSSING ESH2qZEN SHESH
IG TIMES ASHzjHIzjIGI GUNUzjLAzlLzjMEzlSzjSUuTIMES SUpGA2 TIMES BAHAR2zaDIM GUNUzbUG TIMES IGI GUNU
zkKASKALzaERENzaGAzcR PLUS DIzjNEzaHA PLUS AzaKUSHU2 PLUS KASKALzaLAMzd TIMES KURzbUHzaMUSHzaNEzc P
LUS E2ziGIzaSHIMzaZIZ2rBA ROTATED NINETY DEGREESqESHTIN TIMES UqISH TIMES GISH CROSSING GISHqU2 TIM
ES IGI GUNUrD PLUS GISH TIMES TAK4pHA TENU GUNUqI TIMES ASH OVER HI TIMES ASHpKA TIMES BUyKAyU U Uz
aRpLAGAB TIMES ZU OVER ZUrK-003u21v5u30u50v1u62u79 OVER LAK-079 GUNUu80v1 OVER LAK-081u92t130u42t21
0v9u20v5v8u38u65v6t343v7v8u83v4u90t441v9w TIMES GUzeIGIzePAP PLUS LU3znPAP PLUS LU3zeU2 PLUS BAu50v
7u70u83u90v2v3v5t550t608u17w TIMES ASHzeBADzeDUN3 GUNU GUNUzeKU3zeLAzeTARzfEzeU2zfDzfRUDAu36u48w TI
MES DUBzeGAzeIGIzh GUNUzeNIzePAP PLUS PAP PLUS LU3zeSHESH PLUS KIzeUDzfRUDAt724u49qU2 GUNU TIMES AS
HtTIMES DISHzaHALzaPAPzd PLUS PAP PLUS LU3zaTAK4pMI PLUS ZA7qUSH OVER MUSH TIMES GAzlKAKpNINDA2 TIM
ES DIM GUNUzdGISHzeULzdHIzdKESH2zdLAK-050zdMASHzdPAP PLUS PAPzdUze PLUS UzeRUDApSAG GUNU TIMES HAtT
IMES ENzaSHE AT LEFTzaTAK4qHA6 TENUrE OVER SHEtPLUS HUB2yNAM2ySARrU2 PLUS DUG TIMES NIzaE2 TIMES AN
qI TIMES TAK4pTAK4 PLUS SAGqUM TIMES GAN2 TENUzaTHREE DISHpUR2 INVERTEDtTIMES UDrU TIMES DARA3zaLAK
-668zbU3pZA7qU OVER ZU PLUS SARr5 TIMES THREE DISH TENU.12F90aCYPRO-MINOAN SIGN CM001w2w4w5w6w7w8w9
v10w1w2xBw3w5w7w9v21w3w4w5w6w7w8w9v30w3w4w5w6w7w8w9v40w1w4w6w7w9v50w1w2w3w4w5w6w8w9v60w1w2w3w4w6w7w
8w9v70w1w2w3w4w5xBw6w8w9v80w1w2w3w4w5w6w7w8w9v90w1w2w4w5w6w7w8w9u100w1w2w3w4w5w7w8w9v10w2w4u301w2.1
3000aEGYPTIAN HIEROGLYPH A001x2x3x4x5yAx6yAyBx7x8x9w10x1x2x3x4yAx5x6x7yAx8x9w20x1x2x3x4x5x6x7x8x9w3
0x1x2yAx3x4x5x6x7x8x9w40yAx1x2yAx3yAx4x5yAx6x7x8x9w50x1x2x3x4x5x6x7x8x9w60x1x2x3x4x5x6x7x8x9w70uB00
1x2x3x4x5yAx6x7x8x9uC001x2yAyByCx3x4x5x6x7x8x9w10yAx1x2x3x4x5x6x7x8x9w20x1x2x3x4uD001x2x3x4x5x6x7x8
yAx9w10x1x2x3x4x5x6x7x8x9w20x1x2x3x4x5x6x7yAx8x9w30x1yAx2x3x4yAx5x6x7x8x9w40x1x2x3x4x5x6yAx7x8yAx9w
50yAyByCyDyEyFyGyHyIx1x2yAx3x4yAx5x6x7x8x9w60x1x2x3x4x5x6x7yAyByCyDyEyFyGyHuE001x2x3x4x5x6x7x8yAx9y
Aw10x1x2x3x4x5x6yAx7yAx8x9w20yAx1x2x3x4x5x6x7x8yAx9w30x1x2x3x4yAx6x7x8uF001yAx2x3x4x5x6x7x8x9w10x1x
2x3yAx4x5x6x7x8x9w20x1yAx2x3x4x5x6x7x8x9w30x1yAx2x3x4x5x6x7yAx8yAx9w40x1x2x3x4x5yAx6yAx7yAx8x9w50x1
yAyByCx2x3uG001x2x3x4x5x6yAx7yAyBx8x9w10x1yAx2x3x4x5x6x7x8x9w20yAx1x2x3x4x5x6yAx7x8x9w30x1x2x3x4x5x
6yAx7yAx8x9w40x1x2x3yAx4x5yAx6x7x8x9w50x1x2x3x4uH001x2x3x4x5x6yAx7x8uI001x2x3x4x5yAx6x7x8x9yAw10yAx
1yAx2x3x4x5uK001x2x3x4x5x6x7x8uL001x2yAx3x4x5x6yAx7x8uM001yAyBx2x3yAx4x5x6x7x8x9w10yAx1x2yAyByCyDyE
yFyGyHx3x4x5yAx6yAx7yAx8x9w20x1x2yAx3x4yAx5x6x7x8yAx9w30x1yAx2x3yAyBx4x5x6x7x8x9w40yAx1x2x3x4uN001x
2x3x4x5x6x7x8x9w10x1x2x3x4x5x6x7x8yAyBx9w20x1x2x3x4x5yAx6x7x8x9w30x1x2x3yAx4yAx5yAx6x7yAx8x9w40x1x2
vL001y2y3y4y5zaAy6y7y8y9x10y1y2y3y4y5y6y7zaAy8y9x20vU001y2y3y4y5y6y7y8y9x10zaAy1zaAy2y3y4y5y6y7y8za
Ay9x20y1y2zaAuO001yAx2x3x4x5yAx6yAyByCyDyEyFx7x8x9w10yAyByCx1x2x3x4x5x6x7x8x9yAw20yAx1x2x3x4yAx5yAx
6x7x8x9yAw30yAx1x2x3yAx4x5x6yAyByCyDx7x8x9w40x1x2x3x4x5x6x7x8x9w50yAyBx1uP001yAx2x3yAx4x5x6x7x8x9w1
0x1uQ001x2x3x4x5x6x7uR001x2yAx3yAyBx4x5x6x7x8x9w10yAx1x2x3x4x5x6yAx7x8x9w20x1x2x3x4x5x6x7x8x9uS001x
2yAx3x4x5x6yAx7x8x9w10x1x2x3x4yAyBx5x6x7yAx8x9w20x1x2x3x4x5x6yAyBx7x8x9w30x1x2x3x4x5yAx6x7x8x9w40x1
x2x3x4x5x6uT001x2x3yAx4x5x6x7yAx8yAx9yAw10x1yAx2x3x4x5x6yAx7x8x9w20x1x2x3x4x5x6x7x8x9w30x1x2yAx3yAx
4x5x6uU001x2x3x4x5x6yAyBx7x8x9w10x1x2x3x4x5x6x7x8x9w20x1x2x3yAx4x5x6x7x8x9yAw30x1x2yAx3x4x5x6x7x8x9
w40x1x2uV001yAyByCyDyEyFyGyHyIx2yAx3x4x5x6x7yAyBx8x9w10x1yAyByCx2yAyBx3x4x5x6x7x8x9w20yAyByCyDyEyFy
GyHyIyJyKyLx1x2x3yAx4x5x6x7x8yAx9yAw30yAx1yAx2x3yAx4x5x6x7yAx8x9w40yAuW001x2x3yAx4x5x6x7x8x9yAw10yA
x1x2x3x4yAx5x6x7yAx8yAx9w20x1x2x3x4yAx5uX001x2x3x4yAyBx5x6yAx7x8yAuY001yAx2x3x4x5x6x7x8uZ001x2yAyBy
CyDx3yAyBx4yAx5yAx6x7x8x9w10x1x2x3x4x5yAyByCyDyEyFyGyHyIx6yAyByCyDyEyFyGyHuAA001y2y3y4y5y6y7zaAzaBy
8y9x10y1y2y3y4y5y6y7y8y9x20y1y2y3y4y5y6y7y8y9x30y1y2.13430aEGYPTIAN HIEROGLYPH VERTICAL JOINERuHORI
ZONTAL JOINERuINSERT AT TOP STARTzfBOTTOM STARTzfTOP ENDzfBOTTOM ENDuOVERLAY MIDDLEuBEGIN SEGMENTuE
ND SEGMENT.14400aANATOLIAN HIEROGLYPH A001y2y3y4y5y6y7y8y9x10zaAy1y2y3y4y5y6y7y8y9x20y1y2y3y4y5y6za
Ay7y8y9x30y1y2y3y4y5y6y7y8y9zaAx40y1zaAy2y3y4y5zaAy6zaAzaBy7y8y9x50y1y2y3y4y5y6y7y8y9x60y1y2y3y4y5y
6zaAzaBzaCy7y8y9x70y1y2y3y4y5y6y7y8y9x80y1y2y3y4y5y6y7y8y9x90y1y2y3y4y5y6y7zaAy8zaAy9w100zaAy1zaAy2
zaAy3y4zaAzaBzaCy5zaAzaBy6y7zaAzaBzaCy8y9x10zaAzaBy1y2y3y4y5zaAy6y7y8y9x20y1y2y3y4y5zaAy6y7y8y9x30y
1y2y3y4y5zaAy6y7y8y9x40y1y2y3y4y5y6y7y8y9x50y1y2y3y4y5y6y7y8y9x60y1y2y3y4y5y6y7y8y9x70y1y2y3y4y5y6y
7y8y9x80y1y2y3y4y5y6y7y8y9x90y1y2y3y4y5y6y7y8y9w200y1y2zaAzaBy3y4y5y6y7zaAy8y9zaAx10y1y2y3y4y5zaAy6
zaAy7y8y9x20y1y2y3y4y5y6y7zaAy8y9x30y1y2y3y4y5y6y7y8y9x40y1y2y3y4y5y6y7y8y9x50y1y2y3y4y5y6y7y8y9x60
y1y2y3y4y5y6y7zaAy8y9x70y1y2y3y4y5y6y7y8y9x80y1y2y3y4y5y6y7y8y9zaAx90y1y2y3y4zaAy5y6y7y8y9zaAw300y1
y2y3y4y5y6y7y8y9zaAx10y1y2y3y4y5y6y7y8y9x20y1y2y3y4y5y6y7y8y9zaAx30y1y2AzaBzaCy3y4y5y6zaAzaBzaCy7y8
y9x40y1y2y3y4y5y6y7y8y9x50y1y2y3y4y5y6y7y8y9zaAx60y1y2y3y4zaAy5y6y7y8zaAy9x70y1zaAy2y3y4y5y6y7y8y9x
80y1zaAy2y3 RA OR RIzaAy4y5y6zaAy7y8y9x90y1y2y3 EIGHTy4y5y6y7y8y9w400y1y2y3y4y5y6y7y8y9x10 BEGIN LO
GOGRAM MARKzaA END LOGOGRAM MARKy1y2y3y4y5y6y7y8y9x20y1y2y3y4y5y6y7y8y9x30y1y2y3y4y5y6y7y8y9x40y1y2
y3y4y5y6y7y8y9x50zaAy1y2y3y4y5y6y7zaAy8y9x60y1y2y3y4y5y6y7y8y9x70y1y2y3y4y5y6y7y8y9x80y1y2y3y4y5y6y
7y8y9x90y1y2y3y4y5y6y7w501y2y3y4y5y6y7y8y9x10y1y2y3y4y5y6y7y8y9x20y1y2y3y4y5y6y7y8y9x30.16800aBAMU
M LETTER PHASE-A NGKUE MFONvGBIEE FONvPON MFON PIPAEMGBIEEzlBAvNAA MFONvSHUENSHUETvTITA MFONvNZA MF
ONvSHINDA PA NJIvPON PA NJI PIPAEMGBIEEznBAvMAEMBGBIEEvTU MAEMBAvNGANGUvMAEMVEUXxNSUAEwVEUAENGAMvSE
UNYAMvNTOQPENvKEUKEUTNDAvNKINDIvSUUvNGKUENZEUMvLAPAQwET KUTvNTAP MFAAvMAEKEUPvPASHAEvGHEUAERAEvPAMS
HAEvMON NGGEUAETvNZUN MEUTvU YUQ NAEvGHEUAEGHEUAEvNTAP NTAAvSISAvMGBASAwEUNJOMNDEUQwOOMPUQvKAFAvP
A LEERAEWAvNDA LEERAEWAvPETvMAEMKPENvNIKAvPUPvTUAEPvLUAEPvSONJAMvTEUTEUWENvMAENYIvKETvNDAANGGEUAETv
KUOQvMOOMEUTvSHUMvLOMMAEvFIRIvROMvKPOQvSOQvMAP PIEETvSHIRAEvNTAPvSHOQ NSHUT YUMvNYIT MONGKEUAEQvPAA
RAEvNKAARAEvUNKNOWNvNGGENvMAESIvNJAMvMBANYIvNYETvTEUAENvSOTvPAAMvNSHIEEvMAEMvNYIvKAQvNSHAvVEEvLUvNE
NwAQvMBAQtB NSHUETvTU MAEMGBIEEvSIEEwET TUvLOM NTEUMvMBA MAELEEvKIEEMvYEURAEvMBAARAEvKAMvPEESHIvYAF
U LEERAEWAvLAM NSHUT NYAMvNTIEE SHEUOQwDU NJAAvGHEUGHEUAEMvPITvTU NSIEEvSHET NJAQyUAEQTUvMFON TEUAE
QwBIT MBAAKETvNYI NTEUMvKEUPUQvGHEUGHENvKEUYEUXvLAANAEvPARUMvVEUMvNGKINDI MVOPxGEU MBUvWUAETvSAKEUA
EvTAAMvMEUQvNGGUOQzc LARGEvMFIYAQvSUEvMBEURIwONTIEENvNYAEMAEvPUNGAAMvMEUT NGGEETvFEUXvMBUOQvFEEvKEU
AEMvMA NJEUAENAzbUQAvLETvNGGAAMwSENvMAvKIQvNGOMtC NGKUE MAEMBAwZAvYUMvWANGKUOQvNGGENwDEUAEREEwGKAQv
GHARAEvMBEEKEETvGBAYIvNYIR MKPARAQ MEUNwTU MBITvMBEUMvPIRIEENvNDOMBUvMBAA CABBAGE-TREEvKEUSHEUAEPvG
HAPvKEUKAQvYU MUOMAEvNZEUMvMBUEvNSEUAENvMBITvYEUQvKPARAQwAAvSEUXvNDIDAvTAASHAEvNJUEQvTITA YUEvSUAET
vNGGUAEN NYAMvVEUXvNANSANAQvMA KEUAERIvNTAAwGGUONvLAPvMBIRIEENwGBASAQvNTEUNGBAvTEUTEUXvNGGUMvFUEvND
EUTwSAxHAQvBUNGvVEUAEPENvMBERAEvRUvNJAEMvLAMvTITUAEPvNSUOT NGOMwJEEEEvKETvNGGUvMAESIwBUAEMvLUvKUTvN
JAMwGOMvWUPvNGGUEETwSOMwTENvKUOP NKAARAEvNSUNwDAMvMA NSIEEvYAAvNDAPvSHUEQwETFONvMBIwAEMBAwBANYIvKEU
SEUXvMBEUXvKEUMvMBAA PICKETvYUWOQvNJEUXvMIEEwUAEvSHIQvKEN LAWzaFATIGUEvNGAQwAQvLIQvPINwENvTETtD MBU
OvWAPvNJIvMFONvNJIEEvLIEEvNJEUTwSHEEwGGAAMAEwYAMvWUAENvNGKUNvSHEEvNGKAPvKEUAETMEUNvTEUTvSHEUAEvNJAP
vSUEvKETvYAEMMAEvKUOMvSAPvMFEUTvNDEUXvMALEERIwEUTvSEUAEQvYENvNJEUAEMvKEUOT MBUAEvNGKEURIvTUvGHAAvNG
KYEEvFEUFEUAETvNDEEvMGBOFUMvLEUAEPvNDONvMONIwGBEUNvPUUTvMGBIEEwFOvLUMvNSIEEPvMBAAvKWAETvNYETvTEUAEN
vSOTvYUWOQvKEUMvRAEMvTEEEEvNGKEUAEQvMFEUAEvNSIEETvKEUPvPIPwEUTAEvNYUEvLETvNGGAAMvMFIEEvNGGWAENvYUOM
vPAPvYUOPvNDAMwTEUMvSUAEvKUNvNGGEUXxKIEEvTUOTvMEUNvKUQvNSUMvTEUNvMAENJETvNGGAPvLEUMvNGGUOMwSHUTwJUE
QvGHEUAEvKUvREN OLDvTAEwOQvNYIvRIIvLEEEEvMEEEEvMvSUUvMUvSHIIxEUXvKYEEvNUvSHUvNTEEvPEEvNIvSHOQvPUQvM
VOPvLOQvREN MUCHvTIvNTUUvMBAA SEVENvSAQvFAAtE NDAPvTOONvMBEUMvLAPvVOMvLOONvPAAvSOMvRAQvNSHUOPwDUNvP
UAEvTAMvNGKAvKPEUXvWUOvSEEvNGGEUAETvPAAMvTOOvKUOPvLOMvNSHIEEwGOPvMAEMvNGKEUXxOQwSHUEvRIMGBAvNJEUXvP
EEMvSAAvNGGURAEvMGBAvGHEUXvNGKEUAEMwJAEMLIvMAPvLOOTvNGGEEEEwDIQvTAEN NTEUMvSETvPUMvNDAA SOFTNESSwGG
UAESHAE NYAMvYIEEvGHEUNvTUAEvYEUAEvPOvTUMAEvKEUAEvSUAENvTEUAEQvVEUAEvWEUXvLAAMvPUvTAAQvGHAAMAEvNGEU
REUTvSHEUAEQvMGBENwBEEvNZAQwKOMvGBETvTUMvKUETvYAPvNYI CLEAVERvYITvMFEUQvNDIAQvPIEEQvYUEQvLEUAEMvFUE
vGBEUXvNGKUPvKETvMAEvNGKAAMIvGHETvFAvNTUMvPEUTvYEUMvNGGEUAEwYI BETWEENwZUQvPOONvMIEEvFUETvNAEvMUAEv
GHEUAEvFU IvMVIvPUAQvNGKUMvKUTvPIETvNTAPvYEUAETvNGGUPvPA PEOPLEvFU CALLwOMvNJEEvAvTOQvOvIvLAQvPA PL
URALvTAAxQvNDAA MY HOUSEvSHIQvYEUXvNGUAEvYUAENwOQ SWIMMINGzaCOVERwUQxNvKEUXvPEUXvNJEE EPOCHvPUEvWUE
vFEEvVEEvLUvMIvREUXwAEvNGUAETxAvSHOyQvFU REMEDYvNAvPIvLOQvKOvMENwAxQvTEUvKIvMONvTENvFAQvGHOMtF KAvU
vKUvEEvREEvTAEvNYIvLAvRIIxEEvMEEEEvTAAvNDAAwJAEMvMvSUUwHIIwIwEUXvKYEEwETvNUAEwUwJUAEvYOQvSHUvYAvNSH
AvPEUXvNTEEvWUEvPEEvRUvNIvREUXvKENvNGKWAENxGAvSHOvPUAEvFOMvWAvLIwOQvKOvMBENvRENvMAwOwBAAvTETvKPAvSA
MBAvVUEQ.16A40aMRO LETTER TAlNGIlYOlMIMlBAlDAlAlPHIlKHAIlHAOlDAIlCHUlKEAAElOLlMAEMlNINlPAlOOlOlROlS
HIlTHEAlEAlWAlElKOlLANmAlHAIlRIlTEK.16A60aMRO DIGIT ZEROkONEkTWOlHREEkFOURlIVEkSIXlEVENkEIGHTkNINE.
16A6EaMRO DANDAfOUBLE DANDAaTANGSA LETTER OZpCpQpXoAZpCpQpXoVZpCpQpXoEZpCpQpXoIZpCpQpXoUZpCpQpXoAWZ
qCqQqXoUIZqCqQqXoFINAL NGoLONG UEXoSHORT UEZuAWXoUECqZqQqXpIUZrCrQrXoMZpCpQpXoKApHAoGAoNGAoSAoYAoWA
oPAoNYAoPHAoBAoMAoNAoHAoLAoHTAoTAoDAoRAoNHAoSHAoCAoTSAoGHAoHTTAoTHAoXAoFAoDHAoCHAoZA.16AC0aTANGSA D
IGIT ZEROnONEnTWOoHREEnFOURoIVEnSIXoEVENnEIGHTnNINE.16AD0aBASSA VAH LETTER ENNIrKArSErFArMBErYIErGA
HrDHIIrKPAHrJOrHWAHrWArZOrGBUrDOrCErUWUrTOrBArVUrYEINrPArWADDArArOsOrUrEErErI.16AF0aBASSA VAH COMBI
NING HIGH TONEuLOW TONEuMID TONEuLOW-MID TONEuHIGH-LOW TONEkFULL STOP.16B00aPAHAWH HMONG VOWEL KEEB
wVuIBvVuAUBwVuUBvVuEBvVuAIBwVuOOBwVuAWBwVuUABwVuOBvVuIABwVuABvVuWBvVuAABwVnCONSONANT VAUxNTSAUxLAUx
HAUxNLAUxRAUxNKAUxQHAUxYAUxHLAUxMAUxCHAUxNCHAUxHNAUxPLHAUxNTHAUyAUxAUxXAUxCAUnMARK CIM TUBwSOwKESxH
AVwSUAMwHOMwTAUMnSIGN VOS THOMxSHAB CEEBsCIM CHEEMsVOS THIABwFEEMsXYEEM NTXIVyRHOyTOVyFAIBsVOS SEEV
sMEEJ SUABsVOS NRUAsIB YAMsXAUSsCIM TSOV ROG.16B50aPAHAWH HMONG DIGIT ZEROtONEtTWOuHREEtFOURuIVEtSI
XuEVENtEIGHTtNINE.16B5BaPAHAWH HMONG NUMBER TENSuHUNDREDSuTEN THOUSANDSuMILLIONSuHUNDRED MILLIONSuT
EN BILLIONSvRILLIONS.16B63aPAHAWH HMONG SIGN VOS LUBsXYOOsHLIsTHIRD-STAGE HLIsZWJ THAJsHNUBsNQIGsXI
ABsNTUJsAVsTXHEEJ CEEVsMEEJ TSEEBsTAUsLOSsMUSsCIM HAIS LUS NTOG NTOGwCUAM TSHOOJwTXWVzb CHWVwPUB DA
WBwNRES TOS.16B7DaPAHAWH HMONG CLAN SIGN TSHEEJxYEEGxLISyAUJxXYOOJxKOOxHAWJxMUASxTHOJySABxPHABxKHAB
xHAMxVAJxFAJxYAJxTSWBxKWMxVWJ.16E40aMEDEFAIDRIN CAPITAL LETTER MzcSzcVzcWzcATIUzcZzcKPzcPzcTzcGzcFz
cIzcKzcAzcJzcEzcBzcCzcUzcYUzcLzcQzcHPzcNYzcXzcDzcOEzcNzcRzcOzcAIzcYmSMALL LETTER MzaSzaVzaWzaATIUza
ZzaKPzaPzaTzaGzaFzaIzaKzaAzaJzaEzaBzaCzaUzaYUzaLzaQzaHPzaNYzaXzaDzaOEzaNzaRzaOzaAIzaYmDIGIT ZEROsON
EsTWOtHREEsFOURtIVEsSIXtEVENsEIGHTsNINEmNUMBER TENtELEVENtTWELVEuHIRTEENtFOURTEENuIFTEENtSIXTEENuEV
ENTEENtEIGHTEENtNINETEENmDIGIT ONE ALTERNATE FORMsTWO ALTERNATE FORMtHREE ALTERNATE FORMmCOMMAmFUL
L STOPmSYMBOL AIVAmEXCLAMATION OH.16F00aMIAO LETTER PAmBAmYI PAmPLAmMAnHAmARCHAIC MAmFAmVAnFAmTAmDA
mYI TTAqAmTTAmDDAmNAnHAmYI NNAmARCHAIC NAmNNAoHAmLAnYAnHAoYAmTLHAmDLHAmTLHYAmDLHYAmKAmGAmYI KAmQAnG
AmNGAoHAmARCHAIC NGAmHAmXAmGHAoHAmTSSAmDZZAmNYAoHAmTSHAmDZHAmYI TSHApDZHAmREFORMED TSHAmSHAnSAmZHAn
SHAmTSAmDZAmYI TSAmSAmZAnSAnZAoSAmARCHAIC ZZAmZZYAoSYAmWAmAHmHHAmBRImSYImDZYImTEnSEmRTE.16F4FaMIA
O SIGN CONSONANT MODIFIER BARfLETTER NASALIZATIONfSIGN ASPIRATIONkREFORMED VOICINGtASPIRATIONfVOWE
L SIGN ArArHHrNsGqOrOqWOqWqErNsGqOEYqIrAsNtGrOrErIrUrNGqUrAsNtGrUrEIrNGqYrIqAEsEqERRqROUNDED ERRqER
qROUNDED ERqAIqEIqAUqOUqNrGqUOGqYUIqOGrERqVWqIGqEAqIONGqUI.16F8FaMIAO TONE RIGHTkTOP RIGHTkABOVEkBE
LOWfLETTER TONE-2r3r4r5r6r7r8mREFORMED TONE-1zb2zb4zb5zb6zb8.16FE0aTANGUT ITERATION MARKaNUSHU ITER
ATION MARKaOLD CHINESE HOOK MARKmITERATION MARKaKHITAN SMALL SCRIPT FILLER.16FF0aVIETNAMESE ALTERNA
TE READING MARK CAzjNHAY.18800aTANGUT COMPONENT-001t2t3t4t5t6t7t8t9s10t1t2t3t4t5t6t7t8t9s20t1t2t3t4
t5t6t7t8t9s30t1t2t3t4t5t6t7t8t9s40t1t2t3t4t5t6t7t8t9s50t1t2t3t4t5t6t7t8t9s60t1t2t3t4t5t6t7t8t9s70t1
t2t3t4t5t6t7t8t9s80t1t2t3t4t5t6t7t8t9s90t1t2t3t4t5t6t7t8t9r100t1t2t3t4t5t6t7t8t9s10t1t2t3t4t5t6t7t8
t9s20t1t2t3t4t5t6t7t8t9s30t1t2t3t4t5t6t7t8t9s40t1t2t3t4t5t6t7t8t9s50t1t2t3t4t5t6t7t8t9s60t1t2t3t4t5
t6t7t8t9s70t1t2t3t4t5t6t7t8t9s80t1t2t3t4t5t6t7t8t9s90t1t2t3t4t5t6t7t8t9r200t1t2t3t4t5t6t7t8t9s10t1t
2t3t4t5t6t7t8t9s20t1t2t3t4t5t6t7t8t9s30t1t2t3t4t5t6t7t8t9s40t1t2t3t4t5t6t7t8t9s50t1t2t3t4t5t6t7t8t9
s60t1t2t3t4t5t6t7t8t9s70t1t2t3t4t5t6t7t8t9s80t1t2t3t4t5t6t7t8t9s90t1t2t3t4t5t6t7t8t9r300t1t2t3t4t5t
6t7t8t9s10t1t2t3t4t5t6t7t8t9s20t1t2t3t4t5t6t7t8t9s30t1t2t3t4t5t6t7t8t9s40t1t2t3t4t5t6t7t8t9s50t1t2t
3t4t5t6t7t8t9s60t1t2t3t4t5t6t7t8t9s70t1t2t3t4t5t6t7t8t9s80t1t2t3t4t5t6t7t8t9s90t1t2t3t4t5t6t7t8t9r4
00t1t2t3t4t5t6t7t8t9s10t1t2t3t4t5t6t7t8t9s20t1t2t3t4t5t6t7t8t9s30t1t2t3t4t5t6t7t8t9s40t1t2t3t4t5t6t
7t8t9s50t1t2t3t4t5t6t7t8t9s60t1t2t3t4t5t6t7t8t9s70t1t2t3t4t5t6t7t8t9s80t1t2t3t4t5t6t7t8t9s90t1t2t3t
4t5t6t7t8t9r500t1t2t3t4t5t6t7t8t9s10t1t2t3t4t5t6t7t8t9s20t1t2t3t4t5t6t7t8t9s30t1t2t3t4t5t6t7t8t9s40
t1t2t3t4t5t6t7t8t9s50t1t2t3t4t5t6t7t8t9s60t1t2t3t4t5t6t7t8t9s70t1t2t3t4t5t6t7t8t9s80t1t2t3t4t5t6t7t
8t9s90t1t2t3t4t5t6t7t8t9r600t1t2t3t4t5t6t7t8t9s10t1t2t3t4t5t6t7t8t9s20t1t2t3t4t5t6t7t8t9s30t1t2t3t4
t5t6t7t8t9s40t1t2t3t4t5t6t7t8t9s50t1t2t3t4t5t6t7t8t9s60t1t2t3t4t5t6t7t8t9s70t1t2t3t4t5t6t7t8t9s80t1
t2t3t4t5t6t7t8t9s90t1t2t3t4t5t6t7t8t9r700t1t2t3t4t5t6t7t8t9s10t1t2t3t4t5t6t7t8t9s20t1t2t3t4t5t6t7t8
t9s30t1t2t3t4t5t6t7t8t9s40t1t2t3t4t5t6t7t8t9s50t1t2t3t4t5t6t7t8t9s60t1t2t3t4t5t6t7t8.1AFF0aKATAKAN
A LETTER MINNAN TONE-2zd3zd4zd5.1AFF5aKATAKANA LETTER MINNAN TONE-7zd8xNASALIZED TONE-1zn2zn3zn4zn5
.1AFFDaKATAKANA LETTER MINNAN NASALIZED TONE-7zn8.1B000aKATAKANA LETTER ARCHAIC EaHIRAGANA LETTER A
RCHAIC YEbENTAIGANA LETTER A-1u2u3uWOsI-1u2u3u4sU-1u2u3u4u5sE-2u3u4u5u6sO-1u2u3sKA-1v2v3v4v5v6v7v8v
9v10w1vKEtI-1v2v3v4v5v6v7v8tU-1v2v3v4v5v6v7tE-1v2v3v4v5v6tO-1v2v3vKIsSA-1v2v3v4v5v6v7v8tI-1v2v3v4v5
v6tU-1v2v3v4v5v6v7v8tE-1v2v3v4v5tO-1v2v3v4v5v6v7sTA-1v2v3v4tI-1v2v3v4v5v6v7tU-1v2v3v4vTOtE-1v2v3v4v
5v6v7v8v9tO-1v2v3v4v5v6vRAsNA-1v2v3v4v5v6v7v8v9tI-1v2v3v4v5v6v7vTEtU-1v2v3tE-1v2v3v4v5v6vKOtO-1v2v3
v4v5sHA-1v2v3v4v5v6v7v8v9v10w1tI-1v2v3v4v5v6v7tU-1v2v3tE-1v2v3v4v5v6v7tO-1v2v3v4v5v6v7v8sMA-1v2v3v4
v5v6v7tI-1v2v3v4v5v6v7tU-1v2v3v4tE-1v2vMAtO-1v2v3v4v5v6sYA-1v2v3v4v5vYOtU-1v2v3v4tO-1v2v3v4v5v6sRA-
1v2v3v4tI-1v2v3v4v5v6v7tU-1v2v3v4v5v6tE-1v2v3v4tO-1v2v3v4v5v6sWA-1v2v3v4v5tI-1v2v3v4v5tE-1v2v3v4tO-
1v2v3v4v5v6v7sN-MU-MO-1zb2bIRAGANA LETTER ARCHAIC WUaKATAKANA LETTER ARCHAIC YIzaEyWU.1B150aHIRAGAN
A LETTER SMALL WIxExO.1B164aKATAKANA LETTER SMALL WIxExOwN.1BC00aDUPLOYAN LETTER HqXqPqTqFqKqLqBqDq
VqGqRqP NqD SqF NqK MqR SqTHqSLOAN DHqDHqKKqSLOAN JqHLqLHqRHqMqNqJqSqM NqN MqJ MqS JqM WITH DOTqN W
ITH DOTqJ WITH DOTzbS INSIDE AND ABOVEqS WITH DOTzb BELOWqM SqN SqJ SqS SqM N SqN M SqJ M SqS J Sq
J S WITH DOTsNt SqS Tt RsPt RqT SsR SqWrHr RqS NsMqK R SqG R SqS Kt RqAqSLOAN OWqOAqOqAOUqIqEqIEqSH
ORT IqUIqEEqSLOAN EHqROMANIAN IqSLOAN EEqLONG IqYEqUqEUqXWqU NqLONG UqROMANIAN UqUHqSLOAN UqOOHrWrU
qWArOrIrEIrOWqNASAL UwOwIwAqPERNIN ANyMqSLOAN ENwANwONqVOCALIC M.1BC70aDUPLOYAN AFFIX LEFT HORIZONT
AL SECANTpMID HORIZONTAL SECANTpRIGHT HORIZONTAL SECANTpLOW VERTICAL SECANTpMID VERTICAL SECANTpHIG
H VERTICAL SECANTpATTACHED SECANTyLEFT-TO-RIGHT SECANTyTANGENTzbILyE HOOKyI HOOKyTANGENT HOOK.1BC80
aDUPLOYAN AFFIX HIGH ACUTEuTIGHT ACUTEuGRAVEuLONG GRAVEuDOTuCIRCLEuLINEuWAVEuVERTICAL.1BC90aDUPLOYA
N AFFIX LOW ACUTEtTIGHT ACUTEtGRAVEtLONG GRAVEtDOTtCIRCLEtLINEtWAVEtVERTICALtARROW.1BC9CaDUPLOYAN S
IGN O WITH CROSSjTHICK LETTER SELECTORjDOUBLE MARKjPUNCTUATION CHINOOK FULL STOPaSHORTHAND FORMAT L
ETTER OVERLAPrCONTINUING OVERLAPrDOWN STEPrUP STEP.1CF00aZNAMENNY COMBINING MARK GORAZDO NIZKO S KR
YZHEM ON LEFTyNIZKO S KRYZHEM ON LEFTyTSATA ON LEFTyGORAZDO NIZKO ON LEFTyNIZKO ON LEFTySREDNE ON L
EFTyMALO POVYSHE ON LEFTyPOVYSHE ON LEFTyVYSOKO ON LEFTyMALO POVYSHE S KHOKHLOM ON LEFTyPOVYSHE S K
HOKHLOM ON LEFTyVYSOKO S KHOKHLOM ON LEFTyGORAZDO NIZKO S KRYZHEM ON RIGHTyNIZKO S KRYZHEM ON RIGHT
yTSATA ON RIGHTyGORAZDO NIZKO ON RIGHTyNIZKO ON RIGHTySREDNE ON RIGHTyMALO POVYSHE ON RIGHTyPOVYSH
E ON RIGHTyVYSOKO ON RIGHTyMALO POVYSHE S KHOKHLOM ON RIGHTyPOVYSHE S KHOKHLOM ON RIGHTyVYSOKO S KH
OKHLOM ON RIGHTyTSATA S KRYZHEMyMALO POVYSHE S KRYZHEMySTRANNO MALO POVYSHEyPOVYSHE S KRYZHEMziTRAN
NOyVYSOKO S KRYZHEMyMALO POVYSHE STRANNOyGORAZDO VYSOKOyZELOyONyRAVNOyTIKHAYAyBORZAYAyUDARKAyPODVER
TKAyLOMKAyKUPNAYAzaACHKAyZEVOKySKOBAyRAZSEKAyKRYZH ON LEFT.1CF30aZNAMENNY COMBINING TONAL RANGE MAR
K MRACHNOzlSVETLOzlTRESVETLOtMARK ZADERZHKAyDEMESTVENNY ZADERZHKAyOTSECHKAyPODCHASHIEzj WITH VERTIC
AL STROKEyCHASHKAzg POLNAYAyOBLACHKOySOROCHYA NOZHKAyTOCHKAyDVOETOCHIEtATTACHING VERTICAL OMETtMAR
K CURVED OMETyKRYZHtLOWER TONAL RANGE INDICATORjPRIZNAK MODIFIER LEVEL-2zh3zbDIRECTION FLIPzbKRYZHz
bROG.1CF50aZNAMENNY NEUME KRYUKu TIKHYpPARAKLITpDVA V CHELNUpKLYUCHpZANOZHEKpSTOPITSAx S OCHKOMpPER
EVODKAy NEPOSTOYANNAYApSTOPITSA WITH SOROCHYA NOZHKApCHELYUSTKApPALKApZAPYATAYApGOLUBCHIK BORZYzaTI
KHYzaMRACHNYzaSVETLYzaTRESVETLYpVRAKHIYA PROSTAYAyMRACHNAYAySVETLAYAyTRESVETLAYAyKLYUCHEVAYA PROSTA
YAzlMRACHNAYAzlSVETLAYAzlTRESVETLAYApDOUBLE ZAPYATAYApREVERSED CHELYUSTKApDERBITSApKHAMILOpCHASHKAp
PODCHASHIEpSKAMEYTSA MRACHNAYAzaSVETLAYAzaTRESVETLAYAzbIKHAYApDEMESTVENNY KLYUCHpSKAMEYTSA KLYUCHEV
AYA SVETLAYAzhNEPOSTOYANNAYAzhVAYA TIKHAYAzaDVOECHELNAYA PROSTAYAznSVETLAYAznNEPOSTOYANNAYAznKLYUCH
EVAYAqLOZHITIEy S ZAPYATOYzaZAKRYTOEzaS KRYZHEMpKRYZHpROGpFITApKOBYLApZMEYTSApSTATYAv S ZAPYATOYyKR
YZHEMyZAPYATOY I KRYZHEMyKRYZHEM I ZAPYATOYwZAKRYTAYAzg S ZAPYATOYwS ROGOMyDVUMYA ZAPYATYMIyZAPYATO
Y I PODCHASHIEMpPOLKULIZMYpSTATYA NEPOSTOYANNAYArRELA PROSTAYAwMRACHNOTIKHAYAwKRYZHEVAYAwPOLUPOVODN
AYAyVODNAYAwNEPOSTOYANNAYAwKLYUCHEPOVODNAYAzeNEPOSTOYANNAYAwTIKHAYA PUTNAYAwDVOECHELNAYAzgOKRYZHEVA
YAzhPOVODNAYAzgAYA KLYUCHEVAYAzgOPOVODNAYA KLYUCHEVAYAwGROMNAYA WITH SINGLE ZAPYATAYAzbOPOVODNAYA W
ITH SINGLE ZAPYATAYAzbNAYAzbOPOVODNAYAzl WITH DOUBLE ZAPYATAYAzcKRYZHEVAYAzm POVODNAYApMECHIKv POVO
DNYwKLYUCHEVOYzePOVODNYzeNEPOSTOYANNYpSTRELA TRYASOGLASNAYAzdPOVODNAYAzdSTRELNAYApOSOKAu SVETLAYAvT
RESVETLAYAvKRYUKOVAYA SVETLAYAwLYUCHEVAYA SVETLAYAziNEPOSTOYANNAYApSTRELA KRYUKOVAYAzh POVODNAYAziG
ROMNAYA WITH SINGLE ZAPYATAYAzmOPOVODNAYA WITH SINGLE ZAPYATAYAzmNAYAzmOPOVODNAYAzw WITH DOUBLE ZAP
YATAYAznKRYZHEVAYAzx POVODNAYAziTRYASKApKUFISMApOBLAKOpDUDApNEMKApPAUK"

end MarkupLint.Text
