/-!
Names of the characters from U+3000 up to U+FFFF, without the ideographs and the Hangul syllables.
-/

namespace MarkupLint.Text

/-- The packed names. -/
def asianNames : String :=
".3000aIDEOGRAPHIC SPACEmCOMMAmFULL STOPaDITTO MARKaJAPANESE INDUSTRIAL STANDARD SYMBOLaIDEOGRAPHI
C ITERATION MARKmCLOSING MARKmNUMBER ZEROaLEFT ANGLE BRACKETaRIGHT ANGLE BRACKETaLEFT DOUBLE ANGL
E BRACKETaRIGHT DOUBLE ANGLE BRACKETaLEFT CORNER BRACKETaRIGHT CORNER BRACKETaLEFT WHITE CORNER BRA
CKETaRIGHT WHITE CORNER BRACKETaLEFT BLACK LENTICULAR BRACKETaRIGHT BLACK LENTICULAR BRACKETaPOSTA
L MARKaGETA MARKaLEFT TORTOISE SHELL BRACKETaRIGHT TORTOISE SHELL BRACKETaLEFT WHITE LENTICULAR BRA
CKETaRIGHT WHITE LENTICULAR BRACKETaLEFT WHITE TORTOISE SHELL BRACKETaRIGHT WHITE TORTOISE SHELL BR
ACKETaLEFT WHITE SQUARE BRACKETaRIGHT WHITE SQUARE BRACKETaWAVE DASHaREVERSED DOUBLE PRIME QUOTATIO
N MARKaDOUBLE PRIME QUOTATION MARKaLOW DOUBLE PRIME QUOTATION MARKaPOSTAL MARK FACEaHANGZHOU NUMERA
L ONErTWOsHREErFOURsIVErSIXsEVENrEIGHTrNINEaIDEOGRAPHIC LEVEL TONE MARKmRISING TONE MARKmDEPARTIN
G TONE MARKmENTERING TONE MARKaHANGUL SINGLE DOT TONE MARKhDOUBLE DOT TONE MARKaWAVY DASHaVERTICA
L KANA REPEAT MARKvWITH VOICED SOUND MARKvMARK UPPER HALFvWITH VOICED SOUND MARK UPPER HALFvMARK LO
WER HALFaCIRCLED POSTAL MARKaIDEOGRAPHIC TELEGRAPH LINE FEED SEPARATOR SYMBOLaHANGZHOU NUMERAL TENs
WENTYsHIRTYaVERTICAL IDEOGRAPHIC ITERATION MARKaMASU MARKaPART ALTERNATION MARKaIDEOGRAPHIC VARIATI
ON INDICATORmHALF FILL SPACE.3041aHIRAGANA LETTER SMALL AqAqSMALL IqIqSMALL UqUqSMALL EqEqSMALL OqO
qKAqGAqKIqGIqKUqGUqKEqGEqKOqGOqSAqZAqSIqZIqSUqZUqSEqZEqSOqZOqTAqDAqTIqDIqSMALL TUqTUqDUqTEqDEqTOqDO
qNArIrUrErOqHAqBAqPAqHIqBIqPIqHUqBUqPUqHEqBEqPEqHOqBOqPOqMArIrUrErOqSMALL YAqYAqSMALL YUqYUqSMALL Y
OqYOqRArIrUrErOqSMALL WAqWArIrErOqNqVUqSMALL KAxE.3099aCOMBINING KATAKANA-HIRAGANA VOICED SOUND MAR
KzdSEMI-VOICED SOUND MARKaKATAKANA-HIRAGANA VOICED SOUND MARKsSEMI-VOICED SOUND MARKaHIRAGANA ITERA
TION MARKjVOICED ITERATION MARKjDIGRAPH YORIaKATAKANA-HIRAGANA DOUBLE HYPHENi LETTER SMALL AqAqSMAL
L IqIqSMALL UqUqSMALL EqEqSMALL OqOqKAqGAqKIqGIqKUqGUqKEqGEqKOqGOqSAqZAqSIqZIqSUqZUqSEqZEqSOqZOqTAq
DAqTIqDIqSMALL TUqTUqDUqTEqDEqTOqDOqNArIrUrErOqHAqBAqPAqHIqBIqPIqHUqBUqPUqHEqBEqPEqHOqBOqPOqMArIrUr
ErOqSMALL YAqYAqSMALL YUqYUqSMALL YOqYOqRArIrUrErOqSMALL WAqWArIrErOqNqVUqSMALL KAxEqVArIrErOjMIDDL
E DOTi-HIRAGANA PROLONGED SOUND MARKi ITERATION MARKjVOICED ITERATION MARKjDIGRAPH KOTO.3105aBOPOMO
FO LETTER BqPqMqFqDqTqNqLqGqKqHqJqQqXqZHqCHqSHqRqZqCqSqAqOqErHqAIqEIqAUqOUqANqENqANGqENGrRqIqUqIUqV
qNGqGNqIHqO WITH DOT ABOVEqNN.3131aHANGUL LETTER KIYEOKoSSANGKIYEOKoKIYEOK-SIOSoNIEUNt-CIEUCuHIEUHo
TIKEUToSSANGTIKEUToRIEULt-KIYEOKuMIEUMuPIEUPuSIOSuTHIEUTHuPHIEUPHuHIEUHoMIEUMoPIEUPoSSANGPIEUPoPIEU
P-SIOSoSIOSpSANGSIOSoIEUNGoCIEUCoSSANGCIEUCoCHIEUCHoKHIEUKHoTHIEUTHoPHIEUPHoHIEUHoApEoYAqEoEOoEoYEO
pEoOoWAqEoOEoYOoUoWEOpEpIoYUoEUoYIoIhFILLERhLETTER SSANGNIEUNoNIEUN-TIKEUTuSIOSuPANSIOSoRIEUL-KIYEO
K-SIOSuTIKEUTuPIEUP-SIOSvANSIOSuYEORINHIEUHoMIEUM-PIEUPuSIOSuPANSIOSoKAPYEOUNMIEUMoPIEUP-KIYEOKuTIK
EUTuSIOS-KIYEOKzaTIKEUTuCIEUCuTHIEUTHoKAPYEOUNPIEUPwSSANGPIEUPoSIOS-KIYEOKtNIEUNtTIKEUTtPIEUPtCIEUC
oPANSIOSoSSANGIEUNGoYESIEUNGw-SIOSxPANSIOSoKAPYEOUNPHIEUPHoSSANGHIEUHoYEORINHIEUHpO-YAtErIpU-YEOsEr
IoARAEAtE.3190aIDEOGRAPHIC ANNOTATION LINKING MARKxREVERSE MARKxONE MARKxTWO MARKyHREE MARKxFOUR MA
RKxTOP MARKxMIDDLE MARKxBOTTOM MARKxFIRST MARKxSECOND MARKxTHIRD MARKxFOURTH MARKxHEAVEN MARKxEART
H MARKxMAN MARKaBOPOMOFO LETTER BUqZIqJIqGUqEErNNqOOrNNqIRqANNqINNqUNNqIMqNGGqAINNrUNNrMqOMrNGqINNN
jFINAL LETTER PwTwKwHjLETTER GHqLHqZYjFINAL LETTER GjLETTER GWqKWqOEqAHaCJK STROKE TlWGlXGlBXGlSWlH
ZZnGmPmZWGlSZWGlHZTnZPmPWGmZWnZZlNlHlSlPlSPlDlHZmGlSZmWZmTmGlPDmZlTNlSZZmWGlHXWGmZZZGlPGlQ.31F0aKAT
AKANA LETTER SMALL KUwSIxUwTOwNUwHAxIxUxExOwMUwRAxIxUxExOaPARENTHESIZED HANGUL KIYEOKvNIEUNvTIKEUTv
RIEULvMIEUMvPIEUPvSIOSvIEUNGvCIEUCwHIEUCHvKHIEUKHvTHIEUTHvPHIEUPHvHIEUHvKIYEOK AvNIEUN AvTIKEUT AvR
IEUL AvMIEUM AvPIEUP AvSIOS AvIEUNG AvCIEUC AwHIEUCH AvKHIEUKH AvTHIEUTH AvPHIEUPH AvHIEUH AvCIEU
C UoKOREAN CHARACTER OJEONzh HU.3220aPARENTHESIZED IDEOGRAPH ONEyTWOzaHREEyFOURzaIVEySIXzaEVENyEIGH
TyNINEyTENyMOONyFIREyWATERzaOODyMETALyEARTHySUNzaTOCKyHAVEySOCIETYyNAMEySPECIALyFINANCIALyCONGRATUL
ATIONyLABORyREPRESENTyCALLySTUDYzaUPERVISEyENTERPRISEyRESOURCEyALLIANCEyFESTIVALyRESTySELFyREACHaCI
RCLED IDEOGRAPH QUESTIONsKINDERGARTENsSCHOOLsKOTOiNUMBER TEN ON BLACK SQUAREqWENTY ON BLACK SQUAREq
HIRTY ON BLACK SQUAREpFORTY ON BLACK SQUAREqIFTY ON BLACK SQUAREpSIXTY ON BLACK SQUAREqEVENTY ON BL
ACK SQUAREpEIGHTY ON BLACK SQUAREaPARTNERSHIP SIGNaCIRCLED NUMBER TWENTY ONEwTWOxHREEwFOURxIVEwSIXx
EVENwEIGHTwNINEqHIRTYv ONEwTWOxHREEwFOURxIVEiHANGUL KIYEOKpNIEUNpTIKEUTpRIEULpMIEUMpPIEUPpSIOSpIEUN
GpCIEUCqHIEUCHpKHIEUKHpTHIEUTHpPHIEUPHpHIEUHpKIYEOK ApNIEUN ApTIKEUT ApRIEUL ApMIEUM ApPIEUP ApSIO
S ApIEUNG ApCIEUC AqHIEUCH ApKHIEUKH ApTHIEUTH ApPHIEUPH ApHIEUH AiKOREAN CHARACTER CHAMKOzaJUEUIiH
ANGUL IEUNG UaKOREAN STANDARD SYMBOLaCIRCLED IDEOGRAPH ONEsTWOtHREEsFOURtIVEsSIXtEVENsEIGHTsNINEsTE
NsMOONsFIREsWATERtOODsMETALsEARTHsSUNtTOCKsHAVEsSOCIETYsNAMEsSPECIALsFINANCIALsCONGRATULATIONsLABOR
sSECRETsMALEsFEMALEsSUITABLEsEXCELLENTsPRINTsATTENTIONsITEMsRESTsCOPYuRRECTsHIGHsCENTREsLOWtEFTsRIG
HTsMEDICINEsRELIGIONsSTUDYtUPERVISEsENTERPRISEsRESOURCEsALLIANCEsNIGHTiNUMBER THIRTY SIXxEVENwEIGHT
wNINEpFORTYu ONEvTWOwHREEvFOURwIVEvSIXwEVENvEIGHTvNINEqIFTYaIDEOGRAPHIC TELEGRAPH SYMBOL FOR JANUAR
YziFEBRUARYziMARCHziAPRILziMAYziJUNEzkLYziAUGUSTziSEPTEMBERziOCTOBERziNOVEMBERziDECEMBERaSQUARE HGh
ERGiVaLIMITED LIABILITY SIGNaCIRCLED KATAKANA ArIrUrErOrKAsIsUsEsOrSAsIsUsEsOrTAsIsUsEsOrNAsIsUsEsO
rHAsIsUsEsOrMAsIsUsEsOrYAsUsOrRAsIsUsEsOrWAsIsEsOaSQUARE ERA NAME REIWAhAPAATOiRUHUAiNPEAiARUhINING
UjTIhUONhESUKUUDOiEKAAhONSUiOMUhKAIRIjRATTOkORIIhGARONjNMAiIGAjNIIhKYURIIhGIRUDAAhKIROlGURAMUlMEETO
RUlWATTOhGURAMUnTONhKURUZEIROkOONEiEESUiORUNAjOPOhSAIKURUjNTIIMUiIRINGUiENTIlOhDAASUiESIiORUhTONhNA
NOiOTTOhHAITUhPAASENTOkTUhBAARERUhPIASUTORUjKURUkOhBIRUhHUARADDOjIITOhBUSSYERUhHURANiEKUTAARUhPESOj
NIHIhHERUTUhPENSUjEZIhBEETAhPOINTOhBORUTOhHONhPONDOhHOORUkNhMAIKUROkRUjHHAjRUKUjNSYONiIKURONjRIlBAA
RUiEGAlTONjETORUhYAADOkRUiUANhRITTORUjRAiUPIIjUBURUiEMUjNTOGENhWATTOaIDEOGRAPHIC TELEGRAPH SYMBOL F
OR HOUR ZEROznONEznTWOzoHREEznFOURzoIVEznSIXzoEVENznEIGHTznNINEznTENznELEVENznTWELVEzoHIRTEENznFOUR
TEENzoIFTEENznSIXTEENzoEVENTEENznEIGHTEENznNINETEENznTWENTYzt-ONEzuTWOzvHREEzuFOURaSQUARE HPAhDAhAU
hBARhOVhPChDMj SQUAREDkCUBEDhIUhERA NAME HEISEIqSYOUWAqTAISYOUqMEIZIhCORPORATIONhPA AMPShNAhMU AiAh
KAiBhMBhGBhCALhKCALhPFhNFhMU FkGiGhKGhHZhKHZhMHZhGHZhTHZhMU LiLhDLhKLhFMhNMhMU MiMhCMhKMhMM SQUARED
hCM SQUAREDhM SQUAREDhKM SQUAREDhMM CUBEDhCM CUBEDhM CUBEDhKM CUBEDhM OVER Sp SQUAREDhPAhKPAhMPAhGP
AhRADk OVER Sr SQUAREDhPShNShMU SiShPVhNVhMU ViVhKVhMV MEGAhPWhNWhMU WiWhKWhMW MEGAhK OHMhM OHMhAMh
BQhCCiDi OVER KGiOhDBhGYhHAiPhINhKKiM CAPITALiThLMiNiOGiXhMB SMALLiILiOLhPHiMiPMiRhSRiVhWBhV OVER M
hA OVER MaIDEOGRAPHIC TELEGRAPH SYMBOL FOR DAY ONEzmTWOznHREEzmFOURznIVEzmSIXznEVENzmEIGHTzmNINEzmT
ENzmELEVENzmTWELVEznHIRTEENzmFOURTEENznIFTEENzmSIXTEENznEVENTEENzmEIGHTEENzmNINETEENzmTWENTYzs-ONEz
tTWOzuHREEztFOURzuIVEztSIXzuEVENztEIGHTztNINEznHIRTYzs-ONEaSQUARE GAL.4DC0aHEXAGRAM FOR THE CREATIV
E HEAVENrRECEPTIVE EARTHnDIFFICULTY AT THE BEGINNINGnYOUTHFUL FOLLYnWAITINGnCONFLICTnTHE ARMYnHOLDI
NG TOGETHERnSMALL TAMINGnTREADINGnPEACEnSTANDSTILLnFELLOWSHIPnGREAT POSSESSIONnMODESTYnENTHUSIASMnF
OLLOWINGnWORK ON THE DECAYEDnAPPROACHnCONTEMPLATIONnBITING THROUGHnGRACEnSPLITTING APARTnRETURNnINN
OCENCEnGREAT TAMINGnMOUTH CORNERSnGREAT PREPONDERANCEnTHE ABYSMAL WATERrCLINGING FIREnINFLUENCEnDUR
ATIONnRETREATnGREAT POWERnPROGRESSnDARKENING OF THE LIGHTnTHE FAMILYnOPPOSITIONoBSTRUCTIONnDELIVERA
NCEpCREASEnINCREASEnBREAKTHROUGHnCOMING TO MEETnGATHERING TOGETHERnPUSHING UPWARDnOPPRESSIONnTHE WE
LLnREVOLUTIONnTHE CAULDRONrAROUSING THUNDERrKEEPING STILL MOUNTAINnDEVELOPMENTnTHE MARRYING MAIDENn
ABUNDANCEnTHE WANDERERrGENTLE WINDrJOYOUS LAKEnDISPERSIONnLIMITATIONnINNER TRUTHnSMALL PREPONDERANC
EnAFTER COMPLETIONnBEFORE COMPLETION.A000aYI SYLLABLE ITnXmInPnEToXnEoPmATnXmAnPmUOXnOoPmOTnXmOnPmE
XmEmWUmBIToXnIoPoETpXoEpPnAToXnAoPnUOXoOpPnOToXnOoPnEXnEoPnUToXnUoPoRXoRnYToXnYoPoRXoRmPIToXnIoPoEX
oEpPnAToXnAoPnUOXoOpPnOToXnOoPnUToXnUoPoRXoRnYToXnYoPoRXoRmBBITpXoIpPpETqXpEqPoATpXoApPoUOXpOqPoOTp
XoOpPoEXoEpPoUTpXoUpPpRXpRoYTpXoYpPmNBITpXoIpPpEXpEqPoATpXoApPoOTpXoOpPoUTpXoUpPpRXpRoYTpXoYpPpRXpR
mHMITpXoIpPpEXpEqPoATpXoApPoUOXpOqPoOTpXoOpPoUTpXoUpPpRXpRoYXoYpPpRXpRmMIToXnIoPoEXoEpPnAToXnAoPnUO
TpXoOpPnOToXnOoPnEXnEnUToXnUoPoRXoRnYToXnYoPmFIToXnIoPnAToXnAoPnOXnOoPnUToXnUoPoRXoRnYToXnYoPmVIToX
nIoPoETpXoEpPnAToXnAoPnOToXnOoPnEXoPnUToXnUoPoRXoRnYToXnYoPoRXoRmDIToXnIoPoEXoEpPnAToXnAoPnUOXoOnOT
oXnOoPnEXnEoPnUToXnUoPoRXoRmTIToXnIoPoEXoEpPnAToXnAoPnUOTpXoOpPnOToXnOoPnEXnEoPnUToXnUoPoRXoRmDDITp
XoIpPpEXpEqPoATpXoApPoUOXpOqPoOTpXoOpPoEXoEpPoUTpXoUpPpRXpRmNDITpXoIpPpEXpEoATpXoApPoOTpXoOpPoEXoEp
PoUTpXoUpPpRXpRmHNITpXoIpPpETqXpEqPoATpXoApPoUOXpOoOTpXpPoEXoEpPoUTmNIToXnIoPoEXoEpPnAXnAoPnUOXoOpP
nOToXnOoPnEXnEoPnUToXnUoPoRXoRmHLITpXoIpPpEXpEqPoATpXoApPoUOXpOqPoOXoOpPoEXoEpPoUTpXoUpPpRXpRoYTpXo
YpPpRXpRmLIToXnIoPoETpXoEpPnAToXnAoPnUOTpXoOpPnOToXnOoPnEXnEoPnUToXnUoPoRXoRnYToXnYoPoRXoRmGIToXnIo
PoETpXoEpPnAToXnAoPnUOTpXoOpPnOToXnOoPnEToXnEoPnUToXnUoPoRXoRmKIToXnIoPoEXoEpPnAToXnAoPnUOXoOpPnOTo
XnOoPnEToXnEoPnUToXnUoPoRXoRmGGITpXoIpEXpEqPoATpXoApPoUOTqXpOqPoOTpXoOpPoETpXoEpPoUTpXoUpPpRXpRmMGI
EXpEoATpXoApPoUOXpOqPoOTpXoOpPoEXoEpPoUTpXoUpPpRXpRmHXITpXoIpPpETqXpEqPoATpXoApPoUOTqXpOqPoOTpXoOpP
oEXoEpPmNGIEXpEqPoATpXoApPoUOTqXpOoOTpXoOpPoEXoEpPmHIToEXoEnAToXnAoPnUOTpXoOpPnOToXnOoPnEXnEoPmWATo
XnAoPnUOXoOpPnOXnOoPnEXnEoPmZIToXnIoPoEXoEpPnAToXnAoPnUOXoOpPnOToXnOoPnEXnEoPnUToXnUoPoRXoRnYToXnYo
PoRXoRmCIToXnIoPoETpXoEpPnAToXnAoPnUOXoOpPnOToXnOoPnEXnEoPnUToXnUoPoRXoRnYToXnYoPoRXoRmZZITpXoIpPpE
TqXpEqPoATpXoApPoOXoOpPoEXoEpPoUXoUpPpRXpRoYTpXoYpPpRXpRmNZITpXoIpPpEXpEqPoATpXoApPoUOXpOoOXpPoEXoE
oUXoUpPpRXpRoYTpXoYpPpRXpRmSIToXnIoPoEXoEpPnAToXnAoPnUOXoOpPnOToXnOoPnEXnEoPnUToXnUoPoRXoRnYToXnYoP
oRXoRnSITpXoIpPpEXpEqPoATpXoApPoOTpXoOpPoEXoEpPoUTpXoUpPoYTpXoYpPpRXpRmZHATpXoApPoUOXpOqPoOTpXoOpPo
ETpXoEpPoUTpXoUpPpRXpRoYTpXoYpPpRXpRmCHATpXoApPoUOTqXpOqPoOTpXoOpPoETpXoEpPoUXoUpPpRXpRoYTpXoYpPpRX
pRmRRAXoAoUOXpOoOTpXoOpPoETpXoEpPoUTpXoUpPpRXpRoYTpXoYpPpRXpRmNRATpXoApPoOXoOpPoETpXoEpPoUTpXoUpPpR
XpRoYTpXoYpPpRXpRmSHATpXoApPoUOXpOqPoOTpXoOpPoETpXoEpPoUTpXoUpPpRXpRoYTpXoYpPpRXpRmRAToXnAoPnUOXoOp
PnOToXnOoPnEXnEoPnUToXnUoPoRXoRnYToXnYoPoRXoRmJIToXnIoPoETpXoEpPnUOTpXoOpPnOToXnOoPnUToXnUoPoRXoRnY
ToXnYoPoRXoRmQIToXnIoPoETpXoEpPnUOTpXoOpPnOToXnOoPnUToXnUoPoRXoRnYToXnYoPoRXoRmJJITpXoIpPpETqXpEqPo
UOXpOqPoOTpXoOpPoUTpXoUpPpRXpRoYTpXoYpPmNJITpXoIpPpETqXpEqPoUOXpOoOTpXoOpPoUXoUpPpRXpRoYTpXoYpPpRXp
RnYITpXoIpPpETqXpEqPoUOXpOqPoOTpXoOpPoUTpXoUpPmXIToXnIoPoETpXoEpPnUOXoOnOToXnOoPnYToXnYoPoRXoRmYITo
XnIoPoETpXoEpPnUOTpXoOpPnOToXnOoPnUToXnUoPoRXoRnYToXnYoPoRXoR.A490aYI RADICAL QOTlLIlKITlNYIPlCYPlS
SIlGGOPmEPlMIlHXITlLYRlBBUTlMOPlYOlPUTlHXUOlTATlGAlZUPlCYTlDDURlBURlGGUOlNYOPlTUlOPlJJUTlZOTlPYTlHM
OlYITlVURlSHYlVEPlZAlJOlNZUPlJJYlGOTlJJIElWOlDUlSHURlLIElCYmUOPmIPlHXOPlSHATlZURlSHOPlCHElZZIETlNBI
ElKE.A4D0aLISU LETTER BAmPAnHAmDAmTAnHAmGAmKAnHAmJAmCAnHAmDZAmTSAoHAmMAmNAmLAmSAmZHAnAmNGAmHAmXAmHH
AmFAmWAmSHAmYAmGHAmAnEmEnUmImOmUnEnHmOEmTONE MYA TIrNA POrMYA CYAvBOvNAvJEUfPUNCTUATION COMMArFUL
L STOPaVAI SYLLABLE EEpNnHEEnWEEqNnPEEnBHEEoEEnMBEEnKPEEnMGBEEnGBEEnFEEnVEEnTEEoHEEnDHEEpHEEnLEEnRE
EnDEEnNDEEnSEEoHEEnZEEoHEEnCEEnJEEnNJEEnYEEnKEEnNGGEEnGEEnMEEnNEEoYEEnIoNnHIpNnWIpNnPInBHIoInMBInKP
InMGBInGBInFInVInTIoHInDHIpHInLInRInDInNDInSIoHInZIoHInCInJInNJInYInKInNGGInGInMInNIoYInAoNnNGANnHA
pNnWApNnPAnBHAoAnMBAnKPAqNnMGBAnGBAnFAnVAnTAoHAnDHApHAnLAnRAnDAnNDAnSAoHAnZAoHAnCAnJAnNJAnYAnKApNnN
GGAnGAnMAnNAoYAnOOpNnHOOnWOOqNnPOOnBHOOoOOnMBOOnKPOOnMGBOOnGBOOnFOOnVOOnTOOoHOOnDHOOpHOOnLOOnROOnDO
OnNDOOnSOOoHOOnZOOoHOOnCOOnJOOnNJOOnYOOnKOOnNGGOOnGOOnMOOnNOOoYOOnUoNnHUpNnWUpNnPUnBHUoUnMBUnKPUnMG
BUnGBUnFUnVUnTUoHUnDHUpHUnLUnRUnDUnNDUnSUoHUnZUoHUnCUnJUnNJUnYUnKUnNGGUnGUnMUnNUoYUnOoNnNGONnHOpNnW
OpNnPOnBHOoOnMBOnKPOnMGBOnGBOqNnFOnVOnTOoHOnDHOpHOnLOnROnDOnNDOnSOoHOnZOoHOnCOnJOnNJOnYOnKOnNGGOnGO
nMOnNOoYOnEoNnNGENnHEpNnWEpNnPEnBHEoEnMBEnKPEqNnMGBEnGBEqNnFEnVEnTEoHEnDHEpHEnLEnREnDEnNDEnSEoHEnZE
oHEnCEnJEnNJEnYEnKEnNGGErNnGEpNnMEnNEoYEoGnLENGTHENEReCOMMAeFULL STOPeQUESTION MARKeSYLLABLE NDOL
E FAtKAtSOOgMBOL FEENGlKEENGlTINGlNIIlBANGlFAAlTAAlDANGmOONGlKUNGlTONGlDO-OlJONGeDIGIT ZEROkONEkTWO
lHREEkFOURlIVEkSIXlEVENkEIGHTkNINEeSYLLABLE NDOLE MAtDO.A640aCYRILLIC CAPITAL LETTER ZEMLYAjSMALL L
ETTER ZEMLYAjCAPITAL LETTER DZELOjSMALL LETTER DZELOjCAPITAL LETTER REVERSED DZEjSMALL LETTER REVER
SED DZEjCAPITAL LETTER IOTAjSMALL LETTER IOTAjCAPITAL LETTER DJERVjSMALL LETTER DJERVjCAPITAL LETTE
R MONOGRAPH UKjSMALL LETTER MONOGRAPH UKjCAPITAL LETTER BROAD OMEGAjSMALL LETTER BROAD OMEGAjCAPITA
L LETTER NEUTRAL YERjSMALL LETTER NEUTRAL YERjCAPITAL LETTER YERU WITH BACK YERjSMALL LETTER YERU W
ITH BACK YERjCAPITAL LETTER IOTIFIED YATjSMALL LETTER IOTIFIED YATjCAPITAL LETTER REVERSED YUjSMAL
L LETTER REVERSED YUjCAPITAL LETTER IOTIFIED AjSMALL LETTER IOTIFIED AjCAPITAL LETTER CLOSED LITTL
E YUSjSMALL LETTER CLOSED LITTLE YUSjCAPITAL LETTER BLENDED YUSjSMALL LETTER BLENDED YUSjCAPITAL LE
TTER IOTIFIED CLOSED LITTLE YUSjSMALL LETTER IOTIFIED CLOSED LITTLE YUSjCAPITAL LETTER YNjSMALL LET
TER YNjCAPITAL LETTER REVERSED TSEjSMALL LETTER REVERSED TSEjCAPITAL LETTER SOFT DEjSMALL LETTER SO
FT DEjCAPITAL LETTER SOFT ELjSMALL LETTER SOFT ELjCAPITAL LETTER SOFT EMjSMALL LETTER SOFT EMjCAPIT
AL LETTER MONOCULAR OjSMALL LETTER MONOCULAR OjCAPITAL LETTER BINOCULAR OjSMALL LETTER BINOCULAR Oj
CAPITAL LETTER DOUBLE MONOCULAR OjSMALL LETTER DOUBLE MONOCULAR OjLETTER MULTIOCULAR ObOMBINING CYR
ILLIC VZMETtTEN MILLIONS SIGNtHUNDRED MILLIONS SIGNtTHOUSAND MILLIONS SIGNaSLAVONIC ASTERISKaCOMBIN
ING CYRILLIC LETTER UKRAINIAN IEzbIzbYIzbUzbHARD SIGNzbYERUzbSOFT SIGNzbOMEGAtKAVYKAtPAYEROKbYRILLI
C KAVYKAjPAYEROKjCAPITAL LETTER DWEjSMALL LETTER DWEjCAPITAL LETTER DZWEjSMALL LETTER DZWEjCAPITA
L LETTER ZHWEjSMALL LETTER ZHWEjCAPITAL LETTER CCHEjSMALL LETTER CCHEjCAPITAL LETTER DZZEjSMALL LET
TER DZZEjCAPITAL LETTER TE WITH MIDDLE HOOKjSMALL LETTER TE WITH MIDDLE HOOKjCAPITAL LETTER TWEjSMA
LL LETTER TWEjCAPITAL LETTER TSWEjSMALL LETTER TSWEjCAPITAL LETTER TSSEjSMALL LETTER TSSEjCAPITAL L
ETTER TCHEjSMALL LETTER TCHEjCAPITAL LETTER HWEjSMALL LETTER HWEjCAPITAL LETTER SHWEjSMALL LETTER S
HWEjCAPITAL LETTER DOUBLE OjSMALL LETTER DOUBLE OjCAPITAL LETTER CROSSED OjSMALL LETTER CROSSED OaM
ODIFIER LETTER CYRILLIC HARD SIGNzaSOFT SIGNaCOMBINING CYRILLIC LETTER EFzbIOTIFIED EaBAMUM LETTE
R AnKAnUnKUnEEnREEnTAEnOnNYInInLAnPAnRIIpEEnLEEEEnMEEEEnTAAnNDAAoJAEMnMnSUUnMUnSHIIoIoHEUXoEUXnKYEE
oETnNUAEoUoJUAEnYOQnSHUnYUQoAnNSHAnKEUXnPEUXnNJEEoTEEnPUEnWUEnPEEnFEEnRUnLUnMInNInREUXoAEnKENnNGKWA
ENpGApAnSHOnPUAEnFUoOMnWAnNAnLInPInLOQnKOnMBENnRENnMENoAnTInKInMOoBAAnTETnKPAnTENnNTUUnSAMBAnFAAMAE
nKOVUUpGHOMgCOMBINING MARK KOQNDONvTUKWENTISgNJAEMLIgFULL STOPgCOLONiMMAgSEMICOLONgQUESTION MARK.A7
00aMODIFIER LETTER CHINESE TONE YIN PINGzfANG PINGzfIN SHANGzfANG SHANGzfIN QUzfANG QUzfIN RUzfAN
G RUqEXTRA-HIGH DOTTED TONE BARqHIGH DOTTED TONE BARqMID DOTTED TONE BARqLOW DOTTED TONE BARqEXTRA-
LOW DOTTED TONE BARwHIGH DOTTED LEFT-STEM TONE BARqHIGH DOTTED LEFT-STEM TONE BARqMID DOTTED LEFT-S
TEM TONE BARqLOW DOTTED LEFT-STEM TONE BARqEXTRA-LOW DOTTED LEFT-STEM TONE BARwHIGH LEFT-STEM TON
E BARqHIGH LEFT-STEM TONE BARqMID LEFT-STEM TONE BARqLOW LEFT-STEM TONE BARqEXTRA-LOW LEFT-STEM TON
E BARqDOT VERTICAL BARuSLASHuHORIZONTAL BARqLOWER RIGHT CORNER ANGLEqRAISED UP ARROWxDOWN ARROWxEXC
LAMATION MARKxINVERTED EXCLAMATION MARKqLOW INVERTED EXCLAMATION MARKqSTRESS AND HIGH TONEzcLOW TON
EaLATIN CAPITAL LETTER EGYPTOLOGICAL ALEFgSMALL LETTER EGYPTOLOGICAL ALEFgCAPITAL LETTER EGYPTOLOGI
CAL AINgSMALL LETTER EGYPTOLOGICAL AINgCAPITAL LETTER HENGgSMALL LETTER HENGgCAPITAL LETTER TZgSMAL
L LETTER TZgCAPITAL LETTER TRESILLOgSMALL LETTER TRESILLOgCAPITAL LETTER CUATRILLOgSMALL LETTER CUA
TRILLOgCAPITAL LETTER CUATRILLO WITH COMMAgSMALL LETTER CUATRILLO WITH COMMAgLETTER SMALL CAPITAL F
zcSgCAPITAL LETTER AAgSMALL LETTER AAgCAPITAL LETTER AOgSMALL LETTER AOgCAPITAL LETTER AUgSMALL LET
TER AUgCAPITAL LETTER AVgSMALL LETTER AVgCAPITAL LETTER AV WITH HORIZONTAL BARgSMALL LETTER AV WIT
H HORIZONTAL BARgCAPITAL LETTER AYgSMALL LETTER AYgCAPITAL LETTER REVERSED C WITH DOTgSMALL LETTE
R REVERSED C WITH DOTgCAPITAL LETTER K WITH STROKEgSMALL LETTER K WITH STROKEgCAPITAL LETTER K WIT
H DIAGONAL STROKEgSMALL LETTER K WITH DIAGONAL STROKEgCAPITAL LETTER K WITH STROKE AND DIAGONAL STR
OKEgSMALL LETTER K WITH STROKE AND DIAGONAL STROKEgCAPITAL LETTER BROKEN LgSMALL LETTER BROKEN LgCA
PITAL LETTER L WITH HIGH STROKEgSMALL LETTER L WITH HIGH STROKEgCAPITAL LETTER O WITH LONG STROKE O
VERLAYgSMALL LETTER O WITH LONG STROKE OVERLAYgCAPITAL LETTER O WITH LOOPgSMALL LETTER O WITH LOOPg
CAPITAL LETTER OOgSMALL LETTER OOgCAPITAL LETTER P WITH STROKE THROUGH DESCENDERgSMALL LETTER P WIT
H STROKE THROUGH DESCENDERgCAPITAL LETTER P WITH FLOURISHgSMALL LETTER P WITH FLOURISHgCAPITAL LETT
ER P WITH SQUIRREL TAILgSMALL LETTER P WITH SQUIRREL TAILgCAPITAL LETTER Q WITH STROKE THROUGH DESC
ENDERgSMALL LETTER Q WITH STROKE THROUGH DESCENDERgCAPITAL LETTER Q WITH DIAGONAL STROKEgSMALL LETT
ER Q WITH DIAGONAL STROKEgCAPITAL LETTER R ROTUNDAgSMALL LETTER R ROTUNDAgCAPITAL LETTER RUM ROTUND
AgSMALL LETTER RUM ROTUNDAgCAPITAL LETTER V WITH DIAGONAL STROKEgSMALL LETTER V WITH DIAGONAL STROK
EgCAPITAL LETTER VYgSMALL LETTER VYgCAPITAL LETTER VISIGOTHIC ZgSMALL LETTER VISIGOTHIC ZgCAPITAL L
ETTER THORN WITH STROKEgSMALL LETTER THORN WITH STROKEgCAPITAL LETTER THORN WITH STROKE THROUGH DES
CENDERgSMALL LETTER THORN WITH STROKE THROUGH DESCENDERgCAPITAL LETTER VENDgSMALL LETTER VENDgCAPIT
AL LETTER ETgSMALL LETTER ETgCAPITAL LETTER ISgSMALL LETTER ISgCAPITAL LETTER CONgSMALL LETTER CONa
MODIFIER LETTER USaLATIN SMALL LETTER DUMtLUMtMUMtNUMtRUMgLETTER SMALL CAPITAL RUMgSMALL LETTER TUM
tUMgCAPITAL LETTER INSULAR DgSMALL LETTER INSULAR DgCAPITAL LETTER INSULAR FgSMALL LETTER INSULAR F
gCAPITAL LETTER INSULAR GvTURNED INSULAR GgSMALL LETTER TURNED INSULAR GgCAPITAL LETTER TURNED LgSM
ALL LETTER TURNED LgCAPITAL LETTER INSULAR RgSMALL LETTER INSULAR RgCAPITAL LETTER INSULAR SgSMAL
L LETTER INSULAR SgCAPITAL LETTER INSULAR TgSMALL LETTER INSULAR TaMODIFIER LETTER LOW CIRCUMFLEX A
CCENTqCOLONqSHORT EQUALS SIGNaLATIN CAPITAL LETTER SALTILLOgSMALL LETTER SALTILLOgCAPITAL LETTER TU
RNED HgSMALL LETTER L WITH RETROFLEX HOOK AND BELTgLETTER SINOLOGICAL DOTgCAPITAL LETTER N WITH DES
CENDERgSMALL LETTER N WITH DESCENDERgCAPITAL LETTER C WITH BARgSMALL LETTER C WITH BARzbPALATAL HOO
KtH WITH PALATAL HOOKgCAPITAL LETTER B WITH FLOURISHgSMALL LETTER B WITH FLOURISHgCAPITAL LETTE
R F WITH STROKEgSMALL LETTER F WITH STROKEgCAPITAL LETTER VOLAPUK AEgSMALL LETTER VOLAPUK AEgCAPITA
L LETTER VOLAPUK OEgSMALL LETTER VOLAPUK OEgCAPITAL LETTER VOLAPUK UEgSMALL LETTER VOLAPUK UEgCAPIT
AL LETTER G WITH OBLIQUE STROKEgSMALL LETTER G WITH OBLIQUE STROKEgCAPITAL LETTER K WITH OBLIQUE ST
ROKEgSMALL LETTER K WITH OBLIQUE STROKEgCAPITAL LETTER N WITH OBLIQUE STROKEgSMALL LETTER N WITH OB
LIQUE STROKEgCAPITAL LETTER R WITH OBLIQUE STROKEgSMALL LETTER R WITH OBLIQUE STROKEgCAPITAL LETTE
R S WITH OBLIQUE STROKEgSMALL LETTER S WITH OBLIQUE STROKEgCAPITAL LETTER H WITH HOOKvREVERSED OPE
N EvSCRIPT GvL WITH BELTvSMALL CAPITAL IgLETTER SMALL CAPITAL QgCAPITAL LETTER TURNED KzdTvJ WITH C
ROSSED-TAILvCHIvBETAgSMALL LETTER BETAgCAPITAL LETTER OMEGAgSMALL LETTER OMEGAgCAPITAL LETTER U WIT
H STROKEgSMALL LETTER U WITH STROKEgCAPITAL LETTER GLOTTAL AgSMALL LETTER GLOTTAL AgCAPITAL LETTE
R GLOTTAL IgSMALL LETTER GLOTTAL IgCAPITAL LETTER GLOTTAL UgSMALL LETTER GLOTTAL UgCAPITAL LETTER O
LD POLISH OgSMALL LETTER OLD POLISH OgCAPITAL LETTER ANGLICANA WgSMALL LETTER ANGLICANA WgCAPITAL L
ETTER C WITH PALATAL HOOKvS WITH HOOKvZ WITH PALATAL HOOKvD WITH SHORT STROKE OVERLAYgSMALL LETTE
R D WITH SHORT STROKE OVERLAYgCAPITAL LETTER S WITH SHORT STROKE OVERLAYgSMALL LETTER S WITH SHOR
T STROKE OVERLAY.A7D0aLATIN CAPITAL LETTER CLOSED INSULAR GgSMALL LETTER CLOSED INSULAR G.A7D3aLATI
N SMALL LETTER DOUBLE THORN.A7D5aLATIN SMALL LETTER DOUBLE WYNNgCAPITAL LETTER MIDDLE SCOTS SgSMAL
L LETTER MIDDLE SCOTS SgCAPITAL LETTER SIGMOID SgSMALL LETTER SIGMOID S.A7F2aMODIFIER LETTER CAPITA
L CyFyQaLATIN CAPITAL LETTER REVERSED HALF HgSMALL LETTER REVERSED HALF HgEPIGRAPHIC LETTER SIDEWAY
S IaMODIFIER LETTER CAPITAL H WITH STROKEqSMALL LIGATURE OEaLATIN LETTER SMALL CAPITAL TURNED MgEPI
GRAPHIC LETTER REVERSED FziPyINVERTED Mza LONGAyARCHAIC MaSYLOTI NAGRI LETTER AuInSIGN DVISVARAnLET
TER UuEuOnSIGN HASANTAnLETTER KOvHOuGOvHOnSIGN ANUSVARAnLETTER COvHOuJOvHOuTTOwHOuDDOwHOuTOvHOuDOvH
OuNOuPOvHOuBOvHOuMOuROuLOuRROuSOuHOnVOWEL SIGN AyIyUyEyOOnPOETRY MARK-1za2za3za4nSIGN ALTERNATE HAS
ANTA.A830aNORTH INDIC FRACTION ONE QUARTERzaHALFvTHREE QUARTERSvONE SIXTEENTHzaEIGHTHvTHREE SIXTEEN
THSmQUARTER MARKmPLACEHOLDER MARKmRUPEE MARKmQUANTITY MARK.A840aPHAGS-PA LETTER KArHAqGAqNGAqCArHAq
JAqNYAqTArHAqDAqNAqPArHAqBAqMAqTSAsHAqDZAqWAqZHArAqSMALL AqYAqRAqLAqSHArAqHAqAqIqUqEqOqQAqXAqFAqGGA
qEEjSUBJOINED LETTER WAzbYAjLETTER TTAsHAqDDAqNNAqALTERNATE YAqVOICELESS SHAvD HAqASPIRATED FAjSUBJ
OINED LETTER RAlPERFIXED LETTER RAjLETTER CANDRABINDUjSINGLE HEAD MARKjDOUBLE HEAD MARKjMARK SHADoD
OUBLE SHAD.A880aSAURASHTRA SIGN ANUSVARAqVISARGAlLETTER AtAsItIsUtUsVOCALIC RzcRzbLzcLsEtEsAIsOtOsA
UsKAtHAsGAtHAsNGAsCAtHAsJAtHAsNYAsTTAuHAsDDAuHAsNNAsTAtHAsDAtHAsNAsPAtHAsBAtHAsMAsYAsRAsLAsVAsSHAtS
AtAsHAsLLAlCONSONANT SIGN HAARUlVOWEL SIGN AAwIxIwUxUwVOCALIC RzgRzfLzgLwExEwAIwOxOwAUlSIGN VIRAMAq
CANDRABINDU.A8CEaSAURASHTRA DANDAmOUBLE DANDAmIGIT ZEROrONErTWOsHREErFOURsIVErSIXsEVENrEIGHTrNINE.A
8E0aCOMBINING DEVANAGARI DIGIT ZEROzcONEzcTWOzdHREEzcFOURzdIVEzcSIXzdEVENzcEIGHTzcNINEvLETTER AzdUz
dKAzdNAzdPAzdRAzdVIvSIGN AVAGRAHAaDEVANAGARI SIGN SPACING CANDRABINDUqCANDRABINDU VIRAMAqDOUBLE CAN
DRABINDU VIRAMAqCANDRABINDU TWOzeHREEzdAVAGRAHAqPUSHPIKAlGAP FILLERlCARETlHEADSTROKElSIGN SIDDHAMlJ
AIN OMlLETTER AYlVOWEL SIGN AYaKAYAH LI DIGIT ZEROpONEpTWOqHREEpFOURqIVEpSIXqEVENpEIGHTpNINEjLETTE
R KArHAqGAqNGAqSArHAqZAqNYAqTAqHTAqNAqPArHAqMAqDAqBAqRAqYAqLAqWAqTHAqHAqVAqCAqAqOEqIqOOjVOWEL UEpEp
UpEEpOjTONE PLOPHUoCALYAt PLOPHUjSIGN CWIoSHYAaREJANG LETTER KAoGAoNGAoTAoDAoNAoPAoBAoMAoCAoJAoNYAo
SAoRAoLAoYAoWAoHAoMBAoNGGApDApYJAoAhVOWEL SIGN IsUsEsAIsOsAUsEUtAhCONSONANT SIGN NGwNwRwHhVIRAMA.A9
5FaREJANG SECTION MARKaHANGUL CHOSEONG TIKEUT-MIEUMxPIEUPxSIOSxCIEUCqRIEUL-KIYEOKwSSANGKIYEOKwTIKEU
TwSSANGTIKEUTwMIEUMwPIEUPwSSANGPIEUPwKAPYEOUNPIEUPwSIOSwCIEUCwKHIEUKHqMIEUM-KIYEOKwTIKEUTwSIOSqPIEU
P-SIOS-THIEUTHwKHIEUKHwHIEUHqSSANGSIOS-PIEUPqIEUNG-RIEULwHIEUHqSSANGCIEUC-HIEUHvTHIEUTHqPHIEUPH-HIE
UHqHIEUH-SIOSqSSANGYEORINHIEUH.A980aJAVANESE SIGN PANYANGGAoCECAKoLAYARoWIGNYANjLETTER AqI KAWIqIrI
qUqPA CEREKqNGA LELETza RASWADIqEqAIqOqKAs SASAKtMURDAqGAs MURDAqNGAqCAs MURDAqJAqNYA MURDAqJA MAHA
PRANAqNYAqTTAt MAHAPRANAqDDAt MAHAPRANAqNA MURDAqTAs MURDAqDAs MAHAPRANAqNAqPAs MURDAqBAs MURDAqMAq
YAqRAs AGUNGqLAqWAqSA MURDAuAHAPRANArAqHAjSIGN CECAK TELUjVOWEL SIGN TARUNGvOLONGuWULUy MELIKuSUKU
y MENDUTuTALINGuDIRGA MUREuPEPETjCONSONANT SIGN KERETyPENGKALyCAKRAjPANGKONjLEFT RERENGGANjRIGHT RE
RENGGANjPADA ANDAPoMADYAoLUHURoWINDUoPANGKAToLINGSApUNGSIoADEGs ADEGoPISELEHjTURNED PADA PISELEH.A9
CFaJAVANESE PANGRANGKEPjDIGIT ZEROpONEpTWOqHREEpFOURqIVEpSIXqEVENpEIGHTpNINE.A9DEaJAVANESE PADA TIR
TA TUMETESoISEN-ISENaMYANMAR LETTER SHAN GHAuCHAuJHAuNNAuBHAiSIGN SHAN SAWiMODIFIER LETTER SHAN RED
UPLICATIONiLETTER TAI LAING NYAzaFAzaGAzbHAzaJAzbHAzaDDAzcHAzaNNAiTAI LAING DIGIT ZEROyONEyTWOzaHRE
EyFOURzaIVEySIXzaEVENyEIGHTyNINEiLETTER TAI LAING LLAzaDAzbHAzaBAzbHA.AA00aCHAM LETTER AmImUmEmAImO
mKAnHAmGAnHAmNGUEoAmCHAoHAmJAnHAmNHUEoAoJAmTAnHAmDAnHAmNUEnAmDDAmPAnPAnHAmBAnHAmMUEnAmBBAmYAmRAmLAm
VAmSSAnAmHAfVOWEL SIGN AAqIrIqEIqUqOEqOqAIrUqUEfCONSONANT SIGN YAuRAuLAuWA.AA40aCHAM LETTER FINAL K
sGsNGfCONSONANT SIGN FINAL NGfLETTER FINAL CHsTsNsPsYsRsLsSSfCONSONANT SIGN FINAL MzbH.AA50aCHAM DI
GIT ZEROlONElTWOmHREElFOURmIVElSIXmEVENlEIGHTlNINE.AA5CaCHAM PUNCTUATION SPIRALrDANDAsOUBLE DANDArT
RIPLE DANDAaMYANMAR LETTER KHAMTI GAwCAxHAwJAxHAwNYAwTTAyHAwDDAyHAxHAwNAwSAwHAxHAwFAiMODIFIER LETTE
R KHAMTI REDUPLICATIONiLETTER KHAMTI XAwZAwRAjOGOGRAM KHAMTI OAYyQNyHMiSYMBOL AITON EXCLAMATIONvONE
vTWOiLETTER AITON RAiSIGN PAO KAREN TONEnTAI LAING TONE-2zd5iLETTER SHWE PALAUNG CHAzdSHAaTAI VIE
T LETTER LOW KOqHIGH KOqLOW KHOqHIGH KHOqLOW KHHOqHIGH KHHOqLOW GOqHIGH GOqLOW NGOqHIGH NGOqLOW COq
HIGH COqLOW CHOqHIGH CHOqLOW SOqHIGH SOqLOW NYOqHIGH NYOqLOW DOqHIGH DOqLOW TOqHIGH TOqLOW THOqHIG
H THOqLOW NOqHIGH NOqLOW BOqHIGH BOqLOW POqHIGH POqLOW PHOqHIGH PHOqLOW FOqHIGH FOqLOW MOqHIGH MOqL
OW YOqHIGH YOqLOW ROqHIGH ROqLOW LOqHIGH LOqLOW VOqHIGH VOqLOW HOqHIGH HOqLOW OqHIGH OjMAI KANGjVOW
EL AApIpUEpUpEpOjMAI KHITjVOWEL IApUEAqApAUEqYqNqMjTONE MAI EKsNUENGsTHOsSONG.AADBaTAI VIET SYMBO
L KONqNUENGqSAMqHO HOIqKOI KOIaMEETEI MAYEK LETTER EuOuCHAuNYAuTTAwHAuDDAwHAuNNAuSHAvSAnVOWEL SIG
N IIyUUyAAIzaUzaAUnCHEIKHANnAHANG KHUDAMoNJInSYLLABLE REPETITION MARKnWORD REPETITION MARKnVOWEL SI
GN VISARGAoIRAMA.AB01aETHIOPIC SYLLABLE TTHUvIvAAvEEvEvO.AB09aETHIOPIC SYLLABLE DDHUvIvAAvEEvEvO.AB
11aETHIOPIC SYLLABLE DZUuIuAAuEEuEuO.AB20aETHIOPIC SYLLABLE CCHHAwUwIwAAwEEwEwO.AB28aETHIOPIC SYLLA
BLE BBAuUuIuAAuEEuEuO.AB30aLATIN SMALL LETTER BARRED ALPHAtA REVERSED-SCHWAtBLACKLETTER EuARRED Et
E WITH FLOURISHtLENIS FtSCRIPT G WITH CROSSED-TAILtL WITH INVERTED LAZY SzbDOUBLE MIDDLE TILDEzbMID
DLE RINGtM WITH CROSSED-TAILtN WITH CROSSED-TAILtENG WITH CROSSED-TAILtBLACKLETTER Ozh WITH STROKEt
OPEN O WITH STROKEtINVERTED OEtTURNED OE WITH STROKEzjHORIZONTAL STROKEzc OPEN-Ozj WITH STROKEtSTIR
RUP RgLETTER SMALL CAPITAL R WITH RIGHT LEGgSMALL LETTER R WITHOUT HANDLEtDOUBLE RtR WITH CROSSED-T
AILtDOUBLE R WITH CROSSED-TAILtSCRIPT Rzc WITH RINGtBASELINE ESHtU WITH SHORT RIGHT LEGvBAR WITH SH
ORT RIGHT LEGuItTURNED UItU WITH LEFT HOOKtCHIw WITH LOW RIGHT RINGzhLEFT SERIFtX WITH LOW RIGHT RI
NGzdNG LEFT LEGzo AND LOW RIGHT RINGzpWITH SERIFtY WITH SHORT RIGHT LEGaMODIFIER BREVE WITH INVERTE
D BREVEjLETTER SMALL HENGwL WITH INVERTED LAZY SzeMIDDLE TILDEwU WITH LEFT HOOKaLATIN SMALL LETTE
R SAKHA YATtIOTIFIED EtOPEN OEtUOtINVERTED ALPHAaGREEK LETTER SMALL CAPITAL OMEGAaLATIN SMALL LETTE
R DZ DIGRAPH WITH RETROFLEX HOOKtTS DIGRAPH WITH RETROFLEX HOOKuURNED R WITH MIDDLE TILDEaMODIFIE
R LETTER SMALL TURNED WqLEFT TACKqRIGHT TACK.AB70aCHEROKEE SMALL LETTER AwEwIwOwUwVwGAwKAwGExIxOxUx
VwHAxExIxOxUxVwLAxExIxOxUxVwMAxExIxOxUwNAwHNAwNAHxExIxOxUxVwQUAyEyIyOyUyVwSAwSxExIxOxUxVwDAwTAwDEwT
EwDIwTIwDOxUxVxLAwTLAyEyIyOyUyVxSAyEyIyOyUyVwWAxExIxOxUxVwYAaMEETEI MAYEK LETTER KOKuSAMuLAIuMITuPA
uNAuCHILuTILuKHOUuNGOUuTHOUuWAIuYANGuHUKuUNuIuPHAMuATIYAuGOKuJHAMuRAIuBAuJILuDILuGHOUuDHOUuBHAMuKO
K LONSUMuLAI LONSUMuMIT LONSUMuPA LONSUMuNA LONSUMuTIL LONSUMuNGOU LONSUMuI LONSUMnVOWEL SIGN ONAPy
INAPyANAPyYENAPySOUNAPyUNAPyCHEINAPyNUNGnCHEIKHEInLUM IYEKnAPUN IYEK.ABF0aMEETEI MAYEK DIGIT ZEROtO
NEtTWOuHREEtFOURuIVEtSIXuEVENtEIGHTtNINE.D7B0aHANGUL JUNGSEONG O-YEOtO-IrYO-AvEuEOrU-YEOtI-IrYU-AEu
OrEU-AuEOuEuOrI-YA-OvEuEOuEtO-ItYOuUtIrARAEA-AxE.D7CBaHANGUL JONGSEONG NIEUN-RIEULxCHIEUCHrSSANGTIK
EUTzd-PIEUPrTIKEUT-PIEUPySIOSzd-KIYEOKyCIEUCzaHIEUCHyTHIEUTHrRIEUL-SSANGKIYEOKxKIYEOK-HIEUHrSSANGRI
EUL-KHIEUKHrRIEUL-MIEUM-HIEUHxPIEUP-TIKEUTzePHIEUPHxYESIEUNGzaORINHIEUH-HIEUHrKAPYEOUNRIEULrMIEUM-N
IEUNxSSANGNIEUNrSSANGMIEUMrMIEUM-PIEUP-SIOSxCIEUCrPIEUP-TIKEUTxRIEUL-PHIEUPHxMIEUMrSSANGPIEUPrPIEUP
-SIOS-TIKEUTxCIEUCyHIEUCHrSIOS-MIEUMwKAPYEOUNPIEUPsSANGSIOS-KIYEOKzcTIKEUTsIOS-PANSIOSwCIEUCxHIEUCH
wTHIEUTHwHIEUHrPANSIOS-PIEUPzaKAPYEOUNPIEUPrYESIEUNG-MIEUMzbHIEUHrCIEUC-PIEUPxSSANGPIEUPrSSANGCIEUC
rPHIEUPH-SIOSzaTHIEUTH.FB00aLATIN SMALL LIGATURE FFwIwLwFIxLvLONG S TvST.FB13aARMENIAN SMALL LIGATU
RE MEN NOWzdECHzdINIyVEW NOWyMEN XEH.FB1DaHEBREW LETTER YOD WITH HIRIQhPOINT JUDEO-SPANISH VARIKAhL
IGATURE YIDDISH YOD YOD PATAHiETTER ALTERNATIVE AYINoWIDE ALEFtDALETtHEtKAFtLAMEDtFINAL MEMtRESHtTA
VoALTERNATIVE PLUS SIGNoSHIN WITH SHIN DOTzaIN DOTyDAGESH AND SHIN DOTzlIN DOToALEF WITH PATAHyQAMA
TSyMAPIQoBET WITH DAGESHoGIMEL WITH DAGESHoDALET WITH DAGESHoHE WITH MAPIQoVAV WITH DAGESHoZAYIN WI
TH DAGESH.FB38aHEBREW LETTER TET WITH DAGESHoYOD WITH DAGESHoFINAL KAF WITH DAGESHoKAF WITH DAGESHo
LAMED WITH DAGESH.FB3EaHEBREW LETTER MEM WITH DAGESH.FB40aHEBREW LETTER NUN WITH DAGESHoSAMEKH WIT
H DAGESH.FB43aHEBREW LETTER FINAL PE WITH DAGESHoPE WITH DAGESH.FB46aHEBREW LETTER TSADI WITH DAGES
HoQOF WITH DAGESHoRESH WITH DAGESHoSHIN WITH DAGESHoTAV WITH DAGESHoVAV WITH HOLAMoBET WITH RAFEoKA
F WITH RAFEoPE WITH RAFEiIGATURE ALEF LAMEDaARABIC LETTER ALEF WASLA ISOLATED FORMzaFINAL FORMoBEE
H ISOLATED FORMtFINAL FORMtINITIAL FORMtMEDIAL FORMoPEH ISOLATED FORMsFINAL FORMsINITIAL FORMsMEDIA
L FORMoBEHEH ISOLATED FORMuFINAL FORMuINITIAL FORMuMEDIAL FORMoTTEHEH ISOLATED FORMvFINAL FORMvINIT
IAL FORMvMEDIAL FORMpEHEH ISOLATED FORMuFINAL FORMuINITIAL FORMuMEDIAL FORMpTEH ISOLATED FORMtFINA
L FORMtINITIAL FORMtMEDIAL FORMoVEH ISOLATED FORMsFINAL FORMsINITIAL FORMsMEDIAL FORMoPEHEH ISOLATE
D FORMuFINAL FORMuINITIAL FORMuMEDIAL FORMoDYEH ISOLATED FORMtFINAL FORMtINITIAL FORMtMEDIAL FORMoN
YEH ISOLATED FORMtFINAL FORMtINITIAL FORMtMEDIAL FORMoTCHEH ISOLATED FORMuFINAL FORMuINITIAL FORMuM
EDIAL FORMtEH ISOLATED FORMwFINAL FORMwINITIAL FORMwMEDIAL FORMoDDAHAL ISOLATED FORMvFINAL FORMpAHA
L ISOLATED FORMuFINAL FORMpUL ISOLATED FORMsFINAL FORMpDAL ISOLATED FORMtFINAL FORMoJEH ISOLATED FO
RMsFINAL FORMoRREH ISOLATED FORMtFINAL FORMoKEHEH ISOLATED FORMuFINAL FORMuINITIAL FORMuMEDIAL FORM
oGAF ISOLATED FORMsFINAL FORMsINITIAL FORMsMEDIAL FORMpUEH ISOLATED FORMtFINAL FORMtINITIAL FORMtME
DIAL FORMoNGOEH ISOLATED FORMuFINAL FORMuINITIAL FORMuMEDIAL FORMpOON GHUNNA ISOLATED FORMzbFINAL F
ORMoRNOON ISOLATED FORMuFINAL FORMuINITIAL FORMuMEDIAL FORMoHEH WITH YEH ABOVE ISOLATED FORMziFINA
L FORMsGOAL ISOLATED FORMxFINAL FORMxINITIAL FORMxMEDIAL FORMsDOACHASHMEE ISOLATED FORMzfFINAL FORM
zfINITIAL FORMzfMEDIAL FORMoYEH BARREE ISOLATED FORMzaFINAL FORMzaWITH HAMZA ABOVE ISOLATED FORMzrF
INAL FORMhSYMBOL DOT ABOVEsBELOWoTWO DOTS ABOVExBELOWpHREE DOTS ABOVEzaBELOWzaPOINTING DOWNWARDS AB
OVEztBELOWoFOUR DOTS ABOVEyBELOWoDOUBLE VERTICAL BAR BELOWoTWO DOTS VERTICALLY ABOVEzjBELOWoRINGoSM
ALL TAH ABOVEyBELOWoWASLA ABOVE.FBD3aARABIC LETTER NG ISOLATED FORMrFINAL FORMrINITIAL FORMrMEDIA
L FORMoU ISOLATED FORMqFINAL FORMoOE ISOLATED FORMrFINAL FORMoYU ISOLATED FORMrFINAL FORMoU WITH HA
MZA ABOVE ISOLATED FORMoVE ISOLATED FORMrFINAL FORMoKIRGHIZ OE ISOLATED FORMzaFINAL FORMwYU ISOLATE
D FORMzaFINAL FORMoE ISOLATED FORMqFINAL FORMqINITIAL FORMqMEDIAL FORMoUIGHUR KAZAKH KIRGHIZ ALEF M
AKSURA INITIAL FORMzyMEDIAL FORMiIGATURE YEH WITH HAMZA ABOVE WITH ALEF ISOLATED FORMzwFINAL FORMzs
E ISOLATED FORMzuFINAL FORMzrWAW ISOLATED FORMzvFINAL FORMzrU ISOLATED FORMztFINAL FORMzrOE ISOLATE
D FORMzuFINAL FORMzrYU ISOLATED FORMzuFINAL FORMzrE ISOLATED FORMztFINAL FORMztINITIAL FORMqUIGHU
R KIRGHIZ YEH WITH HAMZA ABOVE WITH ALEF MAKSURA ISOLATED FORMzzuFINAL FORMzzuINITIAL FORMiETTER FA
RSI YEH ISOLATED FORMyFINAL FORMyINITIAL FORMyMEDIAL FORMiIGATURE YEH WITH HAMZA ABOVE WITH JEEM IS
OLATED FORMzrHAH ISOLATED FORMzrMEEM ISOLATED FORMzrALEF MAKSURA ISOLATED FORMzrYEH ISOLATED FORMqB
EH WITH JEEM ISOLATED FORMzaHAH ISOLATED FORMzaKHAH ISOLATED FORMzaMEEM ISOLATED FORMzaALEF MAKSUR
A ISOLATED FORMzaYEH ISOLATED FORMqTEH WITH JEEM ISOLATED FORMzaHAH ISOLATED FORMzaKHAH ISOLATED FO
RMzaMEEM ISOLATED FORMzaALEF MAKSURA ISOLATED FORMzaYEH ISOLATED FORMrHEH WITH JEEM ISOLATED FORMzb
MEEM ISOLATED FORMzbALEF MAKSURA ISOLATED FORMzbYEH ISOLATED FORMqJEEM WITH HAH ISOLATED FORMzbMEE
M ISOLATED FORMqHAH WITH JEEM ISOLATED FORMzaMEEM ISOLATED FORMqKHAH WITH JEEM ISOLATED FORMzbHAH I
SOLATED FORMzbMEEM ISOLATED FORMqSEEN WITH JEEM ISOLATED FORMzbHAH ISOLATED FORMzbKHAH ISOLATED FOR
MzbMEEM ISOLATED FORMrAD WITH HAH ISOLATED FORMzaMEEM ISOLATED FORMqDAD WITH JEEM ISOLATED FORMzaHA
H ISOLATED FORMzaKHAH ISOLATED FORMzaMEEM ISOLATED FORMqTAH WITH HAH ISOLATED FORMzaMEEM ISOLATED F
ORMqZAH WITH MEEM ISOLATED FORMqAIN WITH JEEM ISOLATED FORMzaMEEM ISOLATED FORMqGHAIN WITH JEEM ISO
LATED FORMzcMEEM ISOLATED FORMqFEH WITH JEEM ISOLATED FORMzaHAH ISOLATED FORMzaKHAH ISOLATED FORMza
MEEM ISOLATED FORMzaALEF MAKSURA ISOLATED FORMzaYEH ISOLATED FORMqQAF WITH HAH ISOLATED FORMzaMEE
M ISOLATED FORMzaALEF MAKSURA ISOLATED FORMzaYEH ISOLATED FORMqKAF WITH ALEF ISOLATED FORMzaJEEM IS
OLATED FORMzaHAH ISOLATED FORMzaKHAH ISOLATED FORMzaLAM ISOLATED FORMzaMEEM ISOLATED FORMzaALEF MAK
SURA ISOLATED FORMzaYEH ISOLATED FORMqLAM WITH JEEM ISOLATED FORMzaHAH ISOLATED FORMzaKHAH ISOLATE
D FORMzaMEEM ISOLATED FORMzaALEF MAKSURA ISOLATED FORMzaYEH ISOLATED FORMqMEEM WITH JEEM ISOLATED F
ORMzbHAH ISOLATED FORMzbKHAH ISOLATED FORMzbMEEM ISOLATED FORMzbALEF MAKSURA ISOLATED FORMzbYEH ISO
LATED FORMqNOON WITH JEEM ISOLATED FORMzbHAH ISOLATED FORMzbKHAH ISOLATED FORMzbMEEM ISOLATED FORMz
bALEF MAKSURA ISOLATED FORMzbYEH ISOLATED FORMqHEH WITH JEEM ISOLATED FORMzaMEEM ISOLATED FORMzaALE
F MAKSURA ISOLATED FORMzaYEH ISOLATED FORMqYEH WITH JEEM ISOLATED FORMzaHAH ISOLATED FORMzaKHAH ISO
LATED FORMzaMEEM ISOLATED FORMzaALEF MAKSURA ISOLATED FORMzaYEH ISOLATED FORMqTHAL WITH SUPERSCRIP
T ALEF ISOLATED FORMqREH WITH SUPERSCRIPT ALEF ISOLATED FORMqALEF MAKSURA WITH SUPERSCRIPT ALEF ISO
LATED FORMqSHADDA WITH DAMMATAN ISOLATED FORMzdKASRATAN ISOLATED FORMzdFATHA ISOLATED FORMzdDAMMA I
SOLATED FORMzdKASRA ISOLATED FORMzdSUPERSCRIPT ALEF ISOLATED FORMqYEH WITH HAMZA ABOVE WITH REH FIN
AL FORMzrZAIN FINAL FORMzrMEEM FINAL FORMzrNOON FINAL FORMzrALEF MAKSURA FINAL FORMzrYEH FINAL FORM
qBEH WITH REH FINAL FORMzaZAIN FINAL FORMzaMEEM FINAL FORMzaNOON FINAL FORMzaALEF MAKSURA FINAL FOR
MzaYEH FINAL FORMqTEH WITH REH FINAL FORMzaZAIN FINAL FORMzaMEEM FINAL FORMzaNOON FINAL FORMzaALE
F MAKSURA FINAL FORMzaYEH FINAL FORMrHEH WITH REH FINAL FORMzbZAIN FINAL FORMzbMEEM FINAL FORMzbNOO
N FINAL FORMzbALEF MAKSURA FINAL FORMzbYEH FINAL FORMqFEH WITH ALEF MAKSURA FINAL FORMzaYEH FINAL F
ORMqQAF WITH ALEF MAKSURA FINAL FORMzaYEH FINAL FORMqKAF WITH ALEF FINAL FORMzaLAM FINAL FORMzaMEE
M FINAL FORMzaALEF MAKSURA FINAL FORMzaYEH FINAL FORMqLAM WITH MEEM FINAL FORMzaALEF MAKSURA FINA
L FORMzaYEH FINAL FORMqMEEM WITH ALEF FINAL FORMzbMEEM FINAL FORMqNOON WITH REH FINAL FORMzbZAIN FI
NAL FORMzbMEEM FINAL FORMzbNOON FINAL FORMzbALEF MAKSURA FINAL FORMzbYEH FINAL FORMqALEF MAKSURA WI
TH SUPERSCRIPT ALEF FINAL FORMqYEH WITH REH FINAL FORMzaZAIN FINAL FORMzaMEEM FINAL FORMzaNOON FINA
L FORMzaALEF MAKSURA FINAL FORMzaYEH FINAL FORMzaHAMZA ABOVE WITH JEEM INITIAL FORMzrHAH INITIAL FO
RMzrKHAH INITIAL FORMzrMEEM INITIAL FORMzrHEH INITIAL FORMqBEH WITH JEEM INITIAL FORMzaHAH INITIA
L FORMzaKHAH INITIAL FORMzaMEEM INITIAL FORMzaHEH INITIAL FORMqTEH WITH JEEM INITIAL FORMzaHAH INIT
IAL FORMzaKHAH INITIAL FORMzaMEEM INITIAL FORMzaHEH INITIAL FORMrHEH WITH MEEM INITIAL FORMqJEEM WI
TH HAH INITIAL FORMzbMEEM INITIAL FORMqHAH WITH JEEM INITIAL FORMzaMEEM INITIAL FORMqKHAH WITH JEE
M INITIAL FORMzbMEEM INITIAL FORMqSEEN WITH JEEM INITIAL FORMzbHAH INITIAL FORMzbKHAH INITIAL FORMz
bMEEM INITIAL FORMrAD WITH HAH INITIAL FORMzaKHAH INITIAL FORMzaMEEM INITIAL FORMqDAD WITH JEEM INI
TIAL FORMzaHAH INITIAL FORMzaKHAH INITIAL FORMzaMEEM INITIAL FORMqTAH WITH HAH INITIAL FORMqZAH WIT
H MEEM INITIAL FORMqAIN WITH JEEM INITIAL FORMzaMEEM INITIAL FORMqGHAIN WITH JEEM INITIAL FORMzcMEE
M INITIAL FORMqFEH WITH JEEM INITIAL FORMzaHAH INITIAL FORMzaKHAH INITIAL FORMzaMEEM INITIAL FORMqQ
AF WITH HAH INITIAL FORMzaMEEM INITIAL FORMqKAF WITH JEEM INITIAL FORMzaHAH INITIAL FORMzaKHAH INIT
IAL FORMzaLAM INITIAL FORMzaMEEM INITIAL FORMqLAM WITH JEEM INITIAL FORMzaHAH INITIAL FORMzaKHAH IN
ITIAL FORMzaMEEM INITIAL FORMzaHEH INITIAL FORMqMEEM WITH JEEM INITIAL FORMzbHAH INITIAL FORMzbKHA
H INITIAL FORMzbMEEM INITIAL FORMqNOON WITH JEEM INITIAL FORMzbHAH INITIAL FORMzbKHAH INITIAL FORMz
bMEEM INITIAL FORMzbHEH INITIAL FORMqHEH WITH JEEM INITIAL FORMzaMEEM INITIAL FORMzaSUPERSCRIPT ALE
F INITIAL FORMqYEH WITH JEEM INITIAL FORMzaHAH INITIAL FORMzaKHAH INITIAL FORMzaMEEM INITIAL FORMza
HEH INITIAL FORMzbAMZA ABOVE WITH MEEM MEDIAL FORMzrHEH MEDIAL FORMqBEH WITH MEEM MEDIAL FORMzaHE
H MEDIAL FORMqTEH WITH MEEM MEDIAL FORMzaHEH MEDIAL FORMrHEH WITH MEEM MEDIAL FORMzbHEH MEDIAL FORM
qSEEN WITH MEEM MEDIAL FORMzbHEH MEDIAL FORMrHEEN WITH MEEM MEDIAL FORMzcHEH MEDIAL FORMqKAF WITH L
AM MEDIAL FORMzaMEEM MEDIAL FORMqLAM WITH MEEM MEDIAL FORMqNOON WITH MEEM MEDIAL FORMzbHEH MEDIAL F
ORMqYEH WITH MEEM MEDIAL FORMzaHEH MEDIAL FORMqSHADDA WITH FATHA MEDIAL FORMzdDAMMA MEDIAL FORMzdKA
SRA MEDIAL FORMqTAH WITH ALEF MAKSURA ISOLATED FORMzaYEH ISOLATED FORMqAIN WITH ALEF MAKSURA ISOLAT
ED FORMzaYEH ISOLATED FORMqGHAIN WITH ALEF MAKSURA ISOLATED FORMzcYEH ISOLATED FORMqSEEN WITH ALE
F MAKSURA ISOLATED FORMzbYEH ISOLATED FORMrHEEN WITH ALEF MAKSURA ISOLATED FORMzcYEH ISOLATED FORMq
HAH WITH ALEF MAKSURA ISOLATED FORMzaYEH ISOLATED FORMqJEEM WITH ALEF MAKSURA ISOLATED FORMzbYEH IS
OLATED FORMqKHAH WITH ALEF MAKSURA ISOLATED FORMzbYEH ISOLATED FORMqSAD WITH ALEF MAKSURA ISOLATE
D FORMzaYEH ISOLATED FORMqDAD WITH ALEF MAKSURA ISOLATED FORMzaYEH ISOLATED FORMqSHEEN WITH JEEM IS
OLATED FORMzcHAH ISOLATED FORMzcKHAH ISOLATED FORMzcMEEM ISOLATED FORMzcREH ISOLATED FORMrEEN WIT
H REH ISOLATED FORMrAD WITH REH ISOLATED FORMqDAD WITH REH ISOLATED FORMqTAH WITH ALEF MAKSURA FINA
L FORMzaYEH FINAL FORMqAIN WITH ALEF MAKSURA FINAL FORMzaYEH FINAL FORMqGHAIN WITH ALEF MAKSURA FIN
AL FORMzcYEH FINAL FORMqSEEN WITH ALEF MAKSURA FINAL FORMzbYEH FINAL FORMrHEEN WITH ALEF MAKSURA FI
NAL FORMzcYEH FINAL FORMqHAH WITH ALEF MAKSURA FINAL FORMzaYEH FINAL FORMqJEEM WITH ALEF MAKSURA FI
NAL FORMzbYEH FINAL FORMqKHAH WITH ALEF MAKSURA FINAL FORMzbYEH FINAL FORMqSAD WITH ALEF MAKSURA FI
NAL FORMzaYEH FINAL FORMqDAD WITH ALEF MAKSURA FINAL FORMzaYEH FINAL FORMqSHEEN WITH JEEM FINAL FOR
MzcHAH FINAL FORMzcKHAH FINAL FORMzcMEEM FINAL FORMzcREH FINAL FORMrEEN WITH REH FINAL FORMrAD WIT
H REH FINAL FORMqDAD WITH REH FINAL FORMqSHEEN WITH JEEM INITIAL FORMzcHAH INITIAL FORMzcKHAH INITI
AL FORMzcMEEM INITIAL FORMrEEN WITH HEH INITIAL FORMrHEEN WITH HEH INITIAL FORMqTAH WITH MEEM INITI
AL FORMqSEEN WITH JEEM MEDIAL FORMzbHAH MEDIAL FORMzbKHAH MEDIAL FORMrHEEN WITH JEEM MEDIAL FORMzcH
AH MEDIAL FORMzcKHAH MEDIAL FORMqTAH WITH MEEM MEDIAL FORMqZAH WITH MEEM MEDIAL FORMqALEF WITH FATH
ATAN FINAL FORMzkISOLATED FORMaORNATE LEFT PARENTHESIShRIGHT PARENTHESISaARABIC LIGATURE RAHIMAHU A
LLAAHsDI ALLAAHU ANHzhAAzhUMzjAAziNNAqSALLALLAAHU ALAYHI WA-AALIHqALAYHI AS-SALAAMwM AS-SALAAMxAA A
S-SALAAMw AS-SALAATU WAS-SALAAMqQUDDISA SIRRAHqSALLALLAHU ALAYHI WAAALIHEE WA-SALLAMqALAYHAA AS-SAL
AAMqTABAARAKA WA-TAAALAAqRAHIMAHUM ALLAAHqTEH WITH JEEM WITH MEEM INITIAL FORMzaHAH WITH JEEM FINA
L FORMzoINITIAL FORMzjMEEM INITIAL FORMzaKHAH WITH MEEM INITIAL FORMzaMEEM WITH JEEM INITIAL FORMzk
HAH INITIAL FORMzkKHAH INITIAL FORMqJEEM WITH MEEM WITH HAH FINAL FORMzpINITIAL FORMqHAH WITH MEE
M WITH YEH FINAL FORMzkALEF MAKSURA FINAL FORMqSEEN WITH HAH WITH JEEM INITIAL FORMzbJEEM WITH HA
H INITIAL FORMzlALEF MAKSURA FINAL FORMzbMEEM WITH HAH FINAL FORMzpINITIAL FORMzlJEEM INITIAL FORMz
lMEEM FINAL FORMzqINITIAL FORMrAD WITH HAH WITH HAH FINAL FORMznINITIAL FORMzaMEEM WITH MEEM FINA
L FORMrHEEN WITH HAH WITH MEEM FINAL FORMzqINITIAL FORMzcJEEM WITH YEH FINAL FORMzcMEEM WITH KHAH F
INAL FORMzrINITIAL FORMzmMEEM FINAL FORMzrINITIAL FORMqDAD WITH HAH WITH ALEF MAKSURA FINAL FORMzaK
HAH WITH MEEM FINAL FORMzpINITIAL FORMqTAH WITH MEEM WITH HAH FINAL FORMzoINITIAL FORMzkMEEM INITIA
L FORMzkYEH FINAL FORMqAIN WITH JEEM WITH MEEM FINAL FORMzaMEEM WITH MEEM FINAL FORMzpINITIAL FORMz
kALEF MAKSURA FINAL FORMqGHAIN WITH MEEM WITH MEEM FINAL FORMzmYEH FINAL FORMzmALEF MAKSURA FINAL F
ORMqFEH WITH KHAH WITH MEEM FINAL FORMzpINITIAL FORMqQAF WITH MEEM WITH HAH FINAL FORMzkMEEM FINA
L FORMqLAM WITH HAH WITH MEEM FINAL FORMzjYEH FINAL FORMzjALEF MAKSURA FINAL FORMzaJEEM WITH JEEM I
NITIAL FORMzpFINAL FORMzaKHAH WITH MEEM FINAL FORMzpINITIAL FORMzaMEEM WITH HAH FINAL FORMzoINITIA
L FORMqMEEM WITH HAH WITH JEEM INITIAL FORMzkMEEM INITIAL FORMzkYEH FINAL FORMzbJEEM WITH HAH INITI
AL FORMzlMEEM INITIAL FORMzbKHAH WITH JEEM INITIAL FORMzlMEEM INITIAL FORM.FD92aARABIC LIGATURE MEE
M WITH JEEM WITH KHAH INITIAL FORMqHEH WITH MEEM WITH JEEM INITIAL FORMzkMEEM INITIAL FORMqNOON WIT
H HAH WITH MEEM INITIAL FORMzkALEF MAKSURA FINAL FORMzbJEEM WITH MEEM FINAL FORMzqINITIAL FORMzlALE
F MAKSURA FINAL FORMzbMEEM WITH YEH FINAL FORMzlALEF MAKSURA FINAL FORMqYEH WITH MEEM WITH MEEM FIN
AL FORMzpINITIAL FORMqBEH WITH KHAH WITH YEH FINAL FORMqTEH WITH JEEM WITH YEH FINAL FORMzkALEF MAK
SURA FINAL FORMzaKHAH WITH YEH FINAL FORMzkALEF MAKSURA FINAL FORMzaMEEM WITH YEH FINAL FORMzkALE
F MAKSURA FINAL FORMqJEEM WITH MEEM WITH YEH FINAL FORMzbHAH WITH ALEF MAKSURA FINAL FORMzbMEEM WIT
H ALEF MAKSURA FINAL FORMqSEEN WITH KHAH WITH ALEF MAKSURA FINAL FORMrAD WITH HAH WITH YEH FINAL FO
RMrHEEN WITH HAH WITH YEH FINAL FORMqDAD WITH HAH WITH YEH FINAL FORMqLAM WITH JEEM WITH YEH FINA
L FORMzaMEEM WITH YEH FINAL FORMqYEH WITH HAH WITH YEH FINAL FORMzaJEEM WITH YEH FINAL FORMzaMEEM W
ITH YEH FINAL FORMqMEEM WITH MEEM WITH YEH FINAL FORMqQAF WITH MEEM WITH YEH FINAL FORMqNOON WITH H
AH WITH YEH FINAL FORMqQAF WITH MEEM WITH HAH INITIAL FORMqLAM WITH HAH WITH MEEM INITIAL FORMqAI
N WITH MEEM WITH YEH FINAL FORMqKAF WITH MEEM WITH YEH FINAL FORMqNOON WITH JEEM WITH HAH INITIAL F
ORMqMEEM WITH KHAH WITH YEH FINAL FORMqLAM WITH JEEM WITH MEEM INITIAL FORMqKAF WITH MEEM WITH MEE
M FINAL FORMqLAM WITH JEEM WITH MEEM FINAL FORMqNOON WITH JEEM WITH HAH FINAL FORMqJEEM WITH HAH WI
TH YEH FINAL FORMqHAH WITH JEEM WITH YEH FINAL FORMqMEEM WITH JEEM WITH YEH FINAL FORMqFEH WITH MEE
M WITH YEH FINAL FORMqBEH WITH HAH WITH YEH FINAL FORMqKAF WITH MEEM WITH MEEM INITIAL FORMqAIN WIT
H JEEM WITH MEEM INITIAL FORMqSAD WITH MEEM WITH MEEM INITIAL FORMrEEN WITH KHAH WITH YEH FINAL FOR
MqNOON WITH JEEM WITH YEH FINAL FORM.FDCFaARABIC LIGATURE SALAAMUHU ALAYNAA.FDF0aARABIC LIGATURE SA
LLA USED AS KORANIC STOP SIGN ISOLATED FORMqQALA USED AS KORANIC STOP SIGN ISOLATED FORMqALLAH ISOL
ATED FORMrKBAR ISOLATED FORMqMOHAMMAD ISOLATED FORMqSALAM ISOLATED FORMqRASOUL ISOLATED FORMqALAYH
E ISOLATED FORMqWASALLAM ISOLATED FORMqSALLA ISOLATED FORMvLLAHOU ALAYHE WASALLAMqJALLAJALALOUHOUaR
IAL SIGNaARABIC LIGATURE BISMILLAH AR-RAHMAN AR-RAHEEMqSUBHAANAHU WA TAAALAAqAZZA WA JALLaVARIATIO
N SELECTOR-1t2t3t4t5t6t7t8t9t10u1u2u3u4u5u6aPRESENTATION FORM FOR VERTICAL COMMAzgIDEOGRAPHIC COMMA
zsFULL STOPzgCOLONzgSEMICOLONzgEXCLAMATION MARKzgQUESTION MARKzgLEFT WHITE LENTICULAR BRACKETzgRIGH
T WHITE LENTICULAR BRAKCETzgHORIZONTAL ELLIPSIS.FE20aCOMBINING LIGATURE LEFT HALFtRIGHT HALFkDOUBL
E TILDE LEFT HALFxRIGHT HALFkMACRON LEFT HALFrRIGHT HALFkCONJOINING MACRONkLIGATURE LEFT HALF BELOW
tRIGHT HALF BELOWkTILDE LEFT HALF BELOWqRIGHT HALF BELOWkMACRON LEFT HALF BELOWrRIGHT HALF BELOWkCO
NJOINING MACRON BELOWlYRILLIC TITLO LEFT HALFzaRIGHT HALFaPRESENTATION FORM FOR VERTICAL TWO DOT LE
ADERzgEM DASHzhN DASHzgLOW LINEzgWAVY LOW LINEzgLEFT PARENTHESISzgRIGHT PARENTHESISzgLEFT CURLY BRA
CKETzgRIGHT CURLY BRACKETzgLEFT TORTOISE SHELL BRACKETzgRIGHT TORTOISE SHELL BRACKETzgLEFT BLACK LE
NTICULAR BRACKETzgRIGHT BLACK LENTICULAR BRACKETzgLEFT DOUBLE ANGLE BRACKETzgRIGHT DOUBLE ANGLE BRA
CKETzgLEFT ANGLE BRACKETzgRIGHT ANGLE BRACKETzgLEFT CORNER BRACKETzgRIGHT CORNER BRACKETzgLEFT WHIT
E CORNER BRACKETzgRIGHT WHITE CORNER BRACKETaSESAME DOTaWHITE SESAME DOTaPRESENTATION FORM FOR VERT
ICAL LEFT SQUARE BRACKETzgRIGHT SQUARE BRACKETaDASHED OVERLINEaCENTRELINE OVERLINEaWAVY OVERLINEaDO
UBLE WAVY OVERLINEbASHED LOW LINEaCENTRELINE LOW LINEaWAVY LOW LINEaSMALL COMMAgIDEOGRAPHIC COMMAgF
ULL STOP.FE54aSMALL SEMICOLONgCOLONgQUESTION MARKgEXCLAMATION MARKhM DASHgLEFT PARENTHESISgRIGHT PA
RENTHESISgLEFT CURLY BRACKETgRIGHT CURLY BRACKETgLEFT TORTOISE SHELL BRACKETgRIGHT TORTOISE SHELL B
RACKETgNUMBER SIGNgAMPERSANDhSTERISKgPLUS SIGNgHYPHEN-MINUSgLESS-THAN SIGNgGREATER-THAN SIGNgEQUAL
S SIGN.FE68aSMALL REVERSE SOLIDUSgDOLLAR SIGNgPERCENT SIGNgCOMMERCIAL AT.FE70aARABIC FATHATAN ISOLA
TED FORMhTATWEEL WITH FATHATAN ABOVEhDAMMATAN ISOLATED FORMhTAIL FRAGMENThKASRATAN ISOLATED FORM.FE
76aARABIC FATHA ISOLATED FORMnMEDIAL FORMhDAMMA ISOLATED FORMnMEDIAL FORMhKASRA ISOLATED FORMnMEDIA
L FORMhSHADDA ISOLATED FORMoMEDIAL FORMiUKUN ISOLATED FORMnMEDIAL FORMhLETTER HAMZA ISOLATED FORMoA
LEF WITH MADDA ABOVE ISOLATED FORMzlFINAL FORMyHAMZA ABOVE ISOLATED FORMzlFINAL FORMoWAW WITH HAMZ
A ABOVE ISOLATED FORMzkFINAL FORMoALEF WITH HAMZA BELOW ISOLATED FORMzlFINAL FORMoYEH WITH HAMZA AB
OVE ISOLATED FORMzkFINAL FORMzkINITIAL FORMzkMEDIAL FORMoALEF ISOLATED FORMtFINAL FORMoBEH ISOLATE
D FORMsFINAL FORMsINITIAL FORMsMEDIAL FORMoTEH MARBUTA ISOLATED FORMzbFINAL FORMsISOLATED FORMsFINA
L FORMsINITIAL FORMsMEDIAL FORMpHEH ISOLATED FORMtFINAL FORMtINITIAL FORMtMEDIAL FORMoJEEM ISOLATE
D FORMtFINAL FORMtINITIAL FORMtMEDIAL FORMoHAH ISOLATED FORMsFINAL FORMsINITIAL FORMsMEDIAL FORMoKH
AH ISOLATED FORMtFINAL FORMtINITIAL FORMtMEDIAL FORMoDAL ISOLATED FORMsFINAL FORMoTHAL ISOLATED FOR
MtFINAL FORMoREH ISOLATED FORMsFINAL FORMoZAIN ISOLATED FORMtFINAL FORMoSEEN ISOLATED FORMtFINAL FO
RMtINITIAL FORMtMEDIAL FORMpHEEN ISOLATED FORMuFINAL FORMuINITIAL FORMuMEDIAL FORMpAD ISOLATED FORM
sFINAL FORMsINITIAL FORMsMEDIAL FORMoDAD ISOLATED FORMsFINAL FORMsINITIAL FORMsMEDIAL FORMoTAH ISOL
ATED FORMsFINAL FORMsINITIAL FORMsMEDIAL FORMoZAH ISOLATED FORMsFINAL FORMsINITIAL FORMsMEDIAL FORM
oAIN ISOLATED FORMsFINAL FORMsINITIAL FORMsMEDIAL FORMoGHAIN ISOLATED FORMuFINAL FORMuINITIAL FORMu
MEDIAL FORMoFEH ISOLATED FORMsFINAL FORMsINITIAL FORMsMEDIAL FORMoQAF ISOLATED FORMsFINAL FORMsINIT
IAL FORMsMEDIAL FORMoKAF ISOLATED FORMsFINAL FORMsINITIAL FORMsMEDIAL FORMoLAM ISOLATED FORMsFINA
L FORMsINITIAL FORMsMEDIAL FORMoMEEM ISOLATED FORMtFINAL FORMtINITIAL FORMtMEDIAL FORMoNOON ISOLATE
D FORMtFINAL FORMtINITIAL FORMtMEDIAL FORMoHEH ISOLATED FORMsFINAL FORMsINITIAL FORMsMEDIAL FORMoWA
W ISOLATED FORMsFINAL FORMoALEF MAKSURA ISOLATED FORMzcFINAL FORMoYEH ISOLATED FORMsFINAL FORMsINIT
IAL FORMsMEDIAL FORMiIGATURE LAM WITH ALEF WITH MADDA ABOVE ISOLATED FORMzwFINAL FORMzkHAMZA ABOV
E ISOLATED FORMzwFINAL FORMzqBELOW ISOLATED FORMzwFINAL FORMzfISOLATED FORMzfFINAL FORM.FEFFaZERO W
IDTH NO-BREAK SPACE.FF01aFULLWIDTH EXCLAMATION MARKkQUOTATION MARKkNUMBER SIGNkDOLLAR SIGNkPERCEN
T SIGNkAMPERSANDlPOSTROPHEkLEFT PARENTHESISkRIGHT PARENTHESISkASTERISKkPLUS SIGNkCOMMAkHYPHEN-MINUS
kFULL STOPkSOLIDUSkDIGIT ZEROqONEqTWOrHREEqFOURrIVEqSIXrEVENqEIGHTqNINEkCOLONkSEMICOLONkLESS-THAN S
IGNkEQUALS SIGNkGREATER-THAN SIGNkQUESTION MARKkCOMMERCIAL ATkLATIN CAPITAL LETTER AzgBzgCzgDzgEzgF
zgGzgHzgIzgJzgKzgLzgMzgNzgOzgPzgQzgRzgSzgTzgUzgVzgWzgXzgYzgZlEFT SQUARE BRACKETkREVERSE SOLIDUSlIGH
T SQUARE BRACKETkCIRCUMFLEX ACCENTkLOW LINEkGRAVE ACCENTkLATIN SMALL LETTER AzeBzeCzeDzeEzeFzeGzeHz
eIzeJzeKzeLzeMzeNzeOzePzeQzeRzeSzeTzeUzeVzeWzeXzeYzeZlEFT CURLY BRACKETkVERTICAL LINEkRIGHT CURLY B
RACKETkTILDEkLEFT WHITE PARENTHESISkRIGHT WHITE PARENTHESISaHALFWIDTH IDEOGRAPHIC FULL STOPkLEFT CO
RNER BRACKETkRIGHT CORNER BRACKETkIDEOGRAPHIC COMMAkKATAKANA MIDDLE DOTtLETTER WOzbSMALL AzhIzhUzhE
zhOzhYAziUziOzhTUs-HIRAGANA PROLONGED SOUND MARKs LETTER AzbIzbUzbEzbOzbKAzcIzcUzcEzcOzbSAzcIzcUzcE
zcOzbTAzcIzcUzcEzcOzbNAzcIzcUzcEzcOzbHAzcIzcUzcEzcOzbMAzcIzcUzcEzcOzbYAzcUzcOzbRAzcIzcUzcEzcOzbWAzb
NtVOICED SOUND MARKtSEMI-VOICED SOUND MARKkHANGUL FILLERrLETTER KIYEOKySSANGKIYEOKyKIYEOK-SIOSyNIEU
Nze-CIEUCzfHIEUHyTIKEUTySSANGTIKEUTyRIEULze-KIYEOKzfMIEUMzfPIEUPzfSIOSzfTHIEUTHzfPHIEUPHzfHIEUHyMIE
UMyPIEUPySSANGPIEUPyPIEUP-SIOSySIOSzaSANGSIOSyIEUNGyCIEUCySSANGCIEUCyCHIEUCHyKHIEUKHyTHIEUTHyPHIEUP
HyHIEUH.FFC2aHALFWIDTH HANGUL LETTER AzaEyYAzbEyEOyE.FFCAaHALFWIDTH HANGUL LETTER YEOzaEyOyWAzbEyOE
.FFD2aHALFWIDTH HANGUL LETTER YOyUyWEOzaEzaIyYU.FFDAaHALFWIDTH HANGUL LETTER EUyYIyI.FFE0aFULLWIDT
H CENT SIGNkPOUND SIGNkNOT SIGNkMACRONkBROKEN BARkYEN SIGNkWON SIGN.FFE8aHALFWIDTH FORMS LIGHT VERT
ICALkLEFTWARDS ARROWkUPWARDS ARROWkRIGHTWARDS ARROWkDOWNWARDS ARROWkBLACK SQUAREkWHITE CIRCLE.FFF9a
INTERLINEAR ANNOTATION ANCHORxSEPARATORxTERMINATORaOBJECT REPLACEMENT CHARACTERaREPLACEMENT CHARACT
ER"

end MarkupLint.Text
