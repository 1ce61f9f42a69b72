/-!
# The table of names

The Unicode names of characters, other than Hangul syllables and unified CJK
ideographs, and after them the aliases of characters.  Characters that follow
each other form a run.

The first name of a run is written out.  Each later one starts with a sign from
`À` on, which says how many signs of the name before it stay.  A small letter
stands for a phrase that many names share.
-/

namespace LedgerRules

/-- The phrases that small letters stand for, from `a` on. -/
def namePhrases : Array String :=
  #[" LETTER ", " WITH ", "CAPITAL", "SMALL", " FORM", " ARROW", " AND ",
    " SIGN", " ABOVE", " ISOLATED", "RIGHT", "DOUBLE", " BELOW", "FINAL",
    "LEFT ", "VERTICAL", " SYMBOL", "INITIAL", "LEFTWARDS", " TRIANGLE-HEADED",
    " MARK", "STROKE", "HORIZONTAL", "BLACK", "MIDDLE ", " HUNDRED"]

/-- Letters of living scripts, up to U+1FFF. -/
def alphabetRuns : List (Nat × List String) :=
  [(0x20, ["SPACEÀEXCLAMATIONuÀQUOTATIONuÀNUMBERhÀDOLLARhÀPERCENTh",
      "ÀAMPERSANDÁPOSTROPHEÀoPARENTHESISÀk PARENTHESISÀASTERISKÀPLUShÀCOMMA",
      "ÀHYPHEN-MINUSÀFULL STOPÀSOLIDUSÀDIGIT ZEROÆONEÆTWOÇHREEÆFOURÇIVEÆSIX",
      "ÇEVENÆEIGHTÆNINEÀCOLONÀSEMICOLONÀLESS-THANhÀEQUALShÀGREATER-THANh",
      "ÀQUESTIONuÀCOMMERCIAL ATÀLATIN caAÕBÕCÕDÕEÕFÕGÕHÕIÕJÕKÕLÕMÕNÕOÕPÕQÕR",
      "ÕSÕTÕUÕVÕWÕXÕYÕZÁEFT SQUARE BRACKETÀREVERSE SOLIDUSÁIGHT SQUARE BRACK",
      "ETÀCIRCUMFLEX ACCENTÀLOW LINEÀGRAVE ACCENTÀLATIN daAÓBÓCÓDÓEÓFÓGÓHÓI",
      "ÓJÓKÓLÓMÓNÓOÓPÓQÓRÓSÓTÓUÓVÓWÓXÓYÓZÁEFT CURLY BRACKETÀp LINE",
      "Àk CURLY BRACKETÀTILDE"]),
    (0xA0, ["NO-BREAK SPACEÀINVERTED EXCLAMATIONuÀCENThÀPOUNDhÀCURRENCYh",
      "ÀYENhÀBROKEN BARÀSECTIONhÀDIAERESISÀCOPYkhÀFEMININE ORDINAL INDICATOR",
      "ÀLEFT-POINTING l ANGLE QUOTATIONuÀNOThÀSOFT HYPHENÀREGISTEREDhÀMACRON",
      "ÀDEGREEhÀPLUS-MINUShÀSUPERSCRIPT TWOÍHREEÀACUTE ACCENTÀMICROh",
      "ÀPILCROWhÀyDOTÀCEDILLAÀSUPERSCRIPT ONEÀMASCULINE ORDINAL INDICATOR",
      "Àk-POINTING l ANGLE QUOTATIONuÀVULGAR FRACTION ONE QUARTERÔHALF",
      "ÐTHREE QUARTERSÀINVERTED QUESTIONuÀLATIN caAbGRAVEÜACUTEÜCIRCUMFLEX",
      "ÜTILDEÜDIAERESISÜRINGiÖEÕCbCEDILLAÕEbGRAVEÜACUTEÜCIRCUMFLEXÜDIAERESIS",
      "ÕIbGRAVEÜACUTEÜCIRCUMFLEXÜDIAERESISÕETHÕNbTILDEÕObGRAVEÜACUTE",
      "ÜCIRCUMFLEXÜTILDEÜDIAERESISÀMULTIPLICATIONhÀLATIN caObvÕUbGRAVEÜACUTE",
      "ÜCIRCUMFLEXÜDIAERESISÕYbACUTEÕTHORNÆdaSHARP SÓAbGRAVEÚACUTE",
      "ÚCIRCUMFLEXÚTILDEÚDIAERESISÚRINGiÔEÓCbCEDILLAÓEbGRAVEÚACUTE",
      "ÚCIRCUMFLEXÚDIAERESISÓIbGRAVEÚACUTEÚCIRCUMFLEXÚDIAERESISÓETHÓNbTILDE",
      "ÓObGRAVEÚACUTEÚCIRCUMFLEXÚTILDEÚDIAERESISÀDIVISIONhÀLATIN daObv",
      "ÓUbGRAVEÚACUTEÚCIRCUMFLEXÚDIAERESISÓYbACUTEÓTHORNÓYbDIAERESIS",
      "ÆcaAbMACRONÆdaAbMACRONÆcaAbBREVEÆdaAbBREVEÆcaAbOGONEKÆdaAbOGONEK",
      "ÆcaCbACUTEÆdaCbACUTEÆcaCbCIRCUMFLEXÆdaCbCIRCUMFLEXÆcaCbDOTiÆdaCbDOTi",
      "ÆcaCbCARONÆdaCbCARONÆcaDbCARONÆdaDbCARONÆcaDbvÆdaDbvÆcaEbMACRON",
      "ÆdaEbMACRONÆcaEbBREVEÆdaEbBREVEÆcaEbDOTiÆdaEbDOTiÆcaEbOGONEK",
      "ÆdaEbOGONEKÆcaEbCARONÆdaEbCARONÆcaGbCIRCUMFLEXÆdaGbCIRCUMFLEX",
      "ÆcaGbBREVEÆdaGbBREVEÆcaGbDOTiÆdaGbDOTiÆcaGbCEDILLAÆdaGbCEDILLA",
      "ÆcaHbCIRCUMFLEXÆdaHbCIRCUMFLEXÆcaHbvÆdaHbvÆcaIbTILDEÆdaIbTILDE",
      "ÆcaIbMACRONÆdaIbMACRONÆcaIbBREVEÆdaIbBREVEÆcaIbOGONEKÆdaIbOGONEK",
      "ÆcaIbDOTiÆdaDOTLESS IÆc LIGATURE IJÆd LIGATURE IJÆcaJbCIRCUMFLEX",
      "ÆdaJbCIRCUMFLEXÆcaKbCEDILLAÆdaKbCEDILLAÔRAÆcaLbACUTEÆdaLbACUTE",
      "ÆcaLbCEDILLAÆdaLbCEDILLAÆcaLbCARONÆdaLbCARONÆcaLbyDOTÆdaLbyDOTÆcaLbv",
      "ÆdaLbvÆcaNbACUTEÆdaNbACUTEÆcaNbCEDILLAÆdaNbCEDILLAÆcaNbCARON",
      "ÆdaNbCARONÕPRECEDED BY APOSTROPHEÆcaENGÆdaENGÆcaObMACRONÆdaObMACRON",
      "ÆcaObBREVEÆdaObBREVEÆcaObl ACUTEÆdaObl ACUTEÆc LIGATURE OE",
      "Æd LIGATURE OEÆcaRbACUTEÆdaRbACUTEÆcaRbCEDILLAÆdaRbCEDILLAÆcaRbCARON",
      "ÆdaRbCARONÆcaSbACUTEÆdaSbACUTEÆcaSbCIRCUMFLEXÆdaSbCIRCUMFLEX",
      "ÆcaSbCEDILLAÆdaSbCEDILLAÆcaSbCARONÆdaSbCARONÆcaTbCEDILLAÆdaTbCEDILLA",
      "ÆcaTbCARONÆdaTbCARONÆcaTbvÆdaTbvÆcaUbTILDEÆdaUbTILDEÆcaUbMACRON",
      "ÆdaUbMACRONÆcaUbBREVEÆdaUbBREVEÆcaUbRINGiÆdaUbRINGiÆcaUbl ACUTE",
      "ÆdaUbl ACUTEÆcaUbOGONEKÆdaUbOGONEKÆcaWbCIRCUMFLEXÆdaWbCIRCUMFLEX",
      "ÆcaYbCIRCUMFLEXÆdaYbCIRCUMFLEXÆcaYbDIAERESISÕZbACUTEÆdaZbACUTE",
      "ÆcaZbDOTiÆdaZbDOTiÆcaZbCARONÆdaZbCARONÓLONG SÓBbvÆcaBbHOOKÜTOPBAR",
      "ÆdaBbTOPBARÆcaTONE SIXÆdaTONE SIXÆcaOPEN OÕCbHOOKÆdaCbHOOK",
      "ÆcaAFRICAN DÕDbHOOKÜTOPBARÆdaDbTOPBARÓTURNED DELTAÆcaREVERSED EÕSCHWA",
      "ÕOPEN EÕFbHOOKÆdaFbHOOKÆcaGbHOOKÖAMMAÆdaHVÆcaIOTAÖbvÕKbHOOKÆdaKbHOOK",
      "ÓLbBARÔAMBDAbvÆcaTURNED MÕNboHOOKÆdaNbLONG k LEGÆcaObyTILDEÜHORN",
      "ÆdaObHORNÆcaOIÆdaOIÆcaPbHOOKÆdaPbHOOKÆLETTER YRÆcaTONE TWOÆdaTONE TWO",
      "ÆcaESHÆLETTER REVERSED ESH LOOPÆdaTbPALATAL HOOKÆcaTbHOOKÆdaTbHOOK",
      "ÆcaTbRETROFLEX HOOKÕUbHORNÆdaUbHORNÆcaUPSILONÕVbHOOKÕYbHOOKÆdaYbHOOK",
      "ÆcaZbvÆdaZbvÆcaEZHØ REVERSEDÆdaEZH REVERSED×WITH TAILÆLETTER TWObv",
      "ÆcaTONE FIVEÆdaTONE FIVEÆLETTER INVERTED GLOTTAL STOPbvÍWYNN",
      "ÍDENTAL CLICKÍLATERAL CLICKÍALVEOLAR CLICKÍRETROFLEX CLICKÆcaDZbCARON",
      "ÖbdaZbCARONÆdaDZbCARONÆcaLJÖbdaJÆdaLJÆcaNJÖbdaJÆdaNJÆcaAbCARON",
      "ÆdaAbCARONÆcaIbCARONÆdaIbCARONÆcaObCARONÆdaObCARONÆcaUbCARON",
      "ÆdaUbCARONÆcaUbDIAERESISgMACRONÆdaUbDIAERESISgMACRONÆcaUbDIAERESISgAC",
      "UTEÆdaUbDIAERESISgACUTEÆcaUbDIAERESISgCARONÆdaUbDIAERESISgCARON",
      "ÆcaUbDIAERESISgGRAVEÆdaUbDIAERESISgGRAVEÓTURNED EÆcaAbDIAERESISgMACRO",
      "NÆdaAbDIAERESISgMACRONÆcaAbDOTigMACRONÆdaAbDOTigMACRONÆcaAEbMACRON",
      "ÆdaAEbMACRONÆcaGbvÆdaGbvÆcaGbCARONÆdaGbCARONÆcaKbCARONÆdaKbCARON",
      "ÆcaObOGONEKÆdaObOGONEKÆcaObOGONEKgMACRONÆdaObOGONEKgMACRON",
      "ÆcaEZHbCARONÆdaEZHbCARONÓJbCARONÆcaDZÖbdaZÆdaDZÆcaGbACUTEÆdaGbACUTE",
      "ÆcaHWAIRÕWYNNÕNbGRAVEÆdaNbGRAVEÆcaAbRINGigACUTEÆdaAbRINGigACUTE",
      "ÆcaAEbACUTEÆdaAEbACUTEÆcaObvgACUTEÆdaObvgACUTEÆcaAbl GRAVE",
      "ÆdaAbl GRAVEÆcaAbINVERTED BREVEÆdaAbINVERTED BREVEÆcaEbl GRAVE",
      "ÆdaEbl GRAVEÆcaEbINVERTED BREVEÆdaEbINVERTED BREVEÆcaIbl GRAVE",
      "ÆdaIbl GRAVEÆcaIbINVERTED BREVEÆdaIbINVERTED BREVEÆcaObl GRAVE",
      "ÆdaObl GRAVEÆcaObINVERTED BREVEÆdaObINVERTED BREVEÆcaRbl GRAVE",
      "ÆdaRbl GRAVEÆcaRbINVERTED BREVEÆdaRbINVERTED BREVEÆcaUbl GRAVE",
      "ÆdaUbl GRAVEÆcaUbINVERTED BREVEÆdaUbINVERTED BREVEÆcaSbCOMMAm",
      "ÆdaSbCOMMAmÆcaTbCOMMAmÆdaTbCOMMAmÆcaYOGHÆdaYOGHÆcaHbCARONÆdaHbCARON",
      "ÆcaNbLONG k LEGÆdaDbCURLÆcaOUÆdaOUÆcaZbHOOKÆdaZbHOOKÆcaAbDOTi",
      "ÆdaAbDOTiÆcaEbCEDILLAÆdaEbCEDILLAÆcaObDIAERESISgMACRONÆdaObDIAERESISg",
      "MACRONÆcaObTILDEgMACRONÆdaObTILDEgMACRONÆcaObDOTiÆdaObDOTi",
      "ÆcaObDOTigMACRONÆdaObDOTigMACRONÆcaYbMACRONÆdaYbMACRONÓLbCURLÓNbCURL",
      "ÓTbCURLÓDOTLESS JÔB DIGRAPHÓQP DIGRAPHÆcaAbvÕCbvÆdaCbvÆcaLbBAR",
      "ÕTbDIAGONAL vÆdaSbSWASH TAILÓZbSWASH TAILÆcaGLOTTAL STOPÆdaGLOTTAL ST",
      "OPÆcaBbvÕU BARÕTURNED VÕEbvÆdaEbvÆcaJbvÆdaJbvÆcad QbHOOK TAIL",
      "ÆdaQbHOOK TAILÆcaRbvÆdaRbvÆcaYbvÆdaYbvÓTURNED AÓALPHAÓTURNED ALPHA",
      "ÓBbHOOKÓOPEN OÓCbCURLÓDbTAILÚHOOKÓREVERSED EÓSCHWAØbHOOKÓOPEN E",
      "ÓREVERSED OPEN EâbHOOKÓCLOSED REVERSED OPEN EÓDOTLESS JbvÓGbHOOK",
      "ÓSCRIPT GÆLETTER d c GÆdaGAMMAÓRAMS HORNÓTURNED HÓHbHOOKÔENGbHOOKÓIbv",
      "ÔOTAÆLETTER d c IÆdaLbyTILDEÚBELTÚRETROFLEX HOOKÔEZHÓTURNED M",
      "ÛbLONG LEGÓMbHOOKÓNboHOOKÚRETROFLEX HOOKÆLETTER d c NÆdaBARRED O",
      "ÆLETTER d c OEÆdaCLOSED OMEGAÓPHIÓTURNED RÛbLONG LEGáHOOKÓRbLONG LEG",
      "ÚTAILÚFISHHOOKÔEVERSED RbFISHHOOKÆLETTER d c RÛINVERTED RÆdaSbHOOK",
      "ÓESHÓDOTLESS JbvgHOOKÓSQUAT REVERSED ESHÓESHbCURLÓTURNED T",
      "ÔbRETROFLEX HOOKÓU BARÔPSILONÓVbHOOKÓTURNED VÚWÚYÆLETTER d c Y",
      "ÆdaZbRETROFLEX HOOKÚCURLÓEZHÖbCURLÆLETTER GLOTTAL STOPÍPHARYNGEAL VOI",
      "CED FRICATIVEÍINVERTED GLOTTAL STOPÍSTRETCHED CÍBILABIAL CLICKÍd c B",
      "ÆdaCLOSED OPEN EÆLETTER d c GbHOOKÛHÆdaJbCROSSED-TAILÓTURNED K",
      "ÆLETTER d c LÆdaQbHOOKÆLETTER GLOTTAL STOPbvÍREVERSED GLOTTAL STOPbv",
      "ÆdaDZ DIGRAPHÔEZH DIGRAPHÔZ DIGRAPHbCURLÓTS DIGRAPHÔESH DIGRAPH",
      "ÔC DIGRAPHbCURLÓFENG DIGRAPHÓLS DIGRAPHÔZ DIGRAPHÆLETTER BILABIAL PER",
      "CUSSIVEÏDENTAL PERCUSSIVEÆdaTURNED HbFISHHOOKégTAILÀMODIFIERad H",
      "×bHOOKÖJÖRÖTURNED RÞbHOOKÖc INVERTED RÖWÖYÐPRIMEÐl PRIMEÐTURNED COMMA",
      "ÐAPOSTROPHEÐREVERSED COMMAÑIGHT HALF RINGÐoHALF RINGÐGLOTTAL STOP",
      "ÐREVERSED GLOTTAL STOPÐLEFTfHEADÐkfHEADÐUPfHEADÐDOWNfHEADÐCIRCUMFLEX ",
      "ACCENTÀCARONÀMODIFIERap LINEÐMACRONÐACUTE ACCENTÐGRAVE ACCENT",
      "ÐLOW p LINEÔMACRONÔGRAVE ACCENTÔACUTE ACCENTÐTRIANGULAR COLON",
      "ÐHALF TRIANGULAR COLONÐCENTRED k HALF RINGØoHALF RINGÐUP TACK",
      "ÐDOWN TACKÐPLUShÐMINUShÀBREVEÀDOTiÀRINGiÀOGONEKÀd TILDEÀl ACUTE ACCEN",
      "TÀMODIFIERaRHOTIC HOOKÐCROSS ACCENTÐd GAMMAÖLÖSÖXÖREVERSED GLOTTAL ST",
      "OPÐEXTRA-HIGH TONE BARÐHIGH TONE BARÐMID TONE BARÐLOW TONE BAR",
      "ÐEXTRA-LOW TONE BARÐYIN DEPARTING TONEuÑANG DEPARTING TONEuÐVOICING",
      "ÐUNASPIRATEDÐl APOSTROPHEÐLOW DOWNfHEADÔUPfHEADÔLEFTfHEADÔkfHEADÖNG",
      "ÐyGRAVE ACCENT×l GRAVE ACCENTÞACUTE ACCENTÐLOW TILDEÐRAISED COLON",
      "ÐBEGIN HIGH TONEÐEND HIGH TONEÐBEGIN LOW TONEÐEND LOW TONEÐSHELF",
      "ÐOPEN SHELFÐLOW LEFTfÀCOMBINING GRAVE ACCENTÊACUTE ACCENTÊCIRCUMFLEX ",
      "ACCENTÊTILDEÊMACRONÊOVERLINEÊBREVEÊDOTiËIAERESISÊHOOKiÊRINGi",
      "Êl ACUTE ACCENTÊCARONÊp LINEiÊl p LINEiÑGRAVE ACCENTÊCANDRABINDU",
      "ÊINVERTED BREVEÊTURNED COMMAiÊCOMMAiÊREVERSED COMMAiÊCOMMAi k",
      "ÊGRAVE ACCENTmÊACUTE ACCENTmÊoTACKmÊk TACKmÊoANGLEiÊHORNÊoHALF RINGm",
      "ÊUP TACKmÊDOWN TACKmÊPLUShmÊMINUShmÊPALATALIZED HOOKmÊRETROFLEX HOOKm",
      "ÊDOTmËIAERESISmÊRINGmÊCOMMAmËEDILLAÊOGONEKÊp LINEmÊBRIDGEm",
      "ÊINVERTED l ARCHmÊCARONmËIRCUMFLEX ACCENTmÊBREVEmÊINVERTED BREVEm",
      "ÊTILDEmÊMACRONmÊLOW LINEÊl LOW LINEÊTILDE OVERLAYÊSHORT v OVERLAY",
      "ÊLONG v OVERLAYÊSHORT SOLIDUS OVERLAYÊLONG SOLIDUS OVERLAY",
      "Êk HALF RINGmÊINVERTED BRIDGEmÊSQUAREmËEAGULLmÊXiÊp TILDEÊl OVERLINE",
      "ÊGRAVE TONEuÊACUTE TONEuÊGREEK PERISPOMENIÐKORONISÐDIALYTIKA TONOS",
      "ÐYPOGEGRAMMENIÊBRIDGEiÊEQUALShmÊl p LINEmÊoANGLEmÊNOT TILDEi",
      "ÊHOMOTHETICiÊALMOST EQUAL TOiÊokfmÊUPWARDSfmÊGRAPHEME JOINERÊkfHEADi",
      "ÊoHALF RINGiÊFERMATAÊXmÊLEFTfHEADmÊkfHEADmÚAND UPfHEADmÐHALF RINGi",
      "ÊDOTi kÊASTERISKmÊl RINGmÊZIGZAGiÊl BREVEmÖÑMACRON×mÑTILDE",
      "ÑINVERTED BREVEÑkWARDSfmÊLATIN daAÝEÝIÝOÝUÝCÝDÝHÝMÝRÝTÝVÝX",
      "ÀGREEK caHETAÆdaHETAÆcaARCHAIC SAMPIÆdaARCHAIC SAMPIÆNUMERALh",
      "ÆLOWER NUMERALhÆcaPAMPHYLIAN DIGAMMAÆdaPAMPHYLIAN DIGAMMA"]),
    (0x37A, ["GREEK YPOGEGRAMMENIÆd REVERSED LUNATE SIGMAqÌDOTTED LUNATE SIG",
      "MAqÌREVERSED DOTTED LUNATE SIGMAqÆQUESTIONuÆcaYOT"]),
    (0x384, ["GREEK TONOSÆDIALYTIKA TONOSÆcaALPHAbTONOSÆANO TELEIA",
      "ÆcaEPSILONbTONOSÖTAbTONOSÕIOTAbTONOS"]),
    (0x38C, ["GREEK caOMICRONbTONOS"]),
    (0x38E, ["GREEK caUPSILONbTONOSÕOMEGAbTONOSÆdaIOTAbDIALYTIKAgTONOS",
      "ÆcaALPHAÕBETAÕGAMMAÕDELTAÕEPSILONÕZETAÕETAÕTHETAÕIOTAÕKAPPAÕLAMDAÕMU",
      "ÕNUÕXIÕOMICRONÕPIÕRHO"]),
    (0x3A3, ["GREEK caSIGMAÕTAUÕUPSILONÕPHIÕCHIÕPSIÕOMEGAÕIOTAbDIALYTIKA",
      "ÕUPSILONbDIALYTIKAÆdaALPHAbTONOSÓEPSILONbTONOSÔTAbTONOSÓIOTAbTONOS",
      "ÓUPSILONbDIALYTIKAgTONOSÓALPHAÓBETAÓGAMMAÓDELTAÓEPSILONÓZETAÓETA",
      "ÓTHETAÓIOTAÓKAPPAÓLAMDAÓMUÓNUÓXIÓOMICRONÓPIÓRHOÓn SIGMAÓSIGMAÓTAU",
      "ÓUPSILONÓPHIÓCHIÓPSIÓOMEGAÓIOTAbDIALYTIKAÓUPSILONbDIALYTIKA",
      "ÓOMICRONbTONOSÓUPSILONbTONOSÓOMEGAbTONOSÆc KAIqÆBETAqÆTHETAq",
      "ÆUPSILONbHOOKqÓACUTEgHOOKqÓDIAERESISgHOOKqÆPHIqÇIqÆKAIqÆLETTER ARCHAI",
      "C KOPPAÆdaARCHAIC KOPPAÆLETTER STIGMAÆdaSTIGMAÆLETTER DIGAMMA",
      "ÆdaDIGAMMAÆLETTER KOPPAÆdaKOPPAÆLETTER SAMPIÆdaSAMPIÀCOPTIC caSHEI",
      "ÇdaSHEIÇcaFEIÇdaFEIÇcaKHEIÇdaKHEIÇcaHORIÇdaHORIÇcaGANGIAÇdaGANGIA",
      "ÇcaSHIMAÇdaSHIMAÇcaDEIÇdaDEIÀGREEK KAPPAqÆRHOqÆLUNATE SIGMAq",
      "ÇETTER YOTÆc THETAqÆLUNATE EPSILONqÆREVERSED LUNATE EPSILONqÆcaSHO",
      "ÆdaSHOÆc LUNATE SIGMAqÏETTER SANÆdaSANÆRHObvqÆc REVERSED LUNATE SIGMA",
      "qÎDOTTED LUNATE SIGMAqÎREVERSED DOTTED LUNATE SIGMAqÀCYRILLIC caIEbGR",
      "AVEÙOØDJEØGJEØUKRAINIAN IEØDZEØBYELORUSSIAN-UKRAINIAN IØYIØJEØLJEØNJE",
      "ØTSHEØKJEØIbGRAVEØSHORT UØDZHEØAØBEØVEØGHEØDEØIEØZHEÙEØIØSHORT IØKA",
      "ØELÙMÙNØOØPEØERÙSØTEØUØEFØHAØTSEØCHEØSHAÚCHAØHARDhØYERUØSOFThØEØYUÙA",
      "ÉdaAÖBEÖVEÖGHEÖDEÖIEÖZHE×EÖIÖSHORT IÖKAÖEL×M×NÖOÖPEÖER×SÖTEÖUÖEFÖHA",
      "ÖTSEÖCHEÖSHAØCHAÖHARDhÖYERUÖSOFThÖEÖYU×AÖIEbGRAVE×OÖDJEÖGJE",
      "ÖUKRAINIAN IEÖDZEÖBYELORUSSIAN-UKRAINIAN IÖYIÖJEÖLJEÖNJEÖTSHEÖKJE",
      "ÖIbGRAVEÖSHORT UÖDZHEÉcaOMEGAÉdaOMEGAÉcaYATÉdaYATÉcaIOTIFIED E",
      "ÉdaIOTIFIED EÉcaLITTLE YUSÉdaLITTLE YUSÉcaIOTIFIED LITTLE YUS",
      "ÉdaIOTIFIED LITTLE YUSÉcaBIG YUSÉdaBIG YUSÉcaIOTIFIED BIG YUS",
      "ÉdaIOTIFIED BIG YUSÉcaKSIÉdaKSIÉcaPSIÉdaPSIÉcaFITAÉdaFITAÉcaIZHITSA",
      "ÉdaIZHITSAÉcaIZHITSAbl GRAVE ACCENTÉdaIZHITSAbl GRAVE ACCENTÉcaUK",
      "ÉdaUKÉcaROUND OMEGAÉdaROUND OMEGAÉcaOMEGAbTITLOÉdaOMEGAbTITLOÉcaOT",
      "ÉdaOTÉcaKOPPAÉdaKOPPAÉTHOUSANDShÁOMBINING CYRILLIC TITLOÓPALATALIZATI",
      "ONÓDASIA PNEUMATAÓPSILI PNEUMATAÔOKRYTIEÓHUNDRED THOUSANDShÓMILLIONSh",
      "ÁYRILLIC caSHORT IbTAILÉdaSHORT IbTAILÉcaSEMISOFThÉdaSEMISOFTh",
      "ÉcaERbTICKÉdaERbTICKÉcaGHEbUPTURNÉdaGHEbUPTURNÉcaGHEbvÉdaGHEbv",
      "ÉcaGHEbyHOOKÉdaGHEbyHOOKÉcaZHEbDESCENDERÉdaZHEbDESCENDERÉcaZEbDESCEND",
      "ERÉdaZEbDESCENDERÉcaKAbDESCENDERÉdaKAbDESCENDERÉcaKAbp vÉdaKAbp v",
      "ÉcaKAbvÉdaKAbvÉcaBASHKIR KAÉdaBASHKIR KAÉcaENbDESCENDERÉdaENbDESCENDE",
      "RÉc LIGATURE EN GHEÉd LIGATURE EN GHEÉcaPEbyHOOKÉdaPEbyHOOK",
      "ÉcaABKHASIAN HAÉdaABKHASIAN HAÉcaESbDESCENDERÉdaESbDESCENDER",
      "ÉcaTEbDESCENDERÉdaTEbDESCENDERÉcaSTRAIGHT UÉdaSTRAIGHT UÉcaSTRAIGHT U",
      "bvÉdaSTRAIGHT UbvÉcaHAbDESCENDERÉdaHAbDESCENDERÉc LIGATURE TE TSE",
      "Éd LIGATURE TE TSEÉcaCHEbDESCENDERÉdaCHEbDESCENDERÉcaCHEbp v",
      "ÉdaCHEbp vÉcaSHHAÉdaSHHAÉcaABKHASIAN CHEÉdaABKHASIAN CHEÉcaABKHASIAN ",
      "CHEbDESCENDERÉdaABKHASIAN CHEbDESCENDERÉLETTER PALOCHKAÉcaZHEbBREVE",
      "ÉdaZHEbBREVEÉcaKAbHOOKÉdaKAbHOOKÉcaELbTAILÉdaELbTAILÉcaENbHOOK",
      "ÉdaENbHOOKÉcaENbTAILÉdaENbTAILÉcaKHAKASSIAN CHEÉdaKHAKASSIAN CHE",
      "ÉcaEMbTAILÉdaEMbTAILÖPALOCHKAÉcaAbBREVEÉdaAbBREVEÉcaAbDIAERESIS",
      "ÉdaAbDIAERESISÉc LIGATURE A IEÉd LIGATURE A IEÉcaIEbBREVEÉdaIEbBREVE",
      "ÉcaSCHWAÉdaSCHWAÉcaSCHWAbDIAERESISÉdaSCHWAbDIAERESISÉcaZHEbDIAERESIS",
      "ÉdaZHEbDIAERESISÉcaZEbDIAERESISÉdaZEbDIAERESISÉcaABKHASIAN DZE",
      "ÉdaABKHASIAN DZEÉcaIbMACRONÉdaIbMACRONÉcaIbDIAERESISÉdaIbDIAERESIS",
      "ÉcaObDIAERESISÉdaObDIAERESISÉcaBARRED OÉdaBARRED OÉcaBARRED ObDIAERES",
      "ISÉdaBARRED ObDIAERESISÉcaEbDIAERESISÉdaEbDIAERESISÉcaUbMACRON",
      "ÉdaUbMACRONÉcaUbDIAERESISÉdaUbDIAERESISÉcaUbl ACUTEÉdaUbl ACUTE",
      "ÉcaCHEbDIAERESISÉdaCHEbDIAERESISÉcaGHEbDESCENDERÉdaGHEbDESCENDER",
      "ÉcaYERUbDIAERESISÉdaYERUbDIAERESISÉcaGHEbvgHOOKÉdaGHEbvgHOOK",
      "ÉcaHAbHOOKÉdaHAbHOOKÉcaHAbvÉdaHAbvÉcaKOMI DEÉdaKOMI DEÉcaKOMI DJE",
      "ÉdaKOMI DJEÉcaKOMI ZJEÉdaKOMI ZJEÉcaKOMI DZJEÉdaKOMI DZJEÉcaKOMI LJE",
      "ÉdaKOMI LJEÉcaKOMI NJEÉdaKOMI NJEÉcaKOMI SJEÉdaKOMI SJEÉcaKOMI TJE",
      "ÉdaKOMI TJEÉcaREVERSED ZEÉdaREVERSED ZEÉcaELbHOOKÉdaELbHOOKÉcaLHA",
      "ÉdaLHAÉcaRHAÉdaRHAÉcaYAEÉdaYAEÉcaQAÉdaQAÉcaWEÉdaWEÉcaALEUT KA",
      "ÉdaALEUT KAÉcaELbyHOOKÉdaELbyHOOKÉcaENbyHOOKÉdaENbyHOOKÉcaPEbDESCENDE",
      "RÉdaPEbDESCENDERÉcaSHHAbDESCENDERÉdaSHHAbDESCENDERÉcaENboHOOK",
      "ÉdaENboHOOKÉcaDZZHEÉdaDZZHEÉcaDCHEÉdaDCHEÉcaELbDESCENDERÉdaELbDESCEND",
      "ER"]),
    (0x531, ["ARMENIAN caAYBØBENØGIMØDAØECHØZAØEHÙTØTOØZHEØINIØLIWNØXEHØCA",
      "ØKENØHOØJAØGHADØCHEHØMENØYIØNOWØSHAØVOØCHAØPEHØJHEHØRAØSEHØVEWØTIWN",
      "ØREHØCOØYIWNØPIWRØKEHØOHØFEH"]),
    (0x559, ["ARMENIAN MODIFIERaoHALF RINGÉAPOSTROPHEÉEMPHASISuÊXCLAMATIONu",
      "ÉCOMMAÉQUESTIONuÉABBREVIATIONuÉdaTURNED AYBÖAYBÖBENÖGIMÖDAÖECHÖZAÖEH",
      "×TÖTOÖZHEÖINIÖLIWNÖXEHÖCAÖKENÖHOÖJAÖGHADÖCHEHÖMENÖYIÖNOWÖSHAÖVOÖCHA",
      "ÖPEHÖJHEHÖRAÖSEHÖVEWÖTIWNÖREHÖCOÖYIWNÖPIWRÖKEHÖOHÖFEHÐIGATURE ECH YIW",
      "NÐETTER YIbvÉFULL STOPÉHYPHEN"]),
    (0x58D, ["k-FACING ARMENIAN ETERNITYhÀLEFT-FACING ARMENIAN ETERNITYh",
      "ÀARMENIAN DRAMh"]),
    (0x591, ["HEBREW ACCENT ETNAHTAÎSEGOLÏHALSHELETÎZAQEF QATANÔGADOLÎTIPEHA",
      "ÎREVIAÎZARQAÎPASHTAÎYETIVÎTEVIRÎGERESHÔ MUQDAMÑSHAYIMÎQARNEY PARA",
      "ÎTELISHA GEDOLAÎPAZERÎATNAH HAFUKHÎMUNAHÏAHAPAKHÏERKHAÔ KEFULAÎDARGA",
      "ÎQADMAÎTELISHA QETANAÎYERAH BEN YOMOÎOLEÎILUYÎDEHIÎZINORÇMARK MASORA ",
      "CIRCLEÇPOINT SHEVAÍHATAF SEGOLÓPATAHÓQAMATSÎIRIQÍTSEREÍSEGOLÍPATAH",
      "ÍQAMATSÍHOLAMÒ HASER FOR VAVÍQUBUTSÍDAGESH OR MAPIQÍMETEGÈUNCTUATION ",
      "MAQAFÈOINT RAFEÈUNCTUATION PASEQÈOINT SHIN DOTÎIN DOTÈUNCTUATION SOF ",
      "PASUQÇMARK UPPER DOTÌLOWER DOTÇPUNCTUATION NUN HAFUKHAÈOINT QAMATS QA",
      "TAN"]),
    (0x5D0, ["HEBREWaALEFÎBETÎGIMELÎDALETÎHEÎVAVÎZAYINÎHETÎTETÎYODÎn KAFÎKAF",
      "ÎLAMEDÎn MEMÎMEMÎn NUNÎNUNÎSAMEKHÎAYINÎn PEÎPEÎn TSADIÎTSADIÎQOFÎRESH",
      "ÎSHINÎTAV"]),
    (0x5EF, ["HEBREW YOD TRIANGLEÇLIGATURE YIDDISH l VAVØVAV YODØl YOD",
      "ÇPUNCTUATION GERESHÖSHAYIM"]),
    (0x600, ["ARABIC NUMBERhÇSIGN SANAHÇFOOTNOTEuERÇSIGN SAFHAÎMVATÇNUMBERui",
      "Æ-INDIC CUBE ROOTÍFOURTH ROOTÆ RAYÆ-INDIC PER MILLEhÑTEN THOUSANDh",
      "ÁFGHANIhÁRABIC COMMAÇDATE SEPARATORÇPOETIC VERSEhÇSIGN MISRA",
      "ÌSALLALLAHOU ALAYHE WASSALLAMÌALAYHE ASSALLAMÌRAHMATULLAH ALAYHE",
      "ÎDI ALLAHOU ANHUÌTAKHALLUSÈMALL HIGH TAHÒLIGATURE ALEFbLAMbYEHÒZAIN",
      "ÍFATHAÍDAMMAÍKASRAÈEMICOLONÇLETTERuÇEND OF TEXTuÇTRIPLE DOT PUNCTUATI",
      "ONuÇQUESTIONuÇLETTER KASHMIRI YEHÎHAMZAÎALEFbMADDAiØHAMZAiÎWAWbHAMZAi",
      "ÎALEFbHAMZAmÎYEHbHAMZAiÎALEFÎBEHÎTEH MARBUTAÑÏHEHÎJEEMÎHAHÎKHAHÎDAL",
      "ÎTHALÎREHÎZAINÎSEENÏHEENÏADÎDADÎTAHÎZAHÎAINÎGHAINÎKEHEHbTWO DOTSi",
      "ÚHREE DOTSmÎFARSI YEHbINVERTED VÝTWO DOTSiÞHREE DOTSiÇTATWEEL",
      "ÇLETTER FEHÎQAFÎKAFÎLAMÎMEEMÎNOONÎHEHÎWAWÎALEF MAKSURAÎYEHÇFATHATAN",
      "ÇDAMMATANÇKASRATANÇFATHAÇDAMMAÇKASRAÇSHADDAÈUKUNÇMADDAHiÇHAMZAiÍBELOW",
      "ÇSUBSCRIPT ALEFÇINVERTED DAMMAÇMARK NOON GHUNNAÇZWARAKAYÇVOWELh d Vi",
      "ÒINVERTED d ViÒDOTmÇREVERSED DAMMAÇFATHAbTWO DOTSÇWAVY HAMZAm",
      "Æ-INDIC DIGIT ZEROÓONEÓTWOÔHREEÓFOURÔIVEÓSIXÔEVENÓEIGHTÓNINE",
      "Æ PERCENThÇDECIMAL SEPARATORÇTHOUSANDS SEPARATORÇFIVE POINTED STAR",
      "ÇLETTER DOTLESS BEHÖQAFÎSUPERSCRIPT ALEFÎALEF WASLAÔITH WAVY HAMZAi",
      "ãBELOWÎHIGH HAMZAØ ALEFÙWAWÎUbHAMZAiÎHIGH HAMZA YEHÎTTEHÒEHÎBEEH",
      "ÎTEHbRING×THREE DOTSi DOWNWARDSÎPEHÎTEHEHÎBEHEHÎHAHbHAMZAi",
      "×TWO DOTS piÎNYEHÎDYEHÎHAHbTHREE DOTSiÎTCHEHÓEHÎDDALÏALbRING×DOTm",
      "àgd TAHÐHALÏDAHALÏULÏALbTHREE DOTSi DOWNWARDS×FOUR DOTSiÎRREHÏEHbd V",
      "×RING×DOTm×d Vm×DOTmgDOTi×TWO DOTSiÎJEHÎREHbFOUR DOTSiÎSEENbDOTmgDOTi",
      "ØTHREE DOTSmègTHREE DOTSiÏADbTWO DOTSmØHREE DOTSiÎTAHbTHREE DOTSi",
      "ÎAINbTHREE DOTSiÎDOTLESS FEHÎFEHbDOT MOVEDmÛBELOWÎVEHÎFEHbTHREE DOTSm",
      "ÎPEHEHÎQAFbDOTi×THREE DOTSiÎKEHEHÎSWASH KAFÎKAFbRING×DOTiÎNG",
      "ÎKAFbTHREE DOTSmÎGAFÑbRINGÎNGOEHÎGAFbTWO DOTSmÏUEHÏAFbTHREE DOTSi",
      "ÎLAMbd V×DOTi×THREE DOTSiâBELOWÎNOONbDOTmÓGHUNNAÎRNOONÎNOONbRING",
      "ØTHREE DOTSiÎHEH DOACHASHMEEÎTCHEHbDOTiÎHEHbYEHiÒGOALÖbHAMZAi",
      "ÎTEH MARBUTA GOALÎWAWbRINGÎKIRGHIZ OEÎOEÎUÎYUÎKIRGHIZ YUÎWAWbTWO DOTS",
      "iÎVEÎFARSI YEHÎYEHbTAIL×d VÎWAWbDOTiÎEÎYEHbTHREE DOTSmÒBARREEØbHAMZAi",
      "ÇFULL STOPÇLETTER AEÇd HIGH LIGATURE SADbLAMbALEF MAKSURAÛQAFbLAMbALE",
      "F MAKSURAÒMEEM reÒLAM ALEFÒJEEMÒTHREE DOTSÒSEENÇEND OF AYAH",
      "ÇSTART OF RUB EL HIZBÈMALL HIGH ROUNDED ZEROÒUPk RECTANGULAR ZERO",
      "ÒDOTLESS HEAD OF KHAHÒMEEMjeÍLOW SEENÍHIGH MADDAÍWAWÍYEHÍHIGH YEH",
      "ÒNOONÇPLACE OF SAJDAHÇEMPTY CENTRE LOW STOPÔHIGH STOPÇROUNDED HIGH ST",
      "OPbFILLED CENTREÇd LOW MEEMÇLETTER DALbINVERTED VÎREHbINVERTED V",
      "ÀEXTENDED ARABIC-INDIC DIGIT ZEROÜONEÜTWOÝHREEÜFOURÝIVEÜSIXÝEVEN",
      "ÜEIGHTÜNINEÀARABICaSHEENbDOTmÎDADbDOTmÎGHAINbDOTmÇSIGN SINDHI AMPERSA",
      "NDÓPOSTPOSITION MENÇLETTER HEHbINVERTED VÀSYRIAC END OF PARAGRAPH",
      "ÇSUPRALINEAR FULL STOPÉBLINEAR FULL STOPÉPRALINEAR COLONÉBLINEAR COLO",
      "NÇw COLONÇCOLON SKEWED LEFTÔkÇSUPRALINEAR COLON SKEWED LEFT",
      "ÉBLINEAR COLON SKEWED kÇCONTRACTIONÇHARKLEAN OBELUSÐMETOBELUS",
      "ÐASTERISCUS"]),
    (0x70F, ["SYRIAC ABBREVIATIONuÇLETTER ALAPHÎSUPERSCRIPT ALAPHÎBETHÎGAMAL",
      "Ó GARSHUNIÎDALATHÏOTLESS DALATH RISHÎHEÎWAWÎZAINÎHETHÎTETHÒ GARSHUNI",
      "ÎYUDHÒ HEÎKAPHÎLAMADHÎMIMÎNUNÎSEMKATHÎn SEMKATHÎEÎPEÎREVERSED PE",
      "ÎSADHEÎQAPHÎRISHÎSHINÎTAWÎPERSIAN BHETHÖGHAMALÖDHALATHÇPTHAHAiÎBELOW",
      "ÎDOTTEDÇZQAPHAiÎBELOWÎDOTTEDÇRBASAiÍBELOWÇDOTTED ZLAMA wÔANGULAR",
      "ÇHBASAiÍBELOWÌ-ESASA DOTTEDÇESASAiÍBELOWÇRWAHAÇFEMININE DOTÇQUSHSHAYA",
      "ÇRUKKAKHAÇTWO p DOTSiÙBELOWÈHREE DOTSiÒBELOWÇOBLIQUE LINEiÔBELOW",
      "ÇMUSICÇBARREKH"]),
    (0x74D, ["SYRIACaSOGDIAN ZHAINÖKHAPHÖFEÀARABICaBEHbTHREE DOTS wLYm",
      "×DOTmgTHREE DOTSi×THREE DOTS POINTING UPWARDSmøgTWO DOTSiØWO DOTSmgDO",
      "Ti×INVERTED d Vm×d VÎHAHbTWO DOTSiØHREE DOTS POINTING UPWARDSm",
      "ÎDALbTWO DOTS pLYmgd TAH×INVERTED d VmÎREHbvÎSEENbFOUR DOTSi",
      "ÎAINbTWO DOTSiØHREE DOTS POINTING DOWNWARDSiØWO DOTS pLYiÎFEHbTWO DOT",
      "SmØHREE DOTS POINTING UPWARDSmÎKEHEHbDOTiÙTHREE DOTSiäPOINTING UPWARD",
      "SmÎMEEMbDOTiÜBELOWÎNOONbTWO DOTSmØd TAHÞVÎLAMbBARÎREHbTWO DOTS pLYi",
      "×HAMZAiÎSEENbTWO DOTS pLYiÎHAHbd ARABICaTAHmïAND TWO DOTSÎSEENbd ARAB",
      "ICaTAHgTWO DOTSÎREHbd ARABICaTAHgTWO DOTSÎHAHbd ARABICaTAHi",
      "ÎALEFbEXTENDED ARABIC-INDIC DIGIT TWOiõHREEiÎFARSI YEHbEXTENDED ARABI",
      "C-INDIC DIGIT TWOiúHREEiùFOURmÎWAWbEXTENDED ARABIC-INDIC DIGIT TWOi",
      "ôHREEiÎYEH BARREEbEXTENDED ARABIC-INDIC DIGIT TWOiûHREEiÎHAHbEXTENDED",
      " ARABIC-INDIC DIGIT FOURmÎSEENbEXTENDED ARABIC-INDIC DIGIT FOURi",
      "ØINVERTED VÎKAFbTWO DOTSiÀTHAANAaHAAÎSHAVIYANIÎNOONUÎRAAÎBAA",
      "ÎLHAVIYANIÎKAAFUÎALIFUÎVAAVUÎMEEMUÎFAAFUÎDHAALUÎTHAAÎLAAMUÎGAAFU",
      "ÏNAVIYANIÎSEENUÎDAVIYANIÎZAVIYANIÎTAVIYANIÎYAAÎPAVIYANIÎJAVIYANI",
      "ÎCHAVIYANIÎTTAAÎHHAAÎKHAAÎTHAALUÎZAAÎSHEENUÏAADHUÎDAADHUÎTOÎZOÎAINU",
      "ÎGHAINUÎQAAFUÎWAAVUÇABAFILIÈABAAFILIÇIBIFILIÇEEBEEFILIÇUBUFILI",
      "ÇOOBOOFILIÇEBEFILIÈYBEYFILIÇOBOFILIÈABOAFILIÇSUKUNÇLETTER NAA"]),
    (0x7C0, ["NKO DIGIT ZEROÊONEÊTWOËHREEÊFOURËIVEÊSIXËEVENÊEIGHTÊNINE",
      "ÄLETTER AËEEËIËEËUËOOÌËDAGBASINNAËNËBAËPAËTAËJAËCHAËDAËRAÌRAËSAËGBA",
      "ËFAËKAËLAËNA WOLOSOËMAËNYAÌAËHAËWAËYAËNYA WOLOSOËJONA JAÐCHAÐRA",
      "ÄCOMBINING SHORT HIGH TONEÔLOW TONEÔRISING TONEÎLONG DESCENDING TONE",
      "ÓHIGH TONEÓLOW TONEÓRISING TONEÎNASALIZATIONuÎl DOTiÄHIGH TONE APOSTR",
      "OPHEÄLOW TONE APOSTROPHEÄSYMBOL OO DENNENËGBAKURUNENÄCOMMA",
      "ÄEXCLAMATIONuÄLAJANYALAN"]),
    (0x7FD, ["NKO DANTAYALANÅOROMEhÄTAMANhÀSAMARITANaALAFÑBITÑGAMANÑDALATÑIY",
      "ÑBAAÑZENÑITÑTITÑYUTÑKAAFÑLABATÑMIMÑNUNÑSINGAATÑINÑFIÑTSAADIYÑQUFÑRISH",
      "ÑSHANÑTAAFÊMARK INÑ-ALAFÏOCCLUSIONÏDAGESHËODIFIERaEPENTHETIC YUT",
      "ËARK EPENTHETIC YUTÊVOWELh LONG EÕEÕOVERLONG AAÕLONG AAÕAAÕOVERLONG A",
      "ÕLONG AÕAÊMODIFIERaSHORT AÊVOWELh SHORT AÕLONG UÕUÊMODIFIERaI",
      "ÊVOWELh LONG IÕIÕOÕSUKUNÊMARK NEQUDAA"]),
    (0x830, ["SAMARITAN PUNCTUATION NEQUDAAÖAFSAAQ×NGEDÖBAUÖATMAAU",
      "ÖSHIYYAALAAÊABBREVIATIONuÊPUNCTUATION MELODIC QITSAÖZIQAAÖQITSAÖZAEF",
      "ÖTURUÖARKAANUÖSOF MASHFAATÖANNAAU"]),
    (0x840, ["MANDAICaHALQAÏABÐGÐDÐHÏUSHENNAÏAZÏITÏATTÐKSAÑÐLÐMÐNÐSÏINÏAPÐSZ",
      "ÐQÐRÐSHÐTÏDUSHENNAÏKADÏAINÈAFFRICATIONuÈVOCALIZATIONuÈGEMINATIONu"]),
    (0x85E, ["MANDAIC PUNCTUATION"]),
    (0x860, ["SYRIACaMALAYALAM NGAØJAØNYAØTTAØNNAÚNAØBHAØRAØLLAÚLAØSSA"]),
    (0x870, ["ARABICaALEFbATTACHED FATHAáTOP k FATHAØk yvØoyvØATTACHED KASRA",
      "áBOTTOM k KASRAáROUND DOTiâIGHT ROUND DOTáoROUND DOTáROUND DOTmØDOTi",
      "ØATTACHED TOP k FATHAgDOTiØk yvgDOTiØATTACHED BOTTOM k KASRAgDOTi",
      "áTOP k FATHAgoRINGØk yvgoRINGØATTACHED BOTTOM k KASRAgoRINGák HAMZA",
      "áoHAMZAÇTATWEELbOVERSTRUCK HAMZAßWAWÔTWO DOTSmÇLETTER THIN YEH",
      "ÇBASELINE ROUND DOTÇRAISED ROUND DOTÇLETTER NOONbINVERTED d V",
      "ÎHAHbINVERTED d VmÎTAHbDOTm×THREE DOTSmÎKEHEHbTWO DOTS pLYmÇp TAIL"]),
    (0x890, ["ARABIC POUNDuiÈIASTREui"]),
    (0x898, ["ARABIC d HIGH WORD AL-JUZÍLOW WORD ISHMAAM×MAALAÖTASHEEL",
      "ÇMADDA WAAJIBÇSUPERSCRIPT ALEF MOKHASSASÇlD MADDAÇHALF MADDA OVER MAD",
      "DAÇLETTER BEHbd Vm×HAMZAiÎJEEMbTWO DOTSiÎTAHbTWO DOTSiÎFEHbDOTmgTHREE",
      " DOTSiÎQAFbDOTmÎLAMbl BARÎMEEMbTHREE DOTSiÎYEHbTWO DOTSmgHAMZAiêDOTi",
      "ÎREHbLOOPÎWAWbDOT WITHINÎROHINGYA YEHÎLOW ALEFÎDALbTHREE DOTSm",
      "ÎSADbTHREE DOTSmÎGAFbINVERTED vÎSTRAIGHT WAWÎZAINbINVERTED Vi",
      "ÎAINbTHREE DOTSmÎKAFbDOTmÎQAFbDOTmgNO DOTSiÎBEHbd MEEMiÎPEHbd MEEMi",
      "ÎTEHbd TEHiÎREHbd NOONiÎYEHbTWO DOTSmgd NOONiÎAFRICAN FEHÖQAFÖNOON",
      "ÎPEHbd VÎTEHbd VÏTEHbd VÏCHEHbd VÎKEHEHbd VÎGHAINbTHREE DOTSi",
      "ÎAFRICAN QAFbTHREE DOTSiÎJEEMbTHREE DOTSiãBELOWÎLAMbd ARABICaTAHi",
      "ÎGRAFÇd FARSI YEHÍHIGH FARSI YEHÒYEH BARREEbTWO DOTSmÒWORD SAHÒZAH",
      "ÇLARGE ROUND DOTi×BELOWÇSUKUNmÇLARGE CIRCLEmÍROUND DOT INSIDE CIRCLEm",
      "Çd LOW WAWÍHIGH WORD AR-RUBÒSADÒAINÒQAFÒNOONbKASRAÍLOW NOONbKASRA",
      "ÍHIGH WORD ATH-THALATHAØS-SAJDAØN-NISF×SAKTA×QIF×WAQFAÒFOOTNOTEuER",
      "ÒSIGN SAFHAÇDISPUTED END OF AYAHÇTURNED DAMMAmÇCURLY FATHAÍDAMMA",
      "ÍKASRAÍFATHATANÍDAMMATANÍKASRATANÇTONE ONE DOTiÌTWO DOTSiÌLOOPi",
      "ÌONE DOTmÌTWO DOTSmÌLOOPmÇOPEN FATHATANÌDAMMATANÌKASRATANÇd HIGH WAW",
      "ÇFATHAbRINGÒDOTiÇKASRAbDOTmÇLEFTfHEADiÇkfHEADiÇLEFTfHEADmÇkfHEADm",
      "Çl kfHEADiãbDOTÇkfHEADibDOTÇDAMMAbDOTÇMARK SIDEWAYS NOON GHUNNA",
      "ÀDEVANAGARIh INVERTED CANDRABINDUÐCANDRABINDUÐANUSVARAÐVISARGA",
      "ËLETTER SHORT AÒAÓAÒIÓIÒUÓUÒVOCALIC RÚLÒCANDRA EÒSHORT EÒEÒAI",
      "ÒCANDRA OÒSHORT OÒOÒAUÒKAÓHAÒGAÓHAÒNGAÒCAÓHAÒJAÓHAÒNYAÒTTAÔHAÒDDAÔHA",
      "ÒNNAÒTAÓHAÒDAÓHAÒNAÓNNAÒPAÓHAÒBAÓHAÒMAÒYAÒRAÓRAÒLAÓLAÔLAÒVAÒSHAÓSAÓA",
      "ÒHAËVOWELh OE×OEËSIGN NUKTAÐAVAGRAHAËVOWELh AAÖI×IÖU×UÖVOCALIC RßR",
      "ÖCANDRA EÖSHORT EÖEÖAIÖCANDRA OÖSHORT OÖOÖAUËSIGN VIRAMAËVOWELh PRISH",
      "THAMATRA EÖAWËOMËSTRESSh UDATTA×ANUDATTAËGRAVE ACCENTËACUTE ACCENT",
      "ËVOWELh CANDRA LONG EÖUE×UEËLETTER QAÒKHHAÒGHHAÒZAÒDDDHAÒRHAÒFAÒYYA",
      "ÒVOCALIC RRÚLLËVOWELh VOCALIC LßLËDANDAÌOUBLE DANDAÌIGIT ZEROÑONEÑTWO",
      "ÒHREEÑFOURÒIVEÑSIXÒEVENÑEIGHTÑNINEËABBREVIATIONhËSIGN HIGH SPACING DO",
      "TËLETTER CANDRA AÒOEÓOEÒAWÒUEÓUEÒMARWARI DDAÒZHAÒHEAVY YAÒGGAÒJJA",
      "ÒGLOTTAL STOPÒDDDAÒBBAÀBENGALI ANJIÈSIGN CANDRABINDUÍANUSVARAÍVISARGA"]),
    (0x985, ["BENGALIaAÐAÏIÐIÏUÐUÏVOCALIC R×L"]), (0x98F, ["BENGALIaEÏAI"]),
    (0x993, ["BENGALIaOÏAUÏKAÐHAÏGAÐHAÏNGAÏCAÐHAÏJAÐHAÏNYAÏTTAÑHAÏDDAÑHAÏNNA",
      "ÏTAÐHAÏDAÐHAÏNA"]), (0x9AA, ["BENGALIaPAÐHAÏBAÐHAÏMAÏYAÏRA"]),
    (0x9B2, ["BENGALIaLA"]), (0x9B6, ["BENGALIaSHAÐSAÐAÏHA"]),
    (0x9BC, ["BENGALIh NUKTAÍAVAGRAHAÈVOWELh AAÓIÔIÓUÔUÓVOCALIC RÜR"]),
    (0x9C7, ["BENGALI VOWELh EÓAI"]),
    (0x9CB, ["BENGALI VOWELh OÓAUÈSIGN VIRAMAÈLETTER KHANDA TA"]),
    (0x9D7, ["BENGALI AU LENGTHu"]), (0x9DC, ["BENGALIaRRAÐHA"]),
    (0x9DF, ["BENGALIaYYAÏVOCALIC RR×LLÈVOWELh VOCALIC LÜL"]),
    (0x9E6, ["BENGALI DIGIT ZEROÎONEÎTWOÏHREEÎFOURÏIVEÎSIXÏEVENÎEIGHTÎNINE",
      "ÈLETTER RAbyDIAGONAL×LOWER DIAGONALÈRUPEEuÎSIGNÈCURRENCY NUMERATOR ON",
      "EÛTWOÜHREEÛFOURÛONE LESS THAN THE DENOMINATORÑDENOMINATOR SIXTEEN",
      "ÈISSHARÈGANDAuÈLETTER VEDIC ANUSVARAÈABBREVIATIONhÈSANDHIu"]),
    (0xA01, ["GURMUKHIh ADAK BINDIÎBINDIÎVISARGA"]),
    (0xA05, ["GURMUKHIaAÑAÐIÑIÐUÑU"]), (0xA0F, ["GURMUKHIaEEÐAI"]),
    (0xA13, ["GURMUKHIaOOÐAUÐKAÑHAÐGAÑHAÐNGAÐCAÑHAÐJAÑHAÐNYAÐTTAÒHAÐDDAÒHA",
      "ÐNNAÐTAÑHAÐDAÑHAÐNA"]), (0xA2A, ["GURMUKHIaPAÑHAÐBAÑHAÐMAÐYAÐRA"]),
    (0xA32, ["GURMUKHIaLAÑLA"]), (0xA35, ["GURMUKHIaVAÐSHA"]),
    (0xA38, ["GURMUKHIaSAÐHA"]), (0xA3C, ["GURMUKHIh NUKTA"]),
    (0xA3E, ["GURMUKHI VOWELh AAÔIÕIÔUÕU"]), (0xA47, ["GURMUKHI VOWELh EEÔAI"]),
    (0xA4B, ["GURMUKHI VOWELh OOÔAUÉSIGN VIRAMA"]),
    (0xA51, ["GURMUKHIh UDAAT"]), (0xA59, ["GURMUKHIaKHHAÐGHHAÐZAÐRRA"]),
    (0xA5E, ["GURMUKHIaFA"]),
    (0xA66, ["GURMUKHI DIGIT ZEROÏONEÏTWOÐHREEÏFOURÐIVEÏSIXÐEVENÏEIGHTÏNINE",
      "ÉTIPPIÉADDAKÉIRIÉURAÉEK ONKARÉSIGN YAKASHÉABBREVIATIONh"]),
    (0xA81, ["GUJARATIh CANDRABINDUÎANUSVARAÎVISARGA"]),
    (0xA85, ["GUJARATIaAÑAÐIÑIÐUÑUÐVOCALIC RØLÉVOWEL CANDRA E"]),
    (0xA8F, ["GUJARATIaEÐAIÉVOWEL CANDRA O"]),
    (0xA93, ["GUJARATIaOÐAUÐKAÑHAÐGAÑHAÐNGAÐCAÑHAÐJAÑHAÐNYAÐTTAÒHAÐDDAÒHA",
      "ÐNNAÐTAÑHAÐDAÑHAÐNA"]), (0xAAA, ["GUJARATIaPAÑHAÐBAÑHAÐMAÐYAÐRA"]),
    (0xAB2, ["GUJARATIaLAÑLA"]), (0xAB5, ["GUJARATIaVAÐSHAÑSAÑAÐHA"]),
    (0xABC, ["GUJARATIh NUKTAÎAVAGRAHAÉVOWELh AAÔIÕIÔUÕUÔVOCALIC RÝR",
      "ÔCANDRA E"]), (0xAC7, ["GUJARATI VOWELh EÔAIÔCANDRA O"]),
    (0xACB, ["GUJARATI VOWELh OÔAUÉSIGN VIRAMA"]), (0xAD0, ["GUJARATI OM"]),
    (0xAE0, ["GUJARATIaVOCALIC RRØLLÉVOWELh VOCALIC LÝL"]),
    (0xAE6, ["GUJARATI DIGIT ZEROÏONEÏTWOÐHREEÏFOURÐIVEÏSIXÐEVENÏEIGHTÏNINE",
      "ÉABBREVIATIONhÉRUPEEh"]),
    (0xAF9, ["GUJARATIaZHAÉSIGN SUKUNÏHADDAÎMADDAHÎTHREE-DOT NUKTAi",
      "ÎCIRCLE NUKTAiÎTWO-CIRCLE NUKTAi"]),
    (0xB01, ["ORIYAh CANDRABINDUËANUSVARAËVISARGA"]),
    (0xB05, ["ORIYAaAÎAÍIÎIÍUÎUÍVOCALIC RÕL"]), (0xB0F, ["ORIYAaEÍAI"]),
    (0xB13, ["ORIYAaOÍAUÍKAÎHAÍGAÎHAÍNGAÍCAÎHAÍJAÎHAÍNYAÍTTAÏHAÍDDAÏHAÍNNA",
      "ÍTAÎHAÍDAÎHAÍNA"]), (0xB2A, ["ORIYAaPAÎHAÍBAÎHAÍMAÍYAÍRA"]),
    (0xB32, ["ORIYAaLAÎLA"]), (0xB35, ["ORIYAaVAÍSHAÎSAÎAÍHA"]),
    (0xB3C, ["ORIYAh NUKTAËAVAGRAHAÆVOWELh AAÑIÒIÑUÒUÑVOCALIC RÚR"]),
    (0xB47, ["ORIYA VOWELh EÑAI"]), (0xB4B, ["ORIYA VOWELh OÑAUÆSIGN VIRAMA"]),
    (0xB55, ["ORIYAh OVERLINEÆAI LENGTHuÇU LENGTHu"]),
    (0xB5C, ["ORIYAaRRAÎHA"]),
    (0xB5F, ["ORIYAaYYAÍVOCALIC RRÕLLÆVOWELh VOCALIC LÚL"]),
    (0xB66, ["ORIYA DIGIT ZEROÌONEÌTWOÍHREEÌFOURÍIVEÌSIXÍEVENÌEIGHTÌNINE",
      "ÆISSHARÆLETTER WAÆFRACTION ONE QUARTERÓHALFÏTHREE QUARTERS",
      "ÏONE SIXTEENTHÓEIGHTHÏTHREE SIXTEENTHS"]),
    (0xB82, ["TAMILh ANUSVARAËVISARGA"]), (0xB85, ["TAMILaAÎAÍIÎIÍUÎU"]),
    (0xB8E, ["TAMILaEÎEÍAI"]), (0xB92, ["TAMILaOÎOÍAUÍKA"]),
    (0xB99, ["TAMILaNGAÍCA"]), (0xB9C, ["TAMILaJA"]),
    (0xB9E, ["TAMILaNYAÍTTA"]), (0xBA3, ["TAMILaNNAÍTA"]),
    (0xBA8, ["TAMILaNAÎNNAÍPA"]),
    (0xBAE, ["TAMILaMAÍYAÍRAÎRAÍLAÎLAÏLAÍVAÍSHAÎSAÎAÍHA"]),
    (0xBBE, ["TAMIL VOWELh AAÑIÒIÑUÒU"]), (0xBC6, ["TAMIL VOWELh EÒEÑAI"]),
    (0xBCA, ["TAMIL VOWELh OÒOÑAUÆSIGN VIRAMA"]), (0xBD0, ["TAMIL OM"]),
    (0xBD7, ["TAMIL AU LENGTHu"]),
    (0xBE6, ["TAMIL DIGIT ZEROÌONEÌTWOÍHREEÌFOURÍIVEÌSIXÍEVENÌEIGHTÌNINE",
      "ÆNUMBER TENÍONEzÑTHOUSANDÆDAYhÆMONTHhÆYEARhÆDEBIThÆCREDIThÆASih",
      "ÆRUPEEhÆNUMBERh"]),
    (0xC00, ["TELUGUh COMBINING CANDRABINDUiÍANDRABINDUÌANUSVARAÌVISARGA",
      "ÌCOMBINING ANUSVARAiÇLETTER AÏAÎIÏIÎUÏUÎVOCALIC RÖL"]),
    (0xC0E, ["TELUGUaEÏEÎAI"]),
    (0xC12, ["TELUGUaOÏOÎAUÎKAÏHAÎGAÏHAÎNGAÎCAÏHAÎJAÏHAÎNYAÎTTAÐHAÎDDAÐHA",
      "ÎNNAÎTAÏHAÎDAÏHAÎNA"]),
    (0xC2A, ["TELUGUaPAÏHAÎBAÏHAÎMAÎYAÎRAÏRAÎLAÏLAÐLAÎVAÎSHAÏSAÏAÎHA"]),
    (0xC3C, ["TELUGUh NUKTAÌAVAGRAHAÇVOWELh AAÒIÓIÒUÓUÒVOCALIC RÛR"]),
    (0xC46, ["TELUGU VOWELh EÓEÒAI"]),
    (0xC4A, ["TELUGU VOWELh OÓOÒAUÇSIGN VIRAMA"]),
    (0xC55, ["TELUGU LENGTHuÇAI LENGTHu"]), (0xC58, ["TELUGUaTSAÎDZAÎRRRA"]),
    (0xC5D, ["TELUGUaNAKAARA POLLU"]),
    (0xC60, ["TELUGUaVOCALIC RRÖLLÇVOWELh VOCALIC LÛL"]),
    (0xC66, ["TELUGU DIGIT ZEROÍONEÍTWOÎHREEÍFOURÎIVEÍSIXÎEVENÍEIGHTÍNINE"]),
    (0xC77, ["TELUGUh SIDDHAMÇFRACTION DIGIT ZERO FOR ODD POWERS OF FOUR",
      "ÖONE FOR ODD POWERS OF FOURÖTWO FOR ODD POWERS OF FOUR×HREE FOR ODD P",
      "OWERS OF FOURÖONE FOR EVEN POWERS OF FOURÖTWO FOR EVEN POWERS OF FOUR",
      "×HREE FOR EVEN POWERS OF FOURÇSIGN TUUMUÀKANNADAh SPACING CANDRABINDU",
      "ÍCANDRABINDUÍANUSVARAÍVISARGAÍSIDDHAMÈLETTER AÐAÏIÐIÏUÐUÏVOCALIC R×L"]),
    (0xC8E, ["KANNADAaEÐEÏAI"]),
    (0xC92, ["KANNADAaOÐOÏAUÏKAÐHAÏGAÐHAÏNGAÏCAÐHAÏJAÐHAÏNYAÏTTAÑHAÏDDAÑHA",
      "ÏNNAÏTAÐHAÏDAÐHAÏNA"]),
    (0xCAA, ["KANNADAaPAÐHAÏBAÐHAÏMAÏYAÏRAÐRAÏLAÐLA"]),
    (0xCB5, ["KANNADAaVAÏSHAÐSAÐAÏHA"]),
    (0xCBC, ["KANNADAh NUKTAÍAVAGRAHAÈVOWELh AAÓIÔIÓUÔUÓVOCALIC RÜR"]),
    (0xCC6, ["KANNADA VOWELh EÔEÓAI"]),
    (0xCCA, ["KANNADA VOWELh OÔOÓAUÈSIGN VIRAMA"]),
    (0xCD5, ["KANNADA LENGTHuÈAI LENGTHu"]),
    (0xCDD, ["KANNADAaNAKAARA POLLUÏFA"]),
    (0xCE0, ["KANNADAaVOCALIC RR×LLÈVOWELh VOCALIC LÜL"]),
    (0xCE6, ["KANNADA DIGIT ZEROÎONEÎTWOÏHREEÎFOURÏIVEÎSIXÏEVENÎEIGHTÎNINE"]),
    (0xCF1, ["KANNADAh JIHVAMULIYAÍUPADHMANIYA"]),
    (0xD00, ["MALAYALAMh COMBINING ANUSVARAiÐANDRABINDUÏANUSVARAÏVISARGA",
      "ÊLETTER VEDIC ANUSVARAÑAÒAÑIÒIÑUÒUÑVOCALIC RÙL"]),
    (0xD0E, ["MALAYALAMaEÒEÑAI"]),
    (0xD12, ["MALAYALAMaOÒOÑAUÑKAÒHAÑGAÒHAÑNGAÑCAÒHAÑJAÒHAÑNYAÑTTAÓHAÑDDAÓHA",
      "ÑNNAÑTAÒHAÑDAÒHAÑNAÒNNAÑPAÒHAÑBAÒHAÑMAÑYAÑRAÒRAÑLAÒLAÓLAÑVAÑSHAÒSAÒA",
      "ÑHAÑTTTAÊSIGN p BAR VIRAMAÏCIRCULAR VIRAMAÏAVAGRAHAÊVOWELh AAÕIÖIÕUÖU",
      "ÕVOCALIC RÞR"]), (0xD46, ["MALAYALAM VOWELh EÖEÕAI"]),
    (0xD4A, ["MALAYALAM VOWELh OÖOÕAUÊSIGN VIRAMAÊLETTER DOT REPHÊSIGN PARA"]),
    (0xD54, ["MALAYALAMaCHILLU MØYØLLLÊAU LENGTHuÊFRACTION ONE ONE-HUNDRED-A",
      "ND-SIXTIETH×FORTIETHÓTHREE EIGHTIETHSÓONE TWENTIETHØENTHÓTHREE TWENTI",
      "ETHSÓONE FIFTHÊLETTER ARCHAIC IIÑVOCALIC RRÙLLÊVOWELh VOCALIC LÞL"]),
    (0xD66, ["MALAYALAM DIGIT ZEROÐONEÐTWOÑHREEÐFOURÑIVEÐSIXÑEVENÐEIGHTÐNINE",
      "ÊNUMBER TENÑONEzÕTHOUSANDÊFRACTION ONE QUARTER×HALFÓTHREE QUARTERS",
      "ÓONE SIXTEENTH×EIGHTHÓTHREE SIXTEENTHSÊDATEuÊLETTER CHILLU NNÙØRRØLÙL",
      "ØK"]), (0xD81, ["SINHALAh CANDRABINDUÍANUSVARAYAÍVISARGAYA"]),
    (0xD85, ["SINHALAaAYANNAÐAYANNAÐEYANNAÑEYANNAÏIYANNAÐIYANNAÏUYANNA",
      "ÐUYANNAÏIRUYANNAÒUYANNAÐLUYANNAÒUYANNAÏEYANNAÐEYANNAÏAIYANNAÏOYANNA",
      "ÐOYANNAÏAUYANNA"]),
    (0xD9A, ["SINHALAaALPAPRAANA KAYANNAÏMAHAAPRAANA KAYANNAÏALPAPRAANA GAYA",
      "NNAÏMAHAAPRAANA GAYANNAÏKANTAJA NAASIKYAYAÏSANYAKA GAYANNA",
      "ÏALPAPRAANA CAYANNAÏMAHAAPRAANA CAYANNAÏALPAPRAANA JAYANNA",
      "ÏMAHAAPRAANA JAYANNAÏTAALUJA NAASIKYAYA×SANYOOGA NAAKSIKYAYA",
      "ÏSANYAKA JAYANNAÏALPAPRAANA TTAYANNAÏMAHAAPRAANA TTAYANNAÏALPAPRAANA ",
      "DDAYANNAÏMAHAAPRAANA DDAYANNAÐUURDHAJA NAYANNAÏSANYAKA DDAYANNA",
      "ÏALPAPRAANA TAYANNAÏMAHAAPRAANA TAYANNAÏALPAPRAANA DAYANNA",
      "ÏMAHAAPRAANA DAYANNAÏDANTAJA NAYANNA"]),
    (0xDB3, ["SINHALAaSANYAKA DAYANNAÏALPAPRAANA PAYANNAÏMAHAAPRAANA PAYANNA",
      "ÏALPAPRAANA BAYANNAÏMAHAAPRAANA BAYANNAÑYANNAÏAMBA BAYANNAÏYAYANNA",
      "ÏRAYANNA"]), (0xDBD, ["SINHALAaDANTAJA LAYANNA"]),
    (0xDC0, ["SINHALAaVAYANNAÏTAALUJA SAYANNAÏMUURDHAJA SAYANNAÏDANTAJA SAYA",
      "NNAÏHAYANNAÏMUURDHAJA LAYANNAÏFAYANNA"]),
    (0xDCA, ["SINHALAh AL-LAKUNA"]),
    (0xDCF, ["SINHALA VOWELh AELA-PILLAÓKETTI AEDA-PILLAÓDIGA AEDA-PILLA",
      "ÓKETTI IS-PILLAÓDIGA IS-PILLAÓKETTI PAA-PILLA"]),
    (0xDD6, ["SINHALA VOWELh DIGA PAA-PILLA"]),
    (0xDD8, ["SINHALA VOWELh GAETTA-PILLAÓKOMBUVAÓDIGA KOMBUVAÓKOMBU DEKA",
      "ØVA HAA AELA-PILLAßDIGA AELA-PILLAßGAYANUKITTAÓGAYANUKITTA"]),
    (0xDE6, ["SINHALA LITH DIGIT ZEROÓONEÓTWOÔHREEÓFOURÔIVEÓSIXÔEVENÓEIGHT",
      "ÓNINE"]),
    (0xDF2, ["SINHALA VOWELh DIGA GAETTA-PILLAÚYANUKITTAÈPUNCTUATION KUNDDAL",
      "IYA"]),
    (0xE01, ["THAI CHARACTER KO KAIÐHO KHAIÕUATÕWAIÕONÓRAKHANGÏNGO NGU",
      "ÏCHO CHANÕINGÕANGÏSO SOÏCHO CHOEÏYO YINGÏDO CHADAÏTO PATAKÐHO THAN",
      "ÓNANGMONTHOÓPHUTHAOÏNO NENÏDO DEKÏTO TAOÐHO THUNGÕAHANÕONGÏNO NU",
      "ÏBO BAIMAIÏPO PLAÐHO PHUNGÏFO FAÏPHO PHANÏFO FANÏPHO SAMPHAOÏMO MA",
      "ÏYO YAKÏRO RUAÐUÏLO LINGÐUÏWO WAENÏSO SALAÒRUSIÒSUAÏHO HIPÏLO CHULA",
      "ÏO ANGÏHO NOKHUKÏPAIYANNOIÏSARA AÏMAI HAN-AKATÏSARA AAÕMÔIÕIÔUEÖEÕÕU",
      "ÏPHINTHU"]),
    (0xE3F, ["THAI CURRENCYq BAHTÆHARACTER SARA EÔAEÔOÔAI MAIMUANÛALAI",
      "ÏLAKKHANGYAOÏMAIYAMOKÒTAIKHUÒ EKÓTHOÔRIÓCHATTAWAÏTHANTHAKHATÏNIKHAHIT",
      "ÏYAMAKKANÏFONGMANÅDIGIT ZEROËONEËTWOÌHREEËFOURÌIVEËSIXÌEVENËEIGHT",
      "ËNINEÅCHARACTER ANGKHANKHUÏKHOMUT"]), (0xE81, ["LAOaKOÌHO SUNG"]),
    (0xE84, ["LAOaKHO TAM"]), (0xE86, ["LAOaPALI GHAËNGOËCOËPALI CHAËSO TAM"]),
    (0xE8C, ["LAOaPALI JHAËNYOËPALI NYAÐTTAÒHAÐDDAÒHAÐNNAËDOËTOÌHO SUNGÏTAM",
      "ËPALI DHAËNOËBOËPOÌHO SUNGËFO TAMËPHO TAMËFO SUNGËPALI BHAËMOËYO",
      "ËLO LING"]), (0xEA5, ["LAOaLO LOOT"]),
    (0xEA7, ["LAOaWOËSANSKRIT SHAÕSAÌO SUNGËHO SUNGËPALI LLAËOËHO TAM",
      "ÄELLIPSISÄVOWELh AÏMAI KANÏAAÐMÏIÐIÏYÐYÏUÐUÄSIGN PALI VIRAMA",
      "ÄVOWELh MAI KONÄSEMIVOWELh LOÓNYO"]), (0xEC0, ["LAO VOWELh EÐIÏOÏAYÐI"]),
    (0xEC6, ["LAO KO LA"]),
    (0xEC8, ["LAO TONE MAI EKÍTHOÎIÍCATAWAÄCANCELLATIONuÄNIGGAHITA"]),
    (0xED0, ["LAO DIGIT ZEROÊONEÊTWOËHREEÊFOURËIVEÊSIXËEVENÊEIGHTÊNINE"]),
    (0xEDC, ["LAO HO NOÇMOÄLETTER KHMU GOÐNYO"]),
    (0xF00, ["TIBETAN SYLLABLE OMÈMARK GTER YIG MGO TRUNCATED AÚ-UM RNAM BCA",
      "D MAÞGTER TSHEG MAÍr YIG MGO MDUN MAÍCLOSING YIG MGO SGAB MA",
      "ÎARET YIG MGO PHUR SHAD MAÍYIG MGO TSHEG SHAD MAÍSBRUL SHAD",
      "ÍBSKUR YIG MGOÎKA- SHOG YIG MGOÍINTERSYLLABIC TSHEGÍDELIMITER TSHEG B",
      "STARÍSHADÍNYIS SHADÍTSHEG SHADÍNYIS TSHEG SHADÍRIN CHEN SPUNGS SHAD",
      "ÎGYA GRAM SHADÍCARET -DZUD RTAGS ME LONG CANÍGTER TSHEGÈLOGOTYPEh CHA",
      "D RTAGSÖLHAG RTAGSÈASTROLOGICALh SGRA GCAN -CHAR RTAGSÚ-KHYUD PA",
      "ÚSDONG TSHUGSÈSIGN RDEL DKAR GCIGØNYISØSUMÒNAG GCIG×NYISÒDKAR RDEL NA",
      "GÈDIGIT ZEROÎONEÎTWOÏHREEÎFOURÏIVEÎSIXÏEVENÎEIGHTÎNINEÎHALF ONEÓTWO",
      "ÔHREEÓFOURÔIVEÓSIXÔEVENÓEIGHTÓNINEÓZEROÈMARK BSDUS RTAGSÍNGAS BZUNG N",
      "YI ZLAÍCARET -DZUD RTAGS BZHI MIG CANÍNGAS BZUNG SGOR RTAGSÍCHE MGO",
      "ÍTSA -PHRUÍGUG RTAGS GYONÙASÍANG KHANG GYONÙASÈSIGN YAR TSHES",
      "ÍMAR TSHESÈLETTER KAÐHAÏGAÐHAÏNGAÏCAÐHAÏJA"]),
    (0xF49, ["TIBETANaNYAÏTTAÑHAÏDDAÑHAÏNNAÏTAÐHAÏDAÐHAÏNAÏPAÐHAÏBAÐHAÏMA",
      "ÏTSAÑHAÏDZAÑHAÏWAÏZHAÐAÏ-AÏYAÏRAÏLAÏSHAÐSAÐAÏHAÏAÏKSSAÏFIXED-FORM RA",
      "ÏKKAÏRRA"]),
    (0xF71, ["TIBETAN VOWELh AAÓIÔIÓUÔUÓVOCALIC RÜRÛLÜLÓEÔEÓOÔOÈSIGN RJES SU",
      " NGA ROÎNAM BCADÈVOWELh REVERSED IÝIÈSIGN NYI ZLA NAA DAÍSNA LDAN",
      "ÈMARK HALANTAÍPALUTAÈSIGN LCI RTAGSÍYANG RTAGSÍLCE TSA CANÍMCHU CAN",
      "ÍGRU CAN RGYINGSÑMED RGYINGSÍINVERTED MCHU CANÉUBJOINEDh LCE TSA CAN",
      "×MCHU CAN×INVERTED MCHU CANÒLETTER KAÚHAÙGAÚHAÙNGAÙCAÚHAÙJA"]),
    (0xF99, ["TIBETAN SUBJOINEDaNYAÙTTAÛHAÙDDAÛHAÙNNAÙTAÚHAÙDAÚHAÙNAÙPAÚHA",
      "ÙBAÚHAÙMAÙTSAÛHAÙDZAÛHAÙWAÙZHAÚAÙ-AÙYAÙRAÙLAÙSHAÚSAÚAÙHAÙAÙKSSA",
      "ÙFIXED-FORM WAäYAäRA"]),
    (0xFBE, ["TIBETAN KU RU KHAÑ BZHI MIG CANÈCANTILLATIONh HEAVY BEAT",
      "ÚLIGHT BEATÚCANG TE-UÚSBUB -CHALÈSYMBOL DRIL BUÏRDO RJEÏPADMA GDAN",
      "ÏRDO RJE RGYA GRAMÏPHUR PAÏNOR BUÕ NYIS -KHYILÖGSUM -KHYIL",
      "ÖBZHI -KHYIL"]),
    (0xFCE, ["TIBETANh RDEL NAG RDEL DKARÖGSUMÈMARK BSKA- SHOG GI MGO RGYAN",
      "ÍMNYAM YIG GI MGO RGYANÍNYIS TSHEGÍr BRDA RNYING YIG MGO MDUN MA",
      "ÍCLOSING BRDA RNYING YIG MGO SGAB MAÀk-FACING SVASTIhÀLEFT-FACING SVA",
      "STIhÀk-FACING SVASTIhbDOTSÀLEFT-FACING SVASTIhbDOTSÀTIBETANu LEADING ",
      "MCHAN RTAGSÍTRAILING MCHAN RTAGS"]),
    (0x1000, ["MYANMARaKAÐHAÏGAÐHAÏNGAÏCAÐHAÏJAÐHAÏNYAÐNYAÏTTAÑHAÏDDAÑHAÏNNA",
      "ÏTAÐHAÏDAÐHAÏNAÏPAÐHAÏBAÐHAÏMAÏYAÏRAÏLAÏWAÏSAÏHAÏLLAÏAÏSHAN AÏIÐIÏUÐU",
      "ÏEÏMON EÏOÏAUÈVOWELh TALL AAÓAAÓIÔIÓUÔUÓEÓAIÓMON II×OÓEiÈSIGN ANUSVAR",
      "AÍDOTmÍVISARGAÏRAMAÍASATÈCONSONANTh MEDIAL YAÞRAÞWAÞHAÈLETTER GREAT S",
      "AÈDIGIT ZEROÎONEÎTWOÏHREEÎFOURÏIVEÎSIXÏEVENÎEIGHTÎNINEÈSIGN LITTLE SE",
      "CTIONÍSECTIONÉYMBOL LOCATIVEÏCOMPLETEDÏAFOREMENTIONEDÏGENITIVE",
      "ÈLETTER SHAÐSAÏVOCALIC RØR×LØLÈVOWELh VOCALIC RÜRÛLÜLÈLETTER MON NGA",
      "ÓJHAÓBBAÕEÈCONSONANTh MON MEDIAL NAâMAâLAÈLETTER SGAW KAREN SHA",
      "ÈVOWELh SGAW KAREN EUÈTONEu SGAW KAREN HATHIÝKE PHOÈLETTER WESTERN PW",
      "O KAREN THAáPWAÈVOWELh WESTERN PWO KAREN EUåUEÈSIGN WESTERN PWO KAREN",
      " TONE-1ä2ä3ä4ä5ÈLETTER EASTERN PWO KAREN NNAáYWAáGHWAÈVOWELh GEBA KAR",
      "EN IÓKAYAH OEÙUÙEEÈLETTER SHAN KAÕHAÔGAÔCAÔZAÔNYAÔDAÔNAÔPHAÔFAÔBAÔTHA",
      "ÔHAÈCONSONANTh SHAN MEDIAL WAÈVOWELh SHAN AAØEÙiØn YÈSIGN SHAN TONE-2",
      "×3×5×6ÒCOUNCIL TONE-2ß3ÚEMPHATIC TONEÈLETTER RUMAI PALAUNG FA",
      "ÈSIGN RUMAI PALAUNG TONE-5ÉHAN DIGIT ZEROÓONEÓTWOÔHREEÓFOURÔIVEÓSIX",
      "ÔEVENÓEIGHTÓNINEÉIGN KHAMTI TONE-1Ù3ÈVOWELh AITON AÚIÈSYMBOL SHAN ONE",
      "ÔEXCLAMATIONÀGEORGIAN caANØBANØGANØDONØENØVINØZENØTANØINØKANØLASØMAN",
      "ØNARØONØPARØZHARØRAEØSANØTARØUNØPHARØKHARØGHANØQARØSHINØCHINÙANØJIL",
      "ØCILÙHARØXANØJHANØHAEÙEÙIEØWEØHARÙOE"]), (0x10C7, ["GEORGIAN caYN"]),
    (0x10CD, ["GEORGIAN caAEN"]),
    (0x10D0, ["GEORGIANaANÐBANÐGANÐDONÐENÐVINÐZENÐTANÐINÐKANÐLASÐMANÐNARÐON",
      "ÐPARÐZHARÐRAEÐSANÐTARÐUNÐPHARÐKHARÐGHANÐQARÐSHINÐCHINÑANÐJILÐCILÑHAR",
      "ÐXANÐJHANÐHAEÑEÑIEÐWEÐHARÑOEÐFIÐYNÐELIFIÐTURNED GANÐAINÉPARAGRAPH SEP",
      "ARATORÀMODIFIERaGEORGIAN NARÀGEORGIANaAENÐHARDhÐLABIALhÀHANGUL CHOSEO",
      "NG KIYEOKÐSSANGKIYEOKÐNIEUNÐTIKEUTÐSSANGTIKEUTÐRIEULÐMIEUMÐPIEUP",
      "ÐSSANGPIEUPÑIOSÑSANGSIOSÐIEUNGÐCIEUCÐSSANGCIEUCÐCHIEUCHÐKHIEUKH",
      "ÐTHIEUTHÐPHIEUPHÐHIEUHÐNIEUN-KIYEOKÐSSANGNIEUNÐNIEUN-TIKEUTÖPIEUP",
      "ÐTIKEUT-KIYEOKÐRIEUL-NIEUNÐSSANGRIEULÐRIEUL-HIEUHÐKAPYEOUNRIEUL",
      "ÐMIEUM-PIEUPÐKAPYEOUNMIEUMÐPIEUP-KIYEOKÖNIEUNÖTIKEUTÖSIOSÚ-KIYEOK",
      "ÛTIKEUTÛPIEUP×SANGSIOS×IOS-CIEUCÖCIEUC×HIEUCHÖTHIEUTHÖPHIEUPH",
      "ÐKAPYEOUNPIEUPØSSANGPIEUPÐSIOS-KIYEOKÕNIEUNÕTIKEUTÕRIEULÕMIEUMÕPIEUP",
      "Ú-KIYEOKÕSSANGSIOSÕIEUNGÕCIEUCÖHIEUCHÕKHIEUKHÕTHIEUTHÕPHIEUPHÕHIEUH",
      "ÐCHITUEUMSIOSÙSANGSIOSÑEONGCHIEUMSIOSÜSANGSIOSÐPANSIOSÐIEUNG-KIYEOK",
      "ÖTIKEUTÖMIEUMÖPIEUPÖSIOSÖPANSIOSÐSSANGIEUNGÐIEUNG-CIEUC×HIEUCH",
      "ÖTHIEUTHÖPHIEUPHÐYESIEUNGÐCIEUC-IEUNGÑHITUEUMCIEUCØSSANGCIEUC",
      "ÑEONGCHIEUMCIEUCÛSSANGCIEUCÑHIEUCH-KHIEUKHØHIEUHÓTUEUMCHIEUCH",
      "ÑEONGCHIEUMCHIEUCHÐPHIEUPH-PIEUPÐKAPYEOUNPHIEUPHÐSSANGHIEUH",
      "ÐYEORINHIEUHÐKIYEOK-TIKEUTÐNIEUN-SIOSÖCIEUCÖHIEUHÐTIKEUT-RIEULÐFILLER",
      "ÇJUNGSEONG FILLERÑAÒEÑYAÓEÑEOÒÑYEOÓÑOÑWAÓEÑOEÑYOÑUÑWEOÓÒIÑYUÑEUÑYIÑI",
      "ÑA-OÓUÑYA-OÔYOÑEO-OÔUÔEUÑYEO-OÕUÑO-EOÔÓYEÓOÓUÑYO-YAÖEÕEOÔOÔIÑU-AÔE",
      "ÓEO-EUÓYEÓUÑYU-AÔEOÕÔYEOÖÔUÔIÑEU-UÔEUÑYI-UÑI-AÓYAÓOÓUÓEUÓARAEAÑARAEA",
      "Ö-EO×U×IÑSSANGARAEAÑA-EUÑYA-UÒEO-YAÑO-YAÕEÈONGSEONG KIYEOK",
      "ÑSSANGKIYEOKÑKIYEOK-SIOSÑNIEUNÖ-CIEUC×HIEUHÑTIKEUTÑRIEULÖ-KIYEOK",
      "×MIEUM×PIEUP×SIOS×THIEUTH×PHIEUPH×HIEUHÑMIEUMÑPIEUPÖ-SIOSÑSIOS",
      "ÒSANGSIOSÑIEUNGÑCIEUCÒHIEUCHÑKHIEUKHÑTHIEUTHÑPHIEUPHÑHIEUH",
      "ÑKIYEOK-RIEULØSIOS-KIYEOKÑNIEUN-KIYEOK×TIKEUT×SIOS×PANSIOS×THIEUTH",
      "ÑTIKEUT-KIYEOKØRIEULÑRIEUL-KIYEOK-SIOS×NIEUN×TIKEUTÝ-HIEUHÑSSANGRIEUL",
      "ÑRIEUL-MIEUM-KIYEOKÝSIOS×PIEUP-SIOSÝHIEUH×KAPYEOUNPIEUP×SSANGSIOS",
      "×PANSIOS×KHIEUKH×YEORINHIEUHÑMIEUM-KIYEOK×RIEUL×PIEUP×SIOSØSANGSIOS",
      "×PANSIOS×CHIEUCH×HIEUHÑKAPYEOUNMIEUMÑPIEUP-RIEUL×PHIEUPH×HIEUH",
      "ÑKAPYEOUNPIEUPÑSIOS-KIYEOKÖTIKEUTÖRIEULÖPIEUPÑPANSIOSÑIEUNG-KIYEOK",
      "×SSANGKIYEOKÑSSANGIEUNGÑIEUNG-KHIEUKHÑYESIEUNGÙ-SIOSÚPANSIOS",
      "ÑPHIEUPH-PIEUPÑKAPYEOUNPHIEUPHÑHIEUH-NIEUN×RIEUL×MIEUM×PIEUP",
      "ÑYEORINHIEUHÑKIYEOK-NIEUNØPIEUPØCHIEUCHØKHIEUKHØHIEUHÑSSANGNIEUN",
      "ÀETHIOPIC SYLLABLE HAÓUÓIÓAAÓEEÔÓOÔAÒLAÓUÓIÓAAÓEEÔÓOÓWAÒHHAÔUÔIÔAAÔEE",
      "ÕÔOÔWAÒMAÓUÓIÓAAÓEEÔÓOÓWAÒSZAÔUÔIÔAAÔEEÕÔOÔWAÒRAÓUÓIÓAAÓEEÔÓOÓWAÒSAÓU",
      "ÓIÓAAÓEEÔÓOÓWAÓHAÔUÔIÔAAÔEEÕÔOÔWAÒQAÓUÓIÓAAÓEEÔÓOÔAÓWA"]),
    (0x124A, ["ETHIOPIC SYLLABLE QWIÔAAÔEEÕ"]),
    (0x1250, ["ETHIOPIC SYLLABLE QHAÔUÔIÔAAÔEEÕÔO"]),
    (0x1258, ["ETHIOPIC SYLLABLE QHWA"]),
    (0x125A, ["ETHIOPIC SYLLABLE QHWIÕAAÕEEÖ"]),
    (0x1260, ["ETHIOPIC SYLLABLE BAÓUÓIÓAAÓEEÔÓOÓWAÒVAÓUÓIÓAAÓEEÔÓOÓWAÒTAÓU",
      "ÓIÓAAÓEEÔÓOÓWAÒCAÓUÓIÓAAÓEEÔÓOÓWAÒXAÓUÓIÓAAÓEEÔÓOÔAÓWA"]),
    (0x128A, ["ETHIOPIC SYLLABLE XWIÔAAÔEEÕ"]),
    (0x1290, ["ETHIOPIC SYLLABLE NAÓUÓIÓAAÓEEÔÓOÓWAÓYAÔUÔIÔAAÔEEÕÔOÔWA",
      "ÒGLOTTAL AÚUÚIÚAAÚEEÛÚOÚWAÒKAÓUÓIÓAAÓEEÔÓOÔAÓWA"]),
    (0x12B2, ["ETHIOPIC SYLLABLE KWIÔAAÔEEÕ"]),
    (0x12B8, ["ETHIOPIC SYLLABLE KXAÔUÔIÔAAÔEEÕÔO"]),
    (0x12C0, ["ETHIOPIC SYLLABLE KXWA"]),
    (0x12C2, ["ETHIOPIC SYLLABLE KXWIÕAAÕEEÖ"]),
    (0x12C8, ["ETHIOPIC SYLLABLE WAÓUÓIÓAAÓEEÔÓOÔAÒPHARYNGEAL AÝUÝIÝAAÝEEÞÝO"]),
    (0x12D8, ["ETHIOPIC SYLLABLE ZAÓUÓIÓAAÓEEÔÓOÓWAÓHAÔUÔIÔAAÔEEÕÔOÔWAÒYAÓU",
      "ÓIÓAAÓEEÔÓOÔAÒDAÓUÓIÓAAÓEEÔÓOÓWAÓDAÔUÔIÔAAÔEEÕÔOÔWAÒJAÓUÓIÓAAÓEEÔÓO",
      "ÓWAÒGAÓUÓIÓAAÓEEÔÓOÔAÓWA"]), (0x1312, ["ETHIOPIC SYLLABLE GWIÔAAÔEEÕ"]),
    (0x1318, ["ETHIOPIC SYLLABLE GGAÔUÔIÔAAÔEEÕÔOÔWAAÒTHAÔUÔIÔAAÔEEÕÔOÔWA",
      "ÒCHAÔUÔIÔAAÔEEÕÔOÔWAÒPHAÔUÔIÔAAÔEEÕÔOÔWAÒTSAÔUÔIÔAAÔEEÕÔOÔWAÓZAÔUÔI",
      "ÔAAÔEEÕÔOÕAÒFAÓUÓIÓAAÓEEÔÓOÓWAÒPAÓUÓIÓAAÓEEÔÓOÓWAÒRYAÒMYAÒFYA"]),
    (0x135D, ["ETHIOPIC COMBINING GEMINATIONgVOWEL LENGTHuÓVOWEL LENGTHu",
      "ÓGEMINATIONuÉSECTIONuÉWORDSPACEÉFULL STOPÉCOMMAÉSEMICOLONÉCOLON",
      "ÉPREFACE COLONÉQUESTIONuÉPARAGRAPH SEPARATORÉDIGIT ONEÏTWOÐHREEÏFOUR",
      "ÐIVEÏSIXÐEVENÏEIGHTÏNINEÉNUMBER TENÑWENTYÑHIRTYÐFORTYÑIFTYÐSIXTY",
      "ÑEVENTYÐEIGHTYÐNINETYÐHUNDREDÐTEN THOUSAND"]),
    (0x1380, ["ETHIOPIC SYLLABLE SEBATBEIT MWAÒMWIÔEEÕÒSEBATBEIT BWAÒBWIÔEEÕ",
      "ÒSEBATBEIT FWAÒFWIÔEEÕÒSEBATBEIT PWAÒPWIÔEEÕÉTONALu YIZETÔDERET",
      "ÔRIKRIKÔSHORT RIKRIKÔDIFATÔKENATÔCHIRETÔHIDETÔDERET-HIDETÔKURT"]),
    (0x13A0, ["CHEROKEEaAÐEÐIÐOÐUÐVÐGAÐKAÐGEÑIÑOÑUÑVÐHAÑEÑIÑOÑUÑVÐLAÑEÑIÑOÑU",
      "ÑVÐMAÑEÑIÑOÑUÐNAÐHNAÐNAHÑEÑIÑOÑUÑVÐQUAÒEÒIÒOÒUÒVÐSAÑÑEÑIÑOÑUÑVÐDAÐTA",
      "ÐDEÐTEÐDIÐTIÐDOÑUÑVÑLAÐTLAÒEÒIÒOÒUÒVÑSAÒEÒIÒOÒUÒVÐWAÑEÑIÑOÑUÑVÐYAÑEÑI",
      "ÑOÑUÑVÐMV"]), (0x13F8, ["CHEROKEE daYE×I×O×U×VÖMV"]),
    (0x1400, ["CANADIAN SYLLABICS HYPHENÓEÓAAIÓIÔIÓOÔOÓY-CREE OOÓCARRIER EE",
      "ÛIÓAÔAÓWEÕST-CREE WEÔIÔEST-CREE WIÔIIÔEST-CREE WIIÔOÔEST-CREE WOÔOO",
      "ÔEST-CREE WOOÓNASKAPI WOOÓWAÔEST-CREE WAÔAAÔEST-CREE WAAÓNASKAPI WAA",
      "ÓAIÓY-CREE WÓGLOTTAL STOPÓn ACUTEÙGRAVEÙBOTTOM HALF RINGÙTOP HALF RIN",
      "GÙk HALF RINGÛNGÙl ACUTEàSHORT p vSÙyDOTÙSHORT w vÙPLUSÙDOWN TACKÓEN",
      "ÓINÓONÓANÓPEÔAAIÔIÕIÔOÕOÓY-CREE POOÓCARRIER HEEÜIÓPAÕAÔWEÓWEST-CREE P",
      "WEÓPWIÓWEST-CREE PWIÓPWIIÓWEST-CREE PWIIÓPWOÓWEST-CREE PWOÓPWOO",
      "ÓWEST-CREE PWOOÓPWAÓWEST-CREE PWAÓPWAAÓWEST-CREE PWAAÓY-CREE PWAAÓP",
      "ÓWEST-CREE PÓCARRIER HÓTEÔAAIÔIÕIÔOÕOÓY-CREE TOOÓCARRIER DEEÜIÓTAÕA",
      "ÔWEÓWEST-CREE TWEÓTWIÓWEST-CREE TWIÓTWIIÓWEST-CREE TWIIÓTWO",
      "ÓWEST-CREE TWOÓTWOOÓWEST-CREE TWOOÓTWAÓWEST-CREE TWAÓTWAAÓWEST-CREE T",
      "WAAÓNASKAPI TWAAÓTÔTEÕIÕOÕAÓKEÔAAIÔIÕIÔOÕOÓY-CREE KOOÓKAÕAÔWE",
      "ÓWEST-CREE KWEÓKWIÓWEST-CREE KWIÓKWIIÓWEST-CREE KWIIÓKWOÓWEST-CREE KW",
      "OÓKWOOÓWEST-CREE KWOOÓKWAÓWEST-CREE KWAÓKWAAÓWEST-CREE KWAA",
      "ÓNASKAPI KWAAÓKÔWÓSOUTH-SLAVEY KEHáIHáOHáAHÓCEÔAAIÔIÕIÔOÕOÓY-CREE COO",
      "ÓCAÕAÔWEÓWEST-CREE CWEÓCWIÓWEST-CREE CWIÓCWIIÓWEST-CREE CWIIÓCWO",
      "ÓWEST-CREE CWOÓCWOOÓWEST-CREE CWOOÓCWAÓWEST-CREE CWAÓCWAAÓWEST-CREE C",
      "WAAÓNASKAPI CWAAÓCÓSAYISI THÓMEÔAAIÔIÕIÔOÕOÓY-CREE MOOÓMAÕAÔWE",
      "ÓWEST-CREE MWEÓMWIÓWEST-CREE MWIÓMWIIÓWEST-CREE MWIIÓMWOÓWEST-CREE MW",
      "OÓMWOOÓWEST-CREE MWOOÓMWAÓWEST-CREE MWAÓMWAAÓWEST-CREE MWAA",
      "ÓNASKAPI MWAAÓMÓWEST-CREE MÓMHÓATHAPASCAN MÓSAYISI MÓNEÔAAIÔIÕIÔOÕO",
      "ÓY-CREE NOOÓNAÕAÔWEÓWEST-CREE NWEÓNWAÓWEST-CREE NWAÓNWAAÓWEST-CREE NW",
      "AAÓNASKAPI NWAAÔÓCARRIER NGÓNHÓLEÔAAIÔIÕIÔOÕOÓY-CREE LOOÓLAÕAÔWE",
      "ÓWEST-CREE LWEÓLWIÓWEST-CREE LWIÓLWIIÓWEST-CREE LWIIÓLWOÓWEST-CREE LW",
      "OÓLWOOÓWEST-CREE LWOOÓLWAÓWEST-CREE LWAÓLWAAÓWEST-CREE LWAAÓL",
      "ÓWEST-CREE LÓMEDIAL LÓSEÔAAIÔIÕIÔOÕOÓY-CREE SOOÓSAÕAÔWEÓWEST-CREE SWE",
      "ÓSWIÓWEST-CREE SWIÓSWIIÓWEST-CREE SWIIÓSWOÓWEST-CREE SWOÓSWOO",
      "ÓWEST-CREE SWOOÓSWAÓWEST-CREE SWAÓSWAAÓWEST-CREE SWAAÓNASKAPI SWAAÓS",
      "ÓATHAPASCAN SÓSWÓxFOOT SÓMOOSE-CREE SKÓNASKAPI SKWÜ-WÜPWAÜTWAÜKWAÜCWA",
      "ÓSHEÕIÖIÕOÖOÕAÖAÕWEÓWEST-CREE SHWEÓSHWIÓWEST-CREE SHWIÓSHWII",
      "ÓWEST-CREE SHWIIÓSHWOÓWEST-CREE SHWOÓSHWOOÓWEST-CREE SHWOOÓSHWA",
      "ÓWEST-CREE SHWAÓSHWAAÓWEST-CREE SHWAAÓSHÓYEÔAAIÔIÕIÔOÕOÔ-CREE YOOÔAÕA",
      "ÔWEÓWEST-CREE YWEÓYWIÓWEST-CREE YWIÓYWIIÓWEST-CREE YWIIÓYWO",
      "ÓWEST-CREE YWOÓYWOOÓWEST-CREE YWOOÓYWAÓWEST-CREE YWAÓYWAAÓWEST-CREE Y",
      "WAAÓNASKAPI YWAAÓYÓBIBLE-CREE YÓWEST-CREE YÓSAYISI YIÓREÔ-CREE RE",
      "ÓWEST-CREE LEÓRAAIÔIÕIÔOÕOÓWEST-CREE LOÓRAÕAÓWEST-CREE LAÓRWAA",
      "ÓWEST-CREE RWAAÓRÓWEST-CREE RÓMEDIAL RÓFEÔAAIÔIÕIÔOÕOÔAÕAÔWAA",
      "ÓWEST-CREE FWAAÓFÓTHEÓN-CREE THEÓTHIÓN-CREE THIÓTHIIÓN-CREE THIIÓTHO",
      "ÖOÕAÖAÕWAAÓWEST-CREE THWAAÓTHÔTHEÖIÖOÖAÖÔYEÕIÕOÕAÓNUNAVIK HEÜIÝIÜOÝO",
      "ÜAÝAÜØUT HÓHKÓQAAIÔIÕIÔOÕOÔAÕAÔÓTLHEÖIÖOÖAÓWEST-CREE REÞIÞOÞAÓNGAAIÕI",
      "ÖIÕOÖOÕAÖAÕÔNGÓSAYISI SHEÜIÜOÜAÓWOODS-CREE THEàIàOàAàÓLHIÖIÕOÖOÕAÖAÕ",
      "ÓTH-CREE THEÝIÞIÝOÞOÝAÞAÝÓAIVILIK BÓxFOOT EÝIÝOÝAÝWEÞIÞOÞAÝNEÞIÞOÞA",
      "ÝKEÞIÞOÞAÓSAYISI HEÛIÛOÛAÓCARRIER GHUÝOÝEÞEÝIÝAÛRUÜOÜEÝEÜIÜAÛWUÜOÜEÝE",
      "ÜIÜAÛHWUÝOÝEÞEÝIÝAÛTHUÝOÝEÞEÝIÝAÜTUÝOÝEÞEÝIÝAÛPUÜOÜEÝEÜIÜAÜÛGUÜOÜEÝE",
      "ÜIÜAÛKHUÝOÝEÞEÝIÝAÜKUÝOÝEÞEÝIÝAÝÛNUÜOÜEÝEÜIÜAÛMUÜOÜEÝEÜIÜAÛYUÜOÜEÝEÜI",
      "ÜAÛJUÓSAYISI JUÓCARRIER JOÜEÝEÜIÓSAYISI JIÓCARRIER JAÜJUÝOÝEÞEÝIÝAÛLU",
      "ÜOÜEÝEÜIÜAÛDLUÝOÝEÞEÝIÝAÛLHUÝOÝEÞEÝIÝAÛTLHUÞOÞEßEÞIÞAÝUÝOÝEÞEÝIÝAÛZU",
      "ÜOÜEÝEÜIÜAÜÛr ZÛDZUÝOÝEÞEÝIÝAÛSUÜOÜEÝEÜIÜAÜHUÝOÝEÞEÝIÝAÝÛTSUÝOÝEÞEÝI",
      "ÝAÛCHUÝOÝEÞEÝIÝAÛTTSUÞOÞEßEÞIÞAÔHIhÓFULL STOPÓQAIÓNGAIÔNGI×IÖO×OÖA×A",
      "ÓWOODS-CREE THWEEáIâIáOâOáAâAÞn THÓxFOOT WÀOGHAM SPACEuÆLETTER BEITH",
      "ÍLUISÍFEARNÍSAILÍNIONÍUATHÍDAIRÍTINNEÍCOLLÎEIRTÍMUINÍGORTÍNGEADAL",
      "ÍSTRAIFÍRUISÍAILMÍONNÍURÍEADHADHÍIODHADHÍEABHADHÍORÍUILLEANNÍIFIN",
      "ÍEAMHANCHOLLÍPEITHÆFEATHERuÆREVERSED FEATHERu"]),
    (0x16A0, ["RUNICaFEHU FEOH FE FÍVÍURUZ UR UÍYRÎÍWÍTHURISAZ THURS THORN",
      "ÍETHÍANSUZ AÍOS OÍAC AÎESCÍLONG-BRANCH-OSS OÍSHORT-TWIG-OSS OÍOÎEÎN",
      "ÍRAIDO RAD REID RÍKAUNAÍCENÍKAUN KÍGÍENGÍGEBO GYFU GÎARÍWUNJO WYNN W",
      "ÍHAGLAZ HÏEGL HÍLONG-BRANCH-HAGALL HÍSHORT-TWIG-HAGALL HÍNAUDIZ NYD N",
      "AUD NÍSHORT-TWIG-NAUD NÍDOTTED-NÍISAZ IS ISS IÍEÍJERAN JÍGER",
      "ÍLONG-BRANCH-AR AEÍSHORT-TWIG-AR AÍIWAZ EOHÍPERTHO PEORTH P",
      "ÍALGIZ EOLHXÍSOWILO SÎIGEL LONG-BRANCH-SOL SÎHORT-TWIG-SOL SÍCÍZ",
      "ÍTIWAZ TIR TYR TÍSHORT-TWIG-TYR TÍDÍBERKANAN BEORC BJARKAN B",
      "ÍSHORT-TWIG-BJARKAN BÍDOTTED-PÍOPEN-PÍEHWAZ EH EÍMANNAZ MAN M",
      "ÍLONG-BRANCH-MADR MÍSHORT-TWIG-MADR MÍLAUKAZ LAGU LOGR LÍDOTTED-L",
      "ÍINGWAZÐÍDAGAZ DAEG DÍOTHALAN ETHEL OÍEARÍIORÍCWEORTHÎALCÎEALCÍSTAN",
      "ÍLONG-BRANCH-YRÍSHORT-TWIG-YRÍICELANDIC-YRÍQÍXÆSINGLE PUNCTUATION",
      "ÆMULTIPLE PUNCTUATIONÆCROSS PUNCTUATIONÆARLAUGqÆTVIMADURqÆBELGTHORq",
      "ÆLETTER KÍSHÍOOÍFRANKS CASKET OSÛISÛEHÛACÜESC"]),
    (0x1700, ["TAGALOGaAÏIÏUÏKAÏGAÏNGAÏTAÏDAÏNAÏPAÏBAÏMAÏYAÏRAÏLAÏWAÏSAÏHA",
      "ÈVOWELh IÓUÈSIGN VIRAMAÍPAMUDPOD"]),
    (0x171F, ["TAGALOGaARCHAIC RAÀHANUNOOaAÏIÏUÏKAÏGAÏNGAÏTAÏDAÏNAÏPAÏBAÏMA",
      "ÏYAÏRAÏLAÏWAÏSAÏHAÈVOWELh IÓUÈSIGN PAMUDPODÀPHILIPPINE SINGLE PUNCTUA",
      "TIONËl PUNCTUATION"]),
    (0x1740, ["BUHIDaAÍIÍUÍKAÍGAÍNGAÍTAÍDAÍNAÍPAÍBAÍMAÍYAÍRAÍLAÍWAÍSAÍHA",
      "ÆVOWELh IÑU"]),
    (0x1760, ["TAGBANWAaAÐIÐUÐKAÐGAÐNGAÐTAÐDAÐNAÐPAÐBAÐMAÐYA"]),
    (0x176E, ["TAGBANWAaLAÐWAÐSA"]), (0x1772, ["TAGBANWA VOWELh IÔU"]),
    (0x1780, ["KHMERaKAÎHAÎOÎHOÍNGOÍCAÎHAÎOÎHOÍNYOÍDAÍTTHAÍDOÍTTHOÍNNOÍTAÎHA",
      "ÎOÎHOÍNOÍBAÍPHAÎOÎHOÍMOÍYOÍROÍLOÍVOÍSHAÎSOÎAÍHAÍLAÍQAÆINDEPENDENT VOW",
      "EL QAQÚAÙIÚIÙUÚKÚUÛVØRYÚYØLYÚYØQEÙAIÙOO TYPE ONEáTWOÙAUÆVOWEL INHEREN",
      "T AQÖAÌSIGN AAÑIÒIÑYÒYÑUÒUÒAÑOEÑYAÑIEÑEÑAEÒIÑOOÑAUÆSIGN NIKAHIT",
      "ËREAHMUKËYUUKALEAPINTUËMUUSIKATOANËTRIISAPËBANTOCËROBATËTOANDAKHIAT",
      "ËKAKABATËAHSDAËSAMYOK SANNYAËVIRIAMËCOENGËBATHAMASATËKHANËBARIYOOSAN",
      "ËCAMNUC PII KUUHËLEK TOOËBEYYALËPHNAEK MUANËKOOMUUTÆCURRENCYq RIEL",
      "ÆSIGN AVAKRAHASANYAÌTTHACAN"]),
    (0x17E0, ["KHMER DIGIT ZEROÌONEÌTWOÍHREEÌFOURÍIVEÌSIXÍEVENÌEIGHTÌNINE"]),
    (0x17F0, ["KHMERq LEK ATTAK SON×MUOY×PII×BEIØUON×PRAMÛ-MUOYÜPIIÜBEIÝUON"]),
    (0x1800, ["MONGOLIAN BIRGAÊELLIPSISÊCOMMAÊFULL STOPÊCOLONÊFOUR DOTS",
      "ÊTODO SOFT HYPHENÊSIBE SYLLABLE BOUNDARYuERÊMANCHU COMMAÑFULL STOP",
      "ÊNIRUGUÊFREE VARIATION SELECTOR ONEâTWOãHREEÊVOWEL SEPARATOR",
      "ÊFREE VARIATION SELECTOR FOURÊDIGIT ZEROÐONEÐTWOÑHREEÐFOURÑIVEÐSIX",
      "ÑEVENÐEIGHTÐNINE"]),
    (0x1820, ["MONGOLIANaAÑEÑIÑOÑUÑOEÑUEÑEEÑNAÑANGÑBAÑPAÑQAÑGAÑMAÑLAÑSAÒHA",
      "ÑTAÑDAÑCHAÑJAÑYAÑRAÑWAÑFAÑKAÒHAÑTSAÑZAÑHAAÑZRAÑLHAÑZHIÑCHI",
      "ÑTODO LONG VOWELhÖEÖIÖOÖUÖOEÖUEÖANGÖBAÖPAÖQAÖGAÖMAÖTAÖDAÖCHAÖJAÖTSA",
      "ÖYAÖWAÖKAÖGAAÖHAAÖJIAÖNIAÖDZAÑSIBE EÖI×YÖUE×ÖANGÖKAÖGAÖHAÖPAÖSHAÖTA",
      "ÖDAÖJAÖFAÖGAAÖHAAÖTSAÖZAÖRAAÖCHAÖZHAÑMANCHU IØKAØRAØFAØZHA",
      "ÑCHAbTWO DOTS"]),
    (0x1880, ["MONGOLIANaALI GALI ANUSVARA ONEÚVISARGA ONEÚDAMARUÚUBADAMA",
      "ÚINVERTED UBADAMAÚBALUDAÚTHREE BALUDAÚAÚIÚKAÚNGAÚCAÚTTAÜHAÚDDAÚNNAÚTA",
      "ÚDAÚPAÛHAÚSSAÚZHAÛAÚAHÑTODO ALI GALI TAßZHAÑMANCHU ALI GALI GHAáNGA",
      "áCAáJHAáTTAáDDHAáTAáDHAáSSAáCYAáZHAâAÑALI GALI HALF UßYAÑMANCHU ALI G",
      "ALI BHAÑALI GALI DAGALGAÑMANCHU ALI GALI LHA"]),
    (0x18B0, ["CANADIAN SYLLABICS OYÓAYÔAYÓWAYÓPOYÔAYÔWOYÓTAYÓKAYÔWAYÓMAY",
      "ÓNOYÔAYÓLAYÓSOYÔAYÔHOYÕAYÕWOYÓYOYÔAYÓRAYÓNWIÓOJIBWAY NWIÓNWII",
      "ÓOJIBWAY NWIIÓNWOÓOJIBWAY NWOÓNWOOÓOJIBWAY NWOOÓRWEEÕIÖIÕOÖOÕA",
      "ÓOJIBWAY PÛTÛKÛCÛMÛNÛSÜHÓEASTERN WÓWESTERN WÓn d RINGÙRAISED DOT",
      "ÓR-CREE RWEÓWEST-CREE LOOÞAAÓTHWEÖAÔTHWEÖOOÖAAÔLHWEÖOOÓSAYISI SHWEÜOO",
      "ÚHOOÓCARRIER GWUÛDENE GEEÛGAAÜWAÓSAYISI JUUÓCARRIER JWAÓBEAVER DENE L",
      "ßRÓCARRIER DENTAL S"]),
    (0x1900, ["LIMBU VOWEL-CARRIER LETTERÆLETTER KAÎHAÍGAÎHAÍNGAÍCAÎHAÍJAÎHA",
      "ÍYANÍTAÎHAÍDAÎHAÍNAÍPAÎHAÍBAÎHAÍMAÍYAÍRAÍLAÍWAÍSHAÎSAÎAÍHAÍGYANÍTRA"]),
    (0x1920, ["LIMBU VOWELh AÑIÑUÑEEÑAIÑOOÑAUÑEÑOÆSUBJOINEDaYA×RA×WA"]),
    (0x1930, ["LIMBU daKAÓNGAÓANUSVARAÓTAÓNAÓPAÓMAÓRAÓLAÇIGN MUKPHRENG",
      "ËKEMPHRENGËSA-I"]), (0x1940, ["LIMBUh LOO"]),
    (0x1944, ["LIMBU EXCLAMATIONuÆQUESTIONuÆDIGIT ZEROÌONEÌTWOÍHREEÌFOURÍIVE",
      "ÌSIXÍEVENÌEIGHTÌNINEÀTAI LEaKAÎXAÎNGAÎTSAÎSAÎYAÎTAÏHAÎLAÎPAÏHAÎMAÎFA",
      "ÎVAÎHAÎQAÎKHAÎTSHAÎNAÎAÎIÎEEÏHÎUÎOOÏÎUEÎEÎAUEÏI"]),
    (0x1970, ["TAI LEaTONE-2Ó3Ó4Ó5Ó6"]),
    (0x1980, ["NEW TAI LUEaHIGH QAÓLOW QAÓHIGH KAØXAØNGAÓLOW KA×XA×NGA",
      "ÓHIGH TSAØSAØYAÓLOW TSA×SA×YAÓHIGH TAÙHAØNAÓLOW TAØHA×NAÓHIGH PAÙHA",
      "ØMAÓLOW PAØHA×MAÓHIGH FAØVAØLAÓLOW FA×VA×LAÓHIGH HAØDAØBAÓLOW HA×DA",
      "×BAÓHIGH KVAØXVAÓLOW KVA×XVAÓHIGH SUAÓLOW SUA"]),
    (0x19B0, ["NEW TAI LUE VOWELh VOWEL SHORTENER×AA×II×UØU×E×AE×OØA×UE×AY",
      "ØAY×UY×OYØAY×UEY×IYÌLETTER n VÙNGÚÙMÙKÙDÙBÌTONEu-1Ö2"]),
    (0x19D0, ["NEW TAI LUE DIGIT ZEROÒONEÒTWOÓHREEÒFOURÓIVEÒSIXÓEVENÒEIGHT",
      "ÒNINEÌTHAM DIGIT ONE"]),
    (0x19DE, ["NEW TAI LUEh LAEÔVÀKHMERq PATHAMASATÍMUOY KOETÍPII KOET",
      "ÍBEI KOETÎUON KOETÍPRAM KOETÑ-MUOY KOETÒPII KOETÒBEI KOETÓUON KOET",
      "ÍDAP KOETÐ-MUOY KOETÑPII KOETÑBEI KOETÒUON KOETÑPRAM KOETÍTUTEYASAT",
      "ÍMUOY ROCÍPII ROCÍBEI ROCÎUON ROCÍPRAM ROCÑ-MUOY ROCÒPII ROCÒBEI ROC",
      "ÓUON ROCÍDAP ROCÐ-MUOY ROCÑPII ROCÑBEI ROCÒUON ROCÑPRAM ROC",
      "ÀBUGINESEaKAÐGAÐNGAÒKAÐPAÐBAÐMAÑPAÐTAÐDAÐNAÑRAÐCAÐJAÐNYAÒCAÐYAÐRAÐLA",
      "ÐVAÐSAÐAÐHAÉVOWELh IÔUÔEÔOÔAE"]),
    (0x1A1E, ["BUGINESE PALLAWAÉEND OF SECTIONÀTAI THAMaHIGH KAÖHAÖXAÐLOW KA",
      "ÕXAÕHAÐNGAÐHIGH CAÖHAÐLOW CAÔSAÔCHAÐNYAÐRATAÐHIGH RATHAÐDAÐLOW RATHA",
      "ÐRANAÐHIGH TAÖHAÐLOW TAÕHAÐNAÐBAÐHIGH PAÖHAÕFAÐLOW PAÔFAÔPHAÐMA",
      "ÐLOW YAÐHIGH YAÐRAÑUEÐLAÑUEÐWAÐHIGH SHAÖSAÖAÕHAÐLLAÐAÐLOW HAÐIÑIÐUÑU",
      "ÐEEÐOOÐLAEÐGREAT SAÉCONSONANTh MEDIAL RAßLAØLA TANG LAIÉSIGN MAI KANG",
      " LAIÉCONSONANTh n NGAØLOW PAØHIGH RATHA OR LOW PAØMAØBAØSA"]),
    (0x1A60, ["TAI THAMh SAKOTÉVOWELh AÔMAI SATÔAAÔTALL AAÔIÕIÔUEÕUEÕÕUÔOÕAm",
      "ÕYÔEÔAEÔOOÔAIÔTHAM AIÔOAiÉSIGN MAI KANGÎTONE-1Ó2ÎKHUEN TONE-3Ù4Ù5",
      "ÎRA HAAMÎMAI SAMÎKHUEN-LUE KARAN"]),
    (0x1A7F, ["TAI THAM COMBINING CRYPTOGRAMMIC DOTÉHORA DIGIT ZEROÔONEÔTWO",
      "ÕHREEÔFOURÕIVEÔSIXÕEVENÔEIGHTÔNINE"]),
    (0x1A90, ["TAI THAM THAM DIGIT ZEROÔONEÔTWOÕHREEÔFOURÕIVEÔSIXÕEVENÔEIGHT",
      "ÔNINE"]),
    (0x1AA0, ["TAI THAMh WIANGÓWAAKÎSAWANÎKEOWÎHOYÎDOKMAIÎREVERSED ROTATED R",
      "ANAÎMAI YAMOKÎKAANÒKUUÎSATKAANÕKUUÎHANGÎCAANG"]),
    (0x1AB0, ["COMBINING lD CIRCUMFLEX ACCENTËIAERESIS-RINGÊINFINITY",
      "ÊDOWNWARDSfÊTRIPLE DOTÊX-XmÊWIGGLY LINEmÊOPENumÊl OPENumÊLIGHT CENTRA",
      "LIZATION vmÊSTRONG CENTRALIZATION vmÊPARENTHESESiÊl PARENTHESESi",
      "ÊPARENTHESESmÖOVERLAYÊLATIN daWmÝTURNED WmËEFT PARENTHESISi LEFT",
      "Êk PARENTHESISi kÊoPARENTHESISm LEFTÊk PARENTHESISm kÊSQUARE BRACKETS",
      "iÊNUMBERhiÊINVERTED l ARCHiÊPLUShiÊl PLUShiÛBELOWÊTRIPLE ACUTE ACCENT",
      "ÊLATIN daINSULAR GåRåT"]),
    (0x1B00, ["BALINESEh ULU RICEMÒCANDRAÎCECEKÎSURANGÎBISAHÉLETTER AKARA",
      "Õ TEDUNGÐIKARAÕ TEDUNGÐUKARAÕ TEDUNGÐRA REPA× TEDUNGÐLA LENGAØ TEDUNG",
      "ÐEKARAÐAIKARAÐOKARAÕ TEDUNGÐKAÒ MAHAPRANAÐGAÒ GORAÐNGAÐCAÒ LACAÐJA",
      "Ò JERAÐNYAÐTA LATIKÓMURDA MAHAPRANAÐDA MURDA ALPAPRANAÙMAHAPRANA",
      "ÐNA RAMBATÐTAÒ TAWAÐDAÒ MADUÐNAÐPAÒ KAPALÐBAÒ KEMBANGÐMAÐYAÐRAÐLAÐWA",
      "ÐSA SAGAÕPAÒÐHAÉSIGN REREKANÉVOWELh TEDUNGÔULU× SARIÔSUKUØ ILUT",
      "ÔRA REPAÛ TEDUNGÔLA LENGAÜ TEDUNGÔTALINGÚ REPAÛTEDUNGÛREPA TEDUNG",
      "ÔPEPETÙ TEDUNGÉADEG ADEGÉLETTER KAF SASAKÑHOT SASAKÐTZIR SASAK",
      "ÐEF SASAKÐVE SASAKÐZAL SASAKÐASYURA SASAKÑRCHAIC JNYA"]),
    (0x1B50, ["BALINESE DIGIT ZEROÏONEÏTWOÐHREEÏFOURÐIVEÏSIXÐEVENÏEIGHTÏNINE",
      "ÉPANTIËMADAÉWINDUÉCARIK PAMUNGKAHÏSIKIÏPARERENÉPAMENENGÉMUSICALq DONG",
      "ÙENGÙUNGÙANGÜ SURANGÙINGÙAENGÙEUNGÙAINGÚNG GEDEØCOMBINING TEGEHâENDEP",
      "âKEMPULæLIâJEGOGANâKEMPULbJEGOGANæLIbJEGOGANâBENDEâGONGØk-HAND OPEN D",
      "UGéAGãCLOSED TUKëAKØLEFT-HAND OPEN PANGèUNGâCLOSED PLAKëUKâOPEN PING",
      "ÉPANTI LANTANGËMADA LANTANG"]),
    (0x1B80, ["SUNDANESEh PANYECEKÒGLAYARÓWISADÊLETTER AÑIÑUÑAEÑOÑEÒUÑKAÑQA",
      "ÑGAÑNGAÑCAÑJAÑZAÑNYAÑTAÑDAÑNAÑPAÑFAÑVAÑBAÑMAÑYAÑRAÑLAÑWAÑSAÑXAÑHA",
      "ÊCONSONANTh PAMINGKALÛNYAKRAÝIKUÊVOWELh PANGHULUØYUKUØAELAENGØOLONG",
      "×MEPET×NEULEUNGÊSIGN PAMAAEHÏVIRAMAÊCONSONANTh PASANGAN MAâWA",
      "ÊLETTER KHAÑSYAÊDIGIT ZEROÐONEÐTWOÑHREEÐFOURÑIVEÐSIXÑEVENÐEIGHTÐNINE",
      "ÊAVAGRAHAÊLETTER REUÑLEUÑBHAÑn K×MÀBATAKaAÍSIMALUNGUN AÍHA",
      "ÍSIMALUNGUN HAÍMANDAILING HAÍBAÍKARO BAÍPAÍSIMALUNGUN PAÍNA",
      "ÍMANDAILING NAÍWAÍSIMALUNGUN WAÍPAKPAK WAÍGAÍSIMALUNGUN GAÍJAÍDAÍRA",
      "ÍSIMALUNGUN RAÍMAÍSIMALUNGUN MAÎOUTHERN TAÍNORTHERN TAÍSAÎIMALUNGUN S",
      "AÍMANDAILING SAÍYAÍSIMALUNGUN YAÍNGAÍLAÍSIMALUNGUN LAÍNYAÍCAÍNDAÍMBA",
      "ÍIÍUÆSIGN TOMPIÆVOWELh EÑPAKPAK EÑEEÑIÑKARO IÑOÑKARO OÑUÒ FOR SIMALUN",
      "GUN SAÆCONSONANTh NGÕHÆPANGOLATÉONGONAN"]),
    (0x1BFC, ["BATAKq BINDU NA METEKÓPINARBORASÓJUDULÓPANGOLATÀLEPCHAaKAÏLA",
      "ÏHAÎGAÏLAÎNGAÎCAÏHAÎJAÎNYAÎTAÏHAÎDAÎNAÎPAÏLAÏHAÎFAÏLAÎBAÏLAÎMAÏLAÎTSA",
      "ÐHAÎDZAÎYAÎRAÎLAÎHAÏLAÎVAÎSAÏHAÎWAÎAÇSUBJOINEDaYAØRAÇVOWELh AAÒIÒOÓO",
      "ÒUÓUÒEÇCONSONANTh KÖMÖLÖNÖPÖRÖTÖNYIN-DOÖKANGÇSIGN RANÌNUKTA"]),
    (0x1C3B, ["LEPCHA PUNCTUATION TA-ROLÓNYET THYOOM TA-ROLÓCER-WA",
      "ÓTSHOOK CER-WAÙÇDIGIT ZEROÍONEÍTWOÎHREEÍFOURÎIVEÍSIXÎEVENÍEIGHTÍNINE"]),
    (0x1C4D, ["LEPCHAaTTAÐHAÎDDAÀOL CHIKI DIGIT ZEROÏONEÏTWOÐHREEÏFOURÐIVE",
      "ÏSIXÐEVENÏEIGHTÏNINEÉLETTER LAÐATÑGÑNGÑLÐLAAÐAAKÒJÒMÒWÐLIÐISÑHÑNYÑR",
      "ÐLUÐUCÑDÑNNÑYÐLEÐEPÑDDÑNÑRRÐLOÐOTTÑBÑVÑHÉMU TTUDDAGÉGAAHLAA TTUDDAAG",
      "ÉMU-GAAHLAA TTUDDAAGÉRELAAÉPHAARKAAÉAHADÉPUNCTUATION MUCAADÕl MUCAAD",
      "ÀCYRILLIC daROUNDED VEÖLONG-LEGGED DEÖNARROW OÖWIDE ESÖTALL TE",
      "×HREE-LEGGED TE×ALL HARDhÛYATÖUNBLENDED UK"]),
    (0x1C90, ["GEORGIAN MTAVRULI caANáBANáGANáDONáENáVINáZENáTANáINáKANáLAS",
      "áMANáNARáONáPARáZHARáRAEáSANáTARáUNáPHARáKHARáGHANáQARáSHINáCHINâAN",
      "áJILáCILâHARáXANáJHANáHAEâEâIEáWEáHARâOEáFIáYNáELIFIáTURNED GANáAIN"]),
    (0x1CBD, ["GEORGIAN MTAVRULI caAENáHARDháLABIALhÀSUNDANESE PUNCTUATION B",
      "INDU SURYAÜPANGLONGÝURNAMAÜCAKRAÜLEU SATANGAÜKA SATANGAÜDA SATANGA",
      "ÜBA SATANGA"]),
    (0x1CD0, ["VEDIC TONE KARSHANAËSHARAËPRENKHAÆSIGN NIHSHVASAËYAJURVEDIC M",
      "IDLINE SVARITAÆTONE YAJURVEDIC AGGRAVATED INDEPENDENT SVARITA",
      "ÖINDEPENDENT SVARITAÖKATHAKA INDEPENDENT SVARITAËCANDRAmËYAJURVEDIC K",
      "ATHAKA INDEPENDENT SVARITA SCHROEDERËl SVARITAËTRIPLE SVARITA",
      "ËKATHAKA ANUDATTAËDOTmËTWO DOTSmÌHREE DOTSmËRIGVEDIC KASHMIRI INDEPEN",
      "DENT SVARITAËATHARVAVEDIC INDEPENDENT SVARITAÆSIGN VISARGA SVARITA",
      "ÓUDATTAËREVERSED VISARGA UDATTAËVISARGA ANUDATTAËREVERSED VISARGA ANU",
      "DATTAËVISARGA UDATTAbTAILÓANUDATTAbTAILËANUSVARA ANTARGOMUKHA",
      "ÔBAHIRGOMUKHAÔVAMAGOMUKHAßbTAILËTIRYAKËHEXIFORM LONG ANUSVARA",
      "ËLONG ANUSVARAËRTHANG LONG ANUSVARAËANUSVARA UBHAYATO MUKHA",
      "ÌRDHAVISARGAËROTATED ARDHAVISARGAÆTONE CANDRAiÆSIGN JIHVAMULIYA",
      "ËUPADHMANIYAËATIKRAMAÆTONE RINGiËl RINGiÆSIGN l ANUSVARA ANTARGOMUKHA"]),
    (0x1D00, ["LATINad c AÜEÆdaTURNED AEÆLETTER d c BARRED BÛCÛDÛETHÜ",
      "ÆdaTURNED OPEN EÚIÆLETTER d c JÛKÛLbvÛMÛREVERSED NÛOÜPEN O",
      "ÆdaSIDEWAYS OÝPEN OÝbvÓTURNED OEÆLETTER d c OUÆdaTOP HALF O",
      "ÓBOTTOM HALF OÆLETTER d c PÛREVERSED RÛTURNED RÜÛUÆdaSIDEWAYS U",
      "ÜDIAERESIZED UÜTURNED MÆLETTER d c VÛWÛZÛEZHÍVOICED LARYNGEAL SPIRANT",
      "ÍAINÀGREEKad c GAMMAÛLAMDAÛPIÛRHOÛPSIÀCYRILLICad c ELÀMODIFIERac AÙE",
      "ØBÙARRED BØDØEØREVERSED EØGØHØIØJØKØLØMØNØREVERSED NØOÙUØPØRØTØUØW",
      "Ðd AÖTURNED AÖALPHAÖTURNED AEÖBÖDÖEÖSCHWAÖOPEN EÖTURNED OPEN EÖG",
      "ÖTURNED IÖKÖMÖENGÖO×PEN OÖTOP HALF OÖBOTTOM HALF OÖPÖTÖUÖSIDEWAYS U",
      "ÖTURNED MÖVÖAINÖBETAÖGREEK GAMMAÖDELTAÖGREEK PHIÖCHIÀLATIN SUBSCRIPT ",
      "daIÝRÝUÝVÀGREEK SUBSCRIPT daBETAÝGAMMAÝRHOÝPHIÝCHIÀLATIN daUE",
      "ÓBbyTILDEÓDbyTILDEÓFbyTILDEÓMbyTILDEÓNbyTILDEÓPbyTILDEÓRbyTILDE",
      "ÚFISHHOOKgyTILDEÓSbyTILDEÓTbyTILDEÓZbyTILDEÓTURNED GÀMODIFIERaCYRILLI",
      "C ENÀLATIN daINSULAR GÓTHbSTRIKETHROUGHÌcaIbvÌLETTER IOTAbvÓPbvÌcaUbv",
      "ÌLETTER UPSILONbvÓBbPALATAL HOOKÓDbPALATAL HOOKÓFbPALATAL HOOK",
      "ÓGbPALATAL HOOKÓKbPALATAL HOOKÓLbPALATAL HOOKÓMbPALATAL HOOK",
      "ÓNbPALATAL HOOKÓPbPALATAL HOOKÓRbPALATAL HOOKÓSbPALATAL HOOK",
      "ÓESHbPALATAL HOOKÓVbPALATAL HOOKÓXbPALATAL HOOKÓZbPALATAL HOOK",
      "ÓAbRETROFLEX HOOKÔLPHAbRETROFLEX HOOKÓDbHOOKgTAILÓEbRETROFLEX HOOK",
      "ÓOPEN EbRETROFLEX HOOKÓREVERSED OPEN EbRETROFLEX HOOKÓSCHWAbRETROFLEX",
      " HOOKÓIbRETROFLEX HOOKÓOPEN ObRETROFLEX HOOKÓESHbRETROFLEX HOOK",
      "ÓUbRETROFLEX HOOKÓEZHbRETROFLEX HOOKÀMODIFIERad TURNED ALPHAÖC×bCURL",
      "ÖETHÖREVERSED OPEN EÖFÖDOTLESS JbvÖSCRIPT GÖTURNED HÖIbv×OTAÖc Ißbv",
      "ÖJbCROSSED-TAILÖLbRETROFLEX HOOKÝPALATAL HOOKÖc LÖMbHOOKÖTURNED MbLON",
      "G LEGÖNboHOOKÝRETROFLEX HOOKÖc NÖBARRED OÖPHIÖSbHOOKÖESHÖTbPALATAL HO",
      "OKÖU BAR×PSILONÖc UÖVbHOOKÖTURNED VÖZ×bRETROFLEX HOOKÝCURLÖEZHÖTHETA",
      "ÀCOMBINING DOTTED GRAVE ACCENTÑACUTE ACCENTÊSNAKEmËUSPENSIONu",
      "ÊMACRON-ACUTEÊGRAVE-MACRONÊMACRON-GRAVEÊACUTE-MACRONÊGRAVE-ACUTE-GRAV",
      "EÊACUTE-GRAVE-ACUTEÊLATIN daRmÊBREVE-MACRONÊMACRON-BREVEÊl CIRCUMFLEX",
      "iÊOGONEKiÊZIGZAGmÊISmÊURiËSiÊLATIN daFLATTENED OPEN AiÝAEÞOÞV",
      "ÝC CEDILLAÝINSULAR DÝETHÝGÐLETTER d c GÐdaKÝLÐLETTER d c LåMÐdaN",
      "ÐLETTER d c NåRÐdaR ROTUNDAÝSÝLONG SÝZÝALPHAÝBÞETAÝSCHWAÝFÝLbl yTILDE",
      "ÝObLIGHT CENTRALIZATION vÝPÝESHÝUbLIGHT CENTRALIZATION vÝW",
      "ÝAbDIAERESISÝObDIAERESISÝUbDIAERESISÊUP TACKiÊKAVYKAi k×LEFT",
      "ÊDOTi LEFTÊWIDE INVERTED BRIDGEmÊDOTm LEFTËELETIONuËOUBLE INVERTED BR",
      "EVEmÊALMOST EQUAL TOmÊLEFTfHEADiÊkfHEADgDOWNfHEADmÀLATIN caAbRINGm",
      "ÆdaAbRINGmÆcaBbDOTiÆdaBbDOTiÆcaBbDOTmÆdaBbDOTmÆcaBbLINEmÆdaBbLINEm",
      "ÆcaCbCEDILLAgACUTEÆdaCbCEDILLAgACUTEÆcaDbDOTiÆdaDbDOTiÆcaDbDOTm",
      "ÆdaDbDOTmÆcaDbLINEmÆdaDbLINEmÆcaDbCEDILLAÆdaDbCEDILLAÆcaDbCIRCUMFLEXm",
      "ÆdaDbCIRCUMFLEXmÆcaEbMACRONgGRAVEÆdaEbMACRONgGRAVEÆcaEbMACRONgACUTE",
      "ÆdaEbMACRONgACUTEÆcaEbCIRCUMFLEXmÆdaEbCIRCUMFLEXmÆcaEbTILDEm",
      "ÆdaEbTILDEmÆcaEbCEDILLAgBREVEÆdaEbCEDILLAgBREVEÆcaFbDOTiÆdaFbDOTi",
      "ÆcaGbMACRONÆdaGbMACRONÆcaHbDOTiÆdaHbDOTiÆcaHbDOTmÆdaHbDOTm",
      "ÆcaHbDIAERESISÆdaHbDIAERESISÆcaHbCEDILLAÆdaHbCEDILLAÆcaHbBREVEm",
      "ÆdaHbBREVEmÆcaIbTILDEmÆdaIbTILDEmÆcaIbDIAERESISgACUTEÆdaIbDIAERESISgA",
      "CUTEÆcaKbACUTEÆdaKbACUTEÆcaKbDOTmÆdaKbDOTmÆcaKbLINEmÆdaKbLINEm",
      "ÆcaLbDOTmÆdaLbDOTmÆcaLbDOTmgMACRONÆdaLbDOTmgMACRONÆcaLbLINEm",
      "ÆdaLbLINEmÆcaLbCIRCUMFLEXmÆdaLbCIRCUMFLEXmÆcaMbACUTEÆdaMbACUTE",
      "ÆcaMbDOTiÆdaMbDOTiÆcaMbDOTmÆdaMbDOTmÆcaNbDOTiÆdaNbDOTiÆcaNbDOTm",
      "ÆdaNbDOTmÆcaNbLINEmÆdaNbLINEmÆcaNbCIRCUMFLEXmÆdaNbCIRCUMFLEXm",
      "ÆcaObTILDEgACUTEÆdaObTILDEgACUTEÆcaObTILDEgDIAERESISÆdaObTILDEgDIAERE",
      "SISÆcaObMACRONgGRAVEÆdaObMACRONgGRAVEÆcaObMACRONgACUTEÆdaObMACRONgACU",
      "TEÆcaPbACUTEÆdaPbACUTEÆcaPbDOTiÆdaPbDOTiÆcaRbDOTiÆdaRbDOTiÆcaRbDOTm",
      "ÆdaRbDOTmÆcaRbDOTmgMACRONÆdaRbDOTmgMACRONÆcaRbLINEmÆdaRbLINEm",
      "ÆcaSbDOTiÆdaSbDOTiÆcaSbDOTmÆdaSbDOTmÆcaSbACUTEgDOTiÆdaSbACUTEgDOTi",
      "ÆcaSbCARONgDOTiÆdaSbCARONgDOTiÆcaSbDOTmgDOTiÆdaSbDOTmgDOTiÆcaTbDOTi",
      "ÆdaTbDOTiÆcaTbDOTmÆdaTbDOTmÆcaTbLINEmÆdaTbLINEmÆcaTbCIRCUMFLEXm",
      "ÆdaTbCIRCUMFLEXmÆcaUbDIAERESISmÆdaUbDIAERESISmÆcaUbTILDEmÆdaUbTILDEm",
      "ÆcaUbCIRCUMFLEXmÆdaUbCIRCUMFLEXmÆcaUbTILDEgACUTEÆdaUbTILDEgACUTE",
      "ÆcaUbMACRONgDIAERESISÆdaUbMACRONgDIAERESISÆcaVbTILDEÆdaVbTILDE",
      "ÆcaVbDOTmÆdaVbDOTmÆcaWbGRAVEÆdaWbGRAVEÆcaWbACUTEÆdaWbACUTE",
      "ÆcaWbDIAERESISÆdaWbDIAERESISÆcaWbDOTiÆdaWbDOTiÆcaWbDOTmÆdaWbDOTm",
      "ÆcaXbDOTiÆdaXbDOTiÆcaXbDIAERESISÆdaXbDIAERESISÆcaYbDOTiÆdaYbDOTi",
      "ÆcaZbCIRCUMFLEXÆdaZbCIRCUMFLEXÆcaZbDOTmÆdaZbDOTmÆcaZbLINEmÆdaZbLINEm",
      "ÓHbLINEmÓTbDIAERESISÓWbRINGiÓYbRINGiÓAbk HALF RINGÓLONG SbDOTi",
      "àIAGONAL vßHIGH vÆcaSHARP SÆdaDELTAÆcaAbDOTmÆdaAbDOTmÆcaAbHOOKi",
      "ÆdaAbHOOKiÆcaAbCIRCUMFLEXgACUTEÆdaAbCIRCUMFLEXgACUTEÆcaAbCIRCUMFLEXgG",
      "RAVEÆdaAbCIRCUMFLEXgGRAVEÆcaAbCIRCUMFLEXgHOOKiÆdaAbCIRCUMFLEXgHOOKi",
      "ÆcaAbCIRCUMFLEXgTILDEÆdaAbCIRCUMFLEXgTILDEÆcaAbCIRCUMFLEXgDOTm",
      "ÆdaAbCIRCUMFLEXgDOTmÆcaAbBREVEgACUTEÆdaAbBREVEgACUTEÆcaAbBREVEgGRAVE",
      "ÆdaAbBREVEgGRAVEÆcaAbBREVEgHOOKiÆdaAbBREVEgHOOKiÆcaAbBREVEgTILDE",
      "ÆdaAbBREVEgTILDEÆcaAbBREVEgDOTmÆdaAbBREVEgDOTmÆcaEbDOTmÆdaEbDOTm",
      "ÆcaEbHOOKiÆdaEbHOOKiÆcaEbTILDEÆdaEbTILDEÆcaEbCIRCUMFLEXgACUTE",
      "ÆdaEbCIRCUMFLEXgACUTEÆcaEbCIRCUMFLEXgGRAVEÆdaEbCIRCUMFLEXgGRAVE",
      "ÆcaEbCIRCUMFLEXgHOOKiÆdaEbCIRCUMFLEXgHOOKiÆcaEbCIRCUMFLEXgTILDE",
      "ÆdaEbCIRCUMFLEXgTILDEÆcaEbCIRCUMFLEXgDOTmÆdaEbCIRCUMFLEXgDOTm",
      "ÆcaIbHOOKiÆdaIbHOOKiÆcaIbDOTmÆdaIbDOTmÆcaObDOTmÆdaObDOTmÆcaObHOOKi",
      "ÆdaObHOOKiÆcaObCIRCUMFLEXgACUTEÆdaObCIRCUMFLEXgACUTEÆcaObCIRCUMFLEXgG",
      "RAVEÆdaObCIRCUMFLEXgGRAVEÆcaObCIRCUMFLEXgHOOKiÆdaObCIRCUMFLEXgHOOKi",
      "ÆcaObCIRCUMFLEXgTILDEÆdaObCIRCUMFLEXgTILDEÆcaObCIRCUMFLEXgDOTm",
      "ÆdaObCIRCUMFLEXgDOTmÆcaObHORNgACUTEÆdaObHORNgACUTEÆcaObHORNgGRAVE",
      "ÆdaObHORNgGRAVEÆcaObHORNgHOOKiÆdaObHORNgHOOKiÆcaObHORNgTILDE",
      "ÆdaObHORNgTILDEÆcaObHORNgDOTmÆdaObHORNgDOTmÆcaUbDOTmÆdaUbDOTm",
      "ÆcaUbHOOKiÆdaUbHOOKiÆcaUbHORNgACUTEÆdaUbHORNgACUTEÆcaUbHORNgGRAVE",
      "ÆdaUbHORNgGRAVEÆcaUbHORNgHOOKiÆdaUbHORNgHOOKiÆcaUbHORNgTILDE",
      "ÆdaUbHORNgTILDEÆcaUbHORNgDOTmÆdaUbHORNgDOTmÆcaYbGRAVEÆdaYbGRAVE",
      "ÆcaYbDOTmÆdaYbDOTmÆcaYbHOOKiÆdaYbHOOKiÆcaYbTILDEÆdaYbTILDE",
      "ÆcaMIDDLE-WELSH LLÆdaMIDDLE-WELSH LLÆcaMIDDLE-WELSH VÆdaMIDDLE-WELSH ",
      "VÆcaYbLOOPÆdaYbLOOPÀGREEK daALPHAbPSILIÞDASIAÞPSILIgVARIAÞDASIAgVARIA",
      "ÞPSILIgOXIAÞDASIAgOXIAÞPSILIgPERISPOMENIÞDASIAgPERISPOMENI",
      "ÆcaALPHAbPSILIàDASIAàPSILIgVARIAàDASIAgVARIAàPSILIgOXIAàDASIAgOXIA",
      "àPSILIgPERISPOMENIàDASIAgPERISPOMENIÆdaEPSILONbPSILIàDASIA",
      "àPSILIgVARIAàDASIAgVARIAàPSILIgOXIAàDASIAgOXIA"]),
    (0x1F18, ["GREEK caEPSILONbPSILIâDASIAâPSILIgVARIAâDASIAgVARIA",
      "âPSILIgOXIAâDASIAgOXIA"]),
    (0x1F20, ["GREEK daETAbPSILIÜDASIAÜPSILIgVARIAÜDASIAgVARIAÜPSILIgOXIA",
      "ÜDASIAgOXIAÜPSILIgPERISPOMENIÜDASIAgPERISPOMENIÆcaETAbPSILIÞDASIA",
      "ÞPSILIgVARIAÞDASIAgVARIAÞPSILIgOXIAÞDASIAgOXIAÞPSILIgPERISPOMENI",
      "ÞDASIAgPERISPOMENIÆdaIOTAbPSILIÝDASIAÝPSILIgVARIAÝDASIAgVARIA",
      "ÝPSILIgOXIAÝDASIAgOXIAÝPSILIgPERISPOMENIÝDASIAgPERISPOMENI",
      "ÆcaIOTAbPSILIßDASIAßPSILIgVARIAßDASIAgVARIAßPSILIgOXIAßDASIAgOXIA",
      "ßPSILIgPERISPOMENIßDASIAgPERISPOMENIÆdaOMICRONbPSILIàDASIA",
      "àPSILIgVARIAàDASIAgVARIAàPSILIgOXIAàDASIAgOXIA"]),
    (0x1F48, ["GREEK caOMICRONbPSILIâDASIAâPSILIgVARIAâDASIAgVARIA",
      "âPSILIgOXIAâDASIAgOXIA"]),
    (0x1F50, ["GREEK daUPSILONbPSILIàDASIAàPSILIgVARIAàDASIAgVARIA",
      "àPSILIgOXIAàDASIAgOXIAàPSILIgPERISPOMENIàDASIAgPERISPOMENI"]),
    (0x1F59, ["GREEK caUPSILONbDASIA"]),
    (0x1F5B, ["GREEK caUPSILONbDASIAgVARIA"]),
    (0x1F5D, ["GREEK caUPSILONbDASIAgOXIA"]),
    (0x1F5F, ["GREEK caUPSILONbDASIAgPERISPOMENIÆdaOMEGAbPSILIÞDASIA",
      "ÞPSILIgVARIAÞDASIAgVARIAÞPSILIgOXIAÞDASIAgOXIAÞPSILIgPERISPOMENI",
      "ÞDASIAgPERISPOMENIÆcaOMEGAbPSILIàDASIAàPSILIgVARIAàDASIAgVARIA",
      "àPSILIgOXIAàDASIAgOXIAàPSILIgPERISPOMENIàDASIAgPERISPOMENI",
      "ÆdaALPHAbVARIAÞOXIAÓEPSILONbVARIAàOXIAÔTAbVARIAÜOXIAÓIOTAbVARIAÝOXIA",
      "ÓOMICRONbVARIAàOXIAÓUPSILONbVARIAàOXIAÓOMEGAbVARIAÞOXIA"]),
    (0x1F80, ["GREEK daALPHAbPSILIgYPOGEGRAMMENIÞDASIAgYPOGEGRAMMENI",
      "ÞPSILIgVARIAgYPOGEGRAMMENIÞDASIAgVARIAgYPOGEGRAMMENIÞPSILIgOXIAgYPOGE",
      "GRAMMENIÞDASIAgOXIAgYPOGEGRAMMENIÞPSILIgPERISPOMENIgYPOGEGRAMMENI",
      "ÞDASIAgPERISPOMENIgYPOGEGRAMMENIÆcaALPHAbPSILIgPROSGEGRAMMENI",
      "àDASIAgPROSGEGRAMMENIàPSILIgVARIAgPROSGEGRAMMENIàDASIAgVARIAgPROSGEGR",
      "AMMENIàPSILIgOXIAgPROSGEGRAMMENIàDASIAgOXIAgPROSGEGRAMMENI",
      "àPSILIgPERISPOMENIgPROSGEGRAMMENIàDASIAgPERISPOMENIgPROSGEGRAMMENI",
      "ÆdaETAbPSILIgYPOGEGRAMMENIÜDASIAgYPOGEGRAMMENIÜPSILIgVARIAgYPOGEGRAMM",
      "ENIÜDASIAgVARIAgYPOGEGRAMMENIÜPSILIgOXIAgYPOGEGRAMMENIÜDASIAgOXIAgYPO",
      "GEGRAMMENIÜPSILIgPERISPOMENIgYPOGEGRAMMENIÜDASIAgPERISPOMENIgYPOGEGRA",
      "MMENIÆcaETAbPSILIgPROSGEGRAMMENIÞDASIAgPROSGEGRAMMENIÞPSILIgVARIAgPRO",
      "SGEGRAMMENIÞDASIAgVARIAgPROSGEGRAMMENIÞPSILIgOXIAgPROSGEGRAMMENI",
      "ÞDASIAgOXIAgPROSGEGRAMMENIÞPSILIgPERISPOMENIgPROSGEGRAMMENI",
      "ÞDASIAgPERISPOMENIgPROSGEGRAMMENIÆdaOMEGAbPSILIgYPOGEGRAMMENI",
      "ÞDASIAgYPOGEGRAMMENIÞPSILIgVARIAgYPOGEGRAMMENIÞDASIAgVARIAgYPOGEGRAMM",
      "ENIÞPSILIgOXIAgYPOGEGRAMMENIÞDASIAgOXIAgYPOGEGRAMMENIÞPSILIgPERISPOME",
      "NIgYPOGEGRAMMENIÞDASIAgPERISPOMENIgYPOGEGRAMMENIÆcaOMEGAbPSILIgPROSGE",
      "GRAMMENIàDASIAgPROSGEGRAMMENIàPSILIgVARIAgPROSGEGRAMMENIàDASIAgVARIAg",
      "PROSGEGRAMMENIàPSILIgOXIAgPROSGEGRAMMENIàDASIAgOXIAgPROSGEGRAMMENI",
      "àPSILIgPERISPOMENIgPROSGEGRAMMENIàDASIAgPERISPOMENIgPROSGEGRAMMENI",
      "ÆdaALPHAbVRACHYÞMACRONÞVARIAgYPOGEGRAMMENIÞYPOGEGRAMMENIÞOXIAgYPOGEGR",
      "AMMENI"]),
    (0x1FB6, ["GREEK daALPHAbPERISPOMENIégYPOGEGRAMMENIÆcaALPHAbVRACHY",
      "àMACRONàVARIAàOXIAàPROSGEGRAMMENIÆKORONISÆPROSGEGRAMMENIÇSILI",
      "ÇERISPOMENIÆDIALYTIKAgPERISPOMENIÆdaETAbVARIAgYPOGEGRAMMENI",
      "ÜYPOGEGRAMMENIÜOXIAgYPOGEGRAMMENI"]),
    (0x1FC6, ["GREEK daETAbPERISPOMENIçgYPOGEGRAMMENIÆcaEPSILONbVARIAâOXIA",
      "ÖTAbVARIAÞOXIAÞPROSGEGRAMMENIÆPSILIgVARIAÐOXIAÐPERISPOMENI",
      "ÆdaIOTAbVRACHYÝMACRONÝDIALYTIKAgVARIAëOXIA"]),
    (0x1FD6, ["GREEK daIOTAbPERISPOMENIÝDIALYTIKAgPERISPOMENIÆcaIOTAbVRACHY",
      "ßMACRONßVARIAßOXIA"]),
    (0x1FDD, ["GREEK DASIAgVARIAÐOXIAÐPERISPOMENIÆdaUPSILONbVRACHYàMACRON",
      "àDIALYTIKAgVARIAîOXIAÓRHObPSILIÜDASIAÓUPSILONbPERISPOMENIàDIALYTIKAgP",
      "ERISPOMENIÆcaUPSILONbVRACHYâMACRONâVARIAâOXIAÕRHObDASIAÆDIALYTIKAgVAR",
      "IAÔOXIAÆVARIA"]),
    (0x1FF2, ["GREEK daOMEGAbVARIAgYPOGEGRAMMENIÞYPOGEGRAMMENIÞOXIAgYPOGEGRA",
      "MMENI"]),
    (0x1FF6, ["GREEK daOMEGAbPERISPOMENIégYPOGEGRAMMENIÆcaOMICRONbVARIAâOXIA",
      "×EGAbVARIAàOXIAàPROSGEGRAMMENIÆOXIAÆDASIA"])]

/-- Punctuation and signs, from U+2000 on. -/
def signRuns : List (Nat × List String) :=
  [(0x2000, ["EN QUADÁM QUADÁN SPACEÁM SPACEÀTHREE-PER-EM SPACEÀFOUR-PER-EM",
      " SPACEÀSIX-PER-EM SPACEÀFIGURE SPACEÀPUNCTUATION SPACEÀTHIN SPACE",
      "ÀHAIR SPACEÀZERO WIDTH SPACEËNON-JOINERËJOINERÀLEFT-TO-kuÀk-TO-oMARK",
      "ÀHYPHENÀNON-BREAKING HYPHENÀFIGURE DASHÀEN DASHÁM DASHÀw BARÀl p LINE",
      "ÇLOW LINEÀoSINGLE QUOTATIONuÀk SINGLE QUOTATIONuÀSINGLE LOW-9 QUOTATI",
      "ONuÇHIGH-REVERSED-9 QUOTATIONuÀol QUOTATIONuÀk l QUOTATIONu",
      "Àl LOW-9 QUOTATIONuÇHIGH-REVERSED-9 QUOTATIONuÁAGGERÁOUBLE DAGGER",
      "ÀBULLETÀTRIANGULAR BULLETÀONE DOT LEADERÀTWO DOT LEADERÀw ELLIPSIS",
      "ÁYPHENATION POINTÀLINE SEPARATORÀPARAGRAPH SEPARATORÀLEFT-TO-k EMBEDD",
      "INGÀk-TO-oEMBEDDINGÀPOP DIRECTIONALeATTINGÀLEFT-TO-k OVERRIDE",
      "Àk-TO-oOVERRIDEÀNARROW NO-BREAK SPACEÀPER MILLEhÄTEN THOUSANDhÁRIME",
      "Àl PRIMEÀTRIPLE PRIMEÀREVERSED PRIMEÉl PRIMEÉTRIPLE PRIMEÀCARET",
      "ÀSINGLE LEFT-POINTING ANGLE QUOTATIONuÇk-POINTING ANGLE QUOTATIONu",
      "ÀREFERENCEuÀl EXCLAMATIONuÀINTERROBANGÀOVERLINEÀUNDERTIEÀCHARACTER TI",
      "EÁARET INSERTION POINTÀASTERISMÀHYPHEN BULLETÀFRACTION SLASH",
      "ÀoSQUARE BRACKETbQUILLÀk SQUARE BRACKETbQUILLÀl QUESTIONuÀQUESTION EX",
      "CLAMATIONuÀEXCLAMATION QUESTIONuÀTIRONIANh ETÀREVERSED PILCROWh",
      "Àx s BULLETÆkWARDS BULLETÀLOW ASTERISKÀREVERSED SEMICOLONÀCLOSE UP",
      "ÀTWO ASTERISKS ALIGNED pLYÀCOMMERCIAL MINUShÀSWUNG DASHÀINVERTED UNDE",
      "RTIEÀFLOWER PUNCTUATIONuÀTHREE DOT PUNCTUATIONÀQUADRUPLE PRIME",
      "ÀFOUR DOT PUNCTUATIONÁIVE DOT PUNCTUATIONÀTWO DOT PUNCTUATION",
      "ÀFOUR DOTuÀDOTTED CROSSÀTRICOLONÀp FOUR DOTSÀMEDIUM MATHEMATICAL SPAC",
      "EÀWORD JOINERÀFUNCTION APPLICATIONÀINVISIBLE TIMESÊSEPARATORÊPLUS"]),
    (0x2066, ["LEFT-TO-k ISOLATEÀk-TO-oISOLATEÀFIRST STRONG ISOLATE",
      "ÀPOP DIRECTIONAL ISOLATEÀINHIBIT SYMMETRIC SWAPPINGÀACTIVATE SYMMETRI",
      "C SWAPPINGÀINHIBIT ARABICe SHAPINGÀACTIVATE ARABICe SHAPING",
      "ÀNATIONAL DIGIT SHAPESÁOMINAL DIGIT SHAPESÀSUPERSCRIPT ZEROÌLATIN daI"]),
    (0x2074, ["SUPERSCRIPT FOURÍIVEÌSIXÍEVENÌEIGHTÌNINEÌPLUShÌMINUSÌEQUALSh",
      "ÌoPARENTHESISÌk PARENTHESISÌLATIN daNÂBSCRIPT ZEROÊONEÊTWOËHREEÊFOUR",
      "ËIVEÊSIXËEVENÊEIGHTÊNINEÊPLUShÊMINUSÊEQUALShÊoPARENTHESISÊk PARENTHES",
      "IS"]), (0x2090, ["LATIN SUBSCRIPT daAÝEÝOÝXÝSCHWAÝHÝKÝLÝMÝNÝPÝSÝT"]),
    (0x20A0, ["EURO-CURRENCYhÀCOLONhÁRUZEIROhÀFRENCH FRANChÀLIRAhÀMILLh",
      "ÀNAIRAhÀPESETAhÀRUPEEhÀWONhÀNEW SHEQELhÀDONGhÀEUROhÀKIPhÀTUGRIKh",
      "ÀDRACHMAhÀGERMAN PENNYhÀPESOhÀGUARANIhÀAUSTRALhÀHRYVNIAhÀCEDIh",
      "ÀLIVRE TOURNOIShÀSPESMILOhÀTENGEhÀINDIAN RUPEEhÀTURKISH LIRAh",
      "ÀNORDICuhÀMANAThÀRUBLEhÀLARIhÀBITCOINhÀSOMh"]),
    (0x20D0, ["COMBINING oHARPOONiÊk HARPOONiÊLONG p LINE OVERLAY",
      "ÊSHORT p LINE OVERLAYÊANTICLOCKWISEfiÊCLOCKWISEfiÊLEFTfiÊkfi",
      "ÌNG OVERLAYÊCLOCKWISE RING OVERLAYÊANTICLOCKWISE RING OVERLAY",
      "ÊTHREE DOTSiÊFOUR DOTSiÊENCLOSING CIRCLEÔSQUAREÔDIAMONDÔCIRCLE BACKSL",
      "ASHÊokfiÊENCLOSING SCREENÔKEYCAPÔUPWARD POINTING TRIANGLEÊREVERSE SOL",
      "IDUS OVERLAYÊl p v OVERLAYÊANNUITYqÊTRIPLE UNDERDOTÊWIDE BRIDGEi",
      "Êsf OVERLAYËONG l SOLIDUS OVERLAYÊkWARDS HARPOONbBARB DOWNWARDS",
      "Ês HARPOONbBARB DOWNWARDSÎfmÊkfmÊASTERISKi"]),
    (0x2100, ["ACCOUNT OFÁDDRESSED TO THE SUBJECTÀl-STRUCK c CÁEGREE CELSIUS",
      "ÀCENTRE LINEqÁARE OFÂDA UNAÀEULER CONSTANTÀSCRUPLEÀDEGREE FAHRENHEIT",
      "ÀSCRIPT d GÇc HÀx-LETTER c HÀl-STRUCK c HÀPLANCK CONSTANTÏ OVER TWO P",
      "IÀSCRIPT c IÀx-LETTER c IÀSCRIPT c LÇd LÀL B BARqÀl-STRUCK c N",
      "ÀNUMEROhÀSOUND RECORDING COPYkÁCRIPT c PÀl-STRUCK c PÖQÀSCRIPT c R",
      "Àx-LETTER c RÀl-STRUCK c RÀPRESCRIPTION TAKEÀRESPONSEÀSERVICEu",
      "ÀTELEPHONEhÁRADEuhÀVERSICLEÀl-STRUCK c ZÀOUNCEhÁHMhÀINVERTED OHMh",
      "Àx-LETTER c ZÀTURNED GREEK daIOTAÀKELVINhÀANGSTROMhÀSCRIPT c B",
      "Àx-LETTER c CÀESTIMATEDqÀSCRIPT d EÇc EÏFÀTURNED c FÀSCRIPT c MÇd O",
      "ÀALEFqÀBETqÀGIMELqÀDALETqÀINFORMATION SOURCEÀROTATED c QÀFACSIMILEh",
      "Àl-STRUCK d PIÔGAMMAÎc GAMMAÖPIÎN-ARY SUMMATIONÀTURNED SANS-SERIF c G",
      "ÚLÀREVERSED SANS-SERIF c LÀTURNED SANS-SERIF c YÀl-STRUCK ITALIC c D",
      "Õd DÛEÛIÛJÀPROPERTY LINEÀTURNED AMPERSANDÀPERhÀAKTIESELSKAB",
      "ÀTURNED d FÀSYMBOL FOR SAMARITAN SOURCEÀVULGAR FRACTION ONE SEVENTH",
      "ÔNINTHÔTENTHÕHIRDÐTWO THIRDSÐONE FIFTHÐTWO FIFTHSÑHREE FIFTHS",
      "ÐFOUR FIFTHSÐONE SIXTHÐFIVE SIXTHSÐONE EIGHTHÐTHREE EIGHTHS",
      "ÐFIVE EIGHTHSÐSEVEN EIGHTHSÀFRACTION NUMERATOR ONEÀROMAN NUMERAL ONE",
      "ÎTWOÏHREEÎFOURÏIVEÎSIXÏEVENÎEIGHTÎNINEÎTENÎELEVENÎTWELVEÎFIFTYÎONEz",
      "ÎFIVEzÎONE THOUSANDÀd ROMAN NUMERAL ONEÔTWOÕHREEÔFOURÕIVEÔSIXÕEVEN",
      "ÔEIGHTÔNINEÔTENÔELEVENÔTWELVEÔFIFTYÔONEzÔFIVEzÔONE THOUSAND",
      "ÀROMAN NUMERAL ONE THOUSAND C DÎFIVE THOUSANDÎTEN THOUSAND",
      "ÎREVERSED ONEzÀLATIN daREVERSED CÀROMAN NUMERAL SIX LATEeÎFIFTY EARLY",
      "eÔTHOUSANDÎONEz THOUSANDÀVULGAR FRACTION ZERO THIRDSÀTURNED DIGIT TWO",
      "ÎHREE"]),
    (0x2190, ["sfÀUPWARDSfÀkWARDSfÀDOWNWARDSfÀokfÀUP DOWNfÀNORTH WESTfÆEASTf",
      "ÀSOUTH EASTfÆWESTfÀsfbvÀkWARDSfbvÀs WAVEfÀkWARDS WAVEfÀs TWO HEADEDf",
      "ÀUPWARDS TWO HEADEDfÀkWARDS TWO HEADEDfÀDOWNWARDS TWO HEADEDfÀsfbTAIL",
      "ÀkWARDSfbTAILÀsf FROM BARÀUPWARDSf FROM BARÀkWARDSf FROM BAR",
      "ÀDOWNWARDSf FROM BARÀUP DOWNfbBASEÀsfbHOOKÀkWARDSfbHOOKÀsfbLOOP",
      "ÀkWARDSfbLOOPÀok WAVEfËARROWbvÀDOWNWARDS ZIGZAGfÀUPWARDSfbTIP s",
      "×kWARDSÀDOWNWARDSfbTIP sÙkWARDSÀkWARDSfbCORNER DOWNWARDSÀDOWNWARDSfbC",
      "ORNER sÀANTICLOCKWISE TOP SEMICIRCLEfÀCLOCKWISE TOP SEMICIRCLEf",
      "ÀNORTH WESTf TO LONG BARÀsf TO BAR OVER kWARDSf TO BARÀANTICLOCKWISE ",
      "OPEN CIRCLEfÀCLOCKWISE OPEN CIRCLEfÀs HARPOONbBARB UPWARDSÜDOWNWARDS",
      "ÀUPWARDS HARPOONbBARB kWARDSÚsÀkWARDS HARPOONbBARB UPWARDSÝDOWNWARDS",
      "ÀDOWNWARDS HARPOONbBARB kWARDSÜsÀkWARDSf OVER sfÀUPWARDSf s OF DOWNWA",
      "RDSfÀsf OVER kWARDSfÊPAIREDfSÀUPWARDS PAIREDfSÀkWARDS PAIREDfS",
      "ÀDOWNWARDS PAIREDfSÀs HARPOON OVER kWARDS HARPOONÀkWARDS HARPOON OVER",
      " s HARPOONÀs lfbvÄ k lfbvÀkWARDS lfbvÀs lfÀUPWARDS lfÀkWARDS lf",
      "ÀDOWNWARDS lfÀok lfÀUP DOWN lfÀNORTH WEST lfÆEAST lfÀSOUTH EAST lf",
      "ÆWEST lfÀs TRIPLEfÀkWARDS TRIPLEfÀs SQUIGGLEfÀkWARDS SQUIGGLEf",
      "ÀUPWARDSfbl vÀDOWNWARDSfbl vÀs DASHEDfÀUPWARDS DASHEDfÀkWARDS DASHEDf",
      "ÀDOWNWARDS DASHEDfÀsf TO BARÀkWARDSf TO BARÀs WHITEfÀUPWARDS WHITEf",
      "ÀkWARDS WHITEfÀDOWNWARDS WHITEfÀUPWARDS WHITEf FROM BARÔON PEDESTAL",
      "ßbw BARåp BARÎlfÚ ON PEDESTALÀkWARDS WHITEf FROM WALLÀNORTH WESTf TO ",
      "CORNERÀSOUTH EASTf TO CORNERÀUP DOWN WHITEfÀkfbd CIRCLEÀDOWNWARDSf s ",
      "OF UPWARDSfÀTHREE kWARDSfSÀsfbp vÀkWARDSfbp vÀokfbp vÄWARDSfbl p v",
      "ÀkWARDSfbl p vÀokfbl p vÄWARDS OPEN-HEADEDfÀkWARDS OPEN-HEADEDf",
      "Àok OPEN-HEADEDfÀFOR ALLÀCOMPLEMENTÀPARTIAL DIFFERENTIALÀTHERE EXISTS",
      "ÆDOES NOT EXISTÀEMPTY SETÀINCREMENTÀNABLAÀELEMENT OFÀNOT AN ELEMENT O",
      "FÀd ELEMENT OFÀCONTAINS AS MEMBERÀDOES NOT CONTAIN AS MEMBER",
      "Àd CONTAINS AS MEMBERÀEND OF PROOFÀN-ARY PRODUCTÆCOPRODUCTÆSUMMATION",
      "ÀMINUShÅ-OR-PLUShÀDOT PLUSÁIVISION SLASHÀSET MINUSÀASTERISK OPERATOR",
      "ÀRING OPERATORÀBULLET OPERATORÀSQUARE ROOTÀCUBE ROOTÀFOURTH ROOT",
      "ÀPROPORTIONAL TOÀINFINITYÀk ANGLEÀANGLEÀMEASURED ANGLEÀSPHERICAL ANGL",
      "EÀDIVIDESÁOES NOT DIVIDEÀPARALLEL TOÀNOT PARALLEL TOÀLOGICAL ANDÈOR",
      "ÀINTERSECTIONÀUNIONÀINTEGRALÀl INTEGRALÀTRIPLE INTEGRALÀCONTOUR INTEG",
      "RALÀSURFACE INTEGRALÀVOLUME INTEGRALÀCLOCKWISE INTEGRALÊCONTOUR INTEG",
      "RALÀANTICLOCKWISE CONTOUR INTEGRALÀTHEREFOREÀBECAUSEÀRATIOÀPROPORTION",
      "ÀDOT MINUSÀEXCESSÀGEOMETRIC PROPORTIONÀHOMOTHETICÀTILDE OPERATOR",
      "ÀREVERSED TILDEÀINVERTED LAZY SÀSINE WAVEÀWREATH PRODUCTÀNOT TILDE",
      "ÀMINUS TILDEÀASYMPTOTICALLY EQUAL TOÀNOT ASYMPTOTICALLY EQUAL TO",
      "ÀAPPROXIMATELY EQUAL TOÎBUT NOT ACTUALLY EQUAL TOÀNEITHER APPROXIMATE",
      "LY NOR ACTUALLY EQUAL TOÀALMOST EQUAL TOÀNOT ALMOST EQUAL TO",
      "ÀALMOST EQUAL OR EQUAL TOÀTRIPLE TILDEÀALL EQUAL TOÀEQUIVALENT TO",
      "ÀGEOMETRICALLY EQUIVALENT TOÀDIFFERENCE BETWEENÀAPPROACHES THE LIMIT",
      "ÀGEOMETRICALLY EQUAL TOÀAPPROXIMATELY EQUAL TO OR THE IMAGE OF",
      "ÀIMAGE OF OR APPROXIMATELY EQUAL TOÀCOLON EQUALSÀEQUALS COLON",
      "ÀRING IN EQUAL TOÅEQUAL TOÀCORRESPONDS TOÀESTIMATESÁQUIANGULAR TO",
      "ÀSTAR EQUALSÀDELTA EQUAL TOÀEQUAL TO BY DEFINITIONÀMEASURED BY",
      "ÀQUESTIONED EQUAL TOÀNOT EQUAL TOÀIDENTICAL TOÀNOT IDENTICAL TO",
      "ÀSTRICTLY EQUIVALENT TOÀLESS-THAN OR EQUAL TOÀGREATER-THAN OR EQUAL T",
      "OÀLESS-THAN OVER EQUAL TOÀGREATER-THAN OVER EQUAL TOÀLESS-THAN BUT NO",
      "T EQUAL TOÀGREATER-THAN BUT NOT EQUAL TOÀMUCH LESS-THANÅGREATER-THAN",
      "ÀBETWEENÀNOT EQUIVALENT TOÄLESS-THANÄGREATER-THANÁEITHER LESS-THAN NO",
      "R EQUAL TOÈGREATER-THAN NOR EQUAL TOÀLESS-THAN OR EQUIVALENT TO",
      "ÀGREATER-THAN OR EQUIVALENT TOÀNEITHER LESS-THAN NOR EQUIVALENT TO",
      "ÈGREATER-THAN NOR EQUIVALENT TOÀLESS-THAN OR GREATER-THANÀGREATER-THA",
      "N OR LESS-THANÀNEITHER LESS-THAN NOR GREATER-THANÈGREATER-THAN NOR LE",
      "SS-THANÀPRECEDESÀSUCCEEDSÀPRECEDES OR EQUAL TOÀSUCCEEDS OR EQUAL TO",
      "ÀPRECEDES OR EQUIVALENT TOÀSUCCEEDS OR EQUIVALENT TOÀDOES NOT PRECEDE",
      "ÉSUCCEEDÀSUBSET OFÂPERSET OFÀNOT A SUBSET OFÈPERSET OFÀSUBSET OF OR E",
      "QUAL TOÂPERSET OF OR EQUAL TOÀNEITHER A SUBSET OF NOR EQUAL TO",
      "ÌPERSET OF NOR EQUAL TOÀSUBSET OFbNOT EQUAL TOÂPERSET OFbNOT EQUAL TO",
      "ÀMULTISETÈ MULTIPLICATIONÉUNIONÀSQUARE IMAGE OFÇORIGINAL OF",
      "ÇIMAGE OF OR EQUAL TOÇORIGINAL OF OR EQUAL TOÇCAPÈUPÀCIRCLED PLUS",
      "ÈMINUSÈTIMESÈDIVISION SLASHÉOT OPERATORÈRING OPERATORÈASTERISK OPERAT",
      "ORÈEQUALSÈDASHÀSQUARED PLUSÈMINUSÈTIMESÈDOT OPERATORÀk TACKÀoTACK",
      "ÀDOWN TACKÀUP TACKÀASSERTIONÀMODELSÀTRUEÀFORCESÀTRIPLE p BAR k TURNST",
      "ILEÀl p BAR l k TURNSTILEÂES NOT PROVEÀNOT TRUEÀDOES NOT FORCE",
      "ÀNEGATED l p BAR l k TURNSTILEÀPRECEDES UNDER RELATIONÀSUCCEEDS UNDER",
      " RELATIONÀNORMAL SUBGROUP OFÀCONTAINS AS NORMAL SUBGROUPÀNORMAL SUBGR",
      "OUP OF OR EQUAL TOÀCONTAINS AS NORMAL SUBGROUP OR EQUAL TO",
      "ÀORIGINAL OFÀIMAGE OFÀMULTIMAPÀHERMITIAN CONJUGATE MATRIXÀINTERCALATE",
      "ÀXORÀNANDÁORÀk ANGLEbARCÆTRIANGLEÀN-ARY LOGICAL ANDÎORÆINTERSECTION",
      "ÆUNIONÀDIAMOND OPERATORÁOT OPERATORÀSTAR OPERATORÀDIVISION TIMES",
      "ÀBOWTIEÀoNORMAL FACTOR SEMIDIRECT PRODUCTÀk NORMAL FACTOR SEMIDIRECT ",
      "PRODUCTÀoSEMIDIRECT PRODUCTÀk SEMIDIRECT PRODUCTÁEVERSED TILDE EQUALS",
      "ÀCURLY LOGICAL ORÎANDÀl SUBSETÉPERSETÇINTERSECTIONÇUNIONÀPITCHFORK",
      "ÀEQUALgPARALLEL TOÀLESS-THANbDOTÀGREATER-THANbDOTÀVERY MUCH LESS-THAN",
      "ÊGREATER-THANÀLESS-THAN EQUAL TO OR GREATER-THANÀGREATER-THAN EQUAL T",
      "O OR LESS-THANÀEQUAL TO OR LESS-THANÌGREATER-THANÌPRECEDESÌSUCCEEDS",
      "ÀDOES NOT PRECEDE OR EQUALÉSUCCEED OR EQUALÀNOT SQUARE IMAGE OF OR EQ",
      "UAL TOËORIGINAL OF OR EQUAL TOÀSQUARE IMAGE OF OR NOT EQUAL TO",
      "ÇORIGINAL OF OR NOT EQUAL TOÀLESS-THAN BUT NOT EQUIVALENT TO",
      "ÀGREATER-THAN BUT NOT EQUIVALENT TOÀPRECEDES BUT NOT EQUIVALENT TO",
      "ÀSUCCEEDS BUT NOT EQUIVALENT TOÀNOT NORMAL SUBGROUP OFÀDOES NOT CONTA",
      "IN AS NORMAL SUBGROUPÀNOT NORMAL SUBGROUP OF OR EQUAL TOÀDOES NOT CON",
      "TAIN AS NORMAL SUBGROUP OR EQUALÀp ELLIPSISÀMIDLINE w ELLIPSIS",
      "ÀUP k DIAGONAL ELLIPSISÀDOWN k DIAGONAL ELLIPSISÀELEMENT OFbLONG w v",
      "Ðp BAR AT END OF w vÀd ELEMENT OFbp BAR AT END OF w vÀELEMENT OFbDOTi",
      "ÐOVERBARÀd ELEMENT OFbOVERBARÀELEMENT OFbUNDERBARÐTWO w vS",
      "ÀCONTAINSbLONG w vÎp BAR AT END OF w vÀd CONTAINSbp BAR AT END OF w v",
      "ÀCONTAINSbOVERBARÀd CONTAINSbOVERBARÀZ NOTATION BAG MEMBERSHIP",
      "ÀDIAMETERhÀELECTRICfÀHOUSEÀUPfHEADÀDOWNfHEADÀPROJECTIVEÁERSPECTIVE",
      "ÀWAVY LINEÀoCEILINGÀk CEILINGÀoFLOORÀk FLOORÀBOTTOM k CROPÇoCROP",
      "ÀTOP k CROPÄoCROPÀREVERSED NOThÀSQUARE LOZENGEÀARCÀSEGMENTÂCTOR",
      "ÀTELEPHONE RECORDERÀPOSITION INDICATORÀVIEWDATA SQUAREÀPLACE OF INTER",
      "ESThÀTURNED NOThÀWATCHÀHOURGLASSÀTOP oCORNERÄk CORNERÀBOTTOM oCORNER",
      "Çk CORNERÀTOP HALF INTEGRALÀBOTTOM HALF INTEGRALÀFROWNÀSMILE",
      "ÀUPfHEAD BETWEEN TWO w BARSÀOPTION KEYÀERASE TO THE kÀX IN A RECTANGL",
      "E BOXÀKEYBOARDÀLEFT-POINTING ANGLE BRACKETÀk-POINTING ANGLE BRACKET",
      "ÀERASE TO THE LEFTÀBENZENE RINGÀCYLINDRICITYÀALL AROUND-PROFILE",
      "ÀSYMMETRYÀTOTAL RUNOUTÀDIMENSION ORIGINÀCONICAL TAPERÀSLOPE",
      "ÀCOUNTERBOREÇSINKÀAPL FUNCTIONALq I-BEAMÖSQUISH QUADÖQUAD EQUAL",
      "ÛDIVIDEÝAMONDÛJOTÛCIRCLEÖCIRCLE STILEÝJOTÖSLASH BARÖBACKSLASH BAR",
      "ÖQUAD SLASHÛBACKSLASHÛLESS-THANÛGREATER-THANÖs VANEÖkWARDS VANE",
      "ÖQUAD sfÛkWARDSfÖCIRCLE BACKSLASHÖDOWN TACK UNDERBAR×ELTA STILE",
      "ÖQUAD DOWN CARETÜELTAÖDOWN TACK JOTÖUPWARDS VANEÖQUAD UPWARDSf",
      "ÖUP TACK OVERBARÖDEL STILEÖQUAD UP CARETÛDELÖUP TACK JOTÖDOWNWARDS VA",
      "NEÖQUAD DOWNWARDSfØOTE UNDERBARÖDELTA UNDERBAR×IAMOND UNDERBAR",
      "ÖJOT UNDERBARÖCIRCLE UNDERBARÖUP SHOE JOTÖQUOTE QUADÖCIRCLE STAR",
      "ÖQUAD COLONÖUP TACK DIAERESISÖDEL DIAERESISÖSTAR DIAERESIS",
      "ÖJOT DIAERESISÖCIRCLE DIAERESISÖDOWN SHOE STILEÖoSHOE STILE",
      "ÖTILDE DIAERESISÖGREATER-THAN DIAERESISÖCOMMA BARÖDEL TILDEÖZILDE",
      "ÖSTILE TILDE×EMICOLON UNDERBARÖQUAD NOT EQUALÛQUESTIONÖDOWN CARET TIL",
      "DEÖUP CARET TILDEÖIOTAÖRHOÖOMEGAÖALPHA UNDERBARÖEPSILON UNDERBAR",
      "ÖIOTA UNDERBARÖOMEGA UNDERBARÖALPHAÀNOT CHECKuÀk ANGLEbDOWNWARDS ZIGZ",
      "AGfÀSHOULDERED OPEN BOXÀBELLqÀp LINEbyDOTÀINSERTIONqÀCONTINUOUS UNDER",
      "LINEqÀDISCONTINUOUS UNDERLINEqÀEMPHASISqÀCOMPOSITIONqÀWHITE SQUAREbCE",
      "NTRE p LINEÀENTERqÀALTERNATIVE KEYqÀHELMqÀCIRCLED w BARbNOTCH",
      "ÈTRIANGLE DOWNÀBROKEN CIRCLEbNORTHWESTfÀUNDOqÀMONOSTABLEqÀHYSTERESISq",
      "ÀOPEN-CIRCUIT-OUTPUT H-TYPEqÔL-TYPEqÀPASSIVE-PULL-DOWN-OUTPUTq",
      "ÍUP-OUTPUTqÀDIRECT CURRENTqe TWOÀSOFTWARE-FUNCTIONqÀAPL FUNCTIONALq Q",
      "UADÀDECIMAL SEPARATOR KEYqÀPREVIOUS PAGEÀNEXT PAGEÀPRINT SCREENq",
      "ÀCLEAR SCREENqÀoPARENTHESIS UPPER HOOKÑEXTENSIONÑLOWER HOOK",
      "Àk PARENTHESIS UPPER HOOKÒEXTENSIONÒLOWER HOOKÀoSQUARE BRACKET UPPER ",
      "CORNERÔEXTENSIONÔLOWER CORNERÀk SQUARE BRACKET UPPER CORNERÕEXTENSION",
      "ÕLOWER CORNERÀoCURLY BRACKET UPPER HOOKÓyPIECEÓLOWER HOOKÀCURLY BRACK",
      "ET EXTENSIONÀk CURLY BRACKET UPPER HOOKÔyPIECEÔLOWER HOOKÀINTEGRAL EX",
      "TENSIONÀw LINE EXTENSIONÀUPPER oOR LOWER k CURLY BRACKET SECTION",
      "Æk OR LOWER oCURLY BRACKET SECTIONÀSUMMATION TOPÊBOTTOMÀTOP SQUARE BR",
      "ACKETÀBOTTOM SQUARE BRACKETÕ OVER TOP SQUARE BRACKETÀRADICALq BOTTOM",
      "Àop BOX LINEÀk p BOX LINEÀw SCAN LINE-1Õ3Õ7Õ9ÀDENTISTRYq LIGHT pgTOP ",
      "käBOTTOM kàWITH CIRCLE×DOWNgwbCIRCLE×UPgwbCIRCLE×pbTRIANGLE",
      "×DOWNgwbTRIANGLE×UPgwbTRIANGLE×pgWAVE×DOWNgwbWAVE×UPgwbWAVE×DOWNgw",
      "×UPgw×pgTOP LEFTäBOTTOM LEFTÀSQUARE FOOTÀRETURNqÀEJECTqÀp LINE EXTENS",
      "IONÀMETRICAL BREVEÉLONG OVER SHORTÉSHORT OVER LONGÉLONG OVER TWO SHOR",
      "TSÉTWO SHORTS OVER LONGÔJOINEDÊRISEMEÊETRASEMEÉPENTASEMEÀEARTH GROUND",
      "ÀFUSEÀTOP PARENTHESISÀBOTTOM PARENTHESISÀTOP CURLY BRACKET",
      "ÀBOTTOM CURLY BRACKETÀTOP TORTOISE SHELL BRACKETÀBOTTOM TORTOISE SHEL",
      "L BRACKETÀWHITE TRAPEZIUMÀBENZENE RINGbCIRCLEÀSTRAIGHTNESSÀFLATNESS",
      "ÀAC CURRENTÀELECTRICAL INTERSECTIONÀDECIMAL EXPONENTqÀx k-POINTING l ",
      "TRIANGLEÆLEFT-POINTING l TRIANGLEÆUP-POINTING l TRIANGLEÆDOWN-POINTIN",
      "G l TRIANGLEÆk-POINTING l TRIANGLEbp BARÆLEFT-POINTING l TRIANGLEbp B",
      "ARÆk-POINTING TRIANGLEbl p BARÀALARM CLOCKÀSTOPWATCHÀTIMER CLOCK",
      "ÀHOURGLASSbFLOWING SANDÀx MEDIUM LEFT-POINTING TRIANGLEÍk-POINTING TR",
      "IANGLEÍUP-POINTING TRIANGLEÍDOWN-POINTING TRIANGLEÀl p BAR",
      "Àx SQUARE FOR STOPÆCIRCLE FOR RECORDÀPOWERqÆON-OFFqÈqÆSLEEPq",
      "ÀOBSERVER EYEqÀSYMBOL FOR NULLËSTART OF HEADINGÔTEXTËEND OF TEXT",
      "ÓRANSMISSIONÍQUIRYËACKNOWLEDGEËBELLÌACKSPACEËw TABULATIONËLINE FEED",
      "Ëp TABULATIONËFORM FEEDËCARRIAGE RETURNËSHIFT OUTÑINËDATA LINK ESCAPE",
      "ÌEVICE CONTROL ONEÚTWOÛHREEÚFOURËNEGATIVE ACKNOWLEDGEËSYNCHRONOUS IDL",
      "EËEND OF TRANSMISSION BLOCKËCANCELËEND OF MEDIUMËSUBSTITUTEËESCAPE",
      "ËFILE SEPARATORËGROUP SEPARATORËRECORD SEPARATORËUNIT SEPARATORËSPACE",
      "ËDELETEÀBLANKqÀOPEN BOXÀSYMBOL FOR NEWLINEËDELETEe TWOËSUBSTITUTEe TW",
      "O"]),
    (0x2440, ["OCR HOOKÄCHAIRÄFORKÄINVERTED FORKÄBELT BUCKLEÅOW TIE",
      "ÅRANCH BANK IDENTIFICATIONÄAMOUNT OF CHECKÄDASHÄCUSTOMER ACCOUNT NUMB",
      "ERÄl BACKSLASH"]),
    (0x2460, ["CIRCLED DIGIT ONEÎTWOÏHREEÎFOURÏIVEÎSIXÏEVENÎEIGHTÎNINE",
      "ÈNUMBER TENÏELEVENÏTWELVEÐHIRTEENÏFOURTEENÐIFTEENÏSIXTEENÐEVENTEEN",
      "ÏEIGHTEENÏNINETEENÏTWENTYÀPARENTHESIZED DIGIT ONEÔTWOÕHREEÔFOURÕIVE",
      "ÔSIXÕEVENÔEIGHTÔNINEÎNUMBER TENÕELEVENÕTWELVEÖHIRTEENÕFOURTEENÖIFTEEN",
      "ÕSIXTEENÖEVENTEENÕEIGHTEENÕNINETEENÕTWENTYÀDIGIT ONE FULL STOP",
      "ÆTWO FULL STOPÇHREE FULL STOPÆFOUR FULL STOPÇIVE FULL STOP",
      "ÆSIX FULL STOPÇEVEN FULL STOPÆEIGHT FULL STOPÆNINE FULL STOP",
      "ÀNUMBER TEN FULL STOPÇELEVEN FULL STOPÇTWELVE FULL STOPÈHIRTEEN FULL ",
      "STOPÇFOURTEEN FULL STOPÈIFTEEN FULL STOPÇSIXTEEN FULL STOP",
      "ÈEVENTEEN FULL STOPÇEIGHTEEN FULL STOPÇNINETEEN FULL STOPÇTWENTY FULL",
      " STOPÀPARENTHESIZED LATIN daAáBáCáDáEáFáGáHáIáJáKáLáMáNáOáPáQáRáSáTáU",
      "áVáWáXáYáZÀCIRCLED LATIN caAÝBÝCÝDÝEÝFÝGÝHÝIÝJÝKÝLÝMÝNÝOÝPÝQÝRÝSÝTÝU",
      "ÝVÝWÝXÝYÝZÎdaAÛBÛCÛDÛEÛFÛGÛHÛIÛJÛKÛLÛMÛNÛOÛPÛQÛRÛSÛTÛUÛVÛWÛXÛYÛZ",
      "ÈDIGIT ZEROÀNEGATIVE CIRCLED NUMBER ELEVENØTWELVEÙHIRTEENØFOURTEEN",
      "ÙIFTEENØSIXTEENÙEVENTEENØEIGHTEENØNINETEENØTWENTYÀl CIRCLED DIGIT ONE",
      "ÕTWOÖHREEÕFOURÖIVEÕSIXÖEVENÕEIGHTÕNINEÏNUMBER TENÀNEGATIVE CIRCLED DI",
      "GIT ZEROÀBOX DRAWINGS LIGHT wÍHEAVY wÍLIGHT pÍHEAVY pÍLIGHT TRIPLE DA",
      "SH wÍHEAVY TRIPLE DASH wÍLIGHT TRIPLE DASH pÍHEAVY TRIPLE DASH p",
      "ÍLIGHT QUADRUPLE DASH wÍHEAVY QUADRUPLE DASH wÍLIGHT QUADRUPLE DASH p",
      "ÍHEAVY QUADRUPLE DASH pÍLIGHT DOWNgkÍDOWN LIGHTgk HEAVYÒHEAVYgk LIGHT",
      "ÍHEAVY DOWNgkÍLIGHT DOWNgLEFTÍDOWN LIGHTgoHEAVYÒHEAVYgoLIGHT",
      "ÍHEAVY DOWNgLEFTÍLIGHT UPgkÍUP LIGHTgk HEAVYÐHEAVYgk LIGHTÍHEAVY UPgk",
      "ÍLIGHT UPgLEFTÍUP LIGHTgoHEAVYÐHEAVYgoLIGHTÍHEAVY UPgLEFTÍLIGHT pgk",
      "Íp LIGHTgk HEAVYÍUP HEAVYgk DOWN LIGHTÍDOWN HEAVYgk UP LIGHT",
      "Íp HEAVYgk LIGHTÍDOWN LIGHTgk UP HEAVYÍUP LIGHTgk DOWN HEAVY",
      "ÍHEAVY pgkÍLIGHT pgLEFTÍp LIGHTgoHEAVYÍUP HEAVYgoDOWN LIGHT",
      "ÍDOWN HEAVYgoUP LIGHTÍp HEAVYgoLIGHTÍDOWN LIGHTgoUP HEAVYÍUP LIGHTgoD",
      "OWN HEAVYÍHEAVY pgLEFTÍLIGHT DOWNgwÎEFT HEAVYgk DOWN LIGHT",
      "Ík HEAVYgoDOWN LIGHTÍDOWN LIGHTgw HEAVYÒHEAVYgw LIGHTÍk LIGHTgoDOWN H",
      "EAVYÍoLIGHTgk DOWN HEAVYÍHEAVY DOWNgwÍLIGHT UPgwÎEFT HEAVYgk UP LIGHT",
      "Ík HEAVYgoUP LIGHTÍUP LIGHTgw HEAVYÐHEAVYgw LIGHTÍk LIGHTgoUP HEAVY",
      "ÍoLIGHTgk UP HEAVYÍHEAVY UPgwÍLIGHT pgwÎEFT HEAVYgk p LIGHT",
      "Ík HEAVYgop LIGHTÍp LIGHTgw HEAVYÍUP HEAVYgDOWN w LIGHTÍDOWN HEAVYgUP",
      " w LIGHTÍp HEAVYgw LIGHTÍoUP HEAVYgk DOWN LIGHTÍk UP HEAVYgoDOWN LIGH",
      "TÍoDOWN HEAVYgk UP LIGHTÍk DOWN HEAVYgoUP LIGHTÍDOWN LIGHTgUP w HEAVY",
      "ÍUP LIGHTgDOWN w HEAVYÍk LIGHTgop HEAVYÍoLIGHTgk p HEAVYÍHEAVY pgw",
      "ÍLIGHT l DASH wÍHEAVY l DASH wÍLIGHT l DASH pÍHEAVY l DASH pÍl wÔp",
      "ÏWN SINGLEgk lÒlgk SINGLEÏUBLE DOWNgkÏWN SINGLEgolÒlgoSINGLE",
      "ÏUBLE DOWNgLEFTÍUP SINGLEgk lÐlgk SINGLEÍl UPgkÍUP SINGLEgol",
      "ÐlgoSINGLEÍl UPgLEFTÍp SINGLEgk lÖlgk SINGLEÍl pgkÍp SINGLEgol",
      "ÖlgoSINGLEÍl pgLEFTÏWN SINGLEgw lÒlgw SINGLEÏUBLE DOWNgwÍUP SINGLEgw ",
      "lÐlgw SINGLEÍl UPgwÍp SINGLEgw lÖlgw SINGLEÍl pgwÍLIGHT ARC DOWNgk",
      "àLEFT×UPgLEFTÞkÓDIAGONAL UPPER k TO LOWER LEFTâoTO LOWER kÜCROSSÓLEFT",
      "ÓUPÓkÓDOWNÍHEAVY LEFTÓUPÓkÓDOWNÍLIGHT LEFTgHEAVY kÓUPgHEAVY DOWN",
      "ÍHEAVY LEFTgLIGHT kÓUPgLIGHT DOWNÀUPPER HALF BLOCKÀLOWER ONE EIGHTH B",
      "LOCKÊQUARTER BLOCKÆTHREE EIGHTHS BLOCKÆHALF BLOCKÆFIVE EIGHTHS BLOCK",
      "ÆTHREE QUARTERS BLOCKÆSEVEN EIGHTHS BLOCKÀFULL BLOCKÀoSEVEN EIGHTHS B",
      "LOCKÅTHREE QUARTERS BLOCKÅFIVE EIGHTHS BLOCKÅHALF BLOCKÅTHREE EIGHTHS",
      " BLOCKÅONE QUARTER BLOCKÉEIGHTH BLOCKÀk HALF BLOCKÀLIGHT SHADE",
      "ÀMEDIUM SHADEÀDARK SHADEÀUPPER ONE EIGHTH BLOCKÀk ONE EIGHTH BLOCK",
      "ÀQUADRANT LOWER LEFTÏkÉUPPER LEFTÓgLOWER LEFTgLOWER kÞkØUPPER kgLOWER",
      " LEFTîkÏkÔgLOWER LEFTãgLOWER kÀx SQUAREÀWHITE SQUAREÌbROUNDED CORNERS",
      "ÍCONTAINING x d SQUAREÀSQUAREbw FILLÌp FILLÌORTHOGONAL CROSSHATCH FIL",
      "LÌUPPER oTO LOWER k FILLÒk TO LOWER oFILLÌDIAGONAL CROSSHATCH FILL",
      "Àx d SQUAREÀWHITE d SQUAREÀx RECTANGLEÀWHITE RECTANGLEÀx p RECTANGLE",
      "ÀWHITE p RECTANGLEÀx PARALLELOGRAMÀWHITE PARALLELOGRAMÀx UP-POINTING ",
      "TRIANGLEÀWHITE UP-POINTING TRIANGLEÀx UP-POINTING d TRIANGLE",
      "ÀWHITE UP-POINTING d TRIANGLEÀx k-POINTING TRIANGLEÀWHITE k-POINTING ",
      "TRIANGLEÀx k-POINTING d TRIANGLEÀWHITE k-POINTING d TRIANGLE",
      "Àx k-POINTING POINTERÀWHITE k-POINTING POINTERÀx DOWN-POINTING TRIANG",
      "LEÀWHITE DOWN-POINTING TRIANGLEÀx DOWN-POINTING d TRIANGLE",
      "ÀWHITE DOWN-POINTING d TRIANGLEÀx LEFT-POINTING TRIANGLEÀWHITE LEFT-P",
      "OINTING TRIANGLEÀx LEFT-POINTING d TRIANGLEÀWHITE LEFT-POINTING d TRI",
      "ANGLEÀx LEFT-POINTING POINTERÀWHITE LEFT-POINTING POINTERÀx DIAMOND",
      "ÀWHITE DIAMONDÍ CONTAINING x d DIAMONDÀFISHEYEÀLOZENGEÀWHITE CIRCLE",
      "ÀDOTTED CIRCLEÀCIRCLEbp FILLÀBULLSEYEÁLACK CIRCLEÀCIRCLEboHALF x",
      "Ìk HALF xÌLOWER HALF xÌUPPER HALF xÒk QUADRANT xÌALL BUT UPPER oQUADR",
      "ANT xÀoHALF x CIRCLEÀk HALF x CIRCLEÀINVERSE BULLETÈWHITE CIRCLE",
      "ÀUPPER HALF INVERSE WHITE CIRCLEÀLOWER HALF INVERSE WHITE CIRCLE",
      "ÀUPPER oQUADRANT CIRCULAR ARCÆk QUADRANT CIRCULAR ARCÀLOWER k QUADRAN",
      "T CIRCULAR ARCÆoQUADRANT CIRCULAR ARCÀUPPER HALF CIRCLEÀLOWER HALF CI",
      "RCLEÀx LOWER k TRIANGLEÌoTRIANGLEÆUPPER oTRIANGLEÌk TRIANGLE",
      "ÀWHITE BULLETÀSQUAREboHALF xÌk HALF xÌUPPER oDIAGONAL HALF x",
      "ÌLOWER k DIAGONAL HALF xÀWHITE SQUAREbp BISECTING LINEÆUP-POINTING TR",
      "IANGLEbDOTÀUP-POINTING TRIANGLEboHALF xÚk HALF xÀLARGE CIRCLE",
      "ÀWHITE SQUAREbUPPER oQUADRANTÒLOWER oQUADRANTØk QUADRANTÒUPPER k QUAD",
      "RANTÆCIRCLEbUPPER oQUADRANTÒLOWER oQUADRANTØk QUADRANTÒUPPER k QUADRA",
      "NTÀUPPER oTRIANGLEÆk TRIANGLEÀLOWER oTRIANGLEÀWHITE MEDIUM SQUARE",
      "Àx MEDIUM SQUAREÀWHITE MEDIUM d SQUAREÀx MEDIUM d SQUAREÀLOWER k TRIA",
      "NGLEÀx SUNbRAYSÀCLOUDÀUMBRELLAÀSNOWMANÀCOMETÀx STARÀWHITE STAR",
      "ÀLIGHTNINGÀTHUNDERSTORMÀSUNÀASCENDING NODEÀDESCENDING NODE",
      "ÀCONJUNCTIONÀOPPOSITIONÀx TELEPHONEÀWHITE TELEPHONEÀBALLOT BOXÊbCHECK",
      "ÐXÀSALTIREÀUMBRELLAbRAIN DROPSÀHOT BEVERAGEÀWHITE SHOGI PIECE",
      "Àx SHOGI PIECEÀSHAMROCKÀREVERSED ROTATED FLORAL HEART BULLET",
      "Àx oPOINTING INDEXÆk POINTING INDEXÀWHITE oPOINTING INDEXÆUP POINTING",
      " INDEXÆk POINTING INDEXÆDOWN POINTING INDEXÀSKULLgCROSSBONESÀCAUTIONh",
      "ÀRADIOACTIVEhÀBIOHAZARDhÀCADUCEUSÀANKHÀORTHODOX CROSSÀCHI RHO",
      "ÁROSS OF LORRAINEÉJERUSALEMÀSTARgCRESCENTÀFARSIqÀADI SHAKTI",
      "ÀHAMMERgSICKLEÀPEACEqÀYIN YANGÀTRIGRAM FOR HEAVENÌLAKEÌFIREÌTHUNDER",
      "ÌWINDÍATERÌMOUNTAINÌEARTHÀWHEEL OF DHARMAÂITE FROWNING FACE",
      "ÆSMILING FACEÀx SMILING FACEÀWHITE SUNbRAYSÀFIRST QUARTER MOON",
      "ÀLAST QUARTER MOONÀMERCURYÀFEMALEhÀEARTHÀMALEhÀJUPITERÀSATURNÀURANUS",
      "ÀNEPTUNEÀPLUTOÀARIESÀTAURUSÀGEMINIÀCANCERÀLEOÀVIRGOÀLIBRAÀSCORPIUS",
      "ÁAGITTARIUSÀCAPRICORNÀAQUARIUSÀPISCESÀWHITE CHESS KINGÌQUEENÌROOK",
      "ÌBISHOPÌKNIGHTÌPAWNÀx CHESS KINGÌQUEENÌROOKÌBISHOPÌKNIGHTÌPAWN",
      "ÆSPADE SUITÀWHITE HEART SUITÆDIAMOND SUITÀx CLUB SUITÀWHITE SPADE SUI",
      "TÀx HEART SUITÆDIAMOND SUITÀWHITE CLUB SUITÀHOT SPRINGSÀQUARTER NOTE",
      "ÀEIGHTH NOTEÀBEAMED EIGHTH NOTESÇSIXTEENTH NOTESÀMUSIC FLAThÆNATURALh",
      "ÆSHARPhÀWEST SYRIAC CROSSÀEAST SYRIAC CROSSÀUNIVERSAL RECYCLINGq",
      "ÀRECYCLINGq FOR TYPE-1 PLASTICSÚ2 PLASTICSÚ3 PLASTICSÚ4 PLASTICS",
      "Ú5 PLASTICSÚ6 PLASTICSÚ7 PLASTICSÕGENERIC MATERIALSÀx UNIVERSAL RECYC",
      "LINGqÀRECYCLED PAPERqÀPARTIALLY-RECYCLED PAPERqÁERMANENT PAPERh",
      "ÀWHEELCHAIRqÀDIE FACE-1É2É3É4É5É6ÀWHITE CIRCLEbDOT kÒTWO DOTS",
      "Àx CIRCLEbWHITE DOT kÒTWO WHITE DOTSÀMONOGRAM FOR YANGÎINÀDIGRAM FOR ",
      "GREATER YANGËLESSER YINÓANGËGREATER YINÀWHITE FLAGÀx FLAGÀHAMMERgPICK",
      "ÀANCHORÀCROSSED SWORDSÀSTAFF OF AESCULAPIUSÁCALESÀALEMBICÀFLOWERÀGEAR",
      "ÀSTAFF OF HERMESÀATOMqÀFLEUR-DE-LISÀOUTLINED WHITE STARÀTHREE LINES C",
      "ONVERGING k×LEFTÀWARNINGhÀHIGH VOLTAGEhÀlD FEMALEhÈMALEhÀINTERLOCKED ",
      "FEMALEgMALEhÀMALEgFEMALEhÅWITH vhÑAND MALEgFEMALEhÀp MALEbvh",
      "Àw MALEbvhÀMEDIUM WHITE CIRCLEÇx CIRCLEÇd WHITE CIRCLEÁARRIAGEq",
      "ÀDIVORCEqÀUNMARRIED PARTNERSHIPqÀCOFFINÀFUNERAL URNÀNEUTERÀCERES",
      "ÀPALLASÀJUNOÀVESTAÀCHIRONÀx MOON LILITHÀSEXTILEÂMISEXTILEÀQUINCUNX",
      "ÀSESQUIQUADRATEÁOCCER BALLÀBASEBALLÀSQUARED KEYÀWHITE DRAUGHTS MAN",
      "ÏKINGÀx DRAUGHTS MANÏKINGÀSNOWMAN WITHOUT SNOWÁUN BEHIND CLOUDÀRAIN",
      "Àx SNOWMANÀTHUNDER CLOUDgRAINÁURNED WHITE SHOGI PIECEÇx SHOGI PIECE",
      "ÀWHITE DIAMOND IN SQUAREÀCROSSING LANESÀDISABLED CARÀOPHIUCHUSÀPICK",
      "ÀCAR SLIDINGÀHELMETbWHITE CROSSÀCIRCLED CROSSING LANESÁHAINSÀNO ENTRY",
      "ÀALTERNATE ONE-WAY oWAY TRAFFICÀx TWO-WAY oWAY TRAFFICÀWHITE TWO-WAY ",
      "oWAY TRAFFICÀx oLANE MERGEÀWHITE oLANE MERGEÀDRIVE SLOWhÀHEAVY WHITE ",
      "DOWN-POINTING TRIANGLEÀoCLOSED ENTRYÀSQUARED SALTIREÀFALLING DIAGONAL",
      " IN WHITE CIRCLE IN x SQUAREÀx TRUCKÀRESTRICTED oENTRY-1Ö2",
      "ÀASTRONOMICALq FOR URANUSÀHEAVY CIRCLEbvgTWO DOTSiÀPENTAGRAM",
      "Àk-HANDED INTERLACED PENTAGRAMÀLEFT-HANDED INTERLACED PENTAGRAM",
      "ÀINVERTED PENTAGRAMÀx CROSS ON SHIELDÀSHINTO SHRINEÀCHURCHÁASTLE",
      "ÀHISTORIC SITEÀGEAR WITHOUT HUBÉ HANDLESÀMAPq FOR LIGHTHOUSEÁOUNTAIN",
      "ÀUMBRELLA ON GROUNDÀFOUNTAINÁLAG IN HOLEÁERRYÀSAILBOATÁQUARE FOUR COR",
      "NERSÁKIERÀICE SKATEÀPERSONbBALLÀTENTÀJAPANESE BANKqÀHEADSTONE GRAVEYA",
      "RDqÀFUEL PUMPÀCUP ON x SQUAREÀWHITE FLAGbw yx STRIPEÀx SAFETY SCISSOR",
      "SÀUPPER BLADE SCISSORSÀx SCISSORSÀLOWER BLADE SCISSORSÀWHITE SCISSORS",
      "ÆHEAVY CHECKuÀTELEPHONE LOCATIONhÁAPE DRIVEÀAIRPLANEÀENVELOPE",
      "ÀRAISED FISTÇHANDÀVICTORY HANDÀWRITING HANDÀLOWER k PENCILÀPENCIL",
      "ÀUPPER k PENCILÀWHITE NIBÀx NIBÀCHECKuÀHEAVY CHECKuÀMULTIPLICATION X",
      "ÀHEAVY MULTIPLICATION XÀBALLOT XÀHEAVY BALLOT XÀOUTLINED GREEK CROSS",
      "ÀHEAVY GREEK CROSSÀOPEN CENTRE CROSSÀHEAVY OPEN CENTRE CROSS",
      "ÀLATIN CROSSÀSHADOWED WHITE LATIN CROSSÀOUTLINED LATIN CROSS",
      "ÀMALTESE CROSSÀSTAR OF DAVIDÀFOUR TEARDROP-SPOKED ASTERISK",
      "ÅBALLOON-SPOKED ASTERISKÀHEAVY FOUR BALLOON-SPOKED ASTERISK",
      "ÀFOUR CLUB-SPOKED ASTERISKÀx FOUR POINTED STARÀWHITE FOUR POINTED STA",
      "RÀSPARKLESÁTRESS OUTLINED WHITE STARÀCIRCLED WHITE STARÀOPEN CENTRE x",
      " STARÀx CENTRE WHITE STARÀOUTLINED x STARÀHEAVY OUTLINED x STAR",
      "ÀPINWHEEL STARÀSHADOWED WHITE STARÀHEAVY ASTERISKÀOPEN CENTRE ASTERIS",
      "KÀEIGHT SPOKED ASTERISKÆPOINTED x STARÎPINWHEEL STARÀSIX POINTED x ST",
      "ARÀEIGHT POINTED RECTILINEAR x STARÀHEAVY EIGHT POINTED RECTILINEAR x",
      " STARÀTWELVE POINTED x STARÀSIXTEEN POINTED ASTERISKÀTEARDROP-SPOKED ",
      "ASTERISKÀOPEN CENTRE TEARDROP-SPOKED ASTERISKÀHEAVY TEARDROP-SPOKED A",
      "STERISKÀSIX PETALLED xgWHITE FLORETTEÀx FLORETTEÀWHITE FLORETTE",
      "ÀEIGHT PETALLED OUTLINED x FLORETTEÀCIRCLED OPEN CENTRE EIGHT POINTED",
      " STARÀHEAVY TEARDROP-SPOKED PINWHEEL ASTERISKÀSNOWFLAKEÀTIGHT TRIFOLI",
      "ATE SNOWFLAKEÀHEAVY CHEVRON SNOWFLAKEÀSPARKLEÀHEAVY SPARKLE",
      "ÀBALLOON-SPOKED ASTERISKÀEIGHT TEARDROP-SPOKED PROPELLER ASTERISK",
      "ÀHEAVY EIGHT TEARDROP-SPOKED PROPELLER ASTERISKÀCROSSuÀSHADOWED WHITE",
      " CIRCLEÀNEGATIVE SQUARED CROSSuÀLOWER k DROP-SHADOWED WHITE SQUARE",
      "ÀUPPER k DROP-SHADOWED WHITE SQUAREÀLOWER k SHADOWED WHITE SQUARE",
      "ÀUPPER k SHADOWED WHITE SQUAREÀx QUESTIONu ORNAMENTÀWHITE QUESTIONu O",
      "RNAMENTÆEXCLAMATIONu ORNAMENTÀx DIAMOND MINUS WHITE XÀHEAVY EXCLAMATI",
      "ONuqÀLIGHT p BARÀMEDIUM p BARÀHEAVY p BARÆSINGLE TURNED COMMA QUOTATI",
      "ONu ORNAMENTÍCOMMA QUOTATIONu ORNAMENTÆl TURNED COMMA QUOTATIONu ORNA",
      "MENTÍCOMMA QUOTATIONu ORNAMENTÆLOW SINGLE COMMA QUOTATIONu ORNAMENT",
      "Êl COMMA QUOTATIONu ORNAMENTÀCURVED STEM PARAGRAPHh ORNAMENT",
      "ÀHEAVY EXCLAMATIONu ORNAMENTÆHEART EXCLAMATIONu ORNAMENTÆx HEART",
      "ÀROTATED HEAVY x HEART BULLETÀFLORAL HEARTÀROTATED FLORAL HEART BULLE",
      "TÀMEDIUM oPARENTHESIS ORNAMENTÇk PARENTHESIS ORNAMENTÇFLATTENED oPARE",
      "NTHESIS ORNAMENTÑk PARENTHESIS ORNAMENTÇLEFT-POINTING ANGLE BRACKET O",
      "RNAMENTÇk-POINTING ANGLE BRACKET ORNAMENTÀHEAVY LEFT-POINTING ANGLE Q",
      "UOTATIONu ORNAMENTÆk-POINTING ANGLE QUOTATIONu ORNAMENTÆLEFT-POINTING",
      " ANGLE BRACKET ORNAMENTÆk-POINTING ANGLE BRACKET ORNAMENTÀLIGHT oTORT",
      "OISE SHELL BRACKET ORNAMENTÆk TORTOISE SHELL BRACKET ORNAMENT",
      "ÀMEDIUM oCURLY BRACKET ORNAMENTÇk CURLY BRACKET ORNAMENTÀDINGBAT NEGA",
      "TIVE CIRCLED DIGIT ONEßTWOàHREEßFOURàIVEßSIXàEVENßEIGHTßNINE",
      "ÙNUMBER TENÈCIRCLED SANS-SERIF DIGIT ONEáTWOâHREEáFOURâIVEáSIXâEVEN",
      "áEIGHTáNINEÛNUMBER TENÈNEGATIVE CIRCLED SANS-SERIF DIGIT ONEêTWOëHREE",
      "êFOURëIVEêSIXëEVENêEIGHTêNINEäNUMBER TENÀHEAVY WIDE-HEADED kWARDSf",
      "ÆPLUShÆMINUShÆDIVISIONhÆSOUTH EASTfÆkWARDSfÆNORTH EASTfÀDRAFTING POIN",
      "T kWARDSfÀHEAVY ROUND-TIPPED kWARDSfÀTRIANGLE-HEADED kWARDSf",
      "ÀHEAVYt kWARDSfÀDASHEDt kWARDSfÀHEAVY DASHEDt kWARDSfÀx kWARDSf",
      "ÀTHREE-D TOP-LIGHTED kWARDSfHEADÈBOTTOM-LIGHTED kWARDSfHEAD",
      "Àx kWARDSfHEADÀHEAVY x CURVED DOWNWARDSgkWARDSfÓUPWARDSgkWARDSf",
      "ÀSQUAT x kWARDSfÀHEAVY CONCAVE-POINTED x kWARDSfÀk-SHADED WHITE kWARD",
      "SfÀLEFT-SHADED WHITE kWARDSfÀBACK-TILTED SHADOWED WHITE kWARDSf",
      "ÀFRONT-TILTED SHADOWED WHITE kWARDSfÀHEAVY LOWER k-SHADOWED WHITE kWA",
      "RDSfÆUPPER k-SHADOWED WHITE kWARDSfÀNOTCHED LOWER k-SHADOWED WHITE kW",
      "ARDSfÀCURLY LOOPÀNOTCHED UPPER k-SHADOWED WHITE kWARDSfÀCIRCLED HEAVY",
      " WHITE kWARDSfÀWHITE-FEATHERED kWARDSfÀx-FEATHERED SOUTH EASTf",
      "ÐkWARDSfÐNORTH EASTfÀHEAVY x-FEATHERED SOUTH EASTfÖkWARDSf",
      "ÖNORTH EASTfÀTEARDROP-BARBED kWARDSfÀHEAVY TEARDROP-SHANKED kWARDSf",
      "ÀWEDGE-TAILED kWARDSfÀHEAVY WEDGE-TAILED kWARDSfÀOPEN-OUTLINED kWARDS",
      "fÀl CURLY LOOPÀTHREE DIMENSIONAL ANGLEÀWHITE TRIANGLE CONTAINING d WH",
      "ITE TRIANGLEÀPERPENDICULARÀOPEN SUBSETÇPERSETÀoS-SHAPED BAG DELIMITER",
      "Àk S-SHAPED BAG DELIMITERÀORbDOT INSIDEÀREVERSE SOLIDUS PRECEDING SUB",
      "SETÀSUPERSET PRECEDING SOLIDUSÀp BARbw vÀMATHEMATICAL RISING DIAGONAL",
      "ÀLONG DIVISIONÀMATHEMATICAL FALLING DIAGONALÀSQUARED LOGICAL ANDÐOR",
      "ÀWHITE DIAMONDbCENTRED DOTÀANDbDOTÀELEMENT OF OPENING UPWARDS",
      "ÀLOWER k CORNERbDOTÀUPPER oCORNERbDOTÀoOUTER JOINÀk OUTER JOIN",
      "ÀFULL OUTER JOINÀLARGE UP TACKÆDOWN TACKÁEFTgk l TURNSTILEÏTACK",
      "ÅMULTIMAPÁONG k TACKÅoTACKÀUP TACKbCIRCLEiÀLOZENGE DIVIDED BY w RULE",
      "ÀWHITE CONCAVE-SIDED DIAMONDÛbs TICKákWARDS TICKÆSQUAREbs TICK",
      "ÒkWARDS TICKÀMATHEMATICAL oWHITE SQUARE BRACKETÍk WHITE SQUARE BRACKE",
      "TÍoANGLE BRACKETÍk ANGLE BRACKETÍol ANGLE BRACKETÍk l ANGLE BRACKET",
      "ÍoWHITE TORTOISE SHELL BRACKETÍk WHITE TORTOISE SHELL BRACKET",
      "ÍoFLATTENED PARENTHESISÍk FLATTENED PARENTHESISÀUPWARDS QUADRUPLEf",
      "ÀDOWNWARDS QUADRUPLEfÀANTICLOCKWISE GAPPED CIRCLEfÀCLOCKWISE GAPPED C",
      "IRCLEfÀkfbCIRCLED PLUSÀLONG sfÅkWARDSfÅokfÉWARDS lfÅkWARDS lfÅok lf",
      "ÉWARDSf FROM BARÅkWARDSf FROM BARÅs lf FROM BARÅkWARDS lf FROM BAR",
      "ÐSQUIGGLEfÀBRAILLE PATTERN BLANKÐDOTS-1Õ2Õ12Õ3Õ13Õ23Õ123Õ4Õ14Õ24Õ124",
      "Õ34Õ134Õ234Õ1234Õ5Õ15Õ25Õ125Õ35Õ135Õ235Õ1235Õ45Õ145Õ245Õ1245Õ345Õ1345",
      "Õ2345Õ12345Õ6Õ16Õ26Õ126Õ36Õ136Õ236Õ1236Õ46Õ146Õ246Õ1246Õ346Õ1346Õ2346",
      "Õ12346Õ56Õ156Õ256Õ1256Õ356Õ1356Õ2356Õ12356Õ456Õ1456Õ2456Õ12456Õ3456",
      "Õ13456Õ23456Õ123456Õ7Õ17Õ27Õ127Õ37Õ137Õ237Õ1237Õ47Õ147Õ247Õ1247Õ347",
      "Õ1347Õ2347Õ12347Õ57Õ157Õ257Õ1257Õ357Õ1357Õ2357Õ12357Õ457Õ1457Õ2457",
      "Õ12457Õ3457Õ13457Õ23457Õ123457Õ67Õ167Õ267Õ1267Õ367Õ1367Õ2367Õ12367",
      "Õ467Õ1467Õ2467Õ12467Õ3467Õ13467Õ23467Õ123467Õ567Õ1567Õ2567Õ12567Õ3567",
      "Õ13567Õ23567Õ123567Õ4567Õ14567Õ24567Õ124567Õ34567Õ134567Õ234567",
      "Õ1234567Õ8Õ18Õ28Õ128Õ38Õ138Õ238Õ1238Õ48Õ148Õ248Õ1248Õ348Õ1348Õ2348",
      "Õ12348Õ58Õ158Õ258Õ1258Õ358Õ1358Õ2358Õ12358Õ458Õ1458Õ2458Õ12458Õ3458",
      "Õ13458Õ23458Õ123458Õ68Õ168Õ268Õ1268Õ368Õ1368Õ2368Õ12368Õ468Õ1468Õ2468",
      "Õ12468Õ3468Õ13468Õ23468Õ123468Õ568Õ1568Õ2568Õ12568Õ3568Õ13568Õ23568",
      "Õ123568Õ4568Õ14568Õ24568Õ124568Õ34568Õ134568Õ234568Õ1234568Õ78Õ178",
      "Õ278Õ1278Õ378Õ1378Õ2378Õ12378Õ478Õ1478Õ2478Õ12478Õ3478Õ13478Õ23478",
      "Õ123478Õ578Õ1578Õ2578Õ12578Õ3578Õ13578Õ23578Õ123578Õ4578Õ14578Õ24578",
      "Õ124578Õ34578Õ134578Õ234578Õ1234578Õ678Õ1678Õ2678Õ12678Õ3678Õ13678",
      "Õ23678Õ123678Õ4678Õ14678Õ24678Õ124678Õ34678Õ134678Õ234678Õ1234678",
      "Õ5678Õ15678Õ25678Õ125678Õ35678Õ135678Õ235678Õ1235678Õ45678Õ145678",
      "Õ245678Õ1245678Õ345678Õ1345678Õ2345678Õ12345678ÀkWARDS TWO-HEADEDfbp ",
      "vál p vÀs lfbp vÀkWARDS lfbp vÀok lfbp vÀkWARDS TWO-HEADEDf FROM BAR",
      "Às lf FROM BARÀkWARDS lf FROM BARÀDOWNWARDSfbw vÀUPWARDSfbw vÈTRIPLEf",
      "ÀDOWNWARDS TRIPLEfÀs l DASHfÀkWARDS l DASHfÀs TRIPLE DASHf",
      "ÀkWARDS TRIPLE DASHfÌWO-HEADED TRIPLE DASHfËARROWbDOTTED STEM",
      "ÀUPWARDSf TO BARÀDOWNWARDSf TO BARÀkWARDSfbTAILbp vàl p vËTWO-HEADEDf",
      "bTAILåbp vël p vÀsf-TAILÀkWARDSf-TAILÀs lf-TAILÀkWARDS lf-TAIL",
      "Àsf TO x DIAMONDÀkWARDSf TO x DIAMONDÀsf FROM BAR TO x DIAMOND",
      "ÀkWARDSf FROM BAR TO x DIAMONDÀNORTH WESTgSOUTH EASTfÆEASTgSOUTH WEST",
      "fÆWESTfbHOOKÆEASTfbHOOKÀSOUTH EASTfbHOOKÆWESTfbHOOKÀNORTH WESTfgNORTH",
      " EASTfÆEASTfgSOUTH EASTfÀSOUTH EASTfgSOUTH WESTfÆWESTfgNORTH WESTf",
      "ÀRISING DIAGONAL CROSSING FALLING DIAGONALÀFALLING DIAGONAL CROSSING ",
      "RISING DIAGONALÀSOUTH EASTf CROSSING NORTH EASTfÀNORTH EASTf CROSSING",
      " SOUTH EASTfÀFALLING DIAGONAL CROSSING NORTH EASTfÀRISING DIAGONAL CR",
      "OSSING SOUTH EASTfÀNORTH EASTf CROSSING NORTH WESTfÆWESTf CROSSING NO",
      "RTH EASTfÀWAVEf POINTING DIRECTLY kÀARROW POINTING kWARDS THEN CURVIN",
      "G UPWARDSçDOWNWARDSÏDOWNWARDS THEN CURVING sækWARDSÀk-SIDE ARC CLOCKW",
      "ISEfÀLEFT-SIDE ARC ANTICLOCKWISEfÀTOP ARC ANTICLOCKWISEfÀBOTTOM ARC A",
      "NTICLOCKWISEfÀTOP ARC CLOCKWISEfbMINUSÈANTICLOCKWISEfbPLUS",
      "ÀLOWER k SEMICIRCULAR CLOCKWISEfÆoSEMICIRCULAR ANTICLOCKWISEf",
      "ÀANTICLOCKWISE CLOSED CIRCLEfÀCLOCKWISE CLOSED CIRCLEfÀkWARDSfi SHORT",
      " sfÀsfi SHORT kWARDSfÀSHORT kWARDSfi sfÀkWARDSfbPLUSmÀsfbPLUSm",
      "ÀkWARDSf THROUGH XÀokf THROUGH d CIRCLEÀUPWARDS TWO-HEADEDf FROM d CI",
      "RCLEÀoBARB UP k BARB DOWN HARPOONÊDOWN k BARB UP HARPOONÀUP BARB k DO",
      "WN BARB oHARPOONÈoDOWN BARB k HARPOONÀoBARB UP k BARB UP HARPOON",
      "ÀUP BARB k DOWN BARB k HARPOONÀoBARB DOWN k BARB DOWN HARPOON",
      "ÀUP BARB oDOWN BARB oHARPOONÀs HARPOONbBARB UP TO BARÀkWARDS HARPOONb",
      "BARB UP TO BARÀUPWARDS HARPOONbBARB k TO BARÀDOWNWARDS HARPOONbBARB k",
      " TO BARÀs HARPOONbBARB DOWN TO BARÀkWARDS HARPOONbBARB DOWN TO BAR",
      "ÀUPWARDS HARPOONbBARB oTO BARÀDOWNWARDS HARPOONbBARB oTO BAR",
      "Às HARPOONbBARB UP FROM BARÀkWARDS HARPOONbBARB UP FROM BAR",
      "ÀUPWARDS HARPOONbBARB k FROM BARÀDOWNWARDS HARPOONbBARB k FROM BAR",
      "Às HARPOONbBARB DOWN FROM BARÀkWARDS HARPOONbBARB DOWN FROM BAR",
      "ÀUPWARDS HARPOONbBARB oFROM BARÀDOWNWARDS HARPOONbBARB oFROM BAR",
      "Às HARPOONbBARB UPi s HARPOONbBARB DOWNÀUPWARDS HARPOONbBARB oBESIDE ",
      "UPWARDS HARPOONbBARB kÀkWARDS HARPOONbBARB UPi kWARDS HARPOONbBARB DO",
      "WNÀDOWNWARDS HARPOONbBARB oBESIDE DOWNWARDS HARPOONbBARB k",
      "Às HARPOONbBARB UPi kWARDS HARPOONbBARB UPÜDOWNi kWARDS HARPOONbBARB ",
      "DOWNÀkWARDS HARPOONbBARB UPi s HARPOONbBARB UPÝDOWNi s HARPOONbBARB D",
      "OWNÀs HARPOONbBARB UPi LONG DASHÜDOWNm LONG DASHÀkWARDS HARPOONbBARB ",
      "UPi LONG DASHÝDOWNm LONG DASHÀUPWARDS HARPOONbBARB oBESIDE DOWNWARDS ",
      "HARPOONbBARB kÀDOWNWARDS HARPOONbBARB oBESIDE UPWARDS HARPOONbBARB k",
      "Àk lfbROUNDED HEADÀEQUALShi kWARDSfÀTILDE OPERATORi kWARDSf",
      "Àsfi TILDE OPERATORÀkWARDSfi TILDE OPERATOR×ALMOST EQUAL TO",
      "ÀLESS-THANi sfÂFTWARDSf THROUGH LESS-THANÀGREATER-THANi kWARDSf",
      "ÀSUBSETi kWARDSfÀsf THROUGH SUBSETÀSUPERSETi sfÀoFISH TAIL",
      "Àk FISH TAILÀUP FISH TAILÀDOWN FISH TAILÀTRIPLE p BAR DELIMITER",
      "ÀZ NOTATION SPOTËTYPE COLONÀoWHITE CURLY BRACKETÀk WHITE CURLY BRACKE",
      "TÀoWHITE PARENTHESISÀk WHITE PARENTHESISÀZ NOTATION oIMAGE BRACKET",
      "Ëk IMAGE BRACKETËoBINDING BRACKETËk BINDING BRACKETÀoSQUARE BRACKETbU",
      "NDERBARÀk SQUARE BRACKETbUNDERBARÀoSQUARE BRACKETbTICK IN TOP CORNER",
      "Àk SQUARE BRACKETbTICK IN BOTTOM CORNERÀoSQUARE BRACKETbTICK IN BOTTO",
      "M CORNERÀk SQUARE BRACKETbTICK IN TOP CORNERÀoANGLE BRACKETbDOT",
      "Àk ANGLE BRACKETbDOTÀoARC LESS-THAN BRACKETÀk ARC GREATER-THAN BRACKE",
      "TÀl oARC GREATER-THAN BRACKETÇk ARC LESS-THAN BRACKETÀox TORTOISE SHE",
      "LL BRACKETÀk x TORTOISE SHELL BRACKETÀDOTTED FENCEÀp ZIGZAG LINE",
      "ÀMEASURED ANGLE OPENING LEFTÀk ANGLE VARIANTbSQUAREÀMEASURED k ANGLEb",
      "DOTÀANGLEbS INSIDEÁCUTE ANGLEÀSPHERICAL ANGLE OPENING LEFTØUP",
      "ÀTURNED ANGLEÀREVERSED ANGLEÀANGLEbUNDERBARÀREVERSED ANGLEbUNDERBAR",
      "ÀOBLIQUE ANGLE OPENING UPÖDOWNÀMEASURED ANGLEbOPEN ARM ENDING INf POI",
      "NTING UPgkü LEFTöDOWNgküND LEFTökgUPöLEFTgUPökgDOWNöLEFTgDOWN",
      "ÀREVERSED EMPTY SETÀEMPTY SETbOVERBARÏd CIRCLEiÏkfiÏLEFTfi",
      "ÀCIRCLEbw BARÆD p BARÈPARALLELÈREVERSE SOLIDUSÈPERPENDICULAR",
      "Æ DIVIDED BY w BARgTOP HALF DIVIDED BY p BARÇWITH SUPERIMPOSED X",
      "ÆD ANTICLOCKWISE-ROTATED DIVISIONhÀUPf THROUGH CIRCLEÀCIRCLED WHITE B",
      "ULLETÈBULLETÈLESS-THANÈGREATER-THANÆbd CIRCLE TO THE kÌTWO w vS TO TH",
      "E kÀSQUARED RISING DIAGONAL SLASHÈFALLING DIAGONAL SLASHÈASTERISK",
      "Èd CIRCLEÉQUAREÀTWO JOINED SQUARESÁRIANGLEbDOTiÎUNDERBARÀS IN TRIANGL",
      "EÀTRIANGLEbSERIFS AT BOTTOMÀk TRIANGLEi oTRIANGLEÀoTRIANGLE BESIDE p ",
      "BARÀp BAR BESIDE k TRIANGLEÀBOWTIEboHALF xÌk HALF xÁLACK BOWTIE",
      "ÀTIMESboHALF xËk HALF xÀWHITE HOURGLASSÀx HOURGLASSÀoWIGGLY FENCE",
      "Àk WIGGLY FENCEÀol WIGGLY FENCEÀk l WIGGLY FENCEÀINCOMPLETE INFINITY",
      "ÀTIE OVER INFINITYÀINFINITY NEGATEDbp BARÀl-ENDED MULTIMAP",
      "ÀSQUAREbCONTOURED OUTLINEÀINCREASES ASÀSHUFFLE PRODUCTÀEQUALShgSLANTE",
      "D PARALLELàbTILDEiÀIDENTICAL TOgSLANTED PARALLELÀGLEICH STARK",
      "ÀTHERMODYNAMICÀDOWN-POINTING TRIANGLEboHALF xÜk HALF xÀx DIAMONDbDOWN",
      "fÆLOZENGEÀWHITE CIRCLEbDOWNfÀx CIRCLEbDOWNfÀERROR-BARRED WHITE SQUARE",
      "Íx SQUAREÍWHITE DIAMONDÍx DIAMONDÍWHITE CIRCLEÍx CIRCLEÀRULE-DELAYED",
      "ÁEVERSE SOLIDUS OPERATORÀSOLIDUSbOVERBARÀREVERSE SOLIDUSbw v",
      "ÀBIG SOLIDUSÄREVERSE SOLIDUSÀl PLUSÀTRIPLE PLUSÀLEFT-POINTING CURVED ",
      "ANGLE BRACKETÀk-POINTING CURVED ANGLE BRACKETÀTINYÀMINYÀN-ARY CIRCLED",
      " DOT OPERATORÎPLUS OPERATORÎTIMES OPERATORÆUNION OPERATORbDOTÚPLUS",
      "ÆSQUARE INTERSECTION OPERATORÍUNION OPERATORÀTWO LOGICALgOPERATOR",
      "ÌOR OPERATORÀN-ARY TIMES OPERATORÀMODULO TWO SUMÀSUMMATIONbINTEGRAL",
      "ÀQUADRUPLE INTEGRAL OPERATORÀFINITE PART INTEGRALÀINTEGRALbl v",
      "ÉAVERAGEbSLASHÀCIRCULATION FUNCTIONÀANTICLOCKWISE INTEGRATION",
      "ÀLINE INTEGRATIONbRECTANGULAR PATH AROUND POLEÖSEMICIRCULAR PATH AROU",
      "ND POLEÑNOT INCLUDING THE POLEÀINTEGRAL AROUND A POINT OPERATOR",
      "ÀQUATERNION INTEGRAL OPERATORÀINTEGRALbsfbHOOKÎTIMEShÎINTERSECTION",
      "ÎUNIONÎOVERBARÎUNDERBARÀJOINÀLARGE oTRIANGLE OPERATORÀZ NOTATION SCHE",
      "MA COMPOSITIONÒPIPINGÓROJECTIONÀPLUShbd CIRCLEiÏCIRCUMFLEX ACCENTi",
      "ÏTILDEiÏDOTmÏTILDEmÏSUBSCRIPT TWOÏx TRIANGLEÀMINUShbCOMMAiÐDOTm",
      "ÐFALLING DOTSÐRISING DOTSÀPLUSh IN oHALF CIRCLEÍk HALF CIRCLE",
      "ÀVECTOR OR CROSS PRODUCTÀMULTIPLICATIONhbDOTiÙUNDERBARÀSEMIDIRECT PRO",
      "DUCTbBOTTOM CLOSEDÁMASH PRODUCTÀMULTIPLICATIONh IN oHALF CIRCLE",
      "×k HALF CIRCLEÀCIRCLED MULTIPLICATIONhbCIRCUMFLEX ACCENTÀMULTIPLICATI",
      "ONh IN l CIRCLEÀCIRCLED DIVISIONhÀPLUSh IN TRIANGLEÀMINUSh IN TRIANGL",
      "EÁULTIPLICATIONh IN TRIANGLEÀINTERIOR PRODUCTÀkHAND INTERIOR PRODUCT",
      "ÀZ NOTATION RELATIONAL COMPOSITIONÀAMALGAMATION OR COPRODUCT",
      "ÀINTERSECTIONbDOTÀUNIONbMINUShËOVERBARÀINTERSECTIONbOVERBAR",
      "ÒLOGICAL ANDÀUNIONbLOGICAL ORÆABOVE INTERSECTIONÀINTERSECTIONi UNION",
      "ÀUNIONi BARi INTERSECTIONÀINTERSECTIONi BARi UNIONÀUNION BESIDEgJOINE",
      "DbUNIONÀINTERSECTION BESIDEgJOINEDbINTERSECTIONÀCLOSED UNIONbSERIFS",
      "ÇINTERSECTIONbSERIFSÀl SQUARE INTERSECTIONÎUNIONÀCLOSED UNIONbSERIFSg",
      "SMASH PRODUCTÀLOGICAL ANDbDOTiÈORbDOTiÀl LOGICAL ANDÏORÀTWO INTERSECT",
      "ING LOGICAL ANDÙORÀSLOPING LARGE ORÎANDÀLOGICAL OR OVERLAPPING LOGICA",
      "L ANDÈANDbySTEMÈORbySTEMÈANDbw DASHÈORbw DASHÈANDbl OVERBARÑUNDERBAR",
      "Ñl UNDERBARÀd VEEbUNDERBARÀLOGICAL ORbl OVERBAR×UNDERBARÀZ NOTATION D",
      "OMAIN ANTIRESTRICTIONËRANGE ANTIRESTRICTIONÀEQUALShbDOTmÀIDENTICALbDO",
      "TiÀTRIPLE w BARbl p vÛTRIPLE p vÁILDE OPERATORbDOTiÔRISING DOTS",
      "ÀSIMILAR MINUS SIMILARÀCONGRUENTbDOTiÀEQUALSbASTERISKÀALMOST EQUAL TO",
      "bCIRCUMFLEX ACCENTÁPPROXIMATELY EQUAL OR EQUAL TOÀEQUALShi PLUSh",
      "ÀPLUShi EQUALShÀEQUALShi TILDE OPERATORÀl COLON EQUALÀTWO CONSECUTIVE",
      " EQUALShSÁHREE CONSECUTIVE EQUALShSÀEQUALShbTWO DOTSigTWO DOTSm",
      "ÃIVALENTbFOUR DOTSiÀLESS-THANbCIRCLE INSIDEÀGREATER-THANbCIRCLE INSID",
      "EÀLESS-THANbQUESTIONuiÀGREATER-THANbQUESTIONuiÀLESS-THAN OR SLANTED E",
      "QUAL TOÀGREATER-THAN OR SLANTED EQUAL TOÀLESS-THAN OR SLANTED EQUAL T",
      "ObDOT INSIDEÀGREATER-THAN OR SLANTED EQUAL TObDOT INSIDEÀLESS-THAN OR",
      " SLANTED EQUAL TObDOTiÀGREATER-THAN OR SLANTED EQUAL TObDOTi",
      "ÀLESS-THAN OR SLANTED EQUAL TObDOTi kÀGREATER-THAN OR SLANTED EQUAL T",
      "ObDOTi LEFTÀLESS-THAN OR APPROXIMATEÀGREATER-THAN OR APPROXIMATE",
      "ÀLESS-THANgSINGLE-LINE NOT EQUAL TOÀGREATER-THANgSINGLE-LINE NOT EQUA",
      "L TOÀLESS-THANgNOT APPROXIMATEÀGREATER-THANgNOT APPROXIMATE",
      "ÀLESS-THANi l-LINE EQUALi GREATER-THANÀGREATER-THANi l-LINE EQUALi LE",
      "SS-THANÀLESS-THANi SIMILAR OR EQUALÀGREATER-THANi SIMILAR OR EQUAL",
      "ÀLESS-THANi SIMILARi GREATER-THANÀGREATER-THANi SIMILARi LESS-THAN",
      "ÀLESS-THANi GREATER-THANi l-LINE EQUALÀGREATER-THANi LESS-THANi l-LIN",
      "E EQUALÀLESS-THANi SLANTED EQUALi GREATER-THANi SLANTED EQUAL",
      "ÀGREATER-THANi SLANTED EQUALi LESS-THANi SLANTED EQUALÀSLANTED EQUAL ",
      "TO OR LESS-THANÔGREATER-THANÔLESS-THANbDOT INSIDEÔGREATER-THANbDOT IN",
      "SIDEÀl-LINE EQUAL TO OR LESS-THANØGREATER-THANÌSLANTED EQUAL TO OR LE",
      "SS-THANàGREATER-THANÀSIMILAR OR LESS-THANËGREATER-THANÈABOVE LESS-THA",
      "Ni EQUALShÎGREATER-THANi EQUALShÀl NESTED LESS-THANÎGREATER-THAN",
      "ÎLESS-THANbUNDERBARÀGREATER-THAN OVERLAPPING LESS-THANÍBESIDE LESS-TH",
      "ANÀLESS-THAN CLOSED BY CURVEÀGREATER-THAN CLOSED BY CURVEÀLESS-THAN C",
      "LOSED BY CURVEi SLANTED EQUALÀGREATER-THAN CLOSED BY CURVEi SLANTED E",
      "QUALÀdER THANÀLARGER THANÀdER THAN OR EQUAL TOÀLARGER THAN OR EQUAL T",
      "OÀEQUALShbBUMPYiÀPRECEDESi SINGLE-LINE EQUALShÀSUCCEEDSi SINGLE-LINE ",
      "EQUALShÀPRECEDESi SINGLE-LINE NOT EQUAL TOÀSUCCEEDSi SINGLE-LINE NOT ",
      "EQUAL TOÀPRECEDESi EQUALShÀSUCCEEDSi EQUALShÀPRECEDESi NOT EQUAL TO",
      "ÀSUCCEEDSi NOT EQUAL TOÀPRECEDESi ALMOST EQUAL TOÀSUCCEEDSi ALMOST EQ",
      "UAL TOÀPRECEDESi NOT ALMOST EQUAL TOÀSUCCEEDSi NOT ALMOST EQUAL TO",
      "Àl PRECEDESÇSUCCEEDSÀSUBSETbDOTÂPERSETbDOTÂBSETbPLUShmÂPERSETbPLUShm",
      "ÂBSETbMULTIPLICATIONhmÂPERSETbMULTIPLICATIONhmÂBSET OF OR EQUAL TObDO",
      "TiÂPERSET OF OR EQUAL TObDOTiÂBSET OFi EQUALShÂPERSET OFi EQUALSh",
      "ÂBSET OFi TILDE OPERATORÂPERSET OFi TILDE OPERATORÂBSET OFi ALMOST EQ",
      "UAL TOÂPERSET OFi ALMOST EQUAL TOÂBSET OFi NOT EQUAL TOÂPERSET OFi NO",
      "T EQUAL TOÁQUARE oOPEN BOX OPERATORÇk OPEN BOX OPERATORÀCLOSED SUBSET",
      "ÉPERSETÉBSET OR EQUAL TOÉPERSET OR EQUAL TOÀSUBSETi SUPERSET",
      "ÂPERSETi SUBSETÂBSETi SUBSETÂPERSETi SUPERSETÉBESIDE SUBSET",
      "ÐAND JOINED BY DASHbSUBSETÀELEMENT OF OPENING DOWNWARDSÀPITCHFORKbTEE",
      " TOPÀTRANSVERSAL INTERSECTIONÀFORKINGÀNONFORKINGÀSHORT oTACK",
      "ÆDOWN TACKÆUP TACKÀPERPENDICULARbSÀp BAR TRIPLE k TURNSTILE",
      "Àl p BAR oTURNSTILEÀp BAR l oTURNSTILEÀl p BAR l oTURNSTILE",
      "ÀLONG DASH FROM oMEMBER OF l pÀSHORT DOWN TACKbOVERBARÆUP TACKbUNDERB",
      "ARÎABOVE SHORT DOWN TACKÀl DOWN TACKÇUP TACKÇv NOThÀREVERSED l v NOTh",
      "ÀDOES NOT DIVIDEbREVERSED NEGATION SLASHÀp LINEbCIRCLEiÚBELOW",
      "ÀDOWN TACKbCIRCLEmÀPARALLELbw vÎTILDE OPERATORÀTRIPLE p BAR BINARY RE",
      "LATIONÔWITH w vÇCOLON OPERATORÇNESTED LESS-THANÎGREATER-THAN",
      "Àl-LINE SLANTED LESS-THAN OR EQUAL TOÔGREATER-THAN OR EQUAL TO",
      "ÀTRIPLE SOLIDUS BINARY RELATIONÀLARGE TRIPLE p BAR OPERATOR",
      "Àl SOLIDUS OPERATORÀWHITE p BARÀN-ARY WHITE p BARÁORTH EAST WHITEf",
      "ÆWEST WHITEfÀSOUTH EAST WHITEfÆWEST WHITEfÀok WHITEfÄWARDS xf",
      "ÀUPWARDS xfÀDOWNWARDS xfÀNORTH EAST xfÆWEST xfÀSOUTH EAST xfÆWEST xf",
      "Àok xfÀUP DOWN xfÀkWARDSfbTIP DOWNWARDSÚUPWARDSÀsfbTIP DOWNWARDS",
      "ÙUPWARDSÀSQUAREbTOP HALF xÌBOTTOM HALF xÌUPPER k DIAGONAL HALF x",
      "ÌLOWER oDIAGONAL HALF xÀDIAMONDboHALF xÍk HALF xÍTOP HALF x",
      "ÍBOTTOM HALF xÁOTTED SQUAREÀx LARGE SQUAREÀWHITE LARGE SQUARE",
      "Àx VERY d SQUAREÀWHITE VERY d SQUAREÀx PENTAGONÀWHITE PENTAGON",
      "ÆHEXAGONÀx HEXAGONÀw x HEXAGONÀx LARGE CIRCLEÆMEDIUM DIAMOND",
      "ÀWHITE MEDIUM DIAMONDÀx MEDIUM LOZENGEÀWHITE MEDIUM LOZENGE",
      "Àx d DIAMONDÌLOZENGEÀWHITE d LOZENGEÀx w ELLIPSEÀWHITE w ELLIPSE",
      "Àx p ELLIPSEÀWHITE p ELLIPSEÀLEFTfbd CIRCLEÀTHREE sfSÀLEFTfbCIRCLED P",
      "LUSÁONG s SQUIGGLEfÁEFTWARDS TWO-HEADEDfbp vàl p vÛFROM BAR",
      "ÕTRIPLE DASHfÊARROWbDOTTED STEMÕTAILbp vßl p vÊTWO-HEADEDfbTAILäbp v",
      "êl p vÊARROW THROUGH XÀWAVEf POINTING DIRECTLY LEFTÀEQUALShi sf",
      "ÀREVERSE TILDE OPERATORi sfÀsfi REVERSE ALMOST EQUAL TOÀkWARDSf THROU",
      "GH GREATER-THANÙSUPERSETÀs QUADRUPLEfÀkWARDS QUADRUPLEfÁEVERSE TILDE ",
      "OPERATORi kWARDSfÁIGHTWARDSfi REVERSE ALMOST EQUAL TOÀTILDE OPERATORi",
      " sfÀsfi ALMOST EQUAL TOÖREVERSE TILDE OPERATORÀkWARDSfi REVERSE TILDE",
      " OPERATORÀDOWNWARDSt ZIGZAGfÀSHORT SLANTED NORTHfÆBACKSLANTED SOUTHf",
      "ÀWHITE MEDIUM STARÀx d STARÀWHITE d STARÀx k-POINTING PENTAGON",
      "ÀWHITE k-POINTING PENTAGONÀHEAVY LARGE CIRCLEÆOVALbOVAL INSIDE",
      "ÆCIRCLEbCIRCLE INSIDEÌÌD SALTIREÀSLANTED NORTHfbHOOKED HEAD",
      "ÀBACKSLANTED SOUTHfbHOOKED TAILÀSLANTED NORTHfbw TAILÀBACKSLANTED SOU",
      "THfbw TAILÁENTf POINTING DOWNWARDS THEN NORTH EASTÀSHORT BENTf POINTI",
      "NG DOWNWARDS THEN NORTH EASTÀstfÀUPWARDStfÀkWARDStfÀDOWNWARDStfÀoktf",
      "ÀUP DOWNtfÀNORTH WESTtfÆEASTtfÀSOUTH EASTtfÆWESTtfÀst DASHEDf",
      "ÀUPWARDSt DASHEDfÀkWARDSt DASHEDfÀDOWNWARDSt DASHEDfÀCLOCKWISEt OPEN ",
      "CIRCLEfÀANTICLOCKWISEt OPEN CIRCLEfÀstf TO BARÀUPWARDStf TO BAR",
      "ÀkWARDStf TO BARÀDOWNWARDStf TO BAR"]),
    (0x2B76, ["NORTH WESTtf TO BARÆEASTtf TO BARÀSOUTH EASTtf TO BAR",
      "ÆWESTtf TO BARÀstfbl w vÀUPWARDStfbl w vÀkWARDStfbl w vÀDOWNWARDStfbl",
      " w vÀw TAB KEYÀp TAB KEYÀstf OVER kWARDStfÀUPWARDStf s OF DOWNWARDStf",
      "ÀkWARDStf OVER stfÀDOWNWARDStf s OF UPWARDStfÀst PAIREDfSÀUPWARDSt PA",
      "IREDfSÀkWARDSt PAIREDfSÀDOWNWARDSt PAIREDfSÀs x CIRCLED WHITEf",
      "ÀUPWARDS x CIRCLED WHITEfÀkWARDS x CIRCLED WHITEfÀDOWNWARDS x CIRCLED",
      " WHITEfÀANTICLOCKWISEt k U-SHAPEDfÞBOTTOM U-SHAPEDfÞoU-SHAPEDf",
      "ÞTOP U-SHAPEDfÀRETURN LEFTÇkÀNEWLINE LEFTÈkÀFOUR CORNERfS CIRCLING AN",
      "TICLOCKWISEÀkWARDS xf"]),
    (0x2B97, ["SYMBOL FOR TYPE A ELECTRONICSÀTHREE-D TOP-LIGHTED s EQUILATER",
      "ALfHEADÈk-LIGHTED UPWARDS EQUILATERALfHEADÈTOP-LIGHTED kWARDS EQUILAT",
      "ERALfHEADÈLEFT-LIGHTED DOWNWARDS EQUILATERALfHEADÀx s EQUILATERALfHEA",
      "DÆUPWARDS EQUILATERALfHEADÆkWARDS EQUILATERALfHEADÆDOWNWARDS EQUILATE",
      "RALfHEADÀDOWNWARDStfbLONG TIP sîkWARDSÀUPWARDStfbLONG TIP sìkWARDS",
      "ÀstfbLONG TIP UPWARDSÀkWARDStfbLONG TIP UPWARDSÀstfbLONG TIP DOWNWARD",
      "SÀkWARDStfbLONG TIP DOWNWARDSÀx CURVED DOWNWARDSgsfÛkWARDSf",
      "ÍUPWARDSgsfÙkWARDSfÍsgUPWARDSfÍkWARDSgUPWARDSfÍsgDOWNWARDSf",
      "ÍkWARDSgDOWNWARDSfÀRIBBONf DOWN LEFTÒkÍUP LEFTÐkÍoUPÍk UPÍoDOWN",
      "Ík DOWNÀUPWARDS WHITEf FROM BARbw BARÂfHEAD IN A RECTANGLE BOX",
      "ÀOVERLAPPING WHITE SQUARESÒAND x SQUARESÌx SQUARESÀBALLOT BOXbLIGHT X",
      "ÀCIRCLED XÈBOLD XÀx SQUARE CENTREDÆDIAMOND CENTREDÀTURNED x PENTAGON",
      "Àw x OCTAGONÀx OCTAGONÆMEDIUM UP-POINTING TRIANGLE CENTRED",
      "ÍDOWN-POINTING TRIANGLE CENTREDÍLEFT-POINTING TRIANGLE CENTRED",
      "Ík-POINTING TRIANGLE CENTREDÀNEPTUNEe TWOÀTOP HALF x CIRCLE",
      "ÀBOTTOM HALF x CIRCLEÀLIGHT FOUR POINTED x CUSPÀROTATED LIGHT FOUR PO",
      "INTED x CUSPÀWHITE FOUR POINTED CUSPÀROTATED WHITE FOUR POINTED CUSP",
      "ÀSQUARE POSITION INDICATORÀUNCERTAINTYhÀGROUPuÀPLUTOe TWOÌHREEËFOUR",
      "ÌIVEÀTRANSPLUTOÀPROSERPINAÀASTRAEAÀHYGIEAÀPHOLUSÀNESSUSÀWHITE MOON SE",
      "LENAÀx DIAMOND ON CROSSÀTRUE LIGHT MOON ARTAÀCUPIDOÀHADESÀZEUSÀKRONOS",
      "ÀAPOLLONÁDMETOSÀVULCANUSÀPOSEIDONÀoHALF x STARÀk HALF x STAR",
      "ÀSTARboHALF xÊk HALF xÀs TWO-HEADEDfbTRIANGLEfHEADSÀUPWARDS TWO-HEADE",
      "DfbTRIANGLEfHEADSÀkWARDS TWO-HEADEDfbTRIANGLEfHEADSÀDOWNWARDS TWO-HEA",
      "DEDfbTRIANGLEfHEADSÀERISe ONEÊTWOÀSEDNAÀRUSSIAN ASTROLOGICALq VIGINTI",
      "LEÜNOVILEÜQUINTILEÜBINOVILEÜSENTAGONÜTREDECILEÀEQUALShbINFINITYm",
      "ÀUNITEDqÀSEPARATEDqÀlDqÀPASSEDqÀREVERSED k ANGLEÀHELLSCHREIBER PAUSEq",
      "ÀGLAGOLITIC caAZUÚBUKYÚVEDEÚGLAGOLIÚDOBROÚYESTUÚZHIVETEÚDZELOÚZEMLJA",
      "ÚIZHEÛNITIAL IZHEÛÚDJERVIÚKAKOÚLJUDIJEÚMYSLITEÚNASHIÚONUÚPOKOJIÚRITSI",
      "ÚSLOVOÚTVRIDOÚUKUÚFRITUÚHERUÚOTUÚPEÚSHTAÚTSIÚCHRIVIÚSHAÚYERUÝIÛATI",
      "ÚSPIDERY HAÚYUÚd YUSãbTAILÚYOÚIOTATED d YUSÚBIG YUSÚIOTATED BIG YUS",
      "ÚFITAÚIZHITSAÚSHTAPICÚTROKUTASTI AÚLATINATE MYSLITEÚCAUDATE CHRIVI",
      "ËdaAZUØBUKYØVEDEØGLAGOLIØDOBROØYESTUØZHIVETEØDZELOØZEMLJAØIZHE",
      "ÙNITIAL IZHEÙØDJERVIØKAKOØLJUDIJEØMYSLITEØNASHIØONUØPOKOJIØRITSI",
      "ØSLOVOØTVRIDOØUKUØFRITUØHERUØOTUØPEØSHTAØTSIØCHRIVIØSHAØYERUÛIÙATI",
      "ØSPIDERY HAØYUØd YUSábTAILØYOØIOTATED d YUSØBIG YUSØIOTATED BIG YUS",
      "ØFITAØIZHITSAØSHTAPICØTROKUTASTI AØLATINATE MYSLITEØCAUDATE CHRIVI",
      "ÀLATIN caLbl BARÆdaLbl BARÆcaLbyTILDEÕPbvÕRbTAILÆdaAbvÓTbDIAGONAL v",
      "ÆcaHbDESCENDERÆdaHbDESCENDERÆcaKbDESCENDERÆdaKbDESCENDERÆcaZbDESCENDE",
      "RÆdaZbDESCENDERÆcaALPHAÕMbHOOKÕTURNED AÝLPHAÆdaVbk HOOKÆcaWbHOOK",
      "ÆdaWbHOOKÓVbCURLÆcaHALF HÆdaHALF HÓTAILLESS PHIÓEbNOTCHÓTURNED RbTAIL",
      "ÓObLOW RING INSIDEÆLETTER d c TURNED EÆSUBSCRIPT daJÀMODIFIERac V",
      "ÀLATIN caSbSWASH TAILÕZbSWASH TAILÀCOPTIC caALFAÇdaALFAÇcaVIDAÇdaVIDA",
      "ÇcaGAMMAÇdaGAMMAÇcaDALDAÇdaDALDAÇcaEIEÇdaEIEÇcaSOUÇdaSOUÇcaZATA",
      "ÇdaZATAÇcaHATEÇdaHATEÇcaTHETHEÇdaTHETHEÇcaIAUDAÇdaIAUDAÇcaKAPAÇdaKAPA",
      "ÇcaLAULAÇdaLAULAÇcaMIÇdaMIÇcaNIÇdaNIÇcaKSIÇdaKSIÇcaOÇdaOÇcaPIÇdaPI",
      "ÇcaROÇdaROÇcaSIMAÇdaSIMAÇcaTAUÇdaTAUÇcaUAÇdaUAÇcaFIÇdaFIÇcaKHIÇdaKHI",
      "ÇcaPSIÇdaPSIÇcaOOUÇdaOOUÇcaDIALECT-P ALEFÇdaDIALECT-P ALEF",
      "ÇcaOLD COPTIC AINÇdaOLD COPTIC AINÇcaCRYPTOGRAMMIC EIEÇdaCRYPTOGRAMMI",
      "C EIEÇcaDIALECT-P KAPAÇdaDIALECT-P KAPAÇcaDIALECT-P NIÇdaDIALECT-P NI",
      "ÇcaCRYPTOGRAMMIC NIÇdaCRYPTOGRAMMIC NIÇcaOLD COPTIC OOUÇdaOLD COPTIC ",
      "OOUÇcaSAMPIÇdaSAMPIÇcaCROSSED SHEIÇdaCROSSED SHEIÇcaOLD COPTIC SHEI",
      "ÇdaOLD COPTIC SHEIÇcaOLD COPTIC ESHÇdaOLD COPTIC ESHÇcaAKHMIMIC KHEI",
      "ÇdaAKHMIMIC KHEIÇcaDIALECT-P HORIÇdaDIALECT-P HORIÇcaOLD COPTIC HORI",
      "ÇdaOLD COPTIC HORIÇcaOLD COPTIC HAÇdaOLD COPTIC HAÇcaL-SHAPED HA",
      "ÇdaL-SHAPED HAÇcaOLD COPTIC HEIÇdaOLD COPTIC HEIÇcaOLD COPTIC HAT",
      "ÇdaOLD COPTIC HATÇcaOLD COPTIC GANGIAÇdaOLD COPTIC GANGIAÇcaOLD COPTI",
      "C DJAÇdaOLD COPTIC DJAÇcaOLD COPTIC SHIMAÇdaOLD COPTIC SHIMA",
      "ÇcaOLD NUBIAN SHIMAÇdaOLD NUBIAN SHIMAÇcaOLD NUBIAN NGIÇdaOLD NUBIAN ",
      "NGIÇcaOLD NUBIAN NYIÇdaOLD NUBIAN NYIÇcaOLD NUBIAN WAUÇdaOLD NUBIAN W",
      "AUÈYMBOL KAIÎMI ROÎPI ROÎSTAUROSÎTAU ROÎKHI ROÎSHIMA SIMAÇcaCRYPTOGRA",
      "MMIC SHEIÇdaCRYPTOGRAMMIC SHEIÇcaCRYPTOGRAMMIC GANGIAÇdaCRYPTOGRAMMIC",
      " GANGIAÇCOMBINING NIiÑSPIRITUS ASPERÚLENISÈAPITALaBOHAIRIC KHEI",
      "ÇdaBOHAIRIC KHEI"])]

/-- Further letters and syllables, from U+2C00 on. -/
def syllableRuns : List (Nat × List String) :=
  [(0x2CF9, ["COPTIC OLD NUBIAN FULL STOPÒDIRECT QUESTIONuÒINDIRECT QUESTIO",
      "NuÒVERSE DIVIDERÇFRACTION ONE HALFÈULL STOPÇMORPHOLOGICAL DIVIDER",
      "ÀGEORGIAN daANÖBANÖGANÖDONÖENÖVINÖZENÖTANÖINÖKANÖLASÖMANÖNARÖONÖPAR",
      "ÖZHARÖRAEÖSANÖTARÖUNÖPHARÖKHARÖGHANÖQARÖSHINÖCHIN×ANÖJILÖCIL×HARÖXAN",
      "ÖJHANÖHAE×E×IEÖWEÖHAR×OE"]), (0x2D27, ["GEORGIAN daYN"]),
    (0x2D2D, ["GEORGIAN daAEN"]),
    (0x2D30, ["TIFINAGHaYAÒBÓHÒGÓHHÐBERBER ACADEMY YAJÐYAJÒDÓHÓDÔHÑEYÑAFÒK",
      "ÐTUAREG YAKÐYAKHHÒHÐBERBER ACADEMY YAHÐTUAREG YAHÐYAHHÒAÒKH",
      "ÐTUAREG YAKHÐYAQÐTUAREG YAQÐYIÑAZHÐAHAGGAR YAZHÐTUAREG YAZHÐYALÒMÒN",
      "ÐTUAREG YAGNÙNGÐYAPÑUÑARÓRÒGHÐTUAREG YAGHÐAYER YAGHÐYASÓSÓHÒTÓHÒCHÒTT",
      "ÒVÒWÒYÒZÐTAWELLEMET YAZÐYAZZÑEÑO"]),
    (0x2D6F, ["TIFINAGH MODIFIERaLABIALIZATIONuÉSEPARATORu"]),
    (0x2D7F, ["TIFINAGH CONSONANT JOINERÀETHIOPIC SYLLABLE LOAÒMOAÒROAÒSOA",
      "ÓHOAÒBOAÒTOAÒCOAÒNOAÓYOAÒGLOTTAL OAÒZOAÒDOAÓDOAÒJOAÒTHOAÒCHOAÒPHOAÓOA",
      "ÒGGWAÕIÕEEÖ"]), (0x2DA0, ["ETHIOPIC SYLLABLE SSAÔUÔIÔAAÔEEÕÔO"]),
    (0x2DA8, ["ETHIOPIC SYLLABLE CCAÔUÔIÔAAÔEEÕÔO"]),
    (0x2DB0, ["ETHIOPIC SYLLABLE ZZAÔUÔIÔAAÔEEÕÔO"]),
    (0x2DB8, ["ETHIOPIC SYLLABLE CCHAÕUÕIÕAAÕEEÖÕO"]),
    (0x2DC0, ["ETHIOPIC SYLLABLE QYAÔUÔIÔAAÔEEÕÔO"]),
    (0x2DC8, ["ETHIOPIC SYLLABLE KYAÔUÔIÔAAÔEEÕÔO"]),
    (0x2DD0, ["ETHIOPIC SYLLABLE XYAÔUÔIÔAAÔEEÕÔO"]),
    (0x2DD8, ["ETHIOPIC SYLLABLE GYAÔUÔIÔAAÔEEÕÔO"]),
    (0x2DE0, ["COMBINING CYRILLICaBEÚVEÚGHEÚDEÚZHEÛEÚKAÚELÛMÛNÚOÚPEÚERÛSÚTE",
      "ÚHAÚTSEÚCHEÚSHAÜCHAÚFITAÚES-TEÚAÚIEÚDJERVÚMONOGRAPH UKÚYATÛU",
      "ÚIOTIFIED AÚLITTLE YUSÚBIG YUSÚIOTIFIED BIG YUSÀk ANGLE SUBSTITUTIONu",
      "ERÌDOTTED SUBSTITUTIONuERÀoSUBSTITUTION BRACKETÀk SUBSTITUTION BRACKE",
      "TÀoDOTTED SUBSTITUTION BRACKETÀk DOTTED SUBSTITUTION BRACKET",
      "ÁAISED INTERPOLATIONuERÇDOTTED INTERPOLATIONuERÀDOTTED TRANSPOSITIONu",
      "ERÀoTRANSPOSITION BRACKETÀk TRANSPOSITION BRACKETÁAISED SQUARE",
      "ÀoRAISED OMISSION BRACKETÀk RAISED OMISSION BRACKETÀEDITORIAL CORONIS",
      "ÀPARAGRAPHOSÀFORKED PARAGRAPHOSÀREVERSED FORKED PARAGRAPHOS",
      "ÀHYPODIASTOLEÀDOTTED OBELOSÂWNWARDS ANCORAÀUPWARDS ANCORAÀDOTTED k-PO",
      "INTING ANGLEÂUBLE OBLIQUE HYPHENÀINVERTED INTERROBANGÀPALM BRANCH",
      "ÀHYPHENbDIAERESISÀTILDEbRINGiÀoLOW PARAPHRASE BRACKETÀk LOW PARAPHRAS",
      "E BRACKETÀTILDEbDOTiÏBELOWÀop BARbQUILLÀk p BARbQUILLÀTOP oHALF BRACK",
      "ETÄk HALF BRACKETÀBOTTOM oHALF BRACKETÇk HALF BRACKETÀoSIDEWAYS U BRA",
      "CKETÀk SIDEWAYS U BRACKETÀol PARENTHESISÀk l PARENTHESISÀTWO DOTS OVE",
      "R ONE DOT PUNCTUATIONÀONE DOT OVER TWO DOTS PUNCTUATIONÀSQUARED FOUR ",
      "DOT PUNCTUATIONÀFIVE DOTuÀREVERSED QUESTIONuÀp TILDEÀRING POINT",
      "ÀWORD SEPARATOR yDOTÀTURNED COMMAÀRAISED DOTÇCOMMAÀTURNED SEMICOLON",
      "ÀDAGGERboGUARDÌk GUARDÀTURNED DAGGERÁOP HALF SECTIONhÁWO-EM DASH",
      "ÁHREE-EM DASHÀSTENOGRAPHIC FULL STOPÀp SIX DOTSÀWIGGLY p LINE",
      "ÀCAPITULUMÀl HYPHENÀREVERSED COMMAÀl LOW-REVERSED-9 QUOTATIONu",
      "ÁASHboUPTURNÁOUBLE SUSPENSIONuÀINVERTED LOW KAVYKAÓbKAVYKAi",
      "ÀLOW KAVYKAÊbDOTÀl STACKED COMMAÂTTED SOLIDUSÀTRIPLE DAGGER",
      "ÀMEDIEVAL COMMAÀPARAGRAPHUSuÁUNCTUS ELEVATUSuÀCORNISH VERSE DIVIDER",
      "ÁROSS PATTYbk CROSSBARÑoCROSSBARÀTIRONIANh c ETÀMEDIEVAL EXCLAMATIONu",
      "ÉQUESTIONuÀoSQUARE BRACKETbvÀk SQUARE BRACKETbvÀoSQUARE BRACKETbl v",
      "Àk SQUARE BRACKETbl vÀTOP HALF oPARENTHESISÉk PARENTHESISÀBOTTOM HALF",
      " oPARENTHESISÌk PARENTHESISÀOBLIQUE HYPHEN"]),
    (0x2E80, ["CJK RADICAL REPEATÌCLIFFÌSECOND ONEÓTWOÔHREEÌPERSONÌBOXÌTABLE",
      "ÌKNIFE ONEÒTWOÌDIVINATIONÌSEALÍMALL ONEÒTWOÌLAME ONEÑTWOÒHREEÑFOUR",
      "ÌSNAKEÌTHREADÌSNOUT ONEÒTWOÌHEART ONEÒTWOÍANDÌRAP"]),
    (0x2E9B, ["CJK RADICAL CHOKEÌSUNÌMOONÌDEATHÌMOTHERÌCIVILIANÌWATER ONE",
      "ÒTWOÌFIREÌPAW ONEÐTWOÌSIMPLIFIED HALF TREE TRUNKÌCOWÌDOGÌJADE",
      "ÌBOLT OF CLOTHÌEYEÌSPIRIT ONEÓTWOÌBAMBOOÌSILKÌC-SIMPLIFIED SILK",
      "ÌNET ONEÐTWOÑHREEÐFOURÌMESHÌSHEEPÌRAMÌEWEÌOLDÌBRUSH ONEÒTWOÌMEAT",
      "ÍORTARÌGRASS ONEÒTWOÓHREEÌTIGERÌCLOTHESÌWEST ONEÑTWOÌC-SIMPLIFIED SEE",
      "ÌSIMPLIFIED HORNÌHORNÌC-SIMPLIFIED SPEECHÚHELLÌFOOTÌC-SIMPLIFIED CART",
      "ÌSIMPLIFIED WALKÌWALK ONEÑTWOÌCITYÍ-SIMPLIFIED GOLDÌLONG ONEÑTWO",
      "ÌC-SIMPLIFIED LONGÙGATEÌMOUND ONEÒTWOÌRAINÌBLUEÌC-SIMPLIFIED TANNED L",
      "EATHERÙLEAFÙWINDÙFLYÌEAT ONEÐTWOÑHREEÌC-SIMPLIFIED EATÌHEAD",
      "ÌC-SIMPLIFIED HORSEÌBONEÌGHOSTÌC-SIMPLIFIED FISHÙBIRDÙSALT",
      "ÌSIMPLIFIED WHEAT×YELLOWÌC-SIMPLIFIED FROGÌJ-SIMPLIFIED EVEN",
      "ÌC-SIMPLIFIED EVENÌJ-SIMPLIFIED TOOTHÌC-SIMPLIFIED TOOTHÌJ-SIMPLIFIED",
      " DRAGONÌC-SIMPLIFIED DRAGONÌTURTLEÌJ-SIMPLIFIED TURTLEÌC-SIMPLIFIED T",
      "URTLE"]),
    (0x2F00, ["KANGXI RADICAL ONEÏLINEÏDOTÏSLASHÐECONDÏHOOKÏTWOÏLIDÏMANÏLEGS",
      "ÏENTERÐIGHTÏDOWN BOXÏCOVERÏICEÏTABLEÏOPEN BOXÏKNIFEÏPOWERÏWRAPÏSPOON",
      "Ïk OPEN BOXÏHIDING ENCLOSUREÏTENÏDIVINATIONÏSEALÏCLIFFÏPRIVATEÏAGAIN",
      "ÏMOUTHÏENCLOSUREÐARTHÏSCHOLARÏGOÑ SLOWLYÏEVENINGÏBIGÏWOMANÏCHILDÏROOF",
      "ÏINCHÏdÏLAMEÏCORPSEÏSPROUTÏMOUNTAINÏRIVERÏWORKÏONESELFÏTURBANÏDRY",
      "ÏSHORT THREADÏDOTTED CLIFFÏLONG STRIDEÏTWO HANDSÏSHOOTÏBOWÏSNOUT",
      "ÏBRISTLEÏSTEPÏHEARTÐALBERDÏDOORÏHANDÏBRANCHÏRAPÏSCRIPTÏDIPPERÏAXE",
      "ÏSQUAREÏNOTÏSUNÐAYÏMOONÏTREEÏLACKÏSTOPÏDEATHÏWEAPONÏDO NOTÏCOMPARE",
      "ÏFURÏCLANÏSTEAMÏWATERÏFIREÏCLAWÏFATHERÏl XÏHALF TREE TRUNKÏSLICEÏFANG",
      "ÏCOWÏDOGÏPROFOUNDÏJADEÏMELONÏTILEÏSWEETÏLIFEÏUSEÏFIELDÏBOLT OF CLOTH",
      "ÏSICKNESSÏDOTTED TENTÏWHITEÏSKINÏDISHÏEYEÏSPEARÏARROWÏSTONEÐPIRIT",
      "ÏTRACKÏGRAINÏCAVEÏSTANDÏBAMBOOÏRICEÏSILKÏJARÏNETÏSHEEPÏFEATHERÏOLD",
      "ÏANDÏPLOWÏEARÏBRUSHÏMEATÐINISTERÏSELFÏARRIVEÏMORTARÏTONGUEÏOPPOSE",
      "ÏBOATÏSTOPPINGÏCOLORÏGRASSÏTIGERÏINSECTÏBLOODÏWALK ENCLOSUREÏCLOTHES",
      "ÏWESTÏSEEÏHORNÏSPEECHÏVALLEYÏBEANÏPIGÏBADGERÏSHELLÏREDÐUNÏFOOTÏBODY",
      "ÏCARTÏBITTERÏMORNINGÏWALKÏCITYÏWINEÏDISTINGUISHÏVILLAGEÏGOLDÏLONG",
      "ÏGATEÏMOUNDÏSLAVEÐHORT TAILED BIRDÏRAINÏBLUEÏWRONGÏFACEÏLEATHER",
      "ÏTANNED LEATHERÏLEEKÏSOUNDÏLEAFÏWINDÏFLYÏEATÏHEADÏFRAGRANTÏHORSEÏBONE",
      "ÏTALLÏHAIRÏFIGHTÏSACRIFICIAL WINEÏCAULDRONÏGHOSTÏFISHÏBIRDÏSALTÏDEER",
      "ÏWHEATÏHEMPÏYELLOWÏMILLETÏxÏEMBROIDERYÏFROGÏTRIPODÏDRUMÏRATÏNOSEÏEVEN",
      "ÏTOOTHÏDRAGONÏTURTLEÏFLUTE"]),
    (0x2FF0, ["IDEOGRAPHIC DESCRIPTION CHARACTER oTO kâABOVE TOmâoTO MIDDLEg",
      "kâABOVE TO MIDDLEgBELOWâFULL SURROUNDâSURROUND FROMiðBELOWðLEFT",
      "ðUPPER LEFTökðLOWER LEFTâOVERLAID"]),
    (0x3000, ["IDEOGRAPHIC SPACEÌCOMMAÌFULL STOPÀDITTOuÀJAPANESE INDUSTRIAL ",
      "STANDARDqÀIDEOGRAPHIC ITERATIONuÌCLOSINGuÌNUMBER ZEROÀoANGLE BRACKET",
      "Àk ANGLE BRACKETÀol ANGLE BRACKETÀk l ANGLE BRACKETÀoCORNER BRACKET",
      "Àk CORNER BRACKETÀoWHITE CORNER BRACKETÀk WHITE CORNER BRACKET",
      "Àox LENTICULAR BRACKETÀk x LENTICULAR BRACKETÀPOSTALuÀGETAu",
      "ÀoTORTOISE SHELL BRACKETÀk TORTOISE SHELL BRACKETÀoWHITE LENTICULAR B",
      "RACKETÀk WHITE LENTICULAR BRACKETÀoWHITE TORTOISE SHELL BRACKET",
      "Àk WHITE TORTOISE SHELL BRACKETÀoWHITE SQUARE BRACKETÀk WHITE SQUARE ",
      "BRACKETÀWAVE DASHÀREVERSED l PRIME QUOTATIONuÀl PRIME QUOTATIONu",
      "ÀLOW l PRIME QUOTATIONuÀPOSTALu FACEÀHANGZHOU NUMERAL ONEÑTWOÒHREE",
      "ÑFOURÒIVEÑSIXÒEVENÑEIGHTÑNINEÀIDEOGRAPHIC LEVEL TONEuÌRISING TONEu",
      "ÌDEPARTING TONEuÌENTERING TONEuÀHANGUL SINGLE DOT TONEuÇl DOT TONEu",
      "ÀWAVY DASHÀp KANA REPEATuÕWITH VOICED SOUNDuÕMARK UPPER HALF",
      "ÕWITH VOICED SOUNDu UPPER HALFÕMARK LOWER HALFÀCIRCLED POSTALu",
      "ÀIDEOGRAPHIC TELEGRAPH LINE FEED SEPARATORqÀHANGZHOU NUMERAL TEN",
      "ÒWENTYÒHIRTYÀp IDEOGRAPHIC ITERATIONuÀMASUuÀPART ALTERNATIONu",
      "ÀIDEOGRAPHIC VARIATION INDICATORÌHALF FILL SPACE"]),
    (0x3041, ["HIRAGANAad AÐAÐd IÐIÐd UÐUÐd EÐEÐd OÐOÐKAÐGAÐKIÐGIÐKUÐGUÐKE",
      "ÐGEÐKOÐGOÐSAÐZAÐSIÐZIÐSUÐZUÐSEÐZEÐSOÐZOÐTAÐDAÐTIÐDIÐd TUÐTUÐDUÐTEÐDE",
      "ÐTOÐDOÐNAÑIÑUÑEÑOÐHAÐBAÐPAÐHIÐBIÐPIÐHUÐBUÐPUÐHEÐBEÐPEÐHOÐBOÐPOÐMAÑIÑU",
      "ÑEÑOÐd YAÐYAÐd YUÐYUÐd YOÐYOÐRAÑIÑUÑEÑOÐd WAÐWAÑIÑEÑOÐNÐVUÐd KA×E"]),
    (0x3099, ["COMBINING KATAKANA-HIRAGANA VOICED SOUNDuÜSEMI-VOICED SOUNDu",
      "ÀKATAKANA-HIRAGANA VOICED SOUNDuÒSEMI-VOICED SOUNDuÀHIRAGANA ITERATIO",
      "NuÉVOICED ITERATIONuÉDIGRAPH YORIÀKATAKANA-HIRAGANA l HYPHENÈad AÐA",
      "Ðd IÐIÐd UÐUÐd EÐEÐd OÐOÐKAÐGAÐKIÐGIÐKUÐGUÐKEÐGEÐKOÐGOÐSAÐZAÐSIÐZIÐSU",
      "ÐZUÐSEÐZEÐSOÐZOÐTAÐDAÐTIÐDIÐd TUÐTUÐDUÐTEÐDEÐTOÐDOÐNAÑIÑUÑEÑOÐHAÐBA",
      "ÐPAÐHIÐBIÐPIÐHUÐBUÐPUÐHEÐBEÐPEÐHOÐBOÐPOÐMAÑIÑUÑEÑOÐd YAÐYAÐd YUÐYU",
      "Ðd YOÐYOÐRAÑIÑUÑEÑOÐd WAÐWAÑIÑEÑOÐNÐVUÐd KA×EÐVAÑIÑEÑOÉyDOT",
      "È-HIRAGANA PROLONGED SOUNDuÈ ITERATIONuÉVOICED ITERATIONuÉDIGRAPH KOT",
      "O"]),
    (0x3105, ["BOPOMOFOaBÐPÐMÐFÐDÐTÐNÐLÐGÐKÐHÐJÐQÐXÐZHÐCHÐSHÐRÐZÐCÐSÐAÐOÐEÑH",
      "ÐAIÐEIÐAUÐOUÐANÐENÐANGÐENGÑRÐIÐUÐIUÐVÐNGÐGNÐIHÐObDOTiÐNN"]),
    (0x3131, ["HANGULaKIYEOKÎSSANGKIYEOKÎKIYEOK-SIOSÎNIEUNÓ-CIEUCÔHIEUH",
      "ÎTIKEUTÎSSANGTIKEUTÎRIEULÓ-KIYEOKÔMIEUMÔPIEUPÔSIOSÔTHIEUTHÔPHIEUPH",
      "ÔHIEUHÎMIEUMÎPIEUPÎSSANGPIEUPÎPIEUP-SIOSÎSIOSÏSANGSIOSÎIEUNGÎCIEUC",
      "ÎSSANGCIEUCÎCHIEUCHÎKHIEUKHÎTHIEUTHÎPHIEUPHÎHIEUHÎAÏEÎYAÐEÎEOÏÎYEOÐÎO",
      "ÎWAÐEÎOEÎYOÎUÎWEOÐÏIÎYUÎEUÎYIÎIÇFILLERÇLETTER SSANGNIEUNÎNIEUN-TIKEUT",
      "ÔSIOSÔPANSIOSÎRIEUL-KIYEOK-SIOSÔTIKEUTÔPIEUP-SIOSÕANSIOSÔYEORINHIEUH",
      "ÎMIEUM-PIEUPÔSIOSÔPANSIOSÎKAPYEOUNMIEUMÎPIEUP-KIYEOKÔTIKEUT",
      "ÔSIOS-KIYEOKÙTIKEUTÔCIEUCÔTHIEUTHÎKAPYEOUNPIEUPÖSSANGPIEUP",
      "ÎSIOS-KIYEOKÓNIEUNÓTIKEUTÓPIEUPÓCIEUCÎPANSIOSÎSSANGIEUNGÎYESIEUNG",
      "Ö-SIOS×PANSIOSÎKAPYEOUNPHIEUPHÎSSANGHIEUHÎYEORINHIEUHÏO-YAÓEÑIÏU-YEOÓ",
      "ÑIÎARAEAÓE"]),
    (0x3190, ["IDEOGRAPHIC ANNOTATION LINKINGu×REVERSEu×ONEu×TWOuØHREEu",
      "×FOURu×TOPu×MIDDLEu×BOTTOMu×FIRSTu×SECONDu×THIRDu×FOURTHu×HEAVENu",
      "×EARTHu×MANuÀBOPOMOFOaBUÐZIÐJIÐGUÐEEÑNNÐOOÑNNÐIRÐANNÐINNÐUNNÐIMÐNGG",
      "ÐAINNÑUNNÑMÐOMÑNGÐINNNÉnaPÖTÖKÖHÉLETTER GHÐLHÐZYÉnaGÉLETTER GWÐKWÐOE",
      "ÐAHÀCJK v TËWGËXGËBXGËSWËHZZÍGÌPÌZWGËSZWGËHZTÍZPÌPWGÌZWÍZZËNËHËSËPËSP",
      "ËDËHZÌGËSZÌWZÌTÌGËPDÌZËTNËSZZÌWGËHXWGÌZZZGËPGËQ"]),
    (0x31F0, ["KATAKANAad KUÖSI×UÖTOÖNUÖHA×I×U×E×OÖMUÖRA×I×U×E×OÀPARENTHESIZ",
      "ED HANGUL KIYEOKÕNIEUNÕTIKEUTÕRIEULÕMIEUMÕPIEUPÕSIOSÕIEUNGÕCIEUC",
      "ÖHIEUCHÕKHIEUKHÕTHIEUTHÕPHIEUPHÕHIEUHÕKIYEOK AÕNIEUN AÕTIKEUT A",
      "ÕRIEUL AÕMIEUM AÕPIEUP AÕSIOS AÕIEUNG AÕCIEUC AÖHIEUCH AÕKHIEUKH A",
      "ÕTHIEUTH AÕPHIEUPH AÕHIEUH AÕCIEUC UÎKOREAN CHARACTER OJEONà HU"]),
    (0x3220, ["PARENTHESIZED IDEOGRAPH ONEØTWOÙHREEØFOURÙIVEØSIXÙEVENØEIGHT",
      "ØNINEØTENØMOONØFIREØWATERÙOODØMETALØEARTHØSUNÙTOCKØHAVEØSOCIETYØNAME",
      "ØSPECIALØFINANCIALØCONGRATULATIONØLABORØREPRESENTØCALLØSTUDYÙUPERVISE",
      "ØENTERPRISEØRESOURCEØALLIANCEØFESTIVALØRESTØSELFØREACHÀCIRCLED IDEOGR",
      "APH QUESTIONÒKINDERGARTENÒSCHOOLÒKOTOÈNUMBER TEN ON x SQUARE",
      "ÐWENTY ON x SQUAREÐHIRTY ON x SQUAREÏFORTY ON x SQUAREÐIFTY ON x SQUA",
      "REÏSIXTY ON x SQUAREÐEVENTY ON x SQUAREÏEIGHTY ON x SQUARE",
      "ÀPARTNERSHIPhÀCIRCLED NUMBER TWENTY ONEÖTWO×HREEÖFOUR×IVEÖSIX×EVEN",
      "ÖEIGHTÖNINEÐHIRTYÕ ONEÖTWO×HREEÖFOUR×IVEÈHANGUL KIYEOKÏNIEUNÏTIKEUT",
      "ÏRIEULÏMIEUMÏPIEUPÏSIOSÏIEUNGÏCIEUCÐHIEUCHÏKHIEUKHÏTHIEUTHÏPHIEUPH",
      "ÏHIEUHÏKIYEOK AÏNIEUN AÏTIKEUT AÏRIEUL AÏMIEUM AÏPIEUP AÏSIOS A",
      "ÏIEUNG AÏCIEUC AÐHIEUCH AÏKHIEUKH AÏTHIEUTH AÏPHIEUPH AÏHIEUH A",
      "ÈKOREAN CHARACTER CHAMKOÙJUEUIÈHANGUL IEUNG UÀKOREAN STANDARDq",
      "ÀCIRCLED IDEOGRAPH ONEÒTWOÓHREEÒFOURÓIVEÒSIXÓEVENÒEIGHTÒNINEÒTENÒMOON",
      "ÒFIREÒWATERÓOODÒMETALÒEARTHÒSUNÓTOCKÒHAVEÒSOCIETYÒNAMEÒSPECIAL",
      "ÒFINANCIALÒCONGRATULATIONÒLABORÒSECRETÒMALEÒFEMALEÒSUITABLEÒEXCELLENT",
      "ÒPRINTÒATTENTIONÒITEMÒRESTÒCOPYÔRRECTÒHIGHÒCENTREÒLOWÓEFTÒkÒMEDICINE",
      "ÒRELIGIONÒSTUDYÓUPERVISEÒENTERPRISEÒRESOURCEÒALLIANCEÒNIGHT",
      "ÈNUMBER THIRTY SIX×EVENÖEIGHTÖNINEÏFORTYÔ ONEÕTWOÖHREEÕFOURÖIVEÕSIX",
      "ÖEVENÕEIGHTÕNINEÐIFTYÀIDEOGRAPHIC TELEGRAPHq FOR JANUARYáFEBRUARY",
      "áMARCHáAPRILáMAYáJUNEãLYáAUGUSTáSEPTEMBERáOCTOBERáNOVEMBERáDECEMBER",
      "ÀSQUARE HGÇERGÈVÀLIMITED LIABILITYhÀCIRCLED KATAKANA AÑIÑUÑEÑOÑKAÒIÒU",
      "ÒEÒOÑSAÒIÒUÒEÒOÑTAÒIÒUÒEÒOÑNAÒIÒUÒEÒOÑHAÒIÒUÒEÒOÑMAÒIÒUÒEÒOÑYAÒUÒOÑRA",
      "ÒIÒUÒEÒOÑWAÒIÒEÒOÀSQUARE ERA NAME REIWAÇAPAATOÈRUHUAÈNPEAÈARUÇININGU",
      "ÉTIÇUONÇESUKUUDOÈEKAAÇONSUÈOMUÇKAIRIÉRATTOÊORIIÇGARONÉNMAÈIGAÉNII",
      "ÇKYURIIÇGIRUDAAÇKIROËGURAMUËMEETORUËWATTOÇGURAMUÍTONÇKURUZEIROÊOONE",
      "ÈEESUÈORUNAÉOPOÇSAIKURUÉNTIIMUÈIRINGUÈENTIËOÇDAASUÈESIÈORUÇTONÇNANO",
      "ÈOTTOÇHAITUÇPAASENTOÊTUÇBAARERUÇPIASUTORUÉKURUÊOÇBIRUÇHUARADDOÉIITO",
      "ÇBUSSYERUÇHURANÈEKUTAARUÇPESOÉNIHIÇHERUTUÇPENSUÉEZIÇBEETAÇPOINTO",
      "ÇBORUTOÇHONÇPONDOÇHOORUÊNÇMAIKUROÊRUÉHHAÉRUKUÉNSYONÈIKURONÉRIËBAARU",
      "ÈEGAËTONÉETORUÇYAADOÊRUÈUANÇRITTORUÉRAÈUPIIÉUBURUÈEMUÉNTOGENÇWATTO",
      "ÀIDEOGRAPHIC TELEGRAPHq FOR HOUR ZEROæONEæTWOçHREEæFOURçIVEæSIXçEVEN",
      "æEIGHTæNINEæTENæELEVENæTWELVEçHIRTEENæFOURTEENçIFTEENæSIXTEEN",
      "çEVENTEENæEIGHTEENæNINETEENæTWENTYì-ONEíTWOîHREEíFOURÀSQUARE HPAÇDA",
      "ÇAUÇBARÇOVÇPCÇDMÉ SQUAREDÊCUBEDÇIUÇERA NAME HEISEIÐSYOUWAÐTAISYOU",
      "ÐMEIZIÇCORPORATIONÇPA AMPSÇNAÇMU AÈAÇKAÈBÇMBÇGBÇCALÇKCALÇPFÇNFÇMU FÊG",
      "ÈGÇKGÇHZÇKHZÇMHZÇGHZÇTHZÇMU LÈLÇDLÇKLÇFMÇNMÇMU MÈMÇCMÇKMÇMM SQUARED",
      "ÇCM SQUAREDÇM SQUAREDÇKM SQUAREDÇMM CUBEDÇCM CUBEDÇM CUBEDÇKM CUBED",
      "ÇM OVER SÏ SQUAREDÇPAÇKPAÇMPAÇGPAÇRADÊ OVER SÑ SQUAREDÇPSÇNSÇMU SÈS",
      "ÇPVÇNVÇMU VÈVÇKVÇMV MEGAÇPWÇNWÇMU WÈWÇKWÇMW MEGAÇK OHMÇM OHMÇAMÇBQÇCC",
      "ÈDÈ OVER KGÈOÇDBÇGYÇHAÈPÇINÇKKÈM cÈTÇLMÈNÈOGÈXÇMB dÈILÈOLÇPHÈMÈPMÈR",
      "ÇSRÈVÇWBÇV OVER MÇA OVER MÀIDEOGRAPHIC TELEGRAPHq FOR DAY ONEåTWO",
      "æHREEåFOURæIVEåSIXæEVENåEIGHTåNINEåTENåELEVENåTWELVEæHIRTEENåFOURTEEN",
      "æIFTEENåSIXTEENæEVENTEENåEIGHTEENåNINETEENåTWENTYë-ONEìTWOíHREEìFOUR",
      "íIVEìSIXíEVENìEIGHTìNINEæHIRTYë-ONEÀSQUARE GAL"]),
    (0x4DC0, ["HEXAGRAM FOR THE CREATIVE HEAVENÑRECEPTIVE EARTHÍDIFFICULTY A",
      "T THE BEGINNINGÍYOUTHFUL FOLLYÍWAITINGÍCONFLICTÍTHE ARMYÍHOLDING TOGE",
      "THERÍd TAMINGÍTREADINGÍPEACEÍSTANDSTILLÍFELLOWSHIPÍGREAT POSSESSION",
      "ÍMODESTYÍENTHUSIASMÍFOLLOWINGÍWORK ON THE DECAYEDÍAPPROACH",
      "ÍCONTEMPLATIONÍBITING THROUGHÍGRACEÍSPLITTING APARTÍRETURNÍINNOCENCE",
      "ÍGREAT TAMINGÍMOUTH CORNERSÍGREAT PREPONDERANCEÍTHE ABYSMAL WATER",
      "ÑCLINGING FIREÍINFLUENCEÍDURATIONÍRETREATÍGREAT POWERÍPROGRESS",
      "ÍDARKENING OF THE LIGHTÍTHE FAMILYÍOPPOSITIONÎBSTRUCTIONÍDELIVERANCE",
      "ÏCREASEÍINCREASEÍBREAKTHROUGHÍCOMING TO MEETÍGATHERING TOGETHER",
      "ÍPUSHING UPWARDÍOPPRESSIONÍTHE WELLÍREVOLUTIONÍTHE CAULDRON",
      "ÑAROUSING THUNDERÑKEEPING STILL MOUNTAINÍDEVELOPMENTÍTHE MARRYING MAI",
      "DENÍABUNDANCEÍTHE WANDERERÑGENTLE WINDÑJOYOUS LAKEÍDISPERSION",
      "ÍLIMITATIONÍINNER TRUTHÍd PREPONDERANCEÍAFTER COMPLETIONÍBEFORE COMPL",
      "ETION"]),
    (0xA000, ["YI SYLLABLE ITÍXÍÍPÍETÎXÎÎPÌATÍXÍÍPÌUOXÎÎPÌOTÍXÍÍPÌEXÍÌWUÌBIT",
      "ÎXÎÎPÎETÏXÏÏPÍATÎXÎÎPÍUOXÏÏPÍOTÎXÎÎPÍEXÎÎPÍUTÎXÎÎPÎRXÏÍYTÎXÎÎPÎRXÏ",
      "ÌPITÎXÎÎPÎEXÏÏPÍATÎXÎÎPÍUOXÏÏPÍOTÎXÎÎPÍUTÎXÎÎPÎRXÏÍYTÎXÎÎPÎRXÏÌBBITÏX",
      "ÏÏPÏETÐXÐÐPÎATÏXÏÏPÎUOXÐÐPÎOTÏXÏÏPÎEXÏÏPÎUTÏXÏÏPÏRXÐÎYTÏXÏÏPÌNBITÏXÏ",
      "ÏPÏEXÐÐPÎATÏXÏÏPÎOTÏXÏÏPÎUTÏXÏÏPÏRXÐÎYTÏXÏÏPÏRXÐÌHMITÏXÏÏPÏEXÐÐPÎATÏX",
      "ÏÏPÎUOXÐÐPÎOTÏXÏÏPÎUTÏXÏÏPÏRXÐÎYXÏÏPÏRXÐÌMITÎXÎÎPÎEXÏÏPÍATÎXÎÎPÍUOTÏX",
      "ÏÏPÍOTÎXÎÎPÍEXÎÍUTÎXÎÎPÎRXÏÍYTÎXÎÎPÌFITÎXÎÎPÍATÎXÎÎPÍOXÎÎPÍUTÎXÎÎPÎRX",
      "ÏÍYTÎXÎÎPÌVITÎXÎÎPÎETÏXÏÏPÍATÎXÎÎPÍOTÎXÎÎPÍEXÎPÍUTÎXÎÎPÎRXÏÍYTÎXÎÎP",
      "ÎRXÏÌDITÎXÎÎPÎEXÏÏPÍATÎXÎÎPÍUOXÏÍOTÎXÎÎPÍEXÎÎPÍUTÎXÎÎPÎRXÏÌTITÎXÎÎP",
      "ÎEXÏÏPÍATÎXÎÎPÍUOTÏXÏÏPÍOTÎXÎÎPÍEXÎÎPÍUTÎXÎÎPÎRXÏÌDDITÏXÏÏPÏEXÐÐPÎAT",
      "ÏXÏÏPÎUOXÐÐPÎOTÏXÏÏPÎEXÏÏPÎUTÏXÏÏPÏRXÐÌNDITÏXÏÏPÏEXÐÎATÏXÏÏPÎOTÏXÏÏP",
      "ÎEXÏÏPÎUTÏXÏÏPÏRXÐÌHNITÏXÏÏPÏETÐXÐÐPÎATÏXÏÏPÎUOXÐÎOTÏXÏPÎEXÏÏPÎUTÌNIT",
      "ÎXÎÎPÎEXÏÏPÍAXÎÎPÍUOXÏÏPÍOTÎXÎÎPÍEXÎÎPÍUTÎXÎÎPÎRXÏÌHLITÏXÏÏPÏEXÐÐPÎAT",
      "ÏXÏÏPÎUOXÐÐPÎOXÏÏPÎEXÏÏPÎUTÏXÏÏPÏRXÐÎYTÏXÏÏPÏRXÐÌLITÎXÎÎPÎETÏXÏÏPÍAT",
      "ÎXÎÎPÍUOTÏXÏÏPÍOTÎXÎÎPÍEXÎÎPÍUTÎXÎÎPÎRXÏÍYTÎXÎÎPÎRXÏÌGITÎXÎÎPÎETÏXÏÏP",
      "ÍATÎXÎÎPÍUOTÏXÏÏPÍOTÎXÎÎPÍETÎXÎÎPÍUTÎXÎÎPÎRXÏÌKITÎXÎÎPÎEXÏÏPÍATÎXÎÎP",
      "ÍUOXÏÏPÍOTÎXÎÎPÍETÎXÎÎPÍUTÎXÎÎPÎRXÏÌGGITÏXÏÏEXÐÐPÎATÏXÏÏPÎUOTÐXÐÐPÎOT",
      "ÏXÏÏPÎETÏXÏÏPÎUTÏXÏÏPÏRXÐÌMGIEXÐÎATÏXÏÏPÎUOXÐÐPÎOTÏXÏÏPÎEXÏÏPÎUTÏXÏÏP",
      "ÏRXÐÌHXITÏXÏÏPÏETÐXÐÐPÎATÏXÏÏPÎUOTÐXÐÐPÎOTÏXÏÏPÎEXÏÏPÌNGIEXÐÐPÎATÏXÏ",
      "ÏPÎUOTÐXÐÎOTÏXÏÏPÎEXÏÏPÌHITÎEXÏÍATÎXÎÎPÍUOTÏXÏÏPÍOTÎXÎÎPÍEXÎÎPÌWATÎXÎ",
      "ÎPÍUOXÏÏPÍOXÎÎPÍEXÎÎPÌZITÎXÎÎPÎEXÏÏPÍATÎXÎÎPÍUOXÏÏPÍOTÎXÎÎPÍEXÎÎPÍUT",
      "ÎXÎÎPÎRXÏÍYTÎXÎÎPÎRXÏÌCITÎXÎÎPÎETÏXÏÏPÍATÎXÎÎPÍUOXÏÏPÍOTÎXÎÎPÍEXÎÎP",
      "ÍUTÎXÎÎPÎRXÏÍYTÎXÎÎPÎRXÏÌZZITÏXÏÏPÏETÐXÐÐPÎATÏXÏÏPÎOXÏÏPÎEXÏÏPÎUXÏÏP",
      "ÏRXÐÎYTÏXÏÏPÏRXÐÌNZITÏXÏÏPÏEXÐÐPÎATÏXÏÏPÎUOXÐÎOXÏPÎEXÏÎUXÏÏPÏRXÐÎYTÏX",
      "ÏÏPÏRXÐÌSITÎXÎÎPÎEXÏÏPÍATÎXÎÎPÍUOXÏÏPÍOTÎXÎÎPÍEXÎÎPÍUTÎXÎÎPÎRXÏÍYTÎXÎ",
      "ÎPÎRXÏÍSITÏXÏÏPÏEXÐÐPÎATÏXÏÏPÎOTÏXÏÏPÎEXÏÏPÎUTÏXÏÏPÎYTÏXÏÏPÏRXÐÌZHAT",
      "ÏXÏÏPÎUOXÐÐPÎOTÏXÏÏPÎETÏXÏÏPÎUTÏXÏÏPÏRXÐÎYTÏXÏÏPÏRXÐÌCHATÏXÏÏPÎUOTÐXÐ",
      "ÐPÎOTÏXÏÏPÎETÏXÏÏPÎUXÏÏPÏRXÐÎYTÏXÏÏPÏRXÐÌRRAXÏÎUOXÐÎOTÏXÏÏPÎETÏXÏÏP",
      "ÎUTÏXÏÏPÏRXÐÎYTÏXÏÏPÏRXÐÌNRATÏXÏÏPÎOXÏÏPÎETÏXÏÏPÎUTÏXÏÏPÏRXÐÎYTÏXÏÏP",
      "ÏRXÐÌSHATÏXÏÏPÎUOXÐÐPÎOTÏXÏÏPÎETÏXÏÏPÎUTÏXÏÏPÏRXÐÎYTÏXÏÏPÏRXÐÌRATÎXÎ",
      "ÎPÍUOXÏÏPÍOTÎXÎÎPÍEXÎÎPÍUTÎXÎÎPÎRXÏÍYTÎXÎÎPÎRXÏÌJITÎXÎÎPÎETÏXÏÏPÍUOT",
      "ÏXÏÏPÍOTÎXÎÎPÍUTÎXÎÎPÎRXÏÍYTÎXÎÎPÎRXÏÌQITÎXÎÎPÎETÏXÏÏPÍUOTÏXÏÏPÍOTÎXÎ",
      "ÎPÍUTÎXÎÎPÎRXÏÍYTÎXÎÎPÎRXÏÌJJITÏXÏÏPÏETÐXÐÐPÎUOXÐÐPÎOTÏXÏÏPÎUTÏXÏÏP",
      "ÏRXÐÎYTÏXÏÏPÌNJITÏXÏÏPÏETÐXÐÐPÎUOXÐÎOTÏXÏÏPÎUXÏÏPÏRXÐÎYTÏXÏÏPÏRXÐÍYIT",
      "ÏXÏÏPÏETÐXÐÐPÎUOXÐÐPÎOTÏXÏÏPÎUTÏXÏÏPÌXITÎXÎÎPÎETÏXÏÏPÍUOXÏÍOTÎXÎÎPÍYT",
      "ÎXÎÎPÎRXÏÌYITÎXÎÎPÎETÏXÏÏPÍUOTÏXÏÏPÍOTÎXÎÎPÍUTÎXÎÎPÎRXÏÍYTÎXÎÎPÎRXÏ"]),
    (0xA490, ["YI RADICAL QOTËLIËKITËNYIPËCYPËSSIËGGOPÌEPËMIËHXITËLYRËBBUT",
      "ËMOPËYOËPUTËHXUOËTATËGAËZUPËCYTËDDURËBURËGGUOËNYOPËTUËOPËJJUTËZOTËPYT",
      "ËHMOËYITËVURËSHYËVEPËZAËJOËNZUPËJJYËGOTËJJIEËWOËDUËSHURËLIEËCYÌUOPÌIP",
      "ËHXOPËSHATËZURËSHOPËCHEËZZIETËNBIEËKE"]),
    (0xA4D0, ["LISUaBAÌPAÍHAÌDAÌTAÍHAÌGAÌKAÍHAÌJAÌCAÍHAÌDZAÌTSAÎHAÌMAÌNAÌLA",
      "ÌSAÌZHAÍAÌNGAÌHAÌXAÌHHAÌFAÌWAÌSHAÌYAÌGHAÌAÍEÌEÍUÌIÌOÌUÍEÍHÌOE",
      "ÌTONE MYA TIÑNA POÑMYA CYAÕBOÕNAÕJEUÅPUNCTUATION COMMAÑFULL STOP",
      "ÀVAI SYLLABLE EEÏNÍHEEÍWEEÐNÍPEEÍBHEEÎEEÍMBEEÍKPEEÍMGBEEÍGBEEÍFEEÍVEE",
      "ÍTEEÎHEEÍDHEEÏHEEÍLEEÍREEÍDEEÍNDEEÍSEEÎHEEÍZEEÎHEEÍCEEÍJEEÍNJEEÍYEE",
      "ÍKEEÍNGGEEÍGEEÍMEEÍNEEÎYEEÍIÎNÍHIÏNÍWIÏNÍPIÍBHIÎIÍMBIÍKPIÍMGBIÍGBIÍFI",
      "ÍVIÍTIÎHIÍDHIÏHIÍLIÍRIÍDIÍNDIÍSIÎHIÍZIÎHIÍCIÍJIÍNJIÍYIÍKIÍNGGIÍGIÍMI",
      "ÍNIÎYIÍAÎNÍNGANÍHAÏNÍWAÏNÍPAÍBHAÎAÍMBAÍKPAÐNÍMGBAÍGBAÍFAÍVAÍTAÎHAÍDHA",
      "ÏHAÍLAÍRAÍDAÍNDAÍSAÎHAÍZAÎHAÍCAÍJAÍNJAÍYAÍKAÏNÍNGGAÍGAÍMAÍNAÎYAÍOOÏN",
      "ÍHOOÍWOOÐNÍPOOÍBHOOÎOOÍMBOOÍKPOOÍMGBOOÍGBOOÍFOOÍVOOÍTOOÎHOOÍDHOOÏHOO",
      "ÍLOOÍROOÍDOOÍNDOOÍSOOÎHOOÍZOOÎHOOÍCOOÍJOOÍNJOOÍYOOÍKOOÍNGGOOÍGOOÍMOO",
      "ÍNOOÎYOOÍUÎNÍHUÏNÍWUÏNÍPUÍBHUÎUÍMBUÍKPUÍMGBUÍGBUÍFUÍVUÍTUÎHUÍDHUÏHU",
      "ÍLUÍRUÍDUÍNDUÍSUÎHUÍZUÎHUÍCUÍJUÍNJUÍYUÍKUÍNGGUÍGUÍMUÍNUÎYUÍOÎNÍNGON",
      "ÍHOÏNÍWOÏNÍPOÍBHOÎOÍMBOÍKPOÍMGBOÍGBOÐNÍFOÍVOÍTOÎHOÍDHOÏHOÍLOÍROÍDO",
      "ÍNDOÍSOÎHOÍZOÎHOÍCOÍJOÍNJOÍYOÍKOÍNGGOÍGOÍMOÍNOÎYOÍEÎNÍNGENÍHEÏNÍWEÏN",
      "ÍPEÍBHEÎEÍMBEÍKPEÐNÍMGBEÍGBEÐNÍFEÍVEÍTEÎHEÍDHEÏHEÍLEÍREÍDEÍNDEÍSEÎHE",
      "ÍZEÎHEÍCEÍJEÍNJEÍYEÍKEÍNGGEÑNÍGEÏNÍMEÍNEÎYEÎGÍLENGTHENERÄCOMMA",
      "ÄFULL STOPÄQUESTIONuÄSYLLABLE NDOLE FAÓKAÓSOOÆMBOL FEENGËKEENGËTING",
      "ËNIIËBANGËFAAËTAAËDANGÌOONGËKUNGËTONGËDO-OËJONGÄDIGIT ZEROÊONEÊTWO",
      "ËHREEÊFOURËIVEÊSIXËEVENÊEIGHTÊNINEÄSYLLABLE NDOLE MAÓDO"]),
    (0xA640, ["CYRILLIC caZEMLYAÉdaZEMLYAÉcaDZELOÉdaDZELOÉcaREVERSED DZE",
      "ÉdaREVERSED DZEÉcaIOTAÉdaIOTAÉcaDJERVÉdaDJERVÉcaMONOGRAPH UK",
      "ÉdaMONOGRAPH UKÉcaBROAD OMEGAÉdaBROAD OMEGAÉcaNEUTRAL YERÉdaNEUTRAL Y",
      "ERÉcaYERUbBACK YERÉdaYERUbBACK YERÉcaIOTIFIED YATÉdaIOTIFIED YAT",
      "ÉcaREVERSED YUÉdaREVERSED YUÉcaIOTIFIED AÉdaIOTIFIED AÉcaCLOSED LITTL",
      "E YUSÉdaCLOSED LITTLE YUSÉcaBLENDED YUSÉdaBLENDED YUSÉcaIOTIFIED CLOS",
      "ED LITTLE YUSÉdaIOTIFIED CLOSED LITTLE YUSÉcaYNÉdaYNÉcaREVERSED TSE",
      "ÉdaREVERSED TSEÉcaSOFT DEÉdaSOFT DEÉcaSOFT ELÉdaSOFT ELÉcaSOFT EM",
      "ÉdaSOFT EMÉcaMONOCULAR OÉdaMONOCULAR OÉcaBINOCULAR OÉdaBINOCULAR O",
      "Écal MONOCULAR OÉdal MONOCULAR OÉLETTER MULTIOCULAR OÁOMBINING CYRILL",
      "IC VZMETÓTEN MILLIONShÓHUNDRED MILLIONShÓTHOUSAND MILLIONSh",
      "ÀSLAVONIC ASTERISKÀCOMBINING CYRILLICaUKRAINIAN IEÚIÚYIÚUÚHARDhÚYERU",
      "ÚSOFThÚOMEGAÓKAVYKAÓPAYEROKÁYRILLIC KAVYKAÉPAYEROKÉcaDWEÉdaDWEÉcaDZWE",
      "ÉdaDZWEÉcaZHWEÉdaZHWEÉcaCCHEÉdaCCHEÉcaDZZEÉdaDZZEÉcaTEbyHOOK",
      "ÉdaTEbyHOOKÉcaTWEÉdaTWEÉcaTSWEÉdaTSWEÉcaTSSEÉdaTSSEÉcaTCHEÉdaTCHE",
      "ÉcaHWEÉdaHWEÉcaSHWEÉdaSHWEÉcal OÉdal OÉcaCROSSED OÉdaCROSSED O",
      "ÀMODIFIERaCYRILLIC HARDhÙSOFThÀCOMBINING CYRILLICaEFÚIOTIFIED E",
      "ÀBAMUMaAÍKAÍUÍKUÍEEÍREEÍTAEÍOÍNYIÍIÍLAÍPAÍRIIÏEEÍLEEEEÍMEEEEÍTAAÍNDAA",
      "ÎJAEMÍMÍSUUÍMUÍSHIIÎIÎHEUXÎEUXÍKYEEÎETÍNUAEÏÎJUAEÍYOQÍSHUÍYUQÎAÍNSHA",
      "ÍKEUXÍPEUXÍNJEEÎTEEÍPUEÍWUEÍPEEÍFEEÍRUÍLUÍMIÍNIÍREUXÎAEÍKENÍNGKWAEN",
      "ÏGAÏAÍSHOÍPUAEÍFUÎOMÍWAÍNAÍLIÍPIÍLOQÍKOÍMBENÍRENÍMENÎAÍTIÍKIÍMOÎBAA",
      "ÍTETÍKPAÍTENÍNTUUÍSAMBAÍFAAMAEÍKOVUUÏGHOMÆCOMBININGu KOQNDON",
      "ÕTUKWENTISÆNJAEMLIÆFULL STOPÆCOLONÈMMAÆSEMICOLONÆQUESTIONu"]),
    (0xA700, ["MODIFIERaCHINESE TONE YIN PINGÞANG PINGÞIN SHANGÞANG SHANG",
      "ÞIN QUÞANG QUÞIN RUÞANG RUÐEXTRA-HIGH DOTTED TONE BARÐHIGH DOTTED TON",
      "E BARÐMID DOTTED TONE BARÐLOW DOTTED TONE BARÐEXTRA-LOW DOTTED TONE B",
      "ARÖHIGH DOTTED LEFT-STEM TONE BARÐHIGH DOTTED LEFT-STEM TONE BAR",
      "ÐMID DOTTED LEFT-STEM TONE BARÐLOW DOTTED LEFT-STEM TONE BAR",
      "ÐEXTRA-LOW DOTTED LEFT-STEM TONE BARÖHIGH LEFT-STEM TONE BAR",
      "ÐHIGH LEFT-STEM TONE BARÐMID LEFT-STEM TONE BARÐLOW LEFT-STEM TONE BA",
      "RÐEXTRA-LOW LEFT-STEM TONE BARÐDOT p BARÔSLASHÔw BARÐLOWER k CORNER A",
      "NGLEÐRAISED UPf×DOWNf×EXCLAMATIONu×INVERTED EXCLAMATIONuÐLOW INVERTED",
      " EXCLAMATIONuÐSTRESSgHIGH TONEÛLOW TONEÀLATIN caEGYPTOLOGICAL ALEF",
      "ÆdaEGYPTOLOGICAL ALEFÆcaEGYPTOLOGICAL AINÆdaEGYPTOLOGICAL AINÆcaHENG",
      "ÆdaHENGÆcaTZÆdaTZÆcaTRESILLOÆdaTRESILLOÆcaCUATRILLOÆdaCUATRILLO",
      "ÆcaCUATRILLObCOMMAÆdaCUATRILLObCOMMAÆLETTER d c FÛSÆcaAAÆdaAAÆcaAO",
      "ÆdaAOÆcaAUÆdaAUÆcaAVÆdaAVÆcaAVbw BARÆdaAVbw BARÆcaAYÆdaAYÆcaREVERSED ",
      "CbDOTÆdaREVERSED CbDOTÆcaKbvÆdaKbvÆcaKbDIAGONAL vÆdaKbDIAGONAL v",
      "ÆcaKbvgDIAGONAL vÆdaKbvgDIAGONAL vÆcaBROKEN LÆdaBROKEN LÆcaLbHIGH v",
      "ÆdaLbHIGH vÆcaObLONG v OVERLAYÆdaObLONG v OVERLAYÆcaObLOOPÆdaObLOOP",
      "ÆcaOOÆdaOOÆcaPbv THROUGH DESCENDERÆdaPbv THROUGH DESCENDER",
      "ÆcaPbFLOURISHÆdaPbFLOURISHÆcaPbSQUIRREL TAILÆdaPbSQUIRREL TAIL",
      "ÆcaQbv THROUGH DESCENDERÆdaQbv THROUGH DESCENDERÆcaQbDIAGONAL v",
      "ÆdaQbDIAGONAL vÆcaR ROTUNDAÆdaR ROTUNDAÆcaRUM ROTUNDAÆdaRUM ROTUNDA",
      "ÆcaVbDIAGONAL vÆdaVbDIAGONAL vÆcaVYÆdaVYÆcaVISIGOTHIC ZÆdaVISIGOTHIC ",
      "ZÆcaTHORNbvÆdaTHORNbvÆcaTHORNbv THROUGH DESCENDERÆdaTHORNbv THROUGH D",
      "ESCENDERÆcaVENDÆdaVENDÆcaETÆdaETÆcaISÆdaISÆcaCONÆdaCONÀMODIFIERaUS",
      "ÀLATIN daDUMÓLUMÓMUMÓNUMÓRUMÆLETTER d c RUMÆdaTUMÓUMÆcaINSULAR D",
      "ÆdaINSULAR DÆcaINSULAR FÆdaINSULAR FÆcaINSULAR GÕTURNED INSULAR G",
      "ÆdaTURNED INSULAR GÆcaTURNED LÆdaTURNED LÆcaINSULAR RÆdaINSULAR R",
      "ÆcaINSULAR SÆdaINSULAR SÆcaINSULAR TÆdaINSULAR TÀMODIFIERaLOW CIRCUMF",
      "LEX ACCENTÐCOLONÐSHORT EQUALShÀLATIN caSALTILLOÆdaSALTILLOÆcaTURNED H",
      "ÆdaLbRETROFLEX HOOKgBELTÆLETTER SINOLOGICAL DOTÆcaNbDESCENDER",
      "ÆdaNbDESCENDERÆcaCbBARÆdaCbBARÚPALATAL HOOKÓHbPALATAL HOOK",
      "ÆcaBbFLOURISHÆdaBbFLOURISHÆcaFbvÆdaFbvÆcaVOLAPUK AEÆdaVOLAPUK AE",
      "ÆcaVOLAPUK OEÆdaVOLAPUK OEÆcaVOLAPUK UEÆdaVOLAPUK UEÆcaGbOBLIQUE v",
      "ÆdaGbOBLIQUE vÆcaKbOBLIQUE vÆdaKbOBLIQUE vÆcaNbOBLIQUE vÆdaNbOBLIQUE ",
      "vÆcaRbOBLIQUE vÆdaRbOBLIQUE vÆcaSbOBLIQUE vÆdaSbOBLIQUE vÆcaHbHOOK",
      "ÕREVERSED OPEN EÕSCRIPT GÕLbBELTÕd c IÆLETTER d c QÆcaTURNED KÜT",
      "ÕJbCROSSED-TAILÕCHIÕBETAÆdaBETAÆcaOMEGAÆdaOMEGAÆcaUbvÆdaUbv",
      "ÆcaGLOTTAL AÆdaGLOTTAL AÆcaGLOTTAL IÆdaGLOTTAL IÆcaGLOTTAL U",
      "ÆdaGLOTTAL UÆcaOLD POLISH OÆdaOLD POLISH OÆcaANGLICANA WÆdaANGLICANA ",
      "WÆcaCbPALATAL HOOKÕSbHOOKÕZbPALATAL HOOKÕDbSHORT v OVERLAY",
      "ÆdaDbSHORT v OVERLAYÆcaSbSHORT v OVERLAYÆdaSbSHORT v OVERLAY"]),
    (0xA7D0, ["LATIN caCLOSED INSULAR GÆdaCLOSED INSULAR G"]),
    (0xA7D3, ["LATIN dal THORN"]),
    (0xA7D5, ["LATIN dal WYNNÆcaySCOTS SÆdaySCOTS SÆcaSIGMOID SÆdaSIGMOID S"]),
    (0xA7F2, ["MODIFIERac CØFØQÀLATIN caREVERSED HALF HÆdaREVERSED HALF H",
      "ÆEPIGRAPHICaSIDEWAYS IÀMODIFIERac HbvÐd LIGATURE OEÀLATINad c TURNED ",
      "MÆEPIGRAPHICaREVERSED FáPØINVERTED MÙ LONGAØARCHAIC MÀSYLOTI NAGRIaA",
      "ÔIÍSIGN DVISVARAÍLETTER UÔEÔOÍSIGN HASANTAÍLETTER KOÕHOÔGOÕHO",
      "ÍSIGN ANUSVARAÍLETTER COÕHOÔJOÕHOÔTTOÖHOÔDDOÖHOÔTOÕHOÔDOÕHOÔNOÔPOÕHO",
      "ÔBOÕHOÔMOÔROÔLOÔRROÔSOÔHOÍVOWELh AØIØUØEØOOÍPOETRYu-1Ù2Ù3Ù4",
      "ÍSIGN ALTERNATE HASANTA"]),
    (0xA830, ["NORTH INDIC FRACTION ONE QUARTERÙHALFÕTHREE QUARTERS",
      "ÕONE SIXTEENTHÙEIGHTHÕTHREE SIXTEENTHSÌQUARTERuÌPLACEHOLDERuÌRUPEEu",
      "ÌQUANTITYu"]),
    (0xA840, ["PHAGS-PAaKAÑHAÐGAÐNGAÐCAÑHAÐJAÐNYAÐTAÑHAÐDAÐNAÐPAÑHAÐBAÐMA",
      "ÐTSAÒHAÐDZAÐWAÐZHAÑAÐd AÐYAÐRAÐLAÐSHAÑAÐHAÐAÐIÐUÐEÐOÐQAÐXAÐFAÐGGAÐEE",
      "ÉSUBJOINEDaWAÚYAÉLETTER TTAÒHAÐDDAÐNNAÐALTERNATE YAÐVOICELESS SHA",
      "ÕD HAÐASPIRATED FAÉSUBJOINEDaRAËPERFIXEDaRAÉLETTER CANDRABINDU",
      "ÉSINGLE HEADuÉl HEADuÉMARK SHADÎl SHAD"]),
    (0xA880, ["SAURASHTRAh ANUSVARAÐVISARGAËLETTER AÓAÒIÓIÒUÓUÒVOCALIC RÛRÚL",
      "ÛLÒEÓEÒAIÒOÓOÒAUÒKAÓHAÒGAÓHAÒNGAÒCAÓHAÒJAÓHAÒNYAÒTTAÔHAÒDDAÔHAÒNNAÒTA",
      "ÓHAÒDAÓHAÒNAÒPAÓHAÒBAÓHAÒMAÒYAÒRAÒLAÒVAÒSHAÓSAÓAÒHAÒLLAËCONSONANTh HA",
      "ARUËVOWELh AAÖI×IÖU×UÖVOCALIC RßRÞLßLÖE×EÖAIÖO×OÖAUËSIGN VIRAMA",
      "ÐCANDRABINDU"]),
    (0xA8CE, ["SAURASHTRA DANDAÌOUBLE DANDAÌIGIT ZEROÑONEÑTWOÒHREEÑFOURÒIVE",
      "ÑSIXÒEVENÑEIGHTÑNINE"]),
    (0xA8E0, ["COMBINING DEVANAGARI DIGIT ZEROÛONEÛTWOÜHREEÛFOURÜIVEÛSIX",
      "ÜEVENÛEIGHTÛNINEÕLETTER AÜUÜKAÜNAÜPAÜRAÜVIÕSIGN AVAGRAHAÀDEVANAGARIh ",
      "SPACING CANDRABINDUÐCANDRABINDU VIRAMAÐl CANDRABINDU VIRAMA",
      "ÐCANDRABINDU TWOÝHREEÜAVAGRAHAÐPUSHPIKAËGAP FILLERËCARETËHEADv",
      "ËSIGN SIDDHAMËJAIN OMËLETTER AYËVOWELh AYÀKAYAH LI DIGIT ZEROÏONEÏTWO",
      "ÐHREEÏFOURÐIVEÏSIXÐEVENÏEIGHTÏNINEÉLETTER KAÑHAÐGAÐNGAÐSAÑHAÐZAÐNYA",
      "ÐTAÐHTAÐNAÐPAÑHAÐMAÐDAÐBAÐRAÐYAÐLAÐWAÐTHAÐHAÐVAÐCAÐAÐOEÐIÐOOÉVOWEL UE",
      "ÏEÏUÏEEÏOÉTONE PLOPHUÎCALYAÓ PLOPHUÉSIGN CWIÎSHYAÀREJANGaKAÎGAÎNGAÎTA",
      "ÎDAÎNAÎPAÎBAÎMAÎCAÎJAÎNYAÎSAÎRAÎLAÎYAÎWAÎHAÎMBAÎNGGAÏDAÏYJAÎA",
      "ÇVOWELh IÒUÒEÒAIÒOÒAUÒEUÓAÇCONSONANTh NG×ÖRÖHÇVIRAMA"]),
    (0xA95F, ["REJANG SECTIONuÀHANGUL CHOSEONG TIKEUT-MIEUM×PIEUP×SIOS×CIEUC",
      "ÐRIEUL-KIYEOKÖSSANGKIYEOKÖTIKEUTÖSSANGTIKEUTÖMIEUMÖPIEUPÖSSANGPIEUP",
      "ÖKAPYEOUNPIEUPÖSIOSÖCIEUCÖKHIEUKHÐMIEUM-KIYEOKÖTIKEUTÖSIOS",
      "ÐPIEUP-SIOS-THIEUTHÖKHIEUKHÖHIEUHÐSSANGSIOS-PIEUPÐIEUNG-RIEULÖHIEUH",
      "ÐSSANGCIEUC-HIEUHÕTHIEUTHÐPHIEUPH-HIEUHÐHIEUH-SIOSÐSSANGYEORINHIEUH"]),
    (0xA980, ["JAVANESEh PANYANGGAÎCECAKÎLAYARÎWIGNYANÉLETTER AÐI KAWIÑÑIÐU",
      "ÐPA CEREKÐNGA LELETÙ RASWADIÐEÐAIÐOÐKAÒ SASAKÓMURDAÐGAÒ MURDAÐNGAÐCA",
      "Ò MURDAÐJAÐNYA MURDAÐJA MAHAPRANAÐNYAÐTTAÓ MAHAPRANAÐDDAÓ MAHAPRANA",
      "ÐNA MURDAÐTAÒ MURDAÐDAÒ MAHAPRANAÐNAÐPAÒ MURDAÐBAÒ MURDAÐMAÐYAÐRA",
      "Ò AGUNGÐLAÐWAÐSA MURDAÔAHAPRANAÒÐHAÉSIGN CECAK TELUÉVOWELh TARUNG",
      "ÕOLONGÔWULUØ MELIKÔSUKUØ MENDUTÔTALINGÔDIRGA MUREÔPEPETÉCONSONANTh KE",
      "RETØPENGKALØCAKRAÉPANGKONÉoRERENGGANÉk RERENGGANÉPADA ANDAPÎMADYA",
      "ÎLUHURÎWINDUÎPANGKATÎLINGSAÏUNGSIÎADEGÒ ADEGÎPISELEHÉTURNED PADA PISE",
      "LEH"]),
    (0xA9CF, ["JAVANESE PANGRANGKEPÉDIGIT ZEROÏONEÏTWOÐHREEÏFOURÐIVEÏSIX",
      "ÐEVENÏEIGHTÏNINE"]),
    (0xA9DE, ["JAVANESE PADA TIRTA TUMETESÎISEN-ISENÀMYANMARaSHAN GHAÔCHA",
      "ÔJHAÔNNAÔBHAÈSIGN SHAN SAWÈMODIFIERaSHAN REDUPLICATIONÈLETTER TAI LAI",
      "NG NYAÙFAÙGAÚHAÙJAÚHAÙDDAÛHAÙNNAÈTAI LAING DIGIT ZEROØONEØTWOÙHREE",
      "ØFOURÙIVEØSIXÙEVENØEIGHTØNINEÈLETTER TAI LAING LLAÙDAÚHAÙBAÚHA"]),
    (0xAA00, ["CHAMaAÌIÌUÌEÌAIÌOÌKAÍHAÌGAÍHAÌNGUEÎAÌCHAÎHAÌJAÍHAÌNHUEÎAÎJA",
      "ÌTAÍHAÌDAÍHAÌNUEÍAÌDDAÌPAÍPAÍHAÌBAÍHAÌMUEÍAÌBBAÌYAÌRAÌLAÌVAÌSSAÍAÌHA",
      "ÅVOWELh AAÐIÑIÐEIÐUÐOEÑÐAIÑUÐUEÅCONSONANTh YAÔRAÔLAÔWA"]),
    (0xAA40, ["CHAMan KÒGÒNGÅCONSONANTh n NGÅLETTER n CHÒTÒNÒPÒYÒRÒLÒSS",
      "ÅCONSONANTh n MÚH"]),
    (0xAA50, ["CHAM DIGIT ZEROËONEËTWOÌHREEËFOURÌIVEËSIXÌEVENËEIGHTËNINE"]),
    (0xAA5C, ["CHAM PUNCTUATION SPIRALÑDANDAÒOUBLE DANDAÑTRIPLE DANDA",
      "ÀMYANMARaKHAMTI GAÖCA×HAÖJA×HAÖNYAÖTTAØHAÖDDAØHA×HAÖNAÖSAÖHA×HAÖFA",
      "ÈMODIFIERaKHAMTI REDUPLICATIONÈLETTER KHAMTI XAÖZAÖRAÉOGOGRAM KHAMTI ",
      "OAYØQNØHMÈSYMBOL AITON EXCLAMATIONÕONEÕTWOÈLETTER AITON RA",
      "ÈSIGN PAO KAREN TONEÍTAI LAING TONE-2Ü5ÈLETTER SHWE PALAUNG CHAÜSHA",
      "ÀTAI VIETaLOW KOÐHIGH KOÐLOW KHOÐHIGH KHOÐLOW KHHOÐHIGH KHHOÐLOW GO",
      "ÐHIGH GOÐLOW NGOÐHIGH NGOÐLOW COÐHIGH COÐLOW CHOÐHIGH CHOÐLOW SO",
      "ÐHIGH SOÐLOW NYOÐHIGH NYOÐLOW DOÐHIGH DOÐLOW TOÐHIGH TOÐLOW THO",
      "ÐHIGH THOÐLOW NOÐHIGH NOÐLOW BOÐHIGH BOÐLOW POÐHIGH POÐLOW PHO",
      "ÐHIGH PHOÐLOW FOÐHIGH FOÐLOW MOÐHIGH MOÐLOW YOÐHIGH YOÐLOW ROÐHIGH RO",
      "ÐLOW LOÐHIGH LOÐLOW VOÐHIGH VOÐLOW HOÐHIGH HOÐLOW OÐHIGH OÉMAI KANG",
      "ÉVOWEL AAÏIÏUEÐÏEÏOÉMAI KHITÉVOWEL IAÏUEAÐAÏAUEÐYÐNÐMÉTONE MAI EK",
      "ÒNUENGÒTHOÒSONG"]),
    (0xAADB, ["TAI VIETq KONÐNUENGÐSAMÐHO HOIÐKOI KOIÀMEETEI MAYEKaEÔOÔCHA",
      "ÔNYAÔTTAÖHAÔDDAÖHAÔNNAÔSHAÕSAÍVOWELh IIØUUØAAIÙUÙAUÍCHEIKHAN",
      "ÍAHANG KHUDAMÎNJIÍSYLLABLE REPETITIONuÍWORD REPETITIONuÍVOWELh VISARG",
      "AÎIRAMA"]), (0xAB01, ["ETHIOPIC SYLLABLE TTHUÕIÕAAÕEEÖÕO"]),
    (0xAB09, ["ETHIOPIC SYLLABLE DDHUÕIÕAAÕEEÖÕO"]),
    (0xAB11, ["ETHIOPIC SYLLABLE DZUÔIÔAAÔEEÕÔO"]),
    (0xAB20, ["ETHIOPIC SYLLABLE CCHHAÖUÖIÖAAÖEE×ÖO"]),
    (0xAB28, ["ETHIOPIC SYLLABLE BBAÔUÔIÔAAÔEEÕÔO"]),
    (0xAB30, ["LATIN daBARRED ALPHAÓA REVERSED-SCHWAÓxLETTER EÔARRED E",
      "ÓEbFLOURISHÓLENIS FÓSCRIPT GbCROSSED-TAILÓLbINVERTED LAZY SÚl yTILDE",
      "ÚyRINGÓMbCROSSED-TAILÓNbCROSSED-TAILÓENGbCROSSED-TAILÓxLETTER Oàbv",
      "ÓOPEN ObvÓINVERTED OEÓTURNED OEbvâw vÛ OPEN-OâbvÓSTIRRUP R",
      "ÆLETTER d c Rbk LEGÆdaR WITHOUT HANDLEÓl RÓRbCROSSED-TAILÓl RbCROSSED",
      "-TAILÓSCRIPT RÛbRINGÓBASELINE ESHÓUbSHORT k LEGÕBARbSHORT k LEGÔI",
      "ÓTURNED UIÓUboHOOKÓCHIÖbLOW k RINGàoSERIFÓXbLOW k RINGÜNG oLEG",
      "çgLOW k RINGèWITH SERIFÓYbSHORT k LEGÀMODIFIER BREVEbINVERTED BREVE",
      "ÉLETTER d HENGÖLbINVERTED LAZY SÝyTILDEÖUboHOOKÀLATIN daSAKHA YAT",
      "ÓIOTIFIED EÓOPEN OEÓUOÓINVERTED ALPHAÀGREEKad c OMEGAÀLATIN daDZ DIGR",
      "APHbRETROFLEX HOOKÓTS DIGRAPHbRETROFLEX HOOKÔURNED RbyTILDE",
      "ÀMODIFIERad TURNED WÐoTACKÐk TACK"]),
    (0xAB70, ["CHEROKEE daAÖEÖIÖOÖUÖVÖGAÖKAÖGE×I×O×U×VÖHA×E×I×O×U×VÖLA×E×I×O",
      "×U×VÖMA×E×I×O×UÖNAÖHNAÖNAH×E×I×O×U×VÖQUAØEØIØOØUØVÖSA××E×I×O×U×VÖDA",
      "ÖTAÖDEÖTEÖDIÖTIÖDO×U×V×LAÖTLAØEØIØOØUØV×SAØEØIØOØUØVÖWA×E×I×O×U×VÖYA",
      "ÀMEETEI MAYEKaKOKÔSAMÔLAIÔMITÔPAÔNAÔCHILÔTILÔKHOUÔNGOUÔTHOUÔWAIÔYANG",
      "ÔHUKÔUNÔIÔPHAMÔATIYAÔGOKÔJHAMÔRAIÔBAÔJILÔDILÔGHOUÔDHOUÔBHAM",
      "ÔKOK LONSUMÔLAI LONSUMÔMIT LONSUMÔPA LONSUMÔNA LONSUMÔTIL LONSUM",
      "ÔNGOU LONSUMÔI LONSUMÍVOWELh ONAPØINAPØANAPØYENAPØSOUNAPØUNAPØCHEINAP",
      "ØNUNGÍCHEIKHEIÍLUM IYEKÍAPUN IYEK"]),
    (0xABF0, ["MEETEI MAYEK DIGIT ZEROÓONEÓTWOÔHREEÓFOURÔIVEÓSIXÔEVENÓEIGHT",
      "ÓNINE"]),
    (0xD7B0, ["HANGUL JUNGSEONG O-YEOÓO-IÑYO-AÕEÔEOÑU-YEOÓI-IÑYU-AEÔOÑEU-A",
      "ÔEOÕÔOÑI-YA-OÕEÔEOÕÓO-IÓYOÔUÓIÑARAEA-A×E"]),
    (0xD7CB, ["HANGUL JONGSEONG NIEUN-RIEUL×CHIEUCHÑSSANGTIKEUTÜ-PIEUP",
      "ÑTIKEUT-PIEUPØSIOSÜ-KIYEOKØCIEUCÙHIEUCHØTHIEUTHÑRIEUL-SSANGKIYEOK",
      "×KIYEOK-HIEUHÑSSANGRIEUL-KHIEUKHÑRIEUL-MIEUM-HIEUH×PIEUP-TIKEUT",
      "ÝPHIEUPH×YESIEUNGÙORINHIEUH-HIEUHÑKAPYEOUNRIEULÑMIEUM-NIEUN",
      "×SSANGNIEUNÑSSANGMIEUMÑMIEUM-PIEUP-SIOS×CIEUCÑPIEUP-TIKEUT",
      "×RIEUL-PHIEUPH×MIEUMÑSSANGPIEUPÑPIEUP-SIOS-TIKEUT×CIEUCØHIEUCH",
      "ÑSIOS-MIEUMÖKAPYEOUNPIEUPÒSANGSIOS-KIYEOKÛTIKEUTÒIOS-PANSIOSÖCIEUC",
      "×HIEUCHÖTHIEUTHÖHIEUHÑPANSIOS-PIEUPÙKAPYEOUNPIEUPÑYESIEUNG-MIEUM",
      "ÚHIEUHÑCIEUC-PIEUP×SSANGPIEUPÑSSANGCIEUCÑPHIEUPH-SIOSÙTHIEUTH"]),
    (0xF900, ["CJK COMPATIBILITY IDEOGRAPH-F900ß1ß2ß3ß4ß5ß6ß7ß8ß9ßAßBßCßDßE",
      "ßFÞ10ß1ß2ß3ß4ß5ß6ß7ß8ß9ßAßBßCßDßEßFÞ20ß1ß2ß3ß4ß5ß6ß7ß8ß9ßAßBßCßDßEßF",
      "Þ30ß1ß2ß3ß4ß5ß6ß7ß8ß9ßAßBßCßDßEßFÞ40ß1ß2ß3ß4ß5ß6ß7ß8ß9ßAßBßCßDßEßFÞ50",
      "ß1ß2ß3ß4ß5ß6ß7ß8ß9ßAßBßCßDßEßFÞ60ß1ß2ß3ß4ß5ß6ß7ß8ß9ßAßBßCßDßEßFÞ70ß1",
      "ß2ß3ß4ß5ß6ß7ß8ß9ßAßBßCßDßEßFÞ80ß1ß2ß3ß4ß5ß6ß7ß8ß9ßAßBßCßDßEßFÞ90ß1ß2",
      "ß3ß4ß5ß6ß7ß8ß9ßAßBßCßDßEßFÞA0ß1ß2ß3ß4ß5ß6ß7ß8ß9ßAßBßCßDßEßFÞB0ß1ß2ß3",
      "ß4ß5ß6ß7ß8ß9ßAßBßCßDßEßFÞC0ß1ß2ß3ß4ß5ß6ß7ß8ß9ßAßBßCßDßEßFÞD0ß1ß2ß3ß4",
      "ß5ß6ß7ß8ß9ßAßBßCßDßEßFÞE0ß1ß2ß3ß4ß5ß6ß7ß8ß9ßAßBßCßDßEßFÞF0ß1ß2ß3ß4ß5",
      "ß6ß7ß8ß9ßAßBßCßDßEßFÝA00ß1ß2ß3ß4ß5ß6ß7ß8ß9ßAßBßCßDßEßFÞ10ß1ß2ß3ß4ß5ß6",
      "ß7ß8ß9ßAßBßCßDßEßFÞ20ß1ß2ß3ß4ß5ß6ß7ß8ß9ßAßBßCßDßEßFÞ30ß1ß2ß3ß4ß5ß6ß7",
      "ß8ß9ßAßBßCßDßEßFÞ40ß1ß2ß3ß4ß5ß6ß7ß8ß9ßAßBßCßDßEßFÞ50ß1ß2ß3ß4ß5ß6ß7ß8",
      "ß9ßAßBßCßDßEßFÞ60ß1ß2ß3ß4ß5ß6ß7ß8ß9ßAßBßCßD"]),
    (0xFA70, ["CJK COMPATIBILITY IDEOGRAPH-FA70ß1ß2ß3ß4ß5ß6ß7ß8ß9ßAßBßCßDßE",
      "ßFÞ80ß1ß2ß3ß4ß5ß6ß7ß8ß9ßAßBßCßDßEßFÞ90ß1ß2ß3ß4ß5ß6ß7ß8ß9ßAßBßCßDßEßF",
      "ÞA0ß1ß2ß3ß4ß5ß6ß7ß8ß9ßAßBßCßDßEßFÞB0ß1ß2ß3ß4ß5ß6ß7ß8ß9ßAßBßCßDßEßFÞC0",
      "ß1ß2ß3ß4ß5ß6ß7ß8ß9ßAßBßCßDßEßFÞD0ß1ß2ß3ß4ß5ß6ß7ß8ß9"]),
    (0xFB00, ["LATIN d LIGATURE FFÖIÖLÖFI×LÕLONG S TÕST"]),
    (0xFB13, ["ARMENIAN d LIGATURE MEN NOWÜECHÜINIØVEW NOWØMEN XEH"]),
    (0xFB1D, ["HEBREWaYODbHIRIQÇPOINT JUDEO-SPANISH VARIKAÇLIGATURE YIDDISH ",
      "YOD YOD PATAHÈETTER ALTERNATIVE AYINÎWIDE ALEFÓDALETÓHEÓKAFÓLAMED",
      "Ón MEMÓRESHÓTAVÎALTERNATIVE PLUShÎSHINbSHIN DOTÙIN DOTØDAGESHgSHIN DO",
      "TäIN DOTÎALEFbPATAHØQAMATSØMAPIQÎBETbDAGESHÎGIMELbDAGESHÎDALETbDAGESH",
      "ÎHEbMAPIQÎVAVbDAGESHÎZAYINbDAGESH"]),
    (0xFB38, ["HEBREWaTETbDAGESHÎYODbDAGESHÎn KAFbDAGESHÎKAFbDAGESH",
      "ÎLAMEDbDAGESH"]), (0xFB3E, ["HEBREWaMEMbDAGESH"]),
    (0xFB40, ["HEBREWaNUNbDAGESHÎSAMEKHbDAGESH"]),
    (0xFB43, ["HEBREWan PEbDAGESHÎPEbDAGESH"]),
    (0xFB46, ["HEBREWaTSADIbDAGESHÎQOFbDAGESHÎRESHbDAGESHÎSHINbDAGESH",
      "ÎTAVbDAGESHÎVAVbHOLAMÎBETbRAFEÎKAFbRAFEÎPEbRAFEÈIGATURE ALEF LAMED",
      "ÀARABICaALEF WASLAjeÙneÎBEEHjeÓneÓreÓMEDIALeÎPEHjeÒneÒreÒMEDIALe",
      "ÎBEHEHjeÔneÔreÔMEDIALeÎTTEHEHjeÕneÕreÕMEDIALeÏEHEHjeÔneÔreÔMEDIALe",
      "ÏTEHjeÓneÓreÓMEDIALeÎVEHjeÒneÒreÒMEDIALeÎPEHEHjeÔneÔreÔMEDIALeÎDYEHje",
      "ÓneÓreÓMEDIALeÎNYEHjeÓneÓreÓMEDIALeÎTCHEHjeÔneÔreÔMEDIALeÓEHjeÖneÖre",
      "ÖMEDIALeÎDDAHALjeÕneÏAHALjeÔneÏULjeÒneÏDALjeÓneÎJEHjeÒneÎRREHjeÓne",
      "ÎKEHEHjeÔneÔreÔMEDIALeÎGAFjeÒneÒreÒMEDIALeÏUEHjeÓneÓreÓMEDIALe",
      "ÎNGOEHjeÔneÔreÔMEDIALeÏOON GHUNNAjeÚneÎRNOONjeÔneÔreÔMEDIALe",
      "ÎHEHbYEHijeáneÒGOALje×ne×re×MEDIALeÒDOACHASHMEEjeÞneÞreÞMEDIALe",
      "ÎYEH BARREEjeÙneÙWITH HAMZAijeêneÇSYMBOL DOTiÒBELOWÎTWO DOTSi×BELOW",
      "ÏHREE DOTSiÙBELOWÙPOINTING DOWNWARDSiìBELOWÎFOUR DOTSiØBELOWÎl p BARm",
      "ÎTWO DOTS pLYiâBELOWÎRINGÎd TAHiØBELOWÎWASLAi"]),
    (0xFBD3, ["ARABICaNGjeÑneÑreÑMEDIALeÎUjeÐneÎOEjeÑneÎYUjeÑneÎUbHAMZAije",
      "ÎVEjeÑneÎKIRGHIZ OEjeÙneÖYUjeÙneÎEjeÐneÐreÐMEDIALeÎUIGHUR KAZAKH KIRG",
      "HIZ ALEF MAKSURA reñMEDIALeÈIGATURE YEHbHAMZAibALEFjeïneëEjeíneêWAWje",
      "îneêUjeìneêOEjeíneêYUjeíneêEjeìneìreÐUIGHUR KIRGHIZ YEHbHAMZAibALEF M",
      "AKSURAjeüF MAKSURA neüF MAKSURA reÈETTER FARSI YEHjeØneØreØMEDIALe",
      "ÈIGATURE YEHbHAMZAibJEEMjeêHAHjeêMEEMjeêALEF MAKSURAjeêYEHje",
      "ÐBEHbJEEMjeÙHAHjeÙKHAHjeÙMEEMjeÙALEF MAKSURAjeÙYEHjeÐTEHbJEEMjeÙHAHje",
      "ÙKHAHjeÙMEEMjeÙALEF MAKSURAjeÙYEHjeÑHEHbJEEMjeÚMEEMjeÚALEF MAKSURAje",
      "ÚYEHjeÐJEEMbHAHjeÚMEEMjeÐHAHbJEEMjeÙMEEMjeÐKHAHbJEEMjeÚHAHjeÚMEEMje",
      "ÐSEENbJEEMjeÚHAHjeÚKHAHjeÚMEEMjeÑADbHAHjeÙMEEMjeÐDADbJEEMjeÙHAHje",
      "ÙKHAHjeÙMEEMjeÐTAHbHAHjeÙMEEMjeÐZAHbMEEMjeÐAINbJEEMjeÙMEEMje",
      "ÐGHAINbJEEMjeÛMEEMjeÐFEHbJEEMjeÙHAHjeÙKHAHjeÙMEEMjeÙALEF MAKSURAje",
      "ÙYEHjeÐQAFbHAHjeÙMEEMjeÙALEF MAKSURAjeÙYEHjeÐKAFbALEFjeÙJEEMjeÙHAHje",
      "ÙKHAHjeÙLAMjeÙMEEMjeÙALEF MAKSURAjeÙYEHjeÐLAMbJEEMjeÙHAHjeÙKHAHje",
      "ÙMEEMjeÙALEF MAKSURAjeÙYEHjeÐMEEMbJEEMjeÚHAHjeÚKHAHjeÚMEEMje",
      "ÚALEF MAKSURAjeÚYEHjeÐNOONbJEEMjeÚHAHjeÚKHAHjeÚMEEMjeÚALEF MAKSURAje",
      "ÚYEHjeÐHEHbJEEMjeÙMEEMjeÙALEF MAKSURAjeÙYEHjeÐYEHbJEEMjeÙHAHjeÙKHAHje",
      "ÙMEEMjeÙALEF MAKSURAjeÙYEHjeÐTHALbSUPERSCRIPT ALEFjeÐREHbSUPERSCRIPT ",
      "ALEFjeÐALEF MAKSURAbSUPERSCRIPT ALEFjeÐSHADDAbDAMMATANjeÜKASRATANje",
      "ÜFATHAjeÜDAMMAjeÜKASRAjeÜSUPERSCRIPT ALEFjeÐYEHbHAMZAibREH neêZAIN ne",
      "êMEEM neêNOON neêALEF MAKSURA neêYEH neÐBEHbREH neÙZAIN neÙMEEM ne",
      "ÙNOON neÙALEF MAKSURA neÙYEH neÐTEHbREH neÙZAIN neÙMEEM neÙNOON ne",
      "ÙALEF MAKSURA neÙYEH neÑHEHbREH neÚZAIN neÚMEEM neÚNOON ne",
      "ÚALEF MAKSURA neÚYEH neÐFEHbALEF MAKSURA neÙYEH neÐQAFbALEF MAKSURA n",
      "eÙYEH neÐKAFbALEF neÙLAM neÙMEEM neÙALEF MAKSURA neÙYEH ne",
      "ÐLAMbMEEM neÙALEF MAKSURA neÙYEH neÐMEEMbALEF neÚMEEM neÐNOONbREH ne",
      "ÚZAIN neÚMEEM neÚNOON neÚALEF MAKSURA neÚYEH neÐALEF MAKSURAbSUPERSCR",
      "IPT ALEF neÐYEHbREH neÙZAIN neÙMEEM neÙNOON neÙALEF MAKSURA neÙYEH ne",
      "ÙHAMZAibJEEM reêHAH reêKHAH reêMEEM reêHEH reÐBEHbJEEM reÙHAH re",
      "ÙKHAH reÙMEEM reÙHEH reÐTEHbJEEM reÙHAH reÙKHAH reÙMEEM reÙHEH re",
      "ÑHEHbMEEM reÐJEEMbHAH reÚMEEM reÐHAHbJEEM reÙMEEM reÐKHAHbJEEM re",
      "ÚMEEM reÐSEENbJEEM reÚHAH reÚKHAH reÚMEEM reÑADbHAH reÙKHAH re",
      "ÙMEEM reÐDADbJEEM reÙHAH reÙKHAH reÙMEEM reÐTAHbHAH reÐZAHbMEEM re",
      "ÐAINbJEEM reÙMEEM reÐGHAINbJEEM reÛMEEM reÐFEHbJEEM reÙHAH reÙKHAH re",
      "ÙMEEM reÐQAFbHAH reÙMEEM reÐKAFbJEEM reÙHAH reÙKHAH reÙLAM reÙMEEM re",
      "ÐLAMbJEEM reÙHAH reÙKHAH reÙMEEM reÙHEH reÐMEEMbJEEM reÚHAH re",
      "ÚKHAH reÚMEEM reÐNOONbJEEM reÚHAH reÚKHAH reÚMEEM reÚHEH re",
      "ÐHEHbJEEM reÙMEEM reÙSUPERSCRIPT ALEF reÐYEHbJEEM reÙHAH reÙKHAH re",
      "ÙMEEM reÙHEH reÚAMZAibMEEM MEDIALeêHEH MEDIALeÐBEHbMEEM MEDIALe",
      "ÙHEH MEDIALeÐTEHbMEEM MEDIALeÙHEH MEDIALeÑHEHbMEEM MEDIALe",
      "ÚHEH MEDIALeÐSEENbMEEM MEDIALeÚHEH MEDIALeÑHEENbMEEM MEDIALe",
      "ÛHEH MEDIALeÐKAFbLAM MEDIALeÙMEEM MEDIALeÐLAMbMEEM MEDIALe",
      "ÐNOONbMEEM MEDIALeÚHEH MEDIALeÐYEHbMEEM MEDIALeÙHEH MEDIALe",
      "ÐSHADDAbFATHA MEDIALeÜDAMMA MEDIALeÜKASRA MEDIALeÐTAHbALEF MAKSURAje",
      "ÙYEHjeÐAINbALEF MAKSURAjeÙYEHjeÐGHAINbALEF MAKSURAjeÛYEHje",
      "ÐSEENbALEF MAKSURAjeÚYEHjeÑHEENbALEF MAKSURAjeÛYEHjeÐHAHbALEF MAKSURA",
      "jeÙYEHjeÐJEEMbALEF MAKSURAjeÚYEHjeÐKHAHbALEF MAKSURAjeÚYEHje",
      "ÐSADbALEF MAKSURAjeÙYEHjeÐDADbALEF MAKSURAjeÙYEHjeÐSHEENbJEEMjeÛHAHje",
      "ÛKHAHjeÛMEEMjeÛREHjeÑEENbREHjeÑADbREHjeÐDADbREHjeÐTAHbALEF MAKSURA ne",
      "ÙYEH neÐAINbALEF MAKSURA neÙYEH neÐGHAINbALEF MAKSURA neÛYEH ne",
      "ÐSEENbALEF MAKSURA neÚYEH neÑHEENbALEF MAKSURA neÛYEH neÐHAHbALEF MAK",
      "SURA neÙYEH neÐJEEMbALEF MAKSURA neÚYEH neÐKHAHbALEF MAKSURA ne",
      "ÚYEH neÐSADbALEF MAKSURA neÙYEH neÐDADbALEF MAKSURA neÙYEH ne",
      "ÐSHEENbJEEM neÛHAH neÛKHAH neÛMEEM neÛREH neÑEENbREH neÑADbREH ne",
      "ÐDADbREH neÐSHEENbJEEM reÛHAH reÛKHAH reÛMEEM reÑEENbHEH re",
      "ÑHEENbHEH reÐTAHbMEEM reÐSEENbJEEM MEDIALeÚHAH MEDIALeÚKHAH MEDIALe",
      "ÑHEENbJEEM MEDIALeÛHAH MEDIALeÛKHAH MEDIALeÐTAHbMEEM MEDIALe",
      "ÐZAHbMEEM MEDIALeÐALEFbFATHATAN neãISOLATEDeÀORNATE oPARENTHESIS",
      "Çk PARENTHESISÀARABIC LIGATURE RAHIMAHU ALLAAHÒDI ALLAAHU ANHàAAàUM",
      "âAAáNNAÐSALLALLAAHU ALAYHI WA-AALIHÐALAYHI AS-SALAAMÖM AS-SALAAM",
      "×AA AS-SALAAMÖ AS-SALAATU WAS-SALAAMÐQUDDISA SIRRAHÐSALLALLAHU ALAYHI",
      " WAAALIHEE WA-SALLAMÐALAYHAA AS-SALAAMÐTABAARAKA WA-TAAALAA",
      "ÐRAHIMAHUM ALLAAHÐTEHbJEEMbMEEM reÙHAHbJEEM neçreâMEEM reÙKHAHbMEEM r",
      "eÙMEEMbJEEM reãHAH reãKHAH reÐJEEMbMEEMbHAH neèreÐHAHbMEEMbYEH ne",
      "ãALEF MAKSURA neÐSEENbHAHbJEEM reÚJEEMbHAH reäALEF MAKSURA ne",
      "ÚMEEMbHAH neèreäJEEM reäMEEM neéreÑADbHAHbHAH neæreÙMEEMbMEEM ne",
      "ÑHEENbHAHbMEEM neéreÛJEEMbYEH neÛMEEMbKHAH neêreåMEEM neêre",
      "ÐDADbHAHbALEF MAKSURA neÙKHAHbMEEM neèreÐTAHbMEEMbHAH neçreãMEEM re",
      "ãYEH neÐAINbJEEMbMEEM neÙMEEMbMEEM neèreãALEF MAKSURA neÐGHAINbMEEMbM",
      "EEM neåYEH neåALEF MAKSURA neÐFEHbKHAHbMEEM neèreÐQAFbMEEMbHAH ne",
      "ãMEEM neÐLAMbHAHbMEEM neâYEH neâALEF MAKSURA neÙJEEMbJEEM reène",
      "ÙKHAHbMEEM neèreÙMEEMbHAH neçreÐMEEMbHAHbJEEM reãMEEM reãYEH ne",
      "ÚJEEMbHAH reäMEEM reÚKHAHbJEEM reäMEEM re"]),
    (0xFD92, ["ARABIC LIGATURE MEEMbJEEMbKHAH reÐHEHbMEEMbJEEM reãMEEM re",
      "ÐNOONbHAHbMEEM reãALEF MAKSURA neÚJEEMbMEEM neéreäALEF MAKSURA ne",
      "ÚMEEMbYEH neäALEF MAKSURA neÐYEHbMEEMbMEEM neèreÐBEHbKHAHbYEH ne",
      "ÐTEHbJEEMbYEH neãALEF MAKSURA neÙKHAHbYEH neãALEF MAKSURA ne",
      "ÙMEEMbYEH neãALEF MAKSURA neÐJEEMbMEEMbYEH neÚHAHbALEF MAKSURA ne",
      "ÚMEEMbALEF MAKSURA neÐSEENbKHAHbALEF MAKSURA neÑADbHAHbYEH ne",
      "ÑHEENbHAHbYEH neÐDADbHAHbYEH neÐLAMbJEEMbYEH neÙMEEMbYEH ne",
      "ÐYEHbHAHbYEH neÙJEEMbYEH neÙMEEMbYEH neÐMEEMbMEEMbYEH neÐQAFbMEEMbYEH",
      " neÐNOONbHAHbYEH neÐQAFbMEEMbHAH reÐLAMbHAHbMEEM reÐAINbMEEMbYEH ne",
      "ÐKAFbMEEMbYEH neÐNOONbJEEMbHAH reÐMEEMbKHAHbYEH neÐLAMbJEEMbMEEM re",
      "ÐKAFbMEEMbMEEM neÐLAMbJEEMbMEEM neÐNOONbJEEMbHAH neÐJEEMbHAHbYEH ne",
      "ÐHAHbJEEMbYEH neÐMEEMbJEEMbYEH neÐFEHbMEEMbYEH neÐBEHbHAHbYEH ne",
      "ÐKAFbMEEMbMEEM reÐAINbJEEMbMEEM reÐSADbMEEMbMEEM reÑEENbKHAHbYEH ne",
      "ÐNOONbJEEMbYEH ne"]), (0xFDCF, ["ARABIC LIGATURE SALAAMUHU ALAYNAA"]),
    (0xFDF0, ["ARABIC LIGATURE SALLA USED AS KORANIC STOPhjeÐQALA USED AS KO",
      "RANIC STOPhjeÐALLAHjeÑKBARjeÐMOHAMMADjeÐSALAMjeÐRASOULjeÐALAYHEje",
      "ÐWASALLAMjeÐSALLAjeÕLLAHOU ALAYHE WASALLAMÐJALLAJALALOUHOUÀRIALh",
      "ÀARABIC LIGATURE BISMILLAH AR-RAHMAN AR-RAHEEMÐSUBHAANAHU WA TAAALAA",
      "ÐAZZA WA JALLÀVARIATION SELECTOR-1Ó2Ó3Ó4Ó5Ó6Ó7Ó8Ó9Ó10Ô1Ô2Ô3Ô4Ô5Ô6",
      "ÀPRESENTATIONe FOR p COMMAßIDEOGRAPHIC COMMAëFULL STOPßCOLON",
      "ßSEMICOLONßEXCLAMATIONußQUESTIONußoWHITE LENTICULAR BRACKET",
      "ßk WHITE LENTICULAR BRAKCETßw ELLIPSIS"]),
    (0xFE20, ["COMBINING LIGATURE oHALFÓk HALFÊl TILDE oHALF×k HALF",
      "ÊMACRON oHALFÑk HALFÊCONJOINING MACRONÊLIGATURE oHALFmÓk HALFm",
      "ÊTILDE oHALFmÐk HALFmÊMACRON oHALFmÑk HALFmÊCONJOINING MACRONm",
      "ËYRILLIC TITLO oHALFÙk HALFÀPRESENTATIONe FOR p TWO DOT LEADER",
      "ßEM DASHàN DASHßLOW LINEßWAVY LOW LINEßoPARENTHESISßk PARENTHESIS",
      "ßoCURLY BRACKETßk CURLY BRACKETßoTORTOISE SHELL BRACKETßk TORTOISE SH",
      "ELL BRACKETßox LENTICULAR BRACKETßk x LENTICULAR BRACKETßol ANGLE BRA",
      "CKETßk l ANGLE BRACKETßoANGLE BRACKETßk ANGLE BRACKETßoCORNER BRACKET",
      "ßk CORNER BRACKETßoWHITE CORNER BRACKETßk WHITE CORNER BRACKET",
      "ÀSESAME DOTÀWHITE SESAME DOTÀPRESENTATIONe FOR p oSQUARE BRACKET",
      "ßk SQUARE BRACKETÀDASHED OVERLINEÀCENTRELINE OVERLINEÀWAVY OVERLINE",
      "Àl WAVY OVERLINEÁASHED LOW LINEÀCENTRELINE LOW LINEÀWAVY LOW LINE",
      "Àd COMMAÆIDEOGRAPHIC COMMAÆFULL STOP"]),
    (0xFE54, ["d SEMICOLONÆCOLONÆQUESTIONuÆEXCLAMATIONuÇM DASHÆoPARENTHESIS",
      "Æk PARENTHESISÆoCURLY BRACKETÆk CURLY BRACKETÆoTORTOISE SHELL BRACKET",
      "Æk TORTOISE SHELL BRACKETÆNUMBERhÆAMPERSANDÇSTERISKÆPLUShÆHYPHEN-MINU",
      "SÆLESS-THANhÆGREATER-THANhÆEQUALSh"]),
    (0xFE68, ["d REVERSE SOLIDUSÆDOLLARhÆPERCENThÆCOMMERCIAL AT"]),
    (0xFE70, ["ARABIC FATHATANjeÇTATWEELbFATHATANiÇDAMMATANjeÇTAIL FRAGMENT",
      "ÇKASRATANje"]),
    (0xFE76, ["ARABIC FATHAjeÍMEDIALeÇDAMMAjeÍMEDIALeÇKASRAjeÍMEDIALe",
      "ÇSHADDAjeÎMEDIALeÈUKUNjeÍMEDIALeÇLETTER HAMZAjeÎALEFbMADDAijeäne",
      "ØHAMZAijeäneÎWAWbHAMZAijeãneÎALEFbHAMZAmjeäneÎYEHbHAMZAijeãneãre",
      "ãMEDIALeÎALEFjeÓneÎBEHjeÒneÒreÒMEDIALeÎTEH MARBUTAjeÚneÒISOLATEDeÒne",
      "ÒreÒMEDIALeÏHEHjeÓneÓreÓMEDIALeÎJEEMjeÓneÓreÓMEDIALeÎHAHjeÒneÒre",
      "ÒMEDIALeÎKHAHjeÓneÓreÓMEDIALeÎDALjeÒneÎTHALjeÓneÎREHjeÒneÎZAINjeÓne",
      "ÎSEENjeÓneÓreÓMEDIALeÏHEENjeÔneÔreÔMEDIALeÏADjeÒneÒreÒMEDIALeÎDADje",
      "ÒneÒreÒMEDIALeÎTAHjeÒneÒreÒMEDIALeÎZAHjeÒneÒreÒMEDIALeÎAINjeÒneÒre",
      "ÒMEDIALeÎGHAINjeÔneÔreÔMEDIALeÎFEHjeÒneÒreÒMEDIALeÎQAFjeÒneÒre",
      "ÒMEDIALeÎKAFjeÒneÒreÒMEDIALeÎLAMjeÒneÒreÒMEDIALeÎMEEMjeÓneÓreÓMEDIALe",
      "ÎNOONjeÓneÓreÓMEDIALeÎHEHjeÒneÒreÒMEDIALeÎWAWjeÒneÎALEF MAKSURAjeÛne",
      "ÎYEHjeÒneÒreÒMEDIALeÈIGATURE LAMbALEFbMADDAijeïneãHAMZAijeïneéBELOWje",
      "ïneÞISOLATEDeÞne"]), (0xFEFF, ["ZERO WIDTH NO-BREAK SPACE"]),
    (0xFF01, ["FULLWIDTH EXCLAMATIONuÊQUOTATIONuÊNUMBERhÊDOLLARhÊPERCENTh",
      "ÊAMPERSANDËPOSTROPHEÊoPARENTHESISÊk PARENTHESISÊASTERISKÊPLUShÊCOMMA",
      "ÊHYPHEN-MINUSÊFULL STOPÊSOLIDUSÊDIGIT ZEROÐONEÐTWOÑHREEÐFOURÑIVEÐSIX",
      "ÑEVENÐEIGHTÐNINEÊCOLONÊSEMICOLONÊLESS-THANhÊEQUALShÊGREATER-THANh",
      "ÊQUESTIONuÊCOMMERCIAL ATÊLATIN caAßBßCßDßEßFßGßHßIßJßKßLßMßNßOßPßQßR",
      "ßSßTßUßVßWßXßYßZËEFT SQUARE BRACKETÊREVERSE SOLIDUSËIGHT SQUARE BRACK",
      "ETÊCIRCUMFLEX ACCENTÊLOW LINEÊGRAVE ACCENTÊLATIN daAÝBÝCÝDÝEÝFÝGÝHÝI",
      "ÝJÝKÝLÝMÝNÝOÝPÝQÝRÝSÝTÝUÝVÝWÝXÝYÝZËEFT CURLY BRACKETÊp LINE",
      "Êk CURLY BRACKETÊTILDEÊoWHITE PARENTHESISÊk WHITE PARENTHESIS",
      "ÀHALFWIDTH IDEOGRAPHIC FULL STOPÊoCORNER BRACKETÊk CORNER BRACKET",
      "ÊIDEOGRAPHIC COMMAÊKATAKANA yDOTÓLETTER WOÚd AàIàUàEàOàYAáUáOàTU",
      "Ò-HIRAGANA PROLONGED SOUNDuÒaAÚIÚUÚEÚOÚKAÛIÛUÛEÛOÚSAÛIÛUÛEÛOÚTAÛIÛUÛE",
      "ÛOÚNAÛIÛUÛEÛOÚHAÛIÛUÛEÛOÚMAÛIÛUÛEÛOÚYAÛUÛOÚRAÛIÛUÛEÛOÚWAÚN",
      "ÓVOICED SOUNDuÓSEMI-VOICED SOUNDuÊHANGUL FILLERÑLETTER KIYEOK",
      "ØSSANGKIYEOKØKIYEOK-SIOSØNIEUNÝ-CIEUCÞHIEUHØTIKEUTØSSANGTIKEUTØRIEUL",
      "Ý-KIYEOKÞMIEUMÞPIEUPÞSIOSÞTHIEUTHÞPHIEUPHÞHIEUHØMIEUMØPIEUP",
      "ØSSANGPIEUPØPIEUP-SIOSØSIOSÙSANGSIOSØIEUNGØCIEUCØSSANGCIEUCØCHIEUCH",
      "ØKHIEUKHØTHIEUTHØPHIEUPHØHIEUH"]),
    (0xFFC2, ["HALFWIDTH HANGULaAÙEØYAÚEØEOÙ"]),
    (0xFFCA, ["HALFWIDTH HANGULaYEOÚØOØWAÚEØOE"]),
    (0xFFD2, ["HALFWIDTH HANGULaYOØUØWEOÚÙIØYU"]),
    (0xFFDA, ["HALFWIDTH HANGULaEUØYIØI"]),
    (0xFFE0, ["FULLWIDTH CENThÊPOUNDhÊNOThÊMACRONÊBROKEN BARÊYENhÊWONh"]),
    (0xFFE8, ["HALFWIDTHeS LIGHT pÊsfÊUPWARDSfÊkWARDSfÊDOWNWARDSfÊx SQUARE",
      "ÊWHITE CIRCLE"]),
    (0xFFF9, ["INTERLINEAR ANNOTATION ANCHOR×SEPARATOR×TERMINATOR",
      "ÀOBJECT REPLACEMENT CHARACTERÀREPLACEMENT CHARACTER"])]

/-- Ancient scripts, from U+10000 on. -/
def ancientRuns : List (Nat × List String) :=
  [(0x10000, ["LINEAR B SYLLABLE B008 AÔ38 EÔ28 IÔ61 OÔ10 UÔ01 DAÔ45 DE",
      "Ô07 DIÔ14 DOÔ51 DUÕ7 JAÔ46 JE"]),
    (0x1000D, ["LINEAR B SYLLABLE B036 JOÔ65 JUÔ77 KAÔ44 KEÔ67 KIÔ70 KO",
      "Ô81 KUÕ0 MAÔ13 MEÔ73 MIÔ15 MOÔ23 MUÔ06 NAÔ24 NEÔ30 NIÔ52 NOÕ5 NU",
      "Ô03 PAÔ72 PEÔ39 PIÔ11 POÔ50 PUÔ16 QAÔ78 QEÔ21 QIÔ32 QO"]),
    (0x10028, ["LINEAR B SYLLABLE B060 RAÔ27 REÔ53 RIÔ02 ROÔ26 RUÔ31 SA",
      "Ô09 SEÔ41 SIÔ12 SOÔ58 SUÕ9 TAÔ04 TEÔ37 TIÔ05 TOÔ69 TUÔ54 WAÔ75 WE",
      "Ô40 WIÕ2 WO"]), (0x1003C, ["LINEAR B SYLLABLE B017 ZAÔ74 ZE"]),
    (0x1003F, ["LINEAR B SYLLABLE B020 ZOÕ5 A2Ô43 A3Ô85 AUÔ71 DWEÔ90 DWO",
      "Ô48 NWAÔ29 PU2Ô62 PTEÔ76 RA2Ô33 RA3Ô68 RO2Õ6 TA2Ô87 TWEÔ91 TWO"]),
    (0x10050, ["LINEAR Bq B018Ó9Ò22Ò34Ò47Ó9Ò56Ò63Ó4Ò79Ò82Ó3Ó6Ó9"]),
    (0x10080, ["LINEAR B IDEOGRAM B100 MANÕ2 WOMANÕ4 DEERÕ5 EQUIDÖF MARE",
      "ÖM STALLIONÕ6F EWEÖM RAMÕ7F SHE-GOATÖM HE-GOATÕ8F SOWÖM BOARÕ9F COW",
      "ÖM BULLÔ20 WHEATÕ1 BARLEYÕ2 OLIVEÕ3 SPICEÕ5 CYPERUSÉMONOGRAM B127 KAP",
      "OÕ8 KANAKOÉIDEOGRAM B130 OILÕ1 WINEÕ2ÉMONOGRAM B133 AREPAÕ5 MERI",
      "ÉIDEOGRAM B140 BRONZEÕ1 GOLDÕ2Õ5 WOOLÕ6Ô50Õ1 HORNÕ2Õ3Õ4ÉMONOGRAM B156",
      " TURO2ÉIDEOGRAM B157Õ8Õ9 CLOTHÔ60Õ1Õ2 GARMENTÕ3 ARMOURÕ4Õ5Õ6Õ7Õ8Õ9Ô70",
      "Õ1Õ2Õ3 MONTHÕ4Õ6 TREEÕ7Õ8Õ9Ô80Õ1Õ2Õ3Õ4Õ5Õ9Ô90Õ1 HELMETÓ220 FOOTSTOOL",
      "Õ5 BATHTUBÔ30 SPEARÕ1fÕ2Õ3 SWORDÕ4Õ6Ô40 WHEELED CHARIOTÕ1 CHARIOT",
      "Õ2 CHARIOT FRAMEÕ3 WHEELÕ5Õ6ÉMONOGRAM B247 DIPTEÉIDEOGRAM B248Õ9Ô51Õ2",
      "Õ3Õ4 DARTÕ5Õ6Õ7Õ8Õ9ÒVESSEL B155Ú200Ü1Ü2Ü3Ü4Ü5Ü6Ü7Ü8Ü9Û10Ü1Ü2Ü3Ü4Ü5Ü6",
      "Ü7Ü8Ü9Û21Ü2Ü6Ü7Ü8Ü9Û50Ú305"]),
    (0x10100, ["AEGEAN WORD SEPARATOR LINEÖDOTÇCHECKu"]),
    (0x10107, ["AEGEAN NUMBER ONEÎTWOÏHREEÎFOURÏIVEÎSIXÏEVENÎEIGHTÎNINEÎTEN",
      "ÏWENTYÏHIRTYÎFORTYÏIFTYÎSIXTYÏEVENTYÎEIGHTYÎNINETYÎONEzÎTWOzÏHREEz",
      "ÎFOURzÏIVEzÎSIXzÏEVENzÎEIGHTzÎNINEzÎONE THOUSANDÎTWO THOUSAND",
      "ÏHREE THOUSANDÎFOUR THOUSANDÏIVE THOUSANDÎSIX THOUSANDÏEVEN THOUSAND",
      "ÎEIGHT THOUSANDÎNINE THOUSANDÎTEN THOUSANDÏWENTY THOUSANDÏHIRTY THOUS",
      "ANDÎFORTY THOUSANDÏIFTY THOUSANDÎSIXTY THOUSANDÏEVENTY THOUSAND",
      "ÎEIGHTY THOUSANDÎNINETY THOUSAND"]),
    (0x10137, ["AEGEAN WEIGHT BASE UNITÎFIRST SUBUNITÎSECOND SUBUNIT",
      "ÎTHIRD SUBUNITÎFOURTH SUBUNITÇDRY MEASURE FIRST SUBUNITÇLIQUID MEASUR",
      "E FIRST SUBUNITÇMEASURE SECOND SUBUNITÏTHIRD SUBUNITÀGREEK ACROPHONIC",
      " ATTIC ONE QUARTERÛHALFÛDRACHMA×FIVEÙFTYÙVEzÜTHOUSANDÙFTY THOUSAND",
      "ÙVE TALENTS×TEN TALENTS×FIFTY TALENTS×ONEz TALENTS×FIVEz TALENTS",
      "×ONE THOUSAND TALENTS×FIVE THOUSAND TALENTSÜSTATERS×TEN STATERS",
      "×FIFTY STATERS×ONEz STATERS×FIVEz STATERS×ONE THOUSAND STATERS",
      "×TEN THOUSAND STATERS×FIFTY THOUSAND STATERS×TEN MNASÑHERAEUM ONE PLE",
      "THRONÑTHESPIAN ONEÑHERMIONIAN ONEÑEPIDAUREAN TWOÑTHESPIAN TWO",
      "ÑCYRENAIC TWO DRACHMASÑEPIDAUREAN TWO DRACHMASÑTROEZENIAN FIVEÜTEN",
      "ß ALTERNATEeÑHERMIONIAN TENÑMESSENIAN TENÑTHESPIAN TENÛHIRTY",
      "ÒROEZENIAN FIFTYá ALTERNATEeÑHERMIONIAN FIFTYÑTHESPIAN FIFTYÚONEz",
      "ÚTHREEzÑEPIDAUREAN FIVEzÑTROEZENIAN FIVEzÒHESPIAN FIVEzÑCARYSTIAN FIV",
      "EzÑNAXIAN FIVEzÑTHESPIAN ONE THOUSANDÚFIVE THOUSANDÑDELPHIC FIVE MNAS",
      "ÑSTRATIAN FIFTY MNASÆONE HALFhÓ ALTERNATEeÆTWO THIRDShÇHREE QUARTERSh",
      "ÆYEARhÆTALENThÆDRACHMAhÆOBOLhÆTWO OBOLShÇHREE OBOLShÆFOUR OBOLSh",
      "ÇIVE OBOLShÆMETRETEShÆKYATHOS BASEhÆLITRAhÆOUNKIAhÆXESTEShÆARTABEh",
      "ÈOURAhÆGRAMMAhÆTRYBLION BASEhÆZEROhÆONE QUARTERhÆSINUSOIDhÆINDICTIONh",
      "ÀNOMISMAh"]),
    (0x10190, ["ROMAN SEXTANShÆUNCIAhÆSEMUNCIAhÈXTULAhÆDIMIDIA SEXTULAh",
      "ÆSILIQUAhÆDENARIUShÆQUINARIUShÆSESTERTIUShÆDUPONDIUShÆAShÆCENTURIALh",
      "ÀASCIAq"]), (0x101A0, ["GREEKq TAU RHO"]),
    (0x101D0, ["PHAISTOS DISCh PEDESTRIANÔLUMED HEADÓTATTOOED HEADÓCAPTIVE",
      "ÔHILDÓWOMANÓHELMETÓGAUNTLETÓTIARAÓARROWÓBOWÓSHIELDÓCLUBÓMANACLES",
      "ÕTTOCKÓSAWÓLIDÓBOOMERANGÓCARPENTRY PLANEÓDOLIUMÓCOMBÓSLINGÓCOLUMN",
      "ÓBEEHIVEÓSHIPÓHORNÔIDEÓBULLS LEGÓCATÓRAMÓEAGLEÓDOVEÓTUNNYÓBEE",
      "ÓPLANE TREEÓVINEÓPAPYRUSÓROSETTEÓLILYÓOX BACKÓFLUTEÓGRATERÓSTRAINER",
      "ÔMALL AXEÓWAVY BANDÓCOMBINING OBLIQUE v"]),
    (0x10280, ["LYCIANaAÎEÎBÏHÎGÎDÎIÎWÎZÎTHÎJÎKÎQÎLÎMÎNÎMMÎNNÎUÎPÎKKÎRÎSÎTÏT",
      "ÎANÎENÎHÎX"]),
    (0x102A0, ["CARIANaAÎP2ÎDÎLÎUUUÎRÎLDÎA2ÎQÎBÎMÎOÎD2ÎTÎSHÐ2ÏÎC-18ÎUÎNNÎXÎN",
      "ÎTT2ÎPÎSSÎIÎEÎUUUUÎKÏ2ÎNDÎUUÎGÏ2ÎSTÐ2ÎNGÎIIÎC-39ÎTTÎUUU2ÎRRÎMBÐ2Ð3Ð4",
      "ÎLD2ÎE2ÎUUU3"]),
    (0x102E0, ["COPTIC EPACT THOUSANDSuÍDIGIT ONEÓTWOÔHREEÓFOURÔIVEÓSIXÔEVEN",
      "ÓEIGHTÓNINEÍNUMBER TENÕWENTYÕHIRTYÔFORTYÕIFTYÔSIXTYÕEVENTYÔEIGHTY",
      "ÔNINETYÔONEzÔTWOzÕHREEzÔFOURzÕIVEzÔSIXzÕEVENzÔEIGHTzÔNINEz"]),
    (0x10300, ["OLD ITALICaAÒBEÒKEÒDEÒEÒVEÒZEÒHEÒTHEÒIÒKAÒELÓMÓNÓSHÒOÒPEÒSHE",
      "ÒKUÒERÓSÒTEÒUÒEKSÒPHEÒKHEÒEFÓRSÒCHEÒIIÒUUÒESSËNUMERAL ONEÓFIVEÓTEN",
      "ÓFIFTY"]),
    (0x1032D, ["OLD ITALICaYEÒNORTHERN TSEÒSOUTHERN TSEÀGOTHICaAHSAÎBAIRKAN",
      "ÎGIBAÎDAGSÎAIHVUSÎQAIRTHRAÎIUJAÎHAGLÎTHIUTHÎEISÎKUSMAÎLAGUSÎMANNA",
      "ÎNAUTHSÎJERÎURUSÎPAIRTHRAÎNINETYÎRAIDAÎSAUILÎTEIWSÎWINJAÎFAIHUÎIGGWS",
      "ÎHWAIRÎOTHALÎNINEz"]),
    (0x10350, ["OLD PERMICaANÒBURÒGAIÒDOIÒEÒZHOIÒDZHOIÒZATAÒDZITAÒIÒKOKEÒLEI",
      "ÒMENOEÒNENOEÒVOOIÒPEEIÒREIÒSIIÒTAIÒUÒCHERYÒSHOOIÔCHOOIÒYRYÓERUÒOÓOÒEF",
      "ÒHAÒTSIUÒVERÒYERÕIÓATÒIEÒYUÓAÒIAÀCOMBINING OLD PERMICaANÜDOIÜZATA",
      "ÜNENOEÜSII"]),
    (0x10380, ["UGARITICaALPAÐBETAÐGAMLAÐKHAÐDELTAÐHOÐWOÐZETAÐHOTAÐTETÐYOD",
      "ÐKAFÐSHINÐLAMDAÐMEMÐDHALÐNUNÐZUÐSAMKAÐAINÐPUÐSADEÐQOPAÐRASHAÐTHANNA",
      "ÐGHAINÐTOÐIÐUÐSSU"]),
    (0x1039F, ["UGARITIC WORD DIVIDERÀOLD PERSIANh AÑIÑUÑKAÒUÑGAÒUÑXAÑCAÑJA",
      "ÒIÑTAÒUÑDAÒIÒUÑTHAÑPAÑBAÑFAÑNAÒUÑMAÒIÒUÑYAÑVAÒIÑRAÒUÑLAÑSAÑZAÑSHAÒSA",
      "ÑHA"]),
    (0x103C8, ["OLD PERSIANh AURAMAZDAAÛ-2ÛHAÑXSHAAYATHIYAÑDAHYAAUSHÚ-2ÑBAGA",
      "ÒUUMISHÌWORD DIVIDERÌNUMBER ONEÓTWOÔENÔWENTYÓHUNDRED"]),
    (0x10400, ["DESERET caLONG IÜEÜAÝHÜOÝO×SHORT IÝEÝAÞHÝOÞO×AY×OW×WU×YEE×H",
      "×PEE×BEE×TEE×DEE×CHEE×JEE×KAY×GAY×EF×VEE×ETH×THEE×ES×ZEE×ESH×ZHEE×ER",
      "ØLØMØNÙG×OI×EWÈdaLONG IÚEÚAÛHÚOÛOÕSHORT IÛEÛAÜHÛOÜOÕAYÕOWÕWUÕYEEÕH",
      "ÕPEEÕBEEÕTEEÕDEEÕCHEEÕJEEÕKAYÕGAYÕEFÕVEEÕETHÕTHEEÕESÕZEEÕESHÕZHEEÕER",
      "ÖLÖMÖN×GÕOIÕEWÀSHAVIANaPEEPÏTOTÏKICKÏFEEÏTHIGHÏSOÐUREÏCHURCHÏYEAÏHUNG",
      "ÏBIBÏDEADÏGAGÏVOWÏTHEYÏZOOÏMEASUREÏJUDGEÏWOEÏHA-HAÏLOLLÏMIMEÏIFÏEGG",
      "ÏASHÐDOÏONÏWOOLÏOUTÏAHÏROARÏNUNÏEATÏAGEÏICEÏUPÏOAKÐOZEÐILÏAWEÐREÏOR",
      "ÏAIRÏERRÏARRAYÏEARÏIANÏYEWÀOSMANYAaALEFÏBAÏTAÏJAÏXAÏKHAÏDEELÏRAÏSA",
      "ÐHIINÏDHAÏCAYNÏGAÏFAÏQAAFÏKAAFÏLAANÏMIINÏNUUNÏWAWÏHAÏYAÏAÏEÏIÏOÏUÏAA",
      "ÏEEÏOO"]),
    (0x104A0, ["OSMANYA DIGIT ZEROÎONEÎTWOÏHREEÎFOURÏIVEÎSIXÏEVENÎEIGHTÎNINE"]),
    (0x104B0, ["OSAGE caAÖI×NÖHÕBRAÕCHAÕEHCHAÖÖINÕHAÖYAÕIÕKAÕEHKAÕKYAÕLAÕMA",
      "ÕNAÕOÖINÕPAÕEHPAÕSAÖHAÕTAÕEHTAÕTSAÕEHTSAÕTSHAÕDHAÕUÕWAÕKHAÕGHAÕZAÖHA"]),
    (0x104D8, ["OSAGE daAÔIÕNÔHÓBRAÓCHAÓEHCHAÔÔINÓHAÔYAÓIÓKAÓEHKAÓKYAÓLAÓMA",
      "ÓNAÓOÔINÓPAÓEHPAÓSAÔHAÓTAÓEHTAÓTSAÓEHTSAÓTSHAÓDHAÓUÓWAÓKHAÓGHAÓZAÔHA"]),
    (0x10500, ["ELBASANaAÏBEÏCEÐHEÏDEÏNDEÏDHEÏEIÐÏFEÏGEÐJEÏHEÏIÏJEÏKEÏLEÐLE",
      "ÏMEÏNEÐAÐJEÏOÏPEÏQEÏREÐREÏSEÐHEÏTEÐHEÏUÏVEÏXEÏYÏZEÐHEÏGHEÑAMMAÏKHE"]),
    (0x10530, ["CAUCASIAN ALBANIANaALTÚBETÚGIMÚDATÚEBÚZARLÚEYNÚZHILÚTASÚCHA",
      "ÚYOWDÚZHAÚIRBÚSHAÚLANÚINYAÚXEYNÚDYANÚCARÚJHOXÚKARÚLYITÚHEYTÚQAYÚAOR",
      "ÚCHOYÜIÛYAYÚMAQÚQARÚNOWCÚDZYAYÚSHAKÚJAYNÚONÚTYAYÚFAMÚDZAYÚCHATÚPEN",
      "ÚGHEYSÚRATÚSEYKÚVEYZÚTIWRÚSHOYÚIWNÚCYAWÛAYNÚYAYDÚPIWRÚKIW"]),
    (0x1056F, ["CAUCASIAN ALBANIAN CITATIONuÀVITHKUQI caAØBBEÙEØCEÙHEØDEÙHE",
      "ØEIÙØFEØGA"]),
    (0x1057C, ["VITHKUQI caHAÙHAØIÙJEØJEØKAØLAÙLAØMEØNEÙJEØOØPEØQAØRE"]),
    (0x1058C, ["VITHKUQI caSEÙHEØTEÙHEØUØVEØXE"]),
    (0x10594, ["VITHKUQI caYØZE"]),
    (0x10597, ["VITHKUQI daAÖBBE×EÖCE×HEÖDE×HEÖEI×ÖFEÖGA"]),
    (0x105A3, ["VITHKUQI daHA×HAÖI×JEÖJEÖKAÖLA×LAÖMEÖNE×JEÖOÖPEÖQAÖRE"]),
    (0x105B3, ["VITHKUQI daSE×HEÖTE×HEÖUÖVEÖXE"]),
    (0x105BB, ["VITHKUQI daYÖZE"]),
    (0x10600, ["LINEAR Ah AB001Ò2Ò3Ò4Ò5Ò6Ò7Ò8Ò9Ñ10Ò1Ò3Ò6Ò7Ñ20Ò1ÓFÓMÒ2ÓFÓMÒ3",
      "ÓMÒ4Ò6Ò7Ò8Ï028BÏB029Ñ30Ò1Ò4Ò7Ò8Ò9Ñ40Ò1Ò4Ò5Ò6Ò7Ò8Ò9Ñ50Ò1Ò3Ò4Ò5Ò6Ò7Ò8Ò9",
      "Ñ60Ò1Ò5Ò6Ò7Ò9Ñ70Ò3Ò4Ò6Ò7Ò8Ò9Ñ80Ò1Ò2Ò5Ò6Ò7Ï100-102ÏB118Ñ20Ï120BÏB122Ò3",
      "Ñ31AÓBÏ131CÏB164Ñ71Ñ80Ò8Ñ91Ï301Ñ2Ñ3Ñ4Ñ5Ñ6Ñ7Ñ8Ñ9AÒBÒCÐ10Ñ1Ñ2Ñ3AÒBÒCÑ4",
      "Ñ5Ñ6Ñ7Ñ8Ñ9Ð20Ñ1Ñ2Ñ3Ñ4Ñ5Ñ6Ñ7Ñ8Ñ9Ð30Ñ1Ñ2Ñ3Ñ4Ñ5Ñ6Ñ7Ñ8Ñ9Ð40Ñ1Ñ2Ñ3Ñ4Ñ5Ñ6Ñ7",
      "Ñ8Ñ9Ð50Ñ1Ñ2Ñ3Ñ4Ñ5Ñ6Ñ7Ñ8Ñ9Ð60Ñ1Ñ2Ñ3Ñ4Ñ5Ñ6Ñ7Ñ8Ñ9Ð70Ñ1Ï400-VASÑ1-VAS",
      "Ñ2-VASÑ3-VASÑ4-VASÑ5-VASÑ6-VASÑ7-VASÑ8-VASÑ9-VASÐ10-VASÑ1-VASÑ2-VAS",
      "Ñ3-VASÑ4-VASÑ5-VASÑ6-VASÑ7-VASÑ8-VASÏ501Ñ2Ñ3Ñ4Ñ5Ñ6Ñ8Ñ9Ð10Ñ1Ñ2Ñ3Ñ5Ñ6",
      "Ð20Ñ1Ñ3Ñ4Ñ5Ñ6Ñ7Ñ8Ñ9Ð30Ñ1Ñ2Ñ4Ñ5Ñ6Ñ7Ñ8Ñ9Ð40Ñ1Ñ2Ñ5Ñ7Ñ8Ñ9Ð50Ñ1Ñ2Ñ3Ñ4Ñ5Ñ6",
      "Ñ7Ñ9Ð63Ñ4Ñ5Ñ6Ñ8Ñ9Ð70Ñ1Ñ2Ñ3Ñ4Ñ5Ñ6Ñ7Ñ8Ñ9Ð80Ñ1Ñ2Ñ3Ñ4Ñ5Ñ6Ñ7Ñ8Ñ9Ð91Ñ2Ñ4Ñ5",
      "Ñ6Ñ8Ï600Ñ1Ñ2Ñ3Ñ4Ñ6Ñ8Ñ9Ð10Ñ1Ñ2Ñ3Ñ4Ñ5Ñ6Ñ7Ñ8Ñ9Ð20Ñ1Ñ2Ñ3Ñ4Ñ6Ñ7Ñ8Ñ9Ð34Ñ7Ñ8",
      "Ð40Ñ2Ñ3Ñ4Ñ5Ñ6Ñ8Ñ9Ð51Ñ2Ñ3Ñ4Ñ5Ñ6Ñ7Ñ8Ñ9Ð60Ñ1Ñ2Ñ3Ñ4"]),
    (0x10740, ["LINEAR Ah A701 AÑ2 BÑ3 DÑ4 EÑ5 FÑ6 HÑ7 JÑ8 KÑ9 LÒ-2 L2Ó3 L3",
      "Ó4 L4Ó6 L6Ð10 WÑ1 XÑ2 YÑ3 OMEGAÑ4 ABBÑ5 BBÑ7 DDÐ26 EYYYÐ32 JE"]),
    (0x10760, ["LINEAR Ah A800Ñ1Ñ2Ñ3Ñ4Ñ5Ñ6Ñ7"]),
    (0x10780, ["MODIFIERad c AAÑUPERSCRIPT TRIANGULAR COLONÜHALF TRIANGULAR ",
      "COLONÑMALL AEÖc BÖBbHOOK"]),
    (0x10787, ["MODIFIERad DZ DIGRAPHàbRETROFLEX HOOKæCURL×EZH DIGRAPH×bTAIL",
      "ÝHOOKágTAILÖREVERSED EÖCLOSED REVERSED OPEN EÖFENG DIGRAPHÖRAMS HORN",
      "Öc GÖGbHOOKÖc GbHOOKÖHbvÖc HÖHENGbHOOKÖDOTLESS JbvgHOOKÖLS DIGRAPH",
      "×Z DIGRAPH×bBELTÖc LbBELTÖLbRETROFLEX HOOKgBELT×EZHÚbRETROFLEX HOOK",
      "ÖTURNED YÞbBELTÖObvÖc OE×LOSED OMEGAÖQÖTURNED RbLONG LEGìgRETROFLEX H",
      "OOKÖRbTAILÝFISHHOOKÖc RÖTC DIGRAPHbCURL×S DIGRAPHàbRETROFLEX HOOK",
      "×ESH DIGRAPH×bRETROFLEX HOOKÖVbk HOOK"]),
    (0x107B2, ["MODIFIERad c YÐGLOTTAL STOPbvÐREVERSED GLOTTAL STOPbv",
      "ÐBILABIAL CLICKÐDENTAL CLICKÐLATERAL CLICKÐALVEOLAR CLICKÐRETROFLEX C",
      "LICKbRETROFLEX HOOKÐd SbCURL"]),
    (0x10800, ["CYPRIOT SYLLABLE AÑEÑIÑOÑUÑJA"]),
    (0x10808, ["CYPRIOT SYLLABLE JO"]),
    (0x1080A, ["CYPRIOT SYLLABLE KAÒEÒIÒOÒUÑLAÒEÒIÒOÒUÑMAÒEÒIÒOÒUÑNAÒEÒIÒOÒU",
      "ÑPAÒEÒIÒOÒUÑRAÒEÒIÒOÒUÑSAÒEÒIÒOÒUÑTAÒEÒIÒOÒUÑWAÒEÒIÒO"]),
    (0x10837, ["CYPRIOT SYLLABLE XAÒE"]), (0x1083C, ["CYPRIOT SYLLABLE ZA"]),
    (0x1083F, ["CYPRIOT SYLLABLE ZOÀIMPERIAL ARAMAICaALEPHØBETHØGIMELØDALETH",
      "ØHEØWAWØZAYINØHETHØTETHØYODHØKAPHØLAMEDHØMEMØNUNØSAMEKHØAYINØPEØSADHE",
      "ØQOPHØRESHØSHINØTAW"]),
    (0x10857, ["IMPERIAL ARAMAIC SECTIONhÑNUMBER ONEØTWOÙHREEÙENÙWENTYØONEz",
      "ÜTHOUSANDØTEN THOUSANDÀPALMYRENEaALEPHÑBETHÑGIMELÑDALETHÑHEÑWAWÑZAYIN",
      "ÑHETHÑTETHÑYODHÑKAPHÑLAMEDHÑMEMÑn NUNÑNUNÑSAMEKHÑAYINÑPEÑSADHEÑQOPH",
      "ÑRESHÑSHINÑTAWÌFT-POINTING FLEURONÊk-POINTING FLEURONÊNUMBER ONEÑTWO",
      "ÒHREEÑFOURÒIVEÑTENÒWENTYÀNABATAEANan ALEPHÑALEPHÑn BETHÑBETHÑGIMEL",
      "ÑDALETHÑn HEÑHEÑWAWÑZAYINÑHETHÑTETHÑn YODHÑYODHÑn KAPHÑKAPHÑn LAMEDH",
      "ÑLAMEDHÑn MEMÑMEMÑn NUNÑNUNÑSAMEKHÑAYINÑPEÑSADHEÑQOPHÑRESHÑn SHIN",
      "ÑSHINÑTAW"]),
    (0x108A7, ["NABATAEAN NUMBER ONEÑTWOÒHREEÑFOURÊCRUCIFORM NUMBER FOUR",
      "ÊNUMBER FIVEÑTENÒWENTYÑONEz"]),
    (0x108E0, ["HATRANaALEPHÎBETHÎGIMELÎDALETH-RESHÎHEÎWAWÎZAYNÎHETHÎTETH",
      "ÎYODHÎKAPHÎLAMEDHÎMEMÎNUNÎSAMEKHÎAYNÎPEÎSADHEÎQOPH"]),
    (0x108F4, ["HATRANaSHINÎTAW"]),
    (0x108FB, ["HATRAN NUMBER ONEÎFIVEÎTENÏWENTYÎONEzÀPHOENICIANaALFÒBET",
      "ÒGAMLÒDELTÒHEÒWAUÒZAIÒHETÒTETÒYODÒKAFÒLAMDÒMEMÒNUNÒSEMKÒAINÒPEÒSADE",
      "ÒQOFÒROSHÒSHINÒTAUËNUMBER ONEÒTENÓWENTYÒONEzÒTWOÓHREE"]),
    (0x1091F, ["PHOENICIAN WORD SEPARATORÀLYDIANaAÎBÎGÎDÎEÎVÎIÎYÎKÎLÎMÎNÎOÎR",
      "ÎSSÎTÎUÎFÎQÎSÎTTÎANÎENÎLYÎNNÎC"]), (0x1093F, ["LYDIAN TRIANGULARu"]),
    (0x10980, ["MEROITIC HIEROGLYPHICaAÝEÝIÝOÝYAÝWAÝBAß-2ÝPAÝMAÝNAß-2ÞEß-2",
      "ÝRAß-2ÝLAÝKHAÝHHAÝSAß-2ÞEÝKAÝQAÝTAß-2ÞEß-2ÞOÝDAÖSYMBOL VIDJá-2",
      "ÉCURSIVEaAØEØIØOØYAØWAØBAØPAØMAØNAÙEØRAØLAØKHAØHHAØSAØARCHAIC SAØSE",
      "ØKAØQAØTAÙEÙOØDA"]),
    (0x109BC, ["MEROITIC CURSIVE FRACTION ELEVEN TWELFTHSÚONE HALF",
      "ÑLOGOGRAM RMTÚIMNÑNUMBER ONEØTWOÙHREEØFOURÙIVEØSIXÙEVENØEIGHTØNINE",
      "ØTENÙWENTYÙHIRTYØFORTYÙIFTYØSIXTYÙEVENTY"]),
    (0x109D2, ["MEROITIC CURSIVE NUMBER ONEzØTWOzÙHREEzØFOURzÙIVEzØSIXz",
      "ÙEVENzØEIGHTzØNINEzØONE THOUSANDØTWO THOUSANDÙHREE THOUSAND",
      "ØFOUR THOUSANDÙIVE THOUSANDØSIX THOUSANDÙEVEN THOUSANDØEIGHT THOUSAND",
      "ØNINE THOUSANDØTEN THOUSANDÙWENTY THOUSANDÙHIRTY THOUSANDØFORTY THOUS",
      "ANDÙIFTY THOUSANDØSIXTY THOUSANDÙEVENTY THOUSANDØEIGHTY THOUSAND",
      "ØNINETY THOUSANDØONEz THOUSANDØTWOz THOUSANDÙHREEz THOUSAND",
      "ØFOURz THOUSANDÙIVEz THOUSANDØSIXz THOUSANDÙEVENz THOUSAND",
      "ØEIGHTz THOUSANDØNINEz THOUSANDÑFRACTION ONE TWELFTHÚTWO TWELFTHS",
      "ÛHREE TWELFTHSÚFOUR TWELFTHSÛIVE TWELFTHSÚSIX TWELFTHSÛEVEN TWELFTHS",
      "ÚEIGHT TWELFTHSÚNINE TWELFTHSÚTEN TWELFTHSÀKHAROSHTHIaAËVOWELh IÖU",
      "ÖVOCALIC R"]), (0x10A05, ["KHAROSHTHI VOWELh EÖO"]),
    (0x10A0C, ["KHAROSHTHI VOWEL LENGTHuËSIGN l RINGmÐANUSVARAÐVISARGA",
      "ËLETTER KAÓHAÒGAÓHA"]), (0x10A15, ["KHAROSHTHIaCAÓHAÒJA"]),
    (0x10A19, ["KHAROSHTHIaNYAÒTTAÔHAÒDDAÔHAÒNNAÒTAÓHAÒDAÓHAÒNAÒPAÓHAÒBAÓHA",
      "ÒMAÒYAÒRAÒLAÒVAÒSHAÓSAÓAÒZAÒHAÒKKAÒTTTHAÕAÒVHA"]),
    (0x10A38, ["KHAROSHTHIh BARiÐCAUDAÐDOTm"]),
    (0x10A3F, ["KHAROSHTHI VIRAMAËDIGIT ONEÑTWOÒHREEÑFOURËNUMBER TENÓWENTY",
      "ÒONEzÖTHOUSANDËFRACTION ONE HALF"]),
    (0x10A50, ["KHAROSHTHI PUNCTUATION DOT×d CIRCLE×CIRCLEØRESCENT BAR",
      "×MANGALAM×LOTUS×DANDAØOUBLE DANDA×LINES"]),
    (0x10A60, ["OLD SOUTH ARABIANaHEÙLAMEDHÙHETHÙMEMÙQOPHÙWAWÙSHINÙRESHÙBETH",
      "ÙTAWÙSATÙKAPHÙNUNÙKHETHÙSADHEÛMEKHÙFEÙALEFÚYNÙDHADHEÙGIMELÙDALETH",
      "ÙGHAYNÙTETHÙZAYNÙDHALETHÙYODHÙTHAWÛETHÒNUMBER ONEÙFIFTYÕERIC INDICATO",
      "RÄNORTH ARABIANaHEHÙLAMÙHAHÙMEEMÙQAFÙWAWÙES-2ÙREHÙBEHÙTEHÙES-1ÙKAF",
      "ÙNOONÙKHAHÙSADÙES-3ÙFEHÙALEFÚINÙDADÙGEEMÙDALÙGHAINÙTAHÙZAINÙTHALÙYEH",
      "ÙTHEHÙZAHÒNUMBER ONEÙTENÚWENTY"]),
    (0x10AC0, ["MANICHAEANaALEPHÒBETHÓHETHÒGIMELÓHIMELÒDALETHÒHEÒWAWËSIGN UD",
      "ËLETTER ZAYINÓHAYINÒJAYINÓHAYINÒHETHÒTETHÒYODHÒKAPHÒXAPHÒKHAPHÒLAMEDH",
      "ÒDHAMEDHÒTHAMEDHÒMEMÒNUNÒSAMEKHÒAYINÓAYINÒPEÒFEÒSADHEÒQOPHÒXOPHÒQHOPH",
      "ÒRESHÒSHINÓSHINÒTAWËABBREVIATIONuiÝBELOW"]),
    (0x10AEB, ["MANICHAEAN NUMBER ONEÒFIVEÒTENÓWENTYÒONEzËPUNCTUATION STAR",
      "×FLEURON×l DOT WITHIN DOTÙT WITHIN DOTÚ×TWO DOTS×LINE FILLER"]),
    (0x10B00, ["AVESTANaAÐAÐOÐAOÐNÐANÐEÑEÏEÐEÏOÐOÏIÐIÏUÐUÏKEÏXEÐYEÐVEÏGEÐGE",
      "ÐHEÏCEÏJEÏTEÐHEÏDEÐHEÏTTEÏPEÏFEÏBEÐHEÏNGEÑYEÑVEÐEÐYEÐNEÏMEÏHMEÏYYEÐE",
      "ÏVEÏREÏLEÏSEÏZEÏSHEÏZHEÏSHYEÐSHEÏHE"]),
    (0x10B39, ["AVESTAN ABBREVIATIONuÀTINY TWO DOTS OVER ONE DOT PUNCTUATION",
      "Àd TWO DOTS OVER ONE DOT PUNCTUATIONÀLARGE TWO DOTS OVER ONE DOT PUNC",
      "TUATIONÆONE DOT OVER TWO DOTS PUNCTUATIONÆTWO RINGS OVER ONE RING PUN",
      "CTUATIONÆONE RING OVER TWO RINGS PUNCTUATIONÀINSCRIPTIONAL PARTHIANaA",
      "LEPHÞBETHÞGIMELÞDALETHÞHEÞWAWÞZAYINÞHETHÞTETHÞYODHÞKAPHÞLAMEDHÞMEM",
      "ÞNUNÞSAMEKHÞAYINÞPEÞSADHEÞQOPHÞRESHÞSHINÞTAW"]),
    (0x10B58, ["INSCRIPTIONAL PARTHIAN NUMBER ONEÞTWOßHREEÞFOURÞTENßWENTY",
      "ÞONEzâTHOUSANDÐHLAVIaALEPHÝBETHÝGIMELÝDALETHÝHEÝWAW-AYIN-RESHÝZAYIN",
      "ÝHETHÝTETHÝYODHÝKAPHÝLAMEDHÝMEM-QOPHÝNUNÝSAMEKHÝPEÝSADHEÞHINÝTAW"]),
    (0x10B78, ["INSCRIPTIONAL PAHLAVI NUMBER ONEÝTWOÞHREEÝFOURÝTENÞWENTY",
      "ÝONEzáTHOUSANDÀPSALTER PAHLAVIaALEPH×BETH×GIMEL×DALETH×HE×WAW-AYIN-RE",
      "SH×ZAYIN×HETH×YODH×KAPH×LAMEDH×MEM-QOPH×NUN×SAMEKH×PE×SADHEØHIN×TAW"]),
    (0x10B99, ["PSALTER PAHLAVI SECTIONuÐTURNED SECTIONuÐFOUR DOTSbCROSSßDOT"]),
    (0x10BA9, ["PSALTER PAHLAVI NUMBER ONE×TWOØHREE×FOUR×TENØWENTY×ONEz"]),
    (0x10C00, ["OLD TURKICaORKHON AÒYENISEI AÛEÒORKHON IÒYENISEI IÚE",
      "ÒORKHON OÚEÒYENISEI OEÒORKHON ABÒYENISEI ABÒORKHON AEBÒYENISEI AEB",
      "ÒORKHON AGÒYENISEI AGÒORKHON AEGÒYENISEI AEGÒORKHON ADÒYENISEI AD",
      "ÒORKHON AEDÙEZÒYENISEI EZÒORKHON AYÒYENISEI AYÒORKHON AEYÒYENISEI AEY",
      "ÒORKHON AEKÒYENISEI AEKÒORKHON OEKÒYENISEI OEKÒORKHON ALÒYENISEI AL",
      "ÒORKHON AELÙELTÚMÙANÚENÒYENISEI AENÒORKHON ENTÒYENISEI ENTÒORKHON ENC",
      "ÒYENISEI ENCÒORKHON ENYÒYENISEI ENYÚANGÒORKHON ENGÒYENISEI AENG",
      "ÒORKHON EPÙOPÙICÙECÒYENISEI ECÒORKHON AQÒYENISEI AQÒORKHON IQ",
      "ÒYENISEI IQÒORKHON OQÒYENISEI OQÒORKHON ARÒYENISEI ARÒORKHON AERÚSÚES",
      "ÚSHÒYENISEI ASHÒORKHON ESHÒYENISEI ESHÒORKHON ATÒYENISEI AT",
      "ÒORKHON AETÒYENISEI AETÒORKHON OTÙBASH"]),
    (0x10C80, ["OLD HUNGARIAN caAÞAÝEBÝAMBÝECÞNCÞCSÞDÝANDÝEÝCLOSE EÝEEÞFÞGßY",
      "ÞHÝIÞIÝEJÞKÝAKÝUNKÝELßYÞMÞNßYÝOÞOÝNIKOLSBURG OEÝRUDIMENTA OEÝOEEÝEP",
      "ÞMPÞRÝSHORT ERÝESßZÞTÞNTÞTYÞCHÝUÞUÝNIKOLSBURG UEÝRUDIMENTA UEÝEVÞZßS",
      "ÞNT-SHAPEDhÝUS"]),
    (0x10CC0, ["OLD HUNGARIAN daAÜAÛEBÛAMBÛECÜNCÜCSÜDÛANDÛEÛCLOSE EÛEEÜFÜGÝY",
      "ÜHÛIÜIÛEJÜKÛAKÛUNKÛELÝYÜMÜNÝYÛOÜOÛNIKOLSBURG OEÛRUDIMENTA OEÛOEEÛEP",
      "ÜMPÜRÛSHORT ERÛESÝZÜTÜNTÜTYÜCHÛUÜUÛNIKOLSBURG UEÛRUDIMENTA UEÛEVÜZÝS",
      "ÜNT-SHAPEDhÛUS"]),
    (0x10CFA, ["OLD HUNGARIAN NUMBER ONEÕFIVEÕTENÕFIFTYÕONEzÙTHOUSAND",
      "ÀHANIFI ROHINGYAaA×BA×PA×TAØTA×JA×CA×HA×KHA×FA×DAØDA×RAØRA×ZA×SAØHA",
      "×KA×GA×LA×MA×NA×WA×KINNA WA×YA×KINNA YA×NGAØYA×VAÐVOWEL AÖIÖUÖEÖO",
      "ÐMARK SAKINÕNA KHONNAÐSIGN HARBAHAYÕTAHALA×NA×SSI"]),
    (0x10D30, ["HANIFI ROHINGYA DIGIT ZEROÖONEÖTWO×HREEÖFOUR×IVEÖSIX×EVEN",
      "ÖEIGHTÖNINE"]),
    (0x10E60, ["RUMI DIGIT ONEËTWOÌHREEËFOURÌIVEËSIXÌEVENËEIGHTËNINE",
      "ÅNUMBER TENÍWENTYÍHIRTYÌFORTYÍIFTYÌSIXTYÍEVENTYÌEIGHTYÌNINETYÌONEz",
      "ÌTWOzÍHREEzÌFOURzÍIVEzÌSIXzÍEVENzÌEIGHTzÌNINEzÅFRACTION ONE HALF",
      "ÒQUARTERÒTHIRDÎTWO THIRDS"]),
    (0x10E80, ["YEZIDIaELIFÎBEÎPEÏHEÎTHEÎSEÎCIMÏHIMÐHIMÎHHAÎXAÎDALÎZALÎRAÏHA",
      "ÎZAÎJAÎSINÏHINÏADÎDADÎTAÎZEÎEYNÎXHEYNÎFAÎVAÐ ALTERNATEeÎQAFÎKAFÏHAF",
      "ÎGAFÎLAMÎMIMÎNUNÎUMÎWAWÎOWÎEWÎHAYÎYOTÎET"]),
    (0x10EAB, ["YEZIDI COMBINING HAMZAuÑMADDAuÇHYPHENATIONu"]),
    (0x10EB0, ["YEZIDIaLAMbDOTiÎYOTbCIRCUMFLEXi"]),
    (0x10F00, ["OLD SOGDIANaALEPHÓn ALEPHÓBETHÓn BETHÓGIMELÓHEÓn HEÓWAW",
      "ÓZAYINÓHETHÓYODHÓKAPHÓLAMEDHÓMEMÓNUNÓn NUNÜbp TAILÓSAMEKHÓAYIN",
      "ÔLTERNATE AYINÓPEÓSADHEÓn SADHEÞbp TAILÓRESH-AYIN-DALETHÓSHINÓTAW",
      "Ón TAWÜbp TAILÌNUMBER ONEÓTWOÔHREEÓFOURÔIVEÓTENÔWENTYÔHIRTYÓONEz",
      "ÌFRACTION ONE HALFÌLIGATURE AYIN-DALETH"]),
    (0x10F30, ["SOGDIANaALEPHÏBETHÏGIMELÏHEÏWAWÏZAYINÏHETHÏYODHÏKAPHÏLAMEDH",
      "ÏMEMÏNUNÏSAMEKHÏAYINÏPEÏSADHEÏRESH-AYINÏSHINÏTAWÏFETHÏLESH",
      "ÈINDEPENDENT SHINÈCOMBINING DOTmÒTWO DOTSmÒDOTiÒTWO DOTSiÒCURVEi",
      "ØBELOWÒHOOKi×BELOWÒLONG HOOKmÒRESHmÒvmÈNUMBER ONEÏTENÐWENTYÏONEz",
      "ÈPUNCTUATION TWO p BARSåbDOTSÔCIRCLEbDOTÔTWO CIRCLESbDOTSÔHALF CIRCLE",
      "bDOT"]),
    (0x10F70, ["OLD UYGHURaALEPHÒBETHÒGIMEL-HETHÒWAWÒZAYINÒn HETHÒYODHÒKAPH",
      "ÒLAMEDHÒMEMÒNUNÒSAMEKHÒPEÒSADHEÒRESHÒSHINÒTAWÒLESHËCOMBINING DOTi",
      "ÙBELOWÕTWO DOTSiÞBELOWËPUNCTUATION BAR×TWO BARSÛDOTS×FOUR DOTS"]),
    (0x10FB0, ["CHORASMIANaALEPHÒd ALEPHÒBETHÒGIMELÒDALETHÒHEÒWAWÒCURLED WAW",
      "ÒZAYINÒHETHÒYODHÒKAPHÒLAMEDHÒMEMÒNUNÒSAMEKHÒAYINÒPEÒRESHÒSHINÒTAW",
      "ËNUMBER ONEÒTWOÓHREEÒFOURÒTENÓWENTYÒONEz"]),
    (0x10FE0, ["ELYMAICaALEPHÏBETHÏGIMELÏDALETHÏHEÏWAWÏZAYINÏHETHÏTETHÏYODH",
      "ÏKAPHÏLAMEDHÏMEMÏNUNÏSAMEKHÏAYINÏPEÏSADHEÏQOPHÏRESHÏSHINÏTAW",
      "ÉIGATURE ZAYIN-YODH"]),
    (0x11000, ["BRAHMIh CANDRABINDUÌANUSVARAÌVISARGAÌJIHVAMULIYAÌUPADHMANIYA",
      "ÇLETTER AÏAÎIÏIÎUÏUÎVOCALIC R×RÖL×LÎEÎAIÎOÎAUÎKAÏHAÎGAÏHAÎNGAÎCAÏHA",
      "ÎJAÏHAÎNYAÎTTAÐHAÎDDAÐHAÎNNAÎTAÏHAÎDAÏHAÎNAÎPAÏHAÎBAÏHAÎMAÎYAÎRAÎLA",
      "ÎVAÎSHAÏSAÏAÎHAÎLLAÎOLD TAMIL LLLAØRRAØNNNAÇVOWELh AAÒBHATTIPROLU AA",
      "ÒIÓIÒUÓUÒVOCALIC RÛRÚLÛLÒEÒAIÒOÒAUÈIRAMAÇDANDAÈOUBLE DANDA",
      "ÇPUNCTUATION DOTÕUBLE DOTÓLINEÓCRESCENT BARÓLOTUS"]),
    (0x11052, ["BRAHMI NUMBER ONEÎTWOÏHREEÎFOURÏIVEÎSIXÏEVENÎEIGHTÎNINEÎTEN",
      "ÏWENTYÏHIRTYÎFORTYÏIFTYÎSIXTYÏEVENTYÎEIGHTYÎNINETYÎONEzÒTHOUSAND",
      "ÇDIGIT ZEROÍONEÍTWOÎHREEÍFOURÎIVEÍSIXÎEVENÍEIGHTÍNINEÇSIGN OLD TAMIL ",
      "VIRAMAÇLETTER OLD TAMIL SHORT EÞOÇVOWELh OLD TAMIL SHORT EâO",
      "ÇLETTER OLD TAMIL LLA"]),
    (0x1107F, ["BRAHMI NUMBER JOINERÀKAITHIh CANDRABINDUÌANUSVARAÌVISARGA",
      "ÇLETTER AÏAÎIÏIÎUÏUÎEÎAIÎOÎAUÎKAÏHAÎGAÏHAÎNGAÎCAÏHAÎJAÏHAÎNYAÎTTAÐHA",
      "ÎDDAÐDHAÐHAÎRHAÎNNAÎTAÏHAÎDAÏHAÎNAÎPAÏHAÎBAÏHAÎMAÎYAÎRAÎLAÎVAÎSHAÏSA",
      "ÏAÎHAÇVOWELh AAÒIÓIÒUÓUÒEÒAIÒOÒAUÇSIGN VIRAMAÌNUKTAÇABBREVIATIONh",
      "ÇENUMERATIONhÇNUMBERhÇSECTIONuÇl SECTIONuÈANDAÈOUBLE DANDA",
      "ÇVOWELh VOCALIC R"]), (0x110CD, ["KAITHI NUMBERhi"]),
    (0x110D0, ["SORA SOMPENGaSAHÔTAHÔBAHÔCAHÔDAHÔGAHÔMAHÔNGAHÔLAHÔNAHÔVAH",
      "ÔPAHÔYAHÔRAHÔHAHÔKAHÔJAHÔNYAHÔAHÔEEHÔIHÔUHÔOHÔEHÔMAE"]),
    (0x110F0, ["SORA SOMPENG DIGIT ZEROÓONEÓTWOÔHREEÓFOURÔIVEÓSIXÔEVENÓEIGHT",
      "ÓNINE"]),
    (0x11100, ["CHAKMAh CANDRABINDUÌANUSVARAÌVISARGAÇLETTER AAÎIÎUÎEÎKAAÏHAA",
      "ÎGAAÏHAAÎNGAAÎCAAÏHAAÎJAAÏHAAÎNYAAÎTTAAÐHAAÎDDAAÐHAAÎNNAAÎTAAÏHAAÎDAA",
      "ÏHAAÎNAAÎPAAÏHAAÎBAAÏHAAÎMAAÎYYAAÏAAÎRAAÎLAAÎWAAÎSAAÎHAAÇVOWELh AÒIÓI",
      "ÒUÓUÒEÒAIÒOÒAUÒOIÇOuÇAUuÇVIRAMAÇMAAYYAA"]),
    (0x11136, ["CHAKMA DIGIT ZEROÍONEÍTWOÎHREEÍFOURÎIVEÍSIXÎEVENÍEIGHTÍNINE",
      "ÇSECTIONuÇDANDAÈOUBLE DANDAÇQUESTIONuÇLETTER LHAAÇVOWELh AAÒEI",
      "ÇLETTER VAA"]),
    (0x11150, ["MAHAJANIaAÐIÐUÐEÐOÐKAÑHAÐGAÑHAÐCAÑHAÐJAÑHAÐNYAÐTTAÒHAÐDDAÒHA",
      "ÐNNAÐTAÑHAÐDAÑHAÐNAÐPAÑHAÐBAÑHAÐMAÐRAÐLAÐVAÐSAÐHAÐRRAÉSIGN NUKTA",
      "ÉABBREVIATIONhÉSECTIONuÉLIGATURE SHRI"]),
    (0x11180, ["SHARADAh CANDRABINDUÍANUSVARAÍVISARGAÈLETTER AÐAÏIÐIÏUÐU",
      "ÏVOCALIC RØR×LØLÏEÏAIÏOÏAUÏKAÐHAÏGAÐHAÏNGAÏCAÐHAÏJAÐHAÏNYAÏTTAÑHAÏDDA",
      "ÑHAÏNNAÏTAÐHAÏDAÐHAÏNAÏPAÐHAÏBAÐHAÏMAÏYAÏRAÏLAÐLAÏVAÏSHAÐSAÐAÏHA",
      "ÈVOWELh AAÓIÔIÓUÔUÓVOCALIC RÜRÛLÜLÓEÓAIÓOÓAUÈSIGN VIRAMAÍAVAGRAHA",
      "ÍJIHVAMULIYAÍUPADHMANIYAÈOMÈDANDAÉOUBLE DANDAÈABBREVIATIONhÈSEPARATOR",
      "ÉANDHIuÉIGN NUKTAÈVOWEL MODIFIERuÈEXTRA SHORT VOWELuÈSUTRAu",
      "ÈVOWELh PRISHTHAMATRA EÈSIGN INVERTED CANDRABINDUÈDIGIT ZEROÎONEÎTWO",
      "ÏHREEÎFOURÏIVEÎSIXÏEVENÎEIGHTÎNINEÈEKAMÈSIGN SIDDHAMÈHEADv",
      "ÈCONTINUATIONhÈSECTIONu-1Õ2"]),
    (0x111E1, ["SINHALA ARCHAIC DIGIT ONEÖTWO×HREEÖFOUR×IVEÖSIX×EVENÖEIGHT",
      "ÖNINEÐNUMBER TENØWENTYØHIRTY×FORTYØIFTY×SIXTYØEVENTY×EIGHTY×NINETY",
      "×ONEzÛTHOUSAND"]),
    (0x11200, ["KHOJKIaAÏAÎIÎUÎEÎAIÎOÎAUÎKAÏHAÎGAÏGAÏHAÎNGAÎCAÏHAÎJAÏJA"]),
    (0x11213, ["KHOJKIaNYAÎTTAÐHAÎDDAÐHAÎNNAÎTAÏHAÎDAÏDDAÏHAÎNAÎPAÏHAÎBAÏBA",
      "ÏHAÎMAÎYAÎRAÎLAÎVAÎSAÎHAÎLLAÇVOWELh AAÒIÓIÒUÒEÒAIÒOÒAUÇSIGN ANUSVARA",
      "ÌVIRAMAÌNUKTAÌSHADDAÇDANDAÈOUBLE DANDAÇWORD SEPARATORÇSECTIONu",
      "Çl SECTIONuÇABBREVIATIONhÇSIGN SUKUN"]),
    (0x11280, ["MULTANIaAÏIÏUÏEÏKAÐHAÏGA"]), (0x11288, ["MULTANIaGHA"]),
    (0x1128A, ["MULTANIaCAÐHAÏJAÐJA"]),
    (0x1128F, ["MULTANIaNYAÏTTAÑHAÏDDAÑDAÑHAÏNNAÏTAÐHAÏDAÐHAÏNAÏPAÐHAÏBA"]),
    (0x1129F, ["MULTANIaBHAÏMAÏYAÏRAÏLAÏVAÏSAÏHAÏRRAÐHAÈSECTIONu"]),
    (0x112B0, ["KHUDAWADIaAÒAÑIÒIÑUÒUÑEÑAIÑOÑAUÑKAÒHAÑGAÒGAÒHAÑNGAÑCAÒHAÑJA",
      "ÒJAÒHAÑNYAÑTTAÓHAÑDDAÓDAÑRRAÑDDHAÑNNAÑTAÒHAÑDAÒHAÑNAÑPAÒHAÑBAÒBAÒHA",
      "ÑMAÑYAÑRAÑLAÑVAÑSHAÒAÑHAÊSIGN ANUSVARAÊVOWELh AAÕIÖIÕUÖUÕEÕAIÕOÕAU",
      "ÊSIGN NUKTAÏVIRAMA"]),
    (0x112F0, ["KHUDAWADI DIGIT ZEROÐONEÐTWOÑHREEÐFOURÑIVEÐSIXÑEVENÐEIGHT",
      "ÐNINE"]),
    (0x11300, ["GRANTHAh COMBINING ANUSVARAiÎANDRABINDUÍANUSVARAÍVISARGA"]),
    (0x11305, ["GRANTHAaAÐAÏIÐIÏUÐUÏVOCALIC R×L"]),
    (0x1130F, ["GRANTHAaEEÏAI"]),
    (0x11313, ["GRANTHAaOOÏAUÏKAÐHAÏGAÐHAÏNGAÏCAÐHAÏJAÐHAÏNYAÏTTAÑHAÏDDAÑHA",
      "ÏNNAÏTAÐHAÏDAÐHAÏNA"]), (0x1132A, ["GRANTHAaPAÐHAÏBAÐHAÏMAÏYAÏRA"]),
    (0x11332, ["GRANTHAaLAÐLA"]), (0x11335, ["GRANTHAaVAÏSHAÐSAÐAÏHA"]),
    (0x1133B, ["COMBINING BINDUmÀGRANTHAh NUKTAÍAVAGRAHAÈVOWELh AAÓIÔIÓUÔU",
      "ÓVOCALIC RÜR"]), (0x11347, ["GRANTHA VOWELh EEÓAI"]),
    (0x1134B, ["GRANTHA VOWELh OOÓAUÈSIGN VIRAMA"]), (0x11350, ["GRANTHA OM"]),
    (0x11357, ["GRANTHA AU LENGTHu"]),
    (0x1135D, ["GRANTHAh PLUTAÈLETTER VEDIC ANUSVARAÕl ANUSVARAÐOCALIC RR×LL",
      "ÈVOWELh VOCALIC LÜL"]),
    (0x11366, ["COMBINING GRANTHA DIGIT ZEROØONEØTWOÙHREEØFOURÙIVEØSIX"]),
    (0x11370, ["COMBINING GRANTHAaAÙKAÙNAÙVIÙPA"]),
    (0x11400, ["NEWAaAÍAÌIÍIÌUÍUÌVOCALIC RÕRÔLÕLÌEÌAIÌOÌAUÌKAÍHAÌGAÍHAÌNGA",
      "ÎHAÌCAÍHAÌJAÍHAÌNYAÎHAÌTTAÎHAÌDDAÎHAÌNNAÌTAÍHAÌDAÍHAÌNAÍHAÌPAÍHAÌBA",
      "ÍHAÌMAÍHAÌYAÌRAÍHAÌLAÍHAÌWAÌSHAÍSAÍAÌHAÅVOWELh AAÐIÑIÐUÑUÐVOCALIC RÙR",
      "ØLÙLÐEÐAIÐOÐAUÅSIGN VIRAMAÊCANDRABINDUÊANUSVARAÊVISARGAÊNUKTA",
      "ÊAVAGRAHAÊn ANUSVARAÅOMÅSIDDHIÅDANDAÆOUBLE DANDAÅCOMMAÅGAP FILLER",
      "ÅABBREVIATIONhÅDIGIT ZEROËONEËTWOÌHREEËFOURÌIVEËSIXÌEVENËEIGHTËNINE",
      "ÆOUBLE COMMAÅPLACEHOLDERu"]),
    (0x1145D, ["NEWA INSERTIONhÅSANDHIuÅLETTER VEDIC ANUSVARAÅSIGN JIHVAMULI",
      "YAÊUPADHMANIYA"]),
    (0x11480, ["TIRHUTA ANJIÈLETTER AÐAÏIÐIÏUÐUÏVOCALIC RØR×LØLÏEÏAIÏOÏAUÏKA",
      "ÐHAÏGAÐHAÏNGAÏCAÐHAÏJAÐHAÏNYAÏTTAÑHAÏDDAÑHAÏNNAÏTAÐHAÏDAÐHAÏNAÏPAÐHA",
      "ÏBAÐHAÏMAÏYAÏRAÏLAÏVAÏSHAÐSAÐAÏHAÈVOWELh AAÓIÔIÓUÔUÓVOCALIC RÜRÛLÜLÓE",
      "ÓSHORT EÓAIÓOÓSHORT OÓAUÈSIGN CANDRABINDUÍANUSVARAÍVISARGAÏRAMAÍNUKTA",
      "ÍAVAGRAHAÈGVANGÈABBREVIATIONhÈOM"]),
    (0x114D0, ["TIRHUTA DIGIT ZEROÎONEÎTWOÏHREEÎFOURÏIVEÎSIXÏEVENÎEIGHTÎNINE"]),
    (0x11580, ["SIDDHAMaAÐAÏIÐIÏUÐUÏVOCALIC RØR×LØLÏEÏAIÏOÏAUÏKAÐHAÏGAÐHA",
      "ÏNGAÏCAÐHAÏJAÐHAÏNYAÏTTAÑHAÏDDAÑHAÏNNAÏTAÐHAÏDAÐHAÏNAÏPAÐHAÏBAÐHAÏMA",
      "ÏYAÏRAÏLAÏVAÏSHAÐSAÐAÏHAÈVOWELh AAÓIÔIÓUÔUÓVOCALIC RÜR"]),
    (0x115B8, ["SIDDHAM VOWELh EÓAIÓOÓAUÈSIGN CANDRABINDUÍANUSVARAÍVISARGA",
      "ÏRAMAÍNUKTAÍSIDDHAMÈDANDAÉOUBLE DANDAÈSEPARATOR DOTÒBARÈREPETITIONu-1",
      "Ø2Ø3ÈEND OF TEXTuÈSECTIONubTRIDENTgU-SHAPED ORNAMENTSæDOTTED CRESCENT",
      "SÚRAYSgDOTTED CRESCENTSêl CRESCENTSêTRIPLE CRESCENTSÕl RINGàbRAYS",
      "ÕWITH l CRESCENTSÚTRIPLE CRESCENTSÚQUADRUPLE CRESCENTSÚSEPTUPLE CRESC",
      "ENTSÚCIRCLESgRAYSæTWO ENCLOSURESæFOUR ENCLOSURESÈLETTER THREE-CIRCLE ",
      "ALTERNATE IÐWO-CIRCLE ALTERNATE IåIÏALTERNATE UÈVOWELh ALTERNATE UÞU"]),
    (0x11600, ["MODIaAÍAÌIÍIÌUÍUÌVOCALIC RÕRÔLÕLÌEÌAIÌOÌAUÌKAÍHAÌGAÍHAÌNGA",
      "ÌCAÍHAÌJAÍHAÌNYAÌTTAÎHAÌDDAÎHAÌNNAÌTAÍHAÌDAÍHAÌNAÌPAÍHAÌBAÍHAÌMAÌYA",
      "ÌRAÌLAÌVAÌSHAÍSAÍAÌHAÌLLAÅVOWELh AAÐIÑIÐUÑUÐVOCALIC RÙRØLÙLÐEÐAIÐOÐAU",
      "ÅSIGN ANUSVARAÊVISARGAÌRAMAÊARDHACANDRAÅDANDAÆOUBLE DANDAÅABBREVIATIO",
      "NhÅSIGN HUVA"]),
    (0x11650, ["MODI DIGIT ZEROËONEËTWOÌHREEËFOURÌIVEËSIXÌEVENËEIGHTËNINE"]),
    (0x11660, ["MONGOLIAN BIRGAbORNAMENTÊROTATED BIRGAÊl BIRGAbORNAMENT",
      "ÊTRIPLE BIRGAbORNAMENTÊBIRGAbl ORNAMENTÊROTATED BIRGAbORNAMENT",
      "Ýl ORNAMENTÊINVERTED BIRGAØbl ORNAMENTÊSWIRL BIRGAÕbORNAMENT",
      "Ûl ORNAMENTÊTURNED SWIRL BIRGAbl ORNAMENT"]),
    (0x11680, ["TAKRIaAÎAÍIÎIÍUÎUÍEÍAIÍOÍAUÍKAÎHAÍGAÎHAÍNGAÍCAÎHAÍJAÎHAÍNYA",
      "ÍTTAÏHAÍDDAÏHAÍNNAÍTAÎHAÍDAÎHAÍNAÍPAÎHAÍBAÎHAÍMAÍYAÍRAÍLAÍVAÍSHAÎAÍHA",
      "ÍRRAÆSIGN ANUSVARAËVISARGAÆVOWELh AAÑIÒIÑUÒUÑEÑAIÑOÑAUÆSIGN VIRAMA",
      "ËNUKTAÆLETTER ARCHAIC KHAÆABBREVIATIONh"]),
    (0x116C0, ["TAKRI DIGIT ZEROÌONEÌTWOÍHREEÌFOURÍIVEÌSIXÍEVENÌEIGHTÌNINE"]),
    (0x11700, ["AHOMaKAÍHAÌNGAÍAÌTAÌALTERNATE TAÌPAÍHAÌBAÌMAÌJAÌCHAÌTHAÌRA",
      "ÌLAÌSAÌNYAÌHAÌAÌDAÍHAÌGAÌALTERNATE GAÌGHAÌBHAÌJHAÌALTERNATE BA"]),
    (0x1171D, ["AHOM CONSONANTh MEDIAL LAÛRAÛLIGATING RAÅVOWELh AÑAÐIÑIÐUÑU",
      "ÐEÐAWÐOÐAIÑMÅSIGN KILLER"]),
    (0x11730, ["AHOM DIGIT ZEROËONEËTWOÌHREEËFOURÌIVEËSIXÌEVENËEIGHTËNINE",
      "ÅNUMBER TENÍWENTYÅSIGN d SECTIONËECTIONÊRULAIÆYMBOL VIÅLETTER CAÌTTA",
      "ÎHAÌDDAÎHAÌNNAÌLLA"]),
    (0x11800, ["DOGRAaAÎAÍIÎIÍUÎUÍEÍAIÍOÍAUÍKAÎHAÍGAÎHAÍNGAÍCAÎHAÍJAÎHAÍNYA",
      "ÍTTAÏHAÍDDAÏHAÍNNAÍTAÎHAÍDAÎHAÍNAÍPAÎHAÍBAÎHAÍMAÍYAÍRAÍLAÍVAÍSHAÎSAÎA",
      "ÍHAÍRRAÆVOWELh AAÑIÒIÑUÒUÑVOCALIC RÚRÑEÑAIÑOÑAUÆSIGN ANUSVARAËVISARGA",
      "ÍRAMAËNUKTAÆABBREVIATIONh"]),
    (0x118A0, ["WARANG CITI caNGAAÛAÛWIÛYUÜAÜOÛIIÛUUÛEÛOÛANGÛGAÛKOÛENYÛYUJ",
      "ÛUCÛENNÛODDÛTTEÛNUNGÛDAÛATÜMÛBUÛPUÛHIYOÜOLOÝRRÜARÛSSUUÜIIÛVIYOÌdaNGAA",
      "ÙAÙWIÙYUÚAÚOÙIIÙUUÙEÙOÙANGÙGAÙKOÙENYÙYUJÙUCÙENNÙODDÙTTEÙNUNGÙDAÙATÚM",
      "ÙBUÙPUÙHIYOÚOLOÛRRÚARÙSSUUÚIIÙVIYOÌDIGIT ZEROÒONEÒTWOÓHREEÒFOURÓIVE",
      "ÒSIXÓEVENÒEIGHTÒNINEÌNUMBER TENÔWENTYÔHIRTYÓFORTYÔIFTYÓSIXTYÔEVENTY",
      "ÓEIGHTYÓNINETY"]),
    (0x118FF, ["WARANG CITI OMÀDIVES AKURUaAÔAÓIÔIÓUÔUÓE"]),
    (0x11909, ["DIVES AKURUaO"]),
    (0x1190C, ["DIVES AKURUaKAÔHAÓGAÔHAÓNGAÓCAÔHAÓJA"]),
    (0x11915, ["DIVES AKURUaNYAÓTTA"]),
    (0x11918, ["DIVES AKURUaDDAÕHAÓNNAÓTAÔHAÓDAÔHAÓNAÓPAÔHAÓBAÔHAÓMAÓYAÔYA",
      "ÓRAÓLAÓVAÓSHAÔSAÔAÓHAÓLLAÓZAÌVOWELh AA×IØI×UØU×E"]),
    (0x11937, ["DIVES AKURU VOWELh AI×O"]),
    (0x1193B, ["DIVES AKURUh ANUSVARAÑCANDRABINDUÑHALANTAÌVIRAMAÌPREFIXED NA",
      "SALhÌMEDIAL YAÌr RAÌMEDIAL RAÌSIGN NUKTAÌl DANDAÌGAP FILLER",
      "ÌEND OF TEXTu"]),
    (0x11950, ["DIVES AKURU DIGIT ZEROÒONEÒTWOÓHREEÒFOURÓIVEÒSIXÓEVENÒEIGHT",
      "ÒNINE"]), (0x119A0, ["NANDINAGARIaAÔAÓIÔIÓUÔUÓVOCALIC RÜR"]),
    (0x119AA, ["NANDINAGARIaEÓAIÓOÓAUÓKAÔHAÓGAÔHAÓNGAÓCAÔHAÓJAÔHAÓNYAÓTTAÕHA",
      "ÓDDAÕHAÓNNAÓTAÔHAÓDAÔHAÓNAÓPAÔHAÓBAÔHAÓMAÓYAÓRAÓLAÓVAÓSHAÔSAÔAÓHAÓLLA",
      "ÓRRAÌVOWELh AA×IØI×UØU×VOCALIC RàR"]),
    (0x119DA, ["NANDINAGARI VOWELh E×AI×O×AUÌSIGN ANUSVARAÑVISARGAÓRAMA",
      "ÑAVAGRAHAÑSIDDHAMÌHEADvÌVOWELh PRISHTHAMATRA E"]),
    (0x11A00, ["ZANABAZAR SQUAREaAÑVOWELh IÜUEÝÜEÜOEÝÜAIÝUÜREVERSED I",
      "×LENGTHuÑLETTER KAÙHAØGAÙHAØNGAØCAÙHAØJAØNYAØTTAÚHAØDDAÚHAØNNAØTAÙHA",
      "ØDAÙHAØNAØPAÙHAØBAÙHAØMAØTSAÚHAØDZAÚHAØZHAÙAØ-AØYAØRAØLAØVAØSHAÙSAÙA",
      "ØHAØKSSAÑn CONSONANTuÑSIGN VIRAMAÖCANDRABINDUábORNAMENTÜbORNAMENT",
      "ÖANUSVARAÖVISARGAÑCLUSTER-raRAÙnaYAæRAæLAæVAÑr HEADuÑCLOSING HEADu",
      "ÑMARK TSHEGÖSHADÖl SHADÖLONG TSHEGÑr l-LINED HEADuÑCLOSING l-LINED HE",
      "ADuÑSUBJOINER"]),
    (0x11A50, ["SOYOMBOaAÈVOWELh IÓUEÔÓEÓOÔEÓAIÔUÓVOCALIC RÛLÎLENGTHu",
      "ÈLETTER KAÐHAÏGAÐHAÏNGAÏCAÐHAÏJAÐHAÏNYAÏTTAÑHAÏDDAÑHAÏNNAÏTAÐHAÏDAÐHA",
      "ÏNAÏPAÐHAÏBAÐHAÏMAÏTSAÑHAÏDZAÏZHAÐAÏ-AÏYAÏRAÏLAÏVAÏSHAÐSAÐAÏHAÏKSSA",
      "ÈSIGN JIHVAMULIYAÍUPADHMANIYAÈCLUSTER-raRAßLAßSHAàAÈn CONSONANTh GÝK",
      "ÝNGÝDÝNÝBÝMÝRÝLÝSHÞÝ-AÈSIGN ANUSVARAÍVISARGAÈGEMINATIONuÈSUBJOINER",
      "ÈMARK TSHEGÍSHADÍl SHADÍPLUTAÈHEADubMOONgSUNgTRIPLE FLAMEèFLAMEã",
      "ÈTERMINALu-1Ö2"]),
    (0x11AB0, ["CANADIAN SYLLABICS NATTILIK HIÞIÝOÞOÝAÞAÜSHRIàIßOàOßAàAÓSPE",
      "ÕIÕOÕAÀPAU CIN HAUaPAÓKAÓLAÓMAÓDAÓZAÓVAÓNGAÓHAÓGAÓKHAÓSAÓBAÓCAÓTAÔHA",
      "ÓNAÓPHAÓRAÓFAÓCHAÓAÓEÓIÓOÓUÔAÓIAÓn PÙKÙTÙMÙNÙLÙWÙNGÙYÌRISING TONE LON",
      "G×ÌSANDHI GLOTTAL STOPÌRISING TONE LONG nØnÌSANDHI GLOTTAL STOP n",
      "ÓTONE LONG×× LONG nØnÌMID-LEVEL TONEÌGLOTTAL STOP VARIANTÌMID-LEVEL T",
      "ONE LONG nÛnÌLOW-FALLING TONE LONGÜÌGLOTTAL STOPÌLOW-FALLING TONE LON",
      "G nÝnÌGLOTTAL STOP n"]),
    (0x11C00, ["BHAIKSUKIaAÒAÑIÒIÑUÒUÑVOCALIC RÚRÙL"]),
    (0x11C0A, ["BHAIKSUKIaEÑAIÑOÑAUÑKAÒHAÑGAÒHAÑNGAÑCAÒHAÑJAÒHAÑNYAÑTTAÓHA",
      "ÑDDAÓHAÑNNAÑTAÒHAÑDAÒHAÑNAÑPAÒHAÑBAÒHAÑMAÑYAÑRAÑLAÑVAÑSHAÒSAÒAÑHA",
      "ÊVOWELh AAÕIÖIÕUÖUÕVOCALIC RÞRÝL"]),
    (0x11C38, ["BHAIKSUKI VOWELh EÕAIÕOÕAUÊSIGN CANDRABINDUÏANUSVARAÏVISARGA",
      "ÑRAMAÏAVAGRAHAÊDANDAËOUBLE DANDAÊWORD SEPARATORÊGAP FILLER-1Õ2"]),
    (0x11C50, ["BHAIKSUKI DIGIT ZEROÐONEÐTWOÑHREEÐFOURÑIVEÐSIXÑEVENÐEIGHT",
      "ÐNINEÊNUMBER ONEÑTWOÒHREEÑFOURÒIVEÑSIXÒEVENÑEIGHTÑNINEÑTENÒWENTY",
      "ÒHIRTYÑFORTYÒIFTYÑSIXTYÒEVENTYÑEIGHTYÑNINETYÊHUNDREDS UNITu"]),
    (0x11C70, ["MARCHEN HEADuÈMARK SHADÈLETTER KAÐHAÏGAÏNGAÏCAÐHAÏJAÏNYAÏTA",
      "ÐHAÏDAÏNAÏPAÐHAÏBAÏMAÏTSAÑHAÏDZAÏWAÏZHAÐAÏ-AÏYAÏRAÏLAÏSHAÐAÏHAÏA"]),
    (0x11C92, ["MARCHEN SUBJOINEDaKAÚHAÙGAÙNGAÙCAÚHAÙJAÙNYAÙTAÚHAÙDAÙNAÙPA",
      "ÚHAÙBAÙMAÙTSAÛHAÙDZAÙWAÙZHAÚA"]),
    (0x11CA9, ["MARCHEN SUBJOINEDaYAÙRAÙLAÙSHAÚAÙHAÙAÈVOWELh AAÓIÓUÓEÓO",
      "ÈSIGN ANUSVARAÍCANDRABINDU"]),
    (0x11D00, ["MASARAM GONDIaAÖAÕIÖIÕUÖUÕE"]),
    (0x11D08, ["MASARAM GONDIaAIÕO"]),
    (0x11D0B, ["MASARAM GONDIaAUÕKAÖHAÕGAÖHAÕNGAÕCAÖHAÕJAÖHAÕNYAÕTTA×HAÕDDA",
      "×HAÕNNAÕTAÖHAÕDAÖHAÕNAÕPAÖHAÕBAÖHAÕMAÕYAÕRAÕLAÕVAÕSHAÖSAÖAÕHAÕLLA",
      "ÕKSSAÕJNYAÕTRAÎVOWELh AAÙIÚIÙUÚUÙVOCALIC R"]),
    (0x11D3A, ["MASARAM GONDI VOWELh E"]),
    (0x11D3C, ["MASARAM GONDI VOWELh AIÙO"]),
    (0x11D3F, ["MASARAM GONDI VOWELh AUÎSIGN ANUSVARAÓVISARGAÓNUKTAÓCANDRA",
      "ÓHALANTAÎVIRAMAÎREPHAÏA-KARA"]),
    (0x11D50, ["MASARAM GONDI DIGIT ZEROÔONEÔTWOÕHREEÔFOURÕIVEÔSIXÕEVEN",
      "ÔEIGHTÔNINE"]), (0x11D60, ["GUNJALA GONDIaAÖAÕIÖIÕUÖU"]),
    (0x11D67, ["GUNJALA GONDIaEEÕAI"]),
    (0x11D6A, ["GUNJALA GONDIaOOÕAUÕYAÕVAÕBAÖHAÕMAÕKAÖHAÕTAÖHAÕLAÕGAÖHAÕDA",
      "ÖHAÕNAÕCAÖHAÕTTA×HAÕLLAÕJAÖHAÕDDA×HAÕNGAÕPAÖHAÕHAÕRAÕSAÎVOWELh AAÙIÚI",
      "ÙUÚU"]), (0x11D90, ["GUNJALA GONDI VOWELh EEÙAI"]),
    (0x11D93, ["GUNJALA GONDI VOWELh OOÙAUÎSIGN ANUSVARAÓVISARGAÎVIRAMAÎOM"]),
    (0x11DA0, ["GUNJALA GONDI DIGIT ZEROÔONEÔTWOÕHREEÔFOURÕIVEÔSIXÕEVEN",
      "ÔEIGHTÔNINE"]),
    (0x11EE0, ["MAKASARaKAÏGAÏNGAÏPAÏBAÏMAÏTAÏDAÏNAÏCAÏJAÏNYAÏYAÏRAÏLAÏVAÏSA",
      "ÏAÈANGKAÈVOWELh IÓUÓEÓOÈPASSIMBANGÈEND OF SECTION"]),
    (0x11FB0, ["LISUaYHA"]),
    (0x11FC0, ["TAMIL FRACTION ONE THREE-HUNDRED-AND-TWENTIETHÓONE-HUNDRED-A",
      "ND-SIXTIETHÓEIGHTIETHÓSIXTY-FOURTHÓFORTIETHÓTHIRTY-SECONDÏTHREE EIGHT",
      "IETHSÕSIXTY-FOURTHSÏONE TWENTIETHÓSIXTEENTH-1Ý2ÓTENTHÓEIGHTH",
      "ÏTHREE TWENTIETHSÕSIXTEENTHSÏONE FIFTHÓQUARTERÓHALF-1Ø2ÏTHREE QUARTER",
      "SÏDOWNSCALING FACTOR KIIZHÆSIGN NELËCEVITUËAAZHAAKKUËUZHAKKU",
      "ËMUUVUZHAKKUËKURUNIËPATHAKKUËMUKKURUNIËKAACUËPANAMÌONËVARAAKANËPAARAM",
      "ËKUZHIËVELIÆWET CULTIVATIONhÆDRY CULTIVATIONhÆLANDhÆSALT PANh",
      "ÆTRADITIONAL CREDIThÒNUMBERhÆCURRENThÆAND ODDhÆSPENThÆTOTALh",
      "ÆIN POSSESSIONhÆSTARTING FROMhÇIGN MUTHALIYAËVAKAIYARAA"]),
    (0x11FFF, ["TAMIL PUNCTUATION END OF TEXTÀCUNEIFORMh AÐ TIMES A×BAD",
      "×GAN2 TENU×HA×IGI×LAGAR GUNU×MUSH×SAGÐ2ÐBÑ TIMES ASH2ØDUN3 GUNUØGAL",
      "ÚN2 TENUØHAØIGI GUNUÙMINØLAGABØSHESHØU PLUS U PLUS UÒGUNUÑ2",
      "Ò TIMES BALAGÙGAN2 TENUÙME PLUS ENÙSHA3ÙTAK4ÐDÐKÑ TIMES ERIN2",
      "ØSHITA PLUS GISHÐLÑ TIMES ALØDIM2ØGISHØHAØKAD3ÙIØSHEØUSHÑANÑEPHÐMAR",
      "Ó TIMES SHEÐNÑ OVER ANÒTHREE TIMESÒPLUS NAGA OPPOSING AN PLUS NAGA",
      "ÜSQUAREDÑSHEÐPINÐRADÓ TIMES KURÑKABÐSAL2ÑHÒ ZIDA TENUÓKABA TENU",
      "ÓOVER ASH TUG2 OVER TUG2 TUG2 OVER TUG2 PAPÜOVER ASHä CROSSING ASH OV",
      "ER ASH OVER ASHÒ2ÒGABÏBAÑDÑG3ÑHAR2ÑLÒ OVER BALÒAGÑRÒA2ÐIÑ TIMES AØGAR",
      "ØIGI GUNUÐUÑ OVER BU ABÚUNÒCROSSING BUÑLUGÔ OVER BULUGÑRÒ2ÏDAÑG",
      "Ò KISIM5 TIMES A PLUS MASHáMARàBALAGáIàGAâ PLUS MASHáIâR2áUDàHAàIR",
      "â PLUS LUàKAKàLAáUâ PLUS MASH2âMàNEàPAP PLUS PAPàSIàTAK4àU2 PLUS GIR2",
      "áSHÑMÑRÒA3Ó4ÐIÑBÑMÒ TIMES SHEÒ2ÑNÒ KASKAL U GUNU DISHÑSHÐUÑ OVER DU",
      "ÒGUNUÒSHESHIGÑBÒ TIMES ESH2Ò2ÑGÒUDÑHÑNÒ3Ó GUNUØ GUNUÒ4ÑR2ÏE",
      "Ð TIMES PAPÑOVER E NUN OVER NUNÐ2Ñ TIMES A PLUS HA PLUS DAØGARØMIØSAL",
      "ÙHEØUÐDINÐGIRÐLÐNÑ TIMES GAN2Ü TENUØMEÒCROSSING ENÒOPPOSING EN",
      "ÒSQUAREDÐRENÑIN2ÐSH2ÐZENÓ TIMES AÛ PLUS LALä TIMES LALÛNÚBAD",
      "ÚDUN3 GUNUã GUNUÚHAÜ GUNUÚIGI GUNUÚKASKALà SQUAREDÛU3ÚLAÜL TIMES LAL",
      "ÛIÛUÚU2ÛDÏGAÑ GUNUÑ2Ò TIMES A PLUS DA PLUS HAàHAàIGIÚB2 TENU PLUS TAB",
      "ÚNÚSHÜ2 PLUS GALÙBADÛR PLUS RAÚURÜ PLUS RAÙDAÚIÛM TIMES SHEÚUBÙEL",
      "Û PLUS LAÚNÛ TIMES GAN2 TENUÙGAN2 TENUÛRÚIÛ4Ü PLUS AÛR2 PLUS SU",
      "ÙHA PLUS LU PLUS ESH2ÛLÜ PLUS LAÚI PLUS LIÚUB2ÙIGI GUNUÚSH PLUS HU PL",
      "US ASHÙKAKÛSKALÚIDÜ PLUS LALÚU3 PLUS ANÙLAÙME PLUS ENÚIÙNUNÜ OVER NUN",
      "ÙPAÙSALÛRÚHEÜ PLUS TURÛIDÚUMÙTAK4ÙUÚDÛ PLUS DUÓOVER GA2ÑBA",
      "Ó CROSSING GABAÑDÒ OVER GAD GAR OVER GARÑLÒ GAD OVER GAD GAR OVER GAR",
      "ÒAMÑMÑNÒ2Ó TENUÔOVER GAN2ÔCROSSING GAN2ÑRÒ3ÑSHANÐESHTINÖ TIMES KURÐI",
      "Ñ TIMES EØUÒCROSSING GIÑ4Ò OVER GI4ÓCROSSING GI4ÑDIMÑR2Ó GUNUÒ3",
      "Ó TIMES A PLUS IGIÚGAN2 TENUÚIGIÚLU PLUS IGIÚPAÑSALÒHÓ CROSSING GISH",
      "ÔTIMES BADÚTAK4ÕENUÐUÑ CROSSING GUÑ2Ò TIMES KAKÜ TIMES IGI GUNUÙNUN",
      "ÙSAL PLUS TUG2ÓGUNUÑDÒ TIMES A PLUS KURÙKURÓOVER GUD LUGALÑLÑM",
      "Ò TIMES SHEÑRÒ7ÒUNÓSHÏHAÑ TENUÒGUNUÑLÐIÑ TIMES ASHÛ2ØBADØDISHØGADØKIN",
      "ØNUNØSHEØUÐUÑB2Ó TIMES ANÚHALÚKASKALÚLISHÚUDÑL2ÏIÐ AÐBÐDIM",
      "Ó OVER IDIM BURÞSQUAREDÐGÑIÒ DIBÓRIÓOVER IGI SHIR OVER SHIR UD OVER U",
      "DÓGUNUÐLÑ TIMES GAN2 TENUÑ2ÐMÑ TIMES TAK4ÒCROSSING IMÒOPPOSING IM",
      "ÒSQUAREDÑINÐNÐRÐSHÏKAÑ TIMES AÙDÚ PLUS KU3ÙSH2ØBADÚLAGÚRÙIØERIN2ÙSH2",
      "ØGAÚLÚN2 TENUÚRÛ PLUS SHA3 PLUS AÙIÚR2ÚSH PLUS SARÝCROSSING GISHÙUÚR7",
      "ØIGIÙMØKAKÙIÚDØLIÙUØMEÚ PLUS DUàGIàTEÙIÚ PLUS NUNUZØNEÙUNØPIØRUØSAÚR",
      "ÙHAÚEÚIDÚUÙIGÙUHURØTARØUÙ2ÙDÙMUM TIMES PAÙSHØZIÑ2Ò CROSSING KA2ÑBÑD2",
      "Ò3Ò4Ò5Ó OVER KAD5ÑKÒ TIMES IGI GUNUÑLÒ TIMES BADÓCROSSING KALÑM2Ò4",
      "ÑSKALÕ LAGAB TIMES U OVER LAGAB TIMES UÖOVER KASKAL LAGAB TIMES U OVE",
      "R LAGAB TIMES UÐESH2ÐIÑ TIMES BADØUÙDÑDÑNÑSALÒHÒIM5Õ OVER KISIM5ÐU",
      "Ñ OVER HI TIMES ASH2 KU OVER HI TIMES ASH2Ñ3Ñ4Ò VARIANTeÑ7ÑLÒ GUNUÑN",
      "ÑRÒ OPPOSING KURÑSHU2ÐWU318ÏLAÑGABÔ TIMES AÜ PLUS DA PLUS HAâGARâLAL",
      "ÜLÜNÜSH ZIDA TENUÛBADÜIÛDARÛENÛGAÝRÜUDÞ PLUS GUDÛHAÝLÜI TIMES NUN",
      "ÛIGI GUNUÜMÝ PLUS HAãLUÛKIÝNÜU3ÝLÞ PLUS HI PLUS AÛLAGABÜISHÜUÝLÛME",
      "Ý PLUS ENÜUSHÛNEÛSHE PLUS SUMÝITA PLUS GISH PLUS ERIN2ëTENUÝU2",
      "ß PLUS SHU2ÜUMÛTAGÝK4ÜE PLUS A PLUS SU PLUS NAÛUÜ PLUS AâU PLUS U",
      "Ü2 PLUS ASHÜDÜSHÕSQUAREDÓRÔ TIMES SHEÞ PLUS SUMÕGUNUÙ OVER LAGAR GUNU",
      " SHEÑHSHUÑLÒ TIMES LALÑMÒ TIMES KURÜ PLUS RUÐIÑLÑMMU2ÑSHÐUÑ TIMES BAD",
      "Ñ2Ò TIMES ALÙBADÙESH2Ý TENUÙGAN2 TENUÙHI TIMES BADÙIMÙKAD2Ü3",
      "Ý PLUS ASHÚIÙLA PLUS ASHÛGABÙME PLUS ENÙNEÚUÙSI PLUS ASHÛK2 PLUS BU",
      "ÙTUG2ÔENUÓCROSSING LU2ÓOPPOSING LU2ÓSQUAREDÔHESHIGÑ3ÑGALÔ OVER LUGAL",
      "ÖPPOSING LUGALÕSHESHIGÑHÑLÑMÒ OVER LUMÛ GAR OVER GARÏMAÑ TIMES TAK4",
      "ÒGUNUÑ2ÑHÑRÑSHÓ2ÐEÑSÐIÑNÐUÑ OVER MUÑGÒ GUNUÑNSUBÑRGU2ÑSHÓ TIMES AÚKUR",
      "ÚZAÔOVER MUSHÝ TIMES A PLUS NAÔCROSSING MUSHÓ3Ô TIMES AÜ PLUS DIÛDI",
      "ÕGUNUÏNAÑ2ÑGAÓ INVERTEDÔTIMES SHU TENUÔOPPOSING NAGAÓRÑM NUTILLUÒÒ2ÐE",
      "Ñ TIMES AØUDÒSHESHIGÐIÑ TIMES EÑ2ÑMÒ TIMES GAN2 TENUÛR PLUS GAN2 TENU",
      "ÑNDA2Õ TIMES ANÝSHß PLUS ASHÜGUDÜME PLUS GAN2 TENUÜNEÝUNÜSHE",
      "ß PLUS A ANæSHè PLUS ASHÜU2 PLUS ASHÝSHÑSAGÐUÑ11ÑNÒ LAGAR TIMES GAR",
      "ßMASHßSALâ OVER NUN LAGAR TIMES SALßUSHÓTENUÓOVER NUNÓCROSSING NUN",
      "ß LAGAR OVER LAGARÒUZÔ AB2 TIMES ASHGABßBIßDUGßGUDßIGI GUNUßKAD3ßLA",
      "ßNEßSILA3ßU2ÕKISIM5 TIMES BIä UÏPAÑDÑNÑPÐESH2ÐIÑ TIMES AÙBØBIÙUØEØIÙB",
      "ØUÙ2ÒCROSSING PIÑRIGÔ TIMES KALÛUDÛZAÕOPPOSING PIRIGÏRAÑBÐIÐUÏSA",
      "ÑG NUTILLUÒÒ TIMES AÙDUÛBÙHAÙKAKÚURÙLUMÙMIÙNUNÙSALÚHIDÙTABÙU2ÚBÚMÚR",
      "ÚSHÓOVER SAGÓGUNUÑLÒ LAGAB TIMES ASH2ÑNGA2ÑRÐHAÒ3Ó TIMES AÚBADÚGISH",
      "ÚNEÚSHU2ÚTURÚUÛ PLUS AÒ6ÒB6ÒR2ÑEÒ HUÓOVER SHE GAD OVER GAD GAR OVER G",
      "ARÜTAB OVER TAB GAR OVER GARÒG9ÒNÒSHÔ2ÔLAMÑIDÓ TIMES AÚIMÒMÓ TIMES A",
      "ÚBALÛULUGÚDINÚGARÚIGIÝ GUNUÚKUSHU2ÚLULÚMUGÚSALÒNIGÒRÓ TENU",
      "ÔOVER SHIR BUR OVER BURÒTAÑUÒ OVER INVERTED SHUÒ2ÒBURÐIÑ GUNUÑGÒ4",
      "Ó OVER SIG4 SHU2ÑK2ÑLA3ÐUÑ OVER SUÑDÒ2ÑHURÑMÒASHÑRÒ9ÏTAÑ ASTERISK",
      "ÒTIMES HIØMIÒGUNUÑBÒ OVER TAB NI OVER NI DISH OVER DISHÓSQUAREDÑG",
      "Ò TIMES BIÙGUDÙSHEÛUÙTUG2ÙUDÑK4ÑRÐEÑ GUNUÐIÑ TENUÑLÑRÒ TIMES TAK4",
      "ÓOVER TIRÛ GAD OVER GAD GAR OVER GARÐUÑG2ÑKÑMÑRÒ OVER TUR ZA OVER ZA",
      "ÏUÐ GUDÑU UÑOVER U PA OVER PA GAR OVER GARØSUR OVER SURØU REVERSED OV",
      "ER U REVERSEDÐ2ÐBÐDÑ KUSHU2ÒTIMES BADØMIØU PLUS U PLUS Uç GUNUÒGUNU",
      "ÒSHESHIGÙ TIMES BADÑUGÐMÑ TIMES LAGABØME PLUS DAØSHA3ØUÑBINÑUM",
      "Ó TIMES KASKALÚPAÐNÑ GUNUÐRÑ CROSSING URÒSHESHIGÑ2Ò TIMES A PLUS HA",
      "àNAÚLÙHAÙNUNÙU2Û PLUS ASHáBIÑ4ÑIÒ3ÑUÒ TIMES AÚSHGABÙBARÙDUNÙGAÛL",
      "ÛN2 TENUÛRÚUÙHAÙIGIÚMÚSHÙKIÙLUMÙMINÙPAÙSHEÚIG4ÙTUÙU PLUS GUDÚDÚRUDA",
      "ÒDAÔ TIMES UÐSHÒ TIMES AÙKUÛRÙTAK4ÒXÒ2ÒUMXÐTUKIÐZ3Ò TIMES KASKALÑUÏZA",
      "Ñ TENUÒSQUARED TIMES KURÑGÑMXÐE2ÐIÑ OVER ZIÑ3ÑBÒ KABA TENUÑGÑZ2ÐUÑ5",
      "Ò TIMES AÑBURÑMÏKAP ELAMITEÏAB TIMES NUNÑ2 TIMES AÐMAR TIMES KUG",
      "ÏDAG KISIM5 TIMES U2 PLUS MASHÒ3ÐISH PLUS SHUÐUB TIMES SHE",
      "ÏEZEN TIMES GUDÚSHEÏGA2 TIMES AN PLUS KAK PLUS AÚSH2ÐE22ÐIGÏHUSH",
      "ÏKA TIMES ANSHEÙSH3ØGISHÙUDØHI TIMES ASH2ØLUMØPAØSHULØTUØUR2",
      "ÏLAGAB TIMES GIÐU2 SHESHIG TIMES BADÓTIMES ESH2 PLUS LALÙSHUÏMESH",
      "ÐUSH3 TIMES ZAÏNA4ÐINÒ9ÒDA2 TIMES BALÜGIÐU11 ROTATED NINETY DEGREES",
      "ÏPESH2 ASTERISKÐIR2ÏSAG TIMES IGI GUNUÏTI2ÏUM TIMES MEÐ U"]),
    (0x12400, ["CUNEIFORM NUMERICh TWO ASHØHREE ASH×FOUR ASHØIVE ASH×SIX ASH",
      "ØEVEN ASH×EIGHT ASH×NINE ASH×THREE DISH×FOUR DISHØIVE DISH×SIX DISH",
      "ØEVEN DISH×EIGHT DISH×NINE DISH×FOUR UØIVE U×SIX UØEVEN U×EIGHT U",
      "×NINE U×ONE GESH2×TWO GESH2ØHREE GESH2×FOUR GESH2ØIVE GESH2×SIX GESH2",
      "ØEVEN GESH2×EIGHT GESH2×NINE GESH2×ONE GESHU×TWO GESHUØHREE GESHU",
      "×FOUR GESHUØIVE GESHU×TWO SHAR2ØHREE SHAR2â VARIANTe×FOUR SHAR2",
      "ØIVE SHAR2×SIX SHAR2ØEVEN SHAR2×EIGHT SHAR2×NINE SHAR2×ONE SHARU",
      "×TWO SHARUØHREE SHARUâ VARIANTe×FOUR SHARUØIVE SHARU×SHAR2 TIMES GAL ",
      "PLUS DISHìMIN×ONE BURU×TWO BURUØHREE BURUá VARIANTe×FOUR BURU",
      "ØIVE BURU×THREE VARIANTe ESH16í21×FOUR VARIANTe LIMMUî4î AïB",
      "×SIX VARIANTe ASH9ØEVEN VARIANTe IMIN3î AïB×EIGHT VARIANTe USSUî3",
      "×NINE VARIANTe ILIMMUï3ï4ï A×TWO ASH TENUØHREE ASH TENU×FOUR ASH TENU",
      "ØIVE ASH TENU×SIX ASH TENU×ONE BAN2×TWO BAN2ØHREE BAN2×FOUR BAN2",
      "à VARIANTeØIVE BAN2à VARIANTe×NIGIDAMINÝESH×ONE ESHE3×TWO ESHE3",
      "×ONE THIRD DISH×TWO THIRDS DISH×FIVE SIXTHS DISH×ONE THIRD VARIANTe A",
      "×TWO THIRDS VARIANTe A×ONE EIGHTH ASHÛQUARTER ASHØLD ASSYRIAN ONE SIX",
      "THèQUARTERØNE QUARTER GURÛHALF GUR×ELAMITE ONE THIRDßTWO THIRDSßFORTY",
      "àIFTY×FOUR U VARIANTeØIVE U VARIANTe×SIX U VARIANTeØEVEN U VARIANTe",
      "×EIGHT U VARIANTe×NINE U VARIANTe"]),
    (0x12470, ["CUNEIFORM PUNCTUATIONh OLD ASSYRIAN WORD DIVIDERÛp COLON",
      "ÛDIAGONAL COLONäTRICOLONäQUADCOLON"]),
    (0x12480, ["CUNEIFORMh AB TIMES NUN TENUØSHU2ÐD TIMES ESH2ÏBAD TIMES DIS",
      "H TENUÑHAR2 TIMES AB2ÜNIÜZAÐU OVER BU TIMES NA2ÏDA TIMES TAK4",
      "ÑG TIMES KURÐIM TIMES IGIÙU U UÒ2 TIMES UDÐUG TIMES ANSHEÚSHÜ AT LEFT",
      "ÙDINÚUNÙERIN2ÙGAÚIÛR2 GUNUÛSHÙHAÚIÙIGI GUNUÙKASKALÚURÛSHU2",
      "ß PLUS KASKALÙLAK-020ÛMÜ TIMES KURÚUH PLUS GISHÙMASHÚESÚIÙNIÙPIÙSHE",
      "ÚI GUNUÏE2 TIMES KURØPAPÐRIN2 XÐSH2 CROSSING ESH2ÐZEN SHESHIG TIMES A",
      "SHâHIâIGI GUNUâLAäLâMEäSâSUÔTIMES SUÏGA2 TIMES BAHAR2ÙDIM GUNU",
      "ÚUG TIMES IGI GUNUãKASKALÙERENÙGAÛR PLUS DIâNEÙHA PLUS AÙKUSHU2 PLUS ",
      "KASKALÙLAMÜ TIMES KURÚUHÙMUSHÙNEÛ PLUS E2áGIÙSHIMÙZIZ2ÑBA ROTATED NIN",
      "ETY DEGREESÐESHTIN TIMES UÐISH TIMES GISH CROSSING GISHÐU2 TIMES IGI ",
      "GUNUÑD PLUS GISH TIMES TAK4ÏHA TENU GUNUÐI TIMES ASH OVER HI TIMES AS",
      "HÏKA TIMES BUØKAØU U UÙRÏLAGAB TIMES ZU OVER ZUÑK-003Ô21Õ5Ô30Ô50Õ1Ô62",
      "Ô79 OVER LAK-079 GUNUÔ80Õ1 OVER LAK-081Ô92Ó130Ô42Ó210Õ9Ô20Õ5Õ8Ô38Ô65",
      "Õ6Ó343Õ7Õ8Ô83Õ4Ô90Ó441Õ9Ö TIMES GUÝIGIÝPAP PLUS LU3æPAP PLUS LU3",
      "ÝU2 PLUS BAÔ50Õ7Ô70Ô83Ô90Õ2Õ3Õ5Ó550Ó608Ô17Ö TIMES ASHÝBADÝDUN3 GUNU G",
      "UNUÝKU3ÝLAÝTARÞEÝU2ÞDÞRUDAÔ36Ô48Ö TIMES DUBÝGAÝIGIà GUNUÝNI",
      "ÝPAP PLUS PAP PLUS LU3ÝSHESH PLUS KIÝUDÞRUDAÓ724Ô49ÐU2 GUNU TIMES ASH",
      "ÓTIMES DISHÙHALÙPAPÜ PLUS PAP PLUS LU3ÙTAK4ÏMI PLUS ZA7ÐUSH OVER MUSH",
      " TIMES GAäKAKÏNINDA2 TIMES DIM GUNUÜGISHÝULÜHIÜKESH2ÜLAK-050ÜMASH",
      "ÜPAP PLUS PAPÜUÝ PLUS UÝRUDAÏSAG GUNU TIMES HAÓTIMES ENÙSHE AT LEFT",
      "ÙTAK4ÐHA6 TENUÑE OVER SHEÓPLUS HUB2ØNAM2ØSARÑU2 PLUS DUG TIMES NI",
      "ÙE2 TIMES ANÐI TIMES TAK4ÏTAK4 PLUS SAGÐUM TIMES GAN2 TENUÙTHREE DISH",
      "ÏUR2 INVERTEDÓTIMES UDÑU TIMES DARA3ÙLAK-668ÚU3ÏZA7ÐU OVER ZU PLUS SA",
      "RÑ5 TIMES THREE DISH TENU"]),
    (0x12F90, ["CYPRO-MINOANh CM001Ö2Ö4Ö5Ö6Ö7Ö8Ö9Õ10Ö1Ö2×BÖ3Ö5Ö7Ö9Õ21Ö3Ö4Ö5",
      "Ö6Ö7Ö8Ö9Õ30Ö3Ö4Ö5Ö6Ö7Ö8Ö9Õ40Ö1Ö4Ö6Ö7Ö9Õ50Ö1Ö2Ö3Ö4Ö5Ö6Ö8Ö9Õ60Ö1Ö2Ö3Ö4",
      "Ö6Ö7Ö8Ö9Õ70Ö1Ö2Ö3Ö4Ö5×BÖ6Ö8Ö9Õ80Ö1Ö2Ö3Ö4Ö5Ö6Ö7Ö8Ö9Õ90Ö1Ö2Ö4Ö5Ö6Ö7Ö8Ö9",
      "Ô100Ö1Ö2Ö3Ö4Ö5Ö7Ö8Ö9Õ10Ö2Ö4Ô301Ö2"]),
    (0x13000, ["EGYPTIAN HIEROGLYPH A001×2×3×4×5ØA×6ØAØB×7×8×9Ö10×1×2×3×4ØA",
      "×5×6×7ØA×8×9Ö20×1×2×3×4×5×6×7×8×9Ö30×1×2ØA×3×4×5×6×7×8×9Ö40ØA×1×2ØA×3",
      "ØA×4×5ØA×6×7×8×9Ö50×1×2×3×4×5×6×7×8×9Ö60×1×2×3×4×5×6×7×8×9Ö70ÔB001×2",
      "×3×4×5ØA×6×7×8×9ÔC001×2ØAØBØC×3×4×5×6×7×8×9Ö10ØA×1×2×3×4×5×6×7×8×9Ö20",
      "×1×2×3×4ÔD001×2×3×4×5×6×7×8ØA×9Ö10×1×2×3×4×5×6×7×8×9Ö20×1×2×3×4×5×6×7",
      "ØA×8×9Ö30×1ØA×2×3×4ØA×5×6×7×8×9Ö40×1×2×3×4×5×6ØA×7×8ØA×9Ö50ØAØBØCØDØE",
      "ØFØGØHØI×1×2ØA×3×4ØA×5×6×7×8×9Ö60×1×2×3×4×5×6×7ØAØBØCØDØEØFØGØHÔE001",
      "×2×3×4×5×6×7×8ØA×9ØAÖ10×1×2×3×4×5×6ØA×7ØA×8×9Ö20ØA×1×2×3×4×5×6×7×8ØA",
      "×9Ö30×1×2×3×4ØA×6×7×8ÔF001ØA×2×3×4×5×6×7×8×9Ö10×1×2×3ØA×4×5×6×7×8×9",
      "Ö20×1ØA×2×3×4×5×6×7×8×9Ö30×1ØA×2×3×4×5×6×7ØA×8ØA×9Ö40×1×2×3×4×5ØA×6ØA",
      "×7ØA×8×9Ö50×1ØAØBØC×2×3ÔG001×2×3×4×5×6ØA×7ØAØB×8×9Ö10×1ØA×2×3×4×5×6×7",
      "×8×9Ö20ØA×1×2×3×4×5×6ØA×7×8×9Ö30×1×2×3×4×5×6ØA×7ØA×8×9Ö40×1×2×3ØA×4×5",
      "ØA×6×7×8×9Ö50×1×2×3×4ÔH001×2×3×4×5×6ØA×7×8ÔI001×2×3×4×5ØA×6×7×8×9ØA",
      "Ö10ØA×1ØA×2×3×4×5ÔK001×2×3×4×5×6×7×8ÔL001×2ØA×3×4×5×6ØA×7×8ÔM001ØAØB",
      "×2×3ØA×4×5×6×7×8×9Ö10ØA×1×2ØAØBØCØDØEØFØGØH×3×4×5ØA×6ØA×7ØA×8×9Ö20×1",
      "×2ØA×3×4ØA×5×6×7×8ØA×9Ö30×1ØA×2×3ØAØB×4×5×6×7×8×9Ö40ØA×1×2×3×4ÔN001×2",
      "×3×4×5×6×7×8×9Ö10×1×2×3×4×5×6×7×8ØAØB×9Ö20×1×2×3×4×5ØA×6×7×8×9Ö30×1×2",
      "×3ØA×4ØA×5ØA×6×7ØA×8×9Ö40×1×2ÕL001Ø2Ø3Ø4Ø5ÙAØ6Ø7Ø8Ø9×10Ø1Ø2Ø3Ø4Ø5Ø6Ø7",
      "ÙAØ8Ø9×20ÕU001Ø2Ø3Ø4Ø5Ø6Ø7Ø8Ø9×10ÙAØ1ÙAØ2Ø3Ø4Ø5Ø6Ø7Ø8ÙAØ9×20Ø1Ø2ÙA",
      "ÔO001ØA×2×3×4×5ØA×6ØAØBØCØDØEØF×7×8×9Ö10ØAØBØC×1×2×3×4×5×6×7×8×9ØAÖ20",
      "ØA×1×2×3×4ØA×5ØA×6×7×8×9ØAÖ30ØA×1×2×3ØA×4×5×6ØAØBØCØD×7×8×9Ö40×1×2×3",
      "×4×5×6×7×8×9Ö50ØAØB×1ÔP001ØA×2×3ØA×4×5×6×7×8×9Ö10×1ÔQ001×2×3×4×5×6×7",
      "ÔR001×2ØA×3ØAØB×4×5×6×7×8×9Ö10ØA×1×2×3×4×5×6ØA×7×8×9Ö20×1×2×3×4×5×6×7",
      "×8×9ÔS001×2ØA×3×4×5×6ØA×7×8×9Ö10×1×2×3×4ØAØB×5×6×7ØA×8×9Ö20×1×2×3×4×5",
      "×6ØAØB×7×8×9Ö30×1×2×3×4×5ØA×6×7×8×9Ö40×1×2×3×4×5×6ÔT001×2×3ØA×4×5×6×7",
      "ØA×8ØA×9ØAÖ10×1ØA×2×3×4×5×6ØA×7×8×9Ö20×1×2×3×4×5×6×7×8×9Ö30×1×2ØA×3ØA",
      "×4×5×6ÔU001×2×3×4×5×6ØAØB×7×8×9Ö10×1×2×3×4×5×6×7×8×9Ö20×1×2×3ØA×4×5×6",
      "×7×8×9ØAÖ30×1×2ØA×3×4×5×6×7×8×9Ö40×1×2ÔV001ØAØBØCØDØEØFØGØHØI×2ØA×3×4",
      "×5×6×7ØAØB×8×9Ö10×1ØAØBØC×2ØAØB×3×4×5×6×7×8×9Ö20ØAØBØCØDØEØFØGØHØIØJ",
      "ØKØL×1×2×3ØA×4×5×6×7×8ØA×9ØAÖ30ØA×1ØA×2×3ØA×4×5×6×7ØA×8×9Ö40ØAÔW001×2",
      "×3ØA×4×5×6×7×8×9ØAÖ10ØA×1×2×3×4ØA×5×6×7ØA×8ØA×9Ö20×1×2×3×4ØA×5ÔX001×2",
      "×3×4ØAØB×5×6ØA×7×8ØAÔY001ØA×2×3×4×5×6×7×8ÔZ001×2ØAØBØCØD×3ØAØB×4ØA×5",
      "ØA×6×7×8×9Ö10×1×2×3×4×5ØAØBØCØDØEØFØGØHØI×6ØAØBØCØDØEØFØGØHÔAA001Ø2Ø3",
      "Ø4Ø5Ø6Ø7ÙAÙBØ8Ø9×10Ø1Ø2Ø3Ø4Ø5Ø6Ø7Ø8Ø9×20Ø1Ø2Ø3Ø4Ø5Ø6Ø7Ø8Ø9×30Ø1Ø2"]),
    (0x13430, ["EGYPTIAN HIEROGLYPH p JOINERÔw JOINERÔINSERT AT TOP START",
      "ÞBOTTOM STARTÞTOP ENDÞBOTTOM ENDÔOVERLAY MIDDLEÔBEGIN SEGMENT",
      "ÔEND SEGMENT"]),
    (0x14400, ["ANATOLIAN HIEROGLYPH A001Ø2Ø3Ø4Ø5Ø6Ø7Ø8Ø9×10ÙAØ1Ø2Ø3Ø4Ø5Ø6Ø7",
      "Ø8Ø9×20Ø1Ø2Ø3Ø4Ø5Ø6ÙAØ7Ø8Ø9×30Ø1Ø2Ø3Ø4Ø5Ø6Ø7Ø8Ø9ÙA×40Ø1ÙAØ2Ø3Ø4Ø5ÙAØ6",
      "ÙAÙBØ7Ø8Ø9×50Ø1Ø2Ø3Ø4Ø5Ø6Ø7Ø8Ø9×60Ø1Ø2Ø3Ø4Ø5Ø6ÙAÙBÙCØ7Ø8Ø9×70Ø1Ø2Ø3Ø4",
      "Ø5Ø6Ø7Ø8Ø9×80Ø1Ø2Ø3Ø4Ø5Ø6Ø7Ø8Ø9×90Ø1Ø2Ø3Ø4Ø5Ø6Ø7ÙAØ8ÙAØ9Ö100ÙAØ1ÙAØ2",
      "ÙAØ3Ø4ÙAÙBÙCØ5ÙAÙBØ6Ø7ÙAÙBÙCØ8Ø9×10ÙAÙBØ1Ø2Ø3Ø4Ø5ÙAØ6Ø7Ø8Ø9×20Ø1Ø2Ø3",
      "Ø4Ø5ÙAØ6Ø7Ø8Ø9×30Ø1Ø2Ø3Ø4Ø5ÙAØ6Ø7Ø8Ø9×40Ø1Ø2Ø3Ø4Ø5Ø6Ø7Ø8Ø9×50Ø1Ø2Ø3Ø4",
      "Ø5Ø6Ø7Ø8Ø9×60Ø1Ø2Ø3Ø4Ø5Ø6Ø7Ø8Ø9×70Ø1Ø2Ø3Ø4Ø5Ø6Ø7Ø8Ø9×80Ø1Ø2Ø3Ø4Ø5Ø6Ø7",
      "Ø8Ø9×90Ø1Ø2Ø3Ø4Ø5Ø6Ø7Ø8Ø9Ö200Ø1Ø2ÙAÙBØ3Ø4Ø5Ø6Ø7ÙAØ8Ø9ÙA×10Ø1Ø2Ø3Ø4Ø5",
      "ÙAØ6ÙAØ7Ø8Ø9×20Ø1Ø2Ø3Ø4Ø5Ø6Ø7ÙAØ8Ø9×30Ø1Ø2Ø3Ø4Ø5Ø6Ø7Ø8Ø9×40Ø1Ø2Ø3Ø4Ø5",
      "Ø6Ø7Ø8Ø9×50Ø1Ø2Ø3Ø4Ø5Ø6Ø7Ø8Ø9×60Ø1Ø2Ø3Ø4Ø5Ø6Ø7ÙAØ8Ø9×70Ø1Ø2Ø3Ø4Ø5Ø6Ø7",
      "Ø8Ø9×80Ø1Ø2Ø3Ø4Ø5Ø6Ø7Ø8Ø9ÙA×90Ø1Ø2Ø3Ø4ÙAØ5Ø6Ø7Ø8Ø9ÙAÖ300Ø1Ø2Ø3Ø4Ø5Ø6",
      "Ø7Ø8Ø9ÙA×10Ø1Ø2Ø3Ø4Ø5Ø6Ø7Ø8Ø9×20Ø1Ø2Ø3Ø4Ø5Ø6Ø7Ø8Ø9ÙA×30Ø1Ø2AÙBÙCØ3Ø4",
      "Ø5Ø6ÙAÙBÙCØ7Ø8Ø9×40Ø1Ø2Ø3Ø4Ø5Ø6Ø7Ø8Ø9×50Ø1Ø2Ø3Ø4Ø5Ø6Ø7Ø8Ø9ÙA×60Ø1Ø2Ø3",
      "Ø4ÙAØ5Ø6Ø7Ø8ÙAØ9×70Ø1ÙAØ2Ø3Ø4Ø5Ø6Ø7Ø8Ø9×80Ø1ÙAØ2Ø3 RA OR RIÙAØ4Ø5Ø6ÙA",
      "Ø7Ø8Ø9×90Ø1Ø2Ø3 EIGHTØ4Ø5Ø6Ø7Ø8Ø9Ö400Ø1Ø2Ø3Ø4Ø5Ø6Ø7Ø8Ø9×10 BEGIN LOGO",
      "GRAMuÙA END LOGOGRAMuØ1Ø2Ø3Ø4Ø5Ø6Ø7Ø8Ø9×20Ø1Ø2Ø3Ø4Ø5Ø6Ø7Ø8Ø9×30Ø1Ø2Ø3",
      "Ø4Ø5Ø6Ø7Ø8Ø9×40Ø1Ø2Ø3Ø4Ø5Ø6Ø7Ø8Ø9×50ÙAØ1Ø2Ø3Ø4Ø5Ø6Ø7ÙAØ8Ø9×60Ø1Ø2Ø3Ø4",
      "Ø5Ø6Ø7Ø8Ø9×70Ø1Ø2Ø3Ø4Ø5Ø6Ø7Ø8Ø9×80Ø1Ø2Ø3Ø4Ø5Ø6Ø7Ø8Ø9×90Ø1Ø2Ø3Ø4Ø5Ø6Ø7",
      "Ö501Ø2Ø3Ø4Ø5Ø6Ø7Ø8Ø9×10Ø1Ø2Ø3Ø4Ø5Ø6Ø7Ø8Ø9×20Ø1Ø2Ø3Ø4Ø5Ø6Ø7Ø8Ø9×30"]),
    (0x16800, ["BAMUMaPHASE-A NGKUE MFONÕGBIEE FONÕPON MFON PIPAEMGBIEEäBA",
      "ÕNAA MFONÕSHUENSHUETÕTITA MFONÕNZA MFONÕSHINDA PA NJIÕPON PA NJI PIPA",
      "EMGBIEEæBAÕMAEMBGBIEEÕTU MAEMBAÕNGANGUÕMAEMVEUX×NSUAEÖVEUAENGAM",
      "ÕSEUNYAMÕNTOQPENÕKEUKEUTNDAÕNKINDIÕSUUÕNGKUENZEUMÕLAPAQÖET KUT",
      "ÕNTAP MFAAÕMAEKEUPÕPASHAEÕGHEUAERAEÕPAMSHAEÕMON NGGEUAETÕNZUN MEUT",
      "ÕU YUQ NAEÕGHEUAEGHEUAEÕNTAP NTAAÕSISAÕMGBASAÖEUNJOMNDEUQÖOOMPUQÕKAFA",
      "ÕPA LEERAEWAÕNDA LEERAEWAÕPETÕMAEMKPENÕNIKAÕPUPÕTUAEPÕLUAEPÕSONJAM",
      "ÕTEUTEUWENÕMAENYIÕKETÕNDAANGGEUAETÕKUOQÕMOOMEUTÕSHUMÕLOMMAEÕFIRIÕROM",
      "ÕKPOQÕSOQÕMAP PIEETÕSHIRAEÕNTAPÕSHOQ NSHUT YUMÕNYIT MONGKEUAEQÕPAARAE",
      "ÕNKAARAEÕUNKNOWNÕNGGENÕMAESIÕNJAMÕMBANYIÕNYETÕTEUAENÕSOTÕPAAMÕNSHIEE",
      "ÕMAEMÕNYIÕKAQÕNSHAÕVEEÕLUÕNENÖAQÕMBAQÓB NSHUETÕTU MAEMGBIEEÕSIEE",
      "ÖET TUÕLOM NTEUMÕMBA MAELEEÕKIEEMÕYEURAEÕMBAARAEÕKAMÕPEESHI",
      "ÕYAFU LEERAEWAÕLAM NSHUT NYAMÕNTIEE SHEUOQÖDU NJAAÕGHEUGHEUAEMÕPIT",
      "ÕTU NSIEEÕSHET NJAQØUAEQTUÕMFON TEUAEQÖBIT MBAAKETÕNYI NTEUMÕKEUPUQ",
      "ÕGHEUGHENÕKEUYEUXÕLAANAEÕPARUMÕVEUMÕNGKINDI MVOP×GEU MBUÕWUAET",
      "ÕSAKEUAEÕTAAMÕMEUQÕNGGUOQÛ LARGEÕMFIYAQÕSUEÕMBEURIÖONTIEENÕNYAEMAE",
      "ÕPUNGAAMÕMEUT NGGEETÕFEUXÕMBUOQÕFEEÕKEUAEMÕMA NJEUAENAÚUQAÕLETÕNGGAAM",
      "ÖSENÕMAÕKIQÕNGOMÓC NGKUE MAEMBAÖZAÕYUMÕWANGKUOQÕNGGENÖDEUAEREEÖGKAQ",
      "ÕGHARAEÕMBEEKEETÕGBAYIÕNYIR MKPARAQ MEUNÖTU MBITÕMBEUMÕPIRIEENÕNDOMBU",
      "ÕMBAA CABBAGE-TREEÕKEUSHEUAEPÕGHAPÕKEUKAQÕYU MUOMAEÕNZEUMÕMBUE",
      "ÕNSEUAENÕMBITÕYEUQÕKPARAQÖAAÕSEUXÕNDIDAÕTAASHAEÕNJUEQÕTITA YUEÕSUAET",
      "ÕNGGUAEN NYAMÕVEUXÕNANSANAQÕMA KEUAERIÕNTAAÖGGUONÕLAPÕMBIRIEENÖGBASAQ",
      "ÕNTEUNGBAÕTEUTEUXÕNGGUMÕFUEÕNDEUTÖSA×HAQÕBUNGÕVEUAEPENÕMBERAEÕRU",
      "ÕNJAEMÕLAMÕTITUAEPÕNSUOT NGOMÖJEEEEÕKETÕNGGUÕMAESIÖBUAEMÕLUÕKUTÕNJAM",
      "ÖGOMÕWUPÕNGGUEETÖSOMÖTENÕKUOP NKAARAEÕNSUNÖDAMÕMA NSIEEÕYAAÕNDAP",
      "ÕSHUEQÖETFONÕMBIÖAEMBAÖBANYIÕKEUSEUXÕMBEUXÕKEUMÕMBAA PICKETÕYUWOQ",
      "ÕNJEUXÕMIEEÖUAEÕSHIQÕKEN LAWÙFATIGUEÕNGAQÖAQÕLIQÕPINÖENÕTETÓD MBUO",
      "ÕWAPÕNJIÕMFONÕNJIEEÕLIEEÕNJEUTÖSHEEÖGGAAMAEÖYAMÕWUAENÕNGKUNÕSHEE",
      "ÕNGKAPÕKEUAETMEUNÕTEUTÕSHEUAEÕNJAPÕSUEÕKETÕYAEMMAEÕKUOMÕSAPÕMFEUT",
      "ÕNDEUXÕMALEERIÖEUTÕSEUAEQÕYENÕNJEUAEMÕKEUOT MBUAEÕNGKEURIÕTUÕGHAA",
      "ÕNGKYEEÕFEUFEUAETÕNDEEÕMGBOFUMÕLEUAEPÕNDONÕMONIÖGBEUNÕPUUTÕMGBIEEÖFO",
      "ÕLUMÕNSIEEPÕMBAAÕKWAETÕNYETÕTEUAENÕSOTÕYUWOQÕKEUMÕRAEMÕTEEEEÕNGKEUAEQ",
      "ÕMFEUAEÕNSIEETÕKEUPÕPIPÖEUTAEÕNYUEÕLETÕNGGAAMÕMFIEEÕNGGWAENÕYUOMÕPAP",
      "ÕYUOPÕNDAMÖTEUMÕSUAEÕKUNÕNGGEUX×KIEEÕTUOTÕMEUNÕKUQÕNSUMÕTEUNÕMAENJET",
      "ÕNGGAPÕLEUMÕNGGUOMÖSHUTÖJUEQÕGHEUAEÕKUÕREN OLDÕTAEÖOQÕNYIÕRIIÕLEEEE",
      "ÕMEEEEÖÕSUUÕMUÕSHII×EUXÕKYEEÕNUÕSHUÕNTEEÕPEEÕNIÕSHOQÕPUQÕMVOPÕLOQ",
      "ÕREN MUCHÕTIÕNTUUÕMBAA SEVENÕSAQÕFAAÓE NDAPÕTOONÕMBEUMÕLAPÕVOMÕLOON",
      "ÕPAAÕSOMÕRAQÕNSHUOPÖDUNÕPUAEÕTAMÕNGKAÕKPEUXÕWUOÕSEEÕNGGEUAETÕPAAMÕTOO",
      "ÕKUOPÕLOMÕNSHIEEÖGOPÕMAEMÕNGKEUX×OQÖSHUEÕRIMGBAÕNJEUXÕPEEMÕSAA",
      "ÕNGGURAEÕMGBAÕGHEUXÕNGKEUAEMÖJAEMLIÕMAPÕLOOTÕNGGEEEEÖDIQÕTAEN NTEUM",
      "ÕSETÕPUMÕNDAA SOFTNESSÖGGUAESHAE NYAMÕYIEEÕGHEUNÕTUAEÕYEUAEÕPOÕTUMAE",
      "ÕKEUAEÕSUAENÕTEUAEQÕVEUAEÕWEUXÕLAAMÕPUÕTAAQÕGHAAMAEÕNGEUREUTÕSHEUAEQ",
      "ÕMGBENÖBEEÕNZAQÖKOMÕGBETÕTUMÕKUETÕYAPÕNYI CLEAVERÕYITÕMFEUQÕNDIAQ",
      "ÕPIEEQÕYUEQÕLEUAEMÕFUEÕGBEUXÕNGKUPÕKETÕMAEÕNGKAAMIÕGHETÕFAÕNTUMÕPEUT",
      "ÕYEUMÕNGGEUAEÖYI BETWEENÖZUQÕPOONÕMIEEÕFUETÕNAEÕMUAEÕGHEUAEÕFU IÕMVI",
      "ÕPUAQÕNGKUMÕKUTÕPIETÕNTAPÕYEUAETÕNGGUPÕPA PEOPLEÕFU CALLÖOMÕNJEEÕA",
      "ÕTOQÕOÕIÕLAQÕPA PLURALÕTAA×QÕNDAA MY HOUSEÕSHIQÕYEUXÕNGUAEÕYUAEN",
      "ÖOQ SWIMMINGÙCOVERÖUQ×NÕKEUXÕPEUXÕNJEE EPOCHÕPUEÕWUEÕFEEÕVEEÕLUÕMI",
      "ÕREUXÖAEÕNGUAET×AÕSHOØQÕFU REMEDYÕNAÕPIÕLOQÕKOÕMENÖA×QÕTEUÕKIÕMONÕTEN",
      "ÕFAQÕGHOMÓF KAÕUÕKUÕEEÕREEÕTAEÕNYIÕLAÕRII×EEÕMEEEEÕTAAÕNDAAÖJAEMÕM",
      "ÕSUUÖHIIÖIÖEUXÕKYEEÖETÕNUAE×ÖJUAEÕYOQÕSHUÕYAÕNSHAÕPEUXÕNTEEÕWUEÕPEE",
      "ÕRUÕNIÕREUXÕKENÕNGKWAEN×GAÕSHOÕPUAEÕFOMÕWAÕLIÖOQÕKOÕMBENÕRENÕMAÖOÖBAA",
      "ÕTETÕKPAÕSAMBAÕVUEQ"]),
    (0x16A40, ["MROaTAËNGIËYOËMIMËBAËDAËAËPHIËKHAIËHAOËDAIËCHUËKEAAEËOLËMAEM",
      "ËNINËPAËOOÌËROËSHIËTHEAËEAËWAËEËKOËLANÍËHAIËRIËTEK"]),
    (0x16A60, ["MRO DIGIT ZEROÊONEÊTWOËHREEÊFOURËIVEÊSIXËEVENÊEIGHTÊNINE"]),
    (0x16A6E, ["MRO DANDAÅOUBLE DANDAÀTANGSAaOZÏCÏQÏXÎAZÏCÏQÏXÎVZÏCÏQÏXÎEZÏC",
      "ÏQÏXÎIZÏCÏQÏXÎUZÏCÏQÏXÎAWZÐCÐQÐXÎUIZÐCÐQÐXÎn NGÎLONG UEXÎSHORT UEZ",
      "ÔAWXÎUECÐZÐQÐXÏIUZÑCÑQÑXÎMZÏCÏQÏXÎKAÏHAÎGAÎNGAÎSAÎYAÎWAÎPAÎNYAÎPHAÎBA",
      "ÎMAÎNAÎHAÎLAÎHTAÎTAÎDAÎRAÎNHAÎSHAÎCAÎTSAÎGHAÎHTTAÎTHAÎXAÎFAÎDHAÎCHA",
      "ÎZA"]),
    (0x16AC0, ["TANGSA DIGIT ZEROÍONEÍTWOÎHREEÍFOURÎIVEÍSIXÎEVENÍEIGHTÍNINE"]),
    (0x16AD0, ["BASSA VAHaENNIÑKAÑSEÑFAÑMBEÑYIEÑGAHÑDHIIÑKPAHÑJOÑHWAHÑWAÑZO",
      "ÑGBUÑDOÑCEÑUWUÑTOÑBAÑVUÑYEINÑPAÑWADDAÑAÑOÒOÑUÑEEÒÑI"]),
    (0x16AF0, ["BASSA VAH COMBINING HIGH TONEÔLOW TONEÔMID TONEÔLOW-MID TONE",
      "ÔHIGH-LOW TONEÊFULL STOP"]),
    (0x16B00, ["PAHAWH HMONG VOWEL KEEBÖVÔIBÕVÔAUBÖVÔUBÕVÔEBÕVÔAIBÖVÔOOBÖV",
      "ÔAWBÖVÔUABÖVÔOBÕVÔIABÖVÔABÕVÔWBÕVÔAABÖVÍCONSONANT VAU×NTSAU×LAU×HAU",
      "×NLAU×RAU×NKAU×QHAU×YAU×HLAU×MAU×CHAU×NCHAU×HNAU×PLHAU×NTHAUØAU×AU",
      "×XAU×CAUÍMARK CIM TUBÖSOÖKES×HAVÖSUAMÖHOMÖTAUMÍSIGN VOS THOM",
      "×SHAB CEEBÒCIM CHEEMÒVOS THIABÖFEEMÒXYEEM NTXIVØRHOØTOVØFAIBÒVOS SEEV",
      "ÒMEEJ SUABÒVOS NRUAÒIB YAMÒXAUSÒCIM TSOV ROG"]),
    (0x16B50, ["PAHAWH HMONG DIGIT ZEROÓONEÓTWOÔHREEÓFOURÔIVEÓSIXÔEVENÓEIGHT",
      "ÓNINE"]),
    (0x16B5B, ["PAHAWH HMONG NUMBER TENSÔHUNDREDSÔTEN THOUSANDSÔMILLIONS",
      "ÔHUNDRED MILLIONSÔTEN BILLIONSÕRILLIONS"]),
    (0x16B63, ["PAHAWH HMONGh VOS LUBÒXYOOÒHLIÒTHIRD-STAGE HLIÒZWJ THAJÒHNUB",
      "ÒNQIGÒXIABÒNTUJÒAVÒTXHEEJ CEEVÒMEEJ TSEEBÒTAUÒLOSÒMUSÒCIM HAIS LUS NT",
      "OG NTOGÖCUAM TSHOOJÖTXWVÚ CHWVÖPUB DAWBÖNRES TOS"]),
    (0x16B7D, ["PAHAWH HMONG CLANh TSHEEJ×YEEG×LISØAUJ×XYOOJ×KOO×HAWJ×MUAS",
      "×THOJØSAB×PHAB×KHAB×HAM×VAJ×FAJ×YAJ×TSWB×KWM×VWJ"]),
    (0x16E40, ["MEDEFAIDRIN caMÛSÛVÛWÛATIUÛZÛKPÛPÛTÛGÛFÛIÛKÛAÛJÛEÛBÛCÛUÛYUÛL",
      "ÛQÛHPÛNYÛXÛDÛOEÛNÛRÛOÛAIÛYÌdaMÙSÙVÙWÙATIUÙZÙKPÙPÙTÙGÙFÙIÙKÙAÙJÙEÙBÙC",
      "ÙUÙYUÙLÙQÙHPÙNYÙXÙDÙOEÙNÙRÙOÙAIÙYÌDIGIT ZEROÒONEÒTWOÓHREEÒFOURÓIVE",
      "ÒSIXÓEVENÒEIGHTÒNINEÌNUMBER TENÓELEVENÓTWELVEÔHIRTEENÓFOURTEENÔIFTEEN",
      "ÓSIXTEENÔEVENTEENÓEIGHTEENÓNINETEENÌDIGIT ONE ALTERNATEeÒTWO ALTERNAT",
      "EeÓHREE ALTERNATEeÌCOMMAÌFULL STOPÌSYMBOL AIVAÌEXCLAMATION OH"]),
    (0x16F00, ["MIAOaPAÌBAÌYI PAÌPLAÌMAÍHAÌARCHAIC MAÌFAÌVAÍFAÌTAÌDAÌYI TTA",
      "ÐAÌTTAÌDDAÌNAÍHAÌYI NNAÌARCHAIC NAÌNNAÎHAÌLAÍYAÍHAÎYAÌTLHAÌDLHAÌTLHYA",
      "ÌDLHYAÌKAÌGAÌYI KAÌQAÍGAÌNGAÎHAÌARCHAIC NGAÌHAÌXAÌGHAÎHAÌTSSAÌDZZA",
      "ÌNYAÎHAÌTSHAÌDZHAÌYI TSHAÏDZHAÌREFORMED TSHAÌSHAÍSAÌZHAÍSHAÌTSAÌDZA",
      "ÌYI TSAÌSAÌZAÍSAÍZAÎSAÌARCHAIC ZZAÌZZYAÎSYAÌWAÌAHÌHHAÌBRIÌSYIÌDZYIÌTE",
      "ÍSEÌRTE"]),
    (0x16F4F, ["MIAOh CONSONANT MODIFIER BARÅLETTER NASALIZATIONÅSIGN ASPIRA",
      "TIONÊREFORMED VOICINGÓASPIRATIONÅVOWELh AÑAÑHHÑNÒGÐOÑOÐWOÑÐEÑNÒGÐOEY",
      "ÐIÑAÒNÓGÑOÑEÑIÑUÑNGÐUÑAÒNÓGÑUÑEIÑNGÐYÑIÐAEÒEÐERRÐROUNDED ERRÐER",
      "ÐROUNDED ERÐAIÐEIÐAUÐOUÐNÑGÐUOGÐYUIÐOGÑERÐVWÐIGÐEAÐIONGÐUI"]),
    (0x16F8F, ["MIAO TONE kÊTOP kÊABOVEÊBELOWÅLETTER TONE-2Ñ3Ñ4Ñ5Ñ6Ñ7Ñ8",
      "ÌREFORMED TONE-1Ú2Ú4Ú5Ú6Ú8"]),
    (0x16FE0, ["TANGUT ITERATIONuÀNUSHU ITERATIONuÀOLD CHINESE HOOKu",
      "ÌITERATIONuÀKHITAN d SCRIPT FILLER"]),
    (0x16FF0, ["VIETNAMESE ALTERNATE READINGu CAâNHAY"]),
    (0x18800, ["TANGUT COMPONENT-001Ó2Ó3Ó4Ó5Ó6Ó7Ó8Ó9Ò10Ó1Ó2Ó3Ó4Ó5Ó6Ó7Ó8Ó9Ò20",
      "Ó1Ó2Ó3Ó4Ó5Ó6Ó7Ó8Ó9Ò30Ó1Ó2Ó3Ó4Ó5Ó6Ó7Ó8Ó9Ò40Ó1Ó2Ó3Ó4Ó5Ó6Ó7Ó8Ó9Ò50Ó1Ó2Ó3",
      "Ó4Ó5Ó6Ó7Ó8Ó9Ò60Ó1Ó2Ó3Ó4Ó5Ó6Ó7Ó8Ó9Ò70Ó1Ó2Ó3Ó4Ó5Ó6Ó7Ó8Ó9Ò80Ó1Ó2Ó3Ó4Ó5Ó6",
      "Ó7Ó8Ó9Ò90Ó1Ó2Ó3Ó4Ó5Ó6Ó7Ó8Ó9Ñ100Ó1Ó2Ó3Ó4Ó5Ó6Ó7Ó8Ó9Ò10Ó1Ó2Ó3Ó4Ó5Ó6Ó7Ó8",
      "Ó9Ò20Ó1Ó2Ó3Ó4Ó5Ó6Ó7Ó8Ó9Ò30Ó1Ó2Ó3Ó4Ó5Ó6Ó7Ó8Ó9Ò40Ó1Ó2Ó3Ó4Ó5Ó6Ó7Ó8Ó9Ò50",
      "Ó1Ó2Ó3Ó4Ó5Ó6Ó7Ó8Ó9Ò60Ó1Ó2Ó3Ó4Ó5Ó6Ó7Ó8Ó9Ò70Ó1Ó2Ó3Ó4Ó5Ó6Ó7Ó8Ó9Ò80Ó1Ó2Ó3",
      "Ó4Ó5Ó6Ó7Ó8Ó9Ò90Ó1Ó2Ó3Ó4Ó5Ó6Ó7Ó8Ó9Ñ200Ó1Ó2Ó3Ó4Ó5Ó6Ó7Ó8Ó9Ò10Ó1Ó2Ó3Ó4Ó5",
      "Ó6Ó7Ó8Ó9Ò20Ó1Ó2Ó3Ó4Ó5Ó6Ó7Ó8Ó9Ò30Ó1Ó2Ó3Ó4Ó5Ó6Ó7Ó8Ó9Ò40Ó1Ó2Ó3Ó4Ó5Ó6Ó7Ó8",
      "Ó9Ò50Ó1Ó2Ó3Ó4Ó5Ó6Ó7Ó8Ó9Ò60Ó1Ó2Ó3Ó4Ó5Ó6Ó7Ó8Ó9Ò70Ó1Ó2Ó3Ó4Ó5Ó6Ó7Ó8Ó9Ò80",
      "Ó1Ó2Ó3Ó4Ó5Ó6Ó7Ó8Ó9Ò90Ó1Ó2Ó3Ó4Ó5Ó6Ó7Ó8Ó9Ñ300Ó1Ó2Ó3Ó4Ó5Ó6Ó7Ó8Ó9Ò10Ó1Ó2",
      "Ó3Ó4Ó5Ó6Ó7Ó8Ó9Ò20Ó1Ó2Ó3Ó4Ó5Ó6Ó7Ó8Ó9Ò30Ó1Ó2Ó3Ó4Ó5Ó6Ó7Ó8Ó9Ò40Ó1Ó2Ó3Ó4Ó5",
      "Ó6Ó7Ó8Ó9Ò50Ó1Ó2Ó3Ó4Ó5Ó6Ó7Ó8Ó9Ò60Ó1Ó2Ó3Ó4Ó5Ó6Ó7Ó8Ó9Ò70Ó1Ó2Ó3Ó4Ó5Ó6Ó7Ó8",
      "Ó9Ò80Ó1Ó2Ó3Ó4Ó5Ó6Ó7Ó8Ó9Ò90Ó1Ó2Ó3Ó4Ó5Ó6Ó7Ó8Ó9Ñ400Ó1Ó2Ó3Ó4Ó5Ó6Ó7Ó8Ó9Ò10",
      "Ó1Ó2Ó3Ó4Ó5Ó6Ó7Ó8Ó9Ò20Ó1Ó2Ó3Ó4Ó5Ó6Ó7Ó8Ó9Ò30Ó1Ó2Ó3Ó4Ó5Ó6Ó7Ó8Ó9Ò40Ó1Ó2Ó3",
      "Ó4Ó5Ó6Ó7Ó8Ó9Ò50Ó1Ó2Ó3Ó4Ó5Ó6Ó7Ó8Ó9Ò60Ó1Ó2Ó3Ó4Ó5Ó6Ó7Ó8Ó9Ò70Ó1Ó2Ó3Ó4Ó5Ó6",
      "Ó7Ó8Ó9Ò80Ó1Ó2Ó3Ó4Ó5Ó6Ó7Ó8Ó9Ò90Ó1Ó2Ó3Ó4Ó5Ó6Ó7Ó8Ó9Ñ500Ó1Ó2Ó3Ó4Ó5Ó6Ó7Ó8",
      "Ó9Ò10Ó1Ó2Ó3Ó4Ó5Ó6Ó7Ó8Ó9Ò20Ó1Ó2Ó3Ó4Ó5Ó6Ó7Ó8Ó9Ò30Ó1Ó2Ó3Ó4Ó5Ó6Ó7Ó8Ó9Ò40",
      "Ó1Ó2Ó3Ó4Ó5Ó6Ó7Ó8Ó9Ò50Ó1Ó2Ó3Ó4Ó5Ó6Ó7Ó8Ó9Ò60Ó1Ó2Ó3Ó4Ó5Ó6Ó7Ó8Ó9Ò70Ó1Ó2Ó3",
      "Ó4Ó5Ó6Ó7Ó8Ó9Ò80Ó1Ó2Ó3Ó4Ó5Ó6Ó7Ó8Ó9Ò90Ó1Ó2Ó3Ó4Ó5Ó6Ó7Ó8Ó9Ñ600Ó1Ó2Ó3Ó4Ó5",
      "Ó6Ó7Ó8Ó9Ò10Ó1Ó2Ó3Ó4Ó5Ó6Ó7Ó8Ó9Ò20Ó1Ó2Ó3Ó4Ó5Ó6Ó7Ó8Ó9Ò30Ó1Ó2Ó3Ó4Ó5Ó6Ó7Ó8",
      "Ó9Ò40Ó1Ó2Ó3Ó4Ó5Ó6Ó7Ó8Ó9Ò50Ó1Ó2Ó3Ó4Ó5Ó6Ó7Ó8Ó9Ò60Ó1Ó2Ó3Ó4Ó5Ó6Ó7Ó8Ó9Ò70",
      "Ó1Ó2Ó3Ó4Ó5Ó6Ó7Ó8Ó9Ò80Ó1Ó2Ó3Ó4Ó5Ó6Ó7Ó8Ó9Ò90Ó1Ó2Ó3Ó4Ó5Ó6Ó7Ó8Ó9Ñ700Ó1Ó2",
      "Ó3Ó4Ó5Ó6Ó7Ó8Ó9Ò10Ó1Ó2Ó3Ó4Ó5Ó6Ó7Ó8Ó9Ò20Ó1Ó2Ó3Ó4Ó5Ó6Ó7Ó8Ó9Ò30Ó1Ó2Ó3Ó4Ó5",
      "Ó6Ó7Ó8Ó9Ò40Ó1Ó2Ó3Ó4Ó5Ó6Ó7Ó8Ó9Ò50Ó1Ó2Ó3Ó4Ó5Ó6Ó7Ó8Ó9Ò60Ó1Ó2Ó3Ó4Ó5Ó6Ó7Ó8",
      "ÀKHITAN d SCRIPT CHARACTER-18B00â1â2â3â4â5â6â7â8â9âAâBâCâDâEâFá10â1â2",
      "â3â4â5â6â7â8â9âAâBâCâDâEâFá20â1â2â3â4â5â6â7â8â9âAâBâCâDâEâFá30â1â2â3",
      "â4â5â6â7â8â9âAâBâCâDâEâFá40â1â2â3â4â5â6â7â8â9âAâBâCâDâEâFá50â1â2â3â4",
      "â5â6â7â8â9âAâBâCâDâEâFá60â1â2â3â4â5â6â7â8â9âAâBâCâDâEâFá70â1â2â3â4â5",
      "â6â7â8â9âAâBâCâDâEâFá80â1â2â3â4â5â6â7â8â9âAâBâCâDâEâFá90â1â2â3â4â5â6",
      "â7â8â9âAâBâCâDâEâFáA0â1â2â3â4â5â6â7â8â9âAâBâCâDâEâFáB0â1â2â3â4â5â6â7",
      "â8â9âAâBâCâDâEâFáC0â1â2â3â4â5â6â7â8â9âAâBâCâDâEâFáD0â1â2â3â4â5â6â7â8",
      "â9âAâBâCâDâEâFáE0â1â2â3â4â5â6â7â8â9âAâBâCâDâEâFáF0â1â2â3â4â5â6â7â8â9",
      "âAâBâCâDâEâFàC00â1â2â3â4â5â6â7â8â9âAâBâCâDâEâFá10â1â2â3â4â5â6â7â8â9âA",
      "âBâCâDâEâFá20â1â2â3â4â5â6â7â8â9âAâBâCâDâEâFá30â1â2â3â4â5â6â7â8â9âAâB",
      "âCâDâEâFá40â1â2â3â4â5â6â7â8â9âAâBâCâDâEâFá50â1â2â3â4â5â6â7â8â9âAâBâC",
      "âDâEâFá60â1â2â3â4â5â6â7â8â9âAâBâCâDâEâFá70â1â2â3â4â5â6â7â8â9âAâBâCâD",
      "âEâFá80â1â2â3â4â5â6â7â8â9âAâBâCâDâEâFá90â1â2â3â4â5â6â7â8â9âAâBâCâDâE",
      "âFáA0â1â2â3â4â5â6â7â8â9âAâBâCâDâEâFáB0â1â2â3â4â5â6â7â8â9âAâBâCâDâEâF",
      "áC0â1â2â3â4â5â6â7â8â9âAâBâCâDâEâFáD0â1â2â3â4â5"]),
    (0x1AFF0, ["KATAKANAaMINNAN TONE-2Ü3Ü4Ü5"]),
    (0x1AFF5, ["KATAKANAaMINNAN TONE-7Ü8×NASALIZED TONE-1æ2æ3æ4æ5"]),
    (0x1AFFD, ["KATAKANAaMINNAN NASALIZED TONE-7æ8"]),
    (0x1B000, ["KATAKANAaARCHAIC EÀHIRAGANAaARCHAIC YEÁENTAIGANAaA-1Ô2Ô3ÔWO",
      "ÒI-1Ô2Ô3Ô4ÒU-1Ô2Ô3Ô4Ô5ÒE-2Ô3Ô4Ô5Ô6ÒO-1Ô2Ô3ÒKA-1Õ2Õ3Õ4Õ5Õ6Õ7Õ8Õ9Õ10Ö1",
      "ÕKEÓI-1Õ2Õ3Õ4Õ5Õ6Õ7Õ8ÓU-1Õ2Õ3Õ4Õ5Õ6Õ7ÓE-1Õ2Õ3Õ4Õ5Õ6ÓO-1Õ2Õ3ÕKIÒSA-1Õ2",
      "Õ3Õ4Õ5Õ6Õ7Õ8ÓI-1Õ2Õ3Õ4Õ5Õ6ÓU-1Õ2Õ3Õ4Õ5Õ6Õ7Õ8ÓE-1Õ2Õ3Õ4Õ5ÓO-1Õ2Õ3Õ4Õ5",
      "Õ6Õ7ÒTA-1Õ2Õ3Õ4ÓI-1Õ2Õ3Õ4Õ5Õ6Õ7ÓU-1Õ2Õ3Õ4ÕTOÓE-1Õ2Õ3Õ4Õ5Õ6Õ7Õ8Õ9ÓO-1",
      "Õ2Õ3Õ4Õ5Õ6ÕRAÒNA-1Õ2Õ3Õ4Õ5Õ6Õ7Õ8Õ9ÓI-1Õ2Õ3Õ4Õ5Õ6Õ7ÕTEÓU-1Õ2Õ3ÓE-1Õ2Õ3",
      "Õ4Õ5Õ6ÕKOÓO-1Õ2Õ3Õ4Õ5ÒHA-1Õ2Õ3Õ4Õ5Õ6Õ7Õ8Õ9Õ10Ö1ÓI-1Õ2Õ3Õ4Õ5Õ6Õ7ÓU-1Õ2",
      "Õ3ÓE-1Õ2Õ3Õ4Õ5Õ6Õ7ÓO-1Õ2Õ3Õ4Õ5Õ6Õ7Õ8ÒMA-1Õ2Õ3Õ4Õ5Õ6Õ7ÓI-1Õ2Õ3Õ4Õ5Õ6Õ7",
      "ÓU-1Õ2Õ3Õ4ÓE-1Õ2ÕMAÓO-1Õ2Õ3Õ4Õ5Õ6ÒYA-1Õ2Õ3Õ4Õ5ÕYOÓU-1Õ2Õ3Õ4ÓO-1Õ2Õ3Õ4",
      "Õ5Õ6ÒRA-1Õ2Õ3Õ4ÓI-1Õ2Õ3Õ4Õ5Õ6Õ7ÓU-1Õ2Õ3Õ4Õ5Õ6ÓE-1Õ2Õ3Õ4ÓO-1Õ2Õ3Õ4Õ5Õ6",
      "ÒWA-1Õ2Õ3Õ4Õ5ÓI-1Õ2Õ3Õ4Õ5ÓE-1Õ2Õ3Õ4ÓO-1Õ2Õ3Õ4Õ5Õ6Õ7ÒN-MU-MO-1Ú2",
      "ÁIRAGANAaARCHAIC WUÀKATAKANAaARCHAIC YIÙEØWU"]),
    (0x1B150, ["HIRAGANAad WI×E×O"]), (0x1B164, ["KATAKANAad WI×E×OÖN"]),
    (0x1B170, ["NUSHU CHARACTER-1B170Ô1Ô2Ô3Ô4Ô5Ô6Ô7Ô8Ô9ÔAÔBÔCÔDÔEÔFÓ80Ô1Ô2Ô3",
      "Ô4Ô5Ô6Ô7Ô8Ô9ÔAÔBÔCÔDÔEÔFÓ90Ô1Ô2Ô3Ô4Ô5Ô6Ô7Ô8Ô9ÔAÔBÔCÔDÔEÔFÓA0Ô1Ô2Ô3Ô4",
      "Ô5Ô6Ô7Ô8Ô9ÔAÔBÔCÔDÔEÔFÓB0Ô1Ô2Ô3Ô4Ô5Ô6Ô7Ô8Ô9ÔAÔBÔCÔDÔEÔFÓC0Ô1Ô2Ô3Ô4Ô5",
      "Ô6Ô7Ô8Ô9ÔAÔBÔCÔDÔEÔFÓD0Ô1Ô2Ô3Ô4Ô5Ô6Ô7Ô8Ô9ÔAÔBÔCÔDÔEÔFÓE0Ô1Ô2Ô3Ô4Ô5Ô6",
      "Ô7Ô8Ô9ÔAÔBÔCÔDÔEÔFÓF0Ô1Ô2Ô3Ô4Ô5Ô6Ô7Ô8Ô9ÔAÔBÔCÔDÔEÔFÒ200Ô1Ô2Ô3Ô4Ô5Ô6Ô7",
      "Ô8Ô9ÔAÔBÔCÔDÔEÔFÓ10Ô1Ô2Ô3Ô4Ô5Ô6Ô7Ô8Ô9ÔAÔBÔCÔDÔEÔFÓ20Ô1Ô2Ô3Ô4Ô5Ô6Ô7Ô8",
      "Ô9ÔAÔBÔCÔDÔEÔFÓ30Ô1Ô2Ô3Ô4Ô5Ô6Ô7Ô8Ô9ÔAÔBÔCÔDÔEÔFÓ40Ô1Ô2Ô3Ô4Ô5Ô6Ô7Ô8Ô9",
      "ÔAÔBÔCÔDÔEÔFÓ50Ô1Ô2Ô3Ô4Ô5Ô6Ô7Ô8Ô9ÔAÔBÔCÔDÔEÔFÓ60Ô1Ô2Ô3Ô4Ô5Ô6Ô7Ô8Ô9ÔA",
      "ÔBÔCÔDÔEÔFÓ70Ô1Ô2Ô3Ô4Ô5Ô6Ô7Ô8Ô9ÔAÔBÔCÔDÔEÔFÓ80Ô1Ô2Ô3Ô4Ô5Ô6Ô7Ô8Ô9ÔAÔB",
      "ÔCÔDÔEÔFÓ90Ô1Ô2Ô3Ô4Ô5Ô6Ô7Ô8Ô9ÔAÔBÔCÔDÔEÔFÓA0Ô1Ô2Ô3Ô4Ô5Ô6Ô7Ô8Ô9ÔAÔBÔC",
      "ÔDÔEÔFÓB0Ô1Ô2Ô3Ô4Ô5Ô6Ô7Ô8Ô9ÔAÔBÔCÔDÔEÔFÓC0Ô1Ô2Ô3Ô4Ô5Ô6Ô7Ô8Ô9ÔAÔBÔCÔD",
      "ÔEÔFÓD0Ô1Ô2Ô3Ô4Ô5Ô6Ô7Ô8Ô9ÔAÔBÔCÔDÔEÔFÓE0Ô1Ô2Ô3Ô4Ô5Ô6Ô7Ô8Ô9ÔAÔBÔCÔDÔE",
      "ÔFÓF0Ô1Ô2Ô3Ô4Ô5Ô6Ô7Ô8Ô9ÔAÔB"]),
    (0x1BC00, ["DUPLOYANaHÐXÐPÐTÐFÐKÐLÐBÐDÐVÐGÐRÐP NÐD SÐF NÐK MÐR SÐTH",
      "ÐSLOAN DHÐDHÐKKÐSLOAN JÐHLÐLHÐRHÐMÐNÐJÐSÐM NÐN MÐJ MÐS JÐMbDOTÐNbDOT",
      "ÐJbDOTÚS INSIDEgABOVEÐSbDOTÚmÐM SÐN SÐJ SÐS SÐM N SÐN M SÐJ M SÐS J S",
      "ÐJ SbDOTÒNÓ SÐS TÓ RÒPÓ RÐT SÒR SÐWÑHÑ RÐS NÒMÐK R SÐG R SÐS KÓ RÐA",
      "ÐSLOAN OWÐOAÑÐAOUÐIÐEÐIEÐSHORT IÐUIÐEEÐSLOAN EHÐROMANIAN IÐSLOAN EE",
      "ÐLONG IÐYEÐUÐEUÐXWÐU NÐLONG UÐROMANIAN UÐUHÐSLOAN UÐOOHÑWÑUÐWAÑOÑIÑEI",
      "ÑOWÐNASAL UÖOÖIÖAÐPERNIN ANØMÐSLOAN ENÖANÖONÐVOCALIC M"]),
    (0x1BC70, ["DUPLOYAN AFFIX ow SECANTÏMID w SECANTÏk w SECANTÏLOW p SECAN",
      "TÏMID p SECANTÏHIGH p SECANTÏATTACHED SECANTØLEFT-TO-k SECANTØTANGENT",
      "ÚILØE HOOKØI HOOKØTANGENT HOOK"]),
    (0x1BC80, ["DUPLOYAN AFFIX HIGH ACUTEÔTIGHT ACUTEÔGRAVEÔLONG GRAVEÔDOT",
      "ÔCIRCLEÔLINEÔWAVEÔp"]),
    (0x1BC90, ["DUPLOYAN AFFIX LOW ACUTEÓTIGHT ACUTEÓGRAVEÓLONG GRAVEÓDOT",
      "ÓCIRCLEÓLINEÓWAVEÓpÓARROW"]),
    (0x1BC9C, ["DUPLOYANh ObCROSSÉTHICKaSELECTORÉluÉPUNCTUATION CHINOOK FULL",
      " STOPÀSHORTHANDeATaOVERLAPÑCONTINUING OVERLAPÑDOWN STEPÑUP STEP"])]

/-- Notes, mathematical letters and pictures, from U+1CF00 on. -/
def pictureRuns : List (Nat × List String) :=
  [(0x1CF00, ["ZNAMENNY COMBININGu GORAZDO NIZKO S KRYZHEM ON LEFT",
      "ØNIZKO S KRYZHEM ON LEFTØTSATA ON LEFTØGORAZDO NIZKO ON LEFT",
      "ØNIZKO ON LEFTØSREDNE ON LEFTØMALO POVYSHE ON LEFTØPOVYSHE ON LEFT",
      "ØVYSOKO ON LEFTØMALO POVYSHE S KHOKHLOM ON LEFTØPOVYSHE S KHOKHLOM ON",
      " LEFTØVYSOKO S KHOKHLOM ON LEFTØGORAZDO NIZKO S KRYZHEM ON k",
      "ØNIZKO S KRYZHEM ON kØTSATA ON kØGORAZDO NIZKO ON kØNIZKO ON k",
      "ØSREDNE ON kØMALO POVYSHE ON kØPOVYSHE ON kØVYSOKO ON kØMALO POVYSHE ",
      "S KHOKHLOM ON kØPOVYSHE S KHOKHLOM ON kØVYSOKO S KHOKHLOM ON k",
      "ØTSATA S KRYZHEMØMALO POVYSHE S KRYZHEMØSTRANNO MALO POVYSHE",
      "ØPOVYSHE S KRYZHEMáTRANNOØVYSOKO S KRYZHEMØMALO POVYSHE STRANNO",
      "ØGORAZDO VYSOKOØZELOØONØRAVNOØTIKHAYAØBORZAYAØUDARKAØPODVERTKAØLOMKA",
      "ØKUPNAYAÙACHKAØZEVOKØSKOBAØRAZSEKAØKRYZH ON LEFT"]),
    (0x1CF30, ["ZNAMENNY COMBINING TONAL RANGEu MRACHNOäSVETLOäTRESVETLO",
      "ÓMARK ZADERZHKAØDEMESTVENNY ZADERZHKAØOTSECHKAØPODCHASHIEâbp v",
      "ØCHASHKAß POLNAYAØOBLACHKOØSOROCHYA NOZHKAØTOCHKAØDVOETOCHIE",
      "ÓATTACHING p OMETÓMARK CURVED OMETØKRYZHÓLOWER TONAL RANGE INDICATOR",
      "ÉPRIZNAK MODIFIER LEVEL-2à3ÚDIRECTION FLIPÚKRYZHÚROG"]),
    (0x1CF50, ["ZNAMENNY NEUME KRYUKÔ TIKHYÏPARAKLITÏDVA V CHELNUÏKLYUCH",
      "ÏZANOZHEKÏSTOPITSA× S OCHKOMÏPEREVODKAØ NEPOSTOYANNAYAÏSTOPITSAbSOROC",
      "HYA NOZHKAÏCHELYUSTKAÏPALKAÏZAPYATAYAÏGOLUBCHIK BORZYÙTIKHYÙMRACHNY",
      "ÙSVETLYÙTRESVETLYÏVRAKHIYA PROSTAYAØMRACHNAYAØSVETLAYAØTRESVETLAYA",
      "ØKLYUCHEVAYA PROSTAYAäMRACHNAYAäSVETLAYAäTRESVETLAYAÏl ZAPYATAYA",
      "ÏREVERSED CHELYUSTKAÏDERBITSAÏKHAMILOÏCHASHKAÏPODCHASHIEÏSKAMEYTSA MR",
      "ACHNAYAÙSVETLAYAÙTRESVETLAYAÚIKHAYAÏDEMESTVENNY KLYUCHÏSKAMEYTSA KLYU",
      "CHEVAYA SVETLAYAàNEPOSTOYANNAYAàVAYA TIKHAYAÙDVOECHELNAYA PROSTAYA",
      "æSVETLAYAæNEPOSTOYANNAYAæKLYUCHEVAYAÐLOZHITIEØ S ZAPYATOYÙZAKRYTOE",
      "ÙS KRYZHEMÏKRYZHÏROGÏFITAÏKOBYLAÏZMEYTSAÏSTATYAÕ S ZAPYATOYØKRYZHEM",
      "ØZAPYATOY I KRYZHEMØKRYZHEM I ZAPYATOYÖZAKRYTAYAß S ZAPYATOYÖS ROGOM",
      "ØDVUMYA ZAPYATYMIØZAPYATOY I PODCHASHIEMÏPOLKULIZMYÏSTATYA NEPOSTOYAN",
      "NAYAÑRELA PROSTAYAÖMRACHNOTIKHAYAÖKRYZHEVAYAÖPOLUPOVODNAYAØVODNAYA",
      "ÖNEPOSTOYANNAYAÖKLYUCHEPOVODNAYAÝNEPOSTOYANNAYAÖTIKHAYA PUTNAYA",
      "ÖDVOECHELNAYAßOKRYZHEVAYAàPOVODNAYAßAYA KLYUCHEVAYAßOPOVODNAYA KLYUCH",
      "EVAYAÖGROMNAYAbSINGLE ZAPYATAYAÚOPOVODNAYAbSINGLE ZAPYATAYAÚNAYA",
      "ÚOPOVODNAYAäbl ZAPYATAYAÛKRYZHEVAYAå POVODNAYAÏMECHIKÕ POVODNY",
      "ÖKLYUCHEVOYÝPOVODNYÝNEPOSTOYANNYÏSTRELA TRYASOGLASNAYAÜPOVODNAYA",
      "ÜSTRELNAYAÏOSOKAÔ SVETLAYAÕTRESVETLAYAÕKRYUKOVAYA SVETLAYA",
      "ÖLYUCHEVAYA SVETLAYAáNEPOSTOYANNAYAÏSTRELA KRYUKOVAYAà POVODNAYA",
      "áGROMNAYAbSINGLE ZAPYATAYAåOPOVODNAYAbSINGLE ZAPYATAYAåNAYA",
      "åOPOVODNAYAïbl ZAPYATAYAæKRYZHEVAYAð POVODNAYAáTRYASKAÏKUFISMAÏOBLAKO",
      "ÏDUDAÏNEMKAÏPAUK"]),
    (0x1D000, ["BYZANTINE MUSICALq PSILIÙDASEIAÙPERISPOMENIÙOXEIA EKFONITIKO",
      "NßDIPLIÙVAREIA EKFONITIKONàDIPLIÙKATHISTIÙSYRMATIKIÙPARAKLITIKI",
      "ÙYPOKRISISâ DIPLIÙKREMASTIÙAPESO EKFONITIKONÙEXO EKFONITIKONÙTELEIA",
      "ÙKENTIMATAÙAPOSTROFOSã DIPLIÙSYNEVMAÙTHITAÙOLIGON ARCHAION",
      "ÙGORGON ARCHAIONÙPSILONÙCHAMILONÙVATHYÙISON ARCHAIONÙKENTIMA ARCHAION",
      "àTA ARCHAIONÙSAXIMATAÙPARICHONÙSTAVROS APODEXIAÙOXEIAI ARCHAION",
      "ÙVAREIAI ARCHAIONÙAPODERMA ARCHAIONÜTHEMAÙKLASMAÙREVMAÙPIASMA ARCHAIO",
      "NÙTINAGMAÙANATRICHISMAÙSEISMAÚYNAGMA ARCHAIONáMETA STAVROU",
      "ÙOYRANISMA ARCHAIONÙTHEMAÙLEMOIÙDYOÙTRIAÚESSERAÙKRATIMATAÙAPESO EXO N",
      "EOÙFTHORA ARCHAIONÙIMIFTHORAÙTROMIKON ARCHAIONÙKATAVA TROMIKON",
      "ÙPELASTONÚSIFISTONÙKONTEVMAÙCHOREVMA ARCHAIONÙRAPISMAÙPARAKALESMA ARC",
      "HAIONÞLITIKI ARCHAIONÙICHADINÙNANAÙPETASMAÙKONTEVMA ALLOÙTROMIKON ALL",
      "OÙSTRAGGISMATAÙGRONTHISMATAÙISON NEOÙOLIGON NEOÚXEIA NEOÙPETASTI",
      "ÙKOUFISMAÙPETASTOKOUFISMAÙKRATIMOKOUFISMAÙPELASTON NEOÙKENTIMATA NEO ",
      "ANOà NEO ANOÙYPSILIÙAPOSTROFOS NEOâI SYNDESMOS NEOÙYPORROI",
      "ÙKRATIMOYPORROONÙELAFRONÙCHAMILIÙMIKRON ISONÙVAREIA NEOÙPIASMA NEO",
      "ÚSIFISTON NEOÙOMALONÙANTIKENOMAÙLYGISMAÙPARAKLITIKI NEOÞALESMA NEO",
      "ÙETERON PARAKALESMAÙKYLISMAÙANTIKENOKYLISMAÙTROMIKON NEOÙEKSTREPTON",
      "ÙSYNAGMA NEOÛRMAÙCHOREVMA NEOÙEPEGERMAÙSEISMA NEOÙXIRON KLASMA",
      "ÙTROMIKOPSIFISTONÙPSIFISTOLYGISMAÙTROMIKOLYGISMAàPARAKALESMA",
      "ÙPSIFISTOPARAKALESMAÙTROMIKOSYNAGMAÙPSIFISTOSYNAGMAÙGORGOSYNTHETON",
      "ÙARGOSYNTHETONÙETERON ARGOSYNTHETONÙOYRANISMA NEOÙTHEMATISMOS ESOæXO",
      "Þ APLOUNÜS KAI APOTHESÙKATAVASMAÙENDOFONONÙYFEN KATOÞANOÙSTAVROS",
      "ÙKLASMA ANOÙDIPLI ARCHAIONÙKRATIMA ARCHAIONâLLOáNEOÙAPODERMA NEOÛLI",
      "ÙDIPLIÙTRIPLIÚETRAPLIÙKORONISÙLEIMMA ENOS CHRONOUàDYO CHRONON",
      "àTRION CHRONONáESSARON CHRONONàIMISEOS CHRONOUÙGORGON NEO ANO",
      "àPARESTIGMENON ARISTERAîDEXIAÙDIGORGONá PARESTIGMENON ARISTERA KATO",
      "ùANOðDEXIAÙTRIGORGONÙARGONÙIMIDIARGONÙDIARGONÙAGOGI POLI ARGI",
      "ßARGOTERIâIßMETRIAáSIßGORGIãOTERIßPOLI GORGIÙMARTYRIA PROTOS ICHOS",
      "âALLI PROTOS ICHOSâDEYTEROS ICHOSâALLI DEYTEROS ICHOSâTRITOS ICHOS",
      "åFONIASãETARTOS ICHOSëLEGETOS ICHOSâLEGETOS ICHOSâPLAGIOS ICHOS",
      "ÙISAKIA TELOUS ICHIMATOSÙAPOSTROFOI TELOUS ICHIMATOSÙFANEROSIS TETRAF",
      "ONIASãMONOFONIASãDIFONIASÙMARTYRIA VARYS ICHOSâPROTOVARYS ICHOS",
      "ãLAGIOS TETARTOS ICHOSÙGORTHMIKON N APLOUNæDIPLOUNÙENARXIS KAI FTHORA",
      " VOUÙIMIFONONÝTHORONÙFTHORA ARCHAION DEYTEROU ICHOUàDIATONIKI PAêNANA",
      "àNAOS ICHOSàDIATONIKI DIàSKLIRON DIATONON DIàDIATONIKI KEêZOêNI KATO",
      "íANOàMALAKON CHROMA DIFONIASïMONOFONIASÚHTORA SKLIRON CHROMA VASIS",
      "ÚTHORA SKLIRON CHROMA SYNAFIàNENANOÙCHROA ZYGOSßKLITONßSPATHI",
      "ÙFTHORA I YFESIS TETARTIMORIONàENARMONIOS ANTIFONIAÙYFESIS TRITIMORIO",
      "NÙDIESIS TRITIMORIONáETARTIMORIONàAPLI DYO DODEKATAàMONOGRAMMOS TESSE",
      "RA DODEKATAàDIGRAMMOS EX DODEKATAàTRIGRAMMOS OKTO DODEKATA",
      "ÙYFESIS APLI DYO DODEKATAàMONOGRAMMOS TESSERA DODEKATAàDIGRAMMOS EX D",
      "ODEKATAàTRIGRAMMOS OKTO DODEKATAÙGENIKI DIESISàYFESISÙDIASTOLI APLI M",
      "IKRIèEGALIâDIPLIâTHESEOSÙSIMANSIS THESEOSé DISIMOUêTRISIMOUëETRASIMOU",
      "âARSEOSè DISIMOUéTRISIMOUêETRASIMOUÙDIGRAMMA GGÛFTOGGOS OUÙSTIGMA",
      "ÙARKTIKO PAáVOUáGAáDIáKEáZOáNIÙKENTIMATA NEO MESOà NEO MESO",
      "àTA NEO KATOà NEO KATOÚLASMA KATOÙGORGON NEO KATO"]),
    (0x1D100, ["MUSICALq SINGLE BARLINEÏl BARLINEÏn BARLINEÏREVERSE n BARLIN",
      "EÏDASHED BARLINEÏSHORT BARLINEÏoREPEAThÏk REPEAThÐEPEAT DOTS",
      "ÏDAL SEGNOÑ CAPOÏSEGNOÏCODAÏREPEATED FIGURE-1ß2ß3ÏFERMATAÖmÏBREATHu",
      "ÏCAESURAÏBRACEÓKETÏONE-LINE STAFFÏTWO-LINE STAFFÐHREE-LINE STAFF",
      "ÏFOUR-LINE STAFFÐIVE-LINE STAFFÏSIX-LINE STAFFÓSTRING FRETBOARD",
      "ÏFOUR-STRING FRETBOARDÏG CLEFÕ OTTAVA ALTAÝBASSAÏC CLEFÏF CLEF",
      "Õ OTTAVA ALTAÝBASSAÏDRUM CLEF-1Ù2"]),
    (0x1D129, ["MUSICALq MULTIPLE MEASURE RESTÏl SHARPÖFLATÏFLAT UPÔDOWN",
      "ÏNATURAL UP×DOWNÏSHARP UPÕDOWNÏQUARTER TONE SHARPÜFLATÏCOMMON TIME",
      "ÐUT TIMEÏOTTAVA ALTAÖBASSAÏQUINDICESIMA ALTAÜBASSAÏMULTI REST",
      "ÏWHOLE RESTÏHALF RESTÏQUARTER RESTÏEIGHTH RESTÏSIXTEENTH REST",
      "ÏTHIRTY-SECOND RESTÏSIXTY-FOURTH RESTÏONEz TWENTY-EIGHTH REST",
      "ÏX NOTEHEADÏPLUS NOTEHEADÏCIRCLE X NOTEHEADÏSQUARE NOTEHEAD WHITEßx",
      "ÏTRIANGLE NOTEHEAD UP WHITEäxáoWHITEæxák WHITEçxáDOWN WHITEæx",
      "áUP k WHITEêxÏMOON NOTEHEAD WHITEÝxÏTRIANGLE-ROUND NOTEHEAD DOWN WHIT",
      "EìxÏPARENTHESIS NOTEHEADÏVOID NOTEHEADÏNOTEHEAD xÐULL NOTEHEAD",
      "ÏCLUSTER NOTEHEAD WHITEàxÏBREVEÏWHOLE NOTEÏHALF NOTEÏQUARTER NOTE",
      "ÏEIGHTH NOTEÏSIXTEENTH NOTEÏTHIRTY-SECOND NOTEÏSIXTY-FOURTH NOTE",
      "ÏONEz TWENTY-EIGHTH NOTEÏCOMBINING STEMÚPRECHGESANG STEMÙTREMOLO-1á2",
      "á3ÏFINGERED TREMOLO-1à2à3ÏCOMBINING AUGMENTATION DOTÙFLAG-1Þ2Þ3Þ4Þ5",
      "ÏBEGIN BEAMÏEND BEAMÏBEGIN TIEÏEND TIEÏBEGIN SLURÏEND SLUR",
      "ÏBEGIN PHRASEÏEND PHRASEÏCOMBINING ACCENTÙSTACCATOÙTENUTOÙSTACCATISSI",
      "MOÙMARCATOà-STACCATOÙACCENT-STACCATOÙLOUREÏARPEGGIATO UPÚDOWN",
      "ÏCOMBINING DOITÙRIPÙFLIPÙSMEARÙBENDÙl TONGUEÙTRIPLE TONGUE",
      "ÏRINFORZANDOÏSUBITOÏZÏPIANOÏMEZZOÏFORTEÏCRESCENDOÏDECRESCENDO",
      "ÏGRACE NOTE SLASHÚNO SLASHÏTRÐURNÏINVERTED TURNÏTURN SLASHÔUP",
      "ÏORNAMENT v-1ß2ß3ß4ß5ß6ß7ß8ß9ß10à1ÏHAUPTSTIMMEÏNEBENSTIMME",
      "ÏEND OF STIMMEÏDEGREE SLASHÏCOMBINING DOWN BOWÙUP BOWÙHARMONIC",
      "ÙSNAP PIZZICATOÏPEDALuÕUPuÏHALF PEDALuÏGLISSANDO UPÙDOWNÏWITH FINGERN",
      "AILSÏDAMPÓ ALLÏMAXIMAÏLONGAÏBREVISÏSEMIBREVIS WHITEÚxÏMINIMAÕ x",
      "ÏSEMIMINIMA WHITEÚxÏFUSA WHITEÔxÏLONGA PERFECTA RESTÕIMPERFECTA REST",
      "ÏBREVIS RESTÏSEMIBREVIS RESTÏMINIMA RESTÏSEMIMINIMA RESTÏTEMPUS PERFE",
      "CTUM CUM PROLATIONE PERFECTAïIMPERFECTAïPERFECTA DIMINUTION-1",
      "ÖIMPERFECTUM CUM PROLATIONE PERFECTAñIMPERFECTAû DIMINUTION-1",
      "üDIMINUTION-2üDIMINUTION-3ÏCROIXÏGREGORIAN C CLEFÙF CLEFÏSQUARE B",
      "ÏVIRGAÏPODATUSÏCLIVISÏSCANDICUSÏCLIMACUSÏTORCULUSÏPORRECTUSØ FLEXUS",
      "ÏSCANDICUS FLEXUSÏTORCULUS RESUPINUSÏPES SUBPUNCTISÏKIEVAN C CLEF",
      "ÖEND OF PIECEÖn NOTEÖRECITATIVEuÖWHOLE NOTEÖHALF NOTEÖQUARTER NOTE ST",
      "EM DOWNèUPÖEIGHTH NOTE STEM DOWNçUPÖFLAThÏSORIÏKORON"]),
    (0x1D200, ["GREEK VOCAL NOTATIONq-1Ü2Ü3Ü4Ü5Ü6Ü7Ü8Ü9Ü10Ý1Ý2Ý3Ý4Ý5Ý6Ý7Ý8Ý9",
      "Ü20Ý1Ý2Ý3Ý4Ü50Ý1Ý2Ý3Ý4ÆINSTRUMENTAL NOTATIONq-1ã2ã4ã5ã7ã8ã11ä2ä3ä4ä7",
      "ä8ä9ã23ä4ä5ä6ä7ä9ã30ä2ä6ä7ä8ä9ã40ä2ä3ä5ä7ä8ä9ã50ä1ä2ä3ä4ÀCOMBINING GR",
      "EEK MUSICAL TRISEMEÙETRASEMEØPENTASEMEÀGREEK MUSICAL LEIMMA"]),
    (0x1D2E0, ["MAYAN NUMERAL ZEROÎONEÎTWOÏHREEÎFOURÏIVEÎSIXÏEVENÎEIGHTÎNINE",
      "ÎTENÎELEVENÎTWELVEÏHIRTEENÎFOURTEENÏIFTEENÎSIXTEENÏEVENTEENÎEIGHTEEN",
      "ÎNINETEEN"]),
    (0x1D300, ["MONOGRAM FOR EARTHÀDIGRAM FOR HEAVENLY EARTHÌUMAN EARTH",
      "ËEARTHLY HEAVENÔUMANÐÀTETRAGRAM FOR CENTREÎFULL CIRCLEÎMIREDÎBARRIER",
      "ÎKEEPING dÎCONTRARIETYÎASCENTÎOPPOSITIONÎBRANCHING OUTÎDEFECTIVENESS ",
      "OR DISTORTIONÏIVERGENCEÎYOUTHFULNESSÎINCREASEÎPENETRATIONÎREACH",
      "ÎCONTACTÎHOLDING BACKÎWAITINGÎFOLLOWINGÎADVANCEÎRELEASEÐSISTANCEÎEASE",
      "ÎJOYÎCONTENTIONÎENDEAVOURÎDUTIESÎCHANGEÎDECISIVENESSÎBOLD RESOLUTION",
      "ÎPACKINGÎLEGIONÎCLOSENESSÎKINSHIPÎGATHERINGÎSTRENGTHÎPURITYÎFULLNESS",
      "ÎRESIDENCEÎLAW OR MODELÎRESPONSEÎGOING TO MEETÎENCOUNTERSÎSTOVE",
      "ÎGREATNESSÎENLARGEMENTÎPATTERNÎRITUALÎFLIGHTÎVASTNESS OR WASTING",
      "ÎCONSTANCYÎMEASUREÎETERNITYÎUNITYÎDIMINISHMENTÎCLOSED MOUTH",
      "ÎGUARDEDNESSÏATHERING INÎMASSINGÎACCUMULATIONÎEMBELLISHMENTÎDOUBT",
      "ÎWATCHÎSINKINGÎINNERÎDEPARTUREÏARKENINGÏIMMINGÎEXHAUSTIONÎSEVERANCE",
      "ÏTOPPAGEÎHARDNESSÎCOMPLETIONÏLOSUREÎFAILUREÎAGGRAVATIONÎCOMPLIANCE",
      "ÎON THE VERGEÎDIFFICULTIESÎLABOURINGÎFOSTERING"]),
    (0x1D360, ["COUNTING ROD UNIT DIGIT ONEØTWOÙHREEØFOURÙIVEØSIXÙEVENØEIGHT",
      "ØNINEÍTENS DIGIT ONEØTWOÙHREEØFOURÙIVEØSIXÙEVENØEIGHTØNINE",
      "ÀIDEOGRAPHIC TALLYu ONE×TWOØHREE×FOURØIVEÀTALLYu ONEËFIVE"]),
    (0x1D400, ["MATHEMATICAL BOLD c AÚBÚCÚDÚEÚFÚGÚHÚIÚJÚKÚLÚMÚNÚOÚPÚQÚRÚSÚT",
      "ÚUÚVÚWÚXÚYÚZÒd AØBØCØDØEØFØGØHØIØJØKØLØMØNØOØPØQØRØSØTØUØVØWØXØYØZ",
      "ÍITALIC c AÜBÜCÜDÜEÜFÜGÜHÜIÜJÜKÜLÜMÜNÜOÜPÜQÜRÜSÜTÜUÜVÜWÜXÜYÜZÔd AÚBÚC",
      "ÚDÚEÚFÚG"]),
    (0x1D456, ["MATHEMATICAL ITALIC d IÚJÚKÚLÚMÚNÚOÚPÚQÚRÚSÚTÚUÚVÚWÚXÚYÚZ",
      "ÍBOLD ITALIC c AáBáCáDáEáFáGáHáIáJáKáLáMáNáOáPáQáRáSáTáUáVáWáXáYáZ",
      "Ùd AßBßCßDßEßFßGßHßIßJßKßLßMßNßOßPßQßRßSßTßUßVßWßXßYßZÍSCRIPT c A"]),
    (0x1D49E, ["MATHEMATICAL SCRIPT c CÜD"]),
    (0x1D4A2, ["MATHEMATICAL SCRIPT c G"]),
    (0x1D4A5, ["MATHEMATICAL SCRIPT c JÜK"]),
    (0x1D4A9, ["MATHEMATICAL SCRIPT c NÜOÜPÜQ"]),
    (0x1D4AE, ["MATHEMATICAL SCRIPT c SÜTÜUÜVÜWÜXÜYÜZÔd AÚBÚCÚD"]),
    (0x1D4BB, ["MATHEMATICAL SCRIPT d F"]),
    (0x1D4BD, ["MATHEMATICAL SCRIPT d HÚIÚJÚKÚLÚMÚN"]),
    (0x1D4C5, ["MATHEMATICAL SCRIPT d PÚQÚRÚSÚTÚUÚVÚWÚXÚYÚZÍBOLD SCRIPT c A",
      "áBáCáDáEáFáGáHáIáJáKáLáMáNáOáPáQáRáSáTáUáVáWáXáYáZÙd AßBßCßDßEßFßGßH",
      "ßIßJßKßLßMßNßOßPßQßRßSßTßUßVßWßXßYßZÍFRAKTUR c AÝB"]),
    (0x1D507, ["MATHEMATICAL FRAKTUR c DÝEÝFÝG"]),
    (0x1D50D, ["MATHEMATICAL FRAKTUR c JÝKÝLÝMÝNÝOÝPÝQ"]),
    (0x1D516, ["MATHEMATICAL FRAKTUR c SÝTÝUÝVÝWÝXÝY"]),
    (0x1D51E, ["MATHEMATICAL FRAKTUR d AÛBÛCÛDÛEÛFÛGÛHÛIÛJÛKÛLÛMÛNÛOÛPÛQÛRÛS",
      "ÛTÛUÛVÛWÛXÛYÛZÍl-STRUCK c AãB"]),
    (0x1D53B, ["MATHEMATICAL l-STRUCK c DãEãFãG"]),
    (0x1D540, ["MATHEMATICAL l-STRUCK c IãJãKãLãM"]),
    (0x1D546, ["MATHEMATICAL l-STRUCK c O"]),
    (0x1D54A, ["MATHEMATICAL l-STRUCK c SãTãUãVãWãXãY"]),
    (0x1D552, ["MATHEMATICAL l-STRUCK d AáBáCáDáEáFáGáHáIáJáKáLáMáNáOáPáQáR",
      "áSáTáUáVáWáXáYáZÍBOLD FRAKTUR c AâBâCâDâEâFâGâHâIâJâKâLâMâNâOâPâQâRâS",
      "âTâUâVâWâXâYâZÚd AàBàCàDàEàFàGàHàIàJàKàLàMàNàOàPàQàRàSàTàUàVàWàXàYàZ",
      "ÍSANS-SERIF c AàBàCàDàEàFàGàHàIàJàKàLàMàNàOàPàQàRàSàTàUàVàWàXàYàZØd A",
      "ÞBÞCÞDÞEÞFÞGÞHÞIÞJÞKÞLÞMÞNÞOÞPÞQÞRÞSÞTÞUÞVÞWÞXÞYÞZØBOLD c AåBåCåDåEåF",
      "åGåHåIåJåKåLåMåNåOåPåQåRåSåTåUåVåWåXåYåZÝd AãBãCãDãEãFãGãHãIãJãKãLãM",
      "ãNãOãPãQãRãSãTãUãVãWãXãYãZØITALIC c AçBçCçDçEçFçGçHçIçJçKçLçMçNçOçPçQ",
      "çRçSçTçUçVçWçXçYçZßd AåBåCåDåEåFåGåHåIåJåKåLåMåNåOåPåQåRåSåTåUåVåWåX",
      "åYåZØBOLD ITALIC c AìBìCìDìEìFìGìHìIìJìKìLìMìNìOìPìQìRìSìTìUìVìWìXìY",
      "ìZäd AêBêCêDêEêFêGêHêIêJêKêLêMêNêOêPêQêRêSêTêUêVêWêXêYêZÍMONOSPACE c ",
      "AßBßCßDßEßFßGßHßIßJßKßLßMßNßOßPßQßRßSßTßUßVßWßXßYßZ×d AÝBÝCÝDÝEÝFÝGÝH",
      "ÝIÝJÝKÝLÝMÝNÝOÝPÝQÝRÝSÝTÝUÝVÝWÝXÝYÝZÍITALIC d DOTLESS IâJ"]),
    (0x1D6A8, ["MATHEMATICAL BOLD c ALPHAÚBETAÚGAMMAÚDELTAÚEPSILONÚZETAÚETA",
      "ÚTHETAÚIOTAÚKAPPAÚLAMDAÚMUÚNUÚXIÚOMICRONÚPIÚRHOÚTHETAqÚSIGMAÚTAU",
      "ÚUPSILONÚPHIÚCHIÚPSIÚOMEGAÒNABLAÒd ALPHAØBETAØGAMMAØDELTAØEPSILON",
      "ØZETAØETAØTHETAØIOTAØKAPPAØLAMDAØMUØNUØXIØOMICRONØPIØRHOØn SIGMA",
      "ØSIGMAØTAUØUPSILONØPHIØCHIØPSIØOMEGAÒPARTIAL DIFFERENTIALÒEPSILONq",
      "ÒTHETAqÒKAPPAqÒPHIqÒRHOqÒPIqÍITALIC c ALPHAÜBETAÜGAMMAÜDELTAÜEPSILON",
      "ÜZETAÜETAÜTHETAÜIOTAÜKAPPAÜLAMDAÜMUÜNUÜXIÜOMICRONÜPIÜRHOÜTHETAqÜSIGMA",
      "ÜTAUÜUPSILONÜPHIÜCHIÜPSIÜOMEGAÔNABLAÔd ALPHAÚBETAÚGAMMAÚDELTAÚEPSILON",
      "ÚZETAÚETAÚTHETAÚIOTAÚKAPPAÚLAMDAÚMUÚNUÚXIÚOMICRONÚPIÚRHOÚn SIGMA",
      "ÚSIGMAÚTAUÚUPSILONÚPHIÚCHIÚPSIÚOMEGAÔPARTIAL DIFFERENTIALÔEPSILONq",
      "ÔTHETAqÔKAPPAqÔPHIqÔRHOqÔPIqÍBOLD ITALIC c ALPHAáBETAáGAMMAáDELTA",
      "áEPSILONáZETAáETAáTHETAáIOTAáKAPPAáLAMDAáMUáNUáXIáOMICRONáPIáRHO",
      "áTHETAqáSIGMAáTAUáUPSILONáPHIáCHIáPSIáOMEGAÙNABLAÙd ALPHAßBETAßGAMMA",
      "ßDELTAßEPSILONßZETAßETAßTHETAßIOTAßKAPPAßLAMDAßMUßNUßXIßOMICRONßPI",
      "ßRHOßn SIGMAßSIGMAßTAUßUPSILONßPHIßCHIßPSIßOMEGAÙPARTIAL DIFFERENTIAL",
      "ÙEPSILONqÙTHETAqÙKAPPAqÙPHIqÙRHOqÙPIqÍSANS-SERIF BOLD c ALPHAåBETA",
      "åGAMMAåDELTAåEPSILONåZETAåETAåTHETAåIOTAåKAPPAåLAMDAåMUåNUåXIåOMICRON",
      "åPIåRHOåTHETAqåSIGMAåTAUåUPSILONåPHIåCHIåPSIåOMEGAÝNABLAÝd ALPHAãBETA",
      "ãGAMMAãDELTAãEPSILONãZETAãETAãTHETAãIOTAãKAPPAãLAMDAãMUãNUãXIãOMICRON",
      "ãPIãRHOãn SIGMAãSIGMAãTAUãUPSILONãPHIãCHIãPSIãOMEGAÝPARTIAL DIFFERENT",
      "IALÝEPSILONqÝTHETAqÝKAPPAqÝPHIqÝRHOqÝPIqÝITALIC c ALPHAìBETAìGAMMA",
      "ìDELTAìEPSILONìZETAìETAìTHETAìIOTAìKAPPAìLAMDAìMUìNUìXIìOMICRONìPI",
      "ìRHOìTHETAqìSIGMAìTAUìUPSILONìPHIìCHIìPSIìOMEGAäNABLAäd ALPHAêBETA",
      "êGAMMAêDELTAêEPSILONêZETAêETAêTHETAêIOTAêKAPPAêLAMDAêMUêNUêXIêOMICRON",
      "êPIêRHOên SIGMAêSIGMAêTAUêUPSILONêPHIêCHIêPSIêOMEGAäPARTIAL DIFFERENT",
      "IALäEPSILONqäTHETAqäKAPPAqäPHIqäRHOqäPIqÍBOLD c DIGAMMAÒd DIGAMMA"]),
    (0x1D7CE, ["MATHEMATICAL BOLD DIGIT ZEROØONEØTWOÙHREEØFOURÙIVEØSIXÙEVEN",
      "ØEIGHTØNINEÍl-STRUCK DIGIT ZEROáONEáTWOâHREEáFOURâIVEáSIXâEVENáEIGHT",
      "áNINEÍSANS-SERIF DIGIT ZEROÞONEÞTWOßHREEÞFOURßIVEÞSIXßEVENÞEIGHTÞNINE",
      "ØBOLD DIGIT ZEROãONEãTWOäHREEãFOURäIVEãSIXäEVENãEIGHTãNINE",
      "ÍMONOSPACE DIGIT ZEROÝONEÝTWOÞHREEÝFOURÞIVEÝSIXÞEVENÝEIGHTÝNINE",
      "ÀSIGNWRITING HAND-FIST INDEXÑCIRCLE INDEXÒUP INDEXÑOVAL INDEX",
      "ÑHINGE INDEXÑANGLE INDEXÑFIST INDEX BENTÑCIRCLE INDEX BENT",
      "ÑFIST THUMB UNDER INDEX BENTÖINDEX RAISED KNUCKLEÜCUPPEDÜHINGEDâ LOW",
      "ÑCIRCLE INDEX HINGEÑFIST INDEX MIDDLEÑCIRCLE INDEX MIDDLEÑFIST INDEX ",
      "yBENTãRAISED KNUCKLESãHINGEDÜUP yHINGEDÜHINGED yUPÜyCONJOINED",
      "ì INDEX BENTíyBENTíCUPPEDíHINGEDäROSSEDÑCIRCLE INDEX yCROSSED",
      "ÑFIST yBENT OVER INDEXÖINDEX BENT OVER MIDDLEÜyTHUMBÑCIRCLE INDEX yTH",
      "UMBÑFIST INDEX ySTRAIGHT THUMB BENTãBENT THUMB STRAIGHTãTHUMB BENT",
      "ãHINGED SPREAD THUMB SIDEÜUP yHINGED THUMB SIDEóCONJOINEDÜHINGED yUP ",
      "THUMB SIDEÜyUP SPREAD THUMB FORWARDãTHUMB CUPPEDêIRCLEDéHOOKEDêINGED",
      "ÖTHUMB BETWEEN INDEX ySTRAIGHTÖINDEX yCONJOINED THUMB SIDE÷ CONJOINED",
      "øBENTÖyTHUMB HOOKED INDEX UPÖINDEX THUMB HOOKED yUPÜyCONJOINED HINGED",
      " THUMB SIDEäROSSED THUMB SIDEäONJOINED THUMB FORWARDíCUPPED THUMB FOR",
      "WARDÖyTHUMB CUPPED INDEX UPÖINDEX THUMB CUPPED yUPÖyTHUMB CIRCLED IND",
      "EX UPñHINGEDÖINDEX THUMB ANGLED OUT yUPéIN yUPâCIRCLED yUP",
      "ÜyTHUMB CONJOINED HINGEDéANGLED OUTïÖyTHUMB ANGLED OUT INDEX UP",
      "ôCROSSEDêINDEX UPÖINDEX THUMB HOOKED yHINGEDÒLAT FOUR FINGERSâ BENT",
      "ãHINGEDãCONJOINEDì SPLITÑCLAW FOUR FINGERS CONJOINEDÑFIST FOUR FINGER",
      "S CONJOINED BENTÑHINGE FOUR FINGERS CONJOINEDÑFLAT FIVE FINGERS SPREA",
      "DÖHEEL FIVE FINGERS SPREADÖFIVE FINGERS SPREAD FOUR BENTÖHEEL FIVE FI",
      "NGERS SPREAD FOUR BENTÖFIVE FINGERS SPREAD BENTÖHEEL FIVE FINGERS SPR",
      "EAD BENTÖFIVE FINGERS SPREAD THUMB FORWARDÑCUP FIVE FINGERS SPREAD",
      "è OPENÑHINGE FIVE FINGERS SPREAD OPENÑOVAL FIVE FINGERS SPREAD",
      "ÑFLAT FIVE FINGERS SPREAD HINGEDð THUMB SIDEñNO THUMBÕÕ BETWEEN PALM ",
      "FACINGSÖHEELÖTHUMB SIDEÖHEEL THUMB SIDEÖTHUMB BENTÜFORWARD",
      "ÖSPLIT INDEX THUMB SIDEÜCENTREâ THUMB SIDEí BENTÜLITTLEÑCLAW",
      "Õ THUMB SIDEÖNO THUMBÖTHUMB FORWARDÑHOOK CURLICUEÕÑCUP OPENÔ",
      "Ô OPEN THUMB SIDEÕTHUMB SIDEÕOPEN NO THUMBÕNO THUMBÕOPEN THUMB FORWAR",
      "DÕTHUMB FORWARDÓRLICUE OPENÙÒIRCLEÑOVALÕ THUMB SIDEÖNO THUMB",
      "ÖTHUMB FORWARDÑHINGE OPENÛ THUMB FORWARDÖÖ d×OPEN THUMB SIDE",
      "×THUMB SIDE×OPEN NO THUMB×NO THUMB×THUMB SIDE TOUCHING INDEX",
      "ÝBETWEEN yRINGÑANGLEÑFIST INDEX yRINGÑCIRCLE INDEX yRINGÑHINGE INDEX ",
      "yRINGÑANGLE INDEX yRINGÑHINGE LITTLEÑFIST INDEX yRING BENTèCONJOINED",
      "ÑHINGE INDEX yRING CONJOINEDÑFIST LITTLE DOWNá RIPPLE STRAIGHTéCURVED",
      "âOTHERS CIRCLEDÝUPÖTHUMB UNDER LITTLE UPÑCIRCLE LITTLE UPÑOVAL LITTLE",
      " UPÑANGLE LITTLE UPÑFIST LITTLE RAISED KNUCKLEÝBENTÝTOUCHES THUMB",
      "ÞHUMBÑHINGE LITTLE THUMBÑFIST LITTLE INDEX THUMBÑHINGE LITTLE INDEX T",
      "HUMBÑANGLE LITTLE INDEX THUMB INDEX THUMB OUTõÑFIST LITTLE INDEX",
      "ÑCIRCLE LITTLE INDEXÑHINGE LITTLE INDEXÑANGLE LITTLE INDEX",
      "ÑFIST INDEX yLITTLEÑCIRCLE INDEX yLITTLEÑHINGE INDEX yLITTLE×RING",
      "ÑANGLE INDEX yLITTLEÑFIST INDEX yCROSS LITTLEÑCIRCLE INDEX yCROSS LIT",
      "TLEÑFIST RING DOWNÑHINGE RING DOWN INDEX THUMB HOOK MIDDLE",
      "ÑANGLE RING DOWN yTHUMB INDEX CROSSÑFIST RING UPÛRAISED KNUCKLE",
      "ÛLITTLEÑCIRCLE RING LITTLEÑOVAL RING LITTLEÑANGLE RING LITTLE",
      "ÑFIST RING MIDDLEá CONJOINEDâRAISED KNUCKLESÛINDEXÛTHUMBÑHOOK RING TH",
      "UMBÑFIST INDEX RING LITTLEÑCIRCLE INDEX RING LITTLEÒURLICUE INDEX RIN",
      "G LITTLE ONÑHOOK INDEX RING LITTLE OUTèINèUNDERÑCUP INDEX RING LITTLE",
      "ÑHINGE INDEX RING LITTLEÑANGLE INDEX RING LITTLE OUTèÑFIST yDOWN",
      "ÑHINGE MIDDLEÑFIST yUPÑCIRCLE yUPÑFIST yRAISED KNUCKLEÝUP THUMB SIDE",
      "ÑHOOK yTHUMBÑFIST yTHUMB LITTLEÝLITTLEÝRING LITTLEÑCIRCLE yRING LITTL",
      "EÒURLICUE yRING LITTLE ONÓP yRING LITTLEÑHINGE yRING LITTLE",
      "ÑANGLE yRING LITTLE OUTêINéÑCIRCLE yRING LITTLE BENTÒLAW yRING LITTLE",
      " CONJOINEDò SIDEÑHOOK yRING LITTLE CONJOINED OUTóINòÒINGE INDEX HINGE",
      "DÑFIST INDEX THUMB SIDEÑHINGE INDEX THUMB SIDEÑFIST INDEX THUMB SIDE ",
      "THUMB DIAGONALíCONJOINEDíBENTçINDEX BENTçBOTH BENTçINDEX HINGE",
      "âFORWARD INDEX STRAIGHTðBENTâHOOKâCURLICUEåVE THUMB INSIDE",
      "ÑCLAW INDEX THUMB CURVE THUMB INSIDEÑFIST INDEX THUMB CURVE THUMB UND",
      "ERãIRCLEÑCUP INDEX THUMBà OPENÑHINGE INDEX THUMB OPENãLARGEââ d",
      "ÑANGLE INDEX THUMB OUTãINâÑFIST THUMBÛ HEELÜSIDE DIAGONALáCONJOINED",
      "áBENTÜFORWARDÜBETWEEN INDEX MIDDLEäyRINGäRING LITTLEÜUNDER TWO FINGER",
      "SÜOVER TWO FINGERSÜUNDER THREE FINGERSâFOUR FINGERSÜOVER FOUR RAISED ",
      "KNUCKLESÕÕ HEELÌTOUCH SINGLEÒMULTIPLEÒBETWEENÌGRASP SINGLEÒMULTIPLE",
      "ÒBETWEENÌSTRIKE SINGLEÓMULTIPLEÓBETWEENÌBRUSH SINGLEÒMULTIPLEÒBETWEEN",
      "ÌRUB SINGLEÐMULTIPLEÐBETWEENÌSURFACEqSÔBETWEENÍQUEEZE LARGE SINGLE",
      "Ôd SINGLEÔLARGE MULTIPLEÔd MULTIPLEÕEQUENTIALÌFLICK LARGE SINGLE",
      "Òd SINGLEÒLARGE MULTIPLEÒd MULTIPLEÓEQUENTIALÌSQUEEZE FLICK ALTERNATI",
      "NGÌMOVEMENT-HINGE UP DOWN LARGEãdÞSEQUENTIALÛDOWN SEQUENTIAL",
      "ÛUP DOWN ALTERNATING LARGEïdÛSIDE TO SIDE SCISSORSÕWALLPLANE FINGER C",
      "ONTACTÕFLOORPLANE FINGER CONTACTÕWALLPLANE SINGLE STRAIGHT dïMEDIUM",
      "ïLARGEôSTæWRIST FLEXßl STRAIGHTæWRIST FLEXæALTERNATINGñ WRIST FLEX",
      "ßCROSSßTRIPLE STRAIGHT MOVEMENTæWRIST FLEXæALTERNATINGñ WRIST FLEX",
      "ßBEND däMEDIUMäLARGEßCORNER dæMEDIUMæLARGEæROTATIONàHECK dåMEDIUM",
      "åLARGEßBOX dãMEDIUMãLARGEßZIGZAG dæMEDIUMæLARGEßPEAKS dåMEDIUMåLARGE",
      "ÌTRAVEL-WALLPLANE ROTATION-WALLPLANE SINGLEðlðALTERNATINGæFLOORPLANE ",
      "SINGLEñlñALTERNATINGÝSHAKINGÝARM SPIRAL SINGLEèlèTRIPLEÌMOVEMENT-DIAG",
      "ONAL AWAY dãMEDIUMãLARGEèSTÞTOWARDS dæMEDIUMæLARGEëSTÞBETWEEN AWAY d",
      "ëMEDIUMëLARGEðSTæTOWARDS dîMEDIUMîLARGEóSTÕFLOORPLANE SINGLE STRAIGHT",
      " dðMEDIUMðLARGEõSTçWRIST FLEXàl STRAIGHTçWRIST FLEXçALTERNATING",
      "ò WRIST FLEXàCROSSàTRIPLE STRAIGHT MOVEMENTçWRIST FLEXçALTERNATING MO",
      "VEMENTóWRIST FLEXàBENDàCORNER dçMEDIUMçLARGEáHECKàBOX däMEDIUMäLARGE",
      "àZIGZAG dçMEDIUMçLARGEàPEAKS dæMEDIUMæLARGEÌTRAVEL-FLOORPLANE ROTATIO",
      "N-FLOORPLANE SINGLEòlòALTERNATINGçWALLPLANE SINGLEñlñALTERNATING",
      "ÞSHAKINGÌMOVEMENT-WALLPLANE CURVE QUARTER díMEDIUMíLARGEòST",
      "åHALF-CIRCLE dñMEDIUMñLARGEöSTåTHREE-QUARTER CIRCLE dúMEDIUMßHUMP d",
      "äMEDIUMäLARGEßLOOP däMEDIUMäLARGEäd lßWAVE CURVE l dñMEDIUMñLARGE",
      "êTRIPLE dñMEDIUMñLARGEßCURVE THEN STRAIGHTäD CROSS dìMEDIUM",
      "ÌROTATION-WALLPLANE SINGLEßlßALTERNATEÌMOVEMENT-WALLPLANE SHAKING",
      "ßCURVE HITTING FRONT WALLßHUMP HITTING FRONT WALLßLOOP HITTING FRONT ",
      "WALLßWAVE HITTING FRONT WALLÌROTATION-WALLPLANE SINGLE HITTING FRONT ",
      "WALLßl HITTING FRONT WALLßALTERNATING HITTING FRONT WALLÌMOVEMENT-WAL",
      "LPLANE CURVE HITTING CHESTßHUMP HITTING CHESTßLOOP HITTING CHEST",
      "ßWAVE HITTING CHESTÌROTATION-WALLPLANE SINGLE HITTING CHEST",
      "ßl HITTING CHESTßALTERNATING HITTING CHESTÌMOVEMENT-WALLPLANE WAVE DI",
      "AGONAL PATH dòMEDIUMòLARGEÕFLOORPLANE CURVE HITTING CEILING döLARGE",
      "àHUMP HITTING CEILING d lõLARGE lõd TRIPLEõLARGE TRIPLEàLOOP HITTING ",
      "CEILING d SINGLEõLARGE SINGLEõd lõLARGE làWAVE HITTING CEILING d",
      "õLARGEÌROTATION-FLOORPLANE SINGLE HITTING CEILINGàl HITTING CEILING",
      "àALTERNATING HITTING CEILINGÌMOVEMENT-FLOORPLANE CURVE HITTING FLOOR ",
      "dôLARGEàHUMP HITTING FLOOR d lóLARGE lóTRIPLE d TRIPLEúLARGE TRIPLE",
      "àLOOP HITTING FLOOR d SINGLEóLARGE SINGLEód lóLARGE làWAVE HITTING FL",
      "OOR dóLARGEÌROTATION-FLOORPLANE SINGLE HITTING FLOORàl HITTING FLOOR",
      "àALTERNATING HITTING FLOORÌMOVEMENT-FLOORPLANE CURVE dæMEDIUMæLARGE",
      "ëSTæCOMBINEDàHUMP dàLOOP dàWAVE SNAKEæMALLåLARGEÌROTATION-FLOORPLANE ",
      "SINGLEàlàALTERNATINGÌMOVEMENT-FLOORPLANE SHAKING PARALLELÕWALLPLANE A",
      "RM CIRCLE d SINGLEêMEDIUM SINGLEêd lêMEDIUM lÕFLOORPLANE ARM CIRCLE H",
      "ITTING WALL d SINGLEøMEDIUM SINGLEøLARGE SINGLEød løMEDIUM løLARGE l",
      "ÕWALLPLANE WRIST CIRCLE FRONT SINGLEòlÕFLOORPLANE WRIST CIRCLE HITTIN",
      "G WALL SINGLEúlÕWALLPLANE FINGER CIRCLES SINGLEîlÕFLOORPLANE FINGER C",
      "IRCLES HITTING WALL SINGLEülÌDYNAMICfHEAD dÞLARGEÔFASTÔSLOWÔTENSE",
      "ÔRELAXEDÔSIMULTANEOUSà ALTERNATINGÔEVERY OTHER TIMEÔGRADUALÌHEADÐ RIM",
      "ÑMOVEMENT-WALLPLANE STRAIGHTäTILTÚFLOORPLANE STRAIGHTÚWALLPLANE CURVE",
      "ÚFLOORPLANE CURVEÙ CIRCLEÌFACE DIRECTION POSITION NOSE FORWARD TILTIN",
      "GéUP OR DOWNó TILTINGÌEYEBROWS STRAIGHT UPÞNEUTRALÞDOWNÌDREAMY EYEBRO",
      "WS NEUTRAL DOWNÜDOWN NEUTRALÜUP NEUTRALÜNEUTRAL UPÌFOREHEAD NEUTRAL",
      "ÕCONTACTÕWRINKLEDÌEYES OPENÑSQUEEZEDÑCLOSEDÏ BLINK SINGLEÖMULTIPLE",
      "ÏS HALF OPENÑWIDE OPENÑHALF CLOSEDÑWIDENING MOVEMENTÏ WINKÏLASHES UP",
      "ÖDOWNÖFLUTTERINGÏGAZE-WALLPLANE STRAIGHTæ lçALTERNATINGÔFLOORPLANE ST",
      "RAIGHTç lèALTERNATINGÔWALLPLANE CURVEDÔFLOORPLANE CURVEDÔWALLPLANE CI",
      "RCLINGÌCHEEKS PUFFEDÓNEUTRALÓSUCKEDÌTENSE CHEEKS HIGHÙMIDDLEÙLOWÌEARS",
      "ÌNOSE NEUTRALÑCONTACTÑWRINKLESÒIGGLESÌAIR BLOWING OUTÐSUCKING IN",
      "ÐBLOW d ROTATIONSÐSUCK d ROTATIONSÌBREATH INHALEÓEXHALEÌMOUTH CLOSED ",
      "NEUTRALÙFORWARDÙCONTACTÒSMILE× WRINKLEDØOPENÒFROWN× WRINKLEDØOPEN",
      "ÒOPEN CIRCLE×FORWARD×WRINKLED×OVALÛ WRINKLEDÜYAWN×RECTANGLEà WRINKLED",
      "áYAWNÒKISSÖ FORWARD×WRINKLEDÒTENSE× FORWARDØSUCKEDÌLIPS PRESSED TOGET",
      "HERÏ LOWER OVER UPPERÐUPPER OVER LOWERÌMOUTH CORNERSÒWRINKLES SINGLE",
      "ÛlÌTONGUE STICKING OUT FARÓLICKING LIPSÓTIP BETWEEN LIPS×TOUCHING INS",
      "IDE MOUTHÓINSIDE MOUTH RELAXEDÓMOVES AGAINST CHEEKÓCENTRE STICKING OU",
      "TÚINSIDE MOUTHÍEETHÑ MOVEMENTÒON TONGUEÛ MOVEMENTÕLIPSÙ MOVEMENT",
      "ÒBITE LIPSÌMOVEMENT-WALLPLANE JAWÕFLOORPLANE JAWÌNECKÌHAIRÌEXCITEMENT",
      "ÌSHOULDER HIP SPINEÙPOSITIONSÌWALLPLANE SHOULDER HIP MOVEÌFLOORPLANE ",
      "SHOULDER HIP MOVEÌSHOULDER TILTING FROM WAISTÌTORSO-WALLPLANE STRAIGH",
      "T STRETCHÜCURVED BENDÒFLOORPLANE TWISTINGÌUPPER BODY TILTING FROM HIP",
      " JOINTSÌLIMB COMBINATIONÑLENGTH-1Ø2Ø3Ø4Ø5Ø6Ø7ÌFINGERÌLOCATION-WALLPLA",
      "NE SPACEÕFLOORPLANE SPACEÔ HEIGHTÕWIDTHÕDEPTHÕHEAD NECKÕTORSO",
      "ÕLIMBS DIGITSÌCOMMAÌFULL STOPÌSEMICOLONÌCOLONÌPARENTHESIS"]),
    (0x1DA9B, ["SIGNWRITING FILL MODIFIER-2Ú3Ú4Ú5Ú6"]),
    (0x1DAA1, ["SIGNWRITING ROTATION MODIFIER-2Þ3Þ4Þ5Þ6Þ7Þ8Þ9Þ10ß1ß2ß3ß4ß5ß6"]),
    (0x1DF00, ["LATIN daFENG DIGRAPHbTRILLÓREVERSED SCRIPT GÆLETTER d c TURN",
      "ED GÆdaREVERSED KÆLETTER d c LbBELTÆdaLEZHbRETROFLEX HOOKÓTURNED YbBE",
      "LTÓREVERSED ENGÓTURNED RbLONG LEGgRETROFLEX HOOKÔbHOOKgRETROFLEX HOOK",
      "ÆLETTER RETROFLEX CLICKbRETROFLEX HOOKÆdaESHbl BARægCURLÓTURNED TbCUR",
      "LÆLETTER INVERTED GLOTTAL STOPbCURLÍSTRETCHED CbCURLÎMALL c TURNED K",
      "ÆdaLbFISHHOOKÓDEZH DIGRAPHbPALATAL HOOKÓLbBELTgPALATAL HOOK",
      "ÓENGbPALATAL HOOKÓTURNED RbPALATAL HOOKÓRbFISHHOOKgPALATAL HOOK",
      "ÓTESH DIGRAPHbPALATAL HOOKÓEZHbPALATAL HOOKÓDEZH DIGRAPHbRETROFLEX HO",
      "OKÓIbvgRETROFLEX HOOKÓObRETROFLEX HOOKÓTESH DIGRAPHbRETROFLEX HOOK",
      "ÓCbRETROFLEX HOOKÓSbCURL"]),
    (0x1E000, ["COMBINING GLAGOLITICaAZUÜBUKYÜVEDEÜGLAGOLIÜDOBROÜYESTU",
      "ÜZHIVETE"]),
    (0x1E008, ["COMBINING GLAGOLITICaZEMLJAÜIZHEÝNITIAL IZHEÝÜDJERVIÜKAKO",
      "ÜLJUDIJEÜMYSLITEÜNASHIÜONUÜPOKOJIÜRITSIÜSLOVOÜTVRIDOÜUKUÜFRITUÜHERU"]),
    (0x1E01B, ["COMBINING GLAGOLITICaSHTAÜTSIÜCHRIVIÜSHAÜYERUßIÝATI"]),
    (0x1E023, ["COMBINING GLAGOLITICaYUÜd YUS"]),
    (0x1E026, ["COMBINING GLAGOLITICaYOÜIOTATED d YUSÜBIG YUSÜIOTATED BIG YU",
      "SÜFITA"]),
    (0x1E100, ["NYIAKENG PUACHUE HMONGaMAÞTSAÞNTAÞTAÞHAÞNAÞXAÞNKAÞCAÞLAÞSA",
      "ÞZAÞNCAßTSAÞKAÞDAÞNYAßRAÞVAÞNTXAÞTXAÞFAÞRAÞQAÞYAÞNQAÞPAÞXYAÞNPAÞDLA",
      "ÞNPLAÞHAHÞMLAÞPLAÞGAÞRRAÞAßAÞIÞUÞOßOÞEßEÞW"]),
    (0x1E130, ["NYIAKENG PUACHUE HMONG TONE-BÜMÜJÜVÜSÜGÜD×SIGN FOR PERSON",
      "àTHINGàLOCATIONàANIMALàINVERTEBRATEÜXW XWØYLLABLE LENGTHENER"]),
    (0x1E140, ["NYIAKENG PUACHUE HMONG DIGIT ZEROÝONEÝTWOÞHREEÝFOURÞIVEÝSIX",
      "ÞEVENÝEIGHTÝNINE"]),
    (0x1E14E, ["NYIAKENG PUACHUE HMONG LOGOGRAM NYAJ×CIRCLED CA"]),
    (0x1E290, ["TOTOaPAÌBAÌTAÌDAÌKAÌGAÌMAÌNAÍGAÌSAÌCHAÌYAÌWAÌJAÌHAÌRAÌLAÌI",
      "ÌBREATHY IÌIUÌBREATHY IUÌUÌEÌBREATHY EÌEOÌBREATHY EOÌOÌAEÌBREATHY AE",
      "ÌAÅSIGN RISING TONE"]),
    (0x1E2C0, ["WANCHOaAAÏÎBAÎCAÎDAÎGAÎYAÎPHAÎLAÎNAÎPAÎTAÏHAÎFAÎSAÏHAÎJAÎZA",
      "ÎWAÎVAÎKAÎOÎAUÎRAÎMAÎKHAÎHAÎEÎIÎNGAÎUÎLLHAÎTSAÏRAÎONGÎAANGÏNGÎINGÎON",
      "ÎENÎAANÎNYAÎUENÎYIHÇTONE TUPÏNIÌKOIÏNIÇDIGIT ZEROÍONEÍTWOÎHREEÍFOUR",
      "ÎIVEÍSIXÎEVENÍEIGHTÍNINE"]), (0x1E2FF, ["WANCHO NGUNh"]),
    (0x1E7E0, ["ETHIOPIC SYLLABLE HHYAÕUÕIÕAAÕEEÖÕO"]),
    (0x1E7E8, ["ETHIOPIC SYLLABLE GURAGE HHWAÒHHWIÕEEÖ"]),
    (0x1E7ED, ["ETHIOPIC SYLLABLE GURAGE MWIÛEE"]),
    (0x1E7F0, ["ETHIOPIC SYLLABLE GURAGE QWIÛEEÜÙBWIÛEEÙKWIÛEEÜÙGWIÛEEÜÙFWI",
      "ÛEEÙPWIÛEE"]),
    (0x1E800, ["MENDE KIKAKUI SYLLABLE M001 KIÚ2 KAÚ3 KUÙ65 KEEÙ95 KEÙ76 KOO",
      "Ù48 KOØ179 KUAØ004 WIÚ5 WAÚ6 WUØ126 WEEÙ18 WEÚ4 WOOØ045 WOØ194 WUI",
      "Ù43 WEIØ061 WVIÙ49 WVAØ139 WVEØ007 MINÚ8 MANÚ9 MUNÙ59 MENÙ94 MON",
      "Ø154 MUANÙ89 MUENØ010 BIÚ1 BAÚ2 BUØ150 BEEØ097 BEØ103 BOOÙ38 BOØ013 I",
      "Ú4 AÚ5 UØ163 EEÙ00 EÙ65 OOÙ47 OÙ37 EIÚ1 INÚ5 INÙ95 ANÙ78 ENØ019 SI",
      "Ù20 SAÚ1 SUØ162 SEEÙ16 SEÙ36 SOOØ079 SOØ196 SIAØ025 LIÚ6 LAÚ7 LU",
      "Ù84 LEEÙ73 LEÙ54 LOOØ153 LOÙ10 LONG LEØ016 DIÚ7 DAÚ8 DUÙ89 DEE",
      "Ø180 DOOÚ1 DOØ022 TIÚ3 TAÚ4 TUÙ91 TEEÙ55 TEØ104 TOOØ069 TOÙ28 JIÚ9 JA",
      "Ù30 JUØ157 JEEÙ13 JEÙ60 JOOØ063 JOØ175 LONG JOØ031 YIÚ2 YAÚ3 YU",
      "Ø109 YEEØ080 YEØ141 YOOÙ21 YOØ034 FIÚ5 FAÚ6 FUÙ78 FEEÚ5 FEØ133 FOO",
      "Ø088 FOØ197 FUAÙ01 FANØ037 NINÚ8 NANÚ9 NUNØ117 NENÙ69 NONÙ76 HI",
      "Ø041 HAØ186 HUØ040 HEEÙ96 HEÙ42 HOOØ140 HOØ083 HEEIØ128 HOOUØ053 HIN",
      "Ø130 HANØ087 HUNÙ52 HENØ193 HONØ046 HUANÙ90 NGGIÙ43 NGGAÙ82 NGGU",
      "Ø115 NGGEEÙ46 NGGEÙ56 NGGOOÙ20 NGGOÙ59 NGGAAÙ27 NGGUAØ086 LONG NGGE",
      "Ø106 LONG NGGOOÙ83 LONG NGGOÙ55 GIÙ11 GAÙ68 GUÙ90 GEEÙ66 GUEIÚ7 GUAN",
      "Ù84 NGENØ057 NGONØ177 NGUANØ068 PIÙ99 PAÙ50 PUÙ81 PEEÙ51 PEØ102 POO",
      "Ø066 POØ145 MBIØ062 MBAØ122 MBUØ047 MBEEØ188 MBEEØ072 MBEØ172 MBOO",
      "Ú4 MBOÙ87 MBUUÙ61 LONG MBEÙ05 LONG MBOOÙ42 LONG MBOÙ32 KPIØ092 KPA",
      "Ù74 KPUÙ44 KPEEØ108 KPEÙ12 KPOOÙ58 KPOÙ24 GBIØ056 GBAØ148 GBU",
      "Ø093 GBEEØ107 GBEØ071 GBOOÚ0 GBOØ171 RAÙ23 NDIÚ9 NDAÚ5 NDUÙ91 NDEE",
      "Ù19 NDEØ067 NDOOÚ4 NDOØ152 NJAÙ92 NJUÙ49 NJEEÙ34 NJOOÙ82 VIÚ5 VA",
      "Ù51 VUÙ73 VEEØ085 VEØ144 VOOØ077 VOØ164 NYINØ058 NYANØ170 NYUN",
      "Ø098 NYENÙ60 NYON"]),
    (0x1E8C7, ["MENDE KIKAKUI DIGIT ONEÔTWOÕHREEÔFOURÕIVEÔSIXÕEVENÔEIGHT",
      "ÔNINEÎCOMBINING NUMBER TEENSáNSßHUNDREDSßTHOUSANDSàEN THOUSANDS",
      "ßHUNDRED THOUSANDSßMILLIONS"]),
    (0x1E900, ["ADLAM caALIFÕDAALIÕLAAMÕMIIMÕBAÕSINNYIIYHEÕPEÕBHEÕRAÕEÕFAÕI",
      "ÕOÕDHAÕYHEÕWAWÕNUNÕKAFÕYAÕUÕJIIMÕCHIÕHAÕQAAFÕGAÕNYAÕTUÕNHAÕVAÕKHAÕGBE",
      "ÕZALÕKPOÕSHAÆdaALIFÓDAALIÓLAAMÓMIIMÓBAÓSINNYIIYHEÓPEÓBHEÓRAÓEÓFAÓIÓO",
      "ÓDHAÓYHEÓWAWÓNUNÓKAFÓYAÓUÓJIIMÓCHIÓHAÓQAAFÓGAÓNYAÓTUÓNHAÓVAÓKHAÓGBE",
      "ÓZALÓKPOÓSHAÆALIF LENGTHENERÆVOWEL LENGTHENERÆGEMINATIONuÆHAMZA",
      "ÆCONSONANT MODIFIERÆGEMINATE CONSONANT MODIFIERÆNUKTAÇASALIZATIONu"]),
    (0x1E950, ["ADLAM DIGIT ZEROÌONEÌTWOÍHREEÌFOURÍIVEÌSIXÍEVENÌEIGHTÌNINE"]),
    (0x1E95E, ["ADLAM r EXCLAMATIONuÎQUESTIONu"]),
    (0x1EC71, ["INDIC SIYAQ NUMBER ONEÓTWOÔHREEÓFOURÔIVEÓSIXÔEVENÓEIGHTÓNINE",
      "ÓTENÔWENTYÔHIRTYÓFORTYÔIFTYÓSIXTYÔEVENTYÓEIGHTYÓNINETYÓONEzÓTWOz",
      "ÔHREEzÓFOURzÔIVEzÓSIXzÔEVENzÓEIGHTzÓNINEzÓONE THOUSANDÓTWO THOUSAND",
      "ÔHREE THOUSANDÓFOUR THOUSANDÔIVE THOUSANDÓSIX THOUSANDÔEVEN THOUSAND",
      "ÓEIGHT THOUSANDÓNINE THOUSANDÓTEN THOUSANDÔWENTY THOUSANDÔHIRTY THOUS",
      "ANDÓFORTY THOUSANDÔIFTY THOUSANDÓSIXTY THOUSANDÔEVENTY THOUSAND",
      "ÓEIGHTY THOUSANDÓNINETY THOUSANDÓLAKH×ANÌLAKHuÌNUMBER KARORØAN",
      "ÓPREFIXED ONEÜTWOÝHREEÜFOURÝIVEÜSIXÝEVENÜEIGHTÜNINEÌPLACEHOLDER",
      "ÌFRACTION ONE QUARTERÙHALFÕTHREE QUARTERSÌRUPEEuÌNUMBER ALTERNATE ONE",
      "ÝTWOÞEN THOUSANDÌALTERNATE LAKHu"]),
    (0x1ED01, ["OTTOMAN SIYAQ NUMBER ONEÕTWOÖHREEÕFOURÖIVEÕSIXÖEVENÕEIGHT",
      "ÕNINEÕTENÖWENTYÖHIRTYÕFORTYÖIFTYÕSIXTYÖEVENTYÕEIGHTYÕNINETYÕONEzÕTWOz",
      "ÖHREEzÕFOURzÖIVEzÕSIXzÖEVENzÕEIGHTzÕNINEzÕONE THOUSANDÕTWO THOUSAND",
      "ÖHREE THOUSANDÕFOUR THOUSANDÖIVE THOUSANDÕSIX THOUSANDÖEVEN THOUSAND",
      "ÕEIGHT THOUSANDÕNINE THOUSANDÕTEN THOUSANDÖWENTY THOUSANDÖHIRTY THOUS",
      "ANDÕFORTY THOUSANDÖIFTY THOUSANDÕSIXTY THOUSANDÖEVENTY THOUSAND",
      "ÕEIGHTY THOUSANDÕNINETY THOUSANDÎMARRATANÎALTERNATE NUMBER TWOàHREE",
      "ßFOURàIVEßSIXàEVENßEIGHTßNINEßTENßFOURzßSIXzßTWO THOUSANDàEN THOUSAND",
      "ÎFRACTION ONE HALFÛSIXTH"]),
    (0x1EE00, ["ARABIC MATHEMATICAL ALEFÔBEHÔJEEMÔDAL"]),
    (0x1EE05, ["ARABIC MATHEMATICAL WAWÔZAINÔHAHÔTAHÔYEHÔKAFÔLAMÔMEEMÔNOON",
      "ÔSEENÔAINÔFEHÔSADÔQAFÔREHÔSHEENÔTEHÕHEHÔKHAHÔTHALÔDADÔZAHÔGHAIN",
      "ÔDOTLESS BEHÜNOONÜFEHÜQAF"]),
    (0x1EE21, ["ARABIC MATHEMATICAL r BEHÜJEEM"]),
    (0x1EE24, ["ARABIC MATHEMATICAL r HEH"]),
    (0x1EE27, ["ARABIC MATHEMATICAL r HAH"]),
    (0x1EE29, ["ARABIC MATHEMATICAL r YEHÜKAFÜLAMÜMEEMÜNOONÜSEENÜAINÜFEHÜSAD",
      "ÜQAF"]), (0x1EE34, ["ARABIC MATHEMATICAL r SHEENÜTEHÝHEHÜKHAH"]),
    (0x1EE39, ["ARABIC MATHEMATICAL r DAD"]),
    (0x1EE3B, ["ARABIC MATHEMATICAL r GHAIN"]),
    (0x1EE42, ["ARABIC MATHEMATICAL TAILED JEEM"]),
    (0x1EE47, ["ARABIC MATHEMATICAL TAILED HAH"]),
    (0x1EE49, ["ARABIC MATHEMATICAL TAILED YEH"]),
    (0x1EE4B, ["ARABIC MATHEMATICAL TAILED LAM"]),
    (0x1EE4D, ["ARABIC MATHEMATICAL TAILED NOONÛSEENÛAIN"]),
    (0x1EE51, ["ARABIC MATHEMATICAL TAILED SADÛQAF"]),
    (0x1EE54, ["ARABIC MATHEMATICAL TAILED SHEEN"]),
    (0x1EE57, ["ARABIC MATHEMATICAL TAILED KHAH"]),
    (0x1EE59, ["ARABIC MATHEMATICAL TAILED DAD"]),
    (0x1EE5B, ["ARABIC MATHEMATICAL TAILED GHAIN"]),
    (0x1EE5D, ["ARABIC MATHEMATICAL TAILED DOTLESS NOON"]),
    (0x1EE5F, ["ARABIC MATHEMATICAL TAILED DOTLESS QAF"]),
    (0x1EE61, ["ARABIC MATHEMATICAL STRETCHED BEHÞJEEM"]),
    (0x1EE64, ["ARABIC MATHEMATICAL STRETCHED HEH"]),
    (0x1EE67, ["ARABIC MATHEMATICAL STRETCHED HAHÞTAHÞYEHÞKAF"]),
    (0x1EE6C, ["ARABIC MATHEMATICAL STRETCHED MEEMÞNOONÞSEENÞAINÞFEHÞSADÞQAF"]),
    (0x1EE74, ["ARABIC MATHEMATICAL STRETCHED SHEENÞTEHßHEHÞKHAH"]),
    (0x1EE79, ["ARABIC MATHEMATICAL STRETCHED DADÞZAHÞGHAINÞDOTLESS BEH"]),
    (0x1EE7E, ["ARABIC MATHEMATICAL STRETCHED DOTLESS FEH"]),
    (0x1EE80, ["ARABIC MATHEMATICAL LOOPED ALEFÛBEHÛJEEMÛDALÛHEHÛWAWÛZAIN",
      "ÛHAHÛTAHÛYEH"]),
    (0x1EE8B, ["ARABIC MATHEMATICAL LOOPED LAMÛMEEMÛNOONÛSEENÛAINÛFEHÛSAD",
      "ÛQAFÛREHÛSHEENÛTEHÜHEHÛKHAHÛTHALÛDADÛZAHÛGHAIN"]),
    (0x1EEA1, ["ARABIC MATHEMATICAL l-STRUCK BEHâJEEMâDAL"]),
    (0x1EEA5, ["ARABIC MATHEMATICAL l-STRUCK WAWâZAINâHAHâTAHâYEH"]),
    (0x1EEAB, ["ARABIC MATHEMATICAL l-STRUCK LAMâMEEMâNOONâSEENâAINâFEHâSAD",
      "âQAFâREHâSHEENâTEHãHEHâKHAHâTHALâDADâZAHâGHAIN"]),
    (0x1EEF0, ["ARABIC MATHEMATICAL OPERATOR MEEMbHAHbTATWEELÝHAHbDAL"]),
    (0x1F000, ["MAHJONG TILE EAST WINDÍSOUTH WINDÍWEST WINDÍNORTH WIND",
      "ÍRED DRAGONÍGREEN DRAGONÍWHITE DRAGONÍONE OF CHARACTERSÍTWO OF CHARAC",
      "TERSÎHREE OF CHARACTERSÍFOUR OF CHARACTERSÎIVE OF CHARACTERS",
      "ÍSIX OF CHARACTERSÎEVEN OF CHARACTERSÍEIGHT OF CHARACTERSÍNINE OF CHA",
      "RACTERSÍONE OF BAMBOOSÍTWO OF BAMBOOSÎHREE OF BAMBOOSÍFOUR OF BAMBOOS",
      "ÎIVE OF BAMBOOSÍSIX OF BAMBOOSÎEVEN OF BAMBOOSÍEIGHT OF BAMBOOS",
      "ÍNINE OF BAMBOOSÍONE OF CIRCLESÍTWO OF CIRCLESÎHREE OF CIRCLES",
      "ÍFOUR OF CIRCLESÎIVE OF CIRCLESÍSIX OF CIRCLESÎEVEN OF CIRCLES",
      "ÍEIGHT OF CIRCLESÍNINE OF CIRCLESÍPLUMÍORCHIDÍBAMBOOÍCHRYSANTHEMUM",
      "ÍSPRINGÎUMMERÍAUTUMNÍWINTERÍJOKERÍBACK"]),
    (0x1F030, ["DOMINO TILE w BACKÖ-00-00Û1Û2Û3Û4Û5Û6Ø1-00Û1Û2Û3Û4Û5Û6Ø2-00",
      "Û1Û2Û3Û4Û5Û6Ø3-00Û1Û2Û3Û4Û5Û6Ø4-00Û1Û2Û3Û4Û5Û6Ø5-00Û1Û2Û3Û4Û5Û6Ø6-00",
      "Û1Û2Û3Û4Û5Û6Ìp BACKÔ-00-00Ù1Ù2Ù3Ù4Ù5Ù6Ö1-00Ù1Ù2Ù3Ù4Ù5Ù6Ö2-00Ù1Ù2Ù3Ù4",
      "Ù5Ù6Ö3-00Ù1Ù2Ù3Ù4Ù5Ù6Ö4-00Ù1Ù2Ù3Ù4Ù5Ù6Ö5-00Ù1Ù2Ù3Ù4Ù5Ù6Ö6-00Ù1Ù2Ù3Ù4",
      "Ù5Ù6"]),
    (0x1F0A0, ["PLAYING CARD BACKÍACE OF SPADESÍTWO OF SPADESÎHREE OF SPADES",
      "ÍFOUR OF SPADESÎIVE OF SPADESÍSIX OF SPADESÎEVEN OF SPADES",
      "ÍEIGHT OF SPADESÍNINE OF SPADESÍTEN OF SPADESÍJACK OF SPADES",
      "ÍKNIGHT OF SPADESÍQUEEN OF SPADESÍKING OF SPADES"]),
    (0x1F0B1, ["PLAYING CARD ACE OF HEARTSÍTWO OF HEARTSÎHREE OF HEARTS",
      "ÍFOUR OF HEARTSÎIVE OF HEARTSÍSIX OF HEARTSÎEVEN OF HEARTS",
      "ÍEIGHT OF HEARTSÍNINE OF HEARTSÍTEN OF HEARTSÍJACK OF HEARTS",
      "ÍKNIGHT OF HEARTSÍQUEEN OF HEARTSÍKING OF HEARTSÍRED JOKER"]),
    (0x1F0C1, ["PLAYING CARD ACE OF DIAMONDSÍTWO OF DIAMONDSÎHREE OF DIAMOND",
      "SÍFOUR OF DIAMONDSÎIVE OF DIAMONDSÍSIX OF DIAMONDSÎEVEN OF DIAMONDS",
      "ÍEIGHT OF DIAMONDSÍNINE OF DIAMONDSÍTEN OF DIAMONDSÍJACK OF DIAMONDS",
      "ÍKNIGHT OF DIAMONDSÍQUEEN OF DIAMONDSÍKING OF DIAMONDSÍx JOKER"]),
    (0x1F0D1, ["PLAYING CARD ACE OF CLUBSÍTWO OF CLUBSÎHREE OF CLUBS",
      "ÍFOUR OF CLUBSÎIVE OF CLUBSÍSIX OF CLUBSÎEVEN OF CLUBSÍEIGHT OF CLUBS",
      "ÍNINE OF CLUBSÍTEN OF CLUBSÍJACK OF CLUBSÍKNIGHT OF CLUBSÍQUEEN OF CL",
      "UBSÍKING OF CLUBSÍWHITE JOKERÍFOOLÍTRUMP-1Ó2Ó3Ó4Ó5Ó6Ó7Ó8Ó9Ó10Ô1Ô2Ô3Ô4",
      "Ô5Ô6Ô7Ô8Ô9Ó20Ô1"]),
    (0x1F100, ["DIGIT ZERO FULL STOPËCOMMAÆONE COMMAÆTWO COMMAÇHREE COMMA",
      "ÆFOUR COMMAÇIVE COMMAÆSIX COMMAÇEVEN COMMAÆEIGHT COMMAÆNINE COMMA",
      "ÂNGBAT CIRCLED SANS-SERIF DIGIT ZEROÈNEGATIVE CIRCLED SANS-SERIF DIGI",
      "T ZEROÀCIRCLED ZERObSLASHÈANTICLOCKWISEfÈDOLLARhbOVERLAID BACKSLASH",
      "ÀPARENTHESIZED LATIN caAãBãCãDãEãFãGãHãIãJãKãLãMãNãOãPãQãRãSãTãUãVãW",
      "ãXãYãZÀTORTOISE SHELL BRACKETED LATIN caSÀCIRCLED ITALIC LATIN caCäR",
      "ÈCDÈWZÁOPYoSYMBOLÀSQUARED LATIN caAÝBÝCÝDÝEÝFÝGÝHÝIÝJÝKÝLÝMÝNÝOÝPÝQÝR",
      "ÝSÝTÝUÝVÝWÝXÝYÝZÈHVÈMVÈSDÉSÈPPVÈWCÀNEGATIVE CIRCLED LATIN caAæBæCæDæE",
      "æFæGæHæIæJæKæLæMæNæOæPæQæRæSæTæUæVæWæXæYæZÀRAISED MChÈDhÈRh",
      "ÀCIRCLED CCÉbOVERLAID BACKSLASHÈHUMAN FIGUREÀNEGATIVE SQUARED LATIN c",
      "aAæBæCæDæEæFæGæHæIæJæKæLæMæNæOæPæQæRæSæTæUæVæWæXæYæZÀCROSSED NEGATIVE",
      " SQUARED LATIN caPÀNEGATIVE SQUARED ICÑPAÑSAÑABÑWCÀSQUARE DJÆD CLÉOOL",
      "ÈFREEÈIDÈNEWÉGÈOKÈSOSÈUPbEXCLAMATIONuÈVSÈTHREE DÈSECOND SCREENÈTWO K",
      "ÈFOUR KÈEIGHT KÈFIVE POINT ONEÈSEVEN POINT ONEÈTWENTY-TWO POINT TWO",
      "ÈSIXTY PÈONEz TWENTY PÈLATIN daDÈHCÉDRÉI-RESÈLOSSLESSÈSHVÈUHDÈVOD",
      "ÀMASK WORKq"]),
    (0x1F1E6, ["REGIONAL INDICATORqaAáBáCáDáEáFáGáHáIáJáKáLáMáNáOáPáQáRáSáT",
      "áUáVáWáXáYáZÀSQUARE HIRAGANA HOKAÆD KATAKANA KOKOÑSA"]),
    (0x1F210, ["SQUARED CJK UNIFIED IDEOGRAPH-624BÞ5B57ß3CCÈKATAKANA DE",
      "ÈCJK UNIFIED IDEOGRAPH-4E8CÞ591AÞ89E3Þ5929Þ4EA4Þ6620Þ7121Þ6599Þ524D",
      "ßF8Cß18DÞ65B0Þ521DÞ7D42ß51FÞ8CA9Þ58F0ß439Þ6F14ß295ß355Þ4E00á9Þ904A",
      "Þ5DE6Þ4E2DÞ53F3Þ6307Þ8D70Þ6253Þ7981ßA7AÞ5408Þ6E80ß709á8Þ7533Þ5272ß5B6",
      "Þ914D"]),
    (0x1F240, ["TORTOISE SHELL BRACKETED CJK UNIFIED IDEOGRAPH-672Cï4E09ñ8C",
      "ï5B89ï70B9ï6253ï76D7ï52DDï6557"]),
    (0x1F250, ["CIRCLED IDEOGRAPH ADVANTAGEÓCCEPT"]),
    (0x1F260, ["ROUNDEDq FOR FUÓLUÓSHOUÓXIÓSHUANGXIÓCAI"]),
    (0x1F300, ["CYCLONEÀFOGGYÀCLOSED UMBRELLAÀNIGHTbSTARSÀSUNRISE OVER MOUNT",
      "AINSÇÀCITYSCAPE AT DUSKÀSUNSET OVER BUILDINGSÀRAINBOWÀBRIDGE AT NIGHT",
      "ÀWATER WAVEÀVOLCANOÀMILKY WAYÀEARTH GLOBE EUROPE-AFRICAÌAMERICAS",
      "ÍSIA-AUSTRALIAÀGLOBEbMERIDIANSÀNEW MOONqÀWAXING CRESCENT MOONq",
      "ÀFIRST QUARTER MOONqÀWAXING GIBBOUS MOONqÀFULL MOONqÀWANING GIBBOUS M",
      "OONqÀLAST QUARTER MOONqÀWANING CRESCENT MOONqÀCRESCENT MOON",
      "ÀNEW MOONbFACEÀFIRST QUARTER MOONbFACEÀLAST QUARTER MOONbFACE",
      "ÀFULL MOONbFACEÀSUNbFACEÀGLOWING STARÀSHOOTING STARÀTHERMOMETER",
      "Àx DROPLETÀWHITE SUNÉbd CLOUDÊBEHIND CLOUDÖbRAINÀCLOUDbRAINËSNOW",
      "ËLIGHTNINGËTORNADOÀFOGÀWIND BLOWING FACEÀHOT DOGÀTACOÀBURRITO",
      "ÀCHESTNUTÀSEEDLINGÀEVERGREEN TREEÀDECIDUOUS TREEÀPALM TREEÀCACTUS",
      "ÀHOT PEPPERÀTULIPÀCHERRY BLOSSOMÀROSEÀHIBISCUSÀSUNFLOWERÀBLOSSOM",
      "ÀEAR OF MAIZEÇRICEÀHERBÀFOUR LEAF CLOVERÀMAPLE LEAFÀFALLEN LEAF",
      "ÀLEAF FLUTTERING IN WINDÀMUSHROOMÀTOMATOÀAUBERGINEÀGRAPESÀMELON",
      "ÀWATERMELONÀTANGERINEÀLEMONÀBANANAÀPINEAPPLEÀRED APPLEÀGREEN APPLE",
      "ÀPEARÃCHÀCHERRIESÀSTRAWBERRYÀHAMBURGERÀSLICE OF PIZZAÀMEAT ON BONE",
      "ÀPOULTRY LEGÀRICE CRACKERÅBALLÀCOOKED RICEÁURRYgRICEÀSTEAMING BOWL",
      "ÁPAGHETTIÀBREADÀFRENCH FRIESÀROASTED SWEET POTATOÀDANGOÀODENÀSUSHI",
      "ÀFRIED SHRIMPÁISH CAKEbSWIRL DESIGNÀSOFT ICE CREAMÁHAVED ICE",
      "ÀICE CREAMÀDOUGHNUTÀCOOKIEÁHOCOLATE BARÁANDYÀLOLLIPOPÀCUSTARD",
      "ÀHONEY POTÀSHORTCAKEÀBENTO BOXÀPOT OF FOODÀCOOKINGÀFORKgKNIFE",
      "ÀTEACUP WITHOUT HANDLEÀSAKE BOTTLEgCUPÀWINE GLASSÀCOCKTAIL GLASS",
      "ÀTROPICAL DRINKÀBEER MUGÀCLINKING BEER MUGSÀBABY BOTTLEÀFORKgKNIFEbPL",
      "ATEÀBOTTLEbPOPPING CORKÀPOPCORNÀRIBBONÀWRAPPED PRESENTÀBIRTHDAY CAKE",
      "ÀJACK-O-LANTERNÀCHRISTMAS TREEÀFATHER CHRISTMASÁIREWORKSÈ SPARKLER",
      "ÀBALLOONÀPARTY POPPERÀCONFETTI BALLÀTANABATA TREEÀCROSSED FLAGS",
      "ÀPINE DECORATIONÀJAPANESE DOLLSÀCARP STREAMERÀWIND CHIMEÀMOON VIEWING",
      " CEREMONYÀSCHOOL SATCHELÀGRADUATION CAPÀHEARTbTIP ON THE LEFT",
      "ÀBOUQUET OF FLOWERSÀMILITARY MEDALÀREMINDER RIBBONÀMUSICAL KEYBOARDbJ",
      "ACKSÀSTUDIO MICROPHONEÀLEVEL SLIDERÀCONTROL KNOBSÀBEAMED ASCENDING MU",
      "SICAL NOTESÇDESCENDING MUSICAL NOTESÀFILM FRAMESÀADMISSION TICKETS",
      "ÀCAROUSEL HORSEÀFERRIS WHEELÀROLLER COASTERÀFISHING POLEgFISH",
      "ÀMICROPHONEÁOVIE CAMERAÀCINEMAÀHEADPHONEÀARTIST PALETTEÀTOP HAT",
      "ÀCIRCUS TENTÀTICKETÀCLAPPER BOARDÀPERFORMING ARTSÀVIDEO GAME",
      "ÀDIRECT HITÀSLOT MACHINEÀBILLIARDSÀGAME DIEÀBOWLINGÀFLOWER PLAYING CA",
      "RDSÀMUSICAL NOTEÂLTIPLE MUSICAL NOTESÀSAXOPHONEÀGUITARÀMUSICAL KEYBOA",
      "RDÀTRUMPETÀVIOLINÀMUSICAL SCOREÀRUNNING SHIRTbSASHÀTENNIS RACQUETgBAL",
      "LÀSKIgSKI BOOTÀBASKETBALLgHOOPÀCHEQUERED FLAGÀSNOWBOARDERÀRUNNER",
      "ÀSURFERÁPORTS MEDALÀTROPHYÀHORSE RACINGÀAMERICAN FOOTBALLÀRUGBY FOOTB",
      "ALLÀSWIMMERÀWEIGHT LIFTERÀGOLFERÀRACING MOTORCYCLEÇCARÀCRICKET BATgBA",
      "LLÀVOLLEYBALLÀFIELD HOCKEY STICKgBALLÀICE HOCKEY STICKgPUCK",
      "ÀTABLE TENNIS PADDLEgBALLÀSNOW CAPPED MOUNTAINÀCAMPINGÀBEACHbUMBRELLA",
      "ÁUILDING CONSTRUCTIONÀHOUSE BUILDINGSÀCITYSCAPEÀDERELICT HOUSE BUILDI",
      "NGÀCLASSICAL BUILDINGÀDESERTÆ ISLANDÀNATIONAL PARKÀSTADIUM",
      "ÀHOUSE BUILDINGÆWITH GARDENÀOFFICE BUILDINGÀJAPANESE POST OFFICE",
      "ÀEUROPEAN POST OFFICEÀHOSPITALÀBANKÀAUTOMATED TELLER MACHINEÀHOTEL",
      "ÀLOVE HOTELÀCONVENIENCE STOREÀSCHOOLÀDEPARTMENT STOREÀFACTORY",
      "ÀIZAKAYA LANTERNÀJAPANESE CASTLEÀEUROPEAN CASTLEÀWHITE PENNANT",
      "Àx PENNANTÀWAVING WHITE FLAGÇx FLAGÀROSETTEÀx ROSETTEÀLABEL",
      "ÀBADMINTON RACQUETgSHUTTLECOCKÁOW ANDfÀAMPHORAÀEMOJI MODIFIER FITZPAT",
      "RICK TYPE-1-2à3à4à5à6ÀRATÀMOUSEÀOXÀWATER BUFFALOÀCOWÀTIGERÀLEOPARD",
      "ÀRABBITÀCATÀDRAGONÀCROCODILEÀWHALEÀSNAILÃKEÀHORSEÀRAMÀGOATÀSHEEP",
      "ÀMONKEYÀROOSTERÀCHICKENÀDOGÀPIGÀBOARÀELEPHANTÀOCTOPUSÀSPIRAL SHELL",
      "ÀBUGÀANTÀHONEYBEEÀLADY BEETLEÀFISHÀTROPICAL FISHÀBLOWFISHÀTURTLE",
      "ÀHATCHING CHICKÀBABY CHICKÀFRONT-FACING BABY CHICKÀBIRDÀPENGUINÀKOALA",
      "ÀPOODLEÀDROMEDARY CAMELÀBACTRIAN CAMELÀDOLPHINÀMOUSE FACEÀCOW FACE",
      "ÀTIGER FACEÀRABBIT FACEÀCAT FACEÀDRAGON FACEÀSPOUTING WHALE",
      "ÀHORSE FACEÀMONKEY FACEÀDOG FACEÀPIG FACEÀFROG FACEÀHAMSTER FACE",
      "ÀWOLF FACEÀBEAR FACEÀPANDA FACEÁIG NOSEÁAW PRINTSÀCHIPMUNKÀEYESÃÁAR",
      "ÀNOSEÀMOUTHÀTONGUEÀWHITE UP POINTING BACKHAND INDEXÆDOWN POINTING BAC",
      "KHAND INDEXÆoPOINTING BACKHAND INDEXÆk POINTING BACKHAND INDEX",
      "ÀFISTED HANDhÀWAVING HANDhÀOK HANDhÀTHUMBS UPhÇDOWNhÀCLAPPING HANDSh",
      "ÀOPEN HANDShÀCROWNÀWOMANS HATÀEYEGLASSESÀNECKTIEÀT-SHIRTÀJEANSÀDRESS",
      "ÀKIMONOÀBIKINIÀWOMANS CLOTHESÀPURSEÀHANDBAGÀPOUCHÀMANS SHOE",
      "ÀATHLETIC SHOEÀHIGH-HEELED SHOEÀWOMANS SANDALÇBOOTSÀFOOTPRINTS",
      "ÀBUST IN SILHOUETTEÄS IN SILHOUETTEÁOYÀGIRLÀMANÀWOMANÀFAMILY",
      "ÀMANgWOMAN HOLDING HANDSÀTWO MEN HOLDING HANDSÄWOMEN HOLDING HANDS",
      "ÀPOLICE OFFICERÀWOMANbBUNNY EARSÀBRIDEbVEILÀPERSONbBLOND HAIR",
      "ÀMANbGUA PI MAOÉTURBANÀOLDER MANÆWOMANÀBABYÀCONSTRUCTION WORKER",
      "ÀPRINCESSÀJAPANESE OGREÉGOBLINÀGHOSTÀBABY ANGELÀEXTRATERRESTRIAL ALIE",
      "NÀALIEN MONSTERÀIMPÀSKULLÀINFORMATION DESK PERSONÀGUARDSMANÀDANCER",
      "ÀLIPSTICKÀNAIL POLISHÀFACE MASSAGEÀHAIRCUTÀBARBER POLEÀSYRINGEÀPILL",
      "ÀKISSuÀLOVE LETTERÀRINGÀGEM STONEÀKISSÀBOUQUETÀCOUPLEbHEARTÀWEDDING",
      "ÀBEATING HEARTÁROKEN HEARTÀTWO HEARTSÀSPARKLING HEARTÀGROWING HEART",
      "ÀHEARTbARROWÀBLUE HEARTÀGREEN HEARTÀYELLOW HEARTÀPURPLE HEART",
      "ÀHEARTbRIBBONÀREVOLVING HEARTSÀHEART DECORATIONÀDIAMOND SHAPEbA DOT I",
      "NSIDEÀELECTRIC LIGHT BULBÀANGERqÀBOMBÀSLEEPINGqÀCOLLISIONq",
      "ÀSPLASHING SWEATqÀDROPLETÁASHqÀPILE OF POOÀFLEXED BICEPSÀDIZZYq",
      "ÀSPEECH BALLOONÀTHOUGHT BALLOONÀWHITE FLOWERÀHUNDRED POINTSq",
      "ÀMONEY BAGÀCURRENCY EXCHANGEÀHEAVY DOLLARhÀCREDIT CARDÀBANKNOTEbYENh",
      "ÎDOLLARhÎEUROhÎPOUNDhÀMONEYbWINGSÀCHARTbUPWARDS TRENDgYENhÀSEAT",
      "ÀPERSONAL COMPUTERÀBRIEFCASEÀMINIDISCÀFLOPPY DISKÀOPTICAL DISCÀDVD",
      "ÀFILE FOLDERÀOPEN FILE FOLDERÀPAGEbCURLÅFACING UPÀCALENDAR",
      "ÀTEAR-OFF CALENDARÀCARD INDEXÁHARTbUPWARDS TRENDËDOWNWARDS TREND",
      "ÀBAR CHARTÀCLIPBOARDÀPUSHPINÀROUND PUSHPINÀPAPERCLIPÀSTRAIGHT RULER",
      "ÀTRIANGULAR RULERÀBOOKMARK TABSÀLEDGERÀNOTEBOOKÈbDECORATIVE COVER",
      "ÀCLOSED BOOKÀOPEN BOOKÀGREEN BOOKÀBLUE BOOKÀORANGE BOOKÀBOOKS",
      "ÀNAME BADGEÀSCROLLÀMEMOÀTELEPHONE RECEIVERÀPAGERÀFAX MACHINE",
      "ÀSATELLITE ANTENNAÀPUBLIC ADDRESS LOUDSPEAKERÀCHEERING MEGAPHONE",
      "ÀOUTBOX TRAYÀINBOX TRAYÀPACKAGEÀE-MAILqÀINCOMING ENVELOPEÀENVELOPEbDO",
      "WNWARDSfiÀCLOSED MAILBOXbLOWERED FLAGÔRAISED FLAGÀOPEN MAILBOXbRAISED",
      " FLAGÒLOWERED FLAGÀPOSTBOXÄAL HORNÀNEWSPAPERÀMOBILE PHONEÌbkWARDSf AT",
      " LEFTÀVIBRATION MODEÀMOBILE PHONE OFFÀNO MOBILE PHONESÀANTENNAbBARS",
      "ÀCAMERAÆbFLASHÀVIDEO CAMERAÀTELEVISIONÀRADIOÀVIDEOCASSETTE",
      "ÀFILM PROJECTORÀPORTABLE STEREOÁRAYER BEADSÀTWISTED kWARDSfS",
      "ÀCLOCKWISE kWARDSgs OPEN CIRCLEfSõbCIRCLED ONE OVERLAYÊDOWNWARDSgUPWA",
      "RDS OPEN CIRCLEfSÀANTICLOCKWISE DOWNWARDSgUPWARDS OPEN CIRCLEfS",
      "ÀLOW BkNESSqÀHIGH BkNESSqÀSPEAKERbCANCELLATION vÇÇbONE SOUND WAVE",
      "ÍTHREE SOUND WAVESÀBATTERYÀELECTRIC PLUGÀLEFT-POINTING MAGNIFYING GLA",
      "SSÀk-POINTING MAGNIFYING GLASSÀLOCKbINK PENÀCLOSED LOCKbKEYÀKEYÀLOCK",
      "ÀOPEN LOCKÀBELLÄbCANCELLATION vÁOOKMARKÀLINKqÀRADIO BUTTONÀBACKbsfi",
      "ÀENDbsfiÀONbEXCLAMATIONubokfiÀSOONbkWARDSfiÀTOPbUPWARDSfiÀNO ONE UNDE",
      "R EIGHTEENqÀKEYCAP TENÀINPUTq FOR LATIN c LETTERS×d LETTERSÑNUMBERS",
      "ÑSYMBOLSÑLATIN LETTERSÀFIREÀELECTRIC TORCHÀWRENCHÀHAMMERÀNUTgBOLT",
      "ÀHOCHOÀPISTOLÀMICROSCOPEÀTELESCOPEÀCRYSTAL BALLÀSIX POINTED STARbyDOT",
      "ÀJAPANESEq FOR BEGINNERÀTRIDENT EMBLEMÀx SQUARE BUTTONÀWHITE SQUARE B",
      "UTTONÀLARGE RED CIRCLEÆBLUE CIRCLEÆORANGE DIAMONDÆBLUE DIAMOND",
      "Àd ORANGE DIAMONDÆBLUE DIAMONDÀUP-POINTING RED TRIANGLEÀDOWN-POINTING",
      " RED TRIANGLEÀUP-POINTING d RED TRIANGLEÀDOWN-POINTING d RED TRIANGLE",
      "ÀLOWER k SHADOWED WHITE CIRCLEÀUPPER k SHADOWED WHITE CIRCLE",
      "ÀCIRCLED CROSS POMMEEÁROSS POMMEEbHALF-CIRCLEmÌÀNOTCHED oSEMICIRCLEbT",
      "HREE DOTSÈk SEMICIRCLEbTHREE DOTSÀSYMBOL FORuS CHAPTERÀWHITE LATIN CR",
      "OSSÀHEAVY LATIN CROSSÀCELTIC CROSSÀOMqÀDOVE OF PEACEÀKAABAÀMOSQUE",
      "ÀSYNAGOGUEÀMENORAHbNINE BRANCHESÀBOWL OF HYGIEIAÀCLOCK FACE ONE OCLOC",
      "KËTWO OCLOCKÌHREE OCLOCKËFOUR OCLOCKÌIVE OCLOCKËSIX OCLOCK",
      "ÌEVEN OCLOCKËEIGHT OCLOCKËNINE OCLOCKËTEN OCLOCKËELEVEN OCLOCK",
      "ËTWELVE OCLOCKËONE-THIRTYËTWO-THIRTYÌHREE-THIRTYËFOUR-THIRTY",
      "ÌIVE-THIRTYËSIX-THIRTYÌEVEN-THIRTYËEIGHT-THIRTYËNINE-THIRTY",
      "ËTEN-THIRTYËELEVEN-THIRTYËTWELVE-THIRTYÀk SPEAKERÍbONE SOUND WAVE",
      "ÓTHREE SOUND WAVESÀBULLHORNÈbSOUND WAVESÀRINGING BELLÀBOOKÀCANDLE",
      "ÀMANTELPIECE CLOCKÀx SKULLgCROSSBONESÀNO PIRACYÀHOLEÀMAN IN BUSINESS ",
      "SUIT LEVITATINGÀSLEUTH OR SPYÀDARK SUNGLASSESÀSPIDERÆ WEBÀJOYSTICK",
      "ÀMAN DANCINGÀoHAND TELEPHONE RECEIVERÀTELEPHONE RECEIVERbPAGE",
      "Àk HAND TELEPHONE RECEIVERÀWHITE TOUCHTONE TELEPHONEÀx TOUCHTONE TELE",
      "PHONEÀTELEPHONE ON TOP OF MODEMÀCLAMSHELL MOBILE PHONEÀBACK OF ENVELO",
      "PEÀSTAMPED ENVELOPEÀENVELOPEbLIGHTNINGÀFLYING ENVELOPEÀPEN OVER STAMP",
      "ED ENVELOPEÀLINKED PAPERCLIPSÀx PUSHPINÀLOWER oPENCILËBALLPOINT PEN",
      "ËFOUNTAIN PENËPAINTBRUSHËCRAYONÁEFT WRITING HANDÀTURNED OK HANDh",
      "ÀRAISED HANDbFINGERS SPLAYEDÁEVERSED RAISED HANDbFINGERS SPLAYED",
      "ÉTHUMBS UPhÐDOWNhÉVICTORY HANDÉHANDbyFINGER EXTENDEDÁAISED HANDbPART ",
      "BETWEEN MIDDLEgRING FINGERSÀWHITE DOWN POINTING oHAND INDEX",
      "ÀSIDEWAYS WHITE oPOINTING INDEXÏk POINTING INDEXÉx oPOINTING INDEX",
      "Ïk POINTING INDEXÀx oPOINTING BACKHAND INDEXÆk POINTING BACKHAND INDE",
      "XÀSIDEWAYS WHITE UP POINTING INDEXÏDOWN POINTING INDEXÉx UP POINTING ",
      "INDEXÏDOWN POINTING INDEXÀx UP POINTING BACKHAND INDEXÆDOWN POINTING ",
      "BACKHAND INDEXÆHEARTÀDESKTOP COMPUTERÀKEYBOARDgMOUSEÀTHREE NETWORKED ",
      "COMPUTERSÀPRINTERÁOCKET CALCULATORÀx HARD SHELL FLOPPY DISK",
      "ÀWHITE HARD SHELL FLOPPY DISKÀSOFT SHELL FLOPPY DISKÀTAPE CARTRIDGE",
      "ÀWIRED KEYBOARDÀONE BUTTON MOUSEÀTWO BUTTON MOUSEÁHREE BUTTON MOUSE",
      "ÁRACKBALLÀOLD PERSONAL COMPUTERÀHARD DISKÀSCREENÀPRINTER ICON",
      "ÀFAX ICONÀOPTICAL DISC ICONÀDOCUMENTbTEXTÒgPICTUREÎPICTURE",
      "ÀFRAMEbPICTUREËTILESËAN XÀx FOLDERÀFOLDERÀOPEN FOLDERÀCARD INDEX DIVI",
      "DERSÅFILE BOXÀFILE CABINETÀEMPTY NOTEÊ PAGEÍDÀNOTEÄ PAGEÇD",
      "ÀEMPTY DOCUMENTÆPAGEÊSÀDOCUMENTÀPAGEÄSÀWASTEBASKETÀSPIRAL NOTE PAD",
      "ÇCALENDAR PADÀDESKTOP WINDOWÀMINIMIZEÁAXIMIZEÀOVERLAPÀCLOCKWISE kgoSE",
      "MICIRCLEfSÁANCELLATION XÀINCREASE FONT SIZEqÀDECREASE FONT SIZEq",
      "ÀCOMPRESSIONÀOLD KEYÀROLLED-UP NEWSPAPERÀPAGEbCIRCLED TEXT",
      "ÀSTOCK CHARTÀDAGGER KNIFEÀLIPSÀSPEAKING HEAD IN SILHOUETTE",
      "ÀTHREE RAYSiËBELOWËLEFTËkÀoSPEECH BUBBLEÀk SPEECH BUBBLEÀTWO SPEECH B",
      "UBBLESÁHREE SPEECH BUBBLESÀoTHOUGHT BUBBLEÀk THOUGHT BUBBLE",
      "ÀoANGER BUBBLEÀk ANGER BUBBLEÀMOOD BUBBLEÀLIGHTNING MOOD BUBBLEÎ",
      "ÀBALLOT BOXbBALLOTÇSCRIPT XÇBOXbSCRIPT XÉLD SCRIPT XÉXbBOLD SCRIPT X",
      "ÀLIGHT CHECKuÀBALLOT BOXbBOLD CHECKÀWORLD MAPÀMOUNT FUJIÀTOKYO TOWER",
      "ÀSTATUE OF LIBERTYÁILHOUETTE OF JAPANÀMOYAIÀGRINNING FACEÍbSMILING EY",
      "ESÀFACEbTEARS OF JOYÀSMILING FACEbOPEN MOUTHÜgSMILING EYESáCOLD SWEAT",
      "áTIGHTLY-CLOSED EYESÒHALOÓORNSÀWINKING FACEÀSMILING FACEbSMILING EYES",
      "ÀFACE SAVOURING DELICIOUS FOODÀRELIEVED FACEÀSMILING FACEbHEART-SHAPE",
      "D EYESÒSUNGLASSESÃRKING FACEÀNEUTRAL FACEÀEXPRESSIONLESS FACE",
      "ÀUNAMUSED FACEÀFACEbCOLD SWEATÀPENSIVE FACEÀCONFUSED FACEÄOUNDED FACE",
      "ÀKISSING FACEÀFACE THROWING A KISSÀKISSING FACEbSMILING EYES",
      "ÒCLOSED EYESÀFACEbSTUCK-OUT TONGUEÚgWINKING EYEßTIGHTLY-CLOSED EYES",
      "ÀDISAPPOINTED FACEÀWORRIED FACEÀANGRY FACEÀPOUTING FACEÀCRYING FACE",
      "ÀPERSEVERING FACEÀFACEbLOOK OF TRIUMPHÀDISAPPOINTED BUT RELIEVED FACE",
      "ÀFROWNING FACEbOPEN MOUTHÀANGUISHED FACEÀFEARFUL FACEÀWEARY FACE",
      "ÀSLEEPY FACEÀTIRED FACEÀGRIMACING FACEÀLOUDLY CRYING FACEÀFACEbOPEN M",
      "OUTHÀHUSHED FACEÀFACEbOPEN MOUTHgCOLD SWEATÅSCREAMING IN FEAR",
      "ÀASTONISHED FACEÀFLUSHED FACEÀSLEEPING FACEÀDIZZY FACEÀFACE WITHOUT M",
      "OUTHÉ MEDICAL MASKÀGRINNING CAT FACEbSMILING EYESÀCAT FACEbTEARS OF J",
      "OYÀSMILING CAT FACEbOPEN MOUTHÖHEART-SHAPED EYESÀCAT FACEbWRY SMILE",
      "ÀKISSING CAT FACEbCLOSED EYESÀPOUTING CAT FACEÀCRYING CAT FACE",
      "ÀWEARY CAT FACEÀSLIGHTLY FROWNING FACEÉSMILING FACEÀUPSIDE-DOWN FACE",
      "ÀFACEbROLLING EYESÊNO GOOD GESTUREÊOK GESTUREÀPERSON BOWING DEEPLY",
      "ÀSEE-NO-EVIL MONKEYÀHEAR-NO-EVIL MONKEYÀSPEAK-NO-EVIL MONKEY",
      "ÀHAPPY PERSON RAISING ONE HANDÀPERSON RAISING BOTH HANDS IN CELEBRATI",
      "ONÇFROWNINGÇWITH POUTING FACEÌFOLDED HANDSÀNORTH WEST POINTING LEAF",
      "ÀSOUTH WEST POINTING LEAFÀNORTH EAST POINTING LEAFÀSOUTH EAST POINTIN",
      "G LEAFÀTURNED NORTH WEST POINTING LEAFÇSOUTH WEST POINTING LEAF",
      "ÇNORTH EAST POINTING LEAFÇSOUTH EAST POINTING LEAFÀNORTH WEST POINTIN",
      "G VINE LEAFÀSOUTH WEST POINTING VINE LEAFÀNORTH EAST POINTING VINE LE",
      "AFÀSOUTH EAST POINTING VINE LEAFÀHEAVY NORTH WEST POINTING VINE LEAF",
      "ÆSOUTH WEST POINTING VINE LEAFÆNORTH EAST POINTING VINE LEAF",
      "ÆSOUTH EAST POINTING VINE LEAFÀNORTH WEST POINTING BUDÀSOUTH WEST POI",
      "NTING BUDÀNORTH EAST POINTING BUDÀSOUTH EAST POINTING BUDÀHEAVY NORTH",
      " WEST POINTING BUDÆSOUTH WEST POINTING BUDÆNORTH EAST POINTING BUD",
      "ÆSOUTH EAST POINTING BUDÁOLLOW QUILT SQUARE ORNAMENTÜ IN x SQUARE",
      "ÀSOLID QUILT SQUARE ORNAMENTÛ IN x SQUAREÀs ROCKETÀUPWARDS ROCKET",
      "ÀkWARDS ROCKETÀDOWNWARDS ROCKETÀSCRIPT LIGATURE ET ORNAMENT",
      "ÀHEAVY SCRIPT LIGATURE ET ORNAMENTÀLIGATURE OPEN ET ORNAMENT",
      "ÀHEAVY LIGATURE OPEN ET ORNAMENTÆAMPERSAND ORNAMENTÀSWASH AMPERSAND O",
      "RNAMENTÁANS-SERIF HEAVY l TURNED COMMA QUOTATIONu ORNAMENT",
      "ØCOMMA QUOTATIONu ORNAMENTÑLOW l COMMA QUOTATIONu ORNAMENT",
      "ÀHEAVY INTERROBANG ORNAMENTÀSANS-SERIF INTERROBANG ORNAMENT",
      "ÀHEAVY SANS-SERIF INTERROBANG ORNAMENTÀVERY HEAVY SOLIDUSËREVERSE SOL",
      "IDUSÀCHECKER BOARDÀREVERSE CHECKER BOARDÁOCKETÀHELICOPTERÀSTEAM LOCOM",
      "OTIVEÀRAILWAY CARÀHIGH-SPEED TRAINÐbBULLET NOSEÀTRAINÀMETRO",
      "ÀLIGHT RAILÀSTATIONÀTRAMÄ CARÀBUSÀONCOMING BUSÀTROLLEYBUSÀBUS STOP",
      "ÀMINIBUSÀAMBULANCEÀFIRE ENGINEÀPOLICE CARÀONCOMING POLICE CARÀTAXI",
      "ÀONCOMING TAXIÀAUTOMOBILEÀONCOMING AUTOMOBILEÀRECREATIONAL VEHICLE",
      "ÀDELIVERY TRUCKÀARTICULATED LORRYÀTRACTORÀMONORAILÂUNTAIN RAILWAY",
      "ÀSUSPENSION RAILWAYÀMOUNTAIN CABLEWAYÀAERIAL TRAMWAYÀSHIPÀROWBOAT",
      "ÀSPEEDBOATÀw TRAFFIC LIGHTÀp TRAFFIC LIGHTÀCONSTRUCTIONhÀPOLICE CARS ",
      "REVOLVING LIGHTÀTRIANGULAR FLAG ON POSTÀDOORÀNO ENTRYhÀSMOKINGq",
      "ÀNO SMOKINGqÀPUT LITTER IN ITS PLACEqÀDO NOT LITTERqÀPOTABLE WATERq",
      "ÀNON-POTABLE WATERqÀBICYCLEÀNO BICYCLESÀBICYCLISTÀMOUNTAIN BICYCLIST",
      "ÀPEDESTRIANÀNO PEDESTRIANSÀCHILDREN CROSSINGÀMENSqÀWOMENSqÀRESTROOM",
      "ÀBABYqÀTOILETÀWATER CLOSETÀSHOWERÀBATHÄTUBÀPASSPORT CONTROLÀCUSTOMS",
      "ÀBAGGAGE CLAIMÀoLUGGAGEÀTRIANGLEbROUNDED CORNERSÀPROHIBITEDh",
      "ÀCIRCLED INFORMATION SOURCEÀBOYSqÀGIRLSqÀCOUCHgLAMPÀSLEEPING ACCOMMOD",
      "ATIONÁHOPPING BAGSÀBELLHOP BELLÂDÀPLACE OF WORSHIPÀOCTAGONALh",
      "ÀSHOPPING TROLLEYÁTUPAÀPAGODAÀHINDU TEMPLEÁUTÀELEVATOR"]),
    (0x1F6DD, ["PLAYGROUND SLIDEÀWHEELÀRING BUOYÀHAMMERgWRENCHÀSHIELD",
      "ÀOIL DRUMÀMOTORWAYÀRAILWAY TRACKÀMOTOR BOATÀUP-POINTING MILITARY AIRP",
      "LANEÌAIRPLANEÌd AIRPLANEÀd AIRPLANEÀNORTHEAST-POINTING AIRPLANE",
      "ÀAIRPLANE DEPARTUREÉARRIVING"]),
    (0x1F6F0, ["SATELLITEÀONCOMING FIRE ENGINEÀDIESEL LOCOMOTIVEÀPASSENGER S",
      "HIPÀSCOOTERÀMOTOR SCOOTERÀCANOEÀSLEDÀFLYING SAUCERÀSKATEBOARD",
      "ÀAUTO RICKSHAWÀPICKUP TRUCKÀROLLER SKATE"]),
    (0x1F700, ["ALCHEMICALq FOR QUINTESSENCEÖAIRÖFIREÖEARTHÖWATERÖAQUAFORTIS",
      "Ú REGIAà-2ÛVITAEà-2ÖVINEGARÝ-2Þ3ÖSULFURÖPHILOSOPHERS SULFURÖx SULFUR",
      "ÖMERCURY SUBLIMATEç-2è3ÖCINNABARÖSALTÖNITREÖVITRIOLÝ-2ÖROCK SALTß-2",
      "ÖGOLDÖSILVERÖIRON OREÞ-2ÖCROCUS OF IRONÖREGULUS OF IRONÖCOPPER ORE",
      "ÖIRON-COPPER OREÖSUBLIMATE OF COPPERÖCROCUS OF COPPERæ-2×OPPER ANTIMO",
      "NIATEÖSALT OF COPPER ANTIMONIATE×UBLIMATE OF SALT OF COPPERÖVERDIGRIS",
      "ÖTIN OREÖLEAD OREÖANTIMONY OREÖSUBLIMATE OF ANTIMONY×ALT OF ANTIMONY",
      "×UBLIMATE OF SALT OF ANTIMONYÖVINEGAR OF ANTIMONYÖREGULUS OF ANTIMONY",
      "é-2ÝÝ-2Þ3Þ4ÖALKALIÜ-2ÖMARCASITEÖSAL-AMMONIACÖARSENICÖREALGARÝ-2",
      "ÖAURIPIGMENTÖBISMUTH OREÖTARTARÜ-2ÖQUICK LIMEÖBORAXÛ-2Ü3ÖALUMÖOIL",
      "ÖSPIRITÖTINCTUREÖGUMÖWAXÖPOWDERÖCALXÖTUTTYÖCAPUT MORTUUMÖSCEPTER OF J",
      "OVEÖCADUCEUSÖTRIDENTÖSTARRED TRIDENTÖLODESTONEÖSOAPÖURINEÖHORSE DUNG",
      "ÖASHESÖPOT ASHESÖBRICKÖPOWDERED BRICKÖAMALGAMÖSTRATUM SUPER STRATUM",
      "ë-2×UBLIMATIONÖPRECIPITATEÖDISTILLÙSOLVEÞ-2ÖPURIFYØTREFACTION",
      "ÖCRUCIBLEÞ-2ß3ß4ß5ÖALEMBICÖBATH OF MARYÞVAPOURSÖRETORTÖHOURÖNIGHT",
      "ÖDAY-NIGHTÖMONTHÖHALF DRAMÛOUNCE"]),
    (0x1F780, ["x LEFT-POINTING ISOSCELES k TRIANGLEÆUP-POINTING ISOSCELES k",
      " TRIANGLEÆk-POINTING ISOSCELES k TRIANGLEÆDOWN-POINTING ISOSCELES k T",
      "RIANGLEÆSLIGHTLY d CIRCLEÀMEDIUM BOLD WHITE CIRCLEÀBOLD WHITE CIRCLE",
      "ÀHEAVY WHITE CIRCLEÀVERY HEAVY WHITE CIRCLEÀEXTREMELY HEAVY WHITE CIR",
      "CLEÀWHITE CIRCLE CONTAINING x d CIRCLEÀROUND TARGETÀx TINY SQUARE",
      "ÆSLIGHTLY d SQUAREÀLIGHT WHITE SQUAREÀMEDIUM WHITE SQUAREÀBOLD WHITE ",
      "SQUAREÀHEAVY WHITE SQUAREÀVERY HEAVY WHITE SQUAREÀEXTREMELY HEAVY WHI",
      "TE SQUAREÀWHITE SQUARE CONTAINING x VERY d SQUAREÞMEDIUM SQUARE",
      "ÀSQUARE TARGETÀx TINY DIAMONDÆVERY d DIAMONDÆMEDIUM d DIAMOND",
      "ÀWHITE DIAMOND CONTAINING x VERY d DIAMONDßMEDIUM DIAMONDÀDIAMOND TAR",
      "GETÀx TINY LOZENGEÆVERY d LOZENGEÆMEDIUM d LOZENGEÀWHITE LOZENGE CONT",
      "AINING x d LOZENGEÀTHIN GREEK CROSSÀLIGHT GREEK CROSSÀMEDIUM GREEK CR",
      "OSSÀBOLD GREEK CROSSÀVERY BOLD GREEK CROSSÅHEAVY GREEK CROSS",
      "ÀEXTREMELY HEAVY GREEK CROSSÀTHIN SALTIREÀLIGHT SALTIREÀMEDIUM SALTIR",
      "EÀBOLD SALTIREÀHEAVY SALTIREÀVERY HEAVY SALTIREÀEXTREMELY HEAVY SALTI",
      "REÀLIGHT FIVE SPOKED ASTERISKÀMEDIUM FIVE SPOKED ASTERISKÀBOLD FIVE S",
      "POKED ASTERISKÀHEAVY FIVE SPOKED ASTERISKÀVERY HEAVY FIVE SPOKED ASTE",
      "RISKÀEXTREMELY HEAVY FIVE SPOKED ASTERISKÀLIGHT SIX SPOKED ASTERISK",
      "ÀMEDIUM SIX SPOKED ASTERISKÀBOLD SIX SPOKED ASTERISKÀHEAVY SIX SPOKED",
      " ASTERISKÀVERY HEAVY SIX SPOKED ASTERISKÀEXTREMELY HEAVY SIX SPOKED A",
      "STERISKÀLIGHT EIGHT SPOKED ASTERISKÀMEDIUM EIGHT SPOKED ASTERISK",
      "ÀBOLD EIGHT SPOKED ASTERISKÀHEAVY EIGHT SPOKED ASTERISKÀVERY HEAVY EI",
      "GHT SPOKED ASTERISKÀLIGHT THREE POINTED x STARÀMEDIUM THREE POINTED x",
      " STARÀTHREE POINTED x STARÀMEDIUM THREE POINTED PINWHEEL STAR",
      "ÀLIGHT FOUR POINTED x STARÀMEDIUM FOUR POINTED x STARÀFOUR POINTED x ",
      "STARÀMEDIUM FOUR POINTED PINWHEEL STARÀREVERSE LIGHT FOUR POINTED PIN",
      "WHEEL STARÀLIGHT FIVE POINTED x STARÀHEAVY FIVE POINTED x STAR",
      "ÀMEDIUM SIX POINTED x STARÀHEAVY SIX POINTED x STARÀSIX POINTED PINWH",
      "EEL STARÀMEDIUM EIGHT POINTED x STARÀHEAVY EIGHT POINTED x STAR",
      "ÀVERY HEAVY EIGHT POINTED x STARÀHEAVY EIGHT POINTED PINWHEEL STAR",
      "ÀLIGHT TWELVE POINTED x STARÀHEAVY TWELVE POINTED x STARÕPINWHEEL STA",
      "RÀCIRCLED TRIANGLEÀNEGATIVE CIRCLED TRIANGLEÀCIRCLED SQUARE",
      "ÀNEGATIVE CIRCLED SQUARE"]),
    (0x1F7E0, ["LARGE ORANGE CIRCLEÆYELLOW CIRCLEÆGREEN CIRCLEÆPURPLE CIRCLE",
      "ÆBROWN CIRCLEÆRED SQUAREÆBLUE SQUAREÆORANGE SQUAREÆYELLOW SQUARE",
      "ÆGREEN SQUAREÆPURPLE SQUAREÆBROWN SQUARE"]),
    (0x1F7F0, ["HEAVY EQUALSh"]),
    (0x1F800, ["sfbd TRIANGLEfHEADÀUPWARDSfbd TRIANGLEfHEADÀkWARDSfbd TRIANG",
      "LEfHEADÀDOWNWARDSfbd TRIANGLEfHEADÀsfbMEDIUM TRIANGLEfHEAD",
      "ÀUPWARDSfbMEDIUM TRIANGLEfHEADÀkWARDSfbMEDIUM TRIANGLEfHEAD",
      "ÀDOWNWARDSfbMEDIUM TRIANGLEfHEADÀsfbLARGE TRIANGLEfHEADÀUPWARDSfbLARG",
      "E TRIANGLEfHEADÀkWARDSfbLARGE TRIANGLEfHEADÀDOWNWARDSfbLARGE TRIANGLE",
      "fHEAD"]),
    (0x1F810, ["sfbd EQUILATERALfHEADÀUPWARDSfbd EQUILATERALfHEAD",
      "ÀkWARDSfbd EQUILATERALfHEADÀDOWNWARDSfbd EQUILATERALfHEADÀsfbEQUILATE",
      "RALfHEADÀUPWARDSfbEQUILATERALfHEADÀkWARDSfbEQUILATERALfHEAD",
      "ÀDOWNWARDSfbEQUILATERALfHEADÀHEAVY sfbEQUILATERALfHEADÆUPWARDSfbEQUIL",
      "ATERALfHEADÆkWARDSfbEQUILATERALfHEADÆDOWNWARDSfbEQUILATERALfHEAD",
      "ÆsfbLARGE EQUILATERALfHEADÆUPWARDSfbLARGE EQUILATERALfHEAD",
      "ÆkWARDSfbLARGE EQUILATERALfHEADÆDOWNWARDSfbLARGE EQUILATERALfHEAD",
      "ÀstfbNARROW SHAFTÀUPWARDStfbNARROW SHAFTÀkWARDStfbNARROW SHAFT",
      "ÀDOWNWARDStfbNARROW SHAFTÀstfbMEDIUM SHAFTÀUPWARDStfbMEDIUM SHAFT",
      "ÀkWARDStfbMEDIUM SHAFTÀDOWNWARDStfbMEDIUM SHAFTÀstfbBOLD SHAFT",
      "ÀUPWARDStfbBOLD SHAFTÀkWARDStfbBOLD SHAFTÀDOWNWARDStfbBOLD SHAFT",
      "ÀstfbHEAVY SHAFTÀUPWARDStfbHEAVY SHAFTÀkWARDStfbHEAVY SHAFT",
      "ÀDOWNWARDStfbHEAVY SHAFTÀstfbVERY HEAVY SHAFTÀUPWARDStfbVERY HEAVY SH",
      "AFTÀkWARDStfbVERY HEAVY SHAFTÀDOWNWARDStfbVERY HEAVY SHAFT",
      "Às FINGER-POSTfÀUPWARDS FINGER-POSTfÀkWARDS FINGER-POSTfÀDOWNWARDS FI",
      "NGER-POSTfÀs SQUAREDfÀUPWARDS SQUAREDfÀkWARDS SQUAREDfÀDOWNWARDS SQUA",
      "REDfÀs COMPRESSEDfÀUPWARDS COMPRESSEDfÀkWARDS COMPRESSEDfÀDOWNWARDS C",
      "OMPRESSEDfÀs HEAVY COMPRESSEDfÀUPWARDS HEAVY COMPRESSEDfÀkWARDS HEAVY",
      " COMPRESSEDfÀDOWNWARDS HEAVY COMPRESSEDfÀs HEAVYfÀUPWARDS HEAVYf",
      "ÀkWARDS HEAVYfÀDOWNWARDS HEAVYf"]),
    (0x1F850, ["s SANS-SERIFfÀUPWARDS SANS-SERIFfÀkWARDS SANS-SERIFf",
      "ÀDOWNWARDS SANS-SERIFfÀNORTH WEST SANS-SERIFfÆEAST SANS-SERIFf",
      "ÀSOUTH EAST SANS-SERIFfÆWEST SANS-SERIFfÀok SANS-SERIFfÀUP DOWN SANS-",
      "SERIFf"]),
    (0x1F860, ["WIDE-HEADED s LIGHT BARBfÌUPWARDS LIGHT BARBfÌkWARDS LIGHT B",
      "ARBfÌDOWNWARDS LIGHT BARBfÌNORTH WEST LIGHT BARBfÒEAST LIGHT BARBf",
      "ÌSOUTH EAST LIGHT BARBfÒWEST LIGHT BARBfÌs BARBfÌUPWARDS BARBf",
      "ÌkWARDS BARBfÌDOWNWARDS BARBfÌNORTH WEST BARBfÒEAST BARBfÌSOUTH EAST ",
      "BARBfÒWEST BARBfÌs MEDIUM BARBfÌUPWARDS MEDIUM BARBfÌkWARDS MEDIUM BA",
      "RBfÌDOWNWARDS MEDIUM BARBfÌNORTH WEST MEDIUM BARBfÒEAST MEDIUM BARBf",
      "ÌSOUTH EAST MEDIUM BARBfÒWEST MEDIUM BARBfÌs HEAVY BARBfÌUPWARDS HEAV",
      "Y BARBfÌkWARDS HEAVY BARBfÌDOWNWARDS HEAVY BARBfÌNORTH WEST HEAVY BAR",
      "BfÒEAST HEAVY BARBfÌSOUTH EAST HEAVY BARBfÒWEST HEAVY BARBf",
      "Ìs VERY HEAVY BARBfÌUPWARDS VERY HEAVY BARBfÌkWARDS VERY HEAVY BARBf",
      "ÌDOWNWARDS VERY HEAVY BARBfÌNORTH WEST VERY HEAVY BARBfÒEAST VERY HEA",
      "VY BARBfÌSOUTH EAST VERY HEAVY BARBfÒWEST VERY HEAVY BARBf"]),
    (0x1F890, ["s TRIANGLEfHEADÀUPWARDS TRIANGLEfHEADÀkWARDS TRIANGLEfHEAD",
      "ÀDOWNWARDS TRIANGLEfHEADÀs WHITEf WITHIN TRIANGLEfHEADÀUPWARDS WHITEf",
      " WITHIN TRIANGLEfHEADÀkWARDS WHITEf WITHIN TRIANGLEfHEADÀDOWNWARDS WH",
      "ITEf WITHIN TRIANGLEfHEADÀsfbNOTCHED TAILÀUPWARDSfbNOTCHED TAIL",
      "ÀkWARDSfbNOTCHED TAILÀDOWNWARDSfbNOTCHED TAILÀHEAVYf SHAFT WIDTH ONE",
      "ØTWO THIRDSØONE HALFÜTHIRDÀs BOTTOM-SHADED WHITEfÀkWARDS BOTTOM SHADE",
      "D WHITEfÀs TOP SHADED WHITEfÀkWARDS TOP SHADED WHITEfÀs LEFT-SHADED W",
      "HITEfÀkWARDS k-SHADED WHITEfÀs k-SHADED WHITEfÀkWARDS LEFT-SHADED WHI",
      "TEfÀs BACK-TILTED SHADOWED WHITEfÀkWARDS BACK-TILTED SHADOWED WHITEf",
      "Às FRONT-TILTED SHADOWED WHITEfÀkWARDS FRONT-TILTED SHADOWED WHITEf",
      "ÀWHITEf SHAFT WIDTH ONEØTWO THIRDS"]),
    (0x1F8B0, ["ARROW POINTING UPWARDS THEN NORTH WESTÏkWARDS THEN CURVING S",
      "OUTH WEST"]),
    (0x1F900, ["CIRCLED CROSSeEEbFOUR DOTSÚTWO DOTSÔÀoHALF CIRCLEbFOUR DOTS",
      "ÖTHREE DOTS×WO DOTSÖDOTÐÀDOWNWARD FACING HOOKÐNOTCHED HOOKÐHOOKbDOT",
      "ÐNOTCHED HOOKbDOTÀPINCHED FINGERSÀWHITE HEARTÀBROWN HEARTÀPINCHING HA",
      "NDÀZIPPER-MOUTH FACEÀMONEY-MOUTH FACEÀFACEbTHERMOMETERÀNERD FACE",
      "ÀTHINKING FACEÀFACEbHEAD-BANDAGEÀROBOT FACEÀHUGGING FACEÀSIGN OF THE ",
      "HORNSÀCALL ME HANDÀRAISED BACK OF HANDÀLEFT-FACING FISTÀk-FACING FIST",
      "ÀHANDSHAKEÄbINDEXgyFINGERS CROSSEDÀI LOVE YOU HANDhÀFACEbCOWBOY HAT",
      "ÀCLOWN FACEÀNAUSEATED FACEÀROLLING ON THE FLOOR LAUGHINGÀDROOLING FAC",
      "EÀLYING FACEÀFACE PALMÀSNEEZING FACEÀFACEbONE EYEBROW RAISED",
      "ÀGRINNING FACEbSTAR EYESÓONE LARGEgONE d EYEÀFACEbFINGER COVERING CLO",
      "SED LIPSÀSERIOUS FACEbSYMBOLS COVERING MOUTHÁMILING FACEbSMILING EYES",
      "gHAND COVERING MOUTHÀFACEbOPEN MOUTH VOMITINGÀSHOCKED FACEbEXPLODING ",
      "HEADÀPREGNANT WOMANÀBREAST-FEEDINGÀPALMS UP TOGETHERÀSELFIEÀPRINCE",
      "ÀMAN IN TUXEDOÁOTHER CHRISTMASÀSHRUGÀPERSON DOING CARTWHEELÀJUGGLING",
      "ÀFENCERÀMODERN PENTATHLONÀWRESTLERSÁATER POLOÀHANDBALLÀDIVING MASK",
      "ÀWILTED FLOWERÀDRUMbDRUMSTICKSÀCLINKING GLASSESÀTUMBLER GLASSÀSPOON",
      "ÀGOAL NETÀRIFLEÀFIRST PLACE MEDALÀSECOND PLACE MEDALÀTHIRD PLACE MEDA",
      "LÀBOXING GLOVEÀMARTIAL ARTS UNIFORMÀCURLING STONEÀLACROSSE STICKgBALL",
      "ÀSOFTBALLÀFLYING DISCÀCROISSANTÀAVOCADOÀCUCUMBERÀBACONÀPOTATOÀCARROT",
      "ÀBAGUETTE BREADÀGREEN SALADÀSHALLOW PAN OF FOODÁTUFFED FLATBREADÀEGG",
      "ÀGLASS OF MILKÀPEANUTSÀKIWIFRUITÀPANCAKESÀDUMPLINGÀFORTUNE COOKIE",
      "ÀTAKEOUT BOXÀCHOPSTICKSÀBOWLbSPOONÀCUPbSTRAWÁOCONUTÀBROCCOLIÀPIE",
      "ÁRETZELÀCUT OF MEATÀSANDWICHÀCANNED FOODÀLEAFY GREENÀMANGOÁOON CAKE",
      "ÀBAGELÀSMILING FACEbSMILING EYESgTHREE HEARTSÀYAWNING FACE",
      "ÀSMILING FACEbTEARÀFACEbPARTY HORNgPARTY HATÊUNEVEN EYESgWAVY MOUTH",
      "ÀOVERHEATED FACEÀFREEZING FACEÀNINJAÀDISGUISED FACEÀFACE HOLDING BACK",
      " TEARSÅWITH PLEADING EYESÀSARIÀLAB COATÀGOGGLESÀHIKING BOOTÀFLAT SHOE",
      "ÀCRABÀLION FACEÀSCORPIONÀTURKEYÀUNICORN FACEÀEAGLEÀDUCKÀBATÀSHARKÀOWL",
      "ÀFOX FACEÀBUTTERFLYÀDEERÀGORILLAÀLIZARDÀRHINOCEROSÀSHRIMPÁQUID",
      "ÀGIRAFFE FACEÀZEBRA FACEÀHEDGEHOGÀSAUROPODÀT-REXÀCRICKETÀKANGAROO",
      "ÀLLAMAÀPEACOCKÀHIPPOPOTAMUSÀPARROTÀRACCOONÀLOBSTERÀMOSQUITOÁICROBE",
      "ÀBADGERÀSWANÀMAMMOTHÀDODOÀSLOTHÀOTTERÁRANGUTANÀSKUNKÀFLAMINGOÀOYSTER",
      "ÀBEAVERÁISONÀSEALÀGUIDE DOGÀPROBING CANEÀEMOJI COMPONENT RED HAIR",
      "ÐCURLY HAIRÐBALDÐWHITE HAIRÀBONEÀLEGÀFOOTÀTOOTHÀSUPERHEROÅVILLAIN",
      "ÁAFETY VESTÀEARbHEARING AIDÀMOTORIZED WHEELCHAIRÁANUAL WHEELCHAIR",
      "ÁECHANICAL ARMËLEGÀCHEESE WEDGEÁUPCAKEÀSALT SHAKERÀBEVERAGE BOX",
      "ÀGARLICÀONIONÀFALAFELÀWAFFLEÀBUTTERÀMATE DRINKÀICE CUBEÀBUBBLE TEA",
      "ÀTROLLÀSTANDING PERSONÀKNEELING PERSONÀDEAF PERSONÀFACEbMONOCLEÀADULT",
      "ÀCHILDÀOLDER ADULTÀBEARDED PERSONÀPERSONbHEADSCARFÇIN STEAMY ROOM",
      "ÇCLIMBINGÇIN LOTUS POSITIONÀMAGEÀFAIRYÀVAMPIREÀMERPERSONÀELFÀGENIE",
      "ÀZOMBIEÀBRAINÀORANGE HEARTÀBILLED CAPÀSCARFÀGLOVESÀCOATÀSOCKS",
      "ÀRED GIFT ENVELOPEÀFIRECRACKERÀJIGSAW PUZZLE PIECEÀTEST TUBE",
      "ÀPETRI DISHÀDNA l HELIXÀCOMPASSÀABACUSÀFIRE EXTINGUISHERÀTOOLBOX",
      "ÀBRICKÀMAGNETÀLUGGAGEÁOTION BOTTLEÀSPOOL OF THREADÀBALL OF YARN",
      "ÀSAFETY PINÀTEDDY BEARÀBROOMÁASKETÀROLL OF PAPERÀBAR OF SOAPÀSPONGE",
      "ÀRECEIPTÀNAZAR AMULETÁEUTRAL CHESS KINGÎQUEENÎROOKÎBISHOPÎKNIGHTÎPAWN",
      "ÀWHITE CHESS KNIGHT ROTATED FORTY-FIVE DEGREESÀx CHESS KNIGHT ROTATED",
      " FORTY-FIVE DEGREESÀNEUTRAL CHESS KNIGHT ROTATED FORTY-FIVE DEGREES",
      "ÀWHITE CHESS KING ROTATED NINETY DEGREESÌQUEEN ROTATED NINETY DEGREES",
      "ÌROOK ROTATED NINETY DEGREESÌBISHOP ROTATED NINETY DEGREES",
      "ÌKNIGHT ROTATED NINETY DEGREESÌPAWN ROTATED NINETY DEGREES",
      "Àx CHESS KING ROTATED NINETY DEGREESÌQUEEN ROTATED NINETY DEGREES",
      "ÌROOK ROTATED NINETY DEGREESÌBISHOP ROTATED NINETY DEGREES",
      "ÌKNIGHT ROTATED NINETY DEGREESÌPAWN ROTATED NINETY DEGREES",
      "ÀNEUTRAL CHESS KING ROTATED NINETY DEGREESÎQUEEN ROTATED NINETY DEGRE",
      "ESÎROOK ROTATED NINETY DEGREESÎBISHOP ROTATED NINETY DEGREES",
      "ÎKNIGHT ROTATED NINETY DEGREESÎPAWN ROTATED NINETY DEGREES",
      "ÀWHITE CHESS KNIGHT ROTATED ONEz THIRTY-FIVE DEGREESÀx CHESS KNIGHT R",
      "OTATED ONEz THIRTY-FIVE DEGREESÀNEUTRAL CHESS KNIGHT ROTATED ONEz THI",
      "RTY-FIVE DEGREESÀWHITE CHESS TURNED KINGÓQUEENÓROOKÓBISHOPÓKNIGHT",
      "ÓPAWNÀx CHESS TURNED KINGÓQUEENÓROOKÓBISHOPÓKNIGHTÓPAWNÀNEUTRAL CHESS",
      " TURNED KINGÕQUEENÕROOKÕBISHOPÕKNIGHTÕPAWNÀWHITE CHESS KNIGHT ROTATED",
      " TWOz TWENTY-FIVE DEGREESÀx CHESS KNIGHT ROTATED TWOz TWENTY-FIVE DEG",
      "REESÀNEUTRAL CHESS KNIGHT ROTATED TWOz TWENTY-FIVE DEGREES",
      "ÀWHITE CHESS KING ROTATED TWOz SEVENTY DEGREESÌQUEEN ROTATED TWOz SEV",
      "ENTY DEGREESÌROOK ROTATED TWOz SEVENTY DEGREESÌBISHOP ROTATED TWOz SE",
      "VENTY DEGREESÌKNIGHT ROTATED TWOz SEVENTY DEGREESÌPAWN ROTATED TWOz S",
      "EVENTY DEGREESÀx CHESS KING ROTATED TWOz SEVENTY DEGREESÌQUEEN ROTATE",
      "D TWOz SEVENTY DEGREESÌROOK ROTATED TWOz SEVENTY DEGREESÌBISHOP ROTAT",
      "ED TWOz SEVENTY DEGREESÌKNIGHT ROTATED TWOz SEVENTY DEGREES",
      "ÌPAWN ROTATED TWOz SEVENTY DEGREESÀNEUTRAL CHESS KING ROTATED TWOz SE",
      "VENTY DEGREESÎQUEEN ROTATED TWOz SEVENTY DEGREESÎROOK ROTATED TWOz SE",
      "VENTY DEGREESÎBISHOP ROTATED TWOz SEVENTY DEGREESÎKNIGHT ROTATED TWOz",
      " SEVENTY DEGREESÎPAWN ROTATED TWOz SEVENTY DEGREESÀWHITE CHESS KNIGHT",
      " ROTATED THREEz FIFTEEN DEGREESÀx CHESS KNIGHT ROTATED THREEz FIFTEEN",
      " DEGREESÀNEUTRAL CHESS KNIGHT ROTATED THREEz FIFTEEN DEGREES",
      "ÀWHITE CHESS EQUIHOPPERÀx CHESS EQUIHOPPERÀNEUTRAL CHESS EQUIHOPPER",
      "ÀWHITE CHESS EQUIHOPPER ROTATED NINETY DEGREESÀx CHESS EQUIHOPPER ROT",
      "ATED NINETY DEGREESÀNEUTRAL CHESS EQUIHOPPER ROTATED NINETY DEGREES",
      "ÀWHITE CHESS KNIGHT-QUEENÓROOKÓBISHOPÀx CHESS KNIGHT-QUEENÓROOK",
      "ÓBISHOP"]),
    (0x1FA60, ["XIANGQI RED GENERALÌMANDARINÌELEPHANTÌHORSEÌCHARIOTÍANNON",
      "ÌSOLDIERÈx GENERALÎMANDARINÎELEPHANTÎHORSEÎCHARIOTÏANNONÎSOLDIER"]),
    (0x1FA70, ["BALLET SHOESÀONE-PIECE SWIMSUITÀBRIEFSÀSHORTSÀTHONG SANDAL"]),
    (0x1FA78, ["DROP OF BLOODÀADHESIVE BANDAGEÀSTETHOSCOPEÀX-RAYÀCRUTCH"]),
    (0x1FA80, ["YO-YOÀKITEÀPARACHUTEÀBOOMERANGÀMAGIC WANDÀPINATAÀNESTING DOL",
      "LS"]),
    (0x1FA90, ["RINGED PLANETÀCHAIRÀRAZORÀAXEÀDIYA LAMPÀBANJOÀMILITARY HELME",
      "TÀACCORDIONÀLONG DRUMÀCOINÁARPENTRY SAWÀSCREWDRIVERÀLADDERÀHOOK",
      "ÀMIRRORÀWINDOWÀPLUNGERÀSEWING NEEDLEÀKNOTÀBUCKETÀMOUSE TRAP",
      "ÀTOOTHBRUSHÀHEADSTONEÀPLACARDÀROCKÀMIRROR BALLÀIDENTIFICATION CARD",
      "ÀLOW BATTERYÀHAMSA"]),
    (0x1FAB0, ["FLYÀWORMÀBEETLEÀCOCKROACHÀPOTTED PLANTÀWOODÀFEATHERÀLOTUS",
      "ÀCORALÀEMPTY NESTÀNESTbEGGS"]),
    (0x1FAC0, ["ANATOMICAL HEARTÀLUNGSÀPEOPLE HUGGINGÁREGNANT MANÉPERSON",
      "ÁERSONbCROWN"]),
    (0x1FAD0, ["BLUEBERRIESÁELL PEPPERÀOLIVEÀFLATBREADÀTAMALEÀFONDUEÀTEAPOT",
      "ÀPOURING LIQUIDÀBEANSÀJAR"]),
    (0x1FAE0, ["MELTING FACEÀSALUTING FACEÀFACEbOPEN EYESgHAND OVER MOUTH",
      "ÊPEEKING EYEÊDIAGONAL MOUTHÀDOTTED LINE FACEÀBITING LIPÁUBBLES"]),
    (0x1FAF0, ["HANDbINDEX FINGERgTHUMB CROSSEDÀkWARDS HANDÀs HAND",
      "ÀPALM DOWN HANDÅUP HANDÀINDEX POINTING AT THE VIEWERÀHEART HANDS"]),
    (0x1FB00, ["BLOCK SEXTANT-1Î2Î12Î3Î13Î23Î123Î4Î14Î24Î124Î34Î134Î234Î1234",
      "Î5Î15Î25Î125Î35Î235Î1235Î45Î145Î245Î1245Î345Î1345Î2345Î12345Î6Î16Î26",
      "Î126Î36Î136Î236Î1236Î46Î146Ï246Î346Î1346Î2346Î12346Î56Î156Î256Î1256",
      "Î356Î1356Î2356Î12356Î456Î1456Î2456Î12456Î3456Î13456Î23456ÀLOWER oBLOC",
      "K DIAGONAL LOWER yoTO LOWER CENTREõkÚUPPER yoTO LOWER CENTREõk",
      "àoTO LOWER CENTREÆk BLOCK DIAGONAL UPPER yoTO UPPER CENTREök",
      "ÛLOWER yoTO UPPER CENTREökáoTO UPPER CENTREáyoTO UPPER ykáCENTRE TO L",
      "OWER ykáoTO LOWER ykáCENTRE TO UPPER ykáoTO UPPER ykáCENTRE TO UPPER ",
      "kÆoBLOCK DIAGONAL UPPER CENTRE TO UPPER ykàoTO UPPER ykàCENTRE TO LOW",
      "ER ykàoTO LOWER ykàCENTRE TO LOWER kàyoTO LOWER ykÀUPPER k BLOCK DIAG",
      "ONAL LOWER yoTO LOWER CENTREökÛUPPER yoTO LOWER CENTREökáoTO LOWER CE",
      "NTREÆoBLOCK DIAGONAL UPPER yoTO UPPER CENTREõkÚLOWER yoTO UPPER CENTR",
      "EõkàoTO UPPER CENTREàyoTO UPPER ykàCENTRE TO LOWER ykàoTO LOWER yk",
      "àCENTRE TO UPPER ykàoTO UPPER ykàCENTRE TO UPPER kÆk BLOCK DIAGONAL U",
      "PPER CENTRE TO UPPER ykáoTO UPPER ykáCENTRE TO LOWER ykáoTO LOWER yk",
      "áCENTRE TO LOWER káyoTO LOWER ykÆAND kgLOWER TRIANGULAR THREE QUARTER",
      "S BLOCKÀLEFTgLOWERgk TRIANGULAR THREE QUARTERS BLOCKÀUPPERgLEFTgLOWER",
      " TRIANGULAR THREE QUARTERS BLOCKÀLEFTgUPPERgk TRIANGULAR THREE QUARTE",
      "RS BLOCKÅTRIANGULAR ONE QUARTER BLOCKÀUPPER TRIANGULAR ONE QUARTER BL",
      "OCKÀk TRIANGULAR ONE QUARTER BLOCKÀLOWER TRIANGULAR ONE QUARTER BLOCK",
      "Àp ONE EIGHTH BLOCK-2Ú3Ú4Ú5Ú6Ú7Àw ONE EIGHTH BLOCK-2Ü3Ü4Ü5Ü6Ü7",
      "ÀLEFTgLOWER ONE EIGHTH BLOCKÉUPPER ONE EIGHTH BLOCKÀkgUPPER ONE EIGHT",
      "H BLOCKÊLOWER ONE EIGHTH BLOCKÀUPPERgLOWER ONE EIGHTH BLOCK",
      "Àw ONE EIGHTH BLOCK-1358ÀUPPER ONE QUARTER BLOCKÆTHREE EIGHTHS BLOCK",
      "ÆFIVE EIGHTHS BLOCKÆTHREE QUARTERS BLOCKÆSEVEN EIGHTHS BLOCK",
      "Àk ONE QUARTER BLOCKÆTHREE EIGHTHS BLOCKÆFIVE EIGHTHS BLOCK",
      "ÆTHREE QUARTERS BLOCKÆSEVEN EIGHTHS BLOCKÀoHALF MEDIUM SHADE",
      "Àk HALF MEDIUM SHADEÀUPPER HALF MEDIUM SHADEÀLOWER HALF MEDIUM SHADE",
      "ÀINVERSE MEDIUM SHADEÀUPPER HALF BLOCKgLOWER HALF INVERSE MEDIUM SHAD",
      "EËINVERSE MEDIUM SHADEgLOWER HALF BLOCK"]),
    (0x1FB94, ["oHALF INVERSE MEDIUM SHADEgk HALF BLOCKÀCHECKER BOARD FILL",
      "ÀINVERSE CHECKER BOARD FILLÀHEAVY w FILLÀUPPER oTO LOWER k FILL",
      "Æk TO LOWER oFILLÆAND LOWER TRIANGULAR HALF BLOCKÀLEFTgk TRIANGULAR H",
      "ALF BLOCKÀUPPER oTRIANGULAR MEDIUM SHADEÆk TRIANGULAR MEDIUM SHADE",
      "ÀLOWER k TRIANGULAR MEDIUM SHADEÆoTRIANGULAR MEDIUM SHADEÀBOX DRAWING",
      "S LIGHT DIAGONAL UPPER CENTRE TO yLEFTókÜyoTO LOWER CENTRE",
      "ãk TO LOWER CENTREÜUPPER CENTRE TO yoTO LOWER CENTREók TO LOWER CENTR",
      "EÜyoTO LOWER CENTRE TO ykëUPPER CENTRE TO ykÜUPPER CENTRE TO yLEFTgyk",
      " TO LOWER CENTREókgyoTO LOWER CENTREùTO LOWER CENTRE TO yLEFT",
      "óoTO LOWER CENTRE TO ykÜyoTO UPPER CENTRE TO yk TO LOWER CENTRE",
      "ãk TO UPPER CENTRE TO yoTO LOWER CENTREÜDIAMONDÓwbp vÀARROWHEAD-SHAPE",
      "D POINTERÀINVERSE CHECKuÀoHALF RUNNING MANÀk HALF RUNNING MAN",
      "ÀINVERSE DOWNWARDSfbTIP sÀsfgUPPERgLOWER ONE EIGHTH BLOCKÀkWARDSfgUPP",
      "ERgLOWER ONE EIGHTH BLOCKÀDOWNWARDSfgk ONE EIGHTH BLOCKÀUPWARDSfgk ON",
      "E EIGHTH BLOCKÀoHALF FOLDERÀk HALF FOLDERÀVOIDED GREEK CROSS",
      "Àk OPEN SQUARED DOTÀNEGATIVE DIAGONAL CROSSÒyk TO LOWER CENTRE",
      "ÒDIAMONDÀWHITE HEAVY SALTIREbROUNDED CORNERSÀoTHIRD WHITE k POINTING ",
      "INDEXÀyTHIRD WHITE k POINTING INDEXÀk THIRD WHITE k POINTING INDEX",
      "ÀNEGATIVE SQUARED QUESTIONuÀSTICK FIGUREÌbARMS RAISEDÍLEANING LEFTÕk",
      "ÍWITH DRESSÀWHITE UP-POINTING CHEVRON"]),
    (0x1FBF0, ["SEGMENTED DIGIT ZEROÐONEÐTWOÑHREEÐFOURÑIVEÐSIXÑEVENÐEIGHT",
      "ÐNINE"]),
    (0x2F800, ["CJK COMPATIBILITY IDEOGRAPH-2F800à1à2à3à4à5à6à7à8à9àAàBàCàD",
      "àEàFß10à1à2à3à4à5à6à7à8à9àAàBàCàDàEàFß20à1à2à3à4à5à6à7à8à9àAàBàCàDàE",
      "àFß30à1à2à3à4à5à6à7à8à9àAàBàCàDàEàFß40à1à2à3à4à5à6à7à8à9àAàBàCàDàEàF",
      "ß50à1à2à3à4à5à6à7à8à9àAàBàCàDàEàFß60à1à2à3à4à5à6à7à8à9àAàBàCàDàEàFß70",
      "à1à2à3à4à5à6à7à8à9àAàBàCàDàEàFß80à1à2à3à4à5à6à7à8à9àAàBàCàDàEàFß90à1",
      "à2à3à4à5à6à7à8à9àAàBàCàDàEàFßA0à1à2à3à4à5à6à7à8à9àAàBàCàDàEàFßB0à1à2",
      "à3à4à5à6à7à8à9àAàBàCàDàEàFßC0à1à2à3à4à5à6à7à8à9àAàBàCàDàEàFßD0à1à2à3",
      "à4à5à6à7à8à9àAàBàCàDàEàFßE0à1à2à3à4à5à6à7à8à9àAàBàCàDàEàFßF0à1à2à3à4",
      "à5à6à7à8à9àAàBàCàDàEàFÞ900à1à2à3à4à5à6à7à8à9àAàBàCàDàEàFß10à1à2à3à4à5",
      "à6à7à8à9àAàBàCàDàEàFß20à1à2à3à4à5à6à7à8à9àAàBàCàDàEàFß30à1à2à3à4à5à6",
      "à7à8à9àAàBàCàDàEàFß40à1à2à3à4à5à6à7à8à9àAàBàCàDàEàFß50à1à2à3à4à5à6à7",
      "à8à9àAàBàCàDàEàFß60à1à2à3à4à5à6à7à8à9àAàBàCàDàEàFß70à1à2à3à4à5à6à7à8",
      "à9àAàBàCàDàEàFß80à1à2à3à4à5à6à7à8à9àAàBàCàDàEàFß90à1à2à3à4à5à6à7à8à9",
      "àAàBàCàDàEàFßA0à1à2à3à4à5à6à7à8à9àAàBàCàDàEàFßB0à1à2à3à4à5à6à7à8à9àA",
      "àBàCàDàEàFßC0à1à2à3à4à5à6à7à8à9àAàBàCàDàEàFßD0à1à2à3à4à5à6à7à8à9àAàB",
      "àCàDàEàFßE0à1à2à3à4à5à6à7à8à9àAàBàCàDàEàFßF0à1à2à3à4à5à6à7à8à9àAàBàC",
      "àDàEàFÞA00à1à2à3à4à5à6à7à8à9àAàBàCàDàEàFß10à1à2à3à4à5à6à7à8à9àAàBàCàD"]),
    (0xE0001, ["LANGUAGE TAG"]),
    (0xE0020, ["TAG SPACEÄEXCLAMATIONuÄQUOTATIONuÄNUMBERhÄDOLLARhÄPERCENTh",
      "ÄAMPERSANDÅPOSTROPHEÄoPARENTHESISÄk PARENTHESISÄASTERISKÄPLUShÄCOMMA",
      "ÄHYPHEN-MINUSÄFULL STOPÄSOLIDUSÄDIGIT ZEROÊONEÊTWOËHREEÊFOURËIVEÊSIX",
      "ËEVENÊEIGHTÊNINEÄCOLONÄSEMICOLONÄLESS-THANhÄEQUALShÄGREATER-THANh",
      "ÄQUESTIONuÄCOMMERCIAL ATÄLATIN caAÙBÙCÙDÙEÙFÙGÙHÙIÙJÙKÙLÙMÙNÙOÙPÙQÙR",
      "ÙSÙTÙUÙVÙWÙXÙYÙZÅEFT SQUARE BRACKETÄREVERSE SOLIDUSÅIGHT SQUARE BRACK",
      "ETÄCIRCUMFLEX ACCENTÄLOW LINEÄGRAVE ACCENTÄLATIN daA×B×C×D×E×F×G×H×I",
      "×J×K×L×M×N×O×P×Q×R×S×T×U×V×W×X×Y×ZÅEFT CURLY BRACKETÄp LINE",
      "Äk CURLY BRACKETÄTILDEÀCANCEL TAG"]),
    (0xE0100, ["VARIATION SELECTOR-17Ô8Ô9Ó20Ô1Ô2Ô3Ô4Ô5Ô6Ô7Ô8Ô9Ó30Ô1Ô2Ô3Ô4Ô5",
      "Ô6Ô7Ô8Ô9Ó40Ô1Ô2Ô3Ô4Ô5Ô6Ô7Ô8Ô9Ó50Ô1Ô2Ô3Ô4Ô5Ô6Ô7Ô8Ô9Ó60Ô1Ô2Ô3Ô4Ô5Ô6Ô7Ô8",
      "Ô9Ó70Ô1Ô2Ô3Ô4Ô5Ô6Ô7Ô8Ô9Ó80Ô1Ô2Ô3Ô4Ô5Ô6Ô7Ô8Ô9Ó90Ô1Ô2Ô3Ô4Ô5Ô6Ô7Ô8Ô9Ó100",
      "Õ1Õ2Õ3Õ4Õ5Õ6Õ7Õ8Õ9Ô10Õ1Õ2Õ3Õ4Õ5Õ6Õ7Õ8Õ9Ô20Õ1Õ2Õ3Õ4Õ5Õ6Õ7Õ8Õ9Ô30Õ1Õ2Õ3",
      "Õ4Õ5Õ6Õ7Õ8Õ9Ô40Õ1Õ2Õ3Õ4Õ5Õ6Õ7Õ8Õ9Ô50Õ1Õ2Õ3Õ4Õ5Õ6Õ7Õ8Õ9Ô60Õ1Õ2Õ3Õ4Õ5Õ6",
      "Õ7Õ8Õ9Ô70Õ1Õ2Õ3Õ4Õ5Õ6Õ7Õ8Õ9Ô80Õ1Õ2Õ3Õ4Õ5Õ6Õ7Õ8Õ9Ô90Õ1Õ2Õ3Õ4Õ5Õ6Õ7Õ8Õ9",
      "Ó200Õ1Õ2Õ3Õ4Õ5Õ6Õ7Õ8Õ9Ô10Õ1Õ2Õ3Õ4Õ5Õ6Õ7Õ8Õ9Ô20Õ1Õ2Õ3Õ4Õ5Õ6Õ7Õ8Õ9Ô30Õ1",
      "Õ2Õ3Õ4Õ5Õ6Õ7Õ8Õ9Ô40Õ1Õ2Õ3Õ4Õ5Õ6Õ7Õ8Õ9Ô50Õ1Õ2Õ3Õ4Õ5Õ6"])]

/-- Aliases of characters. -/
def aliasRuns : List (Nat × List String) :=
  [(0x0, ["NULLÀSTART OF HEADINGÉTEXTÀEND OF TEXTÈRANSMISSIONÂQUIRY",
      "ÀACKNOWLEDGEÁLERTÀBACKSPACEÀw TABULATIONÀEND OF LINEÀp TABULATION",
      "ÀFORM FEEDÀCARRIAGE RETURNÀLOCKING-SHIFT ONEÎZEROÀDATA LINK ESCAPE",
      "ÁEVICE CONTROL ONEÏTWOÐHREEÏFOURÀNEGATIVE ACKNOWLEDGEÀSYNCHRONOUS IDL",
      "EÀEND OF TRANSMISSION BLOCKÀCANCELÀEND OF MEDIUMÀSUBSTITUTEÀESCAPE",
      "ÀINFORMATION SEPARATOR FOURÖTHREE×WOÖONEÀSP"]),
    (0x7F, ["DELETEÀPADDING CHARACTERÀHIGH OCTET PRESETÀBREAK PERMITTED HERE",
      "ÀNO BREAK HEREÀINDEXÀNEXT LINEÀSTART OF SELECTED AREAÀEND OF SELECTED",
      " AREAÀw TABULATION SETÖWITH JUSTIFICATIONÀp TABULATION SET",
      "ÀPARTIAL LINE FORWARDÍBACKWARDÀREVERSE LINE FEEDÀSINGLE SHIFT TWO",
      "ÎHREEÀDEVICE CONTROL STRINGÀPRIVATE USE ONEÌTWOÀSET TRANSMIT STATE",
      "ÀCANCEL CHARACTERÀMESSAGE WAITINGÀSTART OF PROTECTED AREAÀEND OF PROT",
      "ECTED AREAÀSTART OF STRINGÁINGLE GRAPHIC CHARACTER INTRODUCER",
      "ÇCHARACTER INTRODUCERÀCONTROL SEQUENCE INTRODUCERÀSTRING TERMINATOR",
      "ÀOPERATING SYSTEM COMMANDÀPRIVACY MESSAGEÀAPPLICATION PROGRAM COMMAND",
      "ÀNBSP"]), (0xAD, ["SHY"]), (0x1A2, ["LATIN caGHAÆdaGHA"]),
    (0x34F, ["CGJ"]), (0x61C, ["ALM"]),
    (0x709, ["SYRIAC SUBLINEAR COLON SKEWED LEFT"]), (0xCDE, ["KANNADAaLLLA"]),
    (0xE9D, ["LAOaFO FON"]), (0xE9F, ["LAOaFO FAY"]), (0xEA3, ["LAOaRO"]),
    (0xEA5, ["LAOaLO"]), (0xFD0, ["TIBETANu BKA- SHOG GI MGO RGYAN"]),
    (0x11EC, ["HANGUL JONGSEONG YESIEUNG-KIYEOKÚSSANGKIYEOKÑSSANGYESIEUNG",
      "ÑYESIEUNG-KHIEUKH"]), (0x180B, ["FVS1Ã2Ã3ÀMVSÀFVS4"]),
    (0x200B, ["ZWSPÂNJÂJÀLRMÀRLM"]), (0x202A, ["LREÀRLEÀPDFÀLROÀRLOÀNNBSP"]),
    (0x205F, ["MMSPÀWJ"]), (0x2066, ["LRIÀRLIÀFSIÀPDI"]),
    (0x2118, ["WEIERSTRASS ELLIPTIC FUNCTION"]),
    (0x2448, ["MICR ON USqÅDASHq"]), (0x2B7A, ["stfbl p v"]),
    (0x2B7C, ["kWARDStfbl p v"]), (0xA015, ["YI SYLLABLE ITERATIONu"]),
    (0xAA6E, ["MYANMARaKHAMTI LLA"]),
    (0xFE00, ["VS1Â2Â3Â4Â5Â6Â7Â8Â9Â10Ã1Ã2Ã3Ã4Ã5Ã6"]),
    (0xFE18, ["PRESENTATIONe FOR p k WHITE LENTICULAR BRACKET"]),
    (0xFEFF, ["BYTE ORDERu"]),
    (0x122D4, ["CUNEIFORMh NU11 TENUÔOVER NU11 BUR OVER BUR"]),
    (0x16E56, ["MEDEFAIDRIN caHÛNG"]), (0x16E76, ["MEDEFAIDRIN daHÙNG"]),
    (0x1B001, ["HENTAIGANAaE-1"]),
    (0x1D0C5, ["BYZANTINE MUSICALq FTHORA SKLIRON CHROMA VASIS"]),
    (0xE0100, ["VS17Ã8Ã9Â20Ã1Ã2Ã3Ã4Ã5Ã6Ã7Ã8Ã9Â30Ã1Ã2Ã3Ã4Ã5Ã6Ã7Ã8Ã9Â40Ã1Ã2Ã3",
      "Ã4Ã5Ã6Ã7Ã8Ã9Â50Ã1Ã2Ã3Ã4Ã5Ã6Ã7Ã8Ã9Â60Ã1Ã2Ã3Ã4Ã5Ã6Ã7Ã8Ã9Â70Ã1Ã2Ã3Ã4Ã5Ã6",
      "Ã7Ã8Ã9Â80Ã1Ã2Ã3Ã4Ã5Ã6Ã7Ã8Ã9Â90Ã1Ã2Ã3Ã4Ã5Ã6Ã7Ã8Ã9Â100Ä1Ä2Ä3Ä4Ä5Ä6Ä7Ä8",
      "Ä9Ã10Ä1Ä2Ä3Ä4Ä5Ä6Ä7Ä8Ä9Ã20Ä1Ä2Ä3Ä4Ä5Ä6Ä7Ä8Ä9Ã30Ä1Ä2Ä3Ä4Ä5Ä6Ä7Ä8Ä9Ã40",
      "Ä1Ä2Ä3Ä4Ä5Ä6Ä7Ä8Ä9Ã50Ä1Ä2Ä3Ä4Ä5Ä6Ä7Ä8Ä9Ã60Ä1Ä2Ä3Ä4Ä5Ä6Ä7Ä8Ä9Ã70Ä1Ä2Ä3",
      "Ä4Ä5Ä6Ä7Ä8Ä9Ã80Ä1Ä2Ä3Ä4Ä5Ä6Ä7Ä8Ä9Ã90Ä1Ä2Ä3Ä4Ä5Ä6Ä7Ä8Ä9Â200Ä1Ä2Ä3Ä4Ä5",
      "Ä6Ä7Ä8Ä9Ã10Ä1Ä2Ä3Ä4Ä5Ä6Ä7Ä8Ä9Ã20Ä1Ä2Ä3Ä4Ä5Ä6Ä7Ä8Ä9Ã30Ä1Ä2Ä3Ä4Ä5Ä6Ä7Ä8",
      "Ä9Ã40Ä1Ä2Ä3Ä4Ä5Ä6Ä7Ä8Ä9Ã50Ä1Ä2Ä3Ä4Ä5Ä6"]),
    (0x0, ["NULÀSOHÁTXÀETXÁOTÁNQÀACKÀBELÁSÀCHARACTER TABULATIONÀLINE FEED",
      "ÅTABULATIONÀFFÀCRÀSHIFT OUTÆINÀDLEÁC1Â2Â3Â4ÀNAKÀSYNÀETBÀCANÀEOMÀSUB",
      "ÀESCÀFILE SEPARATORÀGROUP SEPARATORÀRECORD SEPARATORÀUNIT SEPARATOR"]),
    (0x7F, ["DELÀPADÀHOPÀBPHÀNBHÀINDÀNELÀSSAÀESAÀCHARACTER TABULATION SET",
      "ÕWITH JUSTIFICATIONÀLINE TABULATION SETÀPARTIAL LINE DOWNÍUP",
      "ÀREVERSE INDEXÀSINGLE-SHIFT-2Í3ÀDCSÀPRIVATE USE-1Ì2ÀSTSÀCCHÀMW",
      "ÀSTART OF GUARDED AREAÀEND OF GUARDED AREAÀSOSÁGCÁCIÀCSIÀSTÀOSCÀPM",
      "ÀAPC"]), (0xFEFF, ["ZWNBSP"]), (0x9, ["TABÀNEW LINEÀVT"]),
    (0xE, ["SOÁI"]), (0x1C, ["FSÀGSÀRSÀUS"]),
    (0x88, ["HTSÂJÀVTSÀPLDÂUÀRIÀSS2Â3"]), (0x91, ["PU1Â2"]),
    (0x96, ["SPAÀEPA"]), (0xFEFF, ["BOM"]), (0x9, ["HTÀEOL"]), (0xA, ["LF"]),
    (0xA, ["NL"])]

/-- The runs of the table: the first code point, and the names. -/
def nameRuns : List (Nat × List String) :=
  alphabetRuns ++ signRuns ++ syllableRuns ++ ancientRuns ++ pictureRuns ++
    aliasRuns

end LedgerRules
