/-!
# The names of characters, listed

The names and aliases that version 14 of the Unicode standard gives to single characters, in the
order of their letters. Names that follow a rule, those of unified ideographs and of Hangul
syllables, are left out.

Neighbours in the listing begin alike, so each name is told by what sets it off from the one before:
small letters say how many characters to take off its end, `a` none, `b` one, up to `z` for
twenty-five, and the characters behind them are put there instead. Line breaks mean nothing.
-/

namespace RoleGrants.Text

/-- The listing of names. -/
def characterNameListing : String := "
ABACUSfC CURRENTiCORDIONfUNT OFiKaNOWLEDGEjTIVATE ARABIC FORM SHAPINGtSYMMETRIC SWAPPINGzUTE ACCENT
fNGLEkDDRESSED TO THE SUBJECTwHESIVE BANDAGEoI SHAKTIiLAM ALIF LENGTHENERpCAPITAL LETTER ALIFeBAbHE
dCHIdDAALIeHAdEbFAcGAbBEdHAcIbJIIMeKAFcHAcPOdLAAMeMIIMeNHAcUNcYAdObPEcQAAFeRAcSHAcINNYIIYHEkTUcUbVA
cWAWdYAbHEdZALrONSONANT MODIFIERsDIGIT EIGHTfFIVEdOUReNINEeONEdSEVENeIXdTHREEeWOdZERO
kGEMINATE CONSONANT MODIFIERuION MARKpHAMZAfINITIAL EXCLAMATION MARKqQUESTION MARK
vNASALIZATION MARKqUKTAfSMALL LETTER ALIFeBAbHEdCHIdDAALIeHAdEbFAcGAbBEdHAcIbJIIMeKAFcHAcPOdLAAM
eMIIMeNHAcUNcYAdObPEcQAAFeRAcSHAcINNYIIYHEkTUcUbVAcWAWdYAbHEdZALqVOWEL LENGTHENERuMETOS
eISSION TICKETSpULTeEGEAN CHECK MARKkDRY MEASURE FIRST SUBUNITzLIQUID MEASURE FIRST SUBUNIT
zdMEASURE SECOND SUBUNIToTHIRD SUBUNITvNUMBER EIGHTa HUNDREDhTHOUSANDjYa THOUSANDpFIFTYa THOUSAND
mVEa HUNDREDhTHOUSANDmORTYa THOUSANDmURa HUNDREDhTHOUSANDnNINEa HUNDREDhTHOUSANDjTYa THOUSANDpONE
a HUNDREDhTHOUSANDmSEVENa HUNDREDhTHOUSANDjTYa THOUSANDpIXa HUNDREDhTHOUSANDjTYa THOUSANDoTEN
a THOUSANDlHIRTYa THOUSANDnREEa HUNDREDhTHOUSANDnWENTYa THOUSANDnOa HUNDREDhTHOUSAND
tWEIGHT BASE UNITjFIRST SUBUNITmOURTH SUBUNIToSECOND SUBUNIToTHIRD SUBUNITtORD SEPARATOR DOTdLINE
yRIAL TRAMWAYnFGHANI SIGNlHOM CONSONANT SIGN MEDIAL LAbIGATING RAlRAyDIGIT EIGHTfFIVEdOUReNINEeONE
dSEVENeIXdTHREEeWOdZEROkLETTER AaLTERNATE BAcGAcTAmBAbHAdCAbHAdDAbDAbHAdHAdGAbHAdHAcJAbHAdKAbHAdLA
bLAdMAcNAbGAcNAcYAdPAbHAdRAcSAcTAbHAcTAbHAlNUMBER TENcWENTYnSIGN KILLERgRULAIfSECTIONgMALL SECTION
rYMBOL VIjVOWEL SIGN AaAbIbMbWcEbIaIcObUaUrIRPLANEa ARRIVINGiDEPARTURErKTIESELSKABlLARM CLOCK
jCHEMICAL SYMBOL FOR AIRcLEMBICfKALIa-2gUMdMALGAMgNTIMONY ORElQUA REGIAa-2hVITAEa-2iFORTISjRSENIC
gSHESeURIPIGMENTlBATH OF MARYeVAPOURSoISMUTH OREkLACK SULFURlORAXa-2b3gRICKfCADUCEUSgLXcPUT MORTUUM
mINNABARhOPPER ANTIMONIATElOREjROCUS OF COPPERa-2iIRONmUCIBLEa-2b3b4b5kDAY-NIGHTiISSOLVEa-2hTILL
hEARTHfFIREeGOLDdUMdHALF DRAMeOUNCEjORSE DUNGiUReIRON OREa-2g-COPPER OREpLEAD OREhODESTONE
jMARCASITEiERCURY SUBLIMATEa-2b3sONTHfNIGHTdTREfOILdPHILOSOPHERS SULFURsOT ASHEShWDERaED BRICK
nRECIPITATEkURIFYeTREFACTIONmQUICK LIMEhNTESSENCEmREALGARa-2hGULUSa OF ANTIMONYa-2kIRONi-2b3b4hTORT
fOCK SALTa-2lSAL-AMMONIACjTa OF ANTIMONYiCOPPER ANTIMONIATEzCEPTER OF JOVEoILVERfOAPdPIRIT
fTARRED TRIDENTnRATUM SUPER STRATUMa-2wUBLIMATE OF ANTIMONYiCOPPERgSALT OF ANTIMONYiCOPPERtIONjLFUR
gTARTARa-2hIN OREeCTUREhRIDENTgUTTYfURINEfVERDIGRISiINEGARa OF ANTIMONYm-2b3hTRIOLa-2jWATERdX
xEF SYMBOLiMBICeRTdIEN MONSTERlL AROUND-PROFILEoEQUAL TOkMaOST EQUAL OR EQUAL TOlTO
a WITH CIRCUMFLEX ACCENTzlTERNATE ONE-WAY LEFT WAY TRAFFICzbIVE KEY SYMBOLvMALGAMATION OR COPRODUCT
xBULANCEhERICAN FOOTBALLpPERSANDgHORAgNATOLIAN HIEROGLYPH A001b2b3b4b5b6b7b8b9c10aAc1b2b3b4b5b6b7b8
b9c20b1b2b3b4b5b6aAc7b8b9c30b1b2b3b4b5b6b7b8b9aAd40b1aAc2b3b4b5aAc6aAbBc7b8b9c50b1b2b3b4b5b6b7b8b9
c60b1b2b3b4b5b6aAbBbCc7b8b9c70b1b2b3b4b5b6b7b8b9c80b1b2b3b4b5b6b7b8b9c90b1b2b3b4b5b6b7aAc8aAc9d100
aAc1aAc2aAc3b4aAbBbCc5aAbBc6b7aAbBbCc8b9c10aAbBc1b2b3b4b5aAc6b7b8b9c20b1b2b3b4b5aAc6b7b8b9c30b1b2b3
b4b5aAc6b7b8b9c40b1b2b3b4b5b6b7b8b9c50b1b2b3b4b5b6b7b8b9c60b1b2b3b4b5b6b7b8b9c70b1b2b3b4b5b6b7b8b9
c80b1b2b3b4b5b6b7b8b9c90b1b2b3b4b5b6b7b8b9d200b1b2aAbBc3b4b5b6b7aAc8b9aAd10b1b2b3b4b5aAc6aAc7b8b9
c20b1b2b3b4b5b6b7aAc8b9c30b1b2b3b4b5b6b7b8b9c40b1b2b3b4b5b6b7b8b9c50b1b2b3b4b5b6b7b8b9c60b1b2b3b4b5
b6b7aAc8b9c70b1b2b3b4b5b6b7b8b9c80b1b2b3b4b5b6b7b8b9aAd90b1b2b3b4aAc5b6b7b8b9aAe300b1b2b3b4b5b6b7b8
b9aAd10b1b2b3b4b5b6b7b8b9c20b1b2b3b4b5b6b7b8b9aAd30b1b2AbBbCc3b4b5b6aAbBbCc7b8b9c40b1b2b3b4b5b6b7b8
b9c50b1b2b3b4b5b6b7b8b9aAd60b1b2b3b4aAc5b6b7b8aAc9c70b1aAc2b3b4b5b6b7b8b9c80b1aAc2b3 RA OR RIjAc4b5
b6aAc7b8b9c90b1b2b3 EIGHTh4b5b6b7b8b9d400b1b2b3b4b5b6b7b8b9c10 BEGIN LOGOGRAM MARK
uA END LOGOGRAM MARKu1b2b3b4b5b6b7b8b9c20b1b2b3b4b5b6b7b8b9c30b1b2b3b4b5b6b7b8b9c40b1b2b3b4b5b6b7b8
b9c50aAc1b2b3b4b5b6b7aAc8b9c60b1b2b3b4b5b6b7b8b9c70b1b2b3b4b5b6b7b8b9c80b1b2b3b4b5b6b7b8b9c90b1b2b3
b4b5b6b7d501b2b3b4b5b6b7b8b9c10b1b2b3b4b5b6b7b8b9c20b1b2b3b4b5b6b7b8b9c30uMICAL HEARToCHOR
eD WITH DOTkGER SYMBOLjLEa WITH S INSIDEiUNDERBARqRY FACEhSTROM SIGNkUISHED FACEmKHcT
aENNA WITH BARSoICLOCKWISE CLOSED CIRCLE ARROWsONTOUR INTEGRAL
qDOWNWARDS AND UPWARDS OPEN CIRCLE ARROWSzpGAPPED CIRCLE ARROWtINTEGRATIONlOPEN CIRCLE ARROW
rTOP SEMICIRCLE ARROWtRIANGLE-HEADED BOTTOM U-SHAPED ARROWvLEFT U-SHAPED ARROWtOPEN CIRCLE ARROW
rRIGHT U-SHAPED ARROWuTOP U-SHAPED ARROWzwPCbL FUNCTIONAL SYMBOL ALPHAa UNDERBARoBACKSLASH BAR
nCIRCLE BACKSLASHjDIAERESISjJOTdSTARcILEfUNDERBARoOMMA BARjDEL DIAERESISjSTILEfTILDEgTA STILE
fUNDERBARnIAMOND UNDERBARpOWN CARET TILDElSHOE STILEkTACK JOTdUNDERBARoWARDS VANEoEPSILON UNDERBAR
qGREATER-THAN DIAERESISwI-BEAMfOTAa UNDERBARnJOT DIAERESISjUNDERBARmLEFT SHOE STILElWARDS VANE
oOMEGAa UNDERBARoQUADa BACKSLASHjCIRCLEfOLONfDELaTAeIAMONDfVIDEfOWN CARETgWARDS ARROWpEQUAL
fGREATER-THANmJOTdLEFTWARDS ARROWnSS-THANjNOT EQUALjQUESTIONiRIGHTWARDS ARROWqSLASHfUP CARET
gWARDS ARROWqOTE QUADeUNDERBARoRHOcIGHTWARDS VANEpSEMICOLON UNDERBARrLASH BARiQUISH QUAD
kTAR DIAERESISmILE TILDElTILDE DIAERESISpUP CARET TILDElSHOE JOTiTACK DIAERESISjJOTdOVERBAR
nWARDS VANEmZILDEzOLLONeSTROPHEiPLICATION PROGRAM COMMANDyROACHES THE LIMIT
pXIMATELY BUT NOT ACTUALLY EQUAL TOzEQUAL OR EQUAL TOlTOa OR THE IMAGE OFzmQUARIUS
hRABIC BASELINE ROUND DOTsCOMMAeURLY DAMMAaTANiFATHAaTANiKASRAaTANoDAMMAa ISOLATED FORMnMEDIAL FORM
lWITH DOTjTANa ISOLATED FORMuTE SEPARATORnECIMAL SEPARATORqISPUTED END OF AYAH
tOUBLE RIGHT ARROWHEAD ABOVEa WITH DOTzgD MADDAnEMPTY CENTRE HIGH STOPjLOW STOPuND OF AYAH
eTEXT MARKqFATHAa ISOLATED FORMnMEDIAL FORMlWITH DOT ABOVEjRINGeTWO DOTSoTANa ISOLATED FORM
vIVE POINTED STARqOOTNOTE MARKERoULL STOPjHALF MADDA OVER MADDAtMZA ABOVEfBELOWlINVERTED DAMMA
oKASRAa ISOLATED FORMnMEDIAL FORMlWITH DOT BELOWpTANa ISOLATED FORMwLARGE CIRCLE BELOW
mROUND DOT ABOVEfBELOWfINSIDE CIRCLE BELOWzjEFT ARROWHEAD ABOVEfBELOWsTTER AEbFRICAN FEHdNOONeQAF
a WITH THREE DOTS ABOVEzhINa FINAL FORMkINITIAL FORMlSOLATED FORMnMEDIAL FORMlWITH THREE DOTS ABOVE
fBELOWfPOINTING DOWNWARDS ABOVEzjWO DOTS ABOVEfVERTICALLY ABOVEziLEFa FINAL FORMkISOLATED FORM
nMAKSURAa FINAL FORMkISOLATED FORMvWASLAa FINAL FORMkISOLATED FORMsITH ATTACHED BOTTOM RIGHT KASRA
a AND DOT ABOVEjLEFT RINGzhFATHAfKASRAfLEFT HAMZAfROUND DOToRIGHT HAMZAfROUND DOToOUND DOT ABOVE
fBELOWpTOP RIGHT FATHAa AND DOT ABOVEjLEFT RINGznDOT ABOVEjEXTENDED ARABIC-INDIC DIGIT THREE ABOVE
kWO ABOVEzmHAMZA ABOVEa FINAL FORMkISOLATED FORMtBELOWa FINAL FORMkISOLATED FORMzLEFT MIDDLE STROKE
sMADDA ABOVEa FINAL FORMkISOLATED FORMzRIGHT MIDDLE STROKEa AND DOT ABOVEjLEFT RING
ziWAVY HAMZA ABOVEfBELOWzbBEEHa FINAL FORMkINITIAL FORMlSOLATED FORMnMEDIAL FORMoHa FINAL FORM
kINITIAL FORMlSOLATED FORMnMEDIAL FORMlWITH DOT BELOW AND THREE DOTS ABOVEzfHAMZA ABOVE
lINVERTED SMALL V BELOWwSMALL MEEM ABOVEkVa BELOWnTHREE DOTS HORIZONTALLY BELOW
sPOINTING UPWARDS BELOWa AND TWO DOTS ABOVEzzbWO DOTS BELOW AND DOT ABOVEzjEHa FINAL FORM
kINITIAL FORMlSOLATED FORMnMEDIAL FORMrDADa FINAL FORMkINITIAL FORMlSOLATED FORMnMEDIAL FORM
lWITH DOT BELOWqHALa FINAL FORMkISOLATED FORMrLa FINAL FORMkISOLATED FORMnWITH DOT BELOW
a AND SMALL TAHxFOUR DOTS ABOVEpINVERTED SMALL V BELOWnVkRINGeTHREE DOTS ABOVE DOWNWARDSpBELOW
pWO DOTS VERTICALLY BELOW AND SMALL TAHzwDAHALa FINAL FORMkISOLATED FORMrLa FINAL FORM
kISOLATED FORMrOTLESS BEHdFEHdQAFkULa FINAL FORMkISOLATED FORMqYEHa FINAL FORMkINITIAL FORM
lSOLATED FORMnMEDIAL FORMqEa FINAL FORMkINITIAL FORMlSOLATED FORMnMEDIAL FORMnFARSI YEHa FINAL FORM
kINITIAL FORMlSOLATED FORMnMEDIAL FORMlWITH EXTENDED ARABIC-INDIC DIGIT FOUR BELOWkTHREE ABOVE
kWO ABOVEzmINVERTED VkTHREE DOTS ABOVEpWO DOTS ABOVEzdEHa FINAL FORMkINITIAL FORMlSOLATED FORM
nMEDIAL FORMlWITH DOT BELOWa AND THREE DOTS ABOVEzbMOVED BELOWpTHREE DOTS BELOW
fPOINTING UPWARDS BELOWzhWO DOTS BELOWxGAFa FINAL FORMkINITIAL FORMlSOLATED FORMnMEDIAL FORM
lWITH INVERTED STROKEpRINGeTHREE DOTS ABOVEpWO DOTS BELOWwHAINa FINAL FORMkINITIAL FORM
lSOLATED FORMnMEDIAL FORMlWITH DOT BELOWjTHREE DOTS ABOVEzbRAFdUEHa FINAL FORMkINITIAL FORM
lSOLATED FORMnMEDIAL FORMqHAHa FINAL FORMkINITIAL FORMlSOLATED FORMnMEDIAL FORM
lWITH EXTENDED ARABIC-INDIC DIGIT FOUR BELOWznHAMZA ABOVElINVERTED SMALL V BELOW
wSMALL ARABIC LETTER TAH ABOVEeND TWO DOTSmBELOWzeTHREE DOTS ABOVEfPOINTING UPWARDS BELOW
zhWO DOTS ABOVEfVERTICAL ABOVEzfMZAa ISOLATED FORMsEHa DOACHASHMEEa FINAL FORMkINITIAL FORM
lSOLATED FORMnMEDIAL FORMxFINAL FORMkGOALa FINAL FORMkINITIAL FORMlSOLATED FORMnMEDIAL FORM
lWITH HAMZA ABOVEvINITIAL FORMlSOLATED FORMnMEDIAL FORMlWITH INVERTED VkYEH ABOVEa FINAL FORM
kISOLATED FORMzgIGH HAMZAa ALEFeWAWdYEHoJEEMa FINAL FORMkINITIAL FORMlSOLATED FORMnMEDIAL FORM
lWITH THREE DOTS ABOVEfBELOWpWO DOTS ABOVEwHa FINAL FORMkISOLATED FORMrKAFa FINAL FORMkINITIAL FORM
lSOLATED FORMnMEDIAL FORMlWITH DOT ABOVEfBELOWjRINGeTHREE DOTS BELOWpWO DOTS ABOVEvSHMIRI YEHlEHEH
a FINAL FORMkINITIAL FORMlSOLATED FORMnMEDIAL FORMlWITH DOT ABOVEjSMALL VhTHREE DOTS ABOVEfBELOW
fPOINTING UPWARDS BELOWzhWO DOTS ABOVEfVERTICALLY BELOWzkHAHa FINAL FORMkINITIAL FORMlSOLATED FORM
nMEDIAL FORMpIRGHIZ OEa FINAL FORMkISOLATED FORMqYUa FINAL FORMkISOLATED FORMyLAMa FINAL FORM
kINITIAL FORMlSOLATED FORMnMEDIAL FORMlWITH BARdDOT ABOVEhUBLE BARkSMALL ARABIC LETTER TAH ABOVExV
hTHREE DOTS ABOVEfBELOWyOW ALEFiMARKdEEMa FINAL FORMkINITIAL FORMlSOLATED FORMnMEDIAL FORM
lWITH DOT ABOVEfBELOWjTHREE DOTS ABOVEzbNGa FINAL FORMkINITIAL FORMlSOLATED FORMnMEDIAL FORMmOEH
a FINAL FORMkINITIAL FORMlSOLATED FORMnMEDIAL FORMqOONa FINAL FORMkGHUNNAa FINAL FORMkISOLATED FORM
uINITIAL FORMlSOLATED FORMnMEDIAL FORMlWITH DOT BELOWjINVERTED SMALL VqRINGeSMALL TAHdV
hTHREE DOTS ABOVEpWO DOTS BELOWxYEHa FINAL FORMkINITIAL FORMlSOLATED FORMnMEDIAL FORMqOE
a FINAL FORMkISOLATED FORMqPEHa FINAL FORMkINITIAL FORMlSOLATED FORMnMEDIAL FORM
lWITH SMALL MEEM ABOVEkVnEHa FINAL FORMkINITIAL FORMlSOLATED FORMnMEDIAL FORMrQAFa FINAL FORM
kINITIAL FORMlSOLATED FORMnMEDIAL FORMlWITH DOT ABOVEfBELOWa AND NO DOTS ABOVEzcTHREE DOTS ABOVE
zREHa FINAL FORMkISOLATED FORMnWITH DOT BELOWa AND DOT ABOVExFOUR DOTS ABOVEpHAMZA ABOVElINVERTED V
kLOOPeRINGeSMALL ARABIC LETTER TAH AND TWO DOTSzfNOON ABOVEkVa BELOWmTROKEgTWO DOTS ABOVE
fVERTICALLY ABOVEziNOONa FINAL FORMkINITIAL FORMlSOLATED FORMnMEDIAL FORMqOHINGYA YEHlREH
a FINAL FORMkISOLATED FORMsSADa FINAL FORMkINITIAL FORMlSOLATED FORMnMEDIAL FORM
lWITH THREE DOTS ABOVEfBELOWpWO DOTS BELOWwEENa FINAL FORMkINITIAL FORMlSOLATED FORMnMEDIAL FORM
lWITH DOT BELOW AND DOT ABOVExEXTENDED ARABIC-INDIC DIGIT FOUR ABOVEznFOUR DOTS ABOVEpINVERTED V
kSMALL ARABIC LETTER TAH AND TWO DOTSzlTHREE DOTS BELOWa AND THREE DOTS ABOVE
zlWO DOTS VERTICALLY ABOVEzjHEENa FINAL FORMkINITIAL FORMlSOLATED FORMnMEDIAL FORMlWITH DOT BELOW
tTRAIGHT WAWlUPERSCRIPT ALEFpWASH KAFjTAHa FINAL FORMkINITIAL FORMlSOLATED FORMnMEDIAL FORM
lWITH DOT BELOWjTHREE DOTS ABOVEfBELOWpWO DOTS ABOVEwCHEHa FINAL FORMkINITIAL FORMlSOLATED FORM
nMEDIAL FORMlWITH DOT ABOVEjSMALL VnEHa FINAL FORMkINITIAL FORMlSOLATED FORMnMEDIAL FORMsEH
a FINAL FORMkINITIAL FORMlSOLATED FORMnMARBUTAa FINAL FORMkGOALeISOLATED FORMuEDIAL FORMlWITH RING
eSMALL TEH ABOVEjVhTHREE DOTS ABOVE DOWNWARDSzhEHa FINAL FORMkINITIAL FORMlSOLATED FORMnMEDIAL FORM
qHALa FINAL FORMkISOLATED FORMqEHa FINAL FORMkINITIAL FORMlSOLATED FORMnMEDIAL FORMoIN YEHhTEH
a FINAL FORMkINITIAL FORMlSOLATED FORMnMEDIAL FORMlWITH SMALL VnEHa FINAL FORMkINITIAL FORM
lSOLATED FORMnMEDIAL FORMsUa FINAL FORMkISOLATED FORMnWITH HAMZA ABOVEa ISOLATED FORM
zgIGHUR KAZAKH KIRGHIZ ALEF MAKSURA INITIAL FORMmMEDIAL FORMzvVEa FINAL FORMkISOLATED FORMoH
a FINAL FORMkINITIAL FORMlSOLATED FORMnMEDIAL FORMpWAWa FINAL FORMkISOLATED FORMnWITH DOT ABOVE
fWITHINkEXTENDED ARABIC-INDIC DIGIT THREE ABOVEkWO ABOVEzmHAMZA ABOVEa FINAL FORMkISOLATED FORM
zRINGeTWO DOTS ABOVExYEHa BARREEa FINAL FORMkISOLATED FORM
nWITH EXTENDED ARABIC-INDIC DIGIT THREE ABOVEkWO ABOVEzmHAMZA ABOVEa FINAL FORMkISOLATED FORM
zmFINAL FORMkINITIAL FORMlSOLATED FORMnMEDIAL FORMlWITH HAMZA ABOVEa FINAL FORMkINITIAL FORM
lSOLATED FORMnMEDIAL FORMxSMALL VhTAILdHREE DOTS BELOWpWO DOTS BELOW AND DOT ABOVEjHAMZA ABOVE
lSMALL NOON ABOVEzsUa FINAL FORMkISOLATED FORMqZAHa FINAL FORMkINITIAL FORMlSOLATED FORM
nMEDIAL FORMnINa FINAL FORMkISOLATED FORMnWITH INVERTED V ABOVE
zhIGATURE AIN WITH ALEF MAKSURA FINAL FORMkISOLATED FORMzbJEEM INITIAL FORMlSOLATED FORM
nWITH MEEM FINAL FORMkINITIAL FORMzcMEEM INITIAL FORMlSOLATED FORMnWITH ALEF MAKSURA FINAL FORM
xMEEM FINAL FORMkINITIAL FORMrYEH FINAL FORMyYEH FINAL FORMkISOLATED FORMzKBAR ISOLATED FORM
sLAYHAA AS-SALAAMmE ISOLATED FORMpI AS-SALAAMbTU WAS-SALAAMwM AS-SALAAMkAA AS-SALAAM
rEF MAKSURA WITH SUPERSCRIPT ALEF FINAL FORMkISOLATED FORMzsWITH FATHATAN FINAL FORMkISOLATED FORM
zfLAH ISOLATED FORMsZZA WA JALLmBEH WITH ALEF MAKSURA FINAL FORMkISOLATED FORMzbHAH INITIAL FORM
lSOLATED FORMnWITH YEH FINAL FORMwEH INITIAL FORMmMEDIAL FORMpJEEM INITIAL FORMlSOLATED FORM
sKHAH INITIAL FORMlSOLATED FORMnWITH YEH FINAL FORMyMEEM FINAL FORMkINITIAL FORMlSOLATED FORM
nMEDIAL FORMqNOON FINAL FORMpREH FINAL FORMoYEH FINAL FORMkISOLATED FORMrZAIN FINAL FORM
xISMILLAH AR-RAHMAN AR-RAHEEMzeDAD WITH ALEF MAKSURA FINAL FORMkISOLATED FORMzbHAH INITIAL FORM
lSOLATED FORMnWITH ALEF MAKSURA FINAL FORMxYEH FINAL FORMxJEEM INITIAL FORMlSOLATED FORM
sKHAH INITIAL FORMlSOLATED FORMnWITH MEEM FINAL FORMkINITIAL FORMzcMEEM INITIAL FORMlSOLATED FORM
sREH FINAL FORMkISOLATED FORMrYEH FINAL FORMkISOLATED FORMzbFEH WITH ALEF MAKSURA FINAL FORM
kISOLATED FORMzbHAH INITIAL FORMlSOLATED FORMrJEEM INITIAL FORMlSOLATED FORMsKHAH INITIAL FORM
lSOLATED FORMnWITH MEEM FINAL FORMkINITIAL FORMzcMEEM INITIAL FORMlSOLATED FORMnWITH YEH FINAL FORM
yYEH FINAL FORMkISOLATED FORMzbGHAIN WITH ALEF MAKSURA FINAL FORMkISOLATED FORMzbJEEM INITIAL FORM
lSOLATED FORMsMEEM INITIAL FORMlSOLATED FORMnWITH ALEF MAKSURA FINAL FORMxMEEM FINAL FORM
pYEH FINAL FORMyYEH FINAL FORMkISOLATED FORMzdHAH WITH ALEF MAKSURA FINAL FORMkISOLATED FORM
zbJEEM INITIAL FORMlSOLATED FORMnWITH YEH FINAL FORMyMEEM INITIAL FORMlSOLATED FORM
nWITH ALEF MAKSURA FINAL FORMxYEH FINAL FORMyYEH FINAL FORMkISOLATED FORM
zEH WITH ALEF MAKSURA ISOLATED FORMzbJEEM INITIAL FORMlSOLATED FORMsMEEM INITIAL FORMlSOLATED FORM
nWITH JEEM INITIAL FORMrMEEM INITIAL FORMzcSUPERSCRIPT ALEF INITIAL FORMzeYEH ISOLATED FORM
zbJALLAJALALOUHOUoEEM WITH ALEF MAKSURA FINAL FORMkISOLATED FORMzbHAH INITIAL FORMlSOLATED FORM
nWITH ALEF MAKSURA FINAL FORMxYEH FINAL FORMxMEEM INITIAL FORMlSOLATED FORM
nWITH ALEF MAKSURA FINAL FORMxHAH FINAL FORMkINITIAL FORMqYEH FINAL FORMyYEH FINAL FORM
kISOLATED FORMzcKAF WITH ALEF FINAL FORMkISOLATED FORMnMAKSURA FINAL FORMkISOLATED FORM
zbHAH INITIAL FORMlSOLATED FORMrJEEM INITIAL FORMlSOLATED FORMsKHAH INITIAL FORMlSOLATED FORM
sLAM FINAL FORMkINITIAL FORMlSOLATED FORMnMEDIAL FORMpMEEM FINAL FORMkINITIAL FORMlSOLATED FORM
nMEDIAL FORMlWITH MEEM FINAL FORMkINITIAL FORMrYEH FINAL FORMyYEH FINAL FORMkISOLATED FORM
zHAH WITH ALEF MAKSURA FINAL FORMkISOLATED FORMzbHAH ISOLATED FORMrJEEM INITIAL FORMlSOLATED FORM
sMEEM INITIAL FORMlSOLATED FORMsYEH FINAL FORMkISOLATED FORMzcLAM WITH ALEF FINAL FORM
kISOLATED FORMnMAKSURA FINAL FORMkISOLATED FORMvWITH HAMZA ABOVE FINAL FORMkISOLATED FORM
tBELOW FINAL FORMkISOLATED FORMzMADDA ABOVE FINAL FORMkISOLATED FORMzkHAH INITIAL FORMlSOLATED FORM
nWITH ALEF MAKSURA FINAL FORMxMEEM FINAL FORMkINITIAL FORMrYEH FINAL FORMwEH INITIAL FORM
qJEEM INITIAL FORMlSOLATED FORMnWITH JEEM FINAL FORMkINITIAL FORMrMEEM FINAL FORMkINITIAL FORM
rYEH FINAL FORMyKHAH INITIAL FORMlSOLATED FORMnWITH MEEM FINAL FORMkINITIAL FORMzcMEEM FINAL FORM
kINITIAL FORMlSOLATED FORMnMEDIAL FORMlWITH HAH FINAL FORMkINITIAL FORMqYEH FINAL FORM
yYEH FINAL FORMkISOLATED FORMzbMEEM WITH ALEF FINAL FORMkMAKSURA ISOLATED FORMzbHAH INITIAL FORM
lSOLATED FORMnWITH JEEM INITIAL FORMrMEEM INITIAL FORMrYEH FINAL FORMxJEEM INITIAL FORM
lSOLATED FORMnWITH HAH INITIAL FORMqKHAH INITIAL FORMrMEEM INITIAL FORMrYEH FINAL FORM
yKHAH INITIAL FORMlSOLATED FORMnWITH JEEM INITIAL FORMrMEEM INITIAL FORMrYEH FINAL FORM
yMEEM FINAL FORMkINITIAL FORMlSOLATED FORMnWITH YEH FINAL FORMyYEH ISOLATED FORM
zbOHAMMAD ISOLATED FORMwNOON WITH ALEF MAKSURA FINAL FORMkISOLATED FORMzbHAH INITIAL FORM
lSOLATED FORMnWITH ALEF MAKSURA FINAL FORMxMEEM INITIAL FORMrYEH FINAL FORMwEH INITIAL FORM
mMEDIAL FORMpJEEM INITIAL FORMlSOLATED FORMnWITH ALEF MAKSURA FINAL FORMxHAH FINAL FORM
kINITIAL FORMqMEEM FINAL FORMkINITIAL FORMrYEH FINAL FORMyKHAH INITIAL FORMlSOLATED FORM
sMEEM FINAL FORMkINITIAL FORMlSOLATED FORMnMEDIAL FORMlWITH ALEF MAKSURA FINAL FORMxYEH FINAL FORM
yNOON FINAL FORMpREH FINAL FORMoYEH FINAL FORMkISOLATED FORMrZAIN FINAL FORM
zQAF WITH ALEF MAKSURA FINAL FORMkISOLATED FORMzbHAH INITIAL FORMlSOLATED FORMrMEEM INITIAL FORM
lSOLATED FORMnWITH HAH FINAL FORMkINITIAL FORMqMEEM FINAL FORMpYEH FINAL FORMyYEH FINAL FORM
kISOLATED FORMyLA USED AS KORANIC STOP SIGN ISOLATED FORMzsUDDISA SIRRAHoRADI ALLAAHU ANHaAAcUMaAA
dNNAsHIMAHU ALLAAHhM ALLAAHoSOUL ISOLATED FORMtEH WITH SUPERSCRIPT ALEF ISOLATED FORM
zoSAD WITH ALEF MAKSURA FINAL FORMkISOLATED FORMzbHAH INITIAL FORMlSOLATED FORMnWITH HAH FINAL FORM
kINITIAL FORMqYEH FINAL FORMxKHAH INITIAL FORMrMEEM INITIAL FORMlSOLATED FORMnWITH MEEM FINAL FORM
kINITIAL FORMzcREH FINAL FORMkISOLATED FORMrYEH FINAL FORMkISOLATED FORMyLAAMUHU ALAYNAA
nM ISOLATED FORMqLA ISOLATED FORMnUSED AS KORANIC STOP SIGN ISOLATED FORMzpLLAAHU ALAYHI WA-AALIH
tHOU ALAYHE WASALLAMsU ALAYHI WAAALIHEE WA-SALLAMzlEEN WITH ALEF MAKSURA FINAL FORMkISOLATED FORM
zbHAH INITIAL FORMlSOLATED FORMnMEDIAL FORMlWITH JEEM INITIAL FORMzEH INITIAL FORMmMEDIAL FORM
pJEEM INITIAL FORMlSOLATED FORMnMEDIAL FORMlWITH ALEF MAKSURA FINAL FORMxHAH INITIAL FORM
zbKHAH INITIAL FORMlSOLATED FORMnMEDIAL FORMlWITH ALEF MAKSURA FINAL FORMxYEH FINAL FORM
yMEEM INITIAL FORMlSOLATED FORMnMEDIAL FORMlWITH HAH FINAL FORMkINITIAL FORMqJEEM INITIAL FORM
rMEEM FINAL FORMkINITIAL FORMzcREH FINAL FORMkISOLATED FORMrYEH FINAL FORMkISOLATED FORM
zbHADDA WITH DAMMA ISOLATED FORMnMEDIAL FORMmTAN ISOLATED FORMwFATHA ISOLATED FORMnMEDIAL FORM
rKASRA ISOLATED FORMnMEDIAL FORMmTAN ISOLATED FORMwSUPERSCRIPT ALEF ISOLATED FORM
zpEEN WITH ALEF MAKSURA FINAL FORMkISOLATED FORMzbHAH FINAL FORMkINITIAL FORMlSOLATED FORM
nMEDIAL FORMlWITH MEEM FINAL FORMkINITIAL FORMrYEH FINAL FORMwEH INITIAL FORMmMEDIAL FORM
pJEEM FINAL FORMkINITIAL FORMlSOLATED FORMnMEDIAL FORMlWITH YEH FINAL FORMyKHAH FINAL FORM
kINITIAL FORMlSOLATED FORMnMEDIAL FORMqMEEM FINAL FORMkINITIAL FORMlSOLATED FORMnMEDIAL FORM
lWITH KHAH FINAL FORMkINITIAL FORMrMEEM FINAL FORMkINITIAL FORMzcREH FINAL FORMkISOLATED FORM
rYEH FINAL FORMkISOLATED FORMzcUBHAANAHU WA TAAALAAvTABAARAKA WA-TAAALAA
sH WITH ALEF MAKSURA FINAL FORMkISOLATED FORMzbHAH INITIAL FORMlSOLATED FORMrMEEM INITIAL FORM
lSOLATED FORMnMEDIAL FORMlWITH HAH FINAL FORMkINITIAL FORMqMEEM INITIAL FORMrYEH FINAL FORM
yYEH FINAL FORMkISOLATED FORMzEH WITH ALEF MAKSURA FINAL FORMkISOLATED FORMzbHAH INITIAL FORM
lSOLATED FORMnWITH JEEM FINAL FORMkINITIAL FORMrMEEM INITIAL FORMzEH INITIAL FORMmMEDIAL FORM
pJEEM INITIAL FORMlSOLATED FORMnWITH ALEF MAKSURA FINAL FORMxMEEM INITIAL FORMrYEH FINAL FORM
yKHAH INITIAL FORMlSOLATED FORMnWITH ALEF MAKSURA FINAL FORMxMEEM INITIAL FORMrYEH FINAL FORM
yMEEM FINAL FORMkINITIAL FORMlSOLATED FORMnMEDIAL FORMlWITH ALEF MAKSURA FINAL FORM
xHAH INITIAL FORMqJEEM INITIAL FORMrKHAH INITIAL FORMrYEH FINAL FORMyNOON FINAL FORMpREH FINAL FORM
oYEH FINAL FORMkISOLATED FORMrZAIN FINAL FORMxHAL WITH SUPERSCRIPT ALEF ISOLATED FORM
znEH WITH ALEF MAKSURA FINAL FORMkISOLATED FORMzbHEH MEDIAL FORMpJEEM ISOLATED FORMsMEEM FINAL FORM
kINITIAL FORMlSOLATED FORMnMEDIAL FORMqNOON FINAL FORMpREH FINAL FORMoYEH FINAL FORMkISOLATED FORM
rZAIN FINAL FORMzUIGHUR KIRGHIZ YEH WITH HAMZA ABOVE WITH ALEF MAKSURA FINAL FORMkINITIAL FORM
lSOLATED FORMzzrWASALLAM ISOLATED FORMwYEH WITH ALEF MAKSURA FINAL FORMkISOLATED FORM
zbHAH INITIAL FORMlSOLATED FORMnWITH YEH FINAL FORMvMZA ABOVE WITH AE FINAL FORMkISOLATED FORM
pLEF FINAL FORMkISOLATED FORMnMAKSURA FINAL FORMkISOLATED FORMzbE FINAL FORMkINITIAL FORM
lSOLATED FORMpHAH INITIAL FORMlSOLATED FORMqEH INITIAL FORMmMEDIAL FORMpJEEM INITIAL FORM
lSOLATED FORMsKHAH INITIAL FORMrMEEM FINAL FORMkINITIAL FORMlSOLATED FORMnMEDIAL FORM
qNOON FINAL FORMpOE FINAL FORMkISOLATED FORMqREH FINAL FORMoU FINAL FORMkISOLATED FORM
pWAW FINAL FORMkISOLATED FORMrYEH FINAL FORMkISOLATED FORMqU FINAL FORMkISOLATED FORM
qZAIN FINAL FORMzgEH INITIAL FORMmMEDIAL FORMpJEEM INITIAL FORMlSOLATED FORMnWITH YEH FINAL FORM
yKHAH INITIAL FORMlSOLATED FORMsMEEM FINAL FORMkINITIAL FORMlSOLATED FORMnMEDIAL FORM
lWITH MEEM FINAL FORMkINITIAL FORMrYEH FINAL FORMyNOON FINAL FORMpREH FINAL FORMoYEH FINAL FORM
kISOLATED FORMrZAIN FINAL FORMyZAH WITH MEEM INITIAL FORMlSOLATED FORMnMEDIAL FORMzjMADDA WAAJIB
hH ABOVEkRK NOON GHUNNAlSIDEWAYS NOON GHUNNAxTHEMATICAL AINcLEFeBEHdDADbLcOTLESS BEHdFEHdNOONeQAF
jUBLE-STRUCK AINdBEHdDADbLdFEHdGHAINfHAHdJEEMeKHAHeLAMdMEEMeNOONeQAFdREHdSADcEENdHEENfTAHcEHcHALcEH
eWAWdYEHdZAHbINsFEHdGHAINfHAHdINITIAL AINdBEHdDADdFEHdGHAINfHAHcEHdJEEMeKAFcHAHeLAMdMEEMeNOONeQAF
dSADcEENdHEENfTEHcHEHeYEHlJEEMeKAFcHAHeLAMcOOPED AINcLEFeBEHdDADbLdFEHdGHAINfHAHcEHdJEEMeKHAHeLAM
dMEEMeNOONeQAFdREHdSADcEENdHEENfTAHcEHcHALcEHeWAWdYEHdZAHbINlMEEMeNOONeOPERATOR HAH WITH DAL
mMEEM WITH HAH WITH TATWEELzkQAFdREHdSADcEENdHEENeTRETCHED AINdBEHdDADcOTLESS BEHdFEHlFEHdGHAINfHAH
cEHdJEEMeKAFcHAHeMEEMeNOONeQAFdSADcEENdHEENfTAHcEHcHEHeYEHdZAHnTAHbILED AINdDADcOTLESS NOONeQAF
lGHAINfHAHdJEEMeKHAHeLAMdNOONeQAFdSADcEENdHEENfYEHjEHcHALcEHeWAWdYEHdZAHbINrNUMBER MARK ABOVEkSIGN
lOPEN DAMMATANiFATHATANiKASRATANnPERCENT SIGNlIASTRE MARK ABOVErLACE OF SAJDAHoOETIC VERSE SIGN
pUND MARK ABOVEqQUESTION MARKnRAISED ROUND DOToYcEVERSED DAMMAnIGHT ARROWHEAD ABOVEa WITH DOToBELOW
uOUNDED HIGH STOP WITH FILLED CENTREzlSEMICOLONiHADDAa ISOLATED FORMnMEDIAL FORM
rIGN ALAYHE ASSALLAMpMISRAfRADI ALLAHOU ANHUpHMATULLAH ALAYHEsSAFHAdLLALLAHOU ALAYHE WASSALLAM
zbMVATeNAHeINDHI AMPERSANDjPOSTPOSITION MENxTAKHALLUSnMALL DAMMAfFARSI YEHhTHAfHIGH AIN
dDOTLESS HEAD OF KHAHuFARSI YEHiOOTNOTE MARKERpJEEMeLAM ALEFhIGATURE ALEF WITH LAM WITH YEH
wQAF WITH LAM WITH ALEF MAKSURAzfSAD WITH LAM WITH ALEF MAKSURAzoMADDAeEEM INITIAL FORM
lSOLATED FORMsNOONa WITH KASRApQAFdROUNDED ZEROmSADcEENdIGN SAFHAkTAHcHREE DOTS
kUPRIGHT RECTANGULAR ZEROyWAWcORD AL-JUZfN-NISFgR-RUBfS-SAJDAhTH-THALATHAmQIFdSAHbKTAfWAQFAkYEH
a BARREE WITH TWO DOTS BELOWzfZAHbINjKASRAfLOW MEEMeNOON WITH KASRApSEENeWAWcORD IMAALAfSHMAAM
hTASHEELqWAWdYEHiTART OF RUB EL HIZBtUBSCRIPT ALEFmKUNa BELOWfISOLATED FORMnMEDIAL FORM
pPERSCRIPT ALEF MOKHASSASzYMBOL DOT ABOVEfBELOWhUBLE VERTICAL BAR BELOWzFOUR DOTS ABOVEfBELOWpRING
eSMALL TAH ABOVEfBELOWpTHREE DOTS ABOVEfBELOWfPOINTING DOWNWARDS ABOVEfBELOWzjWO DOTS ABOVEfBELOW
fVERTICALLY ABOVEfBELOWzWASLA ABOVEsTAIL FRAGMENTlTWEELa WITH FATHATAN ABOVEoOVERSTRUCK HAMZAfWAW
oTWO DOTS BELOWzbHOUSANDS SEPARATORsONE LOOP ABOVEfBELOWkONE DOT ABOVEfBELOWnTWO DOTS ABOVEfBELOW
sRIPLE DOT PUNCTUATION MARKzbURNED DAMMA BELOWsVERTICAL TAILmOWEL SIGN DOT BELOW
jINVERTED SMALL V ABOVEwSMALL V ABOVEyWAVY HAMZA BELOWqZWARAKAYj-INDIC CUBE ROOTjDIGIT EIGHTfFIVE
dOUReNINEeONEdSEVENeIXdTHREEeWOdZEROkFOURTH ROOTlPER MILLE SIGNkTEN THOUSAND SIGNzhCbIES
dMENIAN ABBREVIATION MARKqPOSTROPHEkCAPITAL LETTER AYBdBENdCAbHAbEHdOcDAcECHcHbTcFEHdGHADdIMdHOcINI
dJAbHEHeKEHbNdLIWNeMENdNOWdOHcPEHcIWReRAbEHdSEHcHAdTIWNdOcVEWcOcXEHdYIaWNeZAbHErOMMAfDRAM SIGN
jEMPHASIS MARKmXCLAMATION MARKqFULL STOPjHYPHENgMODIFIER LETTER LEFT HALF RINGzfQUESTION MARK
nSMALL LETTER AYBdBENdCAbHAbEHdOcDAcECHcHbTcFEHdGHADdIMdHOcINIdJAbHEHeKEHbNdLIWNeMENdNOWdOHcPEHcIWR
eRAbEHdSEHcHAdTIWNdObURNED AYBkVEWcOcXEHdYIa WITH STROKEmWNeZAbHEjIGATURE ECH YIWNiMEN ECHdINIdNOW
dXEHhVEW NOWzeROW POINTING DOWNWARDS THEN CURVING LEFTWARDSjRIGHTWARDS
ziRIGHTWARDS THEN CURVING DOWNWARDSjSOUTH WESTkUPWARDSzgUPWARDS THEN NORTH WEST
ziHEAD-SHAPED POINTERwTICULATED LORRYnST PALETTEnSCENDING NODElIA SYMBOLkSERTIONhTERISKa OPERATORkM
fONISHED FACEmRAEAdONOMICAL SYMBOL FOR URANUSzdYMPTOTICALLY EQUAL TOwTHLETIC SHOElOM SYMBOL
kUBERGINEhSTRAL SIGNkTO RICKSHAWjMATED TELLER MACHINEtOBILEjVESTAN ABBREVIATION MARKrLETTER AaAaNbO
cEaEcNbOcBEbHEdCEcDEbHEdEaEcFEcGEbGEcHEdHEbMEdIaIcJEcKEcLEcMEcNEbGEbVEcYEdNEcYEdOaOcPEcREcSEbHEbYE
dSHEeTEbHEcTEdUaUcVEcXEbVEcYEdYEbYEdZEbHEqOCADOgXEdBABYa ANGELfBOTTLEgCHICKfSYMBOLjCK OF ENVELOPE
lWITH LEFTWARDS ARROW ABOVEzc-TILTED SHADOWED WHITE RIGHTWARDS ARROW
zoSLANTED SOUTH ARROW WITH HOOKED TAILjRIZONTAL TAILzoPACEgONcTRIAN CAMELmDGER
dMINTON RACQUET AND SHUTTLECOCKzgGELcGAGE CLAIMkUETTE BREADmLINESE ADEG ADEGjCARIK PAMUNGKAHhREREN
hSIKIkDIGIT EIGHTfFIVEdOUReNINEeONEdSEVENeIXdTHREEeWOdZEROkLETTER AIKARAfKARAa TEDUNGlRCHAIC JNYA
lSYURA SASAKmBAa KEMBANGkCAa LACAhDAa MADUdURDA ALPAPRANAjMAHAPRANAsEF SASAKhKARAfGAa GORAhHAcIKARA
a TEDUNGmJAa JERAhKAa MAHAPRANAkF SASAKiHOT SASAKkLAa LENGAa TEDUNGpMAcNAa RAMBATiGAcYAdOKARA
a TEDUNGmPAa KAPALiRAa REPAa TEDUNGoSAa SAGAcPAhTAa LATIKfMURDA MAHAPRANApTAWAgZIR SASAKkUKARA
a TEDUNGmVE SASAKiWAcYAcZAL SASAKqMUSICAL SYMBOL COMBINING BENDEfENDEPfGONGeJEGOGANhKEMPLI
a WITH JEGOGANpULa WITH JEGOGANtTEGEHpDAENGdINGdNGa GEDEeSURANGkENGcUNGeINGdONGdUNG
eLEFT-HAND CLOSED PLAKcUKlOPEN PANGdINGdUNGtRIGHT-HAND CLOSED TAKcUKkOPEN DAGcUGzjPAMADAa LANTANG
lENENGgNTIa LANTANGnSIGN BISAHfCECEKfREREKANhSURANGgULU CANDRAgRICEMoVOWEL SIGN LA LENGAa TEDUNG
pPEPETa TEDUNGmRA REPAa TEDUNGoSUKUa ILUTjTALINGa REPAa TEDUNGlTEDUNGmEDUNGgULUa SARItWINDU
lL OF YARNiET SHOESiOONa-SPOKED ASTERISKsT BOLD SCRIPT XlXa WITH BALLOTfOLD CHECKfSCRIPT XnCHECK
fLIGHT XhSCRIPT XiXkSCRIPT XiXgMUM COLONdMBINING MARK KOQNDONhTUKWENTISvMAfFULL STOPjLETTER AbEE
cFAAMAEfEEcOMcUcIbKAbENbTbUXdIbOaGHOMeVUUePAcUbYEEeLAbEEEEeIbOQcUcMaAbBAAcENdEEEEdNcIbObUcNAbDAAdGA
bGAcKWAENgIbJAEMdEEcUAEeSHAdTEEcUUdUaAEdYIdObPAbEEbUXdHASE-A FIRIeGBIEE FONiHEUAEGHEUAEgRAEjKAFAcQ
cETbUKEUTNDAjPOQdUOQeLAPAQeET KUTgOMMAEfUaAEPfMAEKEUPeMaBGBIEEgKPENeVEUXfNYIdSIdNSUAEfP PIEETiBANYI
dQdEUNJOMNDEUQlGBASAfON NGGEUAETkOMEUTdPUQgVEUAENGAMkNAA MFONgQcDA LEERAEWAjANGGEUAETlENcGANGUeGEN
dKUE MFONfNZEUMjIKAdJAMdKAARAEfINDIfSHAbIEEfTAPa MFAAeNTAAhOQPENgYETcIaT MONGKEUAEQoZA MFONgUN MEUT
jPA LEERAEWAjAMbRAEeMSHAEfSHAEfETcON MFON PIPAEMBAcGBIEEqPA NJI PIPAEMBAcGBIEEvUPdROMdSEUNYAM
gHINDA PA NJIkRAEeOQ NSHUT YUMmUENSHUEThMdISAdONJAMeQbTcUUdTEUAENdTEUWENiITA MFONiU MAEMBAhAEP
fU YUQ NAEiNKNOWNhVEEfB FEEbUXeGHEUGHENbUAEMlKAMcEUAEMdPUQdYEUXgIEEMdQdLAANAEeM NSHUT NYAMnET
cOM NTEUMjMAa NJEUAENAgUQAhBA MAELEEhARAEfEURIeIT MBAAKETkUOQeEUQbT NGGEETkFIYAQeON TEUAEQkONTIEEN
iNDU NJAAhGGAAMdEU MBUgUOQa LARGEkKINDI MVOPkOMdSENcHUETfTIEE SHEUOQlYAEMAEfI NTEUMjPARUMeEESHIfIT
cUNGAAMhSAKEUAEgET TUfHET NJAQgUAEQTUiIEEdUEdTAAMdU MAEMGBIEEjNSIEEiVEUMeWUAETfYAFU LEERAEWAmEURAE
iC BUNGeFUEdGBAYIeHAPbRAEgKAAcEN FATIGUEhLAWfTbUKAQdMbSEUXdHEUAEPjPARAQfUOP NKAARAEkTdLAMbPcIQcU
cMA KEUAERIhNSIEEgEMBAdSIeBAA CABBAGE-TREEmPICKETiNYIeEEKEETfRAEdUMbXdIaRIEENfTcUAEMdEdGBASAQgIEE
dUAEeNANSANAQgQcDAMbPcEUAEREEfTdIDAdOMBUfGAQcGENcUaAEN NYAMiEETdMbONeKAQcUE MAEMBAkOMdJAEMcMcEEEE
dUXdUEQeSAbEUAENfHAQdOMcUNbOT NGOMjTAAcENbUNGBAgU MBIThYIR MKPARAQ MEUNqZAbEUMfPENcINbRIEENhRU
cSETFONeUXdHIQcUEQeUAETfTAASHAEgETbUTEUXgITA YUEfUAEPhVEUAEPENfXeWANGKUOQhUPdYAAcEUQdU MUOMAEhMbWOQ
hD FAAcEUFEUAETjGHAAcEUAEgKETbUAETMEUNhMbOT MBUAEiPdUaNbOMcQcWAETeYEEeLEEEEdTbUAEPdMdIEEdOQcUMdM
aAENJETfLEERIgBAAa SEVENiUOdEEEEdUNbTdFEUAEcTdIEEdOaNdGBEUNdIEEdOFUMgONIdUbVOPeNDAMcEEbUXdONdGGAAM
aAEePcEUXdUOMdWAENfKAPcEUAEQdRIeIEEdUNcYEEfIbJAPcEUAEMdTdIaEEdUEQeSHEEcUTdIEEPbTeUMdTEEbUMdUUdUbYAM
cETcIbUEePAPcEEbUTAEfIPcUQbUTeRAEMdEN MUCHeOLDgIIdSAPbQcEUAEQfHEEbUAEcXdIIcOQcUcOTcUAEcEbUdTAEcEEEE
dUAENdNbTdIbOQcUaOTeWAPcUAENfYAEMMAEgENcUOMbPcWOQhE AbFAaQcEEcOMcU CALLeIbREMEDYhEaTeGBETbUXeHAAMAE
fETbUAEcNbXdOMeIbKETbUAEcXdIbObPEUXeUETcOPcTdLAAMcPbQcEUAEMfOMbONbTcQcUcMAaEaMcPbQcBEEbUMeENcFEUQ
eGBAbENeIaEEdONcUAEdVIdNAaEcDAA MY HOUSEiSOFTNESSkPcIAQcQcUNdGAbEUREUTgGEEEEdUAEaTfUAESHAE NYAMlP
bRAEfKAaAMIeEUAEMdXdUMbPdOPbQcUAEaTfJAEMLIfEEa EPOCHhUXeKOMdSHIEEdUEbOPfTAPcUMdYI BETWEENhCLEAVER
kZAQcUQeObPA PEOPLEfLURALhAaMdEEMcUTbXdIaEEQcTdOaONdUaAEbQcEbMdRAEbQcEUXdIMGBAgSAAcEEbTcHEUAEQfIQcO
aQdOMcUAENfTAAaQcEN NTEUMiMbQcENbUaAEQfOOaNcQcUAEcMaAEfVEEbUAEeOMdWEUXdUEbOdYAPcEUAEaTdMbXdIEEcT
cOQ COVERfSWIMMINGlUAENdEQcNbQfF EEcFOMdKAbENbTcObPAcUbYEEeLAbIbOQdMaAbBAAcENdEEEEeOcNDAAdGGAcKWAEN
gIbJAEMdUAEeSHAdTEEdUaAEdYIdPEEbUXdUAEeREEbNbUXdIEEcIcUcSAMBAeEUXdHIIcObUcIbUUdTAAbEcETdUbVUEQeWA
bUEdYAbOQkIbUAEcEdRAEcEEbNbUXdIEEcIcUcSAMBAeEUXdHEUXdIIcObUcIbUUdTAAbEcENbTcIcUbWAbUEdYAbOQcUQ
kNJAEMLIhQUESTION MARKnSEMICOLONnNANAdJOcKaNOTE WITH DOLLAR SIGNlEURO SIGNjPOUND SIGNkYEN SIGN
uR CHARTfOF SOAPiBER POLEjSEBALLfKETaBALL AND HOOPqSA VAH COMBINING HIGH TONEf-LOW TONEnLOW TONE
f-MID TONEmMID TONEsFULL STOPjLETTER AbBAcCEcDHIIdOcEaEbNNIeFAcGAHcBUdHWAHeIbJOcKAbPAHeMBEdOaOcPA
cSEcTOcUaWUdVUcWAaDDAfYEINdIEdZOrTaAK CONSONANT SIGN HbNGrLETTER AbBAcCAcDAcGAcHAcIbJAcKARO BAhLA
cMAaNDAILING HAcNAcSAmBAdNAbDAcGAcORTHERN TAkYAdPAaKPAK WAjRAcSAbIMALUNGUN AbGAcHAcLAcMAcPAcRAcSA
cWAcYAmOUTHERN TAlUbWAcYAjPANGOLATfONGONANkSIGN TOMPIjYMBOL BINDU JUDULfNA METEKiPANGOLAThINARBORAS
xVOWEL SIGN EaEcIbKARO IbOgObPAKPAK EiUa FOR SIMALUNGUN SAziHaTUBeTERYgEACH WITH UMBRELLA
qMED ASCENDING MUSICAL NOTESxDESCENDING MUSICAL NOTESyEIGHTH NOTESmSIXTEENTH NOTEStNScR FACE
fDED PERSONlTING HEARTkVEReCAUSEfDbER MUGfTLEeLaLa PEPPERgSYMBOLgWITH CANCELLATION STROKEzHOP BELL
kNGALI ABBREVIATION SIGNqNJIdU LENGTH MARKoCURRENCY DENOMINATOR SIXTEENtNUMERATOR FOUReONE
a LESS THAN THE DENOMINATORzeTHREEeWOwDIGIT EIGHTfFIVEdOUReNINEeONEdSEVENeIXdTHREEeWOdZERO
kGANDA MARKkISSHARgLETTER AaAbIbUcBAbHAdCAbHAdDAbDAbHAdHAdEbGAbHAdHAcIaIcJAbHAdKAbHAaNDA TAjLAcMA
cNAbGAcNAcYAdObPAbHAdRAa WITH LOWER DIAGONALoMIDDLE DIAGONALwHAcRAdSAbHAcSAdTAbHAcTAbHAeUaU
cVEDIC ANUSVARAnOCALIC LaLcRaRkYAbYAkRUPEE MARKeSIGNkSANDHI MARKkIGN ANUSVARAhVAGRAHAiCANDRABINDU
lNUKTAfVIRAMAeSARGAmVOWEL SIGN AAbIbUcEbIaIcObUaUcVOCALIC LaLcRaR
zbT ARROW POINTING DOWNWARDS THEN NORTH EASTzqO BOXgZENE RINGa WITH CIRCLEwT SYMBOLhWEENfVERAGE BOX
lHAIKSUKI DANDAeIGIT EIGHTfFIVEdOUReNINEeONEdSEVENeIXdTHREEeWOdZEROjOUBLE DANDAmGAP FILLER-1b2
mHUNDREDS UNIT MARKsLETTER AaAbIbUcBAbHAdCAbHAdDAbDAbHAdHAdEbGAbHAdHAcIaIcJAbHAdKAbHAdLAcMAcNAbGA
cNAcYAdObPAbHAdRAcSAbHAcSAdTAbHAcTAbHAeUaUcVAbOCALIC LbRaRkYAjNUMBER EIGHTaYgFIFTYdVEdORTYdUReNINE
aTYgONEdSEVENaTYgIXaTYfTENcHIRTYeREEeWENTYeOkSIGN ANUSVARAhVAGRAHAiCANDRABINDUlVIRAMAeSARGA
mVOWEL SIGN AAbIbUcEbIaIcObUaUcVOCALIC LbRaRvWORD SEPARATORxICYCLEbISThG REVERSE SOLIDUSpSOLIDUS
jKINIeLLED CAPgIARDShOHAZARD SIGNmRDbTHDAY CAKElSONdTCOIN SIGNjING LIPjLACK BOWTIE
gCENTRE WHITE STARqHESS BISHOPa ROTATED NINETY DEGREESoTWO HUNDRED SEVENTY DEGREESzrEQUIHOPPER
a ROTATED NINETY DEGREESziKINGa ROTATED NINETY DEGREESoTWO HUNDRED SEVENTY DEGREESzoNIGHT
a ROTATED FORTY-FIVE DEGREESsNINETY DEGREESoONE HUNDRED THIRTY-FIVE DEGREES
zgTHREE HUNDRED FIFTEEN DEGREESzdWO HUNDRED SEVENTY DEGREESpTWENTY-FIVE DEGREESzp-BISHOPgQUEENfROOK
lPAWNa ROTATED NINETY DEGREESoTWO HUNDRED SEVENTY DEGREESzpQUEENa ROTATED NINETY DEGREES
oTWO HUNDRED SEVENTY DEGREESzqROOKa ROTATED NINETY DEGREESoTWO HUNDRED SEVENTY DEGREES
zpTURNED BISHOPgKINGdNIGHTgPAWNeQUEENfROOKqIRCLEa FOR RECORDkWITH DOWN ARROWkTWO WHITE DOTS
oWHITE DOT RIGHTzbLUB SUITiROSS ON SHIELDoURVED DOWNWARDS AND LEFTWARDS ARROWpRIGHTWARDS ARROW
zfLEFTWARDS AND DOWNWARDS ARROWpUPWARDS ARROWzcRIGHTWARDS AND DOWNWARDS ARROWpUPWARDS ARROW
zdUPWARDS AND LEFTWARDS ARROWpRIGHTWARDS ARROWzkDIAMONDa CENTREDhMINUS WHITE XnON CROSSiSUIT
eWITH DOWN ARROWwOWN POINTING BACKHAND INDEXy-POINTING DOUBLE TRIANGLEpISOSCELES RIGHT TRIANGLE
ySMALL TRIANGLEoTRIANGLEsWARDS EQUILATERAL ARROWHEADzfRAUGHTS KINGeMANkOPLEThFLAGcORETTEhOLDER
eUR POINTED STARrHARD SHELL FLOPPY DISKvEARTa SUITiXAGONgORIZONTAL ELLIPSEqURGLASSjLARGE CIRCLE
gSQUARElEFT LANE MERGEkPOINTING BACKHAND INDEXoINDEXp-POINTING DOUBLE TRIANGLEa WITH VERTICAL BAR
ziISOSCELES RIGHT TRIANGLEyPOINTERhSMALL TRIANGLEoTRIANGLEsWARDS BULLETgEQUILATERAL ARROWHEAD
zfOWER LEFT TRIANGLEnRIGHT TRIANGLEsZENGEhMEDIUM DIAMONDgOWN-POINTING TRIANGLEa CENTRED
zfLEFT-POINTING TRIANGLEa CENTREDzeOZENGEhRIGHT-POINTING TRIANGLEa CENTREDzgSMALL DIAMONDhLOZENGE
hSQUARElQUAREgUP-POINTING TRIANGLEa CENTREDzjOON LILITHlNIBdOCTAGONhPARALLELOGRAMmENNANTeTAGON
hUSHPINhQUESTION MARK ORNAMENTwRECTANGLEiIGHT POINTING BACKHAND INDEXoINDEX
p-POINTING DOUBLE TRIANGLEa WITH VERTICAL BARziISOSCELES RIGHT TRIANGLEyPENTAGONhOINTER
hSMALL TRIANGLEoTRIANGLEa WITH DOUBLE VERTICAL BARzsWARDS ARROWaHEADjBULLETgEQUILATERAL ARROWHEAD
zgOSETTEhSAFETY SCISSORSoCISSORShHOGI PIECEkKULL AND CROSSBONEStLIGHTLY SMALL CIRCLEgSQUARE
uMALL DIAMONDhLOZENGEhSQUAREfTARiILING FACElNOWMANgPADE SUITjQUAREa BUTTONgCENTREDhFOR STOPoTAR
dUN WITH RAYSnTELEPHONEiINY DIAMONDhLOZENGEhSQUAREkOUCHTONE TELEPHONEsRUCKeWO-WAY LEFT WAY TRAFFIC
yUNIVERSAL RECYCLING SYMBOLzP POINTING BACKHAND INDEXy-POINTING DOUBLE TRIANGLE
pISOSCELES RIGHT TRIANGLEySMALL TRIANGLEoTRIANGLEsPER LEFT TRIANGLEnRIGHT TRIANGLE
sWARDS EQUILATERAL ARROWHEADzeVERTICAL ELLIPSEhRECTANGLEpY SMALL DIAMONDhLOZENGEhSQUARE
s-FEATHERED NORTH EAST ARROWqRIGHTWARDS ARROWqSOUTH EAST ARROWzbLETTER CAPITAL CbHbIbRbZtNK SYMBOL
kOCK SEXTANT-1a2a3a4a5b6c5a6c6c4a5a6c6c5a6c6c3a4a5a6c6c56c6c4a5a6c6c5a6c6c2a3a4a5a6c6c5a6c6c4a5a6d5
a6c6c3a4a5a6c6c5a6c6c4a5a6c6c5a6c6mSSOMeWFISHgUE BOOKeHEARTgBERRIESkOARcLD EIGHT SPOKED ASTERISK
vFIVE SPOKED ASTERISKuGREEK CROSSlSALTIREgIX SPOKED ASTERISKtWHITE CIRCLEgSQUAREpMaBcNEcOKaMARK
a TABSjScMERANGhPOMOFO FINAL LETTER GbHbKbPbToLETTER AaHbIaNNdMbNaGbNcUaNNeBaUcCaHcDbEaEbHbIbNaGbN
cRcFbGaHbNbUbWcHbIaHbMbNNaNdRbUcJaIcKaWcLaHcMbNaGaGcNcOa WITH DOT ABOVEpEbMbNGbNcObUcPbQbRbSaHcTbU
aNNdVbXbZaHbIbYqTTLE WITH POPPING CORKuOM ARC ANTICLOCKWISE ARROWxCURLY BRACKETnHALF BLACK CIRCLE
mINTEGRALiLEFT PARENTHESISqRIGHT PARENTHESISwLEFT CORNERfROPeHALF BRACKETrPARENTHESISlRIGHT CORNER
fROPeHALF BRACKETsSQUARE BRACKETa OVER TOP SQUARE BRACKETznTORTOISE SHELL BRACKETzcUQUET
a OF FLOWERSqW AND ARROWkL OF HYGIEIAkWITH SPOONlINGeTIEa WITH LEFT HALF BLACKpRIGHT HALF BLACK
zbX DRAWINGS DOUBLE DOWN AND HORIZONTALkLEFTeRIGHToHORIZONTALkUP AND HORIZONTALkLEFTeRIGHTmVERTICAL
a AND HORIZONTALkLEFTeRIGHTxWN DOUBLE AND HORIZONTAL SINGLErLEFT SINGLElRIGHT SINGLE
xHEAVY AND HORIZONTAL LIGHTqLEFT LIGHTfUP LIGHTnRIGHT LIGHTfUP LIGHToUP HORIZONTAL LIGHT
zeLIGHT AND HORIZONTAL HEAVYqLEFT HEAVYfUP HEAVYnRIGHT HEAVYfUP HEAVYoUP HORIZONTAL HEAVY
zeSINGLE AND HORIZONTAL DOUBLErLEFT DOUBLElRIGHT DOUBLEzdHEAVY DOUBLE DASH HORIZONTALkVERTICALsWN
a AND HORIZONTALkLEFTeRIGHToHORIZONTALkLEFTa AND LIGHT RIGHTuQUADRUPLE DASH HORIZONTALkVERTICAL
xRIGHTfTRIPLE DASH HORIZONTALkVERTICALuUPa AND HORIZONTALkLEFTdIGHT DOWNkRIGHTmVERTICAL
a AND HORIZONTALkLEFTeRIGHTyLEFT DOWN HEAVY AND RIGHT UP LIGHTzeHEAVY AND RIGHT DOWN LIGHTkUP LIGHT
iVERTICAL LIGHTzfLIGHT AND RIGHT DOWN HEAVYkUP HEAVYiVERTICAL HEAVYzfUP HEAVY AND RIGHT DOWN LIGHT
ziIGHT ARC DOWN AND LEFTeRIGHToUP AND LEFTeRIGHTqDIAGONAL CROSSfDIAMONDhMIDDLE LEFT TO LOWER CENTRE
a TO MIDDLE RIGHTzdUPPER CENTRE TO MIDDLE RIGHTa TO LOWER CENTREzzcRIGHT TO LOWER CENTRE
mUPPER CENTRE TO MIDDLE LEFT TO LOWER CENTREzzjUPPER CENTRE TO MIDDLE LEFT
a AND MIDDLE RIGHT TO LOWER CENTREzhTO LOWER CENTREa TO MIDDLE RIGHTzlRIGHT
a AND MIDDLE LEFT TO LOWER CENTREzgTO LOWER CENTREa TO MIDDLE LEFTzzdLEFT TO LOWER RIGHT
tRIGHT TO LOWER LEFTziOUBLE DASH HORIZONTALkVERTICALsWNa AND HORIZONTALkLEFTeRIGHToHORIZONTAL
a WITH VERTICAL STROKEzgLEFTa AND HEAVY RIGHTuQUADRUPLE DASH HORIZONTALkVERTICALxRIGHT
fTRIPLE DASH HORIZONTALkVERTICALuUPa AND HEAVY DOWNjORIZONTALkLEFTeRIGHTmVERTICALa AND HORIZONTAL
kLEFTeRIGHTyRIGHT DOWN HEAVY AND LEFT UP LIGHTzdHEAVY AND LEFT DOWN LIGHTkUP LIGHTiVERTICAL LIGHT
zeLIGHT AND LEFT DOWN HEAVYkUP HEAVYiVERTICAL HEAVYzeUP HEAVY AND LEFT DOWN LIGHT
zjUP DOUBLE AND HORIZONTAL SINGLErLEFT SINGLElRIGHT SINGLExHEAVY AND DOWN HORIZONTAL LIGHT
vHORIZONTAL LIGHTqLEFT DOWN LIGHTkLIGHTkRIGHT DOWN LIGHTkLIGHTvLIGHT AND DOWN HORIZONTAL HEAVY
vHORIZONTAL HEAVYqLEFT DOWN HEAVYkHEAVYkRIGHT DOWN HEAVYkHEAVYvSINGLE AND HORIZONTAL DOUBLE
rLEFT DOUBLElRIGHT DOUBLEzbVERTICAL DOUBLE AND HORIZONTAL SINGLErLEFT SINGLElRIGHT SINGLE
xHEAVY AND HORIZONTAL LIGHTqLEFT LIGHTkRIGHT LIGHTvLIGHT AND HORIZONTAL HEAVYqLEFT HEAVY
kRIGHT HEAVYvSINGLE AND HORIZONTAL DOUBLErLEFT DOUBLElRIGHT DOUBLEzrING GLOVEkYaS SYMBOLkPH
cRAHMI DANDAeIGIT EIGHTfFIVEdOUReNINEeONEdSEVENeIXdTHREEeWOdZEROjOUBLE DANDAmLETTER AaAbIbUcBAbHA
dCAbHAdDAbDAbHAdHAdEbGAbHAdHAcIaIcJAbHAdKAbHAdLAbLAdMAcNAbGAcNAcYAdOaLD TAMIL LLAbLAeNNNAeRRA
dSHORT EbOrPAbHAdRAcSAbHAcSAdTAbHAcTAbHAeUaUcVAbOCALIC LaLcRaRkYAjNUMBER EIGHTaYgFIFTYdVEdORTYdUR
eJOINERgNINEaTYgONEa HUNDREDhTHOUSANDmSEVENaTYgIXaTYfTENcHIRTYeREEeWENTYeOkPUNCTUATION CRESCENT BAR
mDOTbUBLE DOTkLINEdOTUSrSIGN ANUSVARAiCANDRABINDUlJIHVAMULIYAlOLD TAMIL VIRAMAqUPADHMANIYAlVISARGA
mVIRAMAfOWEL SIGN AAbIbUcBHATTIPROLU AAoEbIaIcOaLD TAMIL SHORT EbOrUaUcVOCALIC LaLcRaR
zILLE PATTERN BLANKfDOTS-1a2a3a4a5a6a7a8c8c7a8c8c6a7a8c8c7a8c8c5a6a7a8c8c7a8c8c6a7a8c8c7a8c8c4a5a6
a7a8c8c7a8c8c6a7a8c8c7a8c8c5a6a7a8c8c7a8c8c6a7a8c8c7a8c8c3a4a5a6a7a8c8c7a8c8c6a7a8c8c7a8c8c5a6a7a8
c8c7a8c8c6a7a8c8c7a8c8c4a5a6a7a8c8c7a8c8c6a7a8c8c7a8c8c5a6a7a8c8c7a8c8c6a7a8c8c7a8c8c2a3a4a5a6a7a8
c8c7a8c8c6a7a8c8c7a8c8c5a6a7a8c8c7a8c8c6a7a8c8c7a8c8c4a5a6a7a8c8c7a8c8c6a7a8c8c7a8c8c5a6a7a8c8c7a8
c8c6a7a8c8c7a8c8c3a4a5a6a7a8c8c7a8c8c6a7a8c8c7a8c8c5a6a7a8c8c7a8c8c6a7a8c8c7a8c8c4a5a6a7a8c8c7a8c8
c6a7a8c8c7a8c8c5a6a7a8c8c7a8c8c6a7a8c8c7a8c8sNdEADbK PERMITTED HEREqST-FEEDINGlVEdICKcDE WITH VEIL
lGE AT NIGHTmEFCASEeSeOCCOLIfKEN BARdCIRCLE WITH NORTHWEST ARROWzcHEARTjOMcWN HEARTkSbUBBLE TEAeS
fCKETeGaINESE END OF SECTIONoLETTER AbBAcCAcDAcGAcHAcJAcKAcLAcMAbPAdNAbGAbKAdRAcYAbCAePAcRAcSAcTA
cVAcYAjPALLAWAhVOWEL SIGN AEcEbIbObUtHID LETTER AbBAcDAcGAcHAcIbKAcLAcMAcNAbGAdPAcRAcSAcTAcUbWAcYA
jVOWEL SIGN IbUqILDING CONSTRUCTIONtLLETa OPERATORlHORNa WITH SOUND WAVESvSEYEgRRITOfSa STOP
fT IN SILHOUETTEoS IN SILHOUETTErTTERaFLYiYTE ORDER MARKnZANTINE MUSICAL SYMBOL AGOGI ARGIbOTERI
iGORGIbOTERIjMESIcTRIAgPOLI ARGIeGORGIpNATRICHISMAkTIKENOKYLISMAhMAjPESO EKFONITIKONkXO NEOlLI
cODERMA ARCHAIONiNEOjSTROFOI SYNDESMOS NEOnTELOUS ICHIMATOSsSa DIPLIfNEOlTHEMAhRGONbSYNTHETON
lKTIKO DIcGAcKEcNIcPAcVOUdZOkCHAMILIbONgOREVMA ARCHAIONiNEOkROA KLITONgSPATHIgZYGOSlDASEIAfIARGON
eSTOLI APLI MEGALIfIKRIkDIPLIfTHESEOSoESIS APLI DYO DODEKATArDIGRAMMOS EX DODEKATA
vMONOGRAMMOS TESSERA DODEKATAzdTETARTIMORIONmRIGRAMMOS OKTO DODEKATAvTIMORIONqFTOGGOS OUkGORGON
a PARESTIGMENON ARISTERA ANOdKATOnDEXIAzRAMMA GGjPLIa ARCHAIONnYOdEKSTREPTONjLAFRON
gNARXIS KAI FTHORA VOUuDOFONONiPEGERMAhTERON ARGOSYNTHETONnPARAKALESMArXO EKFONITIKON
pFANEROSIS DIFONIASiMONOFONIASkTETRAFONIASuHTORA SKLIRON CHROMA VASISzbTHORA ARCHAION
a DEYTEROU ICHOUxDIATONIKI DIcKEcNANAdI ANOdKATOhPAcZOmENARMONIOS ANTIFONIAuI YFESIS TETARTIMORION
wMALAKON CHROMA DIFONIASiMONOFONIASzNAOS ICHOSjENANOgSKLIRON CHROMA SYNAFIgVASISmDIATONON DI
zbGENIKI DIESISgYFESISmORGON ARCHAIONiNEO ANOdKATOiPARESTIGMENON ARISTERAiDEXIAvSYNTHETON
lTHMIKON N APLOUNgDIPLOUNtRONTHISMATAmICHADINgMIDIARGONhFONONeTHORAbONjSAKIA TELOUS ICHIMATOS
vON ARCHAIONiNEOiKATAVA TROMIKONjSMAgHISTIhENTIMA ARCHAIONiNEO ANOdKATOeMESOjTAa ARCHAIONiNEO ANO
dKATOeMESOrLASMAa ANOdKATOkONTEVMAa ALLOlRONISfUFISMAhRATIMA ALLOdRCHAIONiNEOeTAdOKOUFISMAiYPORROON
nEMASTIhYLISMAhLEIMMA DYO CHRONONlENOS CHRONOUmIMISEOS CHRONOUpTESSARON CHRONONpRION CHRONONsMOI
eYGISMAhMARTYRIA ALLI DEYTEROS ICHOSoPROTOS ICHOSrDEYTEROS ICHOSoLEGETOS ICHOSnPLAGIOS ICHOS
fTETARTOS ICHOSvROTOS ICHOShVARYS ICHOSqTETARTOS ICHOSfLEGETOS ICHOSvRIFONIASgTOS ICHOSmVARYS ICHOS
tIKRON ISONlNANAeOLIGON ARCHAIONiNEOjMALONfXEIA DIPLIfEKFONITIKONlNEOeI ARCHAIONoYRANISMA ARCHAION
iNEOnPARAKALESMA ARCHAIONiNEOkLITIKIa ARCHAIONiNEOmICHONhELASTONa NEOkRISPOMENIjTASMAcTIbOKOUFISMA
oIASMA ARCHAIONiNEOjSIFISTOLYGISMAhNa NEOfPARAKALESMAlSYNAGMAmLIbONgRAPISMAgEVMAfSAXIMATAhEISMA
a NEOjIMANSIS ARSEOSa DISIMOUhTETRASIMOUjRISIMOUpTHESEOSa DISIMOUhTETRASIMOUjRISIMOUyTAVROS
a APODEXIAoIGMAeRAGGISMATAlYNAGMA ARCHAIONiMETA STAVROUmNEOiEVMAfRMAaTIKIjTELEIAeSSERAfTRAPLIhHEMA
a APLOUNhTISMOS ESOcXOmS KAI APOTHESoITAeINAGMAgRIAbGORGONgPLIeOMIKOLYGISMAhN ALLOdRCHAIONiNEO
fPARAKALESMAkSIFISTONjSYNAGMAoVAREIA DIPLIfEKFONITIKONlNEOeI ARCHAIONoTHYfXIRON KLASMAmYFEN ANO
dKATOgSIS APLI DYO DODEKATArDIGRAMMOS EX DODEKATAvMONOGRAMMOS TESSERA DODEKATA
zdTRIGRAMMOS OKTO DODEKATAvTIMORIONrPOKRISISa DIPLImRROIfSILIzgCACTUSeDA UNAfUCEUSgLENDARfL ME HAND
kMERAa WITH FLASHoPINGfNaADIAN SYLLABICS AaAaIbYcIaVILIK BiNbTHAPASCAN MbSlYcBEAVER DENE LbR
mIBLE-CREE YlLACKFOOT AbEbIbKAbEbIbOcNAbEbIbOcObSbWaAbEbIbOmCaAaAaIcRRIER CHAbEaEcIbObUdDEEbNE GEE
fTAL ShIbLAbEaEcIbObUcZAbEaEcIbObUdEEcGAaAcEaEcHAbEaEcIbObUcIbObUbWAbUdHaEEcIbWAbEaEcIbObUdI
aNITIAL ZjJAbEaEcIbJAbEaEcIbObUcObUbWAdKHAbEaEcIbObUcKaAbEaEcIbObUdLAbEaEcHAbEaEcIbObUcIbObUcMAbEaE
cIbObUcNAbEaEcGbIbObUcPaAbEaEcIbObUcRAbEaEcIbObUcSAbEaEcHaAbEaEcIbObUcIbObUcTHAbEaEcIbObUcLAbEaEcHA
bEaEcIbObUcIbObUcSAbEaEcIbObUcTAbEaEcIbObSAbEaEcIbObUcUdWAbEaEcIbObUcYAbEaEcIbObUcZaAbEaEcIbObUjE
bHI SIGNhIaIcOaOcWAaAcEbIaIcOaOeEaASTERN WiNcFaAaAaIdEbIaIbNAL ACUTEfBOTTOM HALF RINGqDOUBLE ACUTE
fSHORT VERTICAL STROKESzcWN TACKjGRAVEfMIDDLE DOTkPLUSeRAISED DOTjIGHT HALF RINGnNG
eSHORT HORIZONTAL STROKEwMALL RINGkTOP HALF RINGsOaOcULL STOPiWAAeGLOTTAL STOPmHKbYPHENgIaIbNcKaAaA
aIcYcEbIaIcOaOcWaAaAbYcEbIaIcOaOeLaAaAaIcYcEbHaAaAcIaIcOaOdIaIcOaOcWAaAcEbIaIcOaOeMaAaAaIcYcE
aDIAL LbRhHbIaIcOaOaSE-CREE SKmWAaAcEbIaIcOaOeNa-CREE THEbIaIkAaAaIcSKAPI CWAAeKWAAeMWAAeNWAAeS-W
cCWAdKWaAdPWAdTWAdWAAeTWAAeWAAcOOdYWAAkTTILIK HAaAcIaIcOaOdSHRAaAcIaIcOaOmYcEbGaAaAaIcIcIaIcOaOdHbI
aIcNGaAaAcIaIcOaOeOaObYcUNAVIK HaAaAcEbIaIcOaOgUT HiWAaAcEbIaIcOaOeOaJIBWAY CbKbMbNaWIaIcOaOePbSaH
cTiNbObYcPaAaAaIcYcEbIaIcOaObYcWAaAcEbIaIcOaObYeQaAaAaIcIcIaIcOaOdRa-CREE REbWEjAaAaIcYcEbIaIcOaO
cWAaAcEEcIaIcOaOeSaAaAaIcYaISI HAbEbIbOaOdJIbUaUdMbSHAbEbIbOaOcWEeTHcYIiEbHaAaAbYcEbIaIcOaObYcWAaA
cEbIaIcOaObYeIaIcOaObUTH-SLAVEY KAHcEHcIHcOHoYcPAbEbIbOcWaAaAcEbIaIcOaOeTaAaAaIcYcEbHa-CREE THaAaA
cEbIaIcOaOkAaAcEbIaIcOaOcWAaAcEdIaIcLHAbEbIbOaOcWEeOaOcTAbEbHaAaAcEbIbOaOcWEdIbOcWAaAcEbIaIcOaOdYA
bEbIbOdWAaAbYcEaST-CREE CWAaAcEbIaIcOaOeFWAAeKWAaAcEbIaIcOaOeLaAaAcEbOaOcWAaAcEbIaIcOaOeMaWAaAcEbI
aIcOaOeNWAaAcEdPaWAaAcEbIaIcOaOeRaAbEbIbObWAAeSHWAaAcEbIaIcOaOeWAaAcEbIaIcOaOeTHWAAeWAaAcEbIaIcOaO
eWAaAcEbIaIcOaOdYaWAaAcEbIaIcOaOkERN WiIaIcOaOaDS-CREE FINAL THiTHaAbEbIbObWAaAcEEcIaIcOaOqY
a-CREE COOdKOOdLOOdMOOdNOOdOOcPOOcWAAeSOOdTOOdWbYOOjAaAaIcYcEbIaIcOaObYcWAaAcEbIaIcOaOuCEL
a CHARACTERjTAGeLATION XjRdDLEcYcNED FOODiOEdPITULUMgRICORNhR SLIDINGiD FILE BOXiINDEXa DIVIDERS
qE OFdTa INSERTION POINTsIAN LETTER Aa2cBbC-18c39eDa2cEa2cGa2cIaIcKa2cLaDa2dMaBa2b3b4dNaDbGbNcObPa2
cQbRaRcSaHa2cSbTa2dTaTa2dUaUaUa2b3bUeXmONbUSEL HORSElP STREAMERjENTRY SAWkRIAGE RETURNlOTeSTLEeT
a FACEa WITH TEARS OF JOYmWRY SMILEvUCASIAN ALBANIAN CITATION MARKnLETTER ALTcORdBETdCARbYNdHAaTcI
bOYdYAWbYeDATcYANdZAYcYAYfEBbYNdFAMdGHEYSeIMdHEYTeINYAdRBcWNdJAYNdHOXeKARcIWdLANcYITeMAQdNOWCeON
cPENcIWReQARbYdRATdSEYKdHAaKcOYeTAScIWRdYAYeVEYZeXEYNeYAYDdOWDeZARLdHAbILzcTION SIGNlCHcEDI SIGN
fLLAfLTIC CROSSkNT SIGNfRE LINE SYMBOLmLINE LOW LINEiOVERLINErRESeGJcHAINScRcKMA AU MARKhDANDA
eIGIT EIGHTfFIVEdOUReNINEeONEdSEVENeIXdTHREEeWOdZEROjOUBLE DANDAmLETTER AAcBAAcHAAeCAAcHAAeDAAcDAA
cHAAeHAAeEbGAAcHAAeHAAdIbJAAcHAAeKAAcHAAeLAAcHAAeMAAdNAAcGAAdNAAdYAAePAAcHAAeRAAdSAAdTAAcHAAdTAA
cHAAfUbVAAdWAAdYAAcYAAlMAAYYAAhO MARKgQUESTION MARKnSECTION MARKlIGN ANUSVARAiCANDRABINDUlVISARGA
mVIRAMAfOWEL SIGN AaAbIbUcEaIcIaIcOaIcUaUrM CONSONANT SIGN FINAL HbMbNGiLAcRAcWAcYArDIGIT EIGHT
fFIVEdOUReNINEeONEdSEVENeIXdTHREEeWOdZEROkLETTER AaIcBAbBAcHAdCHAbHAeDAbDAcHAdEbFINAL CHcGbKbLbNaG
cPbRbSScTbYhGAbHAdHAcIbJAbHAdKAbHAdLAcMAbUEdNAbGAbUEdHAbJAcUEdUEdObPAbHAcPAdRAcSAbSAdTAbHAdUbVAcYA
jPUNCTUATION DANDAeOUBLE DANDAmSPIRALgTRIPLE DANDAyVOWEL SIGN AAbIbUcEIcIaIcOaEcUaE
pRACTER TABULATIONa SETdWITH JUSTIFICATIONzdIEjT WITH DOWNWARDS TRENDpUPWARDS TRENDa AND YEN SIGN
zkECK MARKfER BOARDa FILLpERING MEGAPHONEoSE WEDGEjQUERED FLAGlROKEE LETTER AbDAbEbIbLAcObUbVcEbGA
bEbIbObUbVcHAbEbIbNAcObUbVcIbKAcLAbEbIbObUbVcMAbEbIbObUbVcNAaHcEbIbObUbVcObQUAbEbIbObUbVdSaAbEbIbO
bUbVcTAbEbIbLAbEbIbObUbVcSAbEbIbObUbVdUbVbWAbEbIbObUbVcYAbEbIbObUbVjSMALL LETTER AbDAbEbIbLAcObUbV
cEbGAbEbIbObUbVcHAbEbIbNAcObUbVcIbKAcLAbEbIbObUbVcMAbEbIbObUbVcNAaHcEbIbObUbVcObQUAbEbIbObUbVdSaAbE
bIbObUbVcTAbEbIbLAbEbIbObUbVcSAbEbIbObUbVdUbVbWAbEbIbObUbVcYAbEbIbObUbVuRIESdY BLOSSOMlSTNUTgI RHO
eCKENeLDaREN CROSSINGoPMUNKfRONeOCOLATE BARkPSTICKShRASMIAN LETTER ALEPHeYINeBETHeCURLED WAWkDALETH
gGIMELfHEaTHeKAPHeLAMEDHgMEMdNUNdPEcRESHeSAMEKHfHINdMALL ALEPHlTAWdWAWdYODHeZAYINmNUMBER FOUReONE
a HUNDREDlTENcHREEeWENTYeOtRISTMAS TREEmURCHfINEMA
eRCLE DIVIDED BY HORIZONTAL BAR AND TOP HALF DIVIDED BY VERTICAL BAR
zzmWITH ALL BUT UPPER LEFT QUADRANT BLACKziHORIZONTAL BARoLEFT HALF BLACKoOWER HALF BLACK
qRIGHT HALF BLACKqSMALL CIRCLE TO THE RIGHTyUPERIMPOSED XoTWO HORIZONTAL STROKES TO THE RIGHT
zkUPPER HALF BLACKkRIGHT QUADRANT BLACKzbVERTICAL FILLtD ANTICLOCKWISE ARROWg-ROTATED DIVISION SIGN
zjSTERISK OPERATORrBOLD XfULLETgC WITH OVERLAID BACKSLASHyCbDbROSS FORMEEa WITH FOUR DOTSjTWO DOTS
uPOMMEEhING LANESoDASHdIGIT EIGHTfFIVEdOUReNINEeONEdSEVENeIXdTHREEeWOdZEROiVISION SIGNdLASH
nOLLAR SIGN WITH OVERLAID BACKSLASHziT OPERATORmEQUALSgGREATER-THANmHANGUL CHIEUCHa AiIEUCa AhHIEUH
a AhIEUNGa AbUhKHIEUKHa AiIYEOKa AiMIEUMa AhNIEUNa AhPHIEUPHa AiIEUPa AhRIEULa AhSIOSa AgTHIEUTHa A
iIKEUTa AoEAVY WHITE RIGHTWARDS ARROWzcORIZONTAL BAR WITH NOTCHyUMAN FIGUREmIDEOGRAPH ACCEPT
fDVANTAGEiLLIANCEhTTENTIONjCENTREfONGRATULATIONmPYcRRECThEARTHeIGHTeNTERPRISEjXCELLENTjFEMALE
fINANCIALhREcVEdOUReHAVEdIGHeITEMeKINDERGARTENlOTOeLABOReEFTdOWdMALEdEDICINEgTALeOONeNAMEdIGHTdNE
eONEdPRINTfQUESTIONiRELIGIONgSOURCEfTdIGHTfSCHOOLfECRETeVENeIXcOCIETYgPECIALgTOCKdUDYeUITABLEgN
bPERVISEjTENcHREEeWOdWATEReOODnNFORMATION SOURCErTALIC LATIN CAPITAL LETTER CbRzeKATAKANA AbEbHAbE
bIbObUcIbKAbEbIbObUcMAbEbIbObUcNAbEbIbObUcObRAbEbIbObUcSAbEbIbObUcTAbEbIbObUcUbWAbEbIbOcYAbObU
kOREAN CHARACTER CHAMKOgJUEUIwLATIN CAPITAL LETTER AbBbCbDbEbFbGbHbIbJbKbLbMbNbObPbQbRbSbTbUbVbWbX
bYbZqSMALL LETTER AbBbCbDbEbFbGbHbIbJbKbLbMbNbObPbQbRbSbTbUbVbWbXbYbZtESS-THANjMINUS
eULTIPLICATION SIGN WITH CIRCUMFLEX ACCENTzrNUMBER EIGHTEENdY ON BLACK SQUAREvLEVENgFIFTEENdY
a ON BLACK SQUAREuORTYa EIGHTfFIVEdOUReNINEeON BLACK SQUAREnEdSEVENeIXdTHREEeWOhURTEENiNINETEEN
iSEVENTEENdY ON BLACK SQUAREwIXTEENdY ON BLACK SQUAREvTENa ON BLACK SQUAREsHIRTEENdYa EIGHTfFIVE
dOUReNINEeON BLACK SQUAREnEdSEVENeIXdTHREEeWOjWELVEdNTYa EIGHTfFIVEdOUReNINEeON BLACK SQUAREnE
dSEVENeIXdTHREEeWOrOPEN CENTRE EIGHT POINTED STARzfPARALLELhERPENDICULARmLUSdOSTAL MARK
lREVERSE SOLIDUSoING OPERATORnSQUAREgTIMESeRIANGLEa DOWNnVERTICAL BARmWHITE BULLETgSTARjZcX
bZERO WITH SLASHtULATION FUNCTIONpMFLEX ACCENTmS TENTjTYSCAPEa AT DUSK
qJK COMPATIBILITY IDEOGRAPH-2F800b1b2b3b4b5b6b7b8b9bAbBbCbDbEbFc10b1b2b3b4b5b6b7b8b9bAbBbCbDbEbFc20
b1b2b3b4b5b6b7b8b9bAbBbCbDbEbFc30b1b2b3b4b5b6b7b8b9bAbBbCbDbEbFc40b1b2b3b4b5b6b7b8b9bAbBbCbDbEbFc50
b1b2b3b4b5b6b7b8b9bAbBbCbDbEbFc60b1b2b3b4b5b6b7b8b9bAbBbCbDbEbFc70b1b2b3b4b5b6b7b8b9bAbBbCbDbEbFc80
b1b2b3b4b5b6b7b8b9bAbBbCbDbEbFc90b1b2b3b4b5b6b7b8b9bAbBbCbDbEbFcA0b1b2b3b4b5b6b7b8b9bAbBbCbDbEbFcB0
b1b2b3b4b5b6b7b8b9bAbBbCbDbEbFcC0b1b2b3b4b5b6b7b8b9bAbBbCbDbEbFcD0b1b2b3b4b5b6b7b8b9bAbBbCbDbEbFcE0
b1b2b3b4b5b6b7b8b9bAbBbCbDbEbFcF0b1b2b3b4b5b6b7b8b9bAbBbCbDbEbFd900b1b2b3b4b5b6b7b8b9bAbBbCbDbEbF
c10b1b2b3b4b5b6b7b8b9bAbBbCbDbEbFc20b1b2b3b4b5b6b7b8b9bAbBbCbDbEbFc30b1b2b3b4b5b6b7b8b9bAbBbCbDbEbF
c40b1b2b3b4b5b6b7b8b9bAbBbCbDbEbFc50b1b2b3b4b5b6b7b8b9bAbBbCbDbEbFc60b1b2b3b4b5b6b7b8b9bAbBbCbDbEbF
c70b1b2b3b4b5b6b7b8b9bAbBbCbDbEbFc80b1b2b3b4b5b6b7b8b9bAbBbCbDbEbFc90b1b2b3b4b5b6b7b8b9bAbBbCbDbEbF
cA0b1b2b3b4b5b6b7b8b9bAbBbCbDbEbFcB0b1b2b3b4b5b6b7b8b9bAbBbCbDbEbFcC0b1b2b3b4b5b6b7b8b9bAbBbCbDbEbF
cD0b1b2b3b4b5b6b7b8b9bAbBbCbDbEbFcE0b1b2b3b4b5b6b7b8b9bAbBbCbDbEbFcF0b1b2b3b4b5b6b7b8b9bAbBbCbDbEbF
dA00b1b2b3b4b5b6b7b8b9bAbBbCbDbEbFc10b1b2b3b4b5b6b7b8b9bAbBbCbDfF900b1b2b3b4b5b6b7b8b9bAbBbCbDbEbF
c10b1b2b3b4b5b6b7b8b9bAbBbCbDbEbFc20b1b2b3b4b5b6b7b8b9bAbBbCbDbEbFc30b1b2b3b4b5b6b7b8b9bAbBbCbDbEbF
c40b1b2b3b4b5b6b7b8b9bAbBbCbDbEbFc50b1b2b3b4b5b6b7b8b9bAbBbCbDbEbFc60b1b2b3b4b5b6b7b8b9bAbBbCbDbEbF
c70b1b2b3b4b5b6b7b8b9bAbBbCbDbEbFc80b1b2b3b4b5b6b7b8b9bAbBbCbDbEbFc90b1b2b3b4b5b6b7b8b9bAbBbCbDbEbF
cA0b1b2b3b4b5b6b7b8b9bAbBbCbDbEbFcB0b1b2b3b4b5b6b7b8b9bAbBbCbDbEbFcC0b1b2b3b4b5b6b7b8b9bAbBbCbDbEbF
cD0b1b2b3b4b5b6b7b8b9bAbBbCbDbEbFcE0b1b2b3b4b5b6b7b8b9bAbBbCbDbEbFcF0b1b2b3b4b5b6b7b8b9bAbBbCbDbEbF
dA00b1b2b3b4b5b6b7b8b9bAbBbCbDbEbFc10b1b2b3b4b5b6b7b8b9bAbBbCbDbEbFc20b1b2b3b4b5b6b7b8b9bAbBbCbDbE
bFc30b1b2b3b4b5b6b7b8b9bAbBbCbDbEbFc40b1b2b3b4b5b6b7b8b9bAbBbCbDbEbFc50b1b2b3b4b5b6b7b8b9bAbBbCbDbE
bFc60b1b2b3b4b5b6b7b8b9bAbBbCbDc70b1b2b3b4b5b6b7b8b9bAbBbCbDbEbFc80b1b2b3b4b5b6b7b8b9bAbBbCbDbEbF
c90b1b2b3b4b5b6b7b8b9bAbBbCbDbEbFcA0b1b2b3b4b5b6b7b8b9bAbBbCbDbEbFcB0b1b2b3b4b5b6b7b8b9bAbBbCbDbEbF
cC0b1b2b3b4b5b6b7b8b9bAbBbCbDbEbFcD0b1b2b3b4b5b6b7b8b9zdRADICAL BAMBOOfLUEdOLT OF CLOTHlNEcX
cRUSH ONEdTWOjC-SIMPLIFIED BIRDeCARTeDRAGONgEATcVENeFISHdLYcROGeGATEdOLDeHORSEfLEAFdONGeSALTdEE
cHELLeILKdPEECHgTANNED LEATHERnOOTHeURTLEgWINDqHOKEeITYcVILIANhLIFFdOTHESgOWdDEATHeIVINATIONjOG
dEAT ONEdTHREEeWOgWEcYEdFIREdOOTeGHOSTeRASS ONEdTHREEeWOjHANDdEADbRT ONEdTWOiORN
eJ-SIMPLIFIED DRAGONgEVENeTOOTHeURTLEsADEeKNIFE ONEdTWOjLAME FOUReONEdTHREEeWOhONG ONEdTWOiMEATcSH
dOONcRTAReTHEReUND ONEdTWOjNET FOUReONEdTHREEeWOhOLDdPAW ONEdTWOgERSONgRAINcMbPcEPEATgSEALcCOND ONE
dTHREEeWOjHEEPeILKcMPLIFIED HALF TREE TRUNKoORNeWALKdHEATfYELLOWqMALL ONEdTWOiNAKEdOUT ONEdTWO
iPIRIT ONEdTWOjUNdTABLEeHREADfIGEReURTLEgWALK ONEdTWOgTER ONEdTWOiEST ONEdTWOqSTROKE BXGdDbHaGbPaWG
dXWGdZaGbTbWaGcZaPbZaGfNbPaDbGbZcQbSaGbPbTbWaGbZcZaWGcZdTaNcWGcXGmLAMSHELL MOBILE PHONEtPPER BOARD
iING HANDS SIGNqSSICAL BUILDINGqEAR SCREEN SYMBOLrINKING BEER MUGSjGLASSESnPBOARD
hOCK FACE EIGHT OCLOCKh-THIRTYlLEVEN OCLOCKh-THIRTYnFIVE OCLOCKh-THIRTYkOUR OCLOCKh-THIRTY
lNINE OCLOCKh-THIRTYlONE OCLOCKh-THIRTYkSEVEN OCLOCKh-THIRTYlIX OCLOCKh-THIRTYkTEN OCLOCKh-THIRTY
jHREE OCLOCKh-THIRTYlWELVE OCLOCKh-THIRTYlO OCLOCKh-THIRTYqWISE CLOSED CIRCLE ARROWsONTOUR INTEGRAL
qDOWNWARDS AND UPWARDS OPEN CIRCLE ARROWSzpGAPPED CIRCLE ARROWtINTEGRALiOPEN CIRCLE ARROW
rRIGHT AND LEFT SEMICIRCLE ARROWSzcWARDS AND LEFTWARDS OPEN CIRCLE ARROWSa WITH CIRCLED ONE OVERLAY
zzsTOP SEMICIRCLE ARROWtRIANGLE-HEADED OPEN CIRCLE ARROWzpSE UPdD BOOKeINTERSECTION WITH SERIFS
yLOCK WITH KEYnMAILBOX WITH LOWERED FLAGmRAISED FLAGySUBSETa OR EQUAL TOqPERSETa OR EQUAL TO
uUMBRELLAhNION WITH SERIFSa AND SMASH PRODUCTzoUDa WITH LIGHTNINGjRAINeSNOWeTORNADOpWN FACEjOAT
cCKROACHfTAIL GLASSlONUTfFFINeINcLLISION SYMBOLnONa EQUALSgSIGNiMBINING ACUTE ACCENTa BELOW
mTONE MARKk-GRAVE-ACUTElMACRONlLMOST EQUAL TO ABOVEfBELOWuNNUITY SYMBOLmTICLOCKWISE ARROW ABOVE
lRING OVERLAYzSTERISK ABOVEfBELOWoBINDU BELOWkREVEa BELOWg-MACRONkIDGE ABOVEfBELOWmCANDRABINDUjRON
a BELOWkEDILLAgIRCUMFLEX ACCENTa BELOWwLOCKWISE ARROW ABOVElRING OVERLAYvOMMA ABOVEa RIGHTlBELOW
jNJOINING MACRONa BELOWwYRILLIC DASIA PNEUMATAoHUNDRED MILLIONS SIGNnTHOUSANDS SIGNwKAVYKAgLETTER A
bBEbIG YUShCHEdDEbJERVfEFbLbMbNbRbSa-TEfFITAeGHEdHAaRD SIGNjIaEbOTIFIED AbBIG YUShEkKAcLITTLE YUS
kMONOGRAPH UKmOaMEGAfPEcSHAbCHAeOFT SIGNjTEbSEdUaKRAINIAN IEmVEcYATcERUdIbUcZEbHEkMILLIONS SIGN
nPALATALIZATIONmYEROKgOKRYTIEhSILI PNEUMATAoTEN MILLIONS SIGNqHOUSAND MILLIONS SIGNvITLOa LEFT HALF
jRIGHT HALFqVZMEToDELETION MARKlVANAGARI DIGIT EIGHTfFIVEdOUReNINEeONEdSEVENeIXdTHREEeWOdZERO
kLETTER AbKAcNAcPAcRAcUbVIjSIGN AVAGRAHAxIAERESISa BELOWg-RINGnOT ABOVEa LEFTeRIGHTlBELOWa LEFT
lTED ACUTE ACCENTmGRAVE ACCENTrUBLE ACUTE ACCENTmBREVEa BELOWlCIRCUMFLEX ABOVEqGRAVE ACCENT
mINVERTED BREVEa BELOWuLOW LINEiMACRONa BELOWmOPEN MARK BELOWoVERLINEiPARENTHESES ABOVE
qLUS SIGN ABOVEfBELOWpRIGHTWARDS ARROW BELOWuNG BELOWkTILDEa LEFT HALFjRIGHT HALF
qVERTICAL LINE ABOVEfBELOWkSTROKE OVERLAYyD CIRCUMFLEX ACCENTxWN TACK BELOWlWARDS ARROW
pENCLOSING CIRCLEa BACKSLASHqDIAMONDhKEYCAPgSCREENfQUAREgUPWARD POINTING TRIANGLEziQUALS SIGN BELOW
rFERMATAgOUR DOTS ABOVEpGLAGOLITIC LETTER AZUdBIG YUSgUKYeCHRIVIgDJERVIfOBROfFITAdRITUfGLAGOLIhHERU
eIaNITIAL IZHElOTATED BIG YUShSMALL YUSqZHEeKAKOeLJUDIJEhMYSLITEhNASHIfONUdPOKOJIgRITSIfSHAbTAdLOVO
eMALL YUSjTSIcVRIDOgUKUdVEDEeYATIdERIbUcSTUeObUcZEMLJAfHIVETEyRANTHA DIGIT FIVEdOUReONEdSIXdTHREE
eWOdZEROkLETTER AbKAcNAcPAcVIoPHEME JOINERmVE ACCENTa BELOWmTONE MARKk-ACUTE-GRAVElMACRON
kEEK DIALYTIKA TONOSpKORONIShMUSICAL PENTASEMEjTETRASEMEiRISEMEpPERISPOMENIlYPOGEGRAMMENI
tHOMOTHETIC ABOVEoOK ABOVEiRNeINFINITYgVERTED BREVEa BELOWjIDGE BELOWmDOUBLE ARCH ABOVEfBELOW
zS BELOWiKATAKANA-HIRAGANA SEMI-VOICED SOUND MARKwVOICED SOUND MARKziVYKA ABOVE LEFTeRIGHT
sLATIN LETTER SMALL CAPITAL GbLbMbNbRwSMALL LETTER Aa WITH DIAERESISpEbLPHAeObVcBaETAeCa CEDILLAjD
bEaSHcTHdFaLATTENED OPEN A ABOVEwGbHbIaNSULAR DbGbRbTjKbLa WITH DOUBLE MIDDLE TILDEzONG SgMbNbO
a WITH DIAERESISjLIGHT CENTRALIZATION STROKEzjPbRa BELOWfROTUNDAjSaCHWAfTaURNED W BELOWoU
a WITH DIAERESISjLIGHT CENTRALIZATION STROKEzjVbWa BELOWhXbZtEFT ANGLE ABOVEfBELOWkRROW ABOVEfBELOW
gHEAD ABOVEfBELOWpHALF RING ABOVEfBELOWnRPOON ABOVEnPARENTHESIS ABOVE LEFTkBELOW LEFT
wRIGHT ARROW ABOVEfBELOWrTACK BELOWlWARDS ARROW OVERLAYnHARPOON WITH BARB DOWNWARDS
zlIGATURE LEFT HALFa BELOWpRIGHT HALFa BELOWwHT CENTRALIZATION STROKE BELOW
zhONG DOUBLE SOLIDUS OVERLAYwSOLIDUS OVERLAYoTROKE OVERLAYoVERTICAL LINE OVERLAYyW LINEiMACRON
a BELOWfLEFT HALFa BELOWpRIGHT HALFa BELOWr-ACUTEfBREVEfGRAVElINUS SIGN BELOWqNOT TILDE ABOVE
oUMBER SIGN ABOVErOGONEKa ABOVElLD PERMIC LETTER ANcDOIdNENOEfSIIdZATAvPEN MARK BELOWoVERLINE
iPALATALIZED HOOK BELOWuRENTHESES ABOVEfBELOWfOVERLAYsLUS SIGN ABOVEfBELOWpRETROFLEX HOOK BELOW
sVERSE SOLIDUS OVERLAYqD COMMA ABOVEtIGHT ARROW ABOVEfBELOWgHEAD ABOVEeND DOWN ARROWHEAD BELOW
uUP ARROWHEAD BELOWwBELOWpHALF RING ABOVEfBELOWnRPOON ABOVEnPARENTHESIS ABOVE RIGHTlBELOW RIGHT
xTACK BELOWlWARDS HARPOON WITH BARB DOWNWARDSzlNG ABOVEfBELOWfOVERLAYmSEAGULL BELOW
mHORT SOLIDUS OVERLAYoTROKE OVERLAYoVERTICAL LINE OVERLAYzbNAKE BELOWkQUARE BELOWeRACKETS ABOVE
uTRONG CENTRALIZATION STROKE BELOWziUSPENSION MARKpTHREE DOTS ABOVEpILDEa BELOWfLEFT HALF BELOW
pOVERLAYhRIGHT HALF BELOWvRIPLE ACUTE ACCENTmDOTdUNDERDOToURNED COMMA ABOVEsUP TACK ABOVEfBELOW
lWARDS ARROW BELOWsR ABOVEhS ABOVEiVERTICAL LINE ABOVEfBELOWkTILDEoWIDE BRIDGE ABOVE
mINVERTED BRIDGE BELOWyGGLY LINE BELOWrX ABOVEfBELOWg-X BELOWjZIGZAG ABOVEfBELOWtETcMAbERCIAL AT
cMINUS SIGNsPASSdLEMENTgOSITION SYMBOLoRESSIONjNFETTI BALLjOUNDED FACElUSED FACE
kGRUENT WITH DOT ABOVEvICAL TAPERkJUNCTIONiSTRUCTION SIGNeWORKERqTAINS AS MEMBERgNORMAL SUBGROUP
a OR EQUAL TOzfWITH LONG HORIZONTAL STROKEwOVERBARhVERTICAL BAR AT END OF HORIZONTAL STROKE
zzINUOUS UNDERLINE SYMBOLxOUR INTEGRALmROL KNOBSfSEQUENCE INTRODUCERyVENIENCE STOREpOKED RICEhIEbNG
fPTIC CAPITAL LETTER AKHMIMIC KHEImLFAeBOHAIRIC KHEInCROSSED SHEIkYPTOGRAMMIC EIEdGANGIAgNIcSHEI
sDALDAeEIcIALECT-P ALEFeHORIeKAPAeNImEIEdFEIcIcGAMMAdNGIAgHATEdORIeIAUDAfKAPAdHEIcIcSIdL-SHAPED HA
kAULAfMIcNIcOaLD COPTIC AINdDJAdESHdGANGIAgHAaTcEIcORIeOOUdSHEIcIMAmNUBIAN NGIcYIdSHIMAfWAUnOUdPI
bSIdROcSAMPIeHEIcIMAeIMAdOUdTAUcHETHEgUAcVIDAeZATAsOMBINING NI ABOVEiSPIRITUS ASPERfLENIS
yEPACT DIGIT EIGHTfFIVEdOUReNINEeONEdSEVENeIXdTHREEeWOjNUMBER EIGHT HUNDREDiYgFIFTYdVE HUNDREDlORTY
dUR HUNDREDmNINE HUNDREDiTYgONE HUNDREDlSEVEN HUNDREDiTYgIX HUNDREDiTYfTENcHIRTYeREE HUNDREDmWENTY
eO HUNDREDsTHOUSANDS MARKuFRACTION ONE HALFqULL STOPjMORPHOLOGICAL DIVIDER
vOLD NUBIAN DIRECT QUESTION MARKuFULL STOPjINDIRECT QUESTION MARKwVERSE DIVIDER
ySMALL LETTER AKHMIMIC KHEImLFAeBOHAIRIC KHEInCROSSED SHEIkYPTOGRAMMIC EIEdGANGIAgNIcSHEIsDALDAeEI
cIALECT-P ALEFeHORIeKAPAeNImEIEdFEIcIcGAMMAdNGIAgHATEdORIeIAUDAfKAPAdHEIcIcSIdL-SHAPED HAkAULAfMI
cNIcOaLD COPTIC AINdDJAdESHdGANGIAgHAaTcEIcORIeOOUdSHEIcIMAmNUBIAN NGIcYIdSHIMAfWAUnOUdPIbSIdRO
cSAMPIeHEIcIMAeIMAdOUdTAUcHETHEgUAcVIDAeZATAqYMBOL KAIcHI ROgMI ROfPI ROfSHIMA SIMAjTAUROShTAU RO
rYLEFT SYMBOLlRIGHT SIGNmRALcNISH VERSE DIVIDERsRESPONDS TOmUCH AND LAMPlNTERBOREeSINK
gING ROD TENS DIGIT EIGHTfFIVEdOUReNINEeONEdSEVENeIXdTHREEeWOoUNIT DIGIT EIGHTfFIVEdOUReNINEeONE
dSEVENeIXdTHREEeWOyPLE WITH HEARTpWa FACEhRaABcEDIT CARDiSCENT MOONlICKETa BAT AND BALLsOCODILE
gISSANTgSS MARKeOF JERUSALEMjLORRAINElPATTY WITH LEFT CROSSBARnRIGHT CROSSBARyOMMEE
a WITH HALF-CIRCLE BELOWzfED FLAGSfNEGATIVE SQUARED LATIN CAPITAL LETTER PzoSWORDSjING LANESlWN
dUTCHdZEIRO SIGNlYING CAT FACEiFACEiSTAL BALLlSIcUBE ROOThCUMBERgNEIFORM NUMERIC SIGN EIGHT ASH
dDISHeGESH2fSHAR2fUa VARIANT FORMoVARIANT FORM USSUa3xLAMITE FIFTYeORTYfONE THIRDjTWO THIRDS
sFIVE ASHa TENUiBAN2a VARIANT FORMqURUeDISHeGESH2bUfSHAR2bUeIXTHS DISHlUa VARIANT FORMsOUR ASH
a TENUiBAN2a VARIANT FORMqURUeDISHeGESH2bUfSHAR2bUfUa VARIANT FORMoVARIANT FORM LIMMUa AbBc4
yNIGIDAESHdMINhNE ASHdDISHeGESH2fSHAR2fUa VARIANT FORMoVARIANT FORM ILIMMUa Ac3b4
zOLD ASSYRIAN ONE QUARTERhSIXTHvNE BAN2dURUeEIGHTH ASHjSHE3fGESH2bUfHALF GURiQUARTER ASHdGURlSHARU
fTHIRD DISHeVARIANT FORM AySEVEN ASHdDISHeGESH2fSHAR2fUa VARIANT FORMoVARIANT FORM IMIN AbBc3
xHAR2 TIMES GAL PLUS DISHeMINxIX ASHa TENUiDISHeGESH2fSHAR2fUa VARIANT FORMoVARIANT FORM ASH9
vTHREE ASHa TENUiBAN2dURUa VARIANT FORMrDISHeGESH2bUfSHAR2a VARIANT FORMoUa VARIANT FORM
sVARIANT FORM ESH16c21xWO ASHa TENUiBAN2dURUeESHE3fGESH2bUfSHAR2bUfTHIRDS DISHeVARIANT FORM A
znPUNCTUATION SIGN DIAGONAL COLONfQUADCOLONjTRICOLONrOLD ASSYRIAN WORD DIVIDERzVERTICAL COLON
zgSIGN Aa TIMES AbBADdGAN2 TENUjHAcIGIdLAGAR GUNUkMUSHeSAGk2bBa GUNUeTIMES ASH2eDUN3 GUNUjGAL
bN2 TENUjHAcIGI GUNUhMINeLAGABfNUNa TENUiSHESHdU2eU PLUS U PLUS Uw2a TIMES AbBALAGfGAN2 TENU
jME PLUS ENkSHA3eTAK4nDa TIMES ESH2mKa TIMES ERIN2fSHITA PLUS GISHxLa TIMES ALcDIM2eGISHeHAcKAD3dI
cSHEdUSHkANcEPHeMARa TIMES KUGdSHEnNa OVER ANhPLUS NAGA OPPOSING AN PLUS NAGAvSQUAREDrTHREE TIMES
mSHEePINdRADa TIMES KURmKABeSAL2dHa KABA TENUjOVER ASH OVER ASHa CROSSING ASH OVER ASH OVER ASH
zoTUG2 OVER TUG2 TUG2 OVER TUG2 PAPzrZIDA TENUk2bGABgBAaDa TIMES DISH TENUrG3cHAR2a TIMES AB2dNIcZA
nLa OVER BALjAGdRaA2eIa TIMES AbGARdIGI GUNUqUa CROSSING BUlOVER BU ABcTIMES NA2jUNlLUGa OVER BULUG
oRa2eDAa TIMES TAK4lGa KISIM5 TIMES A PLUS MASHkMAReBALAGeIcGAa PLUS MASHlIaR2dUDdHAcIRa PLUS LU
kKAKdLAbUa PLUS MASH2lMdNEcPAP PLUS PAPmSIcTAK4eU2 PLUS GIR2eMASHlSHqTIMES KURk3cMbRaA3b4eIaBbM
a TIMES IGIdSHEdU U Um2a TIMES UDlNa KASKAL U GUNU DISHuSHa PLUS SHUmUa GUNUeOVER DUhSHESHIGiB
a TIMES ESH2eSHEk2cGa TIMES ANSHEeSHa AT LEFTlDINcUNdERIN2fGAbIaR2 GUNUhSHeHAbIcIGI GUNUiKASKALfUR
bSHU2a PLUS KASKALsLAK-020fMa TIMES KURmUH PLUS GISHnMASHdEScIcNIcPIcSHEcI GUNUoUDdHbNa3a GUNU
a GUNUl4cR2eEa OVER E NUN OVER NUNtTIMES PAPk2a TIMES A PLUS HA PLUS DArGARdKURdMIcPAPdSALcHEdUjDIN
dGIRdLbNa CROSSING ENlOPPOSING ENlSQUAREDhTIMES GAN2a TENUjMEkRENcIN2a XgSH2a CROSSING ESH2rZEN
a SHESHIG TIMES ASHdHIcIGI GUNUiLAaLdMEaSdSUqTIMES Aa PLUS LALa TIMES LALtNcBADdDUN3 GUNUa GUNUoGUD
dHAa GUNUhIGI GUNUiKASKALa SQUAREDnU3dLAaL TIMES LALmIbUcSHEcUcU2bDnGAa GUNUf2a OVER GA2
iTIMES A PLUS DA PLUS HAkHAcIGIjB2 TENU PLUS TABqNa PLUS KAK PLUS ArSHa2a PLUS GALnBADbHAR2
eR PLUS RAkURa PLUS RAlDAbIaM GUNUeTIMES SHEmUBbG TIMES IGI GUNUiKASKALqELa PLUS LAjN
a TIMES GAN2 TENUrRENeGAaN2 TENUhRa PLUS DIcNEkIa4a PLUS AiR2 PLUS SUmHA PLUS AbLU PLUS ESH2sL
a PLUS LAkI PLUS LIjUB2eIGI GUNUhSH PLUS HU PLUS ASHuKAKbSKALfIDa PLUS LALlU3 PLUS AN
jSHU2 PLUS KASKALsLAaMa TIMES KURmUHdME PLUS ENjIbUSHeNEa PLUS E2cGIjUNa OVER NUNmPAcSALbRcHE
a PLUS TURkIDbMdUMdTAK4eUaDa PLUS DUkZIZ2mBAa CROSSING GABAnROTATED NINETY DEGREESzD
a OVER GAD GAR OVER GARxLa GAD OVER GAD GAR OVER GARzbAMdMbNa2a CROSSING GAN2nOVER GAN2jTENUhRa3
cSHANfE22cSHTINa TIMES KURdUoIa CROSSING GIlTIMES EbUi4a CROSSING GI4mOVER GI4kDIMdGbR2a GUNUg3
a TIMES A PLUS IGIkGAN2 TENUjIGIdLU PLUS IGIlPAlSALcHa CROSSING GISHnTENUdIMES BAD
dGISH CROSSING GISHsTAK4oUa CROSSING GUm2a GUNUeTIMES IGI GUNUiKAKa TIMES IGI GUNUsNUN
dSAL PLUS TUG2vDa OVER GUD LUGALoPLUS GISH TIMES TAK4uTIMES A PLUS KURkKURlLbMa TIMES SHElRa7bUNbSH
gHAa GUNUeTENUa GUNUkLcIa TIMES ASHa OVER HI TIMES ASHs2eBADdDISHeGADdKINdNUNdSHEdUjUaB2a TIMES AN
cHALdKASKALgLISHeUDlL2cSHeIa AcBbDIMa OVER IDIM BURdSQUAREDvGaIa DIBdGUNU
eOVER IGI SHIR OVER SHIR UD OVER UDzjRIfLa TIMES GAN2 TENUq2cMa CROSSING IMlOPPOSING IMlSQUARED
hTIMES TAK4lINdNbRbSHdKAa TIMES AaDa PLUS KU3kNSHEeSH2b3eBADbLAGdRcIbUcERIN2eSH2eGAaLbN2 TENUhR
a PLUS SHA3 PLUS AtIaR2cSHa CROSSING GISHnPLUS SARmUaDbR7eHI TIMES ASH2nIGIcMcKAaKcIaDdLIbUaMdME
a PLUS DUcGIcTEjIa PLUS NUNUZnNEbUNdPAbIcRUcSAaRcHAbEbIDcUaLdIGcUHURfTARcUcUa U Ue2bDbMUM TIMES PA
mRa2cSHdZIj2a CROSSING KA2oBbD2b3b4b5a OVER KAD5mKa TIMES IGI GUNUqLa CROSSING KALmTIMES BADlM2b4
cP ELAMITEjSKALa LAGAB TIMES U OVER LAGAB TIMES UzhOVER KASKAL LAGAB TIMES U OVER LAGAB TIMES U
zzESH2eIa TIMES BADdUaDjDbNbSALcHbIM5a OVER KISIM5rUa OVER HI TIMES ASH2 KU OVER HI TIMES ASH2zq3b4
a VARIANT FORMo7bLa GUNUgNbRa OPPOSING KURoSHU2fWU318gLAaGABa SQUAREDhTIMES Aa PLUS DA PLUS HAkGAR
dLALjLbNbSH ZIDA TENUnBADcIcDARdENcGAaRcIbUDa PLUS GUDmHAaLcI TIMES NUNmIGI GUNUhMa PLUS HAcLUkKIaN
cU3bLa PLUS HI PLUS AsLAGABeISHdUaLdMEa PLUS ENjUSHeNEcSHE PLUS SUMkITA PLUS GISH PLUS ERIN2kTENU
sU2a PLUS SHU2nUMdTAGbK4dE PLUS A PLUS SU PLUS NAzUa PLUS AbU PLUS Uo2 PLUS ASHkDbSHdZU OVER ZUsR
a GUNUa OVER LAGAR GUNU SHEyTIMES SHEa PLUS SUMwHSHUeK-003c21b5c30c50b1c62c79 OVER LAK-079 GUNUu80
b1 OVER LAK-081p92d130c42d210b9c20b5b8c38c65b6d343b7b8c83b4c90d441b9a TIMES GUcIGIdPAP PLUS LU3
dPAP PLUS LU3vU2 PLUS BAt50b7c70c83c90b2b3b5d550d608c17a TIMES ASHdBADdDUN3 GUNU GUNUoKU3dLAcTARcE
cU2bDbRUDAo36c48a TIMES DUBdGAcIGIa GUNUiNIcPAP PLUS PAP PLUS LU3vSHESH PLUS KInUDbRUDAp724c49fL
a TIMES LALlMa TIMES KURa PLUS RUuIaLbMMU2eSHdUa TIMES BADk2a CROSSING LU2mGUNU TIMES ASH
oOPPOSING LU2mSHESHIGa TIMES BADqQUAREDhTENUdIMES ALcBADdDISHeESH2a PLUS LALiTENUjGAN2 TENUjHAL
cI TIMES BADmIMcKAD2b3a PLUS ASHmIcLA PLUS ASHjGABfME PLUS ENkNEbUcPAPa PLUS PAP PLUS LU3vSHU
cI PLUS ASHjK2 PLUS BUmTAK4dUG2m3bGALa OPPOSING LUGALnVER LUGALkSHESHIGlHbLbMa OVER LUM
a GAR OVER GARzMAa GUNUeTIMES TAK4l2bHbRbSHa2eEaSaHdIa PLUS ZA7jNcUa OVER MUiGa GUNUgNSUBeRGU2eSH
a CROSSING MUSHnOVER MUSHa TIMES A PLUS NAjGAcKAKtTIMES AbKURdZAj3a GUNUeTIMES Aa PLUS DIjDIcZAoNA
a2b4bGAa INVERTEDiOPPOSING NAGAnTIMES SHU TENUpRdMa NUTILLUi2dEa SHESHIGhTIMES AbUDkIa TIMES Ei2bM
a TIMES GAN2 TENUhR PLUS GAN2 TENUzbNa9bDA2a TIMES ANbSHa PLUS ASHmBALdDIM GUNUiGIaSHdUDbLdHIcKESH2
fLAK-050hMASHdE PLUS GAN2 TENUrNEbUNdPAP PLUS PAPmSHEa PLUS A ANdSHa PLUS ASHvUa PLUS Uh2 PLUS ASH
kRUDAeSHoSAGeUa11a OVER NU11 BUR OVER BURwROTATED NINETY DEGREESwTENUhNa CROSSING NUN
a LAGAR OVER LAGARzeLAGAR TIMES GARdMASHeSALa OVER NUN LAGAR TIMES SALzdUSHpOVER NUNiTENUfUZ
a AB2 TIMES ASHGABgBIcDUGdGUDdIGI GUNUiKAD3eLAcNEcSILA3fU2mKISIM5 TIMES BIa UxPAaDbNbPcESH2
a ASTERISKnIa CROSSING PIlTIMES AaBcBIbUcEbIaBcUa2jR2bIGa OPPOSING PIRIGoTIMES KALdUDcZAoRAaBcIbU
cSAaGa GUNUa TIMES HAnNUTILLUhOVER SAGiTIMES AbDUaBdENcHAcIGI GUNUiKAKcURdLUMdMIcNUNdSALcHE AT LEFT
jIDeTABbK4eU2bBbMbRbSHlLa LAGAB TIMES ASH2sNGA2eRcHAa3a TIMES AbBADdGISHeNEcSHU2eTURdUa PLUS Aq6
a TENUgB6cR2dEa HUcOVER SHEa GAD OVER GAD GAR OVER GARzTAB OVER TAB GAR OVER GARzjPLUS HUB2eNAM2
eSARjG9cNbSHa2bLAMgIDa TIMES AbIMkMa TIMES AbBALcULUGfDINdGARdIGIa GUNUiKUSHU2gLULdMUGdSALlNIGdR
a OVER SHIR BUR OVER BURwTENUgTAdUa OVER INVERTED SHUs2a PLUS DUG TIMES NImE2 TIMES ANsBURfIa GUNU
eTIMES TAK4lGa4a OVER SIG4 SHU2rK2cLA3eUa OVER SUiDa2cHURdMaASHeRa9eTAa ASTERISKiGUNUeTIMES HIcMIjB
a OVER TAB NI OVER NI DISH OVER DISHzjSQUAREDjGa TIMES BIcGUDdSHEbUdTUG2eUDkK4a PLUS SAGlRcEa GUNU
gIa TENUf2bLbRa OVER TIRa GAD OVER GAD GAR OVER GARzjTIMES TAK4nUaG2cKbMa TIMES GAN2 TENU
jTHREE DISHsRa OVER TUR ZA OVER ZAxUa GUDdOVER U PA OVER PA GAR OVER GARxSUR OVER SUR
mU REVERSED OVER U REVERSEDziUa Ue2bBbDa GUNUeKUSHU2gSHESHIGa TIMES BADrTIMES BADdMI
cU PLUS U PLUS Ua GUNUzcUGdMa TIMES LAGABfMEa PLUS DAkSHA3eUiBINdUMa TIMES KASKALgPAmNa GUNUgR
a CROSSING URlSHESHIGi2a INVERTEDiTIMES A PLUS HAcNAiLcHAcNUNdU2a PLUS ASHdBIjDk4bIa3cUa TIMES A
aSHGABgBARdDARA3eUNdGAaLbN2 TENUhRcUcHAcIGIcMbSHdKIcLAK-668gU3bMdMINdPAcSHEcIG4eTUcU PLUS GUDjD
bRUDAmDAa TIMES UmSHa TIMES AbKUaRdTAK4l2bUMXdXdTUKIeZ3a TIMES KASKALoUdZAa SQUARED TIMES KURrTENU
f7bGbMXdE2cIa OVER ZIi3bBa KABA TENUlGbZ2dUa OVER ZU PLUS SARr5a TIMES AbTHREE DISH TENUxBURdM
qP ON BLACK SQUAREpWITH STRAWlCAKEeIDOeRLING STONEjY BRACKET EXTENSIONrLOGICAL ANDdORiOP
hRENCY EXCHANGEiSIGNjY AND RICElVED STEM PARAGRAPH SIGN ORNAMENTziSTARDdOMSfT OF MEATkYCLONE
fLINDRICITYkPRIOT SYLLABLE AbEbIbJAbOcKAbEbIbObUcLAbEbIbObUcMAbEbIbObUcNAbEbIbObUcObPAbEbIbObUcRAbE
bIbObUcSAbEbIbObUcTAbEbIbObUcUbWAbEbIbOcXAbEcZAbOpO-MINOAN SIGN CM001b2b4b5b6b7b8b9c10b1b2aBc3b5b7
b9c21b3b4b5b6b7b8b9c30b3b4b5b6b7b8b9c40b1b4b6b7b9c50b1b2b3b4b5b6b8b9c60b1b2b3b4b6b7b8b9c70b1b2b3b4
b5aBc6b8b9c80b1b2b3b4b5b6b7b8b9c90b1b2b4b5b6b7b8b9d100b1b2b3b4b5b7b8b9c10b2b4d301b2
vRILLIC CAPITAL LETTER Aa WITH BREVEfDIAERESISpBKHASIAN CHEa WITH DESCENDERsDZEdHAlLEUT KAiBARRED O
a WITH DIAERESISvSHKIR KAjEbIG YUSfNOCULAR OkLENDED YUSkROAD OMEGAkYELORUSSIAN-UKRAINIAN IyCCHEdHE
a WITH DESCENDERiIAERESISjVERTICAL STROKExLOSED LITTLE YUSqROSSED OjDCHEdEbJEaRVeOUBLE MONOCULAR O
lOhWEcZEaLOdHEcWEcZEbHEfEa WITH DIAERESISpFbLa WITH DESCENDERjHOOKeMIDDLE HOOKlTAILlMa WITH TAILlN
a WITH DESCENDERjHOOKeLEFT HOOKjMIDDLE HOOKlTAILlRa WITH TICKlSa WITH DESCENDERrFITAeGHE
a WITH DESCENDERjMIDDLE HOOKlSTROKEa AND HOOKpUPTURNoJEdHAa WITH DESCENDERjHOOKeSTROKEmRD SIGNiWEdI
a WITH DIAERESISjGRAVEfMACRONmEa WITH BREVEfGRAVEmOaTAbIFIED AbBIG YUShCLOSED LITTLE YUSrE
bLITTLE YUSkYATlZHITSAa WITH DOUBLE GRAVE ACCENTzhJEcKAa WITH DESCENDERjHOOKeSTROKEgVERTICAL STROKE
wHAKASSIAN CHEnJEcOMI DEbJEcZJEeLJEdNJEdSJEdTJEdZJEgPPAeSIdLHAcITTLE YUSjJEdMONOCULAR OhGRAPH UK
mNEUTRAL YERkJEdOa WITH DIAERESISpMEGAa WITH TITLOpTcPEa WITH DESCENDERjMIDDLE HOOKsSIdQA
cREVERSED DZEdTSEdYUcZEkHAcOUND OMEGAlSCHWAa WITH DIAERESIStEMISOFT SIGNmHAbCHAdHAa WITH DESCENDER
rORT Ia WITH TAILlUfWEdOFT DEcELbMcSIGNiTRAIGHT Ua WITH STROKEwTCHEdEa WITH DESCENDERjMIDDLE HOOK
sSEbHEcSEcWEdWEdUa WITH DIAERESISiOUBLE ACUTEmMACRONmKaRAINIAN IEmVEcWEcYAaEbTcERUa WITH BACK YER
iDIAERESISsIbNbUcZEa WITH DESCENDERiIAERESISpMLYAfHEa WITH BREVEfDESCENDERiIAERESISqWEkIGATURE A IE
eEN GHEgTE TSExKAVYKAgLETTER MULTIOCULAR OnPALOCHKAiSMALL CAPITAL ELxPAYEROKhSMALL LETTER A
a WITH BREVEfDIAERESISpBKHASIAN CHEa WITH DESCENDERsDZEdHAlLEUT KAiBARRED Oa WITH DIAERESIS
vSHKIR KAjEbIG YUSfNOCULAR OkLENDED YUSkROAD OMEGAkYELORUSSIAN-UKRAINIAN IyCCHEdHEa WITH DESCENDER
iIAERESISjVERTICAL STROKExLOSED LITTLE YUSqROSSED OjDCHEdEbJEaRVeOUBLE MONOCULAR OlOhWEcZEaLOdHEcWE
cZEbHEfEa WITH DIAERESISpFbLa WITH DESCENDERjHOOKeMIDDLE HOOKlTAILlMa WITH TAILlNa WITH DESCENDER
jHOOKeLEFT HOOKjMIDDLE HOOKlTAILlRa WITH TICKlSa WITH DESCENDERrFITAeGHEa WITH DESCENDER
jMIDDLE HOOKlSTROKEa AND HOOKpUPTURNoJEdHAa WITH DESCENDERjHOOKeSTROKEmRD SIGNiWEdIa WITH DIAERESIS
jGRAVEfMACRONmEa WITH BREVEfGRAVEmOaTAbIFIED AbBIG YUShCLOSED LITTLE YUSrEbLITTLE YUSkYATlZHITSA
a WITH DOUBLE GRAVE ACCENTzhJEcKAa WITH DESCENDERjHOOKeSTROKEgVERTICAL STROKEwHAKASSIAN CHEnJE
cOMI DEbJEcZJEeLJEdNJEdSJEdTJEdZJEgPPAeSIdLHAcITTLE YUSjJEcONG-LEGGED DEoMONOCULAR OhGRAPH UK
mNARROW OhEUTRAL YERkJEdOa WITH DIAERESISpMEGAa WITH TITLOpTcPALOCHKAhEa WITH DESCENDERjMIDDLE HOOK
sSIdQAcREVERSED DZEdTSEdYUcZEkHAcOUND OMEGAgED VEkSCHWAa WITH DIAERESIStEMISOFT SIGNmHAbCHAdHA
a WITH DESCENDERrORT Ia WITH TAILlUfWEdOFT DEcELbMcSIGNiTRAIGHT Ua WITH STROKEwTALL HARD SIGNjTE
cYAThCHEdEa WITH DESCENDERjMIDDLE HOOKsHREE-LEGGED TEoSEbHEcSEcWEdWEdUa WITH DIAERESISiOUBLE ACUTE
mMACRONmKaRAINIAN IElNBLENDED UKmVEcWEbIDE EShYAaEbTcERUa WITH BACK YERiDIAERESISsIbNbUcZE
a WITH DESCENDERiIAERESISpMLYAfHEa WITH BREVEfDESCENDERiIAERESISqWEkIGATURE A IEeEN GHEgTE TSE
vTHOUSANDS SIGNxDAGGERa KNIFEfWITH LEFT GUARDkRIGHT GUARDvLET SYMBOLkNCERdGOdRK SHADEeUNGLASSES
nSH SYMBOLgWITH LEFT UPTURNrED LOW LINEiOVERLINEiTRIANGLE-HEADED RIGHTWARDS ARROWzmTA LINK ESCAPE
pC1b2b3b4bScEAF PERSONjCIDUOUS TREEkMAL EXPONENT SYMBOLpSEPARATOR KEY SYMBOLzREASE FONT SIZE SYMBOL
xERcGREE CELSIUShFAHRENHEITkSIGNjLaETEdIVERY TRUCKlTA EQUAL TO
mNTISTRY SYMBOL LIGHT DOWN AND HORIZONTALa WITH CIRCLEgTRIANGLEiWAVEzeUP AND HORIZONTAL
a WITH CIRCLEgTRIANGLEiWAVEzcVERTICAL AND BOTTOM LEFTeRIGHTmTOP LEFTeRIGHTjWAVEiWITH CIRCLE
gTRIANGLEzsPARTMENT STOREoRELICT HOUSE BUILDINGvSCENDING NODEmERET CAPITAL LETTER AYcBEEdCHEEeDEE
dEFbLbMbNaGcRbSaHcTHcWcGAYdHbJEEdKAYdLONG AaHcEbIbOaOhOIbWcPEEdSHORT AaHcEbIbOaOiTEEcHEEeVEEdWUcYEE
dZEEcHEEtSMALL LETTER AYcBEEdCHEEeDEEdEFbLbMbNaGcRbSaHcTHcWcGAYdHbJEEdKAYdLONG AaHcEbIbOaOhOIbWcPEE
dSHORT AaHcEbIbOaOiTEEcHEEeVEEdWUcYEEdZEEcHEEuTa ISLANDkKTOP COMPUTERiWINDOW
mVANAGARI ABBREVIATION SIGNqCUTE ACCENTmCARETfDANDAeIGIT EIGHTfFIVEdOUReNINEeONEdSEVENeIXdTHREEeWO
dZEROjOUBLE DANDAmGAP FILLERjRAVE ACCENTmHEADSTROKEkJAIN OMhLETTER AaAbIbUbWbYcBAbBAcHAdCAaNDRA AbE
bOhHAdDAbDAbDAbHAdHAdHAdEbFAcGAbGAcHAbHAdLOTTAL STOPmHAbEAVY YAiIaIcJAbHAcJAdKAbHAbHAeLAbLAbLAeMA
aRWARI DDAlNAbGAcNAbNAdYAdOaEbOEdPAbHAdQAcRAbHAcRAdSAbHAbORT AbEbOgSAdTAbHAcTAbHAeUaEbUaEdVA
bOCALIC LaLcRaRkYAbYAdZAbHAkOMcSIGN ANUSVARAhVAGRAHAiCANDRABINDUa AVAGRAHAiTHREEeWOdVIRAMA
sDOUBLE CANDRABINDU VIRAMAzHIGH SPACING DOTqINVERTED CANDRABINDUuNUKTAfPUSHPIKAiSIDDHAM
gPACING CANDRABINDUtVIRAMAeSARGAlTRESS SIGN ANUDATTAiUDATTAsVOWEL SIGN AAbIbUbWbYcCANDRA EbLONG EgO
iEbIaIcOaEbOEdPRISHTHAMATRA EpSHORT EbOhUaEbUaEdVOCALIC LaLcRaRzeICE CONTROL FOUReONEdSTRINGgTHREE
eWOrIAERESISgMETER SIGNjOND OPERATORiSHAPE WITH A DOT INSIDExTARGETgWITH BOTTOM HALF BLACK
rLEFT HALF BLACKpRIGHT HALF BLACKqTOP HALF BLACKzE FACE-1b2b3b4b5b6hSEL LOCOMOTIVEpFFERENCE BETWEEN
qGIT EIGHTa COMMAfFULL STOPpFIVEa COMMAfFULL STOPnOURa COMMAfFULL STOPoNINEa COMMAfFULL STOPoONE
a COMMAfFULL STOPnSEVENa COMMAfFULL STOPoIXa COMMAfFULL STOPnTHREEa COMMAfFULL STOPoWOa COMMA
fFULL STOPnZEROa COMMAfFULL STOPrRAM FOR EARTHaLY HEAVENfUMANnGREATER YANGdINlHEAVENLY EARTH
nUMAN EARTHlLESSER YANGdINtMENSION ORIGINoNGBAT CIRCLED SANS-SERIF DIGIT EIGHTfFIVEdOUReNINEeONE
dSEVENeIXdTHREEeWOdZEROkNUMBER TENzeNEGATIVE CIRCLED DIGIT EIGHTfFIVEdOUReNINEeONEdSEVENeIXdTHREE
eWOjNUMBER TENkSANS-SERIF DIGIT EIGHTfFIVEdOUReNINEeONEdSEVENeIXdTHREEeWOdZEROkNUMBER TEN
ztRECT CURRENT SYMBOL FORM TWOxHITiSABLED CARiPPOINTED BUT RELIEVED FACErFACE
oCONTINUOUS UNDERLINE SYMBOLzcGUISED FACEmTTO MARKiVES AKURU DIGIT EIGHTfFIVEdOUReNINEeONEdSEVENeIX
dTHREEeWOdZEROjOUBLE DANDAmEND OF TEXT MARKqGAP FILLERkINITIAL RAkLETTER AaAcBAbHAdCAbHAdDAbDAbHA
dHAdEbGAbHAdHAcIaIcJAcKAbHAdLAbLAdMAcNAbGAcNAcYAdObPAbHAdRAcSAbHAcSAdTAbHAcTAdUaUcVAcYAbYAdZA
jMEDIAL RAcYAjPREFIXED NASAL SIGNtSIGN ANUSVARAiCANDRABINDUlHALANTAhNUKTAkVIRAMAfOWEL SIGN AAbIcEbI
aIcObUaUwIDESdNG MASKhSION SIGNdLASHfTIMESlORCE SYMBOLmYA LAMPhZZY FACEeSYMBOLlLEcNA DOUBLE HELIX
pO NOT LITTER SYMBOLsCUMENTa WITH PICTUREhTEXTa AND PICTUREzdDOcES NOT CONTAIN AS MEMBER
gNORMAL SUBGROUPa OR EQUALzkDIVIDEa WITH REVERSED NEGATION SLASHzkFORCEfPRECEDEa OR EQUALoOVE
fSUCCEEDa OR EQUALxGa FACEfRA ABBREVIATION SIGNrLETTER AaAbIbUcBAbHAdCAbHAdDAbDAbHAdHAdEbGAbHAdHAcI
aIcJAbHAdKAbHAdLAcMAcNAbGAcNAcYAdObPAbHAdRAbRAdSAbHAcSAdTAbHAcTAbHAeUaUcVAcYAjSIGN ANUSVARAiNUKTA
fVIRAMAeSARGAmVOWEL SIGN AAbIbUcEbIaIcObUaUcVOCALIC RaRzLLAR SIGNiPHINfMINO TILE HORIZONTAL BACK
f-00-00b1b2b3b4b5b6e1-00b1b2b3b4b5b6e2-00b1b2b3b4b5b6e3-00b1b2b3b4b5b6e4-00b1b2b3b4b5b6e5-00b1b2b3
b4b5b6e6-00b1b2b3b4b5b6qVERTICAL BACKf-00-00b1b2b3b4b5b6e1-00b1b2b3b4b5b6e2-00b1b2b3b4b5b6e3-00b1b2
b3b4b5b6e4-00b1b2b3b4b5b6e5-00b1b2b3b4b5b6e6-00b1b2b3b4b5b6yNG SIGNhORcT ABOVEfMINUSfOPERATORiPLUS
fTED CIRCLEfROSSfFENCEfLINE FACEjOBELOSgRIGHT-POINTING ANGLEuSOLIDUSgQUAREgTRANSPOSITION MARKER
zUBLE ACUTE ACCENTmCIRCLED DIGIT EIGHTfFIVEdOUReNINEeONEdSEVENeIXdTHREEeWOjNUMBER TENrOLON EQUAL
kURLY LOOPkDAGGERfOWN TACKjEXCLAMATION MARKqHIGH-REVERSED-9 QUOTATION MARKzeYPHENgINTEGRALeRSECTION
mLEFT ARC GREATER-THAN BRACKETzdOGICAL ANDdORiW LINEf-9 QUOTATION MARKqREVERSED-9 QUOTATION MARK
zeNESTED GREATER-THANmLESS-THANa WITH UNDERBARzfOBLIQUE HYPHENoPLUSdRECEDESgIMEa QUOTATION MARK
uQUESTION MARKnRIGHT ARC LESS-THAN BRACKETzcSOLIDUS OPERATORpQUARE INTERSECTIONmUNIONlTACKED COMMA
lROKE NOT SIGNoUBSETeCCEEDSgPERSETgSPENSION MARKpUNIONeP TACKhVERTICAL BARa DOUBLE LEFT TURNSTILE
oRIGHT TURNSTILEwLEFT TURNSTILEsLINEnWAVY OVERLINEo-ENDED MULTIMAPoLINE EQUAL TO OR GREATER-THAN
mLESS-THANvSLANTED EQUAL TO OR GREATER-THANmLESS-THANvGREATER-THAN OR EQUAL TO
yLESS-THAN OR EQUAL TOzjSTRUCK CAPITAL CbGAMMAfHbNbPaIcQbRbZjITALIC CAPITAL DjSMALL DbEbIbJ
oN-ARY SUMMATIONpSMALL GAMMAfPIqD FEMALE SIGNlMALE SIGNjSYMBOLlGHNUTgVE OF PEACElWN ARROWHEAD
jFISH TAILjRIGHT DIAGONAL ELLIPSISxTACKa WITH CIRCLE BELOWx-POINTING RED TRIANGLE
mSMALL RED TRIANGLEsTRIANGLE WITH LEFT HALF BLACKpRIGHT HALF BLACKzpWARD FACING HOOKa WITH DOT
nNOTCHED HOOKa WITH DOTzeS ANCORAfRROWa AND RIGHT ONE EIGHTH BLOCKzbFROM BAR
iLEFTWARDS OF UPWARDS ARROWzbTO BARgWITH CORNER LEFTWARDSqDOUBLE STROKEnEQUILATERAL ARROWHEAD
vHORIZONTAL STROKErLARGE TRIANGLE ARROWHEADyMEDIUM TRIANGLE ARROWHEADzNOTCHED TAIL
mSMALL EQUILATERAL ARROWHEADvTRIANGLE ARROWHEADyTIP LEFTWARDSjRIGHTWARDSzBLACK ARROW
fCIRCLED WHITE ARROWzCOMPRESSED ARROWqDASHED ARROWlOUBLE ARROWmFINGER-POST ARROW
rHARPOON WITH BARB LEFT BESIDE DOWNWARDS HARPOON WITH BARB RIGHTziUPWARDS HARPOON WITH BARB RIGHT
znFROM BARiTO BARhWARDSjRIGHT FROM BARiTO BARhWARDSzcEAVY ARROWfCOMPRESSED ARROWwPAIRED ARROWS
nQUADRUPLE ARROWpROCKETgSANS-SERIF ARROWpQUARED ARROWnTRIANGLE ARROWHEADk-HEADED ARROW
a LEFTWARDS OF UPWARDS TRIANGLE-HEADED ARROWzrTO BARgWITH BOLD SHAFTkDOUBLE HORIZONTAL STROKE
yHEAVY SHAFTlLONG TIP LEFTWARDSjRIGHTWARDStMEDIUM SHAFTmNARROW SHAFTmVERY HEAVY SHAFTzcDASHED ARROW
mPAIRED ARROWSnZIGZAG ARROWzPLE ARROWlWO HEADED ARROWn-HEADED ARROW WITH TRIANGLE ARROWHEADS
zqWHITE ARROWa WITHIN TRIANGLE ARROWHEADzmZIGZAG ARROWvRACHMA SIGNjFTING POINT RIGHTWARDS ARROW
zdGONa FACEjESSdIVE SLOW SIGNnOMEDARY CAMELmOLING FACEkP OF BLOODjLETfUM WITH DRUMSTICKStUCKcMPLING
gPLOYAN AFFIX ATTACHED E HOOKgI HOOKgLEFT-TO-RIGHT SECANTuSECANTgTAILcNGENTa HOOKvHIGH ACUTEfCIRCLE
gDOTdGRAVEfLINEdONG GRAVEkTIGHT ACUTElVERTICALa SECANTpWAVEjLEFT HORIZONTAL SECANTvOW ACUTEeRROW
fCIRCLEgDOTdGRAVEfLINEdONG GRAVEkTIGHT ACUTElVERTICALa SECANTpWAVEiMID HORIZONTAL SECANT
rVERTICAL SECANTtRIGHT HORIZONTAL SECANTzeDOUBLE MARKlLETTER AaOUdBbDa ScHcEaEbUcFa NdGa R SfHaLcI
aEcJa Ma SdNa SdSa WITH DOTkWITH DOTaS INSIDE AND ABOVEzdKa MbR SeKcLaHbONG IbUgMa Na SdSbWITH DOT
kNa Ma SdSbWITH DOTjASAL AbIbObUhOaAbOHcUbWcPa NcERNIN AMbNjRa ScHbOMANIAN IbUkSa Ja SdKa RdMbNbP
a RdSbTa RdWITH DOTa BELOWpHORT IgLOAN ANcDHcEEbHbNcJbONbWcUhTa R SdScHcUa NcHbIcVaOCALIC MjWa RcA
bEIcHbIbOaWdXaWcYEjPUNCTUATION CHINOOK FULL STOPzeSIGN O WITH CROSSrTHICK LETTER SELECTORzeVD
dE-MAIL SYMBOLmAGLEdRa OF MAIZEfRICEhWITH HEARING AIDrTHa GLOBE AMERICAShSIA-AUSTRALIA
oEUROPE-AFRICAsROUNDkST SYRIAC CROSSqDITORIAL CORONISqGGbYPTIAN HIEROGLYPH A001b2b3b4b5aAc6aAbBc7b8
b9c10b1b2b3b4aAc5b6b7aAc8b9c20b1b2b3b4b5b6b7b8b9c30b1b2aAc3b4b5b6b7b8b9c40aAc1b2aAc3aAc4b5aAc6b7b8
b9c50b1b2b3b4b5b6b7b8b9c60b1b2b3b4b5b6b7b8b9c70dA001b2b3b4b5b6b7aAbBc8b9c10b1b2b3b4b5b6b7b8b9c20b1
b2b3b4b5b6b7b8b9c30b1b2fB001b2b3b4b5aAc6b7b8b9dEGIN SEGMENTnC001b2aAbBbCc3b4b5b6b7b8b9c10aAc1b2b3b4
b5b6b7b8b9c20b1b2b3b4eD001b2b3b4b5b6b7b8aAc9c10b1b2b3b4b5b6b7b8b9c20b1b2b3b4b5b6b7aAc8b9c30b1aAc2b3
b4aAc5b6b7b8b9c40b1b2b3b4b5b6aAc7b8aAc9c50aAbBbCbDbEbFbGbHbIc1b2aAc3b4aAc5b6b7b8b9c60b1b2b3b4b5b6b7
aAbBbCbDbEbFbGbHfE001b2b3b4b5b6b7b8aAc9aAd10b1b2b3b4b5b6aAc7aAc8b9c20aAc1b2b3b4b5b6b7b8aAc9c30b1b2
b3b4aAc6b7b8dND SEGMENTlF001aAc2b3b4b5b6b7b8b9c10b1b2b3aAc4b5b6b7b8b9c20b1aAc2b3b4b5b6b7b8b9c30b1aA
c2b3b4b5b6b7aAc8aAc9c40b1b2b3b4b5aAc6aAc7aAc8b9c50b1aAbBbCc2b3eG001b2b3b4b5b6aAc7aAbBc8b9c10b1aAc2
b3b4b5b6b7b8b9c20aAc1b2b3b4b5b6aAc7b8b9c30b1b2b3b4b5b6aAc7aAc8b9c40b1b2b3aAc4b5aAc6b7b8b9c50b1b2b3
b4eH001b2b3b4b5b6aAc7b8dORIZONTAL JOINERrI001b2b3b4b5aAc6b7b8b9aAd10aAc1aAc2b3b4b5
dNSERT AT BOTTOM ENDdSTARTmTOP ENDdSTARTtK001b2b3b4b5b6b7b8eL001b2aAc3b4b5b6aAc7b8eM001aAbBc2b3aAc4
b5b6b7b8b9c10aAc1b2aAbBbCbDbEbFbGbHc3b4b5aAc6aAc7aAc8b9c20b1b2aAc3b4aAc5b6b7b8aAc9c30b1aAc2b3aAbBc4
b5b6b7b8b9c40aAc1b2b3b4eN001b2b3b4b5b6b7b8b9c10b1b2b3b4b5b6b7b8aAbBc9c20b1b2b3b4b5aAc6b7b8b9c30b1b2
b3aAc4aAc5aAc6b7aAc8b9c40b1b2dL001b2b3b4b5aAc6b7b8b9c10b1b2b3b4b5b6b7aAc8b9c20eU001b2b3b4b5b6b7b8b9
c10aAc1aAc2b3b4b5b6b7b8aAc9c20b1b2aAgO001aAc2b3b4b5aAc6aAbBbCbDbEbFc7b8b9c10aAbBbCc1b2b3b4b5b6b7b8
b9aAd20aAc1b2b3b4aAc5aAc6b7b8b9aAd30aAc1b2b3aAc4b5b6aAbBbCbDc7b8b9c40b1b2b3b4b5b6b7b8b9c50aAbBc1
dVERLAY MIDDLEoP001aAc2b3aAc4b5b6b7b8b9c10b1eQ001b2b3b4b5b6b7eR001b2aAc3aAbBc4b5b6b7b8b9c10aAc1b2b3
b4b5b6aAc7b8b9c20b1b2b3b4b5b6b7b8b9eS001b2aAc3b4b5b6aAc7b8b9c10b1b2b3b4aAbBc5b6b7aAc8b9c20b1b2b3b4
b5b6aAbBc7b8b9c30b1b2b3b4b5aAc6b7b8b9c40b1b2b3b4b5b6eT001b2b3aAc4b5b6b7aAc8aAc9aAd10b1aAc2b3b4b5b6
aAc7b8b9c20b1b2b3b4b5b6b7b8b9c30b1b2aAc3aAc4b5b6eU001b2b3b4b5b6aAbBc7b8b9c10b1b2b3b4b5b6b7b8b9c20b1
b2b3aAc4b5b6b7b8b9aAd30b1b2aAc3b4b5b6b7b8b9c40b1b2eV001aAbBbCbDbEbFbGbHbIc2aAc3b4b5b6b7aAbBc8b9c10
b1aAbBbCc2aAbBc3b4b5b6b7b8b9c20aAbBbCbDbEbFbGbHbIbJbKbLc1b2b3aAc4b5b6b7b8aAc9aAd30aAc1aAc2b3aAc4b5
b6b7aAc8b9c40aAeERTICAL JOINERpW001b2b3aAc4b5b6b7b8b9aAd10aAc1b2b3b4aAc5b6b7aAc8aAc9c20b1b2b3b4aAc5
eX001b2b3b4aAbBc5b6aAc7b8aAfY001aAc2b3b4b5b6b7b8eZ001b2aAbBbCbDc3aAbBc4aAc5aAc6b7b8b9c10b1b2b3b4b5
aAbBbCbDbEbFbGbHbIc6aAbBbCbDbEbFbGbHyIGHT PETALLED OUTLINED BLACK FLORETTEzgOINTED BLACK STAR
kPINWHEEL STARnRECTILINEAR BLACK STARzfSPOKED ASTERISKpTEARDROP-SPOKED PROPELLER ASTERISKzkH NOTE
kJECT SYMBOLlLBASAN LETTER AbBEcCEbHEdDEbHEdEaIcFEcGEbHAMMAeEcJEdHEcIbJEcKEbHEdLEbLEdMEcNAbDEcEbJE
dObPEcQEcREbREdSEbHEdTEbHEdUbVEcXEcYbZEbHEqECTRIC ARROWfLIGHT BULBkPLUGeTORCHgAL INTERSECTION
uMENT OFa OPENING DOWNWARDSjUPWARDSpWITH DOT ABOVEjLONG HORIZONTAL STROKEwOVERBAR
hTWO HORIZONTAL STROKESwUNDERBARiVERTICAL BAR AT END OF HORIZONTAL STROKEzzdPHANTfVATORgF
bYMAIC LETTER ALEPHeYINeBETHeDALETHgGIMELfHEaTHeKAPHeLAMEDHgMEMdNUNdPEcQOPHeRESHeSADHEdMEKHfHINeTAW
cETHeWAWdYODHeZAYINlIGATURE ZAYIN-YODHzbM DASHeQUADeSPACEgOJI COMPONENT BALDeCURLY HAIRkRED HAIR
iWHITE HAIRuMODIFIER FITZPATRICK TYPE-1-2d3b4b5b6zgPHASIS SYMBOLmTY DOCUMENTiNESTdOTEa PADbGEjPAGE
aSfSETa WITH LEFT ARROW ABOVEqOVERBARhRIGHT ARROW ABOVErSMALL CIRCLE ABOVEzhN DASHeQUADeSPACE
gD OF GUARDED AREAmLINEeMEDIUMgPROOFcTECTED AREAoSELECTED AREAnTEXTdRANSMISSIONa BLOCK
vWITH LEFTWARDS ARROW ABOVEzdQaUIRYfTER SYMBOLkVELOPEa WITH DOWNWARDS ARROW ABOVEvLIGHTNINGwOLbMbT
cPAcQUAL AND PARALLEL TOpTO BY DEFINITIONnOR GREATER-THANmLESS-THANjPRECEDESiSUCCEEDSpS COLONfSIGN
a ABOVE LEFTWARDS ARROWpPLUS SIGNjRIGHTWARDS ARROWqTILDE OPERATORtND SLANTED PARALLEL
a WITH TILDE ABOVEzmWITH BUMPY ABOVElDOT BELOWjINFINITY BELOWoTWO DOTS ABOVE AND TWO DOTS BELOW
zsWITH ASTERISKrIANGULAR TOkVALENT TOcWITH FOUR DOTS ABOVEzfRASE TO THE LEFTeRIGHTqIS FORM ONEdTWO
lROR-BARRED BLACK CIRCLEgDIAMONDhSQUAREmWHITE CIRCLEgDIAMONDhSQUAREySAbCaAPEeTIMATED SYMBOLiSiTB
bHIOPIC COLONdMBINING GEMINATION AND VOWEL LENGTH MARKvMARKpVOWEL LENGTH MARKyMAfDIGIT EIGHTfFIVE
dOUReNINEeONEdSEVENeIXdTHREEeWOjFULL STOPjNUMBER EIGHTYgFIFTYeORTYfHUNDREDhNINETYgSEVENTYgIXTYfTEN
a THOUSANDlHIRTYfWENTYnPARAGRAPH SEPARATORsREFACE COLONnQUESTION MARKnSECTION MARKkMICOLON
iYLLABLE BAaAcBAaAcEaEcIbObUcEaEcIbOaAcUbWAbEaEcIdCAaAcCAaAcEaEcHAaAcEaEcHAaAcEaEcIbObUcIbObUcIbObU
cEaEcHAaAcEaEcIbOaAcUbWAdIbOaAcUbWAdDAaAcDAaAcEaEcHAAcEaEcIbObUcIbOaAcUbWAdEaEcIbOaAcUbWAcZAAcEaEcI
bObUdFAaAcEaEcIbObUbWAbEaEcIcYAdGAaAcEaEcGAaAcEaEcIbObUbWAaAcEaEcIdIbLOTTAL AaAcEaEcIbOaAcUbWAjOaA
cUaRAGE BWEEcIdFWEEcIdGWEaEcIdHHWAeKWEaEcIdMWEEcIdPWEEcIdQWEaEcIjWAaAcEaEcIcYAaAcEaEcIbObUdHAaAcEaE
cHAaAcEaEcIbObUbWAbEaEcIcYAaAcEaEcIbObUdIbOaAcUcJAaAcEaEcIbOaAcUbWAdKAaAcEaEcIbOaAcUbWAaAcEaEcIcXA
aAcEaEcIbObUbWAaAcEaEcIdYAaAcEaEcIbObUdLAaAcEaEcIbOaAcUbWAdMAaAcEaEcIbOaAcUbWAbEaEcIcYAdNAaAcEaEcI
bOaAcUbWAcYAaAcEaEcIbOaAcUbWAePAaAcEaEcHAaAbRYNGEAL AaAcEaEcIbObUkEaEcIbOaAcUbWAdIbOaAcUbWAbEaEcI
dQAaAcEaEcHAaAcEaEcIbObUbWAaAcEaEcIdIbOaAcUbWAaAcEaEcIcYAaAcEaEcIbObUdRAaAcEaEcIbOaAcUbWAcYAdSAaAcE
aBATBEIT BWAdFWAdMWAdPWAlEcHAaAcEaEcIbOaAcUbWAdIbOaAcSAaAcEaEcIbObUcUbWAcZAaAcEaEcIbObUbWAeTAaAcEaE
cHAaAcEaEcIbOaAcUbWAdIbOaAcSAaAcEaEcIbObUbWAdTHAAcEaEcIbObUdUbWAcZAaAcEaEcIbOaAcUdVAaAcEaEcIbObUbWA
dWAaAcEaEcIbOaAcUcXAaAcEaEcIbOaAcUbWAaAcEaEcIcYAaAcEaEcIbObUdYAaAcEaEcIbOaAcUcZAaAcEaEcHAaAcEaEcIbO
bUbWAdIbOaAcUbWAcZAaAcEaEcIbObUmTONAL MARK CHIRETgDERETa-HIDETkIFATfHIDETfKENATeURTeRIKRIK
gSHORT RIKRIKmYIZETqWORDSPACEqXcULER CONSTANTmRO SIGNf-CURRENCY SIGNoPEAN CASTLEgPOST OFFICE
tVERGREEN TREEnXCESSdLAMATION MARKeQUESTION MARKxPRESSIONLESS FACErTENDED ARABIC-INDIC DIGIT EIGHT
fFIVEdOUReNINEeONEdSEVENeIXdTHREEeWOdZEROzeRATERRESTRIAL ALIENsEMELY HEAVY FIVE SPOKED ASTERISK
uGREEK CROSSlSALTIREgIX SPOKED ASTERISKtWHITE CIRCLEgSQUAREzcYEaGLASSEShSeFACE HOLDING BACK TEARS
sMASSAGEhPALMeSAVOURING DELICIOUS FOODxCREAMING IN FEARrTHROWING A KISSpWITH COLD SWEATiWBOY HAT
kDIAGONAL MOUTHoFINGER COVERING CLOSED LIPSzcHEAD-BANDAGEmLOOK OF TRIUMPHpMEDICAL MASKlONOCLE
hNO GOOD GESTUREpOK GESTUREjNE EYEBROW RAISEDrPEN EYES AND HAND OVER MOUTHyMOUTHa AND COLD SWEAT
oVOMITINGtPARTY HORN AND PARTY HATxEEKING EYEkLEADING EYESnROLLING EYESmSTUCK-OUT TONGUE
a AND TIGHTLY-CLOSED EYEStWINKING EYEzhTEARS OF JOYlHERMOMETERlUNEVEN EYES AND WAVY MOUTH
zcOUT MOUTHpSIMILE SIGNlTORYfIRYdLAFELeLEN LEAFhING DIAGONAL CROSSING NORTH EAST ARROW
qRISING DIAGONALyIN WHITE CIRCLE IN BLACK SQUAREzvMILYeRSI SYMBOLkTHER CHRISTMASoX ICONeMACHINE
kEARFUL FACEjTHERfMALE SIGNiININE ORDINAL INDICATORyNCEReRRIS WHEELiYeFbIELD HOCKEY STICK AND BALL
zGURE DASHeSPACEkLE CABINEThFOLDERgSEPARATORlM FRAMESgPROJECTORmNITE PART INTEGRALsREa ENGINE
fXTINGUISHERnCRACKERhWORK SPARKLERjSgST PLACE MEDALlQUARTER MOONa SYMBOLgWITH FACEwSTRONG ISOLATE
sSHa CAKE WITH SWIRL DESIGNxEYEdING POLE AND FISHsTED HAND SIGNoVE DOT MARKePUNCTUATIONtLAG IN HOLE
jMINGOfT SHOEfBREADfNESSgEUR-DE-LISjXED BICEPSlOPPY DISKiRAL HEARTjWERa PLAYING CARDS
mUNCTUATION MARKvUSHED FACEkYaING DISCeENVELOPEiSAUCERmOGaGYdLDEReNDUEeOTaPRINTSiR ALLeCES
dK AND KNIFEa WITH PLATEvED PARAGRAPHOSoINGeM FEEDgTUNE COOKIEmUNTAINfR BALLOON-SPOKED ASTERISK
xCLUB-SPOKED ASTERISKtORNER ARROWS CIRCLING ANTICLOCKWISEzlDOT MARKePUNCTUATIONpLEAF CLOVER
lPOINTED BLACK STARsTEARDROP-SPOKED ASTERISKz-PER-EM SPACEnTH ROOTjX FACEhRACTION NUMERATOR ONE
nSLASHlME WITH AN XePICTUREhTILESoEEZING FACEkNCH FRANC SIGNiIESkIED SHRIMPkOG FACE
gNT-FACING BABY CHICKrTILTED SHADOWED WHITE RIGHTWARDS ARROWzqWNaING FACE WITH OPEN MOUTHzdSaI
cUEL PUMPhLL BLOCKfMOON SYMBOLgWITH FACEoOUTER JOINkSTOPfWIDTH AMPERSANDiPOSTROPHEjSTERISK
iBROKEN BARkCENT SIGNiIRCUMFLEX ACCENTqOLONdMMAbERCIAL ATnDIGIT EIGHTfFIVEdOUReNINEeONEdSEVENeIX
dTHREEeWOdZEROjOLLAR SIGNlEQUALS SIGNkXCLAMATION MARKqFULL STOPjGRAVE ACCENTkEATER-THAN SIGN
rHYPHEN-MINUSmLATIN CAPITAL LETTER AbBbCbDbEbFbGbHbIbJbKbLbMbNbObPbQbRbSbTbUbVbWbXbYbZ
qSMALL LETTER AbBbCbDbEbFbGbHbIbJbKbLbMbNbObPbQbRbSbTbUbVbWbXbYbZtEFT CURLY BRACKETnPARENTHESIS
lSQUARE BRACKEToWHITE PARENTHESISuSS-THAN SIGNnOW LINEiMACRONgNOT SIGNhUMBER SIGNlPERCENT SIGN
lLUS SIGNiOUND SIGNkQUESTION MARKlOTATION MARKoREVERSE SOLIDUSoIGHT CURLY BRACKETnPARENTHESIS
lSQUARE BRACKEToWHITE PARENTHESISxSEMICOLONiOLIDUShTILDEfVERTICAL LINEnWON SIGNiYEN SIGN
qNCTION APPLICATIONrERAL URNjSEdVS1b2b3b4eGAME DIEgRLICfEARa WITH HANDLESiOUT HUBoM STONEgINIeNIE
dOMETRIC PROPORTIONlALLY EQUAL TOfIVALENT TOyRGIAN CAPITAL LETTER AENcNcBANdCANcHARcINdILdDONdEN
cGANcHANeHAEbRcEbIEcOEdINcJHANdILdKANcHAReLASdMANdNARdONcPARcHAReQARdRAEdSANcHINeTANbRdUNcVINdWE
cXANdYNcZENcHARtLETTER AENcINcNcBANdCANcHARcINdILdDONdELIFIeNcFIcGANcHANeHAEbRaD SIGNiEbIEcOEdIN
cJHANdILdKANcHAReLABIAL SIGNjSdMANdNARdONcPARcHAReQARdRAEdSANcHINeTANbRcURNED GANkUNcVINdWEcXANdYN
cZENcHARlMTAVRULI CAPITAL LETTER AENcINcNcBANdCANcHARcINdILdDONdELIFIeNcFIcGANcHANeHAEbRaD SIGNiE
bIEcOEdINcJHANdILdKANcHAReLABIAL SIGNjSdMANdNARdONcPARcHAReQARdRAEdSANcHINeTANbRcURNED GANkUNcVIN
dWEcXANdYNcZENcHARzdPARAGRAPH SEPARATORtSMALL LETTER AENcNcBANdCANcHARcINdILdDONdENcGANcHANeHAEbRcE
bIEcOEdINcJHANdILdKANcHAReLASdMANdNARdONcPARcHAReQARdRAEdSANcHINeTANbRdUNcVINdWEcXANdYNcZENcHAR
yRMAN PENNY SIGNpTA MARKiHOSTeIMEL SYMBOLkRAFFE FACEjLaS SYMBOLlLAGOLITIC CAPITAL LETTER AZU
dBIG YUSgUKYeCAUDATE CHRIVInHRIVIgDJERVIfOBROeZELOfFITAdRITUfGLAGOLIhHERUeIaNITIAL IZHE
lOTATED BIG YUShSMALL YUSqZHEbITSAhKAKOeLATINATE MYSLITEpJUDIJEhMYSLITEhNASHIfONUcTUdPEbOKOJIgRITSI
fSHAbTAaPICgLOVOeMALL YUSa WITH TAILsPIDERY HAkTROKUTASTI AlSIcVRIDOgUKUdVEDEeYATIdERIbUcSTUeObU
cZEMLJAfHIVETEwSMALL LETTER AZUdBIG YUSgUKYeCAUDATE CHRIVInHRIVIgDJERVIfOBROeZELOfFITAdRITUfGLAGOLI
hHERUeIaNITIAL IZHElOTATED BIG YUShSMALL YUSqZHEbITSAhKAKOeLATINATE MYSLITEpJUDIJEhMYSLITEhNASHI
fONUcTUdPEbOKOJIgRITSIfSHAbTAaPICgLOVOeMALL YUSa WITH TAILsPIDERY HAkTROKUTASTI AlSIcVRIDOgUKUdVEDE
eYATIdERIbUcSTUeObUcZEMLJAfHIVETEzdSS OF MILKlEICH STARKkOBE WITH MERIDIANSrVESdWING STARlOAL NETfT
cGGLESfLFEReRILLAfTHIC LETTER AHSAdIHVUSgBAIRKANhDAGSeEISdFAIHUfGIBAeHAGLdWAIRfIGGWSeUJAeJERdKUSMA
fLAGUSfMANNAfNAUTHSfINE HUNDREDiTYgOTHALfPAIRTHRAiQAIRTHRAiRAIDAfSAUILfTEIWSeHIUTHgURUSeWINJA
sRADUATION CAPlNTHA AU LENGTH MARKoLETTER AaAbIbUcBAbHAdCAbHAdDAbDAbHAdHAdEEcGAbHAdHAcIaIcJAbHAdKA
bHAdLAbLAdMAcNAbGAcNAcYAdOOcPAbHAdRAcSAbHAcSAdTAbHAcTAbHAeUaUcVAbEDIC ANUSVARAiDOUBLE ANUSVARA
uOCALIC LaLcRaRkYAjOMcSIGN ANUSVARAhVAGRAHAiCANDRABINDUkOMBINING ANUSVARA ABOVEyNUKTAfPLUTAfVIRAMA
eSARGAmVOWEL SIGN AAbIbUcEEcIaIcOOcUaUcVOCALIC LaLcRaRzbPESdVE ACCENT
kEATER-THAN ABOVE DOUBLE-LINE EQUAL ABOVE LESS-THANziLESS-THAN ABOVE DOUBLE-LINE EQUAL
ziRIGHTWARDS ARROWqSIMILAR ABOVE LESS-THANpOR EQUAL
pLANTED EQUAL ABOVE LESS-THAN ABOVE SLANTED EQUALzzeND NOT APPROXIMATEpSINGLE-LINE NOT EQUAL TO
zdBESIDE LESS-THANpUT NOT EQUAL TOfIVALENT TOvCLOSED BY CURVEa ABOVE SLANTED EQUAL
zkEQUAL TO OR LESS-THANvOR APPROXIMATElEQUAL TOfIVALENT TOnLESS-THANjSLANTED EQUAL TO
a WITH DOT ABOVEa LEFTkINSIDEzjVER EQUAL TOjLAPPING LESS-THANvSIGNeWITH CIRCLE INSIDEnDOT
dQUESTION MARK ABOVEzjEK ACROPHONIC ATTIC FIFTYa STATERShTALENTSgHOUSANDa STATERSuVEa HUNDRED
a STATERShTALENTSpSTATERShTALENTSgHOUSANDa TALENTSvONE DRACHMAhHALFdUNDRED STATERShTALENTSpQUARTER
hTHOUSAND STATERShTALENTSuTEN MNASeSTATERShTALENTSgHOUSAND STATERSzbCARYSTIAN FIVE HUNDRED
vYRENAIC TWO DRACHMASvDELPHIC FIVE MNASrEPIDAUREAN FIVE HUNDREDmTWOa DRACHMASxHERAEUM ONE PLETHRON
rMIONIAN FIFTYfONEdTENoMESSENIAN TENnNAXIAN FIVE HUNDREDtSTRATIAN FIFTY MNAStTHESPIAN FIFTY
dVE HUNDREDhTHOUSANDnONEa HUNDREDhTHOUSANDmTENcHIRTYeREE HUNDREDmWOlROEZENIAN FIFTYa ALTERNATE FORM
sVEa HUNDREDmTENa ALTERNATE FORMzoNO TELEIAjROURA SIGNjTABE SIGNlBETA SYMBOL
lCAPITAL DOTTED LUNATE SIGMA SYMBOLzbKAI SYMBOLkLETTER ALPHAa WITH DASIAa AND OXIA
a AND PROSGEGRAMMENIxPERISPOMENIa AND PROSGEGRAMMENIzeROSGEGRAMMENIoVARIAa AND PROSGEGRAMMENI
zjMACRONgOXIAePROSGEGRAMMENInSILIa AND OXIAa AND PROSGEGRAMMENIxPERISPOMENIa AND PROSGEGRAMMENI
zeROSGEGRAMMENIoVARIAa AND PROSGEGRAMMENIzjTONOSfVARIAeRACHYqRCHAIC SAMPInBETAeCHIdDELTAfEPSILON
a WITH DASIAa AND OXIAeVARIApOXIAePSILIa AND OXIAeVARIApTONOSfVARIArTAa WITH DASIAa AND OXIA
a AND PROSGEGRAMMENIxPERISPOMENIa AND PROSGEGRAMMENIzeROSGEGRAMMENIoVARIAa AND PROSGEGRAMMENIzjOXIA
ePROSGEGRAMMENInSILIa AND OXIAa AND PROSGEGRAMMENIxPERISPOMENIa AND PROSGEGRAMMENIzeROSGEGRAMMENI
oVARIAa AND PROSGEGRAMMENIzjTONOSfVARIAoGAMMAfHETAeIOTAa WITH DASIAa AND OXIAePERISPOMENIlVARIA
oIALYTIKAjMACRONgOXIAePSILIa AND OXIAePERISPOMENIlVARIApTONOSfVARIAeRACHYqKAPPAfLAMDAfMUcNUcOMEGA
a WITH DASIAa AND OXIAa AND PROSGEGRAMMENIxPERISPOMENIa AND PROSGEGRAMMENIzeROSGEGRAMMENIoVARIA
a AND PROSGEGRAMMENIzjOXIAePROSGEGRAMMENInSILIa AND OXIAa AND PROSGEGRAMMENIxPERISPOMENI
a AND PROSGEGRAMMENIzeROSGEGRAMMENIoVARIAa AND PROSGEGRAMMENIzjTONOSfVARIAoICRONa WITH DASIA
a AND OXIAeVARIApOXIAePSILIa AND OXIAeVARIApTONOSfVARIAsPAMPHYLIAN DIGAMMArHIcIbSIdRHOa WITH DASIA
oSANcHOcIGMAfTAUcHETAfUPSILONa WITH DASIAa AND OXIAePERISPOMENIlVARIAoIALYTIKAjMACRONgOXIAeTONOS
fVARIAeRACHYtXIcYOTdZETAkUNATE SIGMA SYMBOLtREVERSED DOTTED LUNATE SIGMA SYMBOL
zbLUNATE SIGMA SYMBOLzdTHETA SYMBOLuDASIAa AND OXIAePERISPOMENIlVARIAoIALYTIKA AND OXIAePERISPOMENI
lVARIAjTONOSoRACHMA SIGNmFIVE OBOLS SIGNoOUR OBOLS SIGNpGRAMMA SIGNlINDICTION SIGN
mSTRUMENTAL NOTATION SYMBOL-1a1b2b3b4b7b8b9c2a3b4b5b6b7b9c30b2b6b7b8b9c4a0b2b3b5b7b8b9c5a0b1b2b3b4
c7b8zfKAI SYMBOLiPPA SYMBOLlORONISgYATHOS BASE SIGNrLETTER ARCHAIC KOPPAnDIGAMMAhKOPPAfSAMPI
eMALL CAPITAL GAMMAfLAMDAfOMEGAfPIbSIdRHOqTIGMAgYOTjITRA SIGNjOWER NUMERAL SIGN
rUNATE EPSILON SYMBOLoSIGMA SYMBOLtMETRETES SIGNmUSICAL LEIMMAoNUMERAL SIGNmOBOL SIGNiNE HALF SIGN
a ALTERNATE FORMyQUARTER SIGNpUNKIA SIGNkXIAePERISPOMENIkHI SYMBOLjI SYMBOLiROSGEGRAMMENInSILI
a AND OXIAePERISPOMENIlVARIApQUESTION MARKnREVERSED LUNATE EPSILON SYMBOLzeHO SYMBOL
gWITH STROKE SYMBOLwSINUSOID SIGNmMALL DOTTED LUNATE SIGMA SYMBOLzbLETTER ALPHAa WITH DASIA
a AND OXIAa AND YPOGEGRAMMENIwPERISPOMENIa AND YPOGEGRAMMENIzeVARIAa AND YPOGEGRAMMENI
xYPOGEGRAMMENIxMACRONgOXIAa AND YPOGEGRAMMENIwPERISPOMENIa AND YPOGEGRAMMENIzdSILIa AND OXIA
a AND YPOGEGRAMMENIwPERISPOMENIa AND YPOGEGRAMMENIzeVARIAa AND YPOGEGRAMMENIxYPOGEGRAMMENIxTONOS
fVARIAa AND YPOGEGRAMMENIwRACHYgYPOGEGRAMMENIxRCHAIC KOPPAfSAMPInBETAeCHIdDELTAeIGAMMAhEPSILON
a WITH DASIAa AND OXIAeVARIApOXIAePSILIa AND OXIAeVARIApTONOSfVARIArTAa WITH DASIAa AND OXIA
a AND YPOGEGRAMMENIwPERISPOMENIa AND YPOGEGRAMMENIzeVARIAa AND YPOGEGRAMMENIxYPOGEGRAMMENIxOXIA
a AND YPOGEGRAMMENIwPERISPOMENIa AND YPOGEGRAMMENIzdSILIa AND OXIAa AND YPOGEGRAMMENIwPERISPOMENI
a AND YPOGEGRAMMENIzeVARIAa AND YPOGEGRAMMENIxYPOGEGRAMMENIxTONOSfVARIAa AND YPOGEGRAMMENI
xYPOGEGRAMMENIwFINAL SIGMAlGAMMAfHETAeIOTAa WITH DASIAa AND OXIAePERISPOMENIlVARIAoIALYTIKA
a AND OXIAePERISPOMENIlTONOSfVARIAtMACRONgOXIAePERISPOMENIkSILIa AND OXIAePERISPOMENIlVARIApTONOS
fVARIAeRACHYqKAPPAeOPPAfLAMDAfMUcNUcOMEGAa WITH DASIAa AND OXIAa AND YPOGEGRAMMENIwPERISPOMENI
a AND YPOGEGRAMMENIzeVARIAa AND YPOGEGRAMMENIxYPOGEGRAMMENIxOXIAa AND YPOGEGRAMMENIwPERISPOMENI
a AND YPOGEGRAMMENIzdSILIa AND OXIAa AND YPOGEGRAMMENIwPERISPOMENIa AND YPOGEGRAMMENIzeVARIA
a AND YPOGEGRAMMENIxYPOGEGRAMMENIxTONOSfVARIAa AND YPOGEGRAMMENIxYPOGEGRAMMENIwICRONa WITH DASIA
a AND OXIAeVARIApOXIAePSILIa AND OXIAeVARIApTONOSfVARIAsPAMPHYLIAN DIGAMMArHIcIbSIdRHOa WITH DASIA
fPSILIoSAMPIdNcHOcIGMAeTIGMAgTAUcHETAfUPSILONa WITH DASIAa AND OXIAePERISPOMENIlVARIAoIALYTIKA
a AND OXIAePERISPOMENIlTONOSfVARIAtMACRONgOXIAePERISPOMENIkSILIa AND OXIAePERISPOMENIlVARIApTONOS
fVARIAeRACHYtXIcZETAlREVERSED DOTTED LUNATE SIGMA SYMBOLzbLUNATE SIGMA SYMBOL
ziUBSCRIPT SMALL LETTER BETAeCHIdGAMMAfPHIdRHOzYMBOL TAU RHOoTALENT SIGNkHETA SYMBOLkREE OBOLS SIGN
kQUARTERS SIGNsONOSeRYBLION BASE SIGNrWO OBOLS SIGNkTHIRDS SIGNpUPSILON WITH ACUTE AND HOOK SYMBOL
vDIAERESIS AND HOOK SYMBOLzHOOK SYMBOLyVARIAeOCAL NOTATION SYMBOL-1a0b1b2b3b4b5b6b7b8b9c2a0b1b2b3b4
c3b4b5a0b1b2b3b4c6b7b8b9xXESTES SIGNlYEAR SIGNiPOGEGRAMMENInZERO SIGNlN APPLEfBOOKeHEARTfSALAD
jIMACING FACElNNING CAT FACE WITH SMILING EYESzbFACEa WITH ONE LARGE AND ONE SMALL EYE
zcSMILING EYESlTAR EYESzbOUP MARKeSEPARATORmWING HEARTmSbUARANI SIGNiDSMANhIDE DOGgTAR
eJARATI ABBREVIATION SIGNrDIGIT EIGHTfFIVEdOUReNINEeONEdSEVENeIXdTHREEeWOdZEROkLETTER AaAbIbUcBAbHA
dCAbHAdDAbDAbHAdHAdEbGAbHAdHAcIaIcJAbHAdKAbHAdLAbLAdMAcNAbGAcNAcYAdObPAbHAdRAcSAbHAcSAdTAbHAcTAbHA
eUaUcVAbOCALIC LaLcRaRkYAcZHAkOMcRUPEE SIGNkSIGN ANUSVARAhVAGRAHAiCANDRABINDUkIRCLE NUKTA ABOVE
sMADDAHgNUKTAfSHADDAfUKUNfTHREE-DOT NUKTA ABOVEuWO-CIRCLE NUKTA ABOVEwVIRAMAeSARGAmVOWEL CANDRA EbO
iSIGN AAbIbUcCANDRA EbOiEbIaIcObUaUcVOCALIC LaLcRaRzdNJALA GONDI DIGIT EIGHTfFIVEdOUReNINEeONE
dSEVENeIXdTHREEeWOdZEROkLETTER AaAbIbUcBAbHAdCAbHAdDAbDAbHAdHAdEEcGAbHAdHAcIaIcJAbHAdKAbHAdLAbLAdMA
cNAbGAdOOcPAbHAdRAcSAcTAbHAcTAbHAeUaUcVAcYAjOMcSIGN ANUSVARAiVISARGAmVIRAMAfOWEL SIGN AAbIbUcEEcIaI
cOOcUaUzRMUKHI ABBREVIATION SIGNqDDAKfDIGIT EIGHTfFIVEdOUReNINEeONEdSEVENeIXdTHREEeWOdZEROkEK ONKAR
iIRIdLETTER AaAbIbUcBAbHAdCAbHAdDAbDAbHAdHAdEEcFAcGAbHAbHAeHAcIaIcJAbHAdKAbHAbHAeLAbLAdMAcNAbGAcNA
cYAdOOcPAbHAdRAbRAdSAbHAdTAbHAcTAbHAeUaUcVAcYAcZAjSIGN ADAK BINDIkBINDIfNUKTAfUDAATfVIRAMAeSARGA
hYAKASHlTIPPIfURAdVOWEL SIGN AAbIbUcEEcIaIcOOcUaUwHADESdIR SPACEgCUTfLFWIDTH BLACK SQUARE
mDOWNWARDS ARROWpFORMS LIGHT VERTICALuHANGUL FILLERgLETTER AaEcCHIEUCHgIEUCfEaObUcHIEUHfIaEUNG
fKHIEUKHgIYEOKa-SIOSlMIEUMfNIEUNa-CIEUCfHIEUHlOaEcPHIEUPHgIEUPa-SIOSkRIEULa-HIEUHfKIYEOKgMIEUM
fPHIEUPHgIEUPfSIOSeTHIEUTHnSIOSdSANGCIEUCfKIYEOKgPIEUPfSIOSeTIKEUTlTHIEUTHgIKEUTgUbWAaEcEaOcIcYAaE
cEaOcIbObUqIDEOGRAPHIC COMMAfFULL STOPvKATAKANA LETTER AbEbHAbEbIbObUcIbKAbEbIbObUcMAbEbIbObUcNaAbE
bIbObUcObRAbEbIbObUcSAbEbIbMALL AbEbIbObTUcUbYAbObUhObUcTAbEbIbObUcUbWAbOcYAbObUjMIDDLE DOT
kSEMI-VOICED SOUND MARKwVOICED SOUND MARKs-HIRAGANA PROLONGED SOUND MARKznLEFT CORNER BRACKET
pWARDS ARROWpRIGHT CORNER BRACKETpWARDS ARROWqUPWARDS ARROWnWHITE CIRCLEuMBURGERgMERa AND PICK
eSICKLEgWRENCHoSAbTER FACEkND WITH INDEX AND MIDDLE FINGERS CROSSEDzbFINGER AND THUMB CROSSEDzlBAG
bLLeSHAKEgGUL CHOSEONG CEONGCHIEUMCHIEUCHgIEUCfSIOSdSANGCIEUCfSIOStHIEUCHa-HIEUHfKHIEUKH
mTUEUMCHIEUCHgIEUCfSIOSdSANGCIEUCfSIOSqIEUCa-IEUNGlFILLERgHIEUHa-SIOSkIEUNGa-CHIEUCHgIEUCfHIEUH
fKIYEOKgMIEUMfPANSIOSgHIEUPHgIEUPfRIEULfSIOSeTHIEUTHgIKEUTmKAPYEOUNMIEUMfPHIEUPHgIEUPfRIEUL
fSSANGPIEUPrHIEUKHgIYEOKa-TIKEUTnMIEUMa-KIYEOKgPIEUPfSIOSeTIKEUTmNIEUNa-CIEUCfHIEUHfKIYEOKgPIEUP
fSIOSeTIKEUTmPANSIOSgHIEUPHa-HIEUHfPIEUPmIEUPa-CHIEUCHgIEUCfHIEUHfKHIEUKHgIYEOKgNIEUNfPHIEUPHhSIOS
a-CIEUCfKIYEOKgPIEUPfTHIEUTHgIKEUTkSANGSIOSjTHIEUTHgIKEUTmRIEULa-CIEUCfHIEUHfKAPYEOUNPIEUPmHIEUKH
gIYEOKgMIEUMfNIEUNfPIEUPfSIOSdSANGKIYEOKgPIEUPfTIKEUTlTIKEUTmSIOSa-CHIEUCHgIEUCfHIEUHfIEUNGfKHIEUKH
gIYEOKgMIEUMfNIEUNfPHIEUPHgIEUPa-KIYEOKmRIEULfSSANGSIOSjTHIEUTHgIKEUTkSANGCIEUCa-HIEUHlHIEUHfIEUNG
fKIYEOKgNIEUNfPIEUPfRIEULfSIOSa-PIEUPkTHIEUTHgIKEUTgYEORINHIEUHqTHIEUTHgIKEUTa-CIEUCfKIYEOKgMIEUM
fPIEUPfRIEULfSIOSlYEORINHIEUHjSIEUNGrDOUBLE DOT TONE MARKuFILLERgJONGSEONG CHIEUCHgIEUCa-PIEUP
fSSANGPIEUPqHIEUHa-MIEUMfNIEUNfPIEUPfRIEULlIEUNGa-KHIEUKHgIYEOKgSSANGKIYEOKrKAPYEOUNMIEUMfPHIEUPH
gIEUPfRIEULmHIEUKHgIYEOKa-CHIEUCHhHIEUHfKHIEUKHhNIEUNfPIEUPfRIEULfSIOSa-KIYEOKsMIEUMa-CHIEUCHgIEUC
fHIEUHfKIYEOKgNIEUNfPANSIOSgIEUPa-SIOSkRIEULfSIOSdSANGNIEUNfSIOSpNIEUNa-CHIEUCHgIEUCfHIEUHfKIYEOK
gPANSIOShRIEULfSIOSeTHIEUTHgIKEUTmPANSIOSa-KAPYEOUNPIEUPnPIEUPmHIEUPHa-PIEUPfSIOSeTHIEUTHoIEUP
a-CHIEUCHgIEUCfHIEUHfMIEUMfPHIEUPHhRIEULa-PHIEUPHnSIOSa-TIKEUTlTIKEUTmRIEULa-HIEUHfKAPYEOUNPIEUP
mHIEUKHgIYEOKa-HIEUHfSIOSlMIEUMa-HIEUHfKIYEOKgSIOSkNIEUNfPANSIOSgHIEUPHgIEUPa-HIEUHfPHIEUPHhSIOS
eTIKEUTmSIOSdSANGKIYEOKgSIOSjTHIEUTHgIKEUTa-HIEUHmYEORINHIEUHa-HIEUHpSIEUNGoSIOSa-CHIEUCHgIEUC
fHIEUHfKAPYEOUNPIEUPmIYEOKgMIEUMfPANSIOSgIEUPfRIEULfTHIEUTHgIKEUTkSANGCIEUCfIEUNGfKIYEOKgMIEUM
fNIEUNfPIEUPfRIEULa-KHIEUKHnSIOSa-KIYEOKgTIKEUTlTIKEUTa-PIEUPmYESIEUNGnTHIEUTHgIKEUTa-CHIEUCHgIEUC
fKIYEOKgPIEUPfRIEULfSIOSa-KIYEOKlTHIEUTHoYEORINHIEUHjSIEUNGa-HIEUHfKHIEUKHgIYEOKgMIEUMfPANSIOShSIOS
dSANGKIYEOKzeUNGSEONG Aa-EUcObUcEbRAEAa-AbEaOcIbUhEaOa-EUcObUdUa-AbEaObUcObUeFILLERgIa-AaRAEAfEUcI
bOa-IdUbYAa-OcEcEaOcObUeOa-EaOcOa-IdUbYAaEcEaOeEcSSANGARAEAkUa-AaEcEO-EUfI-IdUbYEaOfWAaEcEaOcIcYA
a-ObUbYOdEcEaOa-ObUbYAfIa-UdOa-AaEcEOcIbObYAaEcEOfUa-AaEcEaOcIbObUbYEaOqLETTER AaEbRAEAaEgCHIEUCH
gIEUCfEaObUcHIEUHfIaEUNGfKAPYEOUNMIEUMfPHIEUPHgIEUPfSSANGPIEUPrHIEUKHgIYEOKa-SIOSlMIEUMa-PANSIOS
gIEUPfSIOSkNIEUNa-CIEUCfHIEUHfPANSIOShSIOSeTIKEUTmOaEcPANSIOSgHIEUPHgIEUPa-CIEUCfKIYEOKgSIOS
a-KIYEOKgTIKEUTlTHIEUTHgIKEUTmRIEULa-HIEUHfKIYEOKa-SIOSlMIEUMfPANSIOSgHIEUPHgIEUPa-SIOSkSIOS
eTHIEUTHgIKEUTgYEORINHIEUHrSIOSa-CIEUCfKIYEOKgNIEUNfPIEUPfTIKEUTkSANGCIEUCfHIEUHfIEUNGfKIYEOKgNIEUN
fPIEUPfSIOSeTIKEUTlTHIEUTHgIKEUTgUbWAaEcEaOcIcYAaEcEaOaRINHIEUHjSIEUNGa-PANSIOShSIOSmIbOa-IbYAaEfU
a-IbYEaOnSINGLE DOT TONE MARKxZHOU NUMERAL EIGHTfFIVEdOUReNINEeONEdSEVENeIXdTENcHIRTYeREEeWENTYeO
rIFI ROHINGYA DIGIT EIGHTfFIVEdOUReNINEeONEdSEVENeIXdTHREEeWOdZEROkLETTER AbBAcCAcDAbDAdFAcGAcHAcJA
cKAbHAcINNA WAcYAiLAcMAcNAbGAcYAdPAcRAbRAdSAbHAdTAbTAdVAcWAcYAcZAjMARK NA KHONNAjSAKIN
kSIGN HARBAHAYiTAHALAeNAcSSIkVOWEL AbEbIbObUuUNOO LETTER AbBAcDAcGAcHAcIbKAcLAcMAcNAbGAdPAcRAcSAcTA
cUbWAcYAjSIGN PAMUDPODnVOWEL SIGN IbUsPPY PERSON RAISING ONE HANDzcRD DISKhTCHING CHICK
lRAN LETTER ALEPHeYNdBETHeDALETH-RESHlGIMELfHEaTHeKAPHeLAMEDHgMEMdNUNdPEcQOPHeSADHEdMEKHfHINeTAW
cETHeWAWdYODHeZAYNlNUMBER FIVEeONEa HUNDREDlTENcWENTYtEADPHONEfSTONEa GRAVEYARD SYMBOL
xR-NO-EVIL MONKEYpT DECORATIONkHANDSfWITH ARROWfRIBBONgTIP ON THE LEFTxVY AMPERSAND ORNAMENT
rRROW SHAFT WIDTH ONEa HALFeTHIRDjTWO THIRDSzcSTERISKiBALLOT X
hLACK CURVED DOWNWARDS AND RIGHTWARDS ARROWzfUPWARDS AND RIGHTWARDS ARROWzkHEART
g-FEATHERED NORTH EAST ARROWqRIGHTWARDS ARROWqSOUTH EAST ARROWzhCHECK MARKhVRON SNOWFLAKEqIRCLE
a WITH CIRCLE INSIDEnSTROKE AND TWO DOTS ABOVEzgD SALTIREoONCAVE-POINTED BLACK RIGHTWARDS ARROW
znDASHED TRIANGLE-HEADED RIGHTWARDS ARROWznIVISION SIGNmOLLAR SIGN
jUBLE COMMA QUOTATION MARK ORNAMENTzeTURNED COMMA QUOTATION MARK ORNAMENT
zqWNWARDS ARROW WITH EQUILATERAL ARROWHEADvLARGE EQUILATERAL ARROWHEADzxEIGHT POINTED BLACK STAR
kPINWHEEL STARnRECTILINEAR BLACK STARzfSPOKED ASTERISKpTEARDROP-SPOKED PROPELLER ASTERISK
zoQUALS SIGNkXCLAMATION MARK ORNAMENTiSYMBOLxFIVE POINTED BLACK STARsSPOKED ASTERISK
tOUR BALLOON-SPOKED ASTERISKzdGREEK CROSSlHEART EXCLAMATION MARK ORNAMENTzfORIZONTAL FILL
pINTERROBANG ORNAMENTuLARGE CIRCLEkTIN CROSSkEFT-POINTING ANGLE BRACKET ORNAMENT
qQUOTATION MARK ORNAMENTzoWARDS ARROW WITH EQUILATERAL ARROWHEADvLARGE EQUILATERAL ARROWHEAD
zwIGATURE OPEN ET ORNAMENTyOW DOUBLE COMMA QUOTATION MARK ORNAMENT
zlSINGLE COMMA QUOTATION MARK ORNAMENTzmER RIGHT-SHADOWED WHITE RIGHTWARDS ARROWzsMINUS SIGN
jULTIPLICATION XqNORTH EAST ARROWfPOINTING BUDdVINE LEAFxWEST POINTING BUDdVINE LEAF
zeOPEN CENTRE CROSSqUTLINED BLACK STARsVAL WITH OVAL INSIDEvPLUS SIGN
jRIGHT-POINTING ANGLE BRACKET ORNAMENTqQUOTATION MARK ORNAMENTzoWARDS ARROW
a WITH EQUILATERAL ARROWHEADvLARGE EQUILATERAL ARROWHEADzxOUND-TIPPED RIGHTWARDS ARROWzeSALTIRE
fNS-SERIF INTERROBANG ORNAMENTzfCRIPT LIGATURE ET ORNAMENTzbINGLE COMMA QUOTATION MARK ORNAMENT
zeTURNED COMMA QUOTATION MARK ORNAMENTzqX POINTED BLACK STARsSPOKED ASTERISKsOUTH EAST ARROW
fPOINTING BUDdVINE LEAFxWEST POINTING BUDdVINE LEAFzdPARKLEhTEARDROP-SHANKED RIGHTWARDS ARROW
xPOKED ASTERISKiPINWHEEL ASTERISKzhRIANGLE-HEADED RIGHTWARDS ARROWzgWELVE POINTED BLACK STAR
kPINWHEEL STARzdUPPER RIGHT-SHADOWED WHITE RIGHTWARDS ARROWzqWARDS ARROW WITH EQUILATERAL ARROWHEAD
vLARGE EQUILATERAL ARROWHEADzvVERTICAL BARmWEDGE-TAILED RIGHTWARDS ARROWzdHITE CIRCLE
gDOWN-POINTING TRIANGLEwSQUARElIDE-HEADED RIGHTWARDS ARROWzhBREW ACCENT ATNAH HAFUKHmDARGAeEHI
eETNAHTAhGERESHa MUQDAMkSHAYIMjILUYeMAHAPAKHhERKHAa KEFULAmUNAHfOLEdPASHTAeZERfQADMAdRNEY PARA
lREVIAfSEGOLeHALSHELETkTELISHA GEDOLAgQETANAmVIReIPEHAgYERAH BEN YOMOmTIVfZAQEF GADOLfQATANjRQA
eINORmLETTER ALEFa WITH MAPIQfPATAHfQAMATSoTERNATIVE AYINePLUS SIGNuYINeBETa WITH DAGESHgRAFEnDALET
a WITH DAGESHrFINAL KAFa WITH DAGESHpMEMdNUNdPEa WITH DAGESHoTSADIlGIMELa WITH DAGESHrHE
a WITH MAPIQlTdKAFa WITH DAGESHgRAFEnLAMEDa WITH DAGESHrMEMa WITH DAGESHpNUNa WITH DAGESHpPE
a WITH DAGESHgRAFEmQOFa WITH DAGESHpRESHa WITH DAGESHqSAMEKHa WITH DAGESHrHINa WITH DAGESH
a AND SHIN DOThIN DOTsSHIN DOThIN DOTrTAVa WITH DAGESHoETa WITH DAGESHoSADIa WITH DAGESHrVAV
a WITH DAGESHgHOLAMoWIDE ALEFeDALETfFINAL MEMjHEcKAFdLAMEDfRESHeTAViYODa WITH DAGESHgHIRIQoZAYIN
a WITH DAGESHxIGATURE ALEF LAMEDkYIDDISH DOUBLE VAVdYODkVAV YODhYOD YOD PATAHzfMARK LOWER DOT
jMASORA CIRCLEnUPPER DOToPOINT DAGESH OR MAPIQpHATAF PATAHfQAMATSgSEGOLkIRIQeOLAMa HASER FOR VAV
tJUDEO-SPANISH VARIKAuMETEGfPATAHfQAMATSa QATANlUBUTSgRAFEeSEGOLeHEVAdIN DOThIN DOThTSERE
kUNCTUATION GERESHdSHAYIMjMAQAFfNUN HAFUKHAlPASEQfSOF PASUQvYOD TRIANGLErDGEHOGgLICOPTER
hLSCHREIBER PAUSE SYMBOLxM SYMBOLhET WITH WHITE CROSSvNTAIGANA LETTER A-1b2b3bWOeE-1b2b3b4b5b6dHA-1
a0b1c2b3b4b5b6b7b8b9dE-1b2b3b4b5b6b7dI-1b2b3b4b5b6b7dO-1b2b3b4b5b6b7b8dU-1b2b3eI-1b2b3b4dKA-1a0b1c2
b3b4b5b6b7b8b9bKEeE-1b2b3b4b5b6dI-1b2b3b4b5b6b7b8dO-1b2b3bKIeU-1b2b3b4b5b6b7eMA-1b2b3b4b5b6b7dE-1b2
bMAeI-1b2b3b4b5b6b7dO-1b2b3b4b5b6dU-1b2b3b4eN-MU-MO-1b2iA-1b2b3b4b5b6b7b8b9dE-1b2b3b4b5b6bKOeI-1b2
b3b4b5b6b7bTEeO-1b2b3b4b5dU-1b2b3eO-1b2b3dRA-1b2b3b4dE-1b2b3b4dI-1b2b3b4b5b6b7dO-1b2b3b4b5b6dU-1b2
b3b4b5b6eSA-1b2b3b4b5b6b7b8dE-1b2b3b4b5dI-1b2b3b4b5b6dO-1b2b3b4b5b6b7dU-1b2b3b4b5b6b7b8eTA-1b2b3b4
dE-1b2b3b4b5b6b7b8b9dI-1b2b3b4b5b6b7dO-1b2b3b4b5b6bRAeU-1b2b3b4bTOfU-1b2b3b4b5dWA-1b2b3b4b5dE-1b2b3
b4dI-1b2b3b4b5dO-1b2b3b4b5b6b7eYA-1b2b3b4b5bYOeO-1b2b3b4b5b6dU-1b2b3b4uRBbMITIAN CONJUGATE MATRIX
yXAGRAM FOR ABUNDANCEiFTER COMPLETIONpPPROACHiBEFORE COMPLETIONqITING THROUGHnREAKTHROUGH
mCOMING TO MEETmNFLICTfTEMPLATIONnDARKENING OF THE LIGHTvECREASEgLIVERANCEjVELOPMENT
kIFFICULTY AT THE BEGINNINGzSPERSIONjURATIONiENTHUSIASMkFELLOWSHIPjOLLOWINGjGATHERING TOGETHERrRACE
dEAT POSSESSIONiWEReREPONDERANCEnTAMINGmHOLDING TOGETHERqINCREASEgFLUENCEhNER TRUTHiOCENCE
jLIMITATIONkMODESTYfUTH CORNERSnOBSTRUCTIONkPPOSITIONhRESSIONkPEACEeROGRESShUSHING UPWARDoRETREAT
eURNeVOLUTIONkSMALL PREPONDERANCEnTAMINGlPLITTING APARToTANDSTILLkTHE ABYSMAL WATERmRMY
cOUSING THUNDERqCAULDRONhLINGING FIREmREATIVE HEAVENpFAMILYgGENTLE WINDlJOYOUS LAKE
lKEEPING STILL MOUNTAINwMARRYING MAIDENpRECEPTIVE EARTHpWANDERERhELLhREADINGiWAITING
gORK ON THE DECAYEDtYOUTHFUL FOLLYzbIBISCUSgGH BRIGHTNESS SYMBOLrOCTET PRESETmVOLTAGE SIGN
n-HEELED SHOElSPEED TRAINa WITH BULLET NOSEzgKING BOOTjNDU TEMPLEkPPOPOTAMUSkRAGANA DIGRAPH YORI
mITERATION MARKoLETTER AaRCHAIC WUcYEkBAbEbIbObUcDAbEbIbObUcEbGAbEbIbObUcHAbEbIbObUcIbKAbEbIbObUcMA
bEbIbObUcNaAbEbIbObUcObPAbEbIbObUcRAbEbIbObUcSAbEbIbMALL AbEbIbKAbEcObTUcUbWAbEbIbOcYAbObUhObUcTAbE
bIbObUcUbVUcWAbEbIbOcYAbObUcZAbEbIbObUjVOICED ITERATION MARKzdSTORIC SITEmOCHOdLE
bLOW QUILT SQUARE ORNAMENTa IN BLACK SQUAREzrMOTHETICiNEY POTeBEEgOKcPbRIZONTAL BARcLACK HEXAGON
hOCTAGONnELLIPSISiLINE EXTENSIONoMALE WITH STROKE SIGNvONE EIGHTH BLOCK-1358e2b3b4b5b6b7
sSCAN LINE-1b3b7b9lTAB KEYeULATIONa SETdWITH JUSTIFICATIONzdRAFFIC LIGHTvSEa FACEeRACINGkSPITAL
gT BEVERAGEiDOGdPEPPERgSPRINGSiELdURGLASSa WITH FLOWING SANDySEa BUILDINGaSjWITH GARDENqRYVNIA SIGN
lTaJbScUGGING FACEkNDRED POINTS SYMBOLtSHED FACEjTcYGIEAePHENa BULLETgWITH DIAERESISp-MINUS
gATION POINToODIASTOLEkSTERESIS SYMBOLrI LOVE YOU HAND SIGNtCE CREAMeUBEeHOCKEY STICK AND PUCK
vSKATEiDENTICAL TOa AND SLANTED PARALLELxWITH DOT ABOVEsFICATION CARD
qOGRAPHIC ANNOTATION BOTTOM MARKlEARTH MARKkFIRST MARKjOUR MARKfTH MARKlHEAVEN MARKlLINKING MARK
mMAN MARKhIDDLE MARKlONE MARKiREVERSE MARKmSECOND MARKlTHIRD MARKiREE MARKjOP MARKhWO MARK
tCLOSING MARKlOMMAfDEPARTING TONE MARKrSCRIPTION CHARACTER ABOVE TO BELOWfMIDDLE AND BELOW
zFULL SURROUNDnLEFT TO MIDDLE AND RIGHTqRIGHTnOVERLAIDiSURROUND FROM ABOVEfBELOWfLEFTdOWER LEFT
kUPPER LEFTeRIGHTzwENTERING TONE MARKsFULL STOPjHALF FILL SPACEpITERATION MARKoLEVEL TONE MARK
pNUMBER ZEROlRISING TONE MARKqSPACEfTALLY MARK FIVEdOUReONEdTHREEeWO
nELEGRAPH LINE FEED SEPARATOR SYMBOLzbSYMBOL FOR APRILeUGUSTgDAY EIGHTaEENhLEVENgFIFTEENfVEdOUR
aTEENiNINEaTEENiONEdSEVENaTEENiIXaTEENhTENcHIRTEENdYa-ONEiREEeWELVEdNTYa-EIGHTfFIVEdOUReNINEeONE
dSEVENeIXdTHREEeWOiOgECEMBERiFEBRUARYiHOUR EIGHTaEENhLEVENgFIFTEENfVEdOURaTEENiNINEaTEENiONEdSEVEN
aTEENiIXaTEENhTENcHIRTEENgREEeWELVEdNTYa-FOUReONEdTHREEeWOiOdZEROjJANUARYgULYcNEeMARCHdYdNOVEMBER
iOCTOBERhSEPTEMBERzfVARIATION INDICATORzfMAGE OFa OR APPROXIMATELY EQUAL TOzhP
aERIAL ARAMAIC LETTER ALEPHeYINeBETHeDALETHgGIMELfHEaTHeKAPHeLAMEDHgMEMdNUNdPEcQOPHeRESHeSADHEdMEKH
fHINeTAWcETHeWAWdYODHeZAYINmNUMBER ONEa HUNDREDhTHOUSANDmTENa THOUSANDlHREEeWENTYeOkSECTION SIGN
zdNBOX TRAYiCOMING ENVELOPEmPLETE INFINITYqREASE FONT SIZE SYMBOLrS AShMENThDaEX
a POINTING AT THE VIEWERzIAN RUPEE SIGNnC SIYAQ ALTERNATE LAKH MARKtFRACTION ONE HALFeQUARTER
lTHREE QUARTERSxLAKH MARKjNUMBER ALTERNATE ONEdTEN THOUSANDlWOnEIGHTa HUNDREDhTHOUSANDjYa THOUSAND
pFIFTYa THOUSANDmVEa HUNDREDhTHOUSANDmORTYa THOUSANDmURa HUNDREDhTHOUSANDnKARORaANhLAKHaANgNINE
a HUNDREDhTHOUSANDjTYa THOUSANDpONEa HUNDREDhTHOUSANDmPREFIXED EIGHTfFIVEdOUReNINEeONEdSEVENeIX
dTHREEeWOmSEVENa HUNDREDhTHOUSANDjTYa THOUSANDpIXa HUNDREDhTHOUSANDjTYa THOUSANDoTENa THOUSAND
lHIRTYa THOUSANDnREEa HUNDREDhTHOUSANDnWENTYa THOUSANDnOa HUNDREDhTHOUSANDtPLACEHOLDERlRUPEE MARK
uFINITYa NEGATED WITH VERTICAL BARzgORMATION DESK PERSONlSEPARATOR FOUReONEdTHREEeWOmOURCE
qHIBIT ARABIC FORM SHAPINGtSYMMETRIC SWAPPINGyPUT SYMBOL FOR LATIN CAPITAL LETTERSpLETTERS
hSMALL LETTERStNUMBERShSYMBOLSwSCRIPTIONAL PAHLAVI LETTER ALEPHfBETHeDALETHgGIMELfHEaTHeKAPHeLAMEDH
gMEM-QOPHiNUNdPEcSADHEdMEKHfHINeTAWcETHeWAW-AYIN-RESHnYODHeZAYINmNUMBER FOUReONEa HUNDREDhTHOUSAND
mTENcHREEeWENTYeOqRTHIAN LETTER ALEPHeYINeBETHeDALETHgGIMELfHEaTHeKAPHeLAMEDHgMEMdNUNdPEcQOPHeRESH
eSADHEdMEKHfHINeTAWcETHeWAWdYODHeZAYINmNUMBER FOUReONEa HUNDREDhTHOUSANDmTENcHREEeWENTYeO
zfERTION SYMBOLoTEGRALa AROUND A POINT OPERATORwVERAGE WITH SLASHsEXTENSIONjWITH DOUBLE STROKE
nINTERSECTIONmLEFTWARDS ARROW WITH HOOKzOVERBARhTIMES SIGNkUNDERBARgIONpRCALATEgIOR PRODUCT
lLINEAR ANNOTATION ANCHORgSEPARATORjTERMINATORzcOCKED FEMALE AND MALE SIGNzcROBANGgSECTION
a ABOVE BAR ABOVE UNIONpUNIONlBESIDE AND JOINED WITH INTERSECTIONzkWITH DOTdLOGICAL ANDlOVERBAR
xVERSE BULLETgCHECK MARKfER BOARD FILLsDOWNWARDS ARROW WITH TIP LEFTWARDSzjMEDIUM SHADE
mWHITE CIRCLEpTED EXCLAMATION MARKqINTERROBANGlLAZY SfOW KAVYKAa WITH KAVYKA ABOVEzdOHM SIGN
iPENTAGRAMjQUESTION MARKnUNDERTIEoISIBLE PLUSeSEPARATORjTIMESoZAKAYA LANTERNpJACK-O-LANTERN
mPANESE BANK SYMBOLlCASTLEgDOLLSfGOBLINgINDUSTRIAL STANDARD SYMBOLzbOGREePOST OFFICE
lSYMBOL FOR BEGINNERzbRbVANESE CONSONANT SIGN CAKRAfKERETfPENGKALwDIGIT EIGHTfFIVEdOUReNINEeONE
dSEVENeIXdTHREEeWOdZEROkLEFT RERENGGANmTTER AaIcBAa MURDAiCAa MURDAiDAa MAHAPRANAlDAa MAHAPRANAnE
bGAa MURDAiHAcIa KAWIfIcJAa MAHAPRANAmKAa MURDAfSASAKiLAcMAcNAa MURDAhGAa LELETa RASWADIqYAa MURDA
jObPAa CEREKfMURDAiRAa AGUNGiSAa MAHAPRANAiURDAiTAa MURDAhTAa MAHAPRANAnUbWAcYAjPADA ADEGa ADEG
iNDAPfISEN-ISENjLINGSAfUHURdNGSIgMADYAfPANGKATgISELEHhTIRTA TUMETESnWINDUiNGKONdRANGKEP
lRIGHT RERENGGANpSIGN CECAKa TELUkLAYARfPANYANGGAjWIGNYANmTURNED PADA PISELEHtVOWEL SIGN DIRGA MURE
kPEPETfSUKUa MENDUTlTALINGeRUNGfOLONGgWULUa MELIKzeEANSeIGSAW PUZZLE PIECEsOINcYSTICKhUGGLINGgNO
cPITERhKAABAdITHI ABBREVIATION SIGNrDANDAeOUBLE DANDAfSECTION MARKtENUMERATION SIGNqLETTER AaAbIbU
cBAbHAdCAbHAdDAbDAbDHAdHAdHAdEbGAbHAdHAcIaIcJAbHAdKAbHAdLAcMAcNAbGAcNAcYAdObPAbHAdRAbHAdSAbHAcSAdTA
bHAcTAbHAeUaUcVAcYAjNUMBER SIGNa ABOVErSECTION MARKlIGN ANUSVARAiCANDRABINDUlNUKTAfVIRAMAeSARGA
mVOWEL SIGN AAbIbUcEbIaIcObUaUcVOCALIC RzNGAROOeXI RADICAL AGAINeNDcRRIVEdOWeXEdBADGEReMBOOfEANdIG
bRDcTTERfLACKdOODdUEdOATcDYcLT OF CLOTHlNEcWcRANCHeISTLEfUSHfCARTcULDRONgVEdHILDeITYdLANbWcIFF
dOTHESgOLORdMPAREfRPSEeVERdWdDEATHdERdIPPEReSHbTINGUISHjVINATIONjO NOTeGbORcTaTED CLIFFfTENTjUBLE X
gWN BOXhRAGONeUMcYdEARaTHdTcIGHTeMBROIDERYjNCLOSUREhTEReVENaINGgYEdFACEcNGcTHERfEATHERgIELDdGHTdRE
cSHdLUTEdYcOOTdRAGRANTgOGdURdGATEdHOSTeOa SLOWLYhLDdRAINcSSfHAIRcLBERDeF TREE TRUNKnNDdEADbRTdMP
dIDING ENCLOSUREpOOKcRNbSEfICEcNCHcSECTgJADEcRdKNIFEfLACKcMEdEAFbTHERfEKcGSdIDbFEcNEdONGa STRIDE
lMANcEATcLONeILLETeNISTERhOONcRNINGeTAReUNDbTAINfTHfNETcOSEcTdOLDcNEaSELFgPEN BOXgPOSEgPIGcLOWdOWER
eRIVATEfOFOUNDiRAINcPbTcEDcICEcGHT OPEN BOXmVEReOOFdUNdSACRIFICIAL WINEoLTcYcCHOLARfRIPTfEALcCONDeE
bLFdHEEPcLLdOOTcRT TAILED BIRDkHREADlICKNESSgLKdKINdLASHcVEdICEeMALLeNOUTeOUNDePEARcECHeIRITeOON
dROUTfQUAREfTANDdEAMcPcONEcPaPINGhUNcWEETfTABLEdLLcNNED LEATHERnENcIGERdLEdONGUEeOTHeRACKdEEcIPOD
fURBANdTLEfWOa HANDSjUSEdVALLEYfILLAGEhWALKa ENCLOSUREmTEReEAPONeSTdHEATdITEeINDbEdOMANdRKdRAPcONG
fYELLOWsNADA AI LENGTH MARKoDIGIT EIGHTfFIVEdOUReNINEeONEdSEVENeIXdTHREEeWOdZEROkLENGTH MARKjTTER A
aAbIbUcBAbHAdCAbHAdDAbDAbHAdHAdEaEcFAcGAbHAdHAcIaIcJAbHAdKAbHAdLAbLAbLAeMAcNAaKAARA POLLUmGAcNAcYA
dOaOcPAbHAdRAbRAdSAbHAcSAdTAbHAcTAbHAeUaUcVAbOCALIC LaLcRaRkYAjSIGN ANUSVARAhVAGRAHAiCANDRABINDU
lJIHVAMULIYAlNUKTAfSIDDHAMgPACING CANDRABINDUtUPADHMANIYAlVIRAMAeSARGAmVOWEL SIGN AAbIbUcEaEcIaIcO
aOcUaUcVOCALIC LaLcRaRzcTAKANA DIGRAPH KOTOmITERATION MARKoLETTER AaRCHAIC EbWUcYEbIkBAbEbIbObUcDA
bEbIbObUcEbGAbEbIbObUcHAbEbIbObUcIbKAbEbIbObUcMAbEbIaNNAN NASALIZED TONE-1b2b3b4b5b7b8qTONE-2b3b4b5
b7b8mObUcNaAbEbIbObUcObPAbEbIbObUcRAbEbIbObUcSAbEbIbMALL AbEbHAbEbIbObUcIbKAbEbUcMUcNaUcObRAbEbIbO
bUcSIbUcTObUcUbWAbEbIbOcYAbObUhObUcTAbEbIbObUcUbVAbEbIbObUcWAbEbIbOcYAbObUcZAbEbIbObUjMIDDLE DOT
kVOICED ITERATION MARKw-HIRAGANA DOUBLE HYPHENnPROLONGED SOUND MARKuSEMI-VOICED SOUND MARK
wVOICED SOUND MARKziYAH LI DIGIT EIGHTfFIVEdOUReNINEeONEdSEVENeIXdTHREEeWOdZEROkLETTER AbBAcCAcDA
cGAcHAbTAdIbKAbHAdLAcMAcNAbGAcYAdOEbOcPAbHAdRAcSAbHAdTAbHAdVAcWAcYAcZAjSIGN CWIdSHYAjTONE CALYA
a PLOPHUmPLOPHUlVOWEL EaEcObUaEqELVIN SIGNjYaBOARDa AND MOUSEpCAP TENjHAROSHTHI DIGIT FOUReONE
dTHREEeWOjFRACTION ONE HALFrLETTER AbBAbHAdCAbHAdDAbDAbHAdHAdGAbHAdHAcJAcKAbHAcKAdLAcMAcNAbNAcYAdPA
bHAdRAcSAbHAcSAdTAbHAcTAbHAcTAbHAfVAbHAdYAcZAjNUMBER ONE HUNDREDhTHOUSANDmTENcWENTY
nPUNCTUATION CIRCLEfRESCENT BARmDANDAeOTbUBLE DANDAmLINESeOTUSfMANGALAMiSMALL CIRCLEySIGN ANUSVARA
iBAR ABOVEjCAUDAfDOT BELOWhUBLE RING BELOWrVISARGAmVIRAMAfOWEL LENGTH MARKlSIGN EbIbObUbVOCALIC R
zeITAN SMALL SCRIPT CHARACTER-18B00b1b2b3b4b5b6b7b8b9bAbBbCbDbEbFc10b1b2b3b4b5b6b7b8b9bAbBbCbDbEbF
c20b1b2b3b4b5b6b7b8b9bAbBbCbDbEbFc30b1b2b3b4b5b6b7b8b9bAbBbCbDbEbFc40b1b2b3b4b5b6b7b8b9bAbBbCbDbEbF
c50b1b2b3b4b5b6b7b8b9bAbBbCbDbEbFc60b1b2b3b4b5b6b7b8b9bAbBbCbDbEbFc70b1b2b3b4b5b6b7b8b9bAbBbCbDbEbF
c80b1b2b3b4b5b6b7b8b9bAbBbCbDbEbFc90b1b2b3b4b5b6b7b8b9bAbBbCbDbEbFcA0b1b2b3b4b5b6b7b8b9bAbBbCbDbEbF
cB0b1b2b3b4b5b6b7b8b9bAbBbCbDbEbFcC0b1b2b3b4b5b6b7b8b9bAbBbCbDbEbFcD0b1b2b3b4b5b6b7b8b9bAbBbCbDbEbF
cE0b1b2b3b4b5b6b7b8b9bAbBbCbDbEbFcF0b1b2b3b4b5b6b7b8b9bAbBbCbDbEbFdC00b1b2b3b4b5b6b7b8b9bAbBbCbDbE
bFc10b1b2b3b4b5b6b7b8b9bAbBbCbDbEbFc20b1b2b3b4b5b6b7b8b9bAbBbCbDbEbFc30b1b2b3b4b5b6b7b8b9bAbBbCbDbE
bFc40b1b2b3b4b5b6b7b8b9bAbBbCbDbEbFc50b1b2b3b4b5b6b7b8b9bAbBbCbDbEbFc60b1b2b3b4b5b6b7b8b9bAbBbCbDbE
bFc70b1b2b3b4b5b6b7b8b9bAbBbCbDbEbFc80b1b2b3b4b5b6b7b8b9bAbBbCbDbEbFc90b1b2b3b4b5b6b7b8b9bAbBbCbDbE
bFcA0b1b2b3b4b5b6b7b8b9bAbBbCbDbEbFcB0b1b2b3b4b5b6b7b8b9bAbBbCbDbEbFcC0b1b2b3b4b5b6b7b8b9bAbBbCbDbE
bFcD0b1b2b3b4b5pFILLERyMER CURRENCY SYMBOL RIELuDIGIT EIGHTfFIVEdOUReNINEeONEdSEVENeIXdTHREEeWO
dZEROkINDEPENDENT VOWEL LYaYdQAAbIbQbUcEbIaIcOO TYPE ONEdTWOlUaKbUaVeRYaYvLETTER BAcCAbHAbOcOcDAbO
cHAcKAbHAbOcOcLAbOcMOcNGOcNOcObYOdPHAbOcOcQAcROcSAbHAcSOdTAbHAbOcObTHAbOeVOcYOjSIGN AHSDAeTTHACAN
hVAKRAHASANYAnBANTOCeRIYOOSANiTHAMASATjEYYALgCAMNUC PII KUUHoOENGfKAKABATgHANdOOMUUThLEK TOO
hMUUSIKATOANlNIKAHIThPHNAEK MUANlREAHMUKgOBATfSAMYOK SANNYAnTOANDAKHIATkRIISAPhVIRIAMgYUUKALEAPINTU
rYMBOL BEI KOETeROCgUON KOETeROCiDAP KOETeROCe-BEI KOETeROCgUON KOETeROCiMUOY KOETeROCiPII KOETeROC
gRAM KOETeROCmLEK ATTAK BEIcUONeMUOYePIIcRAMa-BEIcUONeMUOYePIIiSONnMUOY KOETeROCiPATHAMASATjII KOET
eROCgRAM KOETeROCe-BEI KOETeROCgUON KOETeROCiMUOY KOETeROCiPII KOETeROCmTUTEYASATqVOWEL INHERENT AA
bQlSIGN AAbEbIbUcEbIaEbIcOEbOcUaAbUcYaAbYrOJKI ABBREVIATION SIGNrDANDAeOUBLE DANDAfSECTION MARK
tLETTER AaAbIbUcBAbBAcHAdCAbHAdDAbDAbDAcHAdHAdEbGAbGAcHAdHAcIbJAbJAdKAbHAdLAbLAdMAcNAbGAcNAcYAdObPA
bHAdRAcSAcTAbHAcTAbHAeUbVAcYAjSECTION MARKlIGN ANUSVARAiNUKTAfSHADDAfUKUNfVIRAMAlVOWEL SIGN AAbIbU
cEbIaIcObUmWORD SEPARATORtUDAWADI DIGIT EIGHTfFIVEdOUReNINEeONEdSEVENeIXdTHREEeWOdZEROkLETTER AaAbI
bUcBAbBAcHAdCAbHAdDAbDAbDAcHAdHAdEbGAbGAcHAdHAcIaIcJAbHAcJAdKAbHAdLAcMAcNAbGAcNAcYAdObPAbHAdRAbRA
dSAbHAdTAbHAcTAbHAeUaUcVAcYAjSIGN ANUSVARAiNUKTAfVIRAMAlVOWEL SIGN AAbIbUcEbIaIcObUaUwIMONOeP SIGN
gSSa MARKfING CAT FACE WITH CLOSED EYESzFACEa WITH CLOSED EYESlSMILING EYESzdTEcWIFRUIT
iNEELING PERSONnOTdOALAdREAN STANDARD SYMBOLvRONOSgL B BAR SYMBOLnAB COATfELdCROSSE STICK AND BALL
vDDERdY BEETLEjNGUAGE TAGkO CANCELLATION MARKrDIGIT EIGHTfFIVEdOUReNINEeONEdSEVENeIXdTHREEeWOdZERO
kELLIPSISiHO MOcNOfKO LAfLETTER BOcCOcDOcFO FAYcONdSUNGeTAMgHO SUNGeTAMgKHMU GOcNYOgO SUNGeTAMgOcLO
a LINGdOOThMOcNGOcObYOdObPALI BHAdCHAdDDAbHAdHAdGHAdJHAdLLAdNNAcYAdTTAbHAiHO SUNGeTAMgOcRO
cSANSKRIT SHAcSAlO SUNGeTAMgTHO SUNGeTAMgOcWOcYOjNIGGAHITAjSEMIVOWEL SIGN LOcNYOrIGN PALI VIRAMA
qTONE MAI CATAWAgEKcTHOcIlVOWEL SIGN AaAbIbMbYcEaIcIaIcMAI KANcONhObUaUcYaYpRGE BLUE CIRCLEgDIAMOND
hSQUAREkROWN CIRCLEgSQUAREmCIRCLEgDOWN TACKjGREEN CIRCLEgSQUAREmLEFT TRIANGLE OPERATOR
wONE DOT OVER TWO DOTS PUNCTUATIONzeRING OVER TWO RINGS PUNCTUATIONzjRANGE CIRCLEgDIAMONDhSQUARE
nPURPLE CIRCLEgSQUAREnRED CIRCLEgSQUAREkTRIPLE VERTICAL BAR OPERATOR
zcWO DOTS OVER ONE DOT PUNCTUATIONzeRINGS OVER ONE RING PUNCTUATIONzkUP TACKhYELLOW CIRCLEgSQUARE
oR THANa OR EQUAL TOuI SIGNhST QUARTER MOONa SYMBOLgWITH FACEzTIN CAPITAL LETTER Aa WITH ACUTE
fBREVEa AND ACUTEfDOT BELOWjGRAVEfHOOK ABOVEkTILDEpCARONeIRCUMFLEXa AND ACUTEfDOT BELOWjGRAVE
fHOOK ABOVEkTILDEuDIAERESISa AND MACRONtOT ABOVEa AND MACRONqBELOWhUBLE GRAVEmGRAVEfHOOK ABOVE
kINVERTED BREVEoMACRONgOGONEKgRING ABOVEa AND ACUTEpBELOWkSTROKEgTILDElAbEa WITH ACUTEfMACRON
nFRICAN DiLPHAeNGLICANA WkObUbVa WITH HORIZONTAL BARvYcBa WITH DOT ABOVEfBELOWjFLOURISHiHOOK
eLINE BELOWkSTROKEgTOPBARmETAdROKEN LiCa WITH ACUTEfBARdCARONeEDILLAa AND ACUTEqIRCUMFLEXkDOT ABOVE
jHOOKePALATAL HOOKmSTROKEmHIcLOSED INSULAR GpONcUATRILLOa WITH COMMAuDa WITH CARONeEDILLA
gIRCUMFLEX BELOWqDOT ABOVEfBELOWjHOOKeLINE BELOWkSHORT STROKE OVERLAYtMALL LETTER Za WITH CARON
yTROKEgTOPBARmZa WITH CARONnEa WITH ACUTEfBREVEfCARONeEDILLAa AND BREVEqIRCUMFLEXa AND ACUTE
fDOT BELOWjGRAVEfHOOK ABOVEkTILDEjBELOWqDIAERESISiOT ABOVEfBELOWhUBLE GRAVEmGRAVEfHOOK ABOVE
kINVERTED BREVEoMACRONa AND ACUTEfGRAVEqOGONEKgSTROKEgTILDEa BELOWrGYPTOLOGICAL AINcLEFrNGcSHcTaH
cZHa REVERSEDiWITH CARONoFa WITH DOT ABOVEjHOOKeSTROKEnGa WITH ACUTEfBREVEfCARONeEDILLAgIRCUMFLEX
kDOT ABOVEjHOOKeMACRONgOBLIQUE STROKEoSTROKEmAMMAeHAcLOTTAL AbIbSTOPeUjHa WITH BREVE BELOWlCARON
eEDILLAgIRCUMFLEXkDESCENDERiIAERESISiOT ABOVEfBELOWjHOOKeSTROKEmALF HfENGdWAIRfIa WITH ACUTEfBREVE
fCARONeIRCUMFLEXkDIAERESISa AND ACUTEsOT ABOVEfBELOWhUBLE GRAVEmGRAVEfHOOK ABOVEkINVERTED BREVE
oMACRONgOGONEKgSTROKEgTILDEa BELOWrNSULAR DbFbGbRbSbTiOTAdScJa WITH CIRCUMFLEXjROSSED-TAILmSTROKEnK
a WITH ACUTEfCARONeEDILLAhDESCENDERiIAGONAL STROKEoOT BELOWjHOOKeLINE BELOWkOBLIQUE STROKEoSTROKE
a AND DIAGONAL STROKEziLa WITH ACUTEfBARcELTeCARONeEDILLAgIRCUMFLEX BELOWqDOT BELOWa AND MACRON
sUBLE BARkHIGH STROKElLINE BELOWkMIDDLE DOTdTILDEmSMALL LETTER JnTROKEmJcMa WITH ACUTEfDOT ABOVE
fBELOWjHOOKkIDDLE SCOTS Si-WELSH LLcVoNa WITH ACUTEfCARONeEDILLAgIRCUMFLEX BELOWqDESCENDERiOT ABOVE
fBELOWjGRAVEfLEFT HOOKiINE BELOWjONG RIGHT LEGoOBLIQUE STROKEoSMALL LETTER JoTILDElJcOa WITH ACUTE
fBREVEfCARONeIRCUMFLEXa AND ACUTEfDOT BELOWjGRAVEfHOOK ABOVEkTILDEuDIAERESISa AND MACRONtOT ABOVE
a AND MACRONqBELOWhUBLE ACUTEfGRAVEmGRAVEfHOOK ABOVEiRNa AND ACUTEfDOT BELOWjGRAVEfHOOK ABOVEkTILDE
oINVERTED BREVEoLONG STROKE OVERLAYrOPeMACRONa AND ACUTEfGRAVEpIDDLE TILDEmOGONEKa AND MACRON
rSTROKEa AND ACUTEqTILDEa AND ACUTEfDIAERESISjMACRONwIbLD POLISH OlMEGAeObPEN EbOfUcPa WITH ACUTE
fDOT ABOVEjFLOURISHiHOOKeSQUIRREL TAILmTROKEa THROUGH DESCENDERzgQa WITH DIAGONAL STROKE
pSTROKE THROUGH DESCENDERzgRa ROTUNDAhWITH ACUTEfCARONeEDILLAhDOT ABOVEfBELOWa AND MACRON
sUBLE GRAVEmINVERTED BREVEoLINE BELOWkOBLIQUE STROKEoSTROKEgTAILkEVERSED C WITH DOTkEbHALF HgOPEN E
oUM ROTUNDAlSa WITH ACUTEa AND DOT ABOVEtCARONa AND DOT ABOVEsEDILLAgIRCUMFLEXjOMMA BELOWlDOT ABOVE
fBELOWa AND DOT ABOVExHOOKeOBLIQUE STROKEoSHORT STROKE OVERLAYtWASH TAILqALTILLOhCHWAdRIPT GhHARP S
gIGMOID SiMALL CAPITAL IjQ WITH HOOK TAILwTa WITH CARONeEDILLAgIRCUMFLEX BELOWpOMMA BELOW
lDIAGONAL STROKEoOT ABOVEfBELOWjHOOKeLINE BELOWkRETROFLEX HOOKoSTROKEmHORNa WITH STROKE
a THROUGH DESCENDERzjONE FIVEeSIXdTWOhRESILLOhURNED AaLPHAfHbINSULAR GjKbLbMbTbVhZcUa BAR
dWITH ACUTEfBREVEfCARONeIRCUMFLEXa BELOWqDIAERESISa AND ACUTEfCARONfGRAVEfMACRONkBELOWoOT BELOW
hUBLE ACUTEfGRAVEmGRAVEfHOOK ABOVEiRNa AND ACUTEfDOT BELOWjGRAVEfHOOK ABOVEkTILDEoINVERTED BREVE
oMACRONa AND DIAERESISuOGONEKgRING ABOVEkSTROKEgTILDEa AND ACUTEjBELOWrPSILONhV
a WITH DIAGONAL STROKEoOT BELOWjHOOKeTILDElENDdISIGOTHIC ZlOLAPUK AEcOEcUEjYcWa WITH ACUTE
fCIRCUMFLEXkDIAERESISiOT ABOVEfBELOWjGRAVEfHOOKkYNNeXa WITH DIAERESISiOT ABOVEqYa WITH ACUTE
fCIRCUMFLEXkDIAERESISiOT ABOVEfBELOWjGRAVEfHOOKa ABOVEkLOOPeMACRONgSTROKEgTILDElOGHeZa WITH ACUTE
fCARONeIRCUMFLEXkDESCENDERiOT ABOVEfBELOWjHOOKeLINE BELOWkPALATAL HOOKmSTROKEfWASH TAILxIGATURE IJ
cOEsROSSfEPIGRAPHIC LETTER ARCHAIC MjI LONGAgNVERTED MkREVERSED FbPkSIDEWAYS IzdLETTER AIN
cLVEOLAR CLICKoBIDENTAL PERCUSSIVErLABIAL CLICKfPERCUSSIVEtDENTAL CLICKmGLOTTAL STOPa WITH STROKE
yINVERTED GLOTTAL STOPa WITH CURLeSTROKEziLATERAL CLICKnPHARYNGEAL VOICED FRICATIVE
zcRETROFLEX CLICKa WITH RETROFLEX HOOKziVERSED ESH LOOPiGLOTTAL STOP WITH STROKEziSINOLOGICAL DOT
oMALL CAPITAL AaEcBaARRED BiCbDbEaTHcZHdFbGa WITH HOOKlHbIaNVERTED RkJbKbLa WITH BELTeSTROKEnMbNbO
aEbPEN OfUcPbQbRa WITH RIGHT LEGpEVERSED NbRjUMdSbTaURNED EbGbKbMbRiUbVbWbYbZoTRETCHED Ca WITH CURL
vTWO WITH STROKEpVOICED LARYNGEAL SPIRANTyWYNNeYRjSMALL CAPITAL LETTER I WITH STROKEnU WITH STROKE
zdLETTER Aa REVERSED-SCHWAoWITH ACUTEfBREVEa AND ACUTEfDOT BELOWjGRAVEfHOOK ABOVEkTILDEpCARON
eIRCUMFLEXa AND ACUTEfDOT BELOWjGRAVEfHOOK ABOVEkTILDEuDIAERESISa AND MACRONtOT ABOVEa AND MACRON
qBELOWhUBLE GRAVEmGRAVEfHOOK ABOVEkINVERTED BREVEoMACRONgOGONEKgRETROFLEX HOOKnIGHT HALF RING
nNG ABOVEa AND ACUTEpBELOWkSTROKEgTILDElAbEa WITH ACUTEfMACRONnLPHAa WITH RETROFLEX HOOKyNGLICANA W
kObUbVa WITH HORIZONTAL BARvYcBa WITH DOT ABOVEfBELOWjFLOURISHiHOOKeLINE BELOWkMIDDLE TILDE
mPALATAL HOOKmSTROKEgTOPBARmARRED ALPHAfEbOgSELINE ESHlETAdLACKLETTER EbOa WITH STROKEyOTTOM HALF O
mROKEN LiCa WITH ACUTEfBARdCARONeEDILLAa AND ACUTEqIRCUMFLEXjURLeDOT ABOVEjHOOKePALATAL HOOK
mRETROFLEX HOOKoSTROKEmHIa WITH LOW LEFT SERIFkRIGHT RINGwLOSED INSULAR GjOMEGAePEN E
gREVERSED OPEN EvONcUATRILLOa WITH COMMAuDa WITH CARONeEDILLAgIRCUMFLEX BELOWpURLeDOT ABOVEfBELOW
jHOOKa AND TAILnLINE BELOWkMIDDLE TILDEmPALATAL HOOKmSHORT STROKE OVERLAYtTROKEgTAILdOPBAR
mB DIGRAPHjELTAdZH DIGRAPHa WITH PALATAL HOOKmRETROFLEX HOOKzgOTLESS IbJa WITH STROKEa AND HOOK
zdUBLE Ra WITH CROSSED-TAILtTHORNfWYNNkUMcZa DIGRAPHa WITH CURLeRETROFLEX HOOKzcWITH CARONnE
a WITH ACUTEfBREVEfCARONeEDILLAa AND BREVEqIRCUMFLEXa AND ACUTEfDOT BELOWjGRAVEfHOOK ABOVEkTILDE
jBELOWqDIAERESISiOT ABOVEfBELOWhUBLE GRAVEmFLOURISHiGRAVEfHOOK ABOVEkINVERTED BREVEoMACRON
a AND ACUTEfGRAVEqNOTCHfOGONEKgRETROFLEX HOOKoSTROKEgTILDEa BELOWrGYPTOLOGICAL AINcLEFrNG
a WITH CROSSED-TAILmPALATAL HOOKuSHa WITH CURLeDOUBLE BARa AND CURLtPALATAL HOOKmRETROFLEX HOOKwTaH
cZHa REVERSEDiWITH CARONeURLePALATAL HOOKmRETROFLEX HOOKoTAILnFa WITH DOT ABOVEjHOOKeMIDDLE TILDE
mPALATAL HOOKmSTROKEmENG DIGRAPHa WITH TRILLxGa WITH ACUTEfBREVEfCARONeEDILLAgIRCUMFLEXkDOT ABOVE
jHOOKeMACRONgOBLIQUE STROKEoPALATAL HOOKmSTROKEmAMMAeHAcLOTTAL AbIbSTOPeUjHa WITH BREVE BELOWlCARON
eEDILLAgIRCUMFLEXkDESCENDERiIAERESISiOT ABOVEfBELOWjHOOKeLINE BELOWkPALATAL HOOKmSTROKEmALF HfENG
a WITH HOOKnVcIa WITH ACUTEfBREVEfCARONeIRCUMFLEXkDIAERESISa AND ACUTEsOT BELOWhUBLE GRAVEmGRAVE
fHOOK ABOVEkINVERTED BREVEoMACRONgOGONEKgRETROFLEX HOOKoSTROKEa AND RETROFLEX HOOKzTILDEa BELOW
rNSULAR DbFbGbRbSbThVERTED ALPHAfOEkOTAa WITH STROKEnIFIED EjScJa WITH CARONeIRCUMFLEXjROSSED-TAIL
mSTROKEnKa WITH ACUTEfCARONeEDILLAhDESCENDERiIAGONAL STROKEoOT BELOWjHOOKeLINE BELOWkOBLIQUE STROKE
oPALATAL HOOKmSTROKEa AND DIAGONAL STROKEzhRAdLa WITH ACUTEfBARcELTa AND PALATAL HOOKvCARONeEDILLA
gIRCUMFLEX BELOWpURLeDOT BELOWa AND MACRONsUBLE BARdMIDDLE TILDEtFISHHOOKiHIGH STROKE
lINVERTED LAZY SpLINE BELOWkMIDDLE DOTdRINGeTILDEmPALATAL HOOKmRETROFLEX HOOKa AND BELTxSTROKE
mAMBDA WITH STROKErENIS FfZHa WITH RETROFLEX HOOKxJbONG Sa WITH DIAGONAL STROKEoOT ABOVE
jHIGH STROKEwS DIGRAPHjUMcZ DIGRAPHkMa WITH ACUTEfCROSSED-TAILmDOT ABOVEfBELOWjHOOKeMIDDLE TILDE
mPALATAL HOOKsIDDLE SCOTS Si-WELSH LLcVnUMdNa PRECEDED BY APOSTROPHEwWITH ACUTEfCARONeEDILLA
gIRCUMFLEX BELOWpROSSED-TAILlURLeDESCENDERiOT ABOVEfBELOWjGRAVEfLEFT HOOKiINE BELOWjONG RIGHT LEG
oMIDDLE TILDEmOBLIQUE STROKEoPALATAL HOOKmRETROFLEX HOOKoTILDElJbUMdOa WITH ACUTEfBREVEfCARON
eIRCUMFLEXa AND ACUTEfDOT BELOWjGRAVEfHOOK ABOVEkTILDEuDIAERESISa AND MACRONtOT ABOVEa AND MACRON
qBELOWhUBLE ACUTEfGRAVEmGRAVEfHOOK ABOVEiRNa AND ACUTEfDOT BELOWjGRAVEfHOOK ABOVEkTILDE
oINVERTED BREVEoLONG STROKE OVERLAYrOPcW RING INSIDEpMACRONa AND ACUTEfGRAVEqOGONEKa AND MACRON
rRETROFLEX HOOKoSTROKEa AND ACUTEqTILDEa AND ACUTEfDIAERESISjMACRONwIbLD POLISH OlMEGAeObPEN E
a WITH RETROFLEX HOOKvOa WITH RETROFLEX HOOKoSTROKEmEgUcPa WITH ACUTEfDOT ABOVEjFLOURISHiHOOK
eMIDDLE TILDEmPALATAL HOOKmSQUIRREL TAILmTROKEa THROUGH DESCENDERzfHIdQa WITH DIAGONAL STROKEpHOOK
a TAILjSTROKE THROUGH DESCENDERzfP DIGRAPHkRa ROTUNDAhWITH ACUTEfCARONeEDILLAgROSSED-TAILmDOT ABOVE
fBELOWa AND MACRONsUBLE GRAVEmFISHHOOKa AND MIDDLE TILDEmPALATAL HOOKzINVERTED BREVEoLINE BELOW
jONG LEGiMIDDLE TILDEmOBLIQUE STROKEoPALATAL HOOKmSTROKEgTAILfOUT HANDLEpAMS HORNiEVERSED C
a WITH DOTkEaNGdHALF HgKbOPEN Ea WITH HOOKeRETROFLEX HOOKzbR WITH FISHHOOKpSCRIPT GqUMa ROTUNDAlS
a WITH ACUTEa AND DOT ABOVEtCARONa AND DOT ABOVEsEDILLAgIRCUMFLEXjOMMA BELOWkURLeDOT ABOVEfBELOW
a AND DOT ABOVExHOOKeMIDDLE TILDEmOBLIQUE STROKEoPALATAL HOOKmSHORT STROKE OVERLAYtWASH TAIL
qAKHA YAThLTILLOhCHWAa WITH HOOKeRETROFLEX HOOKxRIPT Ga WITH CROSSED-TAILtRa WITH RINGrHARP S
gIDEWAYS DIAERESIZED UnOa WITH STROKEmPEN OgTURNED MiUiGMOID SiQUAT REVERSED ESHrTIRRUP RjT
a WITH CARONeEDILLAgIRCUMFLEX BELOWpOMMA BELOWkURLeDIAERESISgGONAL STROKEoOT ABOVEfBELOWjHOOK
a AND RETROFLEX HOOKxLINE BELOWkMIDDLE TILDEmPALATAL HOOKmRETROFLEX HOOKoSTROKEmAILLESS PHI
lC DIGRAPH WITH CURLtESH DIGRAPHa WITH PALATAL HOOKmRETROFLEX HOOKzgH WITH STRIKETHROUGHtORN
a WITH STROKEa THROUGH DESCENDERzjONE FIVEeSIXdTWOgP HALF OjRESILLOhS DIGRAPHa WITH RETROFLEX HOOK
zeUMbRNED AaEbLPHAfDELTAfEbGbHa WITH FISHHOOKa AND TAILyIaNSULAR GjKbLbMa WITH LONG LEGpO OPEN-O
a WITH STROKEtEa WITH HORIZONTAL STROKErSTROKEnPEN EgRa WITH HOOKeLONG LEGa AND RETROFLEX HOOK
zcMIDDLE TILDEmPALATAL HOOKmTAILlTa WITH CURLlUIcVbWbYa WITH BELTrZcUa BARa WITH SHORT RIGHT LEG
yWITH ACUTEfBREVEfCARONeIRCUMFLEXa BELOWqDIAERESISa AND ACUTEfCARONfGRAVEfMACRONkBELOWoOT BELOW
hUBLE ACUTEfGRAVEmGRAVEfHOOK ABOVEiRNa AND ACUTEfDOT BELOWjGRAVEfHOOK ABOVEkTILDEoINVERTED BREVE
oLEFT HOOKjMACRONa AND DIAERESISuOGONEKgRETROFLEX HOOKnING ABOVEkSHORT RIGHT LEGoTROKEgTILDE
a AND ACUTEjBELOWrEbIbMbObPSILONa WITH STROKEtVa WITH CURLeDIAGONAL STROKEoOT BELOWjHOOK
ePALATAL HOOKmRIGHT HOOKkTILDElENDdISIGOTHIC ZlOLAPUK AEcOEcUEjYcWa WITH ACUTEfCIRCUMFLEXkDIAERESIS
iOT ABOVEfBELOWjGRAVEfHOOKeRING ABOVErXa WITH DIAERESISiOT ABOVEjLONG LEFT LEGa AND LOW RIGHT RING
sWITH SERIFwW RIGHT RINGoPALATAL HOOKtYa WITH ACUTEfCIRCUMFLEXkDIAERESISiOT ABOVEfBELOWjGRAVEfHOOK
a ABOVEkLOOPeMACRONgRING ABOVEkSHORT RIGHT LEGoTROKEgTILDElOGHeZa WITH ACUTEfCARONeIRCUMFLEXjURL
eDESCENDERiOT ABOVEfBELOWjHOOKeLINE BELOWkMIDDLE TILDEmPALATAL HOOKmRETROFLEX HOOKoSTROKEfWASH TAIL
xIGATURE FFaIbLcIbLcIJcLONG S TiOEcSTqUBSCRIPT SMALL LETTER AbEbHbIbJbKbLbMbNbObPbRbSaCHWAfTbUbVbX
zeEAF FLUTTERING IN WINDtY GREENjDGEReFT AND LOWER AND RIGHT TRIANGULAR THREE QUARTERS BLOCK
zqONE EIGHTH BLOCKwRIGHT DOUBLE TURNSTILEqTACKdRIANGULAR HALF BLOCK
zcUPPER AND RIGHT TRIANGULAR THREE QUARTERS BLOCKzqONE EIGHTH BLOCKyGER BUBBLEjLE BRACKETa WITH DOT
vRC LESS-THAN BRACKETtROW WITH CIRCLED PLUSmSMALL CIRCLExBARB DOWN RIGHT BARB DOWN HARPOON
mUP HARPOONzbUP RIGHT BARB DOWN HARPOONmUP HARPOONzdLACK LENTICULAR BRACKETsTORTOISE SHELL BRACKET
zdCEILINGgLOSED ENTRYlORNER BRACKETnURLY BRACKETa LOWER HOOKkMIDDLE PIECEmUPPER HOOK
yDOTTED SUBSTITUTION BRACKETzUBLE ANGLE BRACKETnPARENTHESISlQUOTATION MARKoWIGGLY FENCEtFISH TAIL
hVE EIGHTHS BLOCKrLOORfHALF BLACK CIRCLEgSTARiOCKfCIRCLEa WITH DOTdFOUR DOTSjTHREE DOTSjWO DOTS
uFOLDERgINVERSE MEDIUM SHADE AND RIGHT HALF BLOCKzqMEDIUM SHADEmRUNNING MANoND TELEPHONE RECEIVER
xLOW PARAPHRASE BRACKETvUGGAGEhMULTIMAPiNORMAL FACTOR SEMIDIRECT PRODUCTzhONE EIGHTH BLOCK
mQUARTER BLOCKqUTER JOINkPARENTHESISa EXTENSIONjLOWER HOOKkUPPER HOOKwRAISED OMISSION BRACKET
wIGHT ARROWa THROUGH SMALL CIRCLEuWITH DOUBLE VERTICAL STROKEwSTROKEgVERTICAL STROKEzbBLACK ARROW
lDOUBLE ARROWa WITH STROKEgVERTICAL STROKEziOPEN-HEADED ARROWrSANS-SERIF ARROW
qTRIANGLE-HEADED ARROWvWAVE ARROWjHITE ARROWrS-SHAPED BAG DELIMITERvEMIDIRECT PRODUCT
qVEN EIGHTHS BLOCKsIDEWAYS U BRACKETqNGLE QUOTATION MARKuPEECH BUBBLEmQUARE BRACKETa EXTENSION
jLOWER CORNERmUPPER CORNERmWITH DOUBLE STROKEnQUILLfSTROKEgTICK IN BOTTOM CORNERnTOP CORNER
sUNDERBARzcUBSTITUTION BRACKETuTACKdHIRD WHITE RIGHT POINTING INDEXzfOUGHT BUBBLEmREE EIGHTHS BLOCK
nQUARTERS BLOCKtORTOISE SHELL BRACKETvRANSPOSITION BRACKETtIANGLE BESIDE VERTICAL BAR
wULAR ONE QUARTER BLOCKzdVERTICAL BAR WITH QUILLnOX LINErWHITE CORNER BRACKETnURLY BRACKET
nLENTICULAR BRACKETsPARENTHESISlSQUARE BRACKEToTORTOISE SHELL BRACKETzcIGGLY FENCElRITING HAND
n-FACING ARMENIAN ETERNITY SIGNwFISTeSVASTI SIGNa WITH DOTSzdHANDED INTERLACED PENTAGRAM
zcPOINTING ANGLE BRACKETnCURVED ANGLE BRACKETuDOUBLE ANGLE QUOTATION MARKzcMAGNIFYING GLASS
zSHADED WHITE RIGHTWARDS ARROWzdIDE ARC ANTICLOCKWISE ARROWzdTO-RIGHT EMBEDDINGjISOLATEhMARK
eOVERRIDEsWARDS ARROWa ABOVE ALMOST EQUAL TOpREVERSE ALMOST EQUAL TOpTILDE OPERATOR
wSHORT RIGHTWARDS ARROWwTILDE OPERATORtND UPPER AND LOWER ONE EIGHTH BLOCKzlFROM BAR
a TO BLACK DIAMONDzOVER RIGHTWARDS ARROWvTHROUGH LESS-THANjSUBSETgXiO BAR
a OVER RIGHTWARDS ARROW TO BARzgLACK DIAMONDqWITH DOTTED STEMjUBLE VERTICAL STROKE
wEQUILATERAL ARROWHEADvHOOKeLARGE TRIANGLE ARROWHEADxOOPeMEDIUM TRIANGLE ARROWHEADzNOTCHED TAIL
mPLUS BELOWkSMALL EQUILATERAL ARROWHEADvTRIANGLE ARROWHEADxTROKEgTAILa WITH DOUBLE VERTICAL STROKE
wVERTICAL STROKEyIP DOWNWARDSjUPWARDSlVERTICAL STROKEv-TAILkBACK-TILTED SHADOWED WHITE ARROW
zgLACK ARROWfCIRCLED WHITE ARROWyOTTOM-SHADED WHITE ARROWzCOMPRESSED ARROWqDASHED ARROWlOUBLE ARROW
a FROM BARiWITH STROKEgVERTICAL STROKEv-TAILkDASH ARROWrFINGER-POST ARROW
qRONT-TILTED SHADOWED WHITE ARROWziHANDcRPOON OVER RIGHTWARDS HARPOON
xWITH BARB DOWN ABOVE RIGHTWARDS HARPOON WITH BARB DOWNzoBELOW LONG DASHpFROM BARiTO BARhWARDS
jUP ABOVE LEFTWARDS HARPOON WITH BARB DOWNzgONG DASHjRIGHTWARDS HARPOON WITH BARB UPzmFROM BAR
iTO BARhWARDSyEAVY ARROWfCOMPRESSED ARROWwLEFT-SHADED WHITE ARROWxOPEN-HEADED ARROWrPAIRED ARROWS
nQUADRUPLE ARROWpRIGHT-SHADED WHITE ARROWxOCKETgSANS-SERIF ARROWpQUARED ARROWkIGGLE ARROW
oTOP SHADED WHITE ARROWvRIANGLE ARROWHEADk-HEADED ARROWa OVER RIGHTWARDS TRIANGLE-HEADED ARROW
zmTO BARgWITH BOLD SHAFTkDOUBLE HORIZONTAL STROKErVERTICAL STROKEwHEAVY SHAFTlLONG TIP DOWNWARDS
jUPWARDSqMEDIUM SHAFTmNARROW SHAFTmVERY HEAVY SHAFTzcDASHED ARROWmPAIRED ARROWSzbPLE ARROW
fDASH ARROWqWO HEADED ARROWn-HEADED ARROW FROM BARiWITH DOUBLE VERTICAL STROKEwTAIL
a WITH DOUBLE VERTICAL STROKEwVERTICAL STROKEyRIANGLE ARROWHEADStVERTICAL STROKEzbTRIPLE DASH ARROW
zdWAVE ARROWjHITE ARROWa WITHIN TRIANGLE ARROWHEADzuGbMONdOaPARDfPCHA CONSONANT SIGN KaANGeLbMbN
aYIN-DOhPbRbTqDIGIT EIGHTfFIVEdOUReNINEeONEdSEVENeIXdTHREEeWOdZEROkLETTER AbBAbLAdCAbHAdDAbDAcZAdFA
bLAdGAbLAdHAbLAdJAcKAbHAcLAdLAcMAbLAdNAbGAcYAdPAbHAcLAdRAcSAbHAdTAbHAcSAbHAdTAbHAeVAcWAcYA
jPUNCTUATION CER-WAgNYET THYOOM TA-ROLsTA-ROLfSHOOKa CER-WAzSIGN NUKTAfRANhUBJOINED LETTER RAcYA
tVOWEL SIGN AAcEbIbOaOcUaUsSS-THAN ABOVE DOUBLE-LINE EQUAL ABOVE GREATER-THAN
zlGREATER-THAN ABOVE DOUBLE-LINE EQUALzlLEFTWARDS ARROWpSIMILAR ABOVE GREATER-THANsOR EQUAL
pLANTED EQUAL ABOVE GREATER-THAN ABOVE SLANTED EQUALzzhND NOT APPROXIMATEpSINGLE-LINE NOT EQUAL TO
zdBUT NOT EQUAL TOfIVALENT TOvCLOSED BY CURVEa ABOVE SLANTED EQUALzkEQUAL TO OR GREATER-THAN
yOR APPROXIMATElEQUAL TOfIVALENT TOnGREATER-THANmSLANTED EQUAL TOa WITH DOT ABOVEa RIGHTlINSIDE
zjVER EQUAL TOnSIGNeWITH CIRCLE INSIDEnDOTdQUESTION MARK ABOVEzhVEL SLIDERlFbIBRA
dGATURE OPEN ET ORNAMENTwHT CHECK MARKkEIGHT SPOKED ASTERISKvFIVE POINTED BLACK STAR
sSPOKED ASTERISKtOUR POINTED BLACK CUSPeSTARxGREEK CROSSlLEFT TORTOISE SHELL BRACKET ORNAMENTzlRAIL
dIGHT TORTOISE SHELL BRACKET ORNAMENTzmSALTIREgHADEeIX SPOKED ASTERISKtTHREE POINTED BLACK STAR
xWELVE POINTED BLACK STARzVERTICAL BARmWHITE SQUAREnNINGa MOODa BUBBLEtMBU DIGIT EIGHTfFIVEdOUR
eNINEeONEdSEVENeIXdTHREEeWOdZEROkEXCLAMATION MARKqLETTER BAbHAdCAbHAdDAbHAdGAbHAcYANeHAcJAbHAdKAbHA
dLAcMAcNAbGAdPAbHAdRAcSAbHAcSAdTAbHAcRAdWAcYAaNkQUESTION MARKnSIGN KEMPHRENGjLOOdMUKPHRENGjSA-I
iMALL LETTER ANUSVARAiKAcLAcMAcNAbGAdPAcRAcTAoUBJOINED LETTER RAcWAcYAtVOWEL SIGN AaIbUcEaEcIbOaOcU
h-CARRIER LETTERxITED LIABILITY SIGNuNE FEEDeINTEGRATION NOT INCLUDING THE POLE
wWITH RECTANGULAR PATH AROUND POLEzdSEMICIRCULAR PATH AROUND POLEzvSEPARATORjTABULATIONa SET
pAR A SIGN A028Be100-102g20Bd31Ce301b2b3b4b5b6b7b8b9AbBbCd10b1b2b3AbBbCc4b5b6b7b8b9c20b1b2b3b4b5b6
b7b8b9c30b1b2b3b4b5b6b7b8b9c40b1b2b3b4b5b6b7b8b9c50b1b2b3b4b5b6b7b8b9c60b1b2b3b4b5b6b7b8b9c70b1
d400-VASf1-VASf2-VASf3-VASf4-VASf5-VASf6-VASf7-VASf8-VASf9-VASg10-VASf1-VASf2-VASf3-VASf4-VASf5-VAS
f6-VASf7-VASf8-VASh501b2b3b4b5b6b8b9c10b1b2b3b5b6c20b1b3b4b5b6b7b8b9c30b1b2b4b5b6b7b8b9c40b1b2b5b7
b8b9c50b1b2b3b4b5b6b7b9c63b4b5b6b8b9c70b1b2b3b4b5b6b7b8b9c80b1b2b3b4b5b6b7b8b9c91b2b4b5b6b8d600b1b2
b3b4b6b8b9c10b1b2b3b4b5b6b7b8b9c20b1b2b3b4b6b7b8b9c34b7b8c40b2b3b4b5b6b8b9c51b2b3b4b5b6b7b8b9c60b1
b2b3b4d701 Ad2 Bd3 Dd4 Ed5 Fd6 Hd7 Jd8 Kd9 Lc-2 L2e3 L3e4 L4e6 L6h10 Wd1 Xd2 Yd3 OMEGAh4 ABBf5 BB
e7 DDf26 EYYYh32 JEg800b1b2b3b4b5b6b7dB001b2b3b4b5b6b7b8b9c10b1b3b6b7c20b1aFbMc2aFbMc3aMc4b6b7b8b9
c30b1b4b7b8b9c40b1b4b5b6b7b8b9c50b1b3b4b5b6b7b8b9c60b1b5b6b7b9c70b3b4b6b7b8b9c80b1b2b5b6b7d118c20b2
b3c31AbBd64c71c80b8c91mB IDEOGRAM B100 MANf2 WOMANh4 DEERg5 EQUIDgF MAREgM STALLIONl6F EWEfM RAM
g7F SHE-GOATkM HE-GOATk8F SOWfM BOARh9F COWfM BULLi20 WHEATh1 BARLEYi2 OLIVEh3 SPICEh5 CYPERUS
k30 OILf1 WINEg2c40 BRONZEi1 GOLDg2b5 WOOLg6c50b1 HORNg2b3b4b7b8b9 CLOTHi60b1b2 GARMENTj3 ARMOURi4
b5b6b7b8b9c70b1b2b3 MONTHh4b6 TREEg7b8b9c80b1b2b3b4b5b9c90b1 HELMETk220 FOOTSTOOLl5 BATHTUB
k30 SPEARh1 ARROWh2b3 SWORDh4b6c40 WHEELED CHARIOTr1 CHARIOTj2 CHARIOT FRAMEp3 WHEELh5b6b8b9c51b2b3
b4 DARTg5b6b7b8b9eVESSEL B155d200b1b2b3b4b5b6b7b8b9c10b1b2b3b4b5b6b7b8b9c21b2b6b7b8b9c50d305
uMONOGRAM B127 KAPOg8 KANAKOj33 AREPAh5 MERIh56 TURO2j247 DIPTEtSYLLABLE B001 DAe2 ROe3 PAe4 TE
e5 TOe6 NAe7 DIe8 Ad9 SEf10 Ud1 POe2 SOe3 MEe4 DOe5 MOe6 QAe7 ZAf20 ZOe1 QIe3 MUe4 NEe5 A2e6 RU
e7 REe8 Id9 PU2g30 NIe1 SAe2 QOe3 RA3f6 JOe7 TIe8 Ed9 PIf40 WIe1 SIe2 WOe3 A3e4 KEe5 DEe6 JEe8 NWA
g50 PUe1 DUe2 NOe3 RIe4 WAe5 NUe7 JAe8 SUe9 TAf60 RAe1 Od2 PTEf5 JUe6 TA2f7 KIe8 RO2f9 TUf70 KO
e1 DWEf2 PEe3 MIe4 ZEe5 WEe6 RA2f7 KAe8 QEf80 MAe1 KUe5 AUe7 TWEg90 DWOf1 TWOpMBOL B018b9c22c34c47
b9c56c63b4c79c82b3b6b9rK SYMBOLhED PAPERCLIPSpON FACEhPSaTICKgRA SIGNhSU LETTER AaEcBAcCAbHAdDAbZA
dEaUcFAcGAbHAdHAbHAdIbJAcKAbHAdLAcMAcNAbGAdOaEcPAbHAdSAbHAdTAbHAcONE MYA BOcCYAdJEUdNAcTIgNA POjSA
bHAeUaEbHcWAcXAcYAbHAdZAbHAkPUNCTUATION COMMAfFULL STOPyVRE TOURNOIS SIGNrZARDfLAMAeOBSTERfCK
a WITH INK PENnING-SHIFT ONEdZEROqGICAL ANDa WITH DOT ABOVEhUBLE OVERBARhUNDERBARpHORIZONTAL DASH
pMIDDLE STEMlUNDERBARrORa OVERLAPPING LOGICAL ANDxWITH DOT ABOVEhUBLE OVERBARhUNDERBAR
pHORIZONTAL DASHpMIDDLE STEMzLLIPOPgNG DASH FROM LEFT MEMBER OF DOUBLE VERTICALzoIVISIONhRUM
eLEFT RIGHT ARROWfDOUBLE ARROWsTACKfWARDS ARROWa FROM BARoDOUBLE ARROWa FROM BARvSQUIGGLE ARROW
yRIGHT TACKfWARDS ARROWa FROM BARoDOUBLE ARROWa FROM BARvSQUIGGLE ARROWzdTION BOTTLEkUS
dUDLY CRYING FACEqVE HOTELfLETTERjW ASTERISKiBATTERYgRIGHTNESS SYMBOLrDOUBLE PRIME QUOTATION MARK
zcKAVYKAa WITH DOTpLINEfER BLADE SCISSORSoFIVE EIGHTHS BLOCKsHALF BLOCKfCIRCLEgINVERSE WHITE CIRCLE
uMEDIUM SHADErLEFT BALLPOINT PENmLOCK DIAGONAL LOWER MIDDLE LEFT TO LOWER CENTREgRIGHT
zhUPPER CENTRE TO LOWER MIDDLE RIGHTmRIGHTlUPPER MIDDLE RIGHTzdLEFT TO LOWER CENTREgMIDDLE RIGHT
sUPPER MIDDLE RIGHTzbMIDDLE LEFT TO LOWER CENTREgMIDDLE RIGHTmRIGHTzwCRAYONgFOUNTAIN PENmPAINTBRUSH
jENCILgQUADRANT CIRCULAR ARCvSEMICIRCULAR ANTICLOCKWISE ARROWzhTRIANGLEcULAR MEDIUM SHADE
zdONE EIGHTH BLOCKmQUARTER BLOCKrRIGHT BLOCK DIAGONAL LOWER CENTRE TO LOWER MIDDLE RIGHT
sUPPER MIDDLE RIGHTmRIGHTvLEFT TO LOWER MIDDLE RIGHTsUPPER CENTREgMIDDLE RIGHT
zbMIDDLE LEFT TO UPPER CENTREgMIDDLE RIGHTmRIGHTzhUPPER MIDDLE LEFT TO UPPER CENTREgRIGHT
zwCORNER WITH DOTpDROP-SHADOWED WHITE SQUAREzbPENCILgQUADRANT CIRCULAR ARC
vSEMICIRCULAR CLOCKWISE ARROWzcHADOWED WHITE CIRCLEgSQUAREvTRIANGLEcULAR MEDIUM SHADE
zeSEVEN EIGHTHS BLOCKtTHREE EIGHTHS BLOCKnQUARTERS BLOCKtRIANGULAR ONE QUARTER BLOCKzhZENGE
a DIVIDED BY HORIZONTAL RULEziREbIbMbOcUGGAGEfNGSeYCIAN LETTER AaNcBaHcDbEaNcGbHbIbJbKaKcLbMaMcNaN
cPbQbRbSbTaHbTcUbWbXbZnDIAN LETTER AaNcBbCbDbEaNcFbGbIbKbLaYcMbNaNcObQbRbSaScTaTcUbVbY
iTRIANGULAR MARKuING FACEkMACRONeGEbIC WANDhNETeHAJANI ABBREVIATION SIGNrLETTER AbBAbHAdCAbHAdDAbDA
bHAdHAdEbGAbHAdHAcIbJAbHAdKAbHAdLAcMAcNAbNAcYAdObPAbHAdRAbRAdSAcTAbHAcTAbHAeUbVAiIGATURE SHRI
nSECTION MARKlIGN NUKTAqJONG TILE AUTUMNgBACKcMBOOgCHRYSANTHEMUMnEAST WINDiIGHT OF BAMBOOS
hCHARACTERSjIRCLESqFIVE OF BAMBOOShCHARACTERSjIRCLESoOUR OF BAMBOOShCHARACTERSjIRCLESpGREEN DRAGON
mJOKERfNINE OF BAMBOOShCHARACTERSjIRCLESoORTH WINDkONE OF BAMBOOShCHARACTERSjIRCLESnRCHIDgPLUM
eRED DRAGONkSEVEN OF BAMBOOShCHARACTERSjIRCLESpIX OF BAMBOOShCHARACTERSjIRCLESnOUTH WINDjPRING
fUMMERgTHREE OF BAMBOOShCHARACTERSjIRCLESpWO OF BAMBOOShCHARACTERSjIRCLESoWEST WINDiHITE DRAGON
lINTERrKASAR ANGKAfEND OF SECTIONoLETTER AbBAcCAcDAcGAcJAcKAcLAcMAcNAbGAcYAdPAcRAcSAcTAcVAcYA
jPASSIMBANGkVOWEL SIGN EbIbObUsLAYALAM AU LENGTH MARKoDATE MARKiIGIT EIGHTfFIVEdOUReNINEeONEdSEVEN
eIXdTHREEeWOdZEROkFRACTION ONE EIGHTHgFIFTHeORTIETHiHALFeONE-HUNDRED-AND-SIXTIETHyQUARTERhSIXTEENTH
jTENTHeWENTIETHnTHREE EIGHTIETHSkQUARTERSiSIXTEENTHSkTWENTIETHSzLETTER AaAbIbRCHAIC IIjUcBAbHAdCA
bHAbILLU KbLaLaLdMbNaNcRRcYiDAbDAbHAdHAcOT REPHiEaEcGAbHAdHAcIaIcJAbHAdKAbHAdLAbLAbLAeMAcNAbGAcNA
bNAdYAdOaOcPAbHAdRAbRAdSAbHAcSAdTAbHAcTAbHAcTAeUaUcVAbEDIC ANUSVARAnOCALIC LaLcRaRkYA
jNUMBER ONE HUNDREDhTHOUSANDmTENkSIGN ANUSVARAhVAGRAHAiCANDRABINDUkIRCULAR VIRAMA
oOMBINING ANUSVARA ABOVEyPARAeVERTICAL BAR VIRAMAsIRAMAeSARGAmVOWEL SIGN AAbIbUcEaEcIaIcOaOcUaU
cVOCALIC LaLcRaRzdE AND FEMALE SIGNpSIGNeWITH STROKE AND MALE AND FEMALE SIGNySIGNsTESE CROSSlMMOTH
fNa AND WOMAN HOLDING HANDSxDANCINGhIN BUSINESS SUIT LEVITATINGyTUXEDOjWITH GUA PI MAOkTURBAN
mAT SIGNhDAIC AFFRICATION MARKqGEMINATION MARKpLETTER ABbDbGbHbINcKaSAdLbMbNbPbQbRbSaHbZcTaTcZ
cDUSHENNAiHALQAfINbTcKADdUSHENNAoPUNCTUATIONlVOCALIZATION MARKwGOcICHAEAN ABBREVIATION MARK ABOVE
fBELOWxLETTER AAYINeLEPHeYINeBETHdHETHfDALETHfHAMEDHhFEcGHIMELfIMELfHEaTHeJAYINeHAYINgKAPHdHAPH
fLAMEDHgMEMdNUNdPEcQHOPHeOPHeRESHeSADHEdMEKHfHINdSHINfTAWcETHdHAMEDHhWAWdXAPHdOPHeYODHeZAYINeHAYIN
nNUMBER FIVEeONEa HUNDREDlTENcWENTYnPUNCTUATION DOTa WITHIN DOTmUBLE DOT WITHIN DOTvFLEURON
hLINE FILLERlSTAReTWO DOTSuSIGN UDpS SHOEgTELPIECE CLOCKoUAL WHEELCHAIRpP SYMBOL FOR LIGHTHOUSE
wLE LEAFiRCHEN HEAD MARKjLETTER -AcAbBAcCAbHAdDAbZAdGAcHAcJAcKAbHAdLAcMAcNAbGAcYAdPAbHAdRAcSAbHAdTA
bHAcSAbHAeWAcYAcZAbHAkMARK SHADjSIGN ANUSVARAiCANDRABINDUpUBJOINED LETTER AbBAcCAbHAdDAbZAdGAcHAcJA
cKAbHAdLAcMAcNAbGAcYAdPAbHAdRAcSAbHAdTAbHAcSAbHAeWAcYAcZAbHAuVOWEL SIGN AAcEbIbObUrRIAGE SYMBOL
mTIAL ARTS UNIFORMsSARAM GONDI DIGIT EIGHTfFIVEdOUReNINEeONEdSEVENeIXdTHREEeWOdZEROkLETTER AaAbIbU
cBAbHAdCAbHAdDAbDAbHAdHAdEbGAbHAdHAcIaIcJAbHAcNYAeKAbHAcSSAeLAbLAdMAcNAbGAcNAcYAdObPAbHAdRAcSAbHA
cSAdTAbHAcRAcTAbHAeUaUcVAcYAjRA-KARAgEPHAfSIGN ANUSVARAiCANDRAgHALANTAhNUKTAfVISARGAmVIRAMA
fOWEL SIGN AAbIbUcEbIaIcObUaUcVOCALIC RzgCULINE ORDINAL INDICATORyK WORK SYMBOLnU MARKhTE DRINK
hHEMATICAL BOLD CAPITAL AaLPHAfBaETAeCaHIdDaELTAeIGAMMAhEaPSILONgTAdFbGaAMMAfHbIaOTAeJbKaAPPAfL
aAMDAfMaUcNaUcOaMEGAdICRONhPaHIcIbSIdQbRaHOdSaIGMAfTaAUcHETAa SYMBOLmUaPSILONhVbWbXaIcYbZaETA
mDIGIT EIGHTfFIVEdOUReNINEeONEdSEVENeIXdTHREEeWOdZEROkEPSILON SYMBOLoFRAKTUR CAPITAL AbBbCbDbEbFbG
bHbIbJbKbLbMbNbObPbQbRbSbTbUbVbWbXbYbZjSMALL AbBbCbDbEbFbGbHbIbJbKbLbMbNbObPbQbRbSbTbUbVbWbXbYbZ
pITALIC CAPITAL AaLPHAfBaETAeCaHIdDaELTAfEaPSILONgTAdFbGaAMMAfHbIaOTAeJbKaAPPAfLaAMDAfMaUcNaUcO
aMEGAdICRONhPaHIcIbSIdQbRaHOdSaIGMAfTaAUcHETAa SYMBOLmUaPSILONhVbWbXaIcYbZaETAmEPSILON SYMBOL
oKAPPA SYMBOLmNABLAfPARTIAL DIFFERENTIALtHI SYMBOLjI SYMBOLjRHO SYMBOLkSMALL AaLPHAfBaETAeCaHIdD
aELTAfEaPSILONgTAdFaINAL SIGMAlGaAMMAfHbIaOTAeJbKaAPPAfLaAMDAfMaUcNaUcOaMEGAdICRONhPaHIcIbSIdQbRaHO
dSaIGMAfTaAUcHETAfUaPSILONhVbWbXaIcYbZaETAkTHETA SYMBOLtKAPPA SYMBOLmNABLAfPARTIAL DIFFERENTIAL
tHI SYMBOLjI SYMBOLjRHO SYMBOLkSCRIPT CAPITAL AbBbCbDbEbFbGbHbIbJbKbLbMbNbObPbQbRbSbTbUbVbWbXbYbZ
jSMALL AbBbCbDbEbFbGbHbIbJbKbLbMbNbObPbQbRbSbTbUbVbWbXbYbZnMALL AaLPHAfBaETAeCaHIdDaELTAeIGAMMAhE
aPSILONgTAdFaINAL SIGMAlGaAMMAfHbIaOTAeJbKaAPPAfLaAMDAfMaUcNaUcOaMEGAdICRONhPaHIcIbSIdQbRaHOdSaIGMA
fTaAUcHETAfUaPSILONhVbWbXaIcYbZaETAkTHETA SYMBOLrDOUBLE-STRUCK CAPITAL AbBbDbEbFbGbIbJbKbLbMbObSbT
bUbVbWbXbYjDIGIT EIGHTfFIVEdOUReNINEeONEdSEVENeIXdTHREEeWOdZEROkSMALL AbBbCbDbEbFbGbHbIbJbKbLbMbNbO
bPbQbRbSbTbUbVbWbXbYbZvFALLING DIAGONALpRAKTUR CAPITAL AbBbDbEbFbGbJbKbLbMbNbObPbQbSbTbUbVbWbXbY
jSMALL AbBbCbDbEbFbGbHbIbJbKbLbMbNbObPbQbRbSbTbUbVbWbXbYbZpITALIC CAPITAL AaLPHAfBaETAeCaHIdDaELTA
fEaPSILONgTAdFbGaAMMAfHbIaOTAeJbKaAPPAfLaAMDAfMaUcNaUcOaMEGAdICRONhPaHIcIbSIdQbRaHOdSaIGMAfTaAU
cHETAa SYMBOLmUaPSILONhVbWbXaIcYbZaETAmEPSILON SYMBOLoKAPPA SYMBOLmNABLAfPARTIAL DIFFERENTIAL
tHI SYMBOLjI SYMBOLjRHO SYMBOLkSMALL AaLPHAfBaETAeCaHIdDaELTAeOTLESS IbJjEaPSILONgTAdFaINAL SIGMAlG
aAMMAfIaOTAeJbKaAPPAfLaAMDAfMaUcNaUcOaMEGAdICRONhPaHIcIbSIdQbRaHOdSaIGMAfTaAUcHETAfUaPSILONhVbWbXaI
cYbZaETAkTHETA SYMBOLtLEFT ANGLE BRACKETnDOUBLE ANGLE BRACKETuFLATTENED PARENTHESIS
vWHITE SQUARE BRACKEToTORTOISE SHELL BRACKETziMONOSPACE CAPITAL AbBbCbDbEbFbGbHbIbJbKbLbMbNbObPbQbR
bSbTbUbVbWbXbYbZjDIGIT EIGHTfFIVEdOUReNINEeONEdSEVENeIXdTHREEeWOdZEROkSMALL AbBbCbDbEbFbGbHbIbJbKbL
bMbNbObPbQbRbSbTbUbVbWbXbYbZrRIGHT ANGLE BRACKETnDOUBLE ANGLE BRACKETuFLATTENED PARENTHESIS
vWHITE SQUARE BRACKEToTORTOISE SHELL BRACKETzhSING DIAGONALpSANS-SERIF BOLD CAPITAL AaLPHAfBaETAeC
aHIdDaELTAfEaPSILONgTAdFbGaAMMAfHbIaOTAeJbKaAPPAfLaAMDAfMaUcNaUcOaMEGAdICRONhPaHIcIbSIdQbRaHOdS
aIGMAfTaAUcHETAa SYMBOLmUaPSILONhVbWbXaIcYbZaETAmDIGIT EIGHTfFIVEdOUReNINEeONEdSEVENeIXdTHREEeWO
dZEROkEPSILON SYMBOLoITALIC CAPITAL AaLPHAfBaETAeCaHIdDaELTAfEaPSILONgTAdFbGaAMMAfHbIaOTAeJbKaAPPA
fLaAMDAfMaUcNaUcOaMEGAdICRONhPaHIcIbSIdQbRaHOdSaIGMAfTaAUcHETAa SYMBOLmUaPSILONhVbWbXaIcYbZaETA
mEPSILON SYMBOLoKAPPA SYMBOLmNABLAfPARTIAL DIFFERENTIALtHI SYMBOLjI SYMBOLjRHO SYMBOLkSMALL AaLPHA
fBaETAeCaHIdDaELTAfEaPSILONgTAdFaINAL SIGMAlGaAMMAfHbIaOTAeJbKaAPPAfLaAMDAfMaUcNaUcOaMEGAdICRONhP
aHIcIbSIdQbRaHOdSaIGMAfTaAUcHETAfUaPSILONhVbWbXaIcYbZaETAkTHETA SYMBOLtKAPPA SYMBOLmNABLA
fPARTIAL DIFFERENTIALtHI SYMBOLjI SYMBOLjRHO SYMBOLkSMALL AaLPHAfBaETAeCaHIdDaELTAfEaPSILONgTAdF
aINAL SIGMAlGaAMMAfHbIaOTAeJbKaAPPAfLaAMDAfMaUcNaUcOaMEGAdICRONhPaHIcIbSIdQbRaHOdSaIGMAfTaAUcHETAfU
aPSILONhVbWbXaIcYbZaETAkTHETA SYMBOLrCAPITAL AbBbCbDbEbFbGbHbIbJbKbLbMbNbObPbQbRbSbTbUbVbWbXbYbZ
jDIGIT EIGHTfFIVEdOUReNINEeONEdSEVENeIXdTHREEeWOdZEROkITALIC CAPITAL AbBbCbDbEbFbGbHbIbJbKbLbMbNbO
bPbQbRbSbTbUbVbWbXbYbZjSMALL AbBbCbDbEbFbGbHbIbJbKbLbMbNbObPbQbRbSbTbUbVbWbXbYbZoSMALL AbBbCbDbEbF
bGbHbIbJbKbLbMbNbObPbQbRbSbTbUbVbWbXbYbZrCRIPT CAPITAL AbCbDbGbJbKbNbObPbQbSbTbUbVbWbXbYbZjSMALL A
bBbCbDbFbHbIbJbKbLbMbNbPbQbRbSbTbUbVbWbXbYbZzXIMIZEgYAN NUMERAL EIGHTaEENhLEVENgFIFTEENfVEdOURaTEEN
iNINEaTEENiONEdSEVENaTEENiIXaTEENhTENcHIRTEENgREEeWELVEeOdZEROrEASURED ANGLEa OPENING LEFT
mWITH OPEN ARM ENDING IN ARROW POINTING DOWN AND LEFTeRIGHToLEFT AND DOWNeUPlRIGHT AND DOWNeUP
mUP AND LEFTeRIGHTzzhBYcRIGHT ANGLE WITH DOTzbT ON BONEkCHANICAL ARMdLEGmDEFAIDRIN CAPITAL LETTER A
aIbTIUeBbCbDbEbFbGbHaPcIbJbKaPcLbMbNaGbYcOaEcPbQbRbSbTbUbVbWbXbYaUcZpOMMAfDIGIT EIGHTfFIVEdOUReNINE
eONEa ALTERNATE FORMsSEVENeIXdTHREEa ALTERNATE FORMtWOa ALTERNATE FORMsZEROkEXCLAMATION OH
oFULL STOPjNUMBER EIGHTEENhLEVENgFIFTEENgOURTEENiNINETEENiSEVENTEENiIXTEENhTENcHIRTEENhWELVE
nSMALL LETTER AaIbTIUeBbCbDbEbFbGbHaPcIbJbKaPcLbMbNaGbYcOaEcPbQbRbSbTbUbVbWbXbYaUcZnYMBOL AIVA
uIEVAL COMMAfEXCLAMATION MARKqQUESTION MARKsUM BLACK CIRCLElOLD WHITE CIRCLE
rEIGHT POINTED BLACK STARsSPOKED ASTERISKvFIVE SPOKED ASTERISKtLATTENED LEFT PARENTHESIS ORNAMENT
zRIGHT PARENTHESIS ORNAMENTzkOUR POINTED BLACK STARkPINWHEEL STARzbGREEK CROSS
lLEFT CURLY BRACKET ORNAMENTwPARENTHESIS ORNAMENTv-POINTING ANGLE BRACKET ORNAMENT
zlMATHEMATICAL SPACEsRIGHT CURLY BRACKET ORNAMENTwPARENTHESIS ORNAMENT
v-POINTING ANGLE BRACKET ORNAMENTzmSALTIREgHADEeIX POINTED BLACK STARsSPOKED ASTERISK
sMALL WHITE CIRCLEsTHREE POINTED BLACK STARkPINWHEEL STARzcVERTICAL BARmWHITE CIRCLEgSQUARE
rETEI MAYEK AHANG KHUDAMlNJIdPUN IYEKjCHEIKHANcEIiDIGIT EIGHTfFIVEdOUReNINEeONEdSEVENeIXdTHREEeWO
dZEROkLETTER ATIYAfBAbHAMeCHAbILeDDAbHAdHOUdILdEbGHOUdOKdHUKdIa LONSUMiJHAMdILdKHOUdOKa LONSUMkLAI
a LONSUMkMITa LONSUMkNAa LONSUMiGOUa LONSUMkNAcYAdObPAa LONSUMiHAMeRAIdSAMcHAcSAdTHOUdILa LONSUMjTA
bHAeUNcWAIdYANGkUM IYEKiSYLLABLE REPETITION MARKyVIRAMAfOWEL SIGN AAIbUcNAPdUcCHEINAPhIIbNAPeNUNG
eONAPeSOUNAPgUNAPdUcVISARGAhYENAPqWORD REPETITION MARKzgLONcTING FACEkMO
cNDE KIKAKUI COMBINING NUMBER HUNDRED THOUSANDSkSiMILLIONSiTEENSdN THOUSANDSkSdHOUSANDS
zbDIGIT EIGHTfFIVEdOUReNINEeONEdSEVENeIXdTHREEeWOjSYLLABLE M001 KIe2 KAe3 KUe4 WIe5 WAe6 WUe7 MIN
f8 MANf9 MUNg10 BIe1 BAe2 BUe3 Id4 Ad5 Ud6 DIe7 DAe8 DUe9 SIf20 SAe1 SUe2 TIe3 TAe4 TUe5 LIe6 LA
e7 LUe8 JIe9 JAf30 JUe1 YIe2 YAe3 YUe4 FIe5 FAe6 FUe7 NINf8 NANf9 NUNg40 HEEf1 HAe2 HOOf3 NGGA
g4 KPEEg5 WOe6 HUANg7 MBEEg8 KOe9 WVAg50 PUe1 PEe2 HENf3 HINf4 LOOf5 TEe6 GBAf7 NGONg8 NYANg9 MEN
g60 NYONg1 WVIf2 MBAf3 JOe4 NDOf5 KEEf6 POe7 NDOOg8 PIe9 TOf70 GBOf1 GBOOg2 MBEf3 LEe4 KPUf5 FE
e6 KOOf7 VOe8 FEEf9 SOf80 YEe1 PEEf2 NGGUg3 HEEIg4 LEEf5 VEe6 LONG NGGEl7 HUNf8 FOe9 DEEg90 NGGI
g1 TEEf2 KPAf3 GBEEg4 MONf5 KEe6 HEe7 BEe8 NYENg9 PAg100 Ed1 FANf2 POOf3 BOOf4 TOOf5 LONG MBOO
l6 LONG NGGOOm7 GBEf8 KPEf9 YEEg10 LONG LEj1 GAe2 KPOOg3 JEe4 WOOf5 NGGEEh6 SEe7 NENf8 WEe9 NDE
g20 NGGOg1 YOe2 MBUf3 NDIf4 GBIf5 NDUf6 WEEf7 NGGUAh8 HOOUg9 NDAg30 HANf1 INe2 KPIf3 FOOf4 NJOO
g5 INe6 SOOf7 EIe8 BOe9 WVEg40 HOe1 YOOf2 LONG MBOk3 WEIf4 VOOf5 MBIf6 NGGEg7 Od8 GBUf9 NJEEh50 BEE
f1 VUe2 NJAf3 LOe4 MUANg5 GIe6 NGGOOh7 JEEf8 KPOf9 NGGAAi60 JOOf1 LONG MBEk2 SEEf3 EEe4 NYINg5 OO
e6 GUEIg7 GUANg8 GUe9 NONg70 NYUNg1 RAe2 MBOOg3 VEEf4 MBOf5 LONG JOj6 HIe7 NGUANh8 ENe9 KUAg80 DOO
f1 DOe2 VIe3 LONG NGGOl4 NGENg5 VAe6 HUe7 MBUUg8 MBEEg9 MUENh90 GEEf1 NDEEg2 NJUf3 HONf4 WUIf5 AN
e6 SIAf7 FUAzdORAH WITH NINE BRANCHESxS SYMBOLjRCURYeOITIC CURSIVE FRACTION EIGHT TWELFTHS
nLEVEN TWELFTHSpFIVE TWELFTHSmOUR TWELFTHSnNINE TWELFTHSnONE HALFeTWELFTHlSEVEN TWELFTHS
nIX TWELFTHSmTEN TWELFTHSlHREE TWELFTHSnWO TWELFTHSvLETTER AaRCHAIC SAkBAcDAcEbHHAdIbKAbHAdLAcMAcNA
bEcObPAcQAcRAcSAbEcTAbEbOcWAcYAiOGOGRAM IMNdRMTmNUMBER EIGHTa HUNDREDa THOUSANDqTHOUSANDjY THOUSAND
pFIFTYa THOUSANDmVEa HUNDREDa THOUSANDqTHOUSANDmORTYa THOUSANDmURa HUNDREDa THOUSANDqTHOUSANDnNINE
a HUNDREDa THOUSANDqTHOUSANDjTY THOUSANDpONEa HUNDREDa THOUSANDqTHOUSANDmSEVENa HUNDREDa THOUSAND
qTHOUSANDjTYa THOUSANDpIXa HUNDREDa THOUSANDqTHOUSANDjTYa THOUSANDoTENa THOUSANDlHIRTYa THOUSAND
nREEa HUNDREDa THOUSANDqTHOUSANDnWENTYa THOUSANDnOa HUNDREDa THOUSANDqTHOUSAND
zcHIEROGLYPHIC LETTER AbBAa-2eDAcEbHHAdIbKAbHAdLAcMAcNAa-2dEa-2eObPAcQAcRAa-2eSAa-2dEcTAa-2dEa-2dO
cWAcYAjSYMBOL VIDJa-2zhPERSONhSSAGE WAITINGnTRICAL BREVEfLONG OVER SHORTfTWO SHORTSuPENTASEME
jSHORT OVER LONGpTETRASEMEiRISEMEgWO SHORTS JOINEDgOVER LONGzOeIAO LETTER AHbRCHAIC MAcNAbGAdZZAlBA
bRIdDAbDAcLHAbYAeZAbHAcYIcZAeFAcGAbHAbHAeHAbHAdKAcLAbHAbYAdYAdMAbHAdNAaSALIZATIONlGAbHAdHAcNAbHAdYA
bHAePAbLAdQAbGAdREFORMED TONE-1b2b4b5b6b8fSHAmTEdSAbHAcSAcYIdTAbEbLHAbYAeONE-2b3b4b5b6b7b8fSAbEbHA
cSAdTAdVAbFAdWAcXAcYI DZHAeKAcNNAdPAcTAbSAbHAdTAgZAbHAcSAbHAdZAbSAbYAdYAlSIGN ASPIRATION
kCONSONANT MODIFIER BARwREFORMED ASPIRATIONkVOICINGvTONE ABOVEfBELOWfRIGHTfTOP RIGHToVOWEL SIGN AaA
bEaEcHHcIbNaGcUcEaAbIbNaGcRaRdIaAaNaGdEbGbIbNGcOaNGdUcNaGcOaERbYcGbObUcROUNDED ERaRlUaAaNaGdEIcIbNG
cOGcUcVWcWaOcYaIbUIrCR DASH SYMBOLlON US SYMBOLnO SIGNfBEcPHONEfSCOPEiDDLE DOT
dTHIRD WHITE RIGHT POINTING INDEXzlLINE HORIZONTAL ELLIPSISzLITARY HELMETgMEDALlKY WAYgL SIGNhNIBUS
dDISCeMIZEfUS SIGNa IN TRIANGLElWITH COMMA ABOVElDOT BELOWjFALLING DOTSmRISING DOTSvTILDE
g-OR-PLUS SIGNpYcRRORa BALLkMSPdOBILE PHONEa OFFdWITH RIGHTWARDS ARROW AT LEFTzpDELScRN PENTATHLON
oI ABBREVIATION SIGNrDANDAeIGIT EIGHTfFIVEdOUReNINEeONEdSEVENeIXdTHREEeWOdZEROjOUBLE DANDAmLETTER A
aAbIbUcBAbHAdCAbHAdDAbDAbHAdHAdEbGAbHAdHAcIaIcJAbHAdKAbHAdLAbLAdMAcNAbGAcNAcYAdObPAbHAdRAcSAbHAcSA
dTAbHAcTAbHAeUaUcVAbOCALIC LaLcRaRkYAjSIGN ANUSVARAhRDHACANDRAlHUVAeVIRAMAeSARGAmVOWEL SIGN AAbIbU
cEbIaIcObUaUcVOCALIC LaLcRaRwFIER BREVE WITH INVERTED BREVEzLETTER ACUTE ACCENTlLVEOLAR CLICK
nPOSTROPHEkBEGIN HIGH TONEjLOW TONEnILABIAL CLICKoCAPITAL AaEcBaARRED BiCbDbEbFbGbHa WITH STROKEnI
bJbKbLbMbNbOaUcPbQbRaEVERSED EbNkTbUbVbWiENTRED LEFT HALF RINGoRIGHT HALF RING
wHINESE TONE YANG PINGeQUcRUcSHANGjIN PINGeQUcRUcSHANGvIRCUMFLEX ACCENTqOLONeROSS ACCENTlYRILLIC EN
cHARD SIGNjSOFT SIGNsDENTAL CLICKlOT HORIZONTAL BARoSLASHfVERTICAL BARoUBLE APOSTROPHEkPRIME
kWN ARROWHEADjTACKjEND HIGH TONEjLOW TONElXTRA-HIGH DOTTED LEFT-STEM TONE BARsTONE BAR
pLEFT-STEM TONE BARsTONE BARnLOW DOTTED LEFT-STEM TONE BARsTONE BARpLEFT-STEM TONE BARsTONE BAR
sGEORGIAN NARlLOTTAL STOPa WITH STROKExRAVE ACCENTmHALF TRIANGULAR COLON
uIGH DOTTED LEFT-STEM TONE BARsTONE BARpLEFT-STEM TONE BARsTONE BARnLATERAL CLICKmEFT ARROWHEAD
jHALF RINGjTACKiOW ACUTE ACCENTmCIRCUMFLEX ACCENTrDOTTED LEFT-STEM TONE BARsTONE BARnWN ARROWHEAD
oGRAVE ACCENTmINVERTED EXCLAMATION MARKzLEFT ARROWaHEADk-STEM TONE BARsMACRONgRIGHT ARROWHEADnNG
eTILDEeONE BARiUP ARROWHEADmVERTICAL LINEoER RIGHT CORNER ANGLEyMACRONfID DOTTED LEFT-STEM TONE BAR
sTONE BARpLEFT-STEM TONE BARsTONE BARjDLE DOUBLE ACUTE ACCENTmGRAVE ACCENTtGRAVE ACCENTrNUS SIGN
kOPEN SHELFkPLUS SIGNiRIMEfRAISED COLONfDOWN ARROWkEXCLAMATION MARKqINVERTED EXCLAMATION MARK
zUP ARROWoETROFLEX CLICK WITH RETROFLEX HOOKziVERSED COMMAfGLOTTAL STOPa WITH STROKEzhHOTIC HOOK
kIGHT ARROWHEADjHALF RINGjTACKkSHELFdORT EQUALS SIGNqMALL AaEbINcLPHAfBa WITH HOOKkARRED OhETA
dOTTOM HALF OnCa WITH CURLkAPITAL AAcBbGa WITH HOOKlHbIa WITH STROKEmNVERTED RkLa WITH BELTlNbOEcR
bUbYiHIcLOSED OMEGAfREVERSED OPEN EwDa WITH HOOKa AND TAILnTAILkELTAdZH DIGRAPH
lOTLESS J WITH STROKEa AND HOOKzeZ DIGRAPHa WITH CURLeRETROFLEX HOOKzfEaNGcSHcTHcZHdFaENG DIGRAPHmG
a WITH HOOKkAMMAeREEK GAMMAfPHIjHa WITH HOOKeSTROKEmENGa WITH HOOKoI WITH STROKEmOTAeJ
a WITH CROSSED-TAILtKbLa WITH BELTeINVERTED LAZY SpMIDDLE TILDEmPALATAL HOOKmRETROFLEX HOOK
a AND BELTzeEZHa WITH RETROFLEX HOOKxIGATURE OEkS DIGRAPHjZ DIGRAPHkMa WITH HOOKlN WITH LEFT HOOK
jRETROFLEX HOOKvOa WITH STROKEmPEN EbOgPaHIdQbRa WITH FISHHOOKiTAILkAMS HORNiEVERSED EbGLOTTAL STOP
mOPEN EpSa WITH CURLeHOOKkCHWAdRIPT GhIDEWAYS UkTa WITH PALATAL HOOKmRETROFLEX HOOK
uC DIGRAPH WITH CURLtESH DIGRAPHlHETAeOP HALF OjS DIGRAPHa WITH RETROFLEX HOOKzeURNED AaEbLPHAfHbI
bMa WITH LONG LEGpOPEN EgRa WITH HOOKeLONG LEGa AND RETROFLEX HOOKzjVbWbYa WITH BELTsUa BAR
dWITH LEFT HOOKpPSILONhVa WITH HOOKeRIGHT HOOKrWbXbYbZa WITH CURLeRETROFLEX HOOK
zbTRESS AND HIGH TONEjLOW TONEsUPERSCRIPT HALF TRIANGULAR COLONvTRIANGULAR COLONzdTRIANGULAR COLON
pURNED COMMAmUNASPIRATEDkP ARROWHEADjTACKgScVERTICAL LINEmOICINGhYANG DEPARTING TONE MARK
xIN DEPARTING TONE MARKzlULO TWO SUMmNEY BAGdWITH WINGSl-MOUTH FACEnGOLIAN BIRGA
a WITH DOUBLE ORNAMENTpORNAMENTtCOLONdMMAfDIGIT EIGHTfFIVEdOUReNINEeONEdSEVENeIXdTHREEeWOdZERO
jOUBLE BIRGA WITH ORNAMENTzbELLIPSISiFOUR DOTSiREE VARIATION SELECTOR FOUReONEdTHREEeWOzbULL STOP
jINVERTED BIRGAa WITH DOUBLE ORNAMENTzkLETTER AaLI GALI AaHbNUSVARA ONEmBALUDAgCAcDAaGALGAfMARUfDA
dHALF UbYAhIaNVERTED UBADAMAqKAcNGAcNAdPAbHAdSSAdTAbHREE BALUDAlTAbHAeUBADAMAhVISARGA ONElZAbHAlNG
dBAcCHAa WITH TWO DOTSpIdDAcEaEcFAcGAcHAAdIbJAcKAbHAdLAbHAdMAaNCHU ALI GALI BHAdCAbYAdDDHAdHAdGHA
dJHAdLHAdNGAdSSAdTAbTAdZAbHAmFAcIbKAcRAcZHAkNAcOaEcPAcQAcRAcSAbHAcIBE ANGdCHAdDAcEbFAcGAaAdHAaAdIaY
cJAcKAcPAcRAAdSHAdTAbSAdUaEcZAbHAiTAbODO ALI GALI TAcZHAlNGdBAcCHAdDAbZAdEbGAaAdHAAdIbJAbIAdKA
cLONG VOWEL SIGNpMAcNIAdOaEcPAcQAcTAbSAdUaEcWAcYAgSAdUaEcWAcYAcZAbHIcRAkMANCHU COMMAfFULL STOP
qNIRUGUgROTATED BIRGAa WITH DOUBLE ORNAMENTpORNAMENTzcSIBE SYLLABLE BOUNDARY MARKERzdWIRL BIRGA
a WITH DOUBLE ORNAMENTpORNAMENTzTODO SOFT HYPHENpRIPLE BIRGA WITH ORNAMENT
zURNED SWIRL BIRGA WITH DOUBLE ORNAMENTzoVOWEL SEPARATORwKEYa FACEiOGRAM FOR EARTHfYANGdINmRAIL
eSTABLE SYMBOLpOD BUBBLEiN CAKEeVIEWING CEREMONYtSQUEbITOgTHER CHRISTMASnOR BOATeSCOOTER
iIZED WHEELCHAIRpWAYgUNT FUJIfAINa BICYCLISTjCABLEWAYiRAILWAYnSEa FACEeTRAPhTHdVIE CAMERAkYAI
eRO DANDAeIGIT EIGHTfFIVEdOUReNINEeONEdSEVENeIXdTHREEeWOdZEROjOUBLE DANDAmLETTER AbBAcCHUdDAaIdEaA
cHAIbOdKEAAEeHAIdOcLAaNdMAEMdIMdNGIcINdOaLbOcPAbHIdRIbOcSHIdTAbEKcHEAeWAcYOmUCH GREATER-THAN
mLESS-THANmLTANI LETTER AbBAbHAdCAbHAdDAbDAbDAcHAdHAdEbGAbHAdHAcIbJAbJAdKAbHAdLAcMAcNAbNAcYAdPAbHA
dRAbHAcRAdSAcTAbHAcTAbHAeUbVAcYAjSECTION MARKqIMAPdPLE MUSICAL NOTESpICATION SIGNa IN DOUBLE CIRCLE
nLEFT HALF CIRCLEqRIGHT HALF CIRCLErTRIANGLElWITH DOT ABOVEjUNDERBARsXlSETa MULTIPLICATIONoUNION
mSHROOMfIC FLAT SIGNjNATURAL SIGNmSHARP SIGNlAL KEYBOARDa WITH JACKStNOTEeSCORE
eYMBOL ARPEGGIATO DOWNeUPnBEGIN BEAMePHRASEgSLUReTIEiRACEbKETfEATH MARKiVEbISa RESTlC CLEFfAESURA
gIRCLE X NOTEHEADqLIMACUSfVISeUSTER NOTEHEAD BLACKfWHITEvODAcMBINING ACCENTa-STACCATO
oUGMENTATION DOTqBENDeDOITcUBLE TONGUElWN BOWiFLAG-1b2b3b4b5eIPeHARMONICiLOUREfMARCATOa-STACCATO
qRIPdSMEAReNAP PIZZICATOnPRECHGESANG STEMqTACCATISSIMOgOgEMeTENUTOfREMOLO-1b2b3hIPLE TONGUEnUP BOW
nMON TIMEkRESCENDOhOIXeUT TIMEiDA CAPOfL SEGNOhMPa ALLgSHED BARLINEnECRESCENDOjGREE SLASH
lOUBLE BARLINEhFLATeSHARPlRUM CLEF-1b2lEIGHTH NOTEeRESTkND BEAMeOF STIMMEjPHRASEgSLUReTIEhF CLEF
a OTTAVA ALTAeBASSAsERMATAa BELOWmINAL BARLINEkGERED TREMOLO-1b2b3qVE-LINE STAFFoLAT DOWNeUPgORTE
dUR-LINE STAFFkSTRING FRETBOARDuUSA BLACKfWHITEkG CLEFa OTTAVA ALTAeBASSAsLISSANDO DOWNeUP
lRACE NOTE NO SLASHiSLASHoEGORIAN C CLEFgF CLEFqHALF NOTEePEDAL MARKkRESThUPTSTIMMElINVERTED TURN
nKIEVAN C CLEFgEIGHTH NOTE STEM DOWNeUPsND OF PIECEmFINAL NOTEjLAT SIGNjHALF NOTE
jQUARTER NOTE STEM DOWNeUPuRECITATIVE MARKpWHOLE NOTEqORONfLEFT REPEAT SIGNpONGAa IMPERFECTA REST
pPERFECTA RESTtMAXIMAfEZZOeINIMAa BLACKfRESTkOON NOTEHEAD BLACKfWHITEsULTI RESTfPLE MEASURE REST
vNATURAL DOWNeUPjEBENSTIMMEkOTEHEAD BLACKnULL NOTEHEADnONE HUNDRED TWENTY-EIGHTH NOTEeREST
zc-LINE STAFFnRNAMENT STROKE-1a0b1c2b3b4b5b6b7b8b9qTTAVA ALTAeBASSAmPARENTHESIS NOTEHEADtEDAL MARK
eUP MARKlS SUBPUNCTISnIANOeLUS NOTEHEADmODATUSfRRECTUSa FLEXUSqQUARTER NOTEeRESTeTONE FLATeSHARP
qINDICESIMA ALTAeBASSAsREPEAT DOTSfED FIGURE-1b2b3pVERSE FINAL BARLINEuIGHT REPEAT SIGNpNFORZANDO
lSCANDICUSa FLEXUSpEGNOdMIBREVIS BLACKfRESTeWHITEmMINIMA BLACKfRESTeWHITEpHARP DOWNeUPgORT BARLINE
mINGLE BARLINEmX-LINE STAFFkSTRING FRETBOARDrTEENTH NOTEeRESTkY-FOURTH NOTEeRESTqORIdQUARE B
bNOTEHEAD BLACKfWHITEuUBITOgTEMPUS IMPERFECTUM CUM PROLATIONE IMPERFECTAa DIMINUTION-1b2b3xPERFECTA
zkPERFECTUM CUM PROLATIONE IMPERFECTAkPERFECTAa DIMINUTION-1zzcHIRTY-SECOND NOTEeREST
qREE-LINE STAFFpORCULUSa RESUPINUSrRaIANGLE NOTEHEAD DOWN BLACKfWHITEkLEFT BLACKfWHITEkRIGHT BLACK
fWHITElUP BLACKfRIGHT BLACKfWHITElWHITEs-ROUND NOTEHEAD DOWN BLACKfWHITEziURNa SLASHfUP
gWO-LINE STAFFoVIRGAeOID NOTEHEADnWHOLE NOTEeRESTjITH FINGERNAILSqX NOTEHEADkZpVScW
bYANMAR CONSONANT SIGN MEDIAL HAcRAcWAcYAiON MEDIAL LAcMAcNAnSHAN MEDIAL WAzeDIGIT EIGHTfFIVEdOUR
eNINEeONEdSEVENeIXdTHREEeWOdZEROkLETTER AaITON RAhUcBAbHAdCAbHAdDAbDAbHAdHAdEaASTERN PWO KAREN GHWA
eNNAdYWAvGAbHAcREAT SAiHAcIaIcJAbHAdKAbHAaMTI CAbHAdDDAbHAdHAdFAcGAcHAbHAdJAbHAdLLAdNAbYAdRAcSAcTTA
bHAeXAcZAjLAbLAdMAbON BBAbEdEbJHAdNGAhNAbGAcNAbYAdYAdObPAbHAdRAbUMAI PALAUNG FAqSAbGAW KAREN SHAnHA
aN AbBAbHAdCAbHAdDAcFAcGAbHAdHAcJHAdKAbHAdNAbNAcYAdPHAdTHAdZAfWE PALAUNG CHAdSHApSAdTAaI LAING BA
bHAdDAbDAbHAdHAdFAcGAbHAdJAbHAdLLAdNNAcYAmHAcTAbHAeUaUcVOCALIC LaLcRaRkWAbESTERN PWO KAREN PWAdTHA
vYAiOGOGRAM KHAMTI HMcOAYdQNsMODIFIER LETTER KHAMTI REDUPLICATIONuSHAN REDUPLICATION
zjSHAN DIGIT EIGHTfFIVEdOUReNINEeONEdSEVENeIXdTHREEeWOdZEROoIGN ANUSVARAhSATeDOT BELOW
jKHAMTI TONE-1b3nLITTLE SECTIONoPAO KAREN TONEoRUMAI PALAUNG TONE-5uSECTION
gHAN COUNCIL EMPHATIC TONEnTONE-2b3oSAWdTONE-2b3b5b6lTAI LAING TONE-2b5qVIRAMAeSARGA
hWESTERN PWO KAREN TONE-1b2b3b4b5zdYMBOL AFOREMENTIONEDnITON EXCLAMATIONlONEdTWOjCOMPLETEDjGENITIVE
iLOCATIVEiSHAN EXCLAMATIONlONEpTAI LAING DIGIT EIGHTfFIVEdOUReNINEeONEdSEVENeIXdTHREEeWOdZERO
tONE MARK SGAW KAREN HATHIfKE PHOzcVOWEL SIGN AAbIaTON AaIiEa ABOVEhGEBA KAREN ImIaIcKAYAH EEcOEcU
hMON IIcOfSGAW KAREN EUmHAN AAcEa ABOVEhFINAL YmTALL AAhUaUcVOCALIC LaLcRaRkWESTERN PWO KAREN EUcUE
zoN-ARY CIRCLED DOT OPERATORmPLUS OPERATORnTIMES OPERATORvOPRODUCTjINTERSECTIONmLOGICAL ANDdOR
kPRODUCThSQUARE INTERSECTION OPERATORvUNION OPERATORuUMMATIONjTIMES OPERATORoUNION
a OPERATOR WITH DOTdPLUSyWHITE VERTICAL BARxABATAEAN CRUCIFORM NUMBER FOURvLETTER ALEPHeYINeBETH
eDALETHgFINAL ALEPHfBETHeHEcKAPHeLAMEDHgMEMdNUNdSHINeYODHkGIMELfHEaTHeKAPHeLAMEDHgMEMdNUNdPEcQOPH
eRESHeSADHEdMEKHfHINeTAWcETHeWAWdYODHeZAYINmNUMBER FIVEdOUReONEa HUNDREDlTENcHREEeWENTYeOrLA
dIL POLISHiRA SIGNiKbME BADGEiNDaINAGARI HEADSTROKEkLETTER AaAbIbUcBAbHAdCAbHAdDAbDAbHAdHAdEbGAbHA
dHAcIaIcJAbHAdKAbHAdLAbLAdMAcNAbGAcNAcYAdObPAbHAdRAbRAdSAbHAcSAdTAbHAcTAbHAeUaUcVAbOCALIC RaRkYA
jSIGN ANUSVARAhVAGRAHAiSIDDHAMhVIRAMAeSARGAmVOWEL SIGN AAbIbUcEbIaIcObPRISHTHAMATRA EpUaUcVOCALIC R
aRzgRROW NO-BREAK SPACEtTIONAL DIGIT SHAPESmPARKlUSEATED FACEmZAR AMULETlBHbSPdECKTIE
fGATED DOUBLE VERTICAL BAR DOUBLE RIGHT TURNSTILEzuIVE ACKNOWLEDGElCIRCLED DIGIT ZERO
kLATIN CAPITAL LETTER AbBbCbDbEbFbGbHbIbJbKbLbMbNbObPbQbRbSbTbUbVbWbXbYbZwNUMBER EIGHTEENhLEVEN
gFIFTEENgOURTEENiNINETEENiSEVENTEENiIXTEENhTHIRTEENhWELVEdNTYnSQUAREgTRIANGLEqDIAGONAL CROSS
fDIAMONDhMIDDLE RIGHT TO LOWER CENTREzmSQUARED ABcCROSS MARKkICcLATIN CAPITAL LETTER AbBbCbDbEbFbG
bHbIbJbKbLbMbNbObPbQbRbSbTbUbVbWbXbYbZwPAcQUESTION MARKnSAcWCrITHER A SUBSET OF NOR EQUAL TO
uPERSET OF NOR EQUAL TOzPPROXIMATELY NOR ACTUALLY EQUAL TOzkGREATER-THAN NOR EQUAL TOfIVALENT TO
nLESS-THANzbLESS-THAN NOR EQUAL TOfIVALENT TOnGREATER-THANzhLbPTUNEa FORM TWOoRD FACEhSSUS
dT WITH EGGSkING DOLLSlUTERcRAL CHESS BISHOPa ROTATED NINETY DEGREESoTWO HUNDRED SEVENTY DEGREES
zrEQUIHOPPERa ROTATED NINETY DEGREESziKINGa ROTATED NINETY DEGREESoTWO HUNDRED SEVENTY DEGREES
zoNIGHTa ROTATED FORTY-FIVE DEGREESsNINETY DEGREESoONE HUNDRED THIRTY-FIVE DEGREES
zgTHREE HUNDRED FIFTEEN DEGREESzdWO HUNDRED SEVENTY DEGREESpTWENTY-FIVE DEGREESzvPAWN
a ROTATED NINETY DEGREESoTWO HUNDRED SEVENTY DEGREESzpQUEENa ROTATED NINETY DEGREES
oTWO HUNDRED SEVENTY DEGREESzqROOKa ROTATED NINETY DEGREESoTWO HUNDRED SEVENTY DEGREES
zpTURNED BISHOPgKINGdNIGHTgPAWNeQUEENfROOKrFACEkW LINEeMOON SYMBOLgWITH FACEoSHEQEL SIGN
lTAI LUE DIGIT EIGHTfFIVEdOUReNINEeONEdSEVENeIXdTHREEeWOdZEROkLETTER FINAL BbDbKbMbNaGcVhHIGH BAcDA
cFAcHAcKAbVAdLAcMAcNAbGAdPAbHAdQAcSAbUAdTAbHAcSAdVAcXAbVAdYAhLOW BAcDAcFAcHAcKAbVAdLAcMAcNAbGAdPA
bHAdQAcSAbUAdTAbHAcSAdVAcXAbVAdYAnSIGN LAEaVjTHAM DIGIT ONEnONE MARK-1b2lVOWEL SIGN AAaYcEbYcEbIIbY
cOaAaYcYcUaEaYcUbYcVOWEL SHORTENERzkA ABBREVIATION SIGNrCOMMAfDANDAeIGIT EIGHTfFIVEdOUReNINEeONE
dSEVENeIXdTHREEeWOdZEROjOUBLE COMMAfDANDAmGAP FILLERkINSERTION SIGNoLETTER AaAbIbUcBAbHAdCAbHAdDA
bDAbHAdHAdEbGAbHAdHAcIaIcJAbHAdKAbHAdLAbHAdMAbHAdNAbGAbHAdHAcNAcYAbHAeObPAbHAdRAbHAdSAbHAcSAdTAbHA
cTAbHAeUaUcVEDIC ANUSVARAnOCALIC LaLcRaRkWAcYAjOMcPLACEHOLDER MARKqSANDHI MARKkIDDHIeGN ANUSVARA
hVAGRAHAiCANDRABINDUlFINAL ANUSVARAoJIHVAMULIYAlNUKTAfUPADHMANIYAlVIRAMAeSARGAmVOWEL SIGN AAbIbUcE
bIaIcObUaUcVOCALIC LaLcRaRxLINE LEFTeRIGHTkSPAPERhXT LINEePAGEiIGHT WITH STARSoNJA
eKO COMBINING DOUBLE DOT ABOVEqLONG DESCENDING TONEpHIGH TONEjLOW TONEiRISING TONE
qNASALIZATION MARKrSHORT HIGH TONEjLOW TONEiRISING TONEyMAfDANTAYALANjIGIT EIGHTfFIVEdOUReNINEeONE
dSEVENeIXdTHREEeWOdZEROjOROME SIGNlEXCLAMATION MARKqHIGH TONE APOSTROPHEuLAJANYALANjETTER AbBAcCHA
dDAaGBASINNAkEaEcFAcGBAdHAcIbJAbONA CHAdJAcRAhKAcLAcMAcNaAa WOLOSOiYAa WOLOSOkOaOcPAcRAbRAdSAcTAcU
bWAcYAiOW TONE APOSTROPHEtSYMBOL GBAKURUNENkOO DENNENqTAMAN SIGNnLbNBSPeO BICYCLEShREAK HEREkENTRY
a SIGNkMOBILE PHONESnONE UNDER EIGHTEEN SYMBOLzPEDESTRIANSkIRACYgSMOKING SYMBOLp-BREAK SPACE
mMINAL DIGIT SHAPESqSMA SIGNkN-BREAKING HYPHENpPOTABLE WATER SYMBOLvFORKINGiRaDIC MARK SIGN
nMAL SUBGROUP OFa OR EQUAL TOzcTH EAST AND SOUTH WEST ARROWtRROWa AND SOUTH EAST ARROW
uCROSSING NORTH WEST ARROWqSOUTH EAST ARROWzWITH HOOKpBLACK ARROWlDOUBLE ARROWmPOINTING BUDdLEAF
eVINE LEAFsSANS-SERIF ARROWqTRIANGLE-HEADED ARROWa TO BARzdWHITE ARROWqINDIC FRACTION ONE EIGHTH
gHALFeQUARTERhSIXTEENTHnTHREE QUARTERSiSIXTEENTHSzPLACEHOLDER MARKqQUANTITY MARKkRTER MARK
mRUPEE MARKqWEST AND SOUTH EAST ARROWtRROWa AND NORTH EAST ARROWuCROSSING NORTH EAST ARROW
zTO CORNERgLONG BARlWITH HOOKpBLACK ARROWlDOUBLE ARROWmPOINTING BUDdLEAFeVINE LEAFsSANS-SERIF ARROW
qTRIANGLE-HEADED ARROWa TO BARzdWHITE ARROWrEAST-POINTING AIRPLANEzSEcT A SUBSET OFhPERSET OF
mLMOST EQUAL TOoN ELEMENT OFmSYMPTOTICALLY EQUAL TOxCHECK MARKkEQUAL TOfIVALENT TOnGREATER-THAN
mIDENTICAL TOmLESS-THANjNORMAL SUBGROUP OFa OR EQUAL TOzfPARALLEL TOlSIGN
dQUARE IMAGE OF OR EQUAL TOuORIGINAL OF OR EQUAL TOzfTILDEeRUEfCHED LEFT SEMICIRCLE WITH THREE DOTS
zfOWER RIGHT-SHADOWED WHITE RIGHTWARDS ARROWzsRIGHT SEMICIRCLE WITH THREE DOTS
zhUPPER RIGHT-SHADOWED WHITE RIGHTWARDS ARROWzxEa PADbGEfBOOKa WITH DECORATIVE COVERzeULaL
cMBER EIGHTEEN FULL STOPrLEVEN FULL STOPqFIFTEEN FULL STOPqOURTEEN FULL STOPsNINETEEN FULL STOP
sSEVENTEEN FULL STOPsIGNcXTEEN FULL STOPrTEN FULL STOPmHIRTEEN FULL STOPrWELVE FULL STOP
nNTY FULL STOPuERO SIGNjSHU CHARACTER-1B170b1b2b3b4b5b6b7b8b9bAbBbCbDbEbFc80b1b2b3b4b5b6b7b8b9bAbB
bCbDbEbFc90b1b2b3b4b5b6b7b8b9bAbBbCbDbEbFcA0b1b2b3b4b5b6b7b8b9bAbBbCbDbEbFcB0b1b2b3b4b5b6b7b8b9bAbB
bCbDbEbFcC0b1b2b3b4b5b6b7b8b9bAbBbCbDbEbFcD0b1b2b3b4b5b6b7b8b9bAbBbCbDbEbFcE0b1b2b3b4b5b6b7b8b9bAbB
bCbDbEbFcF0b1b2b3b4b5b6b7b8b9bAbBbCbDbEbFd200b1b2b3b4b5b6b7b8b9bAbBbCbDbEbFc10b1b2b3b4b5b6b7b8b9bA
bBbCbDbEbFc20b1b2b3b4b5b6b7b8b9bAbBbCbDbEbFc30b1b2b3b4b5b6b7b8b9bAbBbCbDbEbFc40b1b2b3b4b5b6b7b8b9bA
bBbCbDbEbFc50b1b2b3b4b5b6b7b8b9bAbBbCbDbEbFc60b1b2b3b4b5b6b7b8b9bAbBbCbDbEbFc70b1b2b3b4b5b6b7b8b9bA
bBbCbDbEbFc80b1b2b3b4b5b6b7b8b9bAbBbCbDbEbFc90b1b2b3b4b5b6b7b8b9bAbBbCbDbEbFcA0b1b2b3b4b5b6b7b8b9bA
bBbCbDbEbFcB0b1b2b3b4b5b6b7b8b9bAbBbCbDbEbFcC0b1b2b3b4b5b6b7b8b9bAbBbCbDbEbFcD0b1b2b3b4b5b6b7b8b9bA
bBbCbDbEbFcE0b1b2b3b4b5b6b7b8b9bAbBbCbDbEbFcF0b1b2b3b4b5b6b7b8b9bAbBpITERATION MARKsT AND BOLT
lYIAKENG PUACHUE HMONG CIRCLED CAkDIGIT EIGHTfFIVEdOUReNINEeONEdSEVENeIXdTHREEeWOdZEROkLETTER AaA
cCAcDAbLAdEaEcFAcGAcHAaHdIbKAcLAcMAbLAdNAbCAcKAcPAbLAdQAcRAcTAbSAcXAdYAdOaOcPAbLAdQAcRAbRAdSAcTAbSA
cXAdUbVAcWbXAbYAdYAcZAiOGOGRAM NYAJnSIGN FOR ANIMALgINVERTEBRATEmLOCATIONiPERSONgTHINGjXW XW
jYLLABLE LENGTHENERtTONE-BbDbGbJbMbSbVzeOBJECT REPLACEMENT CHARACTERzbLIQUE ANGLE OPENING DOWNeUP
qHYPHENmSERVER EYE SYMBOLsCR AMOUNT OF CHECKpBELT BUCKLEkOW TIEgRANCH BANK IDENTIFICATIONzbCHAIR
eUSTOMER ACCOUNT NUMBERxDASHdOUBLE BACKSLASHqFORKeHOOKeINVERTED FORKpTAGONAL SIGNlOPUSgDEN
dFFICE BUILDINGoGHAM FEATHER MARKmLETTER AILMeBEITHfCEIRTeOLLeDAIReEABHADHfDHADHfMHANCHOLLlFEARN
fGORTeIFINdODHADHhLUISeMUINeNGEADALgIONeONNcRcPEITHfRUISeSAILdTRAIFgTINNEfUATHdILLEANNhR
jREVERSED FEATHER MARKvSPACE MARKoONEKfHM SIGNhIL DRUMhK HAND SIGNlL CHIKI AHADeDIGIT EIGHTfFIVE
dOUReNINEeONEdSEVENeIXdTHREEeWOdZEROkGAAHLAA TTUDDAAGqLETTER AAJbKbMbWcGbLbNGcTcEDDcNbPbRRdIHbNYcR
bScLAaAcEbIbObUcOBbHbTTcVcUCbDbNNcYjMU TTUDDAGi-GAAHLAA TTUDDAAGtPHAARKAAhUNCTUATION DOUBLE MUCAAD
nMUCAADsRELAAmD CHINESE HOOK MARKjITERATION MARKwHUNGARIAN CAPITAL LETTER AaAbKbMBcNDdCLOSE EhEaBbC
aHbScDbEbFbGaYcHbJbKbLaYcMaPcNaCbTa-SHAPED SIGNnYcPbRbSaZcTaYcVbZaSdIaIcNIKOLSBURG OEcUEnOaEEcO
cRUDIMENTA OEcUEmSHORT ERiUaNKcSbUrNUMBER FIFTYdVEeONEa HUNDREDhTHOUSANDmTENkSMALL LETTER AaAbKbMB
cNDdCLOSE EhEaBbCaHbScDbEbFbGaYcHbJbKbLaYcMaPcNaCbTa-SHAPED SIGNnYcPbRbSaZcTaYcVbZaSdIaI
cNIKOLSBURG OEcUEnOaEEcOcRUDIMENTA OEcUEmSHORT ERiUaNKcSbUzITALIC LETTER AbBEcCHEdDEcEaFbKScLbMbNbR
aScSaHbSdHEcIaIcKAbEbHEcUcNORTHERN TSEmObPEbHEdSHEcOUTHERN TSEmTEbHEdUaUcVEcYEcZEjNUMERAL FIFTYdVE
eONEdTENsKEYdNORTH ARABIAN LETTER AINcLEFeBEHdDADbLdES-1b2b3eFEHdGEEMdHAINfHAHcEHdKAFcHAHeLAMdMEEM
eNOONeQAFdREHdSADdTAHcEHcHALcEHeWAWdYEHdZAHbINlNUMBER ONEdTENcWENTYzcPERMIC LETTER ANcBURdCHERYfDOI
cZHOIdITAfEaFcGAIdHAcIaAbEcKOKEeLEIdMENOEfNENOEfOaOcPEEIeREIdSHCHOOIfOOIeIIdTAIcSIUeUbVERcOOIeYAaT
cERaIbUdRYcUcZATAdHOIpSIAN NUMBER HUNDREDhONEdTENcWENTYeOkSIGN AaURAMAZDAAa-2cHAmBAaGAdUUMISHhCAcDA
aHYAAUSHa-2kIbUcFAcGAbUcHAcIbJAbIcKAbUcLAcMAbIbUcNAbUcPAcRAbUcSAbHAcSAdTAbHAcUcUbVAbIcXA
bSHAAYATHIYAmYAcZAhWORD DIVIDERqONAL COMPUTERrSOGDIAN FRACTION ONE HALFrLETTER ALEPHdTERNATE AYIN
nYINeBETHeFINAL ALEPHfBETHeHEcNUNa WITH VERTICAL TAILwSADHEa WITH VERTICAL TAILyTAW
a WITH VERTICAL TAILzdGIMELfHEaTHeKAPHeLAMEDHgMEMdNUNdPEcRESH-AYIN-DALETHqSADHEdMEKHfHINeTAWdWAW
dYODHeZAYINlIGATURE AYIN-DALETHuNUMBER FIVEdOUReONEa HUNDREDlTENcHIRTYeREEeWENTYeO
qUTH ARABIAN LETTER ALEFdYNdBETHeDALETHfHADHEdLETHhFEcGHAYNeIMELfHEaTHeKAPHdHETHfLAMEDHgMEMdNUN
dQOPHeRESHeSADHEdMEKHeTcHINeTAWcETHdHAWcETHfWAWdYODHeZAYNlNUMBER FIFTYfONEhERIC INDICATOR
zgTURKIC LETTER ORKHON AaBbDbEBbDbGbKbLbNbRbSbTbYcGbLbNbQbRbSaHcTbYcBASHeECbLTcMbNCbGbTbYcPbSHcZcI
aCbQcOaEaKcPbQbTjYENISEI AaBbDbEaBbGbKbNaGcTbYcGbLbNGcQbRbSHcTbYcEaCbNCbTbYcSHcZcIaQcOEaKcQ
yUYGHUR COMBINING DOT ABOVEfBELOWjTWO DOTS ABOVEfBELOWyLETTER ALEPHfBETHeFINAL HETHkGIMEL-HETHkKAPH
eLAMEDHfESHeMEMdNUNdPEcRESHeSADHEdMEKHfHINeTAWdWAWdYODHeZAYINmPUNCTUATION BARdFOUR DOTSjTWO BARS
eDOTSzdER ADULTfMANdWOMANjIVEeM SYMBOLiN WITH EXCLAMATION MARK WITH LEFT RIGHT ARROW ABOVE
zzCOMING AUTOMOBILEkBUSdFIRE ENGINElPOLICE CARkTAXIlE BUTTON MOUSEmDOT LEADER
gOVER TWO DOTS PUNCTUATIONzf-PIECE SWIMSUITqIONePEN BOOKcXdCENTRE ASTERISKiBLACK STARkCROSS
fTEARDROP-SPOKED ASTERISKzgFILE FOLDERkOLDERgHANDS SIGNkLOCKeMAILBOX WITH LOWERED FLAGmRAISED FLAG
ySUBSETePERSETj-CIRCUIT-OUTPUT H-TYPE SYMBOLnL-TYPE SYMBOLzdOUTLINED RIGHTWARDS ARROW
zcRATING SYSTEM COMMANDwHIUCHUShPOSITIONiTICAL DISCa ICONnON KEYjR WITH DOT INSIDEqANGE BOOKeHEART
hUTANhIGINAL OFiYA AI LENGTH MARKnU LENGTH MARKoDIGIT EIGHTfFIVEdOUReNINEeONEdSEVENeIXdTHREEeWO
dZEROkFRACTION ONE EIGHTHgHALFeQUARTERhSIXTEENTHnTHREE QUARTERSiSIXTEENTHSzISSHARgLETTER AaAbIbUcBA
bHAdCAbHAdDAbDAbHAdHAdEbGAbHAdHAcIaIcJAbHAdKAbHAdLAbLAdMAcNAbGAcNAcYAdObPAbHAdRAbHAcRAdSAbHAcSAdTA
bHAcTAbHAeUaUcVAbOCALIC LaLcRaRkWAcYAbYAkSIGN ANUSVARAhVAGRAHAiCANDRABINDUlNUKTAfOVERLINEiVIRAMA
eSARGAmVOWEL SIGN AAbIbUcEbIaIcObUaUcVOCALIC LaLcRaRzNATE LEFT PARENTHESISqRIGHT PARENTHESIS
wTHODOX CROSSnSAGE CAPITAL LETTER AaHbIaNdBRAdCHAdDHAdEaHCHAdKAcPAcTAbSAeINdGHAdHAbYAdIbKAbHAcYAdLA
cMAcNAcOaINdPAcSAbHAdTAbSAbHAeUbWAcZAbHAsSMALL LETTER AaHbIaNdBRAdCHAdDHAdEaHCHAdKAcPAcTAbSAeINdGHA
dHAbYAdIbKAbHAcYAdLAcMAcNAcOaINdPAcSAbHAdTAbSAbHAeUbWAcZAbHAuCbMANYA DIGIT EIGHTfFIVEdOUReNINEeONE
dSEVENeIXdTHREEeWOdZEROkLETTER AaAbLEFeBAcCAYNeDEELdHAdEaEcFAcGAcHAcIbJAcKAAFdHAdLAANeMIINeNUUNeOaO
cQAAFeRAcSAbHIINfTAcUbWAWdXAcYAqTTERcOMAN SIYAQ ALTERNATE NUMBER EIGHTfFIVEdOURa HUNDREDmNINEeSEVEN
eIXa HUNDREDlTENa THOUSANDlHREEeWOa THOUSANDzeFRACTION ONE HALFeSIXTHsMARRATANiNUMBER EIGHT
a HUNDREDhTHOUSANDjYa THOUSANDpFIFTYa THOUSANDmVEa HUNDREDhTHOUSANDmORTYa THOUSANDmURa HUNDRED
hTHOUSANDnNINEa HUNDREDhTHOUSANDjTYa THOUSANDpONEa HUNDREDhTHOUSANDmSEVENa HUNDREDhTHOUSANDjTY
a THOUSANDpIXa HUNDREDhTHOUSANDjTYa THOUSANDoTENa THOUSANDlHIRTYa THOUSANDnREEa HUNDREDhTHOUSAND
nWENTYa THOUSANDnOa HUNDREDhTHOUSANDzhUNCE SIGNiTBOX TRAYiLINED BLACK STARkGREEK CROSSlLATIN CROSS
lWHITE STARsVERHEATED FACElLAPaPING BLACK SQUARESnWHITE AND BLACK SQUARESrSQUARESuINEhWLcXbYSTER
gPACKAGEfDaDING CHARACTERpGEa FACING UPjWITH CIRCLED TEXTlURLkRbScODAeHAWH HMONG CLAN SIGN FAJdHAM
bWJeKHABdOOcWMdLAUJdISdMUASePHABeTHOJdSABcHEEJeWBeVAJcWJdXYOOJfYAJcEEGnONSONANT AUcCAUcHAUeHAUcLAU
dNAUeLAUdMAUdNAUcCHAUeKAUdLAUdTHAUdSAUfPLHAUfQHAUeRAUdVAUdXAUdYAUnDIGIT EIGHTfFIVEdOUReNINEeONE
dSEVENeIXdTHREEeWOdZEROkMARK CIM HOMdKEScHAVeSObUAMeTAUMdUBmNUMBER HUNDRED MILLIONSjSiMILLIONS
iTEN BILLIONSiTHOUSANDSkSdRILLIONSqSIGN AVcCIM CHEEMeUAM TSHOOJlHAIS LUS NTOG NTOGsNRES TOS
iPUB DAWBiTSOV ROGhXWVa CHWVnHLIcNUBeIB YAMgLOSdMEEJ SUABeTSEEBjUSdNQIGdTUJeTAUcHIRD-STAGE HLI
oXHEEJ CEEVlVOS FEEMeLUBdNRUAeSEEVeTHIABdOMdSHAB CEEBoXAUSdIABdYEEM FAIBeNTXIVfRHOdTOVhOOeZWJ THAJ
nVOWEL KAABbVcBbIBbVcUBbVcVbWBbVdEBbEBbVcVcIABbVcBbVcOBbOBbVcVcUABbVcBbVcWBbVuLLASdM BRANCH
gDOWN HANDjTREEeUP HANDiS UP TOGETHERnYRENE LEFT-POINTING FLEURONtTTER ALEPHeYINeBETHeDALETH
gFINAL NUNjGIMELfHEaTHeKAPHeLAMEDHgMEMdNUNdPEcQOPHeRESHeSADHEdMEKHfHINeTAWcETHeWAWdYODHeZAYIN
mNUMBER FIVEdOUReONEdTENcHREEeWENTYeOkRIGHT-POINTING FLEURONzfNCAKESfDA FACEiPERCLIPhRACHUTE
fGRAPH SEPARATORkOScUS MARKmLLEL TOcWITH HORIZONTAL STROKErTILDE OPERATORzENTHESIZED DIGIT EIGHT
fFIVEdOUReNINEeONEdSEVENeIXdTHREEeWOjHANGUL CHIEUCHa AiIEUCa AbUhHIEUHa AhIEUNGa AhKHIEUKHa AiIYEOK
a AiMIEUMa AhNIEUNa AhPHIEUPHa AiIEUPa AhRIEULa AhSIOSa AgTHIEUTHa AiIKEUTa ApIDEOGRAPH ALLIANCE
iCALLdONGRATULATIONoEARTHeIGHTeNTERPRISEkFESTIVALhINANCIALhREcVEdOUReHAVEeLABORfMETALeOONeNAMEdINE
eONEdREACHdPRESENThSOURCEfTeSELFcVENeIXcOCIETYgPECIALgTOCKdUDYeUNbPERVISEjTENcHREEeWOdWATEReOOD
oKOREAN CHARACTER O HUdJEONwLATIN CAPITAL LETTER AbBbCbDbEbFbGbHbIbJbKbLbMbNbObPbQbRbSbTbUbVbWbXbY
bZqSMALL LETTER AbBbCbDbEbFbGbHbIbJbKbLbMbNbObPbQbRbSbTbUbVbWbXbYbZuNUMBER EIGHTEENhLEVENgFIFTEEN
gOURTEENiNINETEENiSEVENTEENiIXTEENhTENcHIRTEENhWELVEdNTYyROTdT ALTERNATION MARKrIAL DIFFERENTIAL
mLINE BACKWARDiDOWNeFORWARDhUPiLY-RECYCLED PAPER SYMBOLzcNERSHIP SIGNmY POPPERkSSED SYMBOL
iNGER SHIPkIVE-PULL-DOWN-OUTPUT SYMBOLsUP-OUTPUT SYMBOLzPORT CONTROLoU CIN HAU GLOTTAL STOPa FINAL
fVARIANTuLETTER AbBAcCAbHAdDAcEbFAbINAL KbLbMbNaGcPbTbWbYhGAcHAcIaAcKAbHAdLAcMAcNAbGAdObPAbHAdRAcSA
cTAbHAdUaAcVAcZAiOW-FALLING TONEa FINALfLONGa FINALzcMID-LEVEL TONEa FINALfLONG FINALzRISING TONE
a FINALfLONGa FINALwSANDHI GLOTTAL STOPa FINALsTONEa FINALfLONGa FINALzhW PRINTSjDFbIcEACE SYMBOLiH
bOCKeNUTSeRcDESTRIANiN OVER STAMPED ENVELOPEwCILdGUINeSIVE FACEjTAGRAMhOPLE HUGGINGmR MILLE SIGN
kSIGNeTEN THOUSAND SIGNsCENT SIGNjFORMING ARTSmMANENT PAPER SIGNrPENDICULARa WITH SrSEVERING FACE
mON BOWING DEEPLYnCLIMBINGiDOING CARTWHEELpFROWNINGiIN LOTUS POSITIONoSTEAMY ROOM
oRAISING BOTH HANDS IN CELEBRATIONziWITH BALLdLOND HAIRkCROWNfFOLDED HANDSmHEADSCARFjPOUTING FACE
sAL COMPUTERnPECTIVEjSETA SIGNiO SIGNhTRI DISHjHAGS-PA DOUBLE HEAD MARKqLETTER AaLTERNATE YA
lSPIRATED FAmBAcCAaNDRABINDUkHAdDAbDAcZAdEaEcFAcGAbGAdHAcIbJAcKAbHAdLAcMAcNAbGAcNAcYAdObPAbHAdQAcRA
cSAbHAcMALL AhTAbHAcSAbHAdTAbHAeUbVOICED HAeLESS SHAnWAcXAcYAcZAbHAkMARK DOUBLE SHADlSHAD
jSINGLE HEAD MARKpUBJOINED LETTER RAcWAcYArPERFIXED LETTER RAzbISTOS DISC SIGN ARROWfBEEaHIVE
gOOMERANGhWcULLS LEGjCAPTIVEfRPENTRY PLANEnTcHILDeLUBdOLUMNeMBaINING OBLIQUE STROKEyDOLIUMeVEeEAGLE
fFLUTEfGAUNTLEThRATERgHELMETfIDEdORNeLIDbLYeMANACLESgTTOCKhOX BACKhPAPYRUSgEDESTRIANjLANE TREE
iUMED HEADlRAMcOSETTEhSAWcHIELDdPdLINGeMALL AXEiTRAINERiTATTOOED HEADmIARAeUNNYfVINEeWAVY BANDiOMAN
wILIPPINE DOUBLE PUNCTUATIONsSINGLE PUNCTUATIONzcOENICIAN LETTER AINcLFdBETdDELTeGAMLeHEaTdKAFdLAMD
eMEMdNUNdPEcQOFdROSHeSADEdEMKdHINeTAUcETdWAUdYODdZAIkNUMBER ONEa HUNDREDlTENcHREEeWENTYeO
kWORD SEPARATORwLUSfICKaUP TRUCKkEbGa FACEeNOSEgLCROW SIGNjE OF POOiLcNATAdCHED FINGERSkING HAND
kE DECORATIONlAPPLEgWHEEL STARlSCESdTOLeTCHFORKa WITH TEE TOPvLACARDdE OF INTEREST SIGNnWORSHIP
nNCK CONSTANTa OVER TWO PIyYGROUND SLIDEmING CARD ACE OF CLUBSfDIAMONDSiHEARTSgSPADESnBACK
dLACK JOKERlEIGHT OF CLUBSfDIAMONDSiHEARTSgSPADESpFIVE OF CLUBSfDIAMONDSiHEARTSgSPADESnOOL
cUR OF CLUBSfDIAMONDSiHEARTSgSPADESoJACK OF CLUBSfDIAMONDSiHEARTSgSPADESoKING OF CLUBSfDIAMONDS
iHEARTSgSPADESnNIGHT OF CLUBSfDIAMONDSiHEARTSgSPADESqNINE OF CLUBSfDIAMONDSiHEARTSgSPADES
oQUEEN OF CLUBSfDIAMONDSiHEARTSgSPADESpRED JOKERjSEVEN OF CLUBSfDIAMONDSiHEARTSgSPADESoIX OF CLUBS
fDIAMONDSiHEARTSgSPADESnTEN OF CLUBSfDIAMONDSiHEARTSgSPADESmHREE OF CLUBSfDIAMONDSiHEARTSgSPADES
oRUMP-1a0b1b2b3b4b5b6b7b8b9c2a0b1c3b4b5b6b7b8b9gWO OF CLUBSfDIAMONDSiHEARTSgSPADESnWHITE JOKERwDbU
aNGEReS SIGNa ABOVE EQUALS SIGNrIN LEFT HALF CIRCLEqRIGHT HALF CIRCLErTRIANGLElWITH BLACK TRIANGLE
oCIRCUMFLEX ACCENT ABOVExDOT BELOWjSMALL CIRCLE ABOVErUBSCRIPT TWOnTILDE ABOVEfBELOWw-MINUS SIGNmTO
a FORM FIVEdOUReTHREEeWOnMbOCKET CALCULATORpLICE CARaS REVOLVING LIGHTuOFFICERmODLE
eP DIRECTIONAL FORMATTINGkISOLATEuCORNfRTABLE STEREOnSEIDONfITION INDICATORpTAL HORNeMARKa FACEmBOX
fT OF FOODiABLE WATER SYMBOLqTOdTED PLANTkUCHcLTRY LEGiND SIGNhRING LIQUIDlTING CAT FACEiFACE
kWER ON SYMBOLh-OFF SYMBOLnSLEEP SYMBOLlYMBOLlRAYER BEADSkECEDESa ABOVE ALMOST EQUAL TOpEQUALS SIGN
lNOT ALMOST EQUAL TOpEQUAL TOmSINGLE-LINE EQUALS SIGNlNOT EQUAL TOzfBUT NOT EQUIVALENT TO
vOR EQUAL TOfIVALENT TOqUNDER RELATIONuGNANT MANdPERSONgWOMANlSCRIPTION TAKE
nENTATION FORM FOR VERTICAL COLONdMMAfEM DASHgN DASHgXCLAMATION MARKqHORIZONTAL ELLIPSIS
tIDEOGRAPHIC COMMAfFULL STOPvLEFT ANGLE BRACKETnBLACK LENTICULAR BRACKETyCORNER BRACKET
nURLY BRACKETnDOUBLE ANGLE BRACKETuPARENTHESISlSQUARE BRACKEToTORTOISE SHELL BRACKET
wWHITE CORNER BRACKEToLENTICULAR BRACKETzdOW LINEiQUESTION MARKnRIGHT ANGLE BRACKET
nBLACK LENTICULAR BRACKETyCORNER BRACKETnURLY BRACKETnDOUBLE ANGLE BRACKETuPARENTHESIS
lSQUARE BRACKEToTORTOISE SHELL BRACKETwWHITE CORNER BRACKEToLENTICULAR BRACKETeKCETzfSEMICOLON
jTWO DOT LEADERoWAVY LOW LINEzqTZELeVIOUS PAGElIMEcNCEaSSeT SCREEN SYMBOLoERa ICONjVACY MESSAGE
kTE USE ONEdTWOe-1b2lOBING CANEjHIBITED SIGNmJECTIVEhPERTY LINEjORTIONaAL TOmSERPINA
jSALTER PAHLAVI FOUR DOTS WITH CROSSfDOTsLETTER ALEPHfBETHeDALETHgGIMELfHEaTHeKAPHeLAMEDHgMEM-QOPH
iNUNdPEcSADHEdMEKHfHINeTAWdWAW-AYIN-RESHnYODHeZAYINmNUMBER FOUReONEa HUNDREDlTENcHREEeWENTYeO
kSECTION MARKmTURNED SECTION MARKzjU1b2bBLIC ADDRESS LOUDSPEAKERyNCTUATION SPACElS ELEVATUS MARK
tRPLE HEARTjSEdSHPINfT LITTER IN ITS PLACE SYMBOLzfQUADRANT LOWER LEFTeRIGHTlUPPER LEFT
a AND LOWER LEFT AND LOWER RIGHTuRIGHTlUPPER RIGHT AND LOWER LEFTeRIGHTzlRIGHTa AND LOWER LEFT
a AND LOWER RIGHTzvUPLE INTEGRAL OPERATORrPRIMEmRTER NOTEjTERNION INTEGRAL OPERATOR
zbESTION EXCLAMATION MARKqMARKfED EQUAL TOrINCUNXgOTATION MARKoRABBITa FACEjCCOONeING CAR
dMOTORCYCLEpDICAL SYMBOL BOTTOMrOa BUTTONhACTIVE SIGNoILWAY CARdTRACKkNaBOWeSED BACK OF HANDmCOMMA
fDOTaTED INTERPOLATION MARKERzcFISTeHANDa WITH FINGERS SPLAYEDpPART BETWEEN MIDDLE AND RING FINGERS
zvINTERPOLATION MARKERuMC SIGNgD SIGNgR SIGNhSQUARElMbTaIOdZOReECEIPTeORD SEPARATOR
nREATIONAL VEHICLErYCLED PAPER SYMBOLpING SYMBOL FOR GENERIC MATERIALSrTYPE-1 PLASTICSk2 PLASTICS
k3 PLASTICSk4 PLASTICSk5 PLASTICSk6 PLASTICSk7 PLASTICSzjD APPLEfGIFT ENVELOPEpFERENCE MARK
mGIONAL INDICATOR SYMBOL LETTER AbBbCbDbEbFbGbHbIbJbKbLbMbNbObPbQbRbSbTbUbVbWbXbYbZzfSTERED SIGN
nJANG CONSONANT SIGN HbNaGcRqLETTER AbBAcCAcDAcGAcHAcJAcKAcLAcMAbBAdNAbDAcGAbGAdYAbJAePAcRAcSAcTA
cWAcYAjSECTION MARKmVIRAMAfOWEL SIGN AIbUcEaAbUcIbObUrLIEVED FACElMINDER RIBBONnPLACEMENT CHARACTER
tSPONSEfTRICTED LEFT ENTRY-1b2sOOMgTURN LEFTeRIGHTfSYMBOLlVERSE CHECKER BOARDnINDEX
fLIGHT FOUR POINTED PINWHEEL STARzfNE FEEDjSOLIDUSa OPERATORiPRECEDING SUBSET
qWITH HORIZONTAL STROKEzfTILDE OPERATOR ABOVE LEFTWARDS ARROWpRIGHTWARDS ARROWznD ANGLE
a WITH UNDERBARtCOMMAfDOUBLE PRIMEa QUOTATION MARKuSTROKE NOT SIGNwEMPTY SETjFORKED PARAGRAPHOS
sHAND WITH MIDDLE FINGER EXTENDEDzhNOT SIGNiPILCROW SIGNlRIMEfQUESTION MARK
nRAISED HAND WITH FINGERS SPLAYEDzgIGHT ANGLEkOTATED FLORAL HEART BULLETzcSANS-SERIF CAPITAL L
tEMICOLONjTHUMBS DOWN SIGNjUP SIGNnILDEa EQUALSlRIPLE PRIMEmVICTORY HANDsOLVING HEARTSpHINOCEROSjI
aAL SIGNhBBONa ARROW DOWN LEFTeRIGHTkLEFT DOWNeUPhRIGHT DOWNeUPiUP LEFTeRIGHTtCE BALLeCRACKERkFLE
dGHT AND LOWER ONE EIGHTH BLOCKwUPPER ONE EIGHTH BLOCKyGER BUBBLEjLEa BRACKETa WITH DOT
qDOTTED SUBSTITUTION MARKERzbSUBSTITUTION MARKERtVARIANT WITH SQUAREtWITH ARC
dDOWNWARDS ZIGZAG ARROWzhRC GREATER-THAN BRACKETwROW WITH CIRCLED PLUSmSMALL CIRCLE
xBLACK LENTICULAR BRACKETsTORTOISE SHELL BRACKETzdCEILINGgORNER BRACKETnURLY BRACKETa LOWER HOOK
kMIDDLE PIECEmUPPER HOOKyDOTTED SUBSTITUTION BRACKETzUBLE ANGLE BRACKETmRROW WITH ROUNDED HEAD
xPARENTHESISlQUOTATION MARKoWIGGLY FENCEtFISH TAILhVE EIGHTHS BLOCKrLOORfHALF BLACK CIRCLEgSTARiOCK
fFOLDERgMEDIUM SHADEmRUNNING MANoND TELEPHONE RECEIVERxLOW PARAPHRASE BRACKET
wNORMAL FACTOR SEMIDIRECT PRODUCTzhONE EIGHTH BLOCKmQUARTER BLOCKqPEN SQUARED DOTpUTER JOIN
kPARENTHESISa EXTENSIONjLOWER HOOKkUPPER HOOKwRAISED OMISSION BRACKETxS-SHAPED BAG DELIMITER
vEMIDIRECT PRODUCTqVEN EIGHTHS BLOCKsIDEWAYS U BRACKETqNGLE QUOTATION MARKuPEAKER
a WITH ONE SOUND WAVEoTHREE SOUND WAVESzcECH BUBBLEmQUARE BRACKETa EXTENSIONjLOWER CORNER
mUPPER CORNERmWITH DOUBLE STROKEnQUILLfSTROKEgTICK IN BOTTOM CORNERnTOP CORNERsUNDERBAR
zcUBSTITUTION BRACKETuTACKdHIRD WHITE RIGHT POINTING INDEXzfOUGHT BUBBLEmREE EIGHTHS BLOCK
nQUARTERS BLOCKtORTOISE SHELL BRACKETvRANSPOSITION BRACKETtIANGLEa ABOVE LEFT TRIANGLE
wULAR ONE QUARTER BLOCKzdVERTICAL BAR WITH QUILLnOX LINErWHITE CORNER BRACKETnURLY BRACKET
nLENTICULAR BRACKETsPARENTHESISlSQUARE BRACKEToTORTOISE SHELL BRACKETzcIGGLY FENCE
n-FACING ARMENIAN ETERNITY SIGNwFISTeSVASTI SIGNa WITH DOTSzdHANDED INTERLACED PENTAGRAM
zcPOINTING ANGLE BRACKETnCURVED ANGLE BRACKETuDOUBLE ANGLE QUOTATION MARKzcMAGNIFYING GLASS
zSHADED WHITE RIGHTWARDS ARROWzdIDE ARC CLOCKWISE ARROWyTO-LEFT EMBEDDINGjISOLATEhMARKeOVERRIDE
rHAND INTERIOR PRODUCTvWARDS ARROWa ABOVE ALMOST EQUAL TOpREVERSE ALMOST EQUAL TOpTILDE OPERATOR
wSHORT LEFTWARDS ARROWvTILDE OPERATORtND UPPER AND LOWER ONE EIGHTH BLOCKzlFROM BAR
a TO BLACK DIAMONDzOVER LEFTWARDS ARROWuTHROUGH GREATER-THANmSUPERSETiXiO BARcLACK DIAMOND
qWITH CORNER DOWNWARDSqDOTTED STEMjUBLE VERTICAL STROKEwEQUILATERAL ARROWHEADvHOOK
eLARGE TRIANGLE ARROWHEADxOOPeMEDIUM TRIANGLE ARROWHEADzNOTCHED TAILmPLUS BELOW
kSMALL EQUILATERAL ARROWHEADvTRIANGLE ARROWHEADxTROKEgTAILa WITH DOUBLE VERTICAL STROKE
wVERTICAL STROKEyIP DOWNWARDSjUPWARDSlVERTICAL STROKEv-TAILkBACK-TILTED SHADOWED WHITE ARROW
zgLACK ARROWfCIRCLED WHITE ARROWyOTTOM SHADED WHITE ARROWzCOMPRESSED ARROWqDASHED ARROWlOUBLE ARROW
a FROM BARiWITH STROKEgVERTICAL STROKEv-TAILkDASH ARROWrFINGER-POST ARROW
qRONT-TILTED SHADOWED WHITE ARROWziHANDcRPOON OVER LEFTWARDS HARPOON
wWITH BARB DOWN ABOVE LEFTWARDS HARPOON WITH BARB DOWNznBELOW LONG DASHpFROM BARiTO BARhWARDS
jUP ABOVE LEFTWARDS HARPOON WITH BARB UPzeONG DASHjRIGHTWARDS HARPOON WITH BARB DOWNzoFROM BAR
iTO BARhWARDSyEAVY ARROWfCOMPRESSED ARROWwLEFT-SHADED WHITE ARROWxOPEN-HEADED ARROWrPAIRED ARROWS
nQUADRUPLE ARROWpRIGHT-SHADED WHITE ARROWxOCKETgSANS-SERIF ARROWpQUARED ARROWkIGGLE ARROW
oTOP SHADED WHITE ARROWvRIANGLE ARROWHEADk-HEADED ARROWa OVER LEFTWARDS TRIANGLE-HEADED ARROW
zlTO BARgWITH BOLD SHAFTkDOUBLE HORIZONTAL STROKErVERTICAL STROKEwHEAVY SHAFTlLONG TIP DOWNWARDS
jUPWARDSqMEDIUM SHAFTmNARROW SHAFTmVERY HEAVY SHAFTzcDASHED ARROWmPAIRED ARROWSzbPLE ARROW
fDASH ARROWqWO HEADED ARROWn-HEADED ARROW FROM BARiWITH DOUBLE VERTICAL STROKEwTAIL
a WITH DOUBLE VERTICAL STROKEwVERTICAL STROKEyRIANGLE ARROWHEADStVERTICAL STROKEzbTRIPLE DASH ARROW
zdWAVE ARROWjHITE ARROWa FROM WALLjWITHIN TRIANGLE ARROWHEADzvNGa ABOVEfBUOYeEQUAL TOiIN EQUAL TO
lOPERATORiPOINTgED PLANETjING BELLkSING DIAGONAL CROSSING FALLING DIAGONALqSOUTH EAST ARROWzpLEbIbM
bOcOASTED SWEET POTATOsBOT FACEiCKaETeLL OF PAPERjED-UP NEWSPAPERoR COASTERhSKATE
iING ON THE FLOOR LAUGHINGzcMAN AS SIGNhCENTURIAL SIGNoDENARIUS SIGNmIMIDIA SEXTULA SIGN
tUPONDIUS SIGNoNUMERAL EIGHTeLEVENgFIFTYa EARLY FORMkTHOUSANDmVEa HUNDREDhTHOUSANDmOUReNINEeONE
a HUNDREDa THOUSANDqTHOUSANDa C DqREVERSED ONE HUNDREDuSEVENeIXa LATE FORMnTENa THOUSANDlHREEeWELVE
eOlQUINARIUS SIGNoSEMUNCIA SIGNlSTERTIUS SIGNnXTANS SIGNiULA SIGNlILIQUA SIGNmUNCIA SIGNoOSTERfSE
aTTEfTATED CAPITAL QjFLORAL HEART BULLETtHEAVY BLACK HEART BULLETyLIGHT FOUR POINTED BLACK CUSP
zeWHITE FOUR POINTED CUSPzeUND PUSHPINhTARGEThED SYMBOL FOR CAIdFUcLUcSHOUcUANGXIiXItWBOATgS
bUBLE SIGNiGBY FOOTBALLmLE-DELAYEDkMI DIGIT EIGHTfFIVEdOUReNINEeONEdSEVENeIXdTHREEeWO
jFRACTION ONE HALFeQUARTERhTHIRDjTWO THIRDStNUMBER EIGHT HUNDREDiYgFIFTYdVE HUNDREDlORTYdUR HUNDRED
mNINE HUNDREDiTYgONE HUNDREDlSEVEN HUNDREDiTYgIX HUNDREDiTYfTENcHIRTYeREE HUNDREDmWENTYeO HUNDRED
vNIC ARLAUG SYMBOLnBELGTHOR SYMBOLpCROSS PUNCTUATIONrLETTER AC AdESCdLGIZ EOLHXkNSUZ A
hBERKANAN BEORC BJARKAN ByCaALCdEALCdNcWEORTHhDaAGAZ DAEG DlOTTED-LbNbPiEaARcHWAZ EH EjNGcTH
dFEHU FEOH FE FnRANKS CASKET ACbESCeEHcIScOSqGaARcEBO GYFU GjRdHAEGL HfGLAZ HiICELANDIC-YRlNGaWAZ
fORcSAZ IS ISS ImWAZ EOHiJERAN JhKaAUN KcAfLAUKAZ LAGU LOGR LrONG-BRANCH-AR AEfHAGALL HiMADR M
gOSS OfYRoMANNAZ MAN MmNAUDIZ NYD NAUD NrOaEbNbObPEN-PfS OdTHALAN ETHEL OpPERTHO PEORTH PpQ
bRAIDO RAD REID RqSHaORT-TWIG-AR AeBJARKAN BjHAGALL HiMADR MgNAUD NgOSS OfSOL SfTYR TfYR
mIGEL LONG-BRANCH-SOL SwOWILO ShTANeTHURISAZ THURS THORNtIWAZ TIR TYR TpURUZ UR UjVbWaUNJO WYNN WmX
bYaRcZiMULTIPLE PUNCTUATIONuSINGLE PUNCTUATIONsTVIMADUR SYMBOLsNERcING SHIRT WITH SASHvPEE SIGN
iSSIAN ASTROLOGICAL SYMBOL BINOVILEiNOVILEgQUINTILEiSENTAGONiTREDECILEjVIGINTILEzmS IN TRIANGLE
mAFETY PINdVESTjGITTARIUSjILBOATgKE BOTTLE AND CUPrLT SHAKERhIREeUTING FACE
lMARITAN ABBREVIATION MARKrLETTER ALAFeBAAcITdDALATfFIcGAMANfINbTbYcKAAFeLABATfMIMdNUNdQUFdRISH
eSHANdINGAAThTAAFdITcSAADIYhYUTdZENkMARK DAGESHgEPENTHETIC YUToINa-ALAFhNEQUDAAhOCCLUSION
nODIFIER LETTER EPENTHETIC YUToIbSHORT AxPUNCTUATION AFSAAQfNGEDdNAAUfRKAANUgTMAAUgBAU
dMELODIC QITSAnNEQUDAAhQITSAfSHIYYAALAAjOF MASHFAATmTURUeZAEFdIQAArVOWEL SIGN AaAcEbIbLONG AaAcEbI
bUgOaVERLONG AaAlSHORT AgUKUNfUuNDWICHfS-SERIF HEAVY DOUBLE COMMA QUOTATION MARK ORNAMENT
zeTURNED COMMA QUOTATION MARK ORNAMENTzsLOW DOUBLE COMMA QUOTATION MARK ORNAMENT
zvINTERROBANG ORNAMENTzeRIcTELLITEa ANTENNAoURNeURASHTRA CONSONANT SIGN HAARUuDANDAeIGIT EIGHTfFIVE
dOUReNINEeONEdSEVENeIXdTHREEeWOdZEROjOUBLE DANDAmLETTER AaAbIbUcBAbHAdCAbHAdDAbDAbHAdHAdEaEcGAbHA
dHAcIaIcJAbHAdKAbHAdLAbLAdMAcNAbGAcNAcYAdOaOcPAbHAdRAcSAbHAcSAdTAbHAcTAbHAeUaUcVAbOCALIC LaLcRaRkYA
jSIGN ANUSVARAiCANDRABINDUlVIRAMAeSARGAmVOWEL SIGN AAbIbUcEaEcIaIcOaOcUaUcVOCALIC LaLcRaRzdOPOD
gXOPHONEiCALESdRFdHOOLa SATCHELmIbOOTEReRPIONcUSgREENcWDRIVERiIPT CAPITAL BbEbFbHbIbLbMbPbR
jLIGATURE ET ORNAMENTuSMALL EbGbLbOlOLLdUPLEgEALbTcCOND PLACE MEDALpTION SIGNiOReDNA
dE-NO-EVIL MONKEYpDLINGgGMENTaED DIGIT EIGHTfFIVEdOUReNINEeONEdSEVENeIXdTHREEeWOdZEROsLFIEeMICOLON
fDIRECT PRODUCT WITH BOTTOM CLOSEDziSEXTILEjPARATED SYMBOLoRIOUS FACE WITH SYMBOLS COVERING MOUTH
zmVICE MARKkSAME DOThQUIQUADRATEmT MINUSfTRANSMIT STATEqWING NEEDLElXTILEgGCcHADOWED WHITE CIRCLE
gLATIN CROSSlSTARqLLOW PAN OF FOODqMROCKfRADA ABBREVIATION SIGNrCONTINUATION SIGNrDANDAeIGIT EIGHT
fFIVEdOUReNINEeONEdSEVENeIXdTHREEeWOdZEROjOUBLE DANDAmEKAMdXTRA SHORT VOWEL MARKwHEADSTROKE
kLETTER AaAbIbUcBAbHAdCAbHAdDAbDAbHAdHAdEbGAbHAdHAcIaIcJAbHAdKAbHAdLAbLAdMAcNAbGAcNAcYAdObPAbHAdRA
cSAbHAcSAdTAbHAcTAbHAeUaUcVAbOCALIC LaLcRaRkYAjOMcSANDHI MARKkECTION MARK-1b2mPARATORiIGN ANUSVARA
hVAGRAHAiCANDRABINDUlINVERTED CANDRABINDUuJIHVAMULIYAlNUKTAfSIDDHAMhUPADHMANIYAlVIRAMAeSARGA
lUTRA MARKkVOWEL MODIFIER MARKnSIGN AAbIbUcEbIaIcObPRISHTHAMATRA EpUaUcVOCALIC LaLcRaRzKcVED ICE
gIAN LETTER ADOcGEcHbIRcREbRAYeSHcWEdBIBdCHURCHgDEADeEARbTcGGcRRdFEEdGAGdHA-HAeUNGeIANcCEcFcJUDGE
fKICKeLOLLeMEASUREgIMEeNUNdOAKcILcNbOZEdRbUTdPEEPeROAReSObUREeTHEYcIGHeOTdUPcVOWdWOEbOLeYEAbWdZOO
qEEPdIELDdFT INcOUTgNTO SHRINEkPcOCKED FACE WITH EXPLODING HEADzeOTING STARkPPING BAGSeTROLLEY
nRT BACKSLANTED SOUTH ARROWwENT ARROW POINTING DOWNWARDS THEN NORTH EASTzuDOWN TACKa WITH OVERBAR
wLEFT TACKjRIGHTWARDS ARROW ABOVE LEFTWARDS ARROWznSLANTED NORTH ARROWtUP TACK
a ABOVE SHORT DOWN TACKvWITH UNDERBARwCAKEeHAND FORMAT CONTINUING OVERLAPsDOWN STEPjLETTER OVERLAP
oUP STEPtSdULDERED OPEN BOXqWEReRIMPdUGdUFFLE PRODUCTnYcIaDDHAM DANDAeOUBLE DANDAmEND OF TEXT MARK
qLETTER AaAbIbLTERNATE UkUcBAbHAdCAbHAdDAbDAbHAdHAdEbGAbHAdHAcIaIcJAbHAdKAbHAdLAcMAcNAbGAcNAcYAdO
bPAbHAdRAcSAbHAcSAdTAbHAbREE-CIRCLE ALTERNATE IxTAbHAdWO-CIRCLE ALTERNATE IaIxUaUcVAbOCALIC LaLcRaR
kYAjREPETITION MARK-1b2b3rSECTION MARK DOUBLE RINGa WITH RAYSvWITH CIRCLES AND FOUR ENCLOSURESpRAYS
eTWO ENCLOSURESzbDOUBLE CRESCENTSqQUADRUPLE CRESCENTStRAYS AND DOTTED CRESCENTSjDOUBLE CRESCENTS
qTRIPLE CRESCENTSzhSEPTUPLE CRESCENTSsTRIDENT AND DOTTED CRESCENTSqU-SHAPED ORNAMENTS
zcPLE CRESCENTSzhPARATOR BARdDOTmIGN ANUSVARAiCANDRABINDUlNUKTAfSIDDHAMhVIRAMAeSARGAmVOWEL SIGN AA
bIbLTERNATE UaUlUcEbIaIcObUaUcVOCALIC RaRzbEWAYS BLACK DOWN POINTING INDEXtLEFT POINTING INDEX
tRIGHT POINTING INDEXuUP POINTING INDEXxWHITE DOWN POINTING INDEXtLEFT POINTING INDEX
tRIGHT POINTING INDEXuUP POINTING INDEXzfGN OF THE HORNSnWRITING AIR BLOW SMALL ROTATIONSqING OUT
lSUCK SMALL ROTATIONSqING INoBREATH EXHALEgINHALElUSH BETWEENhMULTIPLEiSINGLEmCHEEKS NEUTRALhPUFFED
gSUCKEDmOLONdMMAfDREAMY EYEBROWS DOWN NEUTRALmNEUTRAL DOWNeUPkUP NEUTRALzYNAMIC ARROWHEAD LARGE
fSMALLpEVERY OTHER TIMEqFASTeGRADUALhRELAXEDhSIMULTANEOUSa ALTERNATINGxLOWeTENSEnEARSdXCITEMENT
jYE BLINK MULTIPLEiSINGLEmWINKfBROWS STRAIGHT DOWNeNEUTRALhUPrGAZE-FLOORPLANE CURVEDgSTRAIGHT
a ALTERNATINGlDOUBLEzbWALLPLANE CIRCLINGhURVEDgSTRAIGHTa ALTERNATINGlDOUBLEzfLASHES DOWNeFLUTTERING
kUPjS CLOSEDgHALF CLOSEDgOPENjOPENeSQUEEZEDiWIDE OPENfNING MOVEMENT
wFACE DIRECTION POSITION NOSE FORWARD TILTINGpUP OR DOWNa TILTINGzvILL MODIFIER-2b3b4b5b6nNGER
fLICK LARGE MULTIPLEiSINGLEmSEQUENTIALjMALL MULTIPLEiSINGLEqOORPLANE SHOULDER HIP MOVE
zcOREHEAD CONTACThNEUTRALhWRINKLEDqULL STOPjGRASP BETWEENhMULTIPLEiSINGLEmHAIRcND-ANGLEa INDEX
a MIDDLE LITTLEgRINGlRING LITTLEa OUTpTHUMBa INcOUTpLITTLE INDEXa THUMB INDEX THUMBa OUTzcUP
jMIDDLE RING LITTLEa INcOUTwRING DOWN MIDDLE THUMB INDEX CROSSzeLITTLErCIRCLEa INDEXa BENTeHINGE
fMIDDLEa CROSS LITTLEhEDhLITTLEgRINGeTHUMBmRING LITTLErLITTLE INDEXfUPjMIDDLE RING LITTLEa BENTqUP
jRING LITTLErLAWa FOUR FINGERS CONJOINEDwINDEX THUMB CURVE THUMB INSIDE
zfMIDDLE RING LITTLE CONJOINEDa SIDEziNO THUMBiTHUMB FORWARDhSIDEoUPa FIVE FINGERS SPREADa OPEN
yINDEXa RING LITTLElTHUMBa OPENqMIDDLE RING LITTLEsNO THUMBiOPENa NO THUMBiTHUMB FORWARDhSIDE
pTHUMB FORWARDhSIDEmRLICUEa INDEX RING LITTLE ONuMIDDLE RING LITTLE ONvOPENnFIST
a FOUR FINGERS CONJOINED BENTzcHEELeINDEXa BENTa OVER MIDDLEqCUPPEDgHINGEDa LOWdMIDDLE UP
a THUMB SIDEzcMIDDLEa BENTa THUMB STRAIGHTtCONJOINEDa CUPPEDa THUMB FORWARDuHINGEDa THUMB SIDE
rINDEX BENTkMIDDLE BENTlTHUMB FORWARDhSIDEa BENTeCONJOINEDzeROSS LITTLEhEDa THUMB SIDEsHINGED
a SPREAD THUMB SIDEyLITTLEgRAISED KNUCKLESoINGa BENTeCONJOINEDoSTRAIGHT THUMB BENTtTHUMBa ANGLED
a OUTkBENTeCIRCLEDgONJOINED HINGEDpUPPEDgHINGEDfOOKEDmUP SPREAD THUMB FORWARDzfRAISED KNUCKLE
nING LITTLElTHUMB ANGLED IN MIDDLE UPmOUT MIDDLE UPuCIRCLEaD MIDDLE UPqUPPED MIDDLE UPoRLICUE
fVE THUMB INSIDEgUNDERrFORWARD INDEX BENTeSTRAIGHTwHOOKaED MIDDLE HINGEDgUPqSIDEa BOTH BENT
jINDEX BENTeHINGElTHUMB BENTeCONJOINEDjDIAGONALzUP MIDDLE HINGEDa THUMB CONJOINEDjSIDEziLITTLE BENT
eDOWNa OTHERS CIRCLEDoRIPPLE CURVEDgSTRAIGHTuINDEXa THUMBlRAISED KNUCKLEoTHUMBeOUCHES THUMBnUP
jMIDDLE BENT OVER INDEXpDOWNeLITTLEgRAISED KNUCKLEnING LITTLElTHUMB ANGLED INDEX UP
iOUT INDEX CROSSEDhUPtCIRCLED INDEX HINGEDgUPpUPPED INDEX UPpHOOKED INDEX UPpLITTLEmUPa THUMB SIDE
uRING DOWNeINDEXfLITTLEgMIDDLEa CONJOINEDjRAISED KNUCKLESwRAISED KNUCKLEoTHUMBfUPhTHUMB
a BETWEEN INDEX MIDDLEa STRAIGHTvMIDDLE RINGlRING LITTLEtFORWARDhHEELeOVER FOUR RAISED KNUCKLES
uTWO FINGERSqSIDE BENTeCONJOINEDjDIAGONALnUNDER FOUR FINGERSmINDEX BENTkLITTLE UPjTHREE FINGERS
mWO FINGERSzcLATa BETWEEN PALM FACINGSuFIVE FINGERS SPREADa BENTeFOUR BENTjHINGEDa NO THUMB
iTHUMB SIDErTHUMB FORWARDzhOUR FINGERSa BENTeCONJOINEDa SPLITpHINGEDtHEELa FIVE FINGERS SPREAD
a BENTeFOUR BENTzeTHUMB SIDEpSPLIT CENTREa THUMB SIDEa BENTwINDEX THUMB SIDEqLITTLEmTHUMB BENT
eFORWARDhSIDEpHINGEa FIVE FINGERS SPREAD OPENxOUR FINGERS CONJOINEDwINDEXa HINGEDgMIDDLE LITTLE
gRINGa CONJOINEDvRING LITTLElTHUMBa LARGEfOPENeSIDEdMALLrLITTLEa INDEXa THUMBlTHUMBmMIDDLE
a RING LITTLEsNO THUMBiOPENa NO THUMBiTHUMB FORWARDhSIDEpRINGa DOWN INDEX THUMB HOOK MIDDLEziSMALL
fTHUMB BETWEEN MIDDLE RINGtSIDEa TOUCHING INDEXzfOOKa CURLICUEiINDEX RING LITTLE INcOUTdUNDER
xMIDDLE RING LITTLE CONJOINEDa INcOUTzTHUMBmRING THUMBpOVALa FIVE FINGERS SPREADtINDEXfLITTLE UP
jNO THUMBiRING LITTLElTHUMB FORWARDhSIDEtEADa MOVEMENT CIRCLEh-FLOORPLANE CURVEfSTRAIGHT
tWALLPLANE CURVEfSTRAIGHTiTILTxRIMiLIMB COMBINATIONlLENGTH-1b2b3b4b5b6b7lP LOWER OVER UPPER
qUPPER OVER LOWERrS PRESSED TOGETHERuOCATION DEPTHfHEAD NECKhIGHTgLIMBS DIGITSmTORSOfWIDTH
g-FLOORPLANE SPACEqWALLPLANE SPACEyMOUTH CLOSED CONTACThFORWARDhNEUTRALnORNERShFROWNa OPENeWRINKLED
oKISSa FORWARDhWRINKLEDnOPEN CIRCLEgFORWARDhOVALa WRINKLEDiYAWNjRECTANGLEa WRINKLEDiYAWNoWRINKLED
nSMILEa OPENeWRINKLEDoTENSEa FORWARDhSUCKEDmWRINKLES DOUBLEgSINGLEtVEMENT-DIAGONAL AWAY LARGEaST
hMEDIUMgSMALLkBETWEEN AWAY LARGEaSThMEDIUMgSMALLkTOWARDS LARGEaSThMEDIUMgSMALLvTOWARDS LARGEaST
hMEDIUMgSMALLwFLOORPLANE ARM CIRCLE HITTING WALL LARGE DOUBLEgSINGLEmMEDIUM DOUBLEgSINGLE
nSMALL DOUBLEgSINGLEzlBENDdOX LARGEfMEDIUMgSMALLjCHECKeORNER LARGEfMEDIUMgSMALLlROSSeURVE COMBINED
iHITTING CEILING LARGEfSMALLnFLOOR LARGEfSMALLtLARGEaSThMEDIUMgSMALLlDOUBLE ALTERNATINGa WRIST FLEX
wSTRAIGHTiWRIST FLEXrFINGER CIRCLES HITTING WALL DOUBLEgSINGLEzbONTACT
oHUMP HITTING CEILING LARGE DOUBLEgTRIPLEmSMALL DOUBLEgTRIPLEuFLOOR LARGE DOUBLEmSMALL DOUBLE
mTRIPLE LARGE TRIPLEmSMALL TRIPLEziSMALLkJAWdLOOP HITTING CEILING LARGE DOUBLEgSINGLEmSMALL DOUBLE
gSINGLEuFLOOR LARGE DOUBLEgSINGLEmSMALL DOUBLEgSINGLEzbSMALLkPEAKS LARGEfMEDIUMgSMALL
lSHAKING PARALLELpINGLE STRAIGHT LARGEaSThMEDIUMgSMALLoWRIST FLEXrTRIPLE ALTERNATING MOVEMENT
iWRIST FLEXwSTRAIGHT MOVEMENTrWRIST FLEXrWAVE HITTING CEILING LARGEfSMALLnFLOOR LARGEfSMALLtLARGE
fSMALLeNAKEjRIST CIRCLE HITTING WALL DOUBLEgSINGLEzhZIGZAG LARGEfMEDIUMgSMALLxHINGE DOWN SEQUENTIAL
pSIDE TO SIDE SCISSORSvUP DOWN ALTERNATING LARGEfSMALLrLARGEfSMALLkSEQUENTIAL
tWALLPLANE ARM CIRCLE MEDIUM DOUBLEgSINGLEnSMALL DOUBLEgSINGLExBEND LARGEfMEDIUMgSMALLjOX LARGE
fMEDIUMgSMALLjCHECK LARGEfMEDIUMgSMALLkORNER LARGEfMEDIUMgROTATIONiSMALLlROSS
eURVE HALF-CIRCLE LARGEaSThMEDIUMgSMALLqITTING CHESTfFRONT WALLsQUARTER LARGEaSThMEDIUMgSMALL
nTHEN STRAIGHTlREE-QUARTER CIRCLE MEDIUMgSMALLzcD CROSS MEDIUMgSMALLsDOUBLE ALTERNATINGa WRIST FLEX
wSTRAIGHTiWRIST FLEXrFINGER CIRCLES DOUBLEgSINGLEnONTACToHUMP HITTING CHESTfFRONT WALLsLARGEfMEDIUM
gSMALLkJAWdLOOP HITTING CHESTfFRONT WALLsLARGEfMEDIUMgSMALLa DOUBLErPEAKS LARGEfMEDIUMgSMALL
lSHAKINGgINGLE STRAIGHT LARGEaSThMEDIUMgSMALLoWRIST FLEXrTRIPLE ALTERNATINGa WRIST FLEX
wSTRAIGHT MOVEMENTrWRIST FLEXrWAVE CURVE DOUBLE LARGEfMEDIUMgSMALLmTRIPLE LARGEfMEDIUMgSMALL
sDIAGONAL PATH LARGEfMEDIUMgSMALLtHITTING CHESTfFRONT WALLwRIST CIRCLE FRONT DOUBLEgSINGLE
zZIGZAG LARGEfMEDIUMgSMALLzgNECKdOSE CONTACThNEUTRALhWIGGLESgRINKLESnPARENTHESIS
lROTATION MODIFIER-10b1b2b3b4b5b6c2b3b4b5b6b7b8b9l-FLOORPLANE ALTERNATINGa HITTING CEILINGhFLOOR
zDOUBLEa HITTING CEILINGhFLOORuSINGLEa HITTING CEILINGhFLOORzgWALLPLANE ALTERNATEbING HITTING CHEST
fFRONT WALLzfDOUBLEa HITTING CHESTfFRONT WALLzSINGLEa HITTING CHESTfFRONT WALLzsUB BETWEENhMULTIPLE
iSINGLEkSEMICOLONiHOULDER HIP POSITIONSjSPINEjTILTING FROM WAISTzbQUEEZE FLICK ALTERNATING
rLARGE MULTIPLEiSINGLEmSEQUENTIALjMALL MULTIPLEiSINGLEtTRIKE BETWEENhMULTIPLEiSINGLEmURFACE BETWEEN
hSYMBOLSpTEETHa BITE LIPSjMOVEMENTiON LIPSa MOVEMENTnTONGUEa MOVEMENTwNSE CHEEKS HIGHeLOWdMIDDLE
sONGUE CENTRE INSIDE MOUTHmSTICKING OUTtINSIDE MOUTH RELAXEDuLICKING LIPSmMOVES AGAINST CHEEK
tSTICKING OUT FARqTIP BETWEEN LIPSmTOUCHING INSIDE MOUTHzfRSO-FLOORPLANE TWISTING
tWALLPLANE CURVED BENDlSTRAIGHT STRETCHzfUCH BETWEENhMULTIPLEiSINGLE
lRAVEL-FLOORPLANE ROTATION-FLOORPLANE ALTERNATINGlDOUBLEgSINGLErWALLPLANE ALTERNATINGlDOUBLEgSINGLE
zSHAKINGsWALLPLANE ARM SPIRAL DOUBLEgSINGLEgTRIPLErROTATION-FLOORPLANE ALTERNATINGlDOUBLEgSINGLE
rWALLPLANE ALTERNATINGlDOUBLEgSINGLEzSHAKINGyUPPER BODY TILTING FROM HIP JOINTS
zjWALLPLANE SHOULDER HIP MOVEzmLHOUETTE OF JAPANrMILAR ABOVE GREATER-THAN ABOVE EQUALS SIGN
zfLESS-THAN ABOVE EQUALS SIGNziMINUS SIMILARnOR GREATER-THANmLESS-THANsNE WAVE
gGLE CHARACTER INTRODUCERuGRAPHIC CHARACTER INTRODUCERzdHIGH-REVERSED-9 QUOTATION MARK
zfLEFT-POINTING ANGLE QUOTATION MARKziOW-9 QUOTATION MARKuRIGHT-POINTING ANGLE QUOTATION MARK
zkSHIFT THREEeWOk-SHIFT-2b3lHALA ARCHAIC DIGIT EIGHTfFIVEdOUReNINEeONEdSEVENeIXdTHREEeWO
jNUMBER EIGHTYgFIFTYeORTYfNINETYgONE HUNDREDhTHOUSANDmSEVENTYgIXTYfTENcHIRTYfWENTYvLETTER AAYANNA
gEEYANNAgYANNAgIYANNAgLPAPRAANA BAYANNAhCAYANNAhDAYANNAgDAYANNAiGAYANNAhJAYANNAhKAYANNAhPAYANNA
hTAYANNAgTAYANNAsMBA BAYANNAlUYANNAgYANNAgDANTAJA LAYANNAhNAYANNAhSAYANNApEEYANNAgYANNAgFAYANNA
hHAYANNAhIIYANNAgLUUYANNAgYANNAhRUUYANNAgYANNAhYANNAgKANTAJA NAASIKYAYAsMAHAAPRAANA BAYANNAhCAYANNA
hDAYANNAgDAYANNAiGAYANNAhJAYANNAhKAYANNAhPAYANNAhTAYANNAgTAYANNAsYANNAgUURDHAJA LAYANNAhNAYANNA
hSAYANNArOOYANNAgYANNAgRAYANNAhSANYAKA DAYANNAgDAYANNAiGAYANNAhJAYANNApTAALUJA NAASIKYAYA
kSANYOOGA NAAKSIKYAYAsYANNApUUYANNAgYANNAgVAYANNAhYAYANNAnITH DIGIT EIGHTfFIVEdOUReNINEeONEdSEVEN
eIXdTHREEeWOdZEROpPUNCTUATION KUNDDALIYAwSIGN AL-LAKUNAiNUSVARAYAkCANDRABINDUlVISARGAYA
oVOWEL SIGN AELA-PILLAkDIGA AEDA-PILLAkGAETTA-PILLAkYANUKITTAlIS-PILLAiKOMBUVAhPAA-PILLA
oGAETTA-PILLAkYANUKITTAlKETTI AEDA-PILLAkIS-PILLAiPAA-PILLAoOMBU DEKAfVAa HAA AELA-PILLA
kDIGA AELA-PILLApGAYANUKITTAzpX PETALLED BLACK AND WHITE FLORETTEzhOINTED BLACK STARkPINWHEEL STAR
nSTAR WITH MIDDLE DOTze-PER-EM SPACEnTEEN POINTED ASTERISKxKATEBOARDiI AND SKI BOOTnERdULL
a AND CROSSBONESrNKeLANTED EQUAL TO OR GREATER-THANa WITH DOT INSIDEzdLESS-THANa WITH DOT INSIDE
zmNORTH ARROW WITH HOOKED HEADjRIZONTAL TAILzmVONIC ASTERISKpEDbEPING ACCOMMODATIONnFACEeSYMBOL
kY FACEiUTH OR SPYlICE OF PIZZAlGHTLY FROWNING FACEnSMILING FACEtOPEbING LARGE ANDdORnT MACHINEiH
eMALL AIRPLANEhMPERSANDiSTERISKiBLUE DIAMONDmCOLONdMMAbERCIAL ATlNTAINS AS MEMBERjWITH OVERBAR
hVERTICAL BAR AT END OF HORIZONTAL STROKEzzeDOLLAR SIGNlELEMENT OFa WITH OVERBAR
hVERTICAL BAR AT END OF HORIZONTAL STROKEzzfM DASHgQUALS SIGNkXCLAMATION MARKqFULL STOP
jGREATER-THAN SIGNrHYPHEN-MINUSmIDEOGRAPHIC COMMArLEFT CURLY BRACKETnPARENTHESIS
lTORTOISE SHELL BRACKETzSS-THAN SIGNoNUMBER SIGNlORANGE DIAMONDoPERCENT SIGNlLUS SIGNjQUESTION MARK
nREVERSE SOLIDUSoIGHT CURLY BRACKETnPARENTHESISlTORTOISE SHELL BRACKETzcOMAN NUMERAL EIGHTeLEVEN
gFIFTYdVEa HUNDREDlOUReNINEeONEa HUNDREDhTHOUSANDmSEVENeIXdTENcHREEeWELVEeOrSEMICOLONjTILDE
eWO DOTS OVER ONE DOT PUNCTUATIONziVEE WITH UNDERBARsER THANa OR EQUAL TOvSH PRODUCTlILE
bING CAT FACE WITH HEART-SHAPED EYESrOPEN MOUTHyFACE WITH HALOdEART-SHAPED EYESqORNSfOPEN MOUTH
a AND COLD SWEATkSMILING EYESmTIGHTLY-CLOSED EYESzjSMILING EYESa AND HAND COVERING MOUTH
tTHREE HEARTSzdUNGLASSESkTEARtRKING FACElOKING SYMBOLnNAILcKEdEEZING FACElOW CAPPED MOUNTAIN
qBOARDERhFLAKEfMANa WITHOUT SNOWtOaCCER BALLiKSdFT HYPHENgICE CREAMjSHELL FLOPPY DISKsBALL
eWARE-FUNCTION SYMBOLwGDIAN COMBINING CURVE ABOVEfBELOWlDOT ABOVEfBELOWjHOOK ABOVEfBELOW
kLONG HOOK BELOWpRESH BELOWkSTROKE BELOWmTWO DOTS ABOVEfBELOWyINDEPENDENT SHINqLETTER ALEPHeYIN
eBETHeFETHeGIMELfHEaTHeKAPHeLAMEDHfESHeMEMdNUNdPEcRESH-AYINjSADHEdMEKHfHINeTAWdWAWdYODHeZAYIN
mNUMBER ONEa HUNDREDlTENcWENTYnPUNCTUATION CIRCLE WITH DOTpHALF CIRCLE WITH DOT
uTWO CIRCLES WITH DOTSrVERTICAL BARSa WITH DOTSzuHbLID QUILT SQUARE ORNAMENTa IN BLACK SQUAREznUS
a WITH OVERBARsM SIGNgON WITH RIGHTWARDS ARROW ABOVEzfRA SOMPENG DIGIT EIGHTfFIVEdOUReNINEeONE
dSEVENeIXdTHREEeWOdZEROkLETTER AHcBAHdCAHdDAHdEEHcHcGAHdHAHdIHcJAHdKAHdLAHdMAEbHdNAHcGAHdYAHeOHcPAH
dRAHdSAHdTAHdUHcVAHdYAHvSbUND RECORDING COPYRIGHTwTH EAST ARROWa AND SOUTH WEST ARROW
uCROSSING NORTH EAST ARROWzTO CORNERjWITH HOOKpBLACK ARROWlDOUBLE ARROWmPOINTING BUDdLEAFeVINE LEAF
sSANS-SERIF ARROWqTRIANGLE-HEADED ARROWa TO BARzdWHITE ARROWqWEST ARROWa AND NORTH WEST ARROW
uWITH HOOKpBLACK ARROWlDOUBLE ARROWmPOINTING BUDdLEAFeVINE LEAFsSANS-SERIF ARROW
qTRIANGLE-HEADED ARROWa TO BARzdWHITE ARROWuYOMBO CLUSTER-INITIAL LETTER LAcRAcSAbHA
zbFINAL CONSONANT SIGN -AcBbDbGbKbLbMbNaGcRbSaHxGEMINATION MARKpHEAD MARK WITH MOON AND SUN
a AND FLAMEfTRIPLE FLAMEztLETTER -AcAbBAbHAdCAbHAdDAbDAbHAdHAcZAdGAbHAdHAcJAbHAdKAbHAcSSAeLAcMAcNA
bGAcNAcYAdPAbHAdRAcSAbHAcSAdTAbHAcSAbHAdTAbHAeVAcYAcZAbHAkMARK DOUBLE SHADlPLUTAfSHADeTSHEG
kSIGN ANUSVARAiJIHVAMULIYAlUPADHMANIYAlVISARGAlUBJOINERjTERMINAL MARK-1b2pVOWEL LENGTH MARKlSIGN AI
bUcEbIbOaEcUaEcVOCALIC LbRzcPaAaCEcGHETTIgRKLEaScING HEARTnEAK-NO-EVIL MONKEYpER
a WITH CANCELLATION STROKEtONE SOUND WAVEoTHREE SOUND WAVESzING HEAD IN SILHOUETTEyECH BALLOON
kDBOATgSMILO SIGNlHERICAL ANGLEa OPENING LEFTeUPyIDERa WEBhRAL CALENDAR PADmNOTE PADiSHELL
kLASHING SWEAT SYMBOLuONGEdOL OF THREADlNcRTS MEDALjUTING WHALEnQUARE A OVER MhARUdMbNPEAePAATO
fRUHUAfUcBAARERUfRcEETAeIRUdORUTOfQbUSSYERUiC OVER KGiALbPcCbDbMa CUBEDfSQUAREDjOaRPORATIONkUPdDA
aASUeBbESIdJbLbMa CUBEDfSQUAREDjORUeEEKAAeRA NAME HEISEIgMEIZIfREIWAfSYOUWAgTAISYOUoGcSUKUUDOhVcFM
bOOTcUR CORNERSmGALbNMAdRONeBbHZcIGAcNIIdRUDAAgPAcURAMUaTONiYcHAaITUeEKUTAARUhRUTUfGbIRAGANA HOKA
mONbONbRUePaAcUARADDOgIITOeRANeZcIMAGE OFa OR EQUAL TOiNOT EQUAL TOxNaINGUeTIdUcK OHMeAaIRIdRATTO
eORIIgBbCALdEESUeGbHZcIROaGURAMUgMEETORUhWATTOiKbLbMa CAPITALgUBEDfSQUAREDjOOPOdRUNAfPAcTbUROONE
eUZEIROiVbWbYURIIgLEFT OPEN BOX OPERATORvMbNbOGbZENGEgXcM CUBEDfOHMcVER Sa SQUAREDoSQUAREDiAaHHA
dIKUROeRUdNSYONfRUKUfBa SMALLhEETORUfGAaTONgGbHZcIKURONfLbRIaBAARUiLbMa CUBEDfSQUAREDjOLcPAcSbU AbF
bGbLbMbSbVbWdVa MEGAgWa MEGAhNAaNOdFbMbOTTOeSbVbWcONSUdOMUdRIGINAL OFa OR EQUAL TOiNOT EQUAL TOzbV
cPAa AMPSfASENTOfTUeCbEEZIdNIHIdSUdSOdFbHbIASUTORUhKObURUfMbOINTOeNDOdSITION INDICATORrPMcRbSbVbW
cRADa OVER Sa SQUAREDrEMUcNTOGENhIGHT OPEN BOX OPERATORvRAcTTORUgOOTdUPIIdUBURUhSAIKURUfNTIIMUhENTI
bOeIRINGUgRbVcTARGETfHZcONdUONdV OVER MiWATTOeBbITH BOTTOM HALF BLACKrCONTOURED OUTLINE
rDIAGONAL CROSSHATCH FILLyHORIZONTAL FILLpLEFT HALF BLACKoOWER LEFT DIAGONAL HALF BLACK
yRIGHT DIAGONAL HALF BLACKzgORTHOGONAL CROSSHATCH FILLzbRIGHT HALF BLACKqTOP HALF BLACK
oUPPER LEFT DIAGONAL HALF BLACKtTO LOWER RIGHT FILLyRIGHT DIAGONAL HALF BLACKtTO LOWER LEFT FILL
zfVERTICAL FILLsYAADOcRUeUANfD ASTERISKiCJK UNIFIED IDEOGRAPH-4E00b9c2Dc8CcA4e518Dd21Dc4Dc72d3CCcF3
d408c39d5B6d8F0d91Ac29dB57dDE6dF8Ce624Bc53c95d307c55d599cB0d620d708b9dE80dF14e7121d51Fc33d981dA7A
dD42e89E3dCA9dD70e904Ad14DzLbOOLeDOT OPERATORmEIGHT KhFALLING DIAGONAL SLASHvIVE POINT ONE
nOUR DOT PUNCTUATIONpKfREEeHCbDRcI-RESfVcIDcKATAKANA DEcKOKOeSAkEYdLATIN CAPITAL LETTER AbBbCbDbEbF
bGbHbIbJbKbLbMbNbObPbQbRbSbTbUbVbWbXbYbZqSMALL LETTER DtOGICAL ANDdORiSSLESSiMINUSeVcNEWcGcOK
bNE HUNDRED TWENTY PuPLUSdPVdRISING DIAGONAL SLASHvSALTIREgDbECOND SCREENlVEN POINT ONEoHVcIXTY P
gMALL CIRCLElOScQUAREfScTHREE DgIMESeWENTY-TWO POINT TWOsO KfUHDcP WITH EXCLAMATION MARKyVODcScWC
gT BLACK RIGHTWARDS ARROWzIDeS2b3bAcTaADIUMeFF OF AESCULAPIUSlHERMESmMPED ENVELOPEnNDING PERSON
mR AND CRESCENTmEQUALSgOF DAVIDhPERATORiWITH LEFT HALF BLACKpRIGHT HALF BLACKwT OF GUARDED AREA
mHEADINGhPROTECTED AREAoSELECTED AREAmTRINGgTEXTkTIONdUE OF LIBERTYpEAM LOCOMOTIVElING BOWL
kNOGRAPHIC FULL STOPtTHOSCOPEjICK FIGUREa LEANING LEFTeRIGHTnWITH ARMS RAISEDlDRESSvOCK CHART
iPWATCHhRAIGHT RULERgNESSiWBERRYhESS OUTLINED WHITE STARxICTLY EQUIVALENT TOsNG TERMINATORpS
bUDIO MICROPHONEoFFED FLATBREADoPAdXcUBaSCRIPT EIGHTeQUALS SIGNlFIVEdOUReLEFT PARENTHESISqMINUS
fNINEeONEdPLUS SIGNjRIGHT PARENTHESISrSEVENeIXdTHREEeWOdZEROkET ABOVE RIGHTWARDS ARROWqSUBSET
ePERSEToOFa ABOVE ALMOST EQUAL TOpEQUALS SIGNlNOT EQUAL TOmTILDE OPERATORuOR EQUAL TO
a WITH DOT ABOVEzbWITH NOT EQUAL TOuWITH DOTdMULTIPLICATION SIGN BELOWzPLUS SIGN BELOWxTITUTE
iCCEEDSa ABOVE ALMOST EQUAL TOpEQUALS SIGNlNOT ALMOST EQUAL TOpEQUAL TOmSINGLE-LINE EQUALS SIGN
lNOT EQUAL TOzfBUT NOT EQUIVALENT TOvOR EQUAL TOfIVALENT TOqUNDER RELATIONvMMATION BOTTOMgTOP
dWITH INTEGRALvNa BEHIND CLOUDmWITH FACEkDANESE AVAGRAHAiCONSONANT SIGN PAMINGKALhNYAKRAeIKU
fSANGAN MAcWAzbDIGIT EIGHTfFIVEdOUReNINEeONEdSEVENeIXdTHREEeWOdZEROkLETTER AaEcBAbHAdCAcDAcEaUcFA
bINAL KbMhGAcHAcIbJAcKAbHAdLAbEUdMAcNAbGAcYAdObPAcQAcRAbEUdSAbYAdTAcUbVAcWAcXAcYAcZA
jPUNCTUATION BINDU BA SATANGAkCAKRAfDA SATANGAkKA SATANGAkLEU SATANGAlPANGLONGhURNAMAhSURYA
xSIGN PAMAAEHfNGLAYARfWISADgYECEKiVIRAMAlVOWEL SIGN PAMEPETfNAELAENGhEULEUNGhGHULUfOLONGfYUKU
zFLOWERgRISEa OVER MOUNTAINStSET OVER BUILDINGStPERHEROeSCRIPT EIGHTeQUALS SIGNlFIVEdOUR
eLATIN SMALL LETTER IbNtEFT PARENTHESISqMINUSfNINEeONEdPLUS SIGNjRIGHT PARENTHESISrSEVENeIXdTHREE
eWOdZEROkET ABOVE LEFTWARDS ARROWpSUBSETePERSEToBESIDE AND JOINED BY DASH WITH SUBSETzfSUBSETnOF
a ABOVE ALMOST EQUAL TOpEQUALS SIGNlNOT EQUAL TOmTILDE OPERATORuOR EQUAL TOa WITH DOT ABOVE
zbWITH NOT EQUAL TOuPRECEDING SOLIDUSrWITH DOTdMULTIPLICATION SIGN BELOWzPLUS SIGN BELOWyVILLAIN
kRFACE INTEGRALmEReSHIcPENSION RAILWAYrWANbSH AMPERSAND ORNAMENTwIMMERfUNG DASH
jYLOTI NAGRI LETTER AbBHOcOcCHOcOcDDHOcOcHOcOcEbGHOcOcHOcIbJHOcOcKHOcOcLOcMOcNOcObPHOcOcRObROdSO
cTHOcObTHOcOdUiPOETRY MARK-1b2b3b4nSIGN ALTERNATE HASANTAqNUSVARAiDVISVARAiHASANTAmVOWEL SIGN AbEbI
bOOcUxMBOL FOR ACKNOWLEDGElBACKSPACEiELLeCANCELeRRIAGE RETURNpDATA LINK ESCAPEpELETEa FORM TWO
nVICE CONTROL FOUReONEdTHREEeWOsEND OF MEDIUMgTEXTdRANSMISSIONa BLOCKxQUIRYgSCAPEgFILE SEPARATOR
nORM FEEDjGROUP SEPARATORpHORIZONTAL TABULATIONvLINE FEEDjMARKS CHAPTERnNEGATIVE ACKNOWLEDGEsWLINE
gULLeRECORD SEPARATORqSAMARITAN SOURCEpHIFT INcOUTiPACEeTART OF HEADINGhTEXTmUBSTITUTEa FORM TWO
sYNCHRONOUS IDLEqTYPE A ELECTRONICSsUNIT SEPARATORoVERTICAL TABULATIONzcMETRYgNaAGOGUE
gCHRONOUS IDLEoRIAC ABBREVIATION MARKrBARREKHhCOLON SKEWED LEFTeRIGHTqNTRACTION
lDOTTED ZLAMA ANGULARhHORIZONTALxEND OF PARAGRAPHpSASA ABOVEfBELOWlFEMININE DOTmHARKLEAN ASTERISCUS
kMETOBELUSjOBELUSoBASA ABOVEfBELOWg-ESASA DOTTEDrORIZONTAL COLONqLETTER ALAPHfBETHeDALATH
fOTLESS DALATH RISHtEbFINAL SEMKATHnGAMALa GARSHUNIoHEaTHeKAPHeLAMADHgMALAYALAM BHAdJAcLLAbLAeNGA
cNAbNAdYAdRAcSSAdTTAmIMdNUNdPEaRSIAN BHETHfDHALATHhGHAMALoQAPHeREVERSED PEkISHeSADHEeEMKATHgHIN
dOGDIAN FEcKHAPHfZHAINmUPERSCRIPT ALAPHrTAWcETHa GARSHUNInWAWdYUDHa HEhZAINlMUSIC
fOBLIQUE LINE ABOVEfBELOWsPTHAHA ABOVEfBELOWfDOTTEDnQUSHSHAYAjRBASA ABOVEfBELOWkUKKAKHAhWAHA
fSUBLINEAR COLONa SKEWED LEFTeRIGHTsFULL STOPrPRALINEAR COLONa SKEWED LEFTrFULL STOP
vTHREE DOTS ABOVEfBELOWpWO VERTICAL DOTS ABOVEfBELOWxZQAPHA ABOVEfBELOWfDOTTEDqNGEhT-REXdSHIRTgAB
aLE TENNIS PADDLE AND BALLzbCOcG AMPERSANDiPOSTROPHEjSTERISKiCIRCUMFLEX ACCENTqOLONdMMAbERCIAL AT
nDIGIT EIGHTfFIVEdOUReNINEeONEdSEVENeIXdTHREEeWOdZEROjOLLAR SIGNlEQUALS SIGNkXCLAMATION MARK
qFULL STOPjGRAVE ACCENTkEATER-THAN SIGNrHYPHEN-MINUSmLATIN CAPITAL LETTER AbBbCbDbEbFbGbHbIbJbKbLbM
bNbObPbQbRbSbTbUbVbWbXbYbZqSMALL LETTER AbBbCbDbEbFbGbHbIbJbKbLbMbNbObPbQbRbSbTbUbVbWbXbYbZ
tEFT CURLY BRACKETnPARENTHESISlSQUARE BRACKETrSS-THAN SIGNnOW LINEiNUMBER SIGNlPERCENT SIGN
lLUS SIGNjQUESTION MARKlOTATION MARKoREVERSE SOLIDUSoIGHT CURLY BRACKETnPARENTHESISlSQUARE BRACKET
uSEMICOLONiOLIDUSgPACEfTILDEfVERTICAL LINEoALOG LETTER AaRCHAIC RAkBAcDAcGAcHAcIbKAcLAcMAcNAbGAdPA
cRAcSAcTAcUbWAcYAjSIGN PAMUDPODiVIRAMAlVOWEL SIGN IbUrBANWA LETTER AbBAcDAcGAcIbKAcLAcMAcNAbGAdPA
cSAcTAcUbWAcYAjVOWEL SIGN IbUtI LE LETTER AaIbUEdEaEbHcFAcHAcIbKAbHAdLAcMAcNAbGAdOaOcPAbHAdQAcSAcTA
bHAcONE-2b3b4b5b6fSAbHAeUaEcVAcXAcYAmTHAM COMBINING CRYPTOGRAMMIC DOTzNSONANT SIGN BAcFINAL NGA
jHIGH RATHA OR LOW PAuLA TANG LAIkOW PAgMAbEDIAL LAcRAjSArHORA DIGIT EIGHTfFIVEdOUReNINEeONEdSEVEN
eIXdTHREEeWOdZEROpLETTER AbBAcDAcEEcGREAT SAiHIGH CAbHAdFAcHAcKAbHAcXAdPAbHAdRATHAfSAbHAcSAdTAbHA
dYAhIaIcLAaEcLAcOW CAbHAdFAcHAcKAbHAcXAdPAbHAdRATHAfSAcTAbHAdYAfUEdMAcNAbGAcYAdOOcRAaNAcTAdUEdUaU
cWAjSIGN CAANGfDOKMAIgHANGdOYdKAANaKUUgEOWdHUEN TONE-3b4b5h-LUE KARANpMAI KANGa LAIiSAMdYAMOK
jRA HAAMgEVERSED ROTATED RANAvSAKOTdTKAANaKUUiWANfTONE-1b2gWIANGaWAAKoTHAM DIGIT EIGHTfFIVEdOUR
eNINEeONEdSEVENeIXdTHREEeWOdZEROpVOWEL SIGN AaAbEbIcEbIaIcMAI SAThOaA ABOVEfBELOWhObYcTALL AA
gHAM AIhUaEbUaEtVIET LETTER HIGH BOcCHOcOcDOcFOcGOcHOcKHHOcOcOcLOcMOcNGOcObYOdObPHOcOcROcSOcTHOcO
cVOcYOhLOW BOcCHOcOcDOcFOcGOcHOcKHHOcOcOcLOcMOcNGOcObYOdObPHOcOcROcSOcTHOcOcVOcYOnMAI KANGdHIT
iSYMBOL HO HOIgKOI KOIfNdNUENGfSAMkTONE MAI EKcNUENGfSONGeTHOmVOWEL AAbMbNbUEcYcEbIaAcObUaAbEaA
qKEOUT BOXiRI ABBREVIATION SIGNrDIGIT EIGHTfFIVEdOUReNINEeONEdSEVENeIXdTHREEeWOdZEROkLETTER AaAbI
bRCHAIC KHAkUcBAbHAdCAbHAdDAbDAbHAdHAdEbGAbHAdHAcIaIcJAbHAdKAbHAdLAcMAcNAbGAcNAcYAdObPAbHAdRAbRAdSA
bHAdTAbHAcTAbHAeUaUcVAcYAjSIGN ANUSVARAiNUKTAfVIRAMAeSARGAmVOWEL SIGN AAbIbUcEbIaIcObUaU
rLLY MARK FIVEeONEmMALEdIL AND ODD SIGNlS ABOVE SIGNmU LENGTH MARKoCREDIT SIGNkURRENT SIGNmDAY SIGN
hEBIT SIGNjIGIT EIGHTfFIVEdOUReNINEeONEdSEVENeIXdTHREEeWOdZEROjRY CULTIVATION SIGN
uFRACTION DOWNSCALING FACTOR KIIZHyONE EIGHTHbIETHjFIFTHeORTIETHiHALF-1b2gONE-HUNDRED-AND-SIXTIETH
yQUARTERhSIXTEENTH-1b2hY-FOURTHmTENTHeHIRTY-SECONDlREE-HUNDRED-AND-TWENTIETHzbWENTIETH
nTHREE EIGHTIETHSkQUARTERSiSIXTEENTHSgY-FOURTHSnTWENTIETHSzIN POSSESSION SIGNsLAND SIGNiETTER AaAbI
bUcCAcEaEcHAcIaIcJAcKAcLAbLAbLAeMAcNAbGAcNAbNAdYAdOaOcPAcRAbRAdSAbHAcSAdTAbTAdUaUcVAcYAjMONTH SIGN
kNUMBER ONE HUNDREDhTHOUSANDmSIGNeTENkOMcPUNCTUATION END OF TEXTxRUPEE SIGNkSALT PAN SIGN
mIGN AAZHAAKKUiNUSVARAiCEVITUgKAACUeURUNIeZHIfMUKKURUNIhTHALIYAhUVUZHAKKUlNELdPAARAMeNAMdTHAKKUhON
dUZHAKKUhVAKAIYARAAiRAAKANhELIdIRAMAeSARGAlPENT SIGNjTARTING FROM SIGNsTOTAL SIGN
jRADITIONAL CREDIT SIGNlNUMBER SIGNxVOWEL SIGN AAbIbUcEaEcIaIcOaOcUaUnWET CULTIVATION SIGN
uYEAR SIGNnNABATA TREEkGERINEfSA DIGIT EIGHTfFIVEdOUReNINEeONEdSEVENeIXdTHREEeWOdZEROkLETTER ACbQ
bWCbQbXbZcXbZcBAcCAbHAdDAbHAdECbQbXbZcFAbINAL NGiGAbHAdHAbTAbTAeICbQbXbZcKAbHAdLAbONG UEXiMAbCbQbX
bZcNAbGAcHAcYAdOCbQbXbZcPAbHAdRAcSAbHAbORT AWXdUEZjTAbHAcSAdUCbECbQbXbZcICbQbUCbQbXbZcXbZcQbXbZcVC
bQbXbZcWAcXAcYAcZAmUT COMPONENT-001b2b3b4b5b6b7b8b9c10b1b2b3b4b5b6b7b8b9c20b1b2b3b4b5b6b7b8b9c30b1
b2b3b4b5b6b7b8b9c40b1b2b3b4b5b6b7b8b9c50b1b2b3b4b5b6b7b8b9c60b1b2b3b4b5b6b7b8b9c70b1b2b3b4b5b6b7b8
b9c80b1b2b3b4b5b6b7b8b9c90b1b2b3b4b5b6b7b8b9d100b1b2b3b4b5b6b7b8b9c10b1b2b3b4b5b6b7b8b9c20b1b2b3b4
b5b6b7b8b9c30b1b2b3b4b5b6b7b8b9c40b1b2b3b4b5b6b7b8b9c50b1b2b3b4b5b6b7b8b9c60b1b2b3b4b5b6b7b8b9c70b1
b2b3b4b5b6b7b8b9c80b1b2b3b4b5b6b7b8b9c90b1b2b3b4b5b6b7b8b9d200b1b2b3b4b5b6b7b8b9c10b1b2b3b4b5b6b7b8
b9c20b1b2b3b4b5b6b7b8b9c30b1b2b3b4b5b6b7b8b9c40b1b2b3b4b5b6b7b8b9c50b1b2b3b4b5b6b7b8b9c60b1b2b3b4b5
b6b7b8b9c70b1b2b3b4b5b6b7b8b9c80b1b2b3b4b5b6b7b8b9c90b1b2b3b4b5b6b7b8b9d300b1b2b3b4b5b6b7b8b9c10b1
b2b3b4b5b6b7b8b9c20b1b2b3b4b5b6b7b8b9c30b1b2b3b4b5b6b7b8b9c40b1b2b3b4b5b6b7b8b9c50b1b2b3b4b5b6b7b8
b9c60b1b2b3b4b5b6b7b8b9c70b1b2b3b4b5b6b7b8b9c80b1b2b3b4b5b6b7b8b9c90b1b2b3b4b5b6b7b8b9d400b1b2b3b4
b5b6b7b8b9c10b1b2b3b4b5b6b7b8b9c20b1b2b3b4b5b6b7b8b9c30b1b2b3b4b5b6b7b8b9c40b1b2b3b4b5b6b7b8b9c50b1
b2b3b4b5b6b7b8b9c60b1b2b3b4b5b6b7b8b9c70b1b2b3b4b5b6b7b8b9c80b1b2b3b4b5b6b7b8b9c90b1b2b3b4b5b6b7b8
b9d500b1b2b3b4b5b6b7b8b9c10b1b2b3b4b5b6b7b8b9c20b1b2b3b4b5b6b7b8b9c30b1b2b3b4b5b6b7b8b9c40b1b2b3b4
b5b6b7b8b9c50b1b2b3b4b5b6b7b8b9c60b1b2b3b4b5b6b7b8b9c70b1b2b3b4b5b6b7b8b9c80b1b2b3b4b5b6b7b8b9c90b1
b2b3b4b5b6b7b8b9d600b1b2b3b4b5b6b7b8b9c10b1b2b3b4b5b6b7b8b9c20b1b2b3b4b5b6b7b8b9c30b1b2b3b4b5b6b7b8
b9c40b1b2b3b4b5b6b7b8b9c50b1b2b3b4b5b6b7b8b9c60b1b2b3b4b5b6b7b8b9c70b1b2b3b4b5b6b7b8b9c80b1b2b3b4b5
b6b7b8b9c90b1b2b3b4b5b6b7b8b9d700b1b2b3b4b5b6b7b8b9c10b1b2b3b4b5b6b7b8b9c20b1b2b3b4b5b6b7b8b9c30b1
b2b3b4b5b6b7b8b9c40b1b2b3b4b5b6b7b8b9c50b1b2b3b4b5b6b7b8b9c60b1b2b3b4b5b6b7b8nITERATION MARK
tPE CARTRIDGEjDRIVEiURUSeXIdEACUP WITHOUT HANDLEsPOTdR-OFF CALENDARnDROP-BARBED RIGHTWARDS ARROW
xSPOKED ASTERISKwDDY BEARiLEPHONE LOCATION SIGNnON TOP OF MODEMpRECEIVERa WITH PAGEpORDERiSIGN
kSCOPEfVISIONhUGU AI LENGTH MARKoDIGIT EIGHTfFIVEdOUReNINEeONEdSEVENeIXdTHREEeWOdZERO
kFRACTION DIGIT ONE FOR EVEN POWERS OF FOURtODD POWERS OF FOURzbTHREE FOR EVEN POWERS OF FOUR
tODD POWERS OF FOURzcWO FOR EVEN POWERS OF FOURtODD POWERS OF FOURzbZERO FOR ODD POWERS OF FOUR
zrLENGTH MARKjTTER AaAbIbUcBAbHAdCAbHAdDAbDAbHAdHAcZAdEaEcGAbHAdHAcIaIcJAbHAdKAbHAdLAbLAbLAeMAcNA
aKAARA POLLUmGAcNAcYAdOaOcPAbHAdRAbRAbRAeSAbHAcSAdTAbHAcSAcTAbHAeUaUcVAbOCALIC LaLcRaRkYA
jSIGN ANUSVARAhVAGRAHAiCANDRABINDUkOMBINING ANUSVARA ABOVEoCANDRABINDU ABOVEzcNUKTAfSIDDHAMhTUUMU
fVIRAMAeSARGAmVOWEL SIGN AAbIbUcEaEcIaIcOaOcUaUcVOCALIC LaLcRaRzbNGE SIGNhNIS RACQUET AND BALLuT
cST TUBEhTRAGRAM FOR ACCUMULATIONlDVANCEgGGRAVATIONkSCENTgBARRIERgOLD RESOLUTIONoRANCHING OUT
nCENTREfHANGEfLOSED MOUTHhNESSfUREgOMPLETIONfIANCEiNSTANCYgTACTdENTIONgRARIETYlDARKENING
iECISIVENESSkFECTIVENESS OR DISTORTIONzPARTUREiIFFICULTIESkMINISHMENTjMINGfVERGENCEjOUBTeUTIESgEASE
dMBELLISHMENTmNCOUNTERSiDEAVOURhLARGEMENTkTERNITYhXHAUSTIONkFAILUREgLIGHTfOLLOWINGhSTERING
iULL CIRCLEhNESSiGATHERINGa INlOING TO MEETmREATNESSiUARDEDNESSlHARDNESShOLDING BACKmINCREASEgNER
fJOYdKEEPING SMALLmINSHIPhLABOURINGhW OR MODELlEGIONgMASSINGgEASUREgIREDfON THE VERGElPPOSITION
kPACKINGfTTERNgENETRATIONkURITYgREACHdLEASEfSIDENCEfSTANCEhPONSEhITUALgSEVERANCEiINKINGgTOPPAGEfVE
dRENGTHiUNITYfVASTNESS OR WASTINGtWAITINGfTCHfYOUTHFULNESSzHAANA AABAAFILIiBAFILIhEBEFILIgEBEEFILI
iYBEYFILIjIBIFILIhLETTER AINUdLIFUfBAAdCHAVIYANIjDAADHUeVIYANIhHAALUgFAAFUfGAAFUeHAINUfNAVIYANIjHAA
cHAAeJAVIYANIiKAAFUeHAAeLAAMUeHAVIYANIjMEEMUfNAAcOONUfPAVIYANIiQAAFUfRAAdSAADHUfEENUeHAVIYANIhEENU
gTAVIYANIhHAAaLUfObTAAeVAAVUfWAAVUfYAAdZAAbVIYANIhOjOABOAFILIiBOFILIgOBOOFILIjSUKUNfUBUFILI
lI CHARACTER ANGKHANKHUkBO BAIMAIjCHO CHANaGdINGdOEiDO CHADAfDEKgFO FAaNeNGMANhHO HIPdNOKHUK
jKHO KHAIcONcUATdWAIfRAKHANGiMUTfO KAIgLAKKHANGYAOkO CHULAfLINGgUcMAI CHATTAWAiEKcHAN-AKATiTHOcRI
eTAIKHUgYAMOKhO MAfNGO NGUgIKHAHIThO NENcUfO ANGfPAIYANNOIiHINTHUfO PHANcUNGfSAMPHAOkO PLAgRO RUAfU
cSARA AaAbEbI MAIMALAIeUANjMcEbIaIcObUaEaEcUgO RUSIeSALAdObUAgTHANTHAKHATjO NANGMONTHOkPHUTHAO
hTHAHANdNcONGdUNGiO PATAKfTAOgWO WAENhYAMAKKANhO YAKcINGqURRENCY SYMBOL BAHTuDIGIT EIGHTfFIVEdOUR
eNINEeONEdSEVENeIXdTHREEeWOdZEROnERE DOES NOT EXISToEXISTShFOREfMODYNAMIChMETERjIN GREEK CROSS
lSALTIREgPACEgKING FACEkRD PLACE MEDALpONG SANDALjUGHT BALLOONnREE BUTTON MOUSE
mCONSECUTIVE EQUALS SIGNSyDIMENSIONAL ANGLEqOT PUNCTUATIONpLEFTWARDS ARROWSpINES CONVERGING LEFT
eRIGHTwNETWORKED COMPUTERStPOINTED BLACK STARsRAYS ABOVEfBELOWfLEFTeRIGHTjIGHTWARDS ARROWS
rSPEECH BUBBLESp-D BOTTOM-LIGHTED RIGHTWARDS ARROWHEAD
zkLEFT-LIGHTED DOWNWARDS EQUILATERAL ARROWHEADztRIGHT-LIGHTED UPWARDS EQUILATERAL ARROWHEAD
zsTOP-LIGHTED LEFTWARDS EQUILATERAL ARROWHEADzgRIGHTWARDS ARROWHEADjEQUILATERAL ARROWHEADzvEM DASH
hPER-EM SPACEqUMBS DOWN SIGNjUP SIGNlNDER CLOUD AND RAINpSTORMlIBETAN ASTROLOGICAL SIGN -KHYUD PA
jSDONG TSHUGSlGRA GCAN -CHAR RTAGSzoCANTILLATION SIGN CANG TE-UjHEAVY BEATkLIGHT BEATkSBUB -CHAL
zdDIGIT EIGHTfFIVEdOUReHALF EIGHTfFIVEdOUReNINEeONEdSEVENeIXdTHREEeWOdZEROjNINEeONEdSEVENeIXdTHREE
eWOdZEROkKU RU KHAa BZHI MIG CANwLETTER -AcAbBAbHAdCAbHAdDAbDAbHAdHAcZAbHAeFIXED-FORM RAnGAbHAdHA
cJAcKAbHAcKAcSSAeLAcMAcNAbGAcNAcYAdPAbHAdRAbRAdSAbHAcSAdTAbHAcSAbHAdTAbHAeWAcYAcZAbHA
jOGOTYPE SIGN CHAD RTAGSkLHAG RTAGSyMARK ANG KHANG GYAScONoBKA- SHOG GI MGO RGYANmYIG MGO
qSDUS RTAGSjKA- SHOG GI MGO RGYANuUR YIG MGOnCARET -DZUD RTAGS BZHI MIG CANmME LONG CAN
xYIG MGO PHUR SHAD MAzHE MGOgLOSING BRDA RNYING YIG MGO SGAB MAzcYIG MGO SGAB MA
xDELIMITER TSHEG BSTARvGTER TSHEGfYIG MGO -UM GTER TSHEG MAnRNAM BCAD MAqTRUNCATED AxUG RTAGS GYAS
cONoHALANTAhINITIAL BRDA RNYING YIG MGO MDUN MAzcYIG MGO MDUN MAvTERSYLLABIC TSHEG
tLEADING MCHAN RTAGStMNYAM YIG GI MGO RGYANwNGAS BZUNG NYI ZLAhSGOR RTAGSuYIS SHADeTSHEGa SHAD
pPALUTAgRGYA GRAM SHADnIN CHEN SPUNGS SHADuSBRUL SHADjHADeTRAILING MCHAN RTAGStSA -PHRUhHEG SHAD
kYIG MGO TSHEG SHAD MAzbSIGN GRU CAN RGYINGSlMED RGYINGSpINVERTED MCHU CANrLCE TSA CANjI RTAGS
jMAR TSHESiCHU CANiNYI ZLA NAA DAoRDEL DKAR GCIGdNYISeSUMeRDEL NAGnNAG GCIGdNYISeSUMeRDEL DKAR
rJES SU NGA ROnNAM BCADjSNA LDANiYANG RTAGSiR TSHESnUBJOINED LETTER -AcAbBAbHAdCAbHAdDAbDAbHAdHAcZA
bHAeFIXED-FORM RAcWAcYAnGAbHAdHAcJAcKAbHAcSSAeLAcMAcNAbGAcNAcYAdPAbHAdRAcSAbHAcSAdTAbHAcSAbHAdTAbHA
eWAcYAcZAbHAkSIGN INVERTED MCHU CANrLCE TSA CANlMCHU CANwYLLABLE OMjMBOL DRIL BUhNOR BU
a BZHI -KHYILlGSUM -KHYILlNYIS -KHYILsPADMA GDANjHUR PAhRDO RJEa RGYA GRAMyVOWEL SIGN AAcEaEcIaIcO
aOcREVERSED IaIlUaUcVOCALIC LaLcRaRzcCKETeE OVER INFINITYpFINAGH CONSONANT JOINER
qLETTER AHAGGAR YAZHlYER YAGHjBERBER ACADEMY YAHbJsTAWELLEMET YAZnUAREG YAGHbNcHbKaHcNGcQbZHlYAaAbB
aHcCHcDaDaHcHcFbGaHaHdHaHcJbKaHaHdLbMbNbPbQbRaRcSaHbScTaHbTcVbWbYbZaHbZdEaYcIbObU
jMODIFIER LETTER LABIALIZATION MARKzjSEPARATOR MARKvGERa FACEhHT TRIFOLIATE SNOWFLAKEyLDEa OPERATOR
a ABOVE LEFTWARDS ARROWpRIGHTWARDS ARROWwWITH DOT ABOVEjRISING DOTSzWITH DOT ABOVEfBELOWjRING ABOVE
tMER CLOCKhS WITH LEFT HALF BLACKpRIGHT HALF BLACKzNYa TWO DOTS OVER ONE DOT PUNCTUATIONzlRED FACE
hHUTA ABBREVIATION SIGNqNJIeDIGIT EIGHTfFIVEdOUReNINEeONEdSEVENeIXdTHREEeWOdZEROkGVANGfLETTER AaAbI
bUcBAbHAdCAbHAdDAbDAbHAdHAdEbGAbHAdHAcIaIcJAbHAdKAbHAdLAcMAcNAbGAcNAcYAdObPAbHAdRAcSAbHAcSAdTAbHA
cTAbHAeUaUcVAbOCALIC LaLcRaRkYAjOMcSIGN ANUSVARAhVAGRAHAiCANDRABINDUlNUKTAfVIRAMAeSARGA
mVOWEL SIGN AAbIbUcEbIaIcObSHORT EbOhUaUcVOCALIC LaLcRaRzbONIAN SIGN CAPITAL ETkETpOILETeKYO TOWER
jMATOeNGUEeOLBOXeTHaBRUSHiP ARC ANTICLOCKWISE ARROWa WITH PLUSzeCLOCKWISE ARROW WITH MINUS
zfCURLY BRACKETnHALF BLACK CIRCLEmINTEGRALiLEFT PARENTHESISqRIGHT PARENTHESISrSECTION SIGNpT
dLEFT CORNERfROPeHALF BRACKETrPARENTHESISlRIGHT CORNERfROPeHALF BRACKETsSQUARE BRACKET
oTORTOISE SHELL BRACKETwWITH UPWARDS ARROW ABOVEzbRTOISE SHELL BRACKETED CJK UNIFIED IDEOGRAPH-4E09
c8Ce52DDdB89e6253d557d72Ce70B9d6D7zbLATIN CAPITAL LETTER SzuTAL RUNOUTjO LETTER AaEcBAbREATHY AEcE
aOcIaUkCHAdDAcEaOcGAcHAcIaUcJAcKAcLAcMAcNAbGAdObPAcRAcSAcTAcUbWAcYAjSIGN RISING TONEuRACKBALLfTOR
eDE MARK SIGNmINcMa CARfNSPLUTOfVERSAL INTERSECTIONwIANGLE WITH DOT ABOVEjROUNDED CORNERS
pSERIFS AT BOTTOMqUNDERBARo-HEADED RIGHTWARDS ARROWzbULAR BULLETgFLAG ON POSTmRULERnCOLON
fDENT EMBLEMlGRAM FOR EARTHfFIREeHEAVENgLAKEeMOUNTAINiTHUNDERhWATEReINDnPLE COLON OPERATORoDAGGER
gHORIZONTAL BAR WITH DOUBLE VERTICAL STROKEwTRIPLE VERTICAL STROKEzrINTEGRALiNESTED GREATER-THAN
mLESS-THANqPLUSdRIMEfSOLIDUS BINARY RELATIONxTILDEfVERTICAL BAR BINARY RELATIONpDELIMITER
jRIGHT TURNSTILEpWITH HORIZONTAL STROKEzpOLLaEYBUShPHYcICAL DRINKfFISHlUEa LIGHT MOON ARTArMPET
gUGRIK SIGNjLIPdMBLER GLASSlRKEYcISH LIRA SIGNoNED AMPERSANDiNGLEfBLACK PENTAGONiSHOGI PIECE
rCAPITAL FiOMMAfDAGGERfIGIT THREEeWOjGREEK SMALL LETTER IOTAxNORTH EAST POINTING LEAF
sWEST POINTING LEAFwT SIGNiOK HAND SIGNmSANS-SERIF CAPITAL GbLbYtEMICOLONiMALL F
gOUTH EAST POINTING LEAFsWEST POINTING LEAFyWHITE SHOGI PIECEvTLEfWELVE POINTED BLACK STAR
xISTED RIGHTWARDS ARROWSxO ASTERISKS ALIGNED VERTICALLYzdBUTTON MOUSEmCONSECUTIVE EQUALS SIGNS
yDOT LEADERgPUNCTUATIONmS OVER ONE DOT PUNCTUATIONzeHEARTSgINTERSECTING LOGICAL ANDdOR
xJOINED SQUARESoLOGICAL AND OPERATORmOR OPERATORtMEN HOLDING HANDSrSPEECH BUBBLES
oWOMEN HOLDING HANDSu-EM DASHlUGARITIC LETTER AINcLPAeBETAeDELTAeHALeGAMLAeHAINfHOaTAeIbKAFcHA
dLAMDAfMEMdNUNdPUcQOPAeRASHAfSADEcMKAeHINdSUdTETcHANNAfOcUbWOcYODdZETAdUjWORD DIVIDERuMBRELLA
a ON GROUNDjWITH RAIN DROPSxNAMUSED FACElCERTAINTY SIGNoDERTIEfO SYMBOLjICORN FACEjON
a ABOVE BAR ABOVE INTERSECTIONwINTERSECTIONsBESIDE AND JOINED WITH UNIONzdWITH LOGICAL OR
kMINUS SIGNkOVERBARpT SEPARATORkED SYMBOLkVERSAL RECYCLING SYMBOLyMARRIED PARTNERSHIP SYMBOL
zcP ARROW THROUGH CIRCLEpHEADa BETWEEN TWO HORIZONTAL BARSzcIN A RECTANGLE BOX
zdBARB LEFT DOWN BARB LEFT HARPOONmRIGHT HARPOONzdRIGHT DOWN BARB LEFT HARPOONmRIGHT HARPOON
zjDOWN ARROWa WITH BASEpBLACK ARROWlDOUBLE ARROWmSANS-SERIF ARROWqTRIANGLE-HEADED ARROWvWHITE ARROW
qFISH TAILjRIGHT DIAGONAL ELLIPSISxTACKa WITH CIRCLE ABOVEx-POINTING AIRPLANEiMILITARY AIRPLANE
rRED TRIANGLEmSMALL AIRPLANEiRED TRIANGLEsTRIANGLE WITH LEFT HALF BLACKpRIGHT HALF BLACK
zpPER AND LEFT AND LOWER TRIANGULAR THREE QUARTERS BLOCKzuOWER ONE EIGHTH BLOCK
qTRIANGULAR HALF BLOCKzcRIGHT AND LOWER TRIANGULAR THREE QUARTERS BLOCKzzbBLADE SCISSORS
oFIVE EIGHTHS BLOCKsHALF BLOCKa AND LOWER HALF INVERSE MEDIUM SHADEzqCIRCLE
gINVERSE MEDIUM SHADE AND LOWER HALF BLOCKziWHITE CIRCLEuMEDIUM SHADE
rLEFT BLOCK DIAGONAL LOWER CENTRE TO LOWER MIDDLE RIGHTsUPPER MIDDLE RIGHTmRIGHT
vLEFT TO LOWER MIDDLE RIGHTsUPPER CENTREgMIDDLE RIGHTzbMIDDLE LEFT TO UPPER CENTREgMIDDLE RIGHT
mRIGHTzhUPPER MIDDLE LEFT TO UPPER CENTREgRIGHTzwCORNER WITH DOT
pOR LOWER RIGHT CURLY BRACKET SECTIONzlQUADRANT CIRCULAR ARCvTO LOWER RIGHT FILLsRIANGLE
cULAR MEDIUM SHADEzdONE EIGHTH BLOCKmQUARTER BLOCK
rRIGHT BLOCK DIAGONAL LOWER MIDDLE LEFT TO LOWER CENTREgRIGHTzhUPPER CENTRE TO LOWER MIDDLE RIGHT
mRIGHTlUPPER MIDDLE RIGHTzdLEFT TO LOWER CENTREgMIDDLE RIGHTsUPPER MIDDLE RIGHT
zbMIDDLE LEFT TO LOWER CENTREgMIDDLE RIGHTmRIGHTzwDROP-SHADOWED WHITE SQUARE
zbOR LOWER LEFT CURLY BRACKET SECTIONzkPENCILgQUADRANT CIRCULAR ARCvSHADOWED WHITE CIRCLEgSQUARE
vTO LOWER LEFT FILLrRIANGLEcULAR MEDIUM SHADEzeSEVEN EIGHTHS BLOCKtTHREE EIGHTHS BLOCK
nQUARTERS BLOCKtRIANGULAR ONE QUARTER BLOCKzhSIDE-DOWN FACEoWARDS ANCORAfRROW
a AND RIGHT ONE EIGHTH BLOCKzbFROM BARiLEFTWARDS OF DOWNWARDS ARROWzdTO BARgWITH DOUBLE STROKE
nEQUILATERAL ARROWHEADvHORIZONTAL STROKErLARGE TRIANGLE ARROWHEADyMEDIUM TRIANGLE ARROWHEAD
zNOTCHED TAILmSMALL EQUILATERAL ARROWHEADvTRIANGLE ARROWHEADyTIP LEFTWARDSjRIGHTWARDSzBLACK ARROW
fCIRCLED WHITE ARROWzCOMPRESSED ARROWqDASHED ARROWlOUBLE ARROWmFINGER-POST ARROW
rHARPOON WITH BARB LEFT BESIDE DOWNWARDS HARPOON WITH BARB RIGHTziUPWARDS HARPOON WITH BARB RIGHT
znFROM BARiTO BARhWARDSjRIGHT FROM BARiTO BARhWARDSzcEAVY ARROWfCOMPRESSED ARROWwPAIRED ARROWS
nQUADRUPLE ARROWpROCKETgSANS-SERIF ARROWpQUARED ARROWnTRIANGLE ARROWHEADk-HEADED ARROW
a LEFTWARDS OF DOWNWARDS TRIANGLE-HEADED ARROWztTO BARgWITH BOLD SHAFTkDOUBLE HORIZONTAL STROKE
yHEAVY SHAFTlLONG TIP LEFTWARDSjRIGHTWARDStMEDIUM SHAFTmNARROW SHAFTmVERY HEAVY SHAFTzcDASHED ARROW
mPAIRED ARROWSzbPLE ARROWlWO HEADED ARROWn-HEADED ARROW FROM SMALL CIRCLErWITH TRIANGLE ARROWHEADS
zqWHITE ARROWa FROM BARa WITH HORIZONTAL BARzdON PEDESTALa WITH HORIZONTAL BARoVERTICAL BAR
zeWITHIN TRIANGLE ARROWHEADzgDOUBLE ARROWa ON PEDESTALzmRANUSfScVAI COMMAfDIGIT EIGHTfFIVEdOUReNINE
eONEdSEVENeIXdTHREEeWOdZEROkFULL STOPjQUESTION MARKnSYLLABLE AaNcBAbEaEcHAbEaEcIbOaOcUcIbOaOcUcCAbE
aEcIbOaOcUcDAbEaEcHAbEaEcHAbEaEcIbOaOcUcIbOaOcUcIbOaOcUcEaEaNcNcFAbEaEcIbOaOcUcGAbBAbEaEbNcIbOaNbO
cUcEaEbNcIbOaOcUcHAaNcEaEbNcIaNcOaNbOcUaNdIaNcJAbEaEcIbOaOcUcKAaNcEaEcIbOaOcPAaNcEaEbNcIbOaOcUcUcLA
bEaEbNGTHENERjIbOaOcUcMAbBAbEaEcIbOaOcUcEaEcGBAbEaEcIbOaOcUdIbOaOcUcNAbDAbEaEcIbOaLE DOcFAcKAcMA
cSOOgOcUcEaEcGaANcENcGAbEaEbNcIbOaOcUcONdIbJAbEaEcIbOaOcUcOaOcUbYAbEaEcIbOaOcUdOaNbOaNdPAbEaEcIbOaO
cUcRAbEaEcIbOaOcUcSAbEaEcHAbEaEcIbOaOcUcIbOaOcUcTAbEaEcHAbEaEcIbOaOcUcIbOaOcUcUaNcVAbEaEcIbOaOcUcWA
aNcEaEaNcNcIaNcOaNbOaNdUaNdYAbEaEcIbOaOcUcZAbEaEcHAbEaEcIbOaOcUcIbOaOcUjMBOL BANGeDANGdO-OcONGfFAA
cEENGfJONGeKEENGeUNGeNIIdTAAcINGdONGnMPIREfRIATION SELECTOR-1a0a0b1b2b3b4b5b6b7b8b9c1a0b1b2b3b4b5b6
b7b8b9c2a0b1b2b3b4b5b6b7b8b9c3a0b1b2b3b4b5b6b7b8b9c4a0b1b2b3b4b5b6b7b8b9c5a0b1b2b3b4b5b6b7b8b9c6a0
b1b2b3b4b5b6b7b8b9c7a0b1b2b3b4b5b6b7b8b9c8a0b1b2b3b4b5b6b7b8b9c9a0b1b2b3b4b5b6b7b8b9d2a0a0b1b2b3b4
b5b6b7b8b9c1a0b1b2b3b4b5b6b7b8b9c2a0b1b2b3b4b5b6b7b8b9c3a0b1b2b3b4b5b6b7b8b9c4a0b1b2b3b4b5b6b7b8b9
c5a0b1b2b3b4b5b6c6b7b8b9c3a0b1b2b3b4b5b6b7b8b9c4a0b1b2b3b4b5b6b7b8b9c5a0b1b2b3b4b5b6b7b8b9c6a0b1b2
b3b4b5b6b7b8b9c7a0b1b2b3b4b5b6b7b8b9c8a0b1b2b3b4b5b6b7b8b9c9a0b1b2b3b4b5b6b7b8b9
uECTOR OR CROSS PRODUCTvDIC SIGN ANUSVARA ANTARGOMUKHAmBAHIRGOMUKHAmUBHAYATO MUKHAoVAMAGOMUKHA
a WITH TAILzeRDHAVISARGAlTIKRAMAiDOUBLE ANUSVARA ANTARGOMUKHAzdHEXIFORM LONG ANUSVARAwJIHVAMULIYA
lLONG ANUSVARAnNIHSHVASAjREVERSED VISARGA ANUDATTAiUDATTAwOTATED ARDHAVISARGAtTHANG LONG ANUSVARA
uTIRYAKgUPADHMANIYAlVISARGA ANUDATTAa WITH TAILsSVARITAhUDATTAa WITH TAIL
yYAJURVEDIC MIDLINE SVARITAzgTONE ATHARVAVEDIC INDEPENDENT SVARITAzhCANDRA ABOVEfBELOWmDOT BELOW
hUBLE RING ABOVEkSVARITAoKARSHANAgTHAKA ANUDATTAqPRENKHAhRIGVEDIC KASHMIRI INDEPENDENT SVARITA
zkNG ABOVEkSHARAfTHREE DOTS BELOWpRIPLE SVARITAnWO DOTS BELOW
oYAJURVEDIC AGGRAVATED INDEPENDENT SVARITAzfINDEPENDENT SVARITAtKATHAKA INDEPENDENT SVARITA
a SCHROEDERzzhRSICLEfTICAL BAR BESIDE RIGHT TRIANGLEvDOUBLE LEFT TURNSTILEvTRIPLE RIGHT TURNSTILE
wWITH HORIZONTAL STROKEzbELLIPSISiFOUR DOTSjIDEOGRAPHIC ITERATION MARKzbKANA REPEAT MARK
a LOWER HALFkUPPER HALFpWITH VOICED SOUND MARKa UPPER HALFzuLINEa EXTENSIONjWITH CIRCLE ABOVEfBELOW
mMIDDLE DOTuMALE WITH STROKE SIGNvONE EIGHTH BLOCK-2b3b4b5b6b7sSIX DOTSiTAB KEYeULATIONa SETnILDE
eRAFFIC LIGHTnZIGZAG LINErY BOLD GREEK CROSSqHEAVY EIGHT POINTED BLACK STARsSPOKED ASTERISK
vFIVE SPOKED ASTERISKuGREEK CROSSlREVERSE SOLIDUSpSALTIREgIX SPOKED ASTERISKsOLIDUShWHITE CIRCLE
gSQUAREsMUCH GREATER-THANmLESS-THANrSTAeIBRATION MODEmCTORY HANDkDEO CAMERAgGAMEfCASSETTE
lETNAMESE ALTERNATE READING MARK CAcNHAYzkWDATA SQUAREnOLINeRGOdTHKUQI CAPITAL LETTER AbBBEcEcCEbHE
dDEbHEdEaIcFEcGAcHAbHAdIaJEdJEcKAcLAbLAdMEcNEbJEdObPEcQAcREcSEbHEdTEbHEdUbVEcXEcYbZErSMALL LETTER A
bBBEcEcCEbHEdDEbHEdEaIcFEcGAcHAbHAdIaJEdJEcKAcLAbLAdMEcNEbJEdObPEcQAcREcSEbHEdTEbHEdUbVEcXEcYbZE
xOIDED GREEK CROSSqLCANOeLEYBALLhUME INTEGRALoS1a0a0b1b2b3b4b5b6b7b8b9c1a0b1b2b3b4b5b6b7b8b9c2a0b1
b2b3b4b5b6b7b8b9c3a0b1b2b3b4b5b6b7b8b9c4a0b1b2b3b4b5b6b7b8b9c5a0b1b2b3b4b5b6b7b8b9c6a0b1b2b3b4b5b6
b7b8b9c7a0b1b2b3b4b5b6b7b8b9c8a0b1b2b3b4b5b6b7b8b9c9a0b1b2b3b4b5b6b7b8b9d2a0a0b1b2b3b4b5b6b7b8b9c1
a0b1b2b3b4b5b6b7b8b9c2a0b1b2b3b4b5b6b7b8b9c3a0b1b2b3b4b5b6b7b8b9c4a0b1b2b3b4b5b6b7b8b9c5a0b1b2b3b4
b5b6c6b7b8b9c3a0b1b2b3b4b5b6b7b8b9c4a0b1b2b3b4b5b6b7b8b9c5a0b1b2b3b4b5b6b7b8b9c6a0b1b2b3b4b5b6b7b8
b9c7a0b1b2b3b4b5b6b7b8b9c8a0b1b2b3b4b5b6b7b8b9c9a0b1b2b3b4b5b6b7b8b9dTaScULCANUS
fGAR FRACTION FIVE EIGHTHShSIXTHSkOUR FIFTHSlONE EIGHTHgFIFTHfHALFeNINTHfQUARTERhSEVENTHgIXTHfTENTH
eHIRDjSEVEN EIGHTHSnTHREE EIGHTHShFIFTHSgQUARTERSnWO FIFTHSgTHIRDSkZERO THIRDSzcWAFFLE
eNCHO DIGIT EIGHTfFIVEdOUReNINEeONEdSEVENeIXdTHREEeWOdZEROkLETTER AaAaNaGdNGcUcBAcCAcDAcEaNcFAcGA
cHAcIaNGdJAcKAbHAdLAbLHAeMAcNAbGAcYAdOaNaGdPAbHAdRAcSAbHAdTAbHAcRAcSAdUaENdVAcWAcYAbIHdZAjNGUN SIGN
jTONE KOIaNIfTUPaNIoING CRESCENT MOON SYMBOLuGIBBOUS MOON SYMBOLyRANG CITI CAPITAL LETTER AaMbNGcT
cBUcDAcEaNNbYdGAcHARcIYOdOLOcRReIIcKOcNGAAdUNGeOaDDdPUcSIIcSUUeTTEdUCbUcVIYOeWIcYAbObUaJ
sDIGIT EIGHTfFIVEdOUReNINEeONEdSEVENeIXdTHREEeWOdZEROkNUMBER EIGHTYgFIFTYeORTYfNINETYgSEVENTYgIXTY
fTENcHIRTYfWENTYnOMcSMALL LETTER AaMbNGcTcBUcDAcEaNNbYdGAcHARcIYOdOLOcRReIIcKOcNGAAdUNGeOaDDdPUcSII
cSUUeTTEdUCbUcVIYOeWIcYAbObUaJzNING SIGNkSTEBASKETjTCHcER BUFFALOhCLOSETgPOLOeWAVEfMELON
iVE ARROW POINTING DIRECTLY LEFTeRIGHTzeDASHgING BLACK FLAGkHAND SIGNjWHITE FLAGoY DASHeLINE
dOW LINEiOVERLINElXING CRESCENT MOON SYMBOLuGIBBOUS MOON SYMBOLzEARY CAT FACEiFACEiDDING
eGE-TAILED RIGHTWARDS ARROWzcIERSTRASS ELLIPTIC FUNCTIONzbGHT LIFTERlST SYRIAC CROSSqHALEdEEL
a OF DHARMAkCHAIR SYMBOLpITE ARROW SHAFT WIDTH ONEdTWO THIRDSzdBULLETgCHESS BISHOP
a ROTATED NINETY DEGREESoTWO HUNDRED SEVENTY DEGREESzrEQUIHOPPERa ROTATED NINETY DEGREESziKING
a ROTATED NINETY DEGREESoTWO HUNDRED SEVENTY DEGREESzoNIGHTa ROTATED FORTY-FIVE DEGREES
sNINETY DEGREESoONE HUNDRED THIRTY-FIVE DEGREESzgTHREE HUNDRED FIFTEEN DEGREES
zdWO HUNDRED SEVENTY DEGREESpTWENTY-FIVE DEGREESzp-BISHOPgQUEENfROOKlPAWNa ROTATED NINETY DEGREES
oTWO HUNDRED SEVENTY DEGREESzpQUEENa ROTATED NINETY DEGREESoTWO HUNDRED SEVENTY DEGREESzqROOK
a ROTATED NINETY DEGREESoTWO HUNDRED SEVENTY DEGREESzpTURNED BISHOPgKINGdNIGHTgPAWNeQUEENfROOK
qIRCLEa CONTAINING BLACK SMALL CIRCLEzeWITH DOT RIGHThWN ARROWkLOWER LEFT QUADRANTnRIGHT QUADRANT
uTWO DOTSiUPPER LEFT QUADRANTnRIGHT QUADRANTzgLUB SUITiONCAVE-SIDED DIAMONDa WITH LEFTWARDS TICK
oRIGHTWARDS TICKzrDIAMONDa CONTAINING BLACK MEDIUM DIAMONDoSMALL DIAMONDnVERY SMALL DIAMOND
zkIN SQUAREjSUITeWITH CENTRED DOTxOWN POINTING BACKHAND INDEXoINDEXfLEFT HAND INDEX
z-POINTING SMALL TRIANGLEoTRIANGLEvRAUGHTS KINGeMANmEXCLAMATION MARK ORNAMENTzFLAG
a WITH HORIZONTAL MIDDLE BLACK STRIPEznORETTEfWERfOUR POINTED CUSPeSTARqROWNING FACE
nHARD SHELL FLOPPY DISKvEARTa SUIThVY CHECK MARKkSALTIRE WITH ROUNDED CORNERSzhXAGON
gORIZONTAL ELLIPSEqURGLASSjLARGE SQUAREkTIN CROSSkEFT LANE MERGEkPOINTING BACKHAND INDEXoINDEX
p-POINTING POINTERhSMALL TRIANGLEoTRIANGLEvOZENGE CONTAINING BLACK SMALL LOZENGEznMEDIUM DIAMOND
hLOZENGEhSMALL SQUARElQUAREfTARkOON SELENAlNIBdPARALLELOGRAMmENNANTeTAGONiQUESTION MARK ORNAMENT
wRECTANGLEiIGHT POINTING BACKHAND INDEXoINDEXp-POINTING PENTAGONhOINTERhSMALL TRIANGLEoTRIANGLE
xSCISSORShESAME DOTjHOGI PIECEkMALL LOZENGEhSQUAREfTARiILING FACElPADE SUITjQUAREa BUTTON
gCONTAINING BLACK MEDIUM SQUAREnSMALL SQUAREmVERY SMALL SQUAREzjWITH CENTRE VERTICAL LINE
uLEFTWARDS TICKnOWER LEFT QUADRANTnRIGHT QUADRANTuRIGHTWARDS TICKoOUNDED CORNERS
pUPPER LEFT QUADRANTnRIGHT QUADRANTuVERTICAL BISECTING LINEzjTARdUNa BEHIND CLOUDa WITH RAIN
wWITH RAYSeSMALL CLOUDuTELEPHONEiOUCHTONE TELEPHONEsRAPEZIUMhIANGLE CONTAINING SMALL WHITE TRIANGLE
zoWO-WAY LEFT WAY TRAFFICyUP POINTING BACKHAND INDEXoINDEXp-POINTING CHEVRONhSMALL TRIANGLE
oTRIANGLEa WITH DOTzeVERTICAL BARdELLIPSEhRECTANGLEpY SMALL SQUAREs-FEATHERED RIGHTWARDS ARROW
zgIDE-HEADED DOWNWARDS BARB ARROWkHEAVY BARB ARROWqLIGHT BARB ARROWqMEDIUM BARB ARROW
rVERY HEAVY BARB ARROWzgLEFTWARDS BARB ARROWkHEAVY BARB ARROWqLIGHT BARB ARROWqMEDIUM BARB ARROW
rVERY HEAVY BARB ARROWzgNORTH EAST BARB ARROWkHEAVY BARB ARROWqLIGHT BARB ARROWqMEDIUM BARB ARROW
rVERY HEAVY BARB ARROWzbWEST BARB ARROWkHEAVY BARB ARROWqLIGHT BARB ARROWqMEDIUM BARB ARROW
rVERY HEAVY BARB ARROWzhRIGHTWARDS BARB ARROWkHEAVY BARB ARROWqLIGHT BARB ARROWqMEDIUM BARB ARROW
rVERY HEAVY BARB ARROWzhSOUTH EAST BARB ARROWkHEAVY BARB ARROWqLIGHT BARB ARROWqMEDIUM BARB ARROW
rVERY HEAVY BARB ARROWzbWEST BARB ARROWkHEAVY BARB ARROWqLIGHT BARB ARROWqMEDIUM BARB ARROW
rVERY HEAVY BARB ARROWzhUPWARDS BARB ARROWkHEAVY BARB ARROWqLIGHT BARB ARROWqMEDIUM BARB ARROW
rVERY HEAVY BARB ARROWzoGGLY VERTICAL LINEsLTED FLOWERlND BLOWING FACEmCHIMEgOWdE GLASShKING FACE
kRED KEYBOARDnJbOLF FACEhMANa WITH BUNNY EARSqS BOOTSfCLOTHEShHATdSANDALkENS SYMBOLlN SIGNgOD
cRD JOINERgSEPARATOR MIDDLE DOTwLD MAPgMbRIED FACElRAPPED PRESENTnEATH PRODUCTlNCHdSTLERS
hITING HANDmX IN A RECTANGLE BOXt-RAYeIANGQI BLACK CANNONfHARIOThELEPHANTiGENERALhHORSEfMANDARIN
iSOLDIERnRED CANNONfHARIOThELEPHANTiGENERALhHORSEfMANDARINiSOLDIERsORdYAWNING FACElELLOW HEART
kN SIGNgZIDI COMBINING HAMZA MARKkMADDA MARKuHYPHENATION MARKqLETTER BEcCHHIMdIMdIMdDADbLdELIFdTbW
bYNdFAcGAFdHAYcHAdJAcKAFcHAFeLAMa WITH DOT ABOVEsMIMdNUNdOWcPEbHEdQAFdRAbHAdSADcEbHINdINdTAbHEdUM
cVAa ALTERNATE FORMrWAWdXAbHEYNfYOTa WITH CIRCUMFLEX ABOVEzZAaLcEpI RADICAL BBUTdURdCHEcIPcUOPdYaP
bTdDDURdUcGAbEPcGOPcUOdOTdHMOcXITcOPcUOeJJIEcUTcYcOcKEbITdLIaEcYRdMIbOPdNBIEdYIPcOPdZUPeOPcPUTcYT
dQOTdSHATcOPcURcYcSIdTATcUcVEPcURdWOcYITcOcZAbOTcUPbRcZIETnSYLLABLE AaPbTbXcBAaPbTbXcBAaPbTbXcEaPbX
cIaEaPbTbXcPbTbXcOaPbTbXcUaOaPbXcPbRaXcTbXcYaPbTbXdEaPbXcIaEaPbTbXcPbTbXcOaPbTbXcUaOaPbXcPbRaXcTbX
cYaPbRaXcTbXdCAaPbTbXcEaPbXcHAaPbTbXcEaPbTbXcOaPbTbXcUaOaPbTbXcPbRaXcXcYaPbRaXcTbXdIaEaPbTbXcPbTbX
cOaPbTbXcUaOaPbXcPbRaXcTbXcYaPbRaXcTbXdDAaPbTbXcDAaPbTbXcEaPbXcIaEaPbXcPbTbXcOaPbTbXcUaOaPbXcPbRaX
cTbXdEaPbXcIaEaPbXcPbTbXcOaPbTbXcUaOaXcPbRaXcTbXdEaXcFAaPbTbXcIaPbTbXcOaPbXcUaPbRaXcTbXcYaPbTbXdGA
aPbTbXcEaPbTbXcGAaPbTbXcEaPbTbXcIaEaPbXcTbXcOaPbTbXcUaOaPbTbXcPbRaXcTbXdIaEaPbTbXcPbTbXcOaPbTbXcUaO
aPbTbXcPbRaXcTbXdHAaPbTbXcEaPbXcIEaXcTcLAaPbTbXcEaPbXcIaEaPbXcPbTbXcOaPbXcUaOaPbXcPbRaXcTbXcYaPbRaX
cTbXdMAaPbTbXcIaEaPbXcPbTbXcOaPbTbXcUaOaPbXcPbRaXcTbXcYaPbRaXcXdNAaPbTbXcEaPbXcIaEaPbTbXcPbTbXcOPbT
bXcUOaXcTdOaPbTbXcUOaPbTbXdXAaPbTbXcEaPbXcIaEaPbTbXcPbTbXcOaPbTbXcUOaPbTbXfIaEaPbTbXcPbT
aERATION MARKnXcJIaEaPbTbXcPbTbXcJIaEaPbTbXcPbTbXcOaPbTbXcUaOaPbXcPbRaXcTbXcYaPbTbXdOaPbTbXcUaOaPbT
bXcPbRaXcTbXcYaPbRaXcTbXdKAaPbTbXcEaPbTbXcIaEaPbXcPbTbXcOaPbTbXcUaOaPbXcPbRaXcTbXdLAaPbTbXcEaPbXcI
aEaPbTbXcPbTbXcOaPbTbXcUaOaPbTbXcPbRaXcTbXcYaPbRaXcTbXdMAaPbTbXcEaXcGAaPbTbXcEaPbXcIEaXdOaPbTbXcUaO
aPbXcPbRaXcTbXdIaEaPbXcPbTbXcOaPbTbXcUaOaPbTbXcPbRaXcTbXcYaPbTbXdNAaPbXcBAaPbTbXcIaEaPbXcPbTbXcOaP
bTbXcUaPbRaXcTbXcYaPbRaXcTbXdDAaPbTbXcEaPbXcIaEaXcPbTbXcOaPbTbXcUaPbRaXcTbXdEaPbXcGAaPbTbXcEaPbXcIE
aPbXdOaPbTbXcUOaTbXeIaEaPbXcPbTbXcJIaEaPbTbXcPbTbXcOaPbTbXcUaOaXcPbRaXcXcYaPbRaXcTbXdOaPbTbXcRAaPbT
bXcEaPbTbXcOaPbXcUaPbRaXcTbXcYaPbRaXcTbXdUaOaPbXcPbRaXcTbXcYIaEaPbTbXcPbTbXcOaPbTbXcUaOaPbXcPbTbX
dZAaPbTbXcEaXcIaEaPbXcPbTbXcOPbXcUaOaXcPbRaXcXcYaPbRaXcTbXeOaPbTbXcPAaPbTbXcIaEaPbXcPbTbXcOaPbTbXcU
aOaPbXcPbRaXcTbXcYaPbRaXcTbXdQIaEaPbTbXcPbTbXcOaPbTbXcUaOaPbTbXcPbRaXcTbXcYaPbRaXcTbXdRAaPbTbXcEaP
bXcOaPbTbXcRAaXcEaPbTbXcOaPbTbXcUaOaXcPbRaXcTbXcYaPbRaXcTbXdUaOaPbXcPbRaXcTbXcYaPbRaXcTbXdSAaPbTbX
cEaPbXcHAaPbTbXcEaPbTbXcOaPbTbXcUaOaPbXcPbRaXcTbXcYaPbRaXcTbXdIaEaPbXcPbTbXcOaPbTbXcSAaPbTbXcEaPbX
cIaEaPbXcPbTbXcOaPbTbXcUaPbTbXcYaPbRaXcTbXdUaOaPbXcPbRaXcTbXcYaPbRaXcTbXdTAaPbTbXcEaPbXcIaEaPbXcPbT
bXcOaPbTbXcUaOaPbTbXcPbRaXcTbXdUOaPbXdVAaPbTbXcEPbXcIaEaPbTbXcPbTbXcOaPbTbXcUaPbRaXcTbXcYaPbRaXcTbX
dWAaPbTbXcEaPbXcOaPbXcUaOaPbXeXIaEaPbTbXcPbTbXcOaPbTbXcUOaXdYaPbRaXcTbXdYIaEaPbTbXcPbTbXcOaPbTbXcU
aOaPbTbXcPbRaXcTbXcYaPbRaXcTbXdZAaPbTbXcEaPbXcHAaPbTbXcEaPbTbXcOaPbTbXcUaOaPbXcPbRaXcTbXcYaPbRaXcT
bXdIaEaPbXcPbTbXcOaPbTbXcUaOaPbXcPbRaXcTbXcYaPbRaXcTbXcZAaPbTbXcEaPbXcIaEaPbTbXcPbTbXcOaPbXcUaPbRaX
cXcYaPbRaXcTbXoN YANGhO-YOfZ NOTATION BAG MEMBERSHIPoDOMAIN ANTIRESTRICTIONwLEFT BINDING BRACKET
pIMAGE BRACKETsRANGE ANTIRESTRICTIONuELATIONAL COMPOSITIONvIGHT BINDING BRACKETpIMAGE BRACKET
tSCHEMA COMPOSITIONlPIPINGfROJECTIONqPOTeTYPE COLONuANABAZAR SQUARE CLOSING DOUBLE-LINED HEAD MARK
wHEAD MARKpUSTER-FINAL LETTER LAcRAcVAcYApINITIAL LETTER RAzFINAL CONSONANT MARK
uINITIAL DOUBLE-LINED HEAD MARKwHEAD MARKrLETTER -AcAbBAbHAdCAbHAdDAbDAbHAdHAcZAbHAeGAbHAdHAcJAcKA
bHAcSSAeLAcMAcNAbGAcNAcYAdPAbHAdRAcSAbHAcSAdTAbHAcSAbHAdTAbHAeVAcYAcZAbHAkMARK DOUBLE SHAD
lLONG TSHEGkSHADeTSHEGkSIGN ANUSVARAiCANDRA WITH ORNAMENToBINDUa WITH ORNAMENTzVIRAMAeSARGA
lUBJOINERjVOWEL LENGTH MARKlSIGN AIbUcEbIbOaEcREVERSED IkUaEzeEBRA FACEiRO WIDTH JOINER
gNO-BREAK SPACEmN-JOINERkSPACEoUSdIPPER-MOUTH FACEqNAMENNY COMBINING ATTACHING VERTICAL OMET
xLOWER TONAL RANGE INDICATORzcMARK BORZAYAhCHASHKAa POLNAYAoURVED OMETlDEMESTVENNY ZADERZHKA
uVOETOCHIEkGORAZDO NIZKO ON LEFTeRIGHTiS KRYZHEM ON LEFTeRIGHTyVYSOKOoKACHKAfRYZHa ON LEFTmUPNAYA
hLOMKAfMALO POVYSHE ON LEFTeRIGHTiS KHOKHLOM ON LEFTeRIGHTqRYZHEMiTRANNOuNIZKO ON LEFTeRIGHT
iS KRYZHEM ON LEFTeRIGHTyOBLACHKOhNbTSECHKAiPODCHASHIEa WITH VERTICAL STROKEzdVERTKAhVYSHE ON LEFT
eRIGHTiS KHOKHLOM ON LEFTeRIGHTqRYZHEMiTRANNOpRAVNOdZSEKAhSKOBAeOROCHYA NOZHKAoREDNE ON LEFTeRIGHT
oTRANNO MALO POVYSHEuTIKHAYAgOCHKAfSATA ON LEFTeRIGHTiS KRYZHEMpUDARKAgVYSOKO ON LEFTeRIGHT
iS KHOKHLOM ON LEFTeRIGHTqRYZHEMqZADERZHKAiELOcVOKkTONAL RANGE MARK MRACHNOhSVETLOgTRESVETLO
zlNEUME CHASHKAfELYUSTKAkDEMESTVENNY KLYUCHqRBITSAhOUBLE ZAPYATAYApUDAdVA V CHELNUmFITA
eGOLUBCHIK BORZYfMRACHNYhSVETLYgTIKHYeRESVETLYtKHAMILOgLYUCHfOBYLAfRYUKa TIKHYiZHeUFISMAhMECHIK
a KLYUCHENEPOSTOYANNYmPOVODNYhVOYkPOVODNYoNEMKAfOBLAKOfSOKAa KLYUCHEVAYA NEPOSTOYANNAYAoSVETLAYA
tRYUKOVAYA SVETLAYAtSVETLAYAiTRESVETLAYArPALKAdRAKLITgUKdEREVODKAa NEPOSTOYANNAYAxODCHASHIE
iLKULIZMYkREVERSED CHELYUSTKAsOGdSKAMEYTSA DVOECHELNAYA KLYUCHEVAYAlNEPOSTOYANNAYAoPROSTAYA
iSVETLAYAvKLYUCHENEPOSTOYANNAYAoVAYA SVETLAYAiTIKHAYAtMRACHNAYAjSVETLAYAiTIKHAYAgRESVETLAYA
uLOZHITIEa S KRYZHEMhZAPYATOYkZAKRYTOErTATYAa NEPOSTOYANNAYAoS DVUMYA ZAPYATYMIqKRYZHEMa I ZAPYATOY
sROGOMfZAPYATOYa I KRYZHEMhPODCHASHIEMyZAKRYTAYAa S ZAPYATOYzOPITSAa S OCHKOMiWITH SOROCHYA NOZHKA
zcRELA DVOECHELNAYAa KLYUCHEVAYApOKRYZHEVAYAkPOVODNAYAa KLYUCHEVAYAzgGROMNAYA
a WITH SINGLE ZAPYATAYAzbOKRYZHEVAYAa POVODNAYAuPOVODNAYAa WITH DOUBLE ZAPYATAYAqSINGLE ZAPYATAYA
zlKLYUCHENEPOSTOYANNAYAoPOVODNAYApRYUKOVAYAa GROMNAYAa WITH SINGLE ZAPYATAYAzbOKRYZHEVAYA
a POVODNAYAuPOVODNAYAa WITH DOUBLE ZAPYATAYAqSINGLE ZAPYATAYAzlPOVODNAYAjTRYASKApZHEVAYA
kMRACHNOTIKHAYAoNEPOSTOYANNAYAoPOLUPOVODNAYAlVODNAYAiROSTAYAiTIKHAYA PUTNAYAoRYASOGLASNAYA
iPOVODNAYAjSTRELNAYAwVRAKHIYA KLYUCHEVAYA MRACHNAYAjPROSTAYAiSVETLAYAiTRESVETLAYAxMRACHNAYA
jPROSTAYAiSVETLAYAiTRESVETLAYAuZANOZHEKgPYATAYAiMEYTSAnPRIZNAK MODIFIER DIRECTION FLIPoKRYZH
fLEVEL-2b3hROGzdOMBIEfWJbNBSPdJcSP"

end RoleGrants.Text
