/-!
# The table of character names

The names of Unicode 14 in the order of their characters, formal names first and aliases after them. The
names that are composed from parts or end in the code of their character are not listed.
-/

namespace JsonSchema.Text

/-- The names of one character after the other, in cells that end with a comma or with the line. A bar
separates the names of one character, and a number stands for so many characters without a name here. A
name is written as what is new in it, between a letter for the number of words that it shares with the
start of the name before it (`a` for none, `b` for one) and a letter for those that it shares with the end
of that name, if there are any. -/
def nameTable : String := "aNULL|aNUL,aSTART OF HEADING|aSOH,aSTART OF TEXT|aSTX,aEND OF TEXT|aETX,aEND OF TRANSMISSION|aEOT
aENQUIRY|aENQ,aACKNOWLEDGE|aACK,aALERT|aBEL,aBACKSPACE|aBS
aCHARACTER TABULATION|aHORIZONTALb|aHT|aTAB,aLINE FEED|aNEW LINE|aEND OFb|aEOL|aLF|aNL
aLINE TABULATION|aVERTICALb|aVT,aFORM FEED|aFF,aCARRIAGE RETURN|aCR
aSHIFT OUT|aLOCKING-SHIFT ONE|aSO,aSHIFT IN|aLOCKING-SHIFT ZERO|aSI,aDATA LINK ESCAPE|aDLE
aDEVICE CONTROL ONE|aDC1,aDEVICE CONTROL TWO|aDC2,aDEVICE CONTROL THREE|aDC3
aDEVICE CONTROL FOUR|aDC4,aNEGATIVE ACKNOWLEDGE|aNAK,aSYNCHRONOUS IDLE|aSYN
aEND OF TRANSMISSION BLOCK|aETB,aCANCEL|aCAN,aEND OF MEDIUM|aEOM,aSUBSTITUTE|aSUB,aESCAPE|aESC
aINFORMATION SEPARATOR FOUR|aFILE SEPARATOR|aFS,aINFORMATION SEPARATOR THREE|aGROUP SEPARATOR|aGS
aINFORMATION SEPARATOR TWO|aRECORD SEPARATOR|aRS,aINFORMATION SEPARATOR ONE|aUNIT SEPARATOR|aUS
aSPACE|aSP,aEXCLAMATION MARK,aQUOTATIONb,aNUMBER SIGN,aDOLLARb,aPERCENTb,aAMPERSAND,aAPOSTROPHE
aLEFT PARENTHESIS,aRIGHTb,aASTERISK,aPLUS SIGN,aCOMMA,aHYPHEN-MINUS,aFULL STOP,aSOLIDUS,aDIGIT ZERO
bONE,bTWO,bTHREE,bFOUR,bFIVE,bSIX,bSEVEN,bEIGHT,bNINE,aCOLON,aSEMICOLON,aLESS-THAN SIGN,aEQUALSb
aGREATER-THANb,aQUESTION MARK,aCOMMERCIAL AT,aLATIN CAPITAL LETTER A,dB,dC,dD,dE,dF,dG,dH,dI,dJ,dK
dL,dM,dN,dO,dP,dQ,dR,dS,dT,dU,dV,dW,dX,dY,dZ,aLEFT SQUARE BRACKET,aREVERSE SOLIDUS
aRIGHT SQUARE BRACKET,aCIRCUMFLEX ACCENT,aLOW LINE,aGRAVE ACCENT,aLATIN SMALL LETTER A,dB,dC,dD,dE
dF,dG,dH,dI,dJ,dK,dL,dM,dN,dO,dP,dQ,dR,dS,dT,dU,dV,dW,dX,dY,dZ,aLEFT CURLY BRACKET,aVERTICAL LINE
aRIGHT CURLY BRACKET,aTILDE,aDELETE|aDEL,aPADDING CHARACTER|aPAD,aHIGH OCTET PRESET|aHOP
aBREAK PERMITTED HERE|aBPH,aNO BREAK HERE|aNBH,aINDEX|aIND,aNEXT LINE|aNEL
aSTART OF SELECTED AREA|aSSA,aEND OF SELECTED AREA|aESA,aCHARACTER TABULATION SET|aHORIZONTALc|aHTS
aCHARACTER TABULATION WITH JUSTIFICATION|aHORIZONTALd|aHTJ,aLINE TABULATION SET|aVERTICALc|aVTS
aPARTIAL LINE FORWARD|cDOWN|aPLD,aPARTIAL LINE BACKWARD|cUP|aPLU,aREVERSE LINE FEED|bINDEX|aRI
aSINGLE SHIFT TWO|aSINGLE-SHIFT-2|aSS2,aSINGLE SHIFT THREE|aSINGLE-SHIFT-3|aSS3
aDEVICE CONTROL STRING|aDCS,aPRIVATE USE ONE|bUSE-1|aPU1,aPRIVATE USE TWO|bUSE-2|aPU2
aSET TRANSMIT STATE|aSTS,aCANCEL CHARACTER|aCCH,aMESSAGE WAITING|aMW
aSTART OF GUARDED AREA|cPROTECTEDb|aSPA,aEND OF GUARDED AREA|cPROTECTEDb|aEPA,aSTART OF STRING|aSOS
aSINGLE GRAPHIC CHARACTER INTRODUCER|aSGC,aSINGLE CHARACTER INTRODUCER|aSCI
aCONTROL SEQUENCE INTRODUCER|aCSI,aSTRING TERMINATOR|aST,aOPERATING SYSTEM COMMAND|aOSC
aPRIVACY MESSAGE|aPM,aAPPLICATION PROGRAM COMMAND|aAPC,aNO-BREAK SPACE|aNBSP
aINVERTED EXCLAMATION MARK,aCENT SIGN,aPOUNDb,aCURRENCYb,aYENb,aBROKEN BAR,aSECTION SIGN,aDIAERESIS
aCOPYRIGHT SIGN,aFEMININE ORDINAL INDICATOR,aLEFT-POINTING DOUBLE ANGLE QUOTATION MARK,aNOT SIGN
aSOFT HYPHEN|aSHY,aREGISTERED SIGN,aMACRON,aDEGREE SIGN,aPLUS-MINUSb,aSUPERSCRIPT TWO,bTHREE
aACUTE ACCENT,aMICRO SIGN,aPILCROWb,aMIDDLE DOT,aCEDILLA,aSUPERSCRIPT ONE
aMASCULINE ORDINAL INDICATOR,aRIGHT-POINTING DOUBLE ANGLE QUOTATION MARK
aVULGAR FRACTION ONE QUARTER,dHALF,cTHREE QUARTERS,aINVERTED QUESTION MARK
aLATIN CAPITAL LETTER A WITH GRAVE,fACUTE,fCIRCUMFLEX,fTILDE,fDIAERESIS,fRING ABOVE,dAE
dC WITH CEDILLA,dE WITH GRAVE,fACUTE,fCIRCUMFLEX,fDIAERESIS,dI WITH GRAVE,fACUTE,fCIRCUMFLEX
fDIAERESIS,dETH,dN WITH TILDE,dO WITH GRAVE,fACUTE,fCIRCUMFLEX,fTILDE,fDIAERESIS
aMULTIPLICATION SIGN,aLATIN CAPITAL LETTER O WITH STROKE,dU WITH GRAVE,fACUTE,fCIRCUMFLEX,fDIAERESIS
dY WITH ACUTE,dTHORN,bSMALL LETTER SHARP S,dA WITH GRAVE,fACUTE,fCIRCUMFLEX,fTILDE,fDIAERESIS
fRING ABOVE,dAE,dC WITH CEDILLA,dE WITH GRAVE,fACUTE,fCIRCUMFLEX,fDIAERESIS,dI WITH GRAVE,fACUTE
fCIRCUMFLEX,fDIAERESIS,dETH,dN WITH TILDE,dO WITH GRAVE,fACUTE,fCIRCUMFLEX,fTILDE,fDIAERESIS
aDIVISION SIGN,aLATIN SMALL LETTER O WITH STROKE,dU WITH GRAVE,fACUTE,fCIRCUMFLEX,fDIAERESIS
dY WITH ACUTE,dTHORN,dY WITH DIAERESIS,bCAPITAL LETTER A WITH MACRON,bSMALLe
bCAPITAL LETTER A WITH BREVE,bSMALLe,bCAPITAL LETTER A WITH OGONEK,bSMALLe
bCAPITAL LETTER C WITH ACUTE,bSMALLe,bCAPITAL LETTER C WITH CIRCUMFLEX,bSMALLe
bCAPITAL LETTER C WITH DOT ABOVE,bSMALLf,bCAPITAL LETTER C WITH CARON,bSMALLe,bCAPITAL LETTER Dc
bSMALLe,bCAPITAL LETTER D WITH STROKE,bSMALLe,bCAPITAL LETTER E WITH MACRON,bSMALLe
bCAPITAL LETTER E WITH BREVE,bSMALLe,bCAPITAL LETTER E WITH DOT ABOVE,bSMALLf
bCAPITAL LETTER E WITH OGONEK,bSMALLe,bCAPITAL LETTER E WITH CARON,bSMALLe
bCAPITAL LETTER G WITH CIRCUMFLEX,bSMALLe,bCAPITAL LETTER G WITH BREVE,bSMALLe
bCAPITAL LETTER G WITH DOT ABOVE,bSMALLf,bCAPITAL LETTER G WITH CEDILLA,bSMALLe
bCAPITAL LETTER H WITH CIRCUMFLEX,bSMALLe,bCAPITAL LETTER H WITH STROKE,bSMALLe
bCAPITAL LETTER I WITH TILDE,bSMALLe,bCAPITAL LETTER I WITH MACRON,bSMALLe
bCAPITAL LETTER I WITH BREVE,bSMALLe,bCAPITAL LETTER I WITH OGONEK,bSMALLe
bCAPITAL LETTER I WITH DOT ABOVE,bSMALL LETTER DOTLESS I,bCAPITAL LIGATURE IJ,bSMALLc
bCAPITAL LETTER J WITH CIRCUMFLEX,bSMALLe,bCAPITAL LETTER K WITH CEDILLA,bSMALLe,dKRA
bCAPITAL LETTER L WITH ACUTE,bSMALLe,bCAPITAL LETTER L WITH CEDILLA,bSMALLe
bCAPITAL LETTER L WITH CARON,bSMALLe,bCAPITAL LETTER L WITH MIDDLE DOT,bSMALLf
bCAPITAL LETTER L WITH STROKE,bSMALLe,bCAPITAL LETTER N WITH ACUTE,bSMALLe
bCAPITAL LETTER N WITH CEDILLA,bSMALLe,bCAPITAL LETTER N WITH CARON,bSMALLe,ePRECEDED BY APOSTROPHE
bCAPITAL LETTER ENG,bSMALLc,bCAPITAL LETTER O WITH MACRON,bSMALLe,bCAPITAL LETTER O WITH BREVE
bSMALLe,bCAPITAL LETTER O WITH DOUBLE ACUTE,bSMALLf,bCAPITAL LIGATURE OE,bSMALLc
bCAPITAL LETTER R WITH ACUTE,bSMALLe,bCAPITAL LETTER R WITH CEDILLA,bSMALLe
bCAPITAL LETTER R WITH CARON,bSMALLe,bCAPITAL LETTER S WITH ACUTE,bSMALLe
bCAPITAL LETTER S WITH CIRCUMFLEX,bSMALLe,bCAPITAL LETTER S WITH CEDILLA,bSMALLe
bCAPITAL LETTER S WITH CARON,bSMALLe,bCAPITAL LETTER T WITH CEDILLA,bSMALLe
bCAPITAL LETTER T WITH CARON,bSMALLe,bCAPITAL LETTER T WITH STROKE,bSMALLe
bCAPITAL LETTER U WITH TILDE,bSMALLe,bCAPITAL LETTER U WITH MACRON,bSMALLe
bCAPITAL LETTER U WITH BREVE,bSMALLe,bCAPITAL LETTER U WITH RING ABOVE,bSMALLf
bCAPITAL LETTER U WITH DOUBLE ACUTE,bSMALLf,bCAPITAL LETTER U WITH OGONEK,bSMALLe
bCAPITAL LETTER W WITH CIRCUMFLEX,bSMALLe,bCAPITAL LETTER Yc,bSMALLe
bCAPITAL LETTER Y WITH DIAERESIS,dZ WITH ACUTE,bSMALLe,bCAPITAL LETTER Z WITH DOT ABOVE,bSMALLf
bCAPITAL LETTER Z WITH CARON,bSMALLe,dLONG S,dB WITH STROKE,bCAPITAL LETTER B WITH HOOK,fTOPBAR
bSMALLe,bCAPITAL LETTER TONE SIX,bSMALLd,bCAPITAL LETTER OPEN O,dC WITH HOOK,bSMALLe
bCAPITAL LETTER AFRICAN D,dD WITH HOOK,fTOPBAR,bSMALLe,dTURNED DELTA,bCAPITAL LETTER REVERSED E
dSCHWA,dOPEN E,dF WITH HOOK,bSMALLe,bCAPITAL LETTER Gc,dGAMMA,bSMALL LETTER HV,bCAPITAL LETTER IOTA
dI WITH STROKE,dK WITH HOOK,bSMALLe,dL WITH BAR,dLAMBDA WITH STROKE,bCAPITAL LETTER TURNED M
dN WITH LEFT HOOK,bSMALL LETTER N WITH LONG RIGHT LEG,bCAPITAL LETTER O WITH MIDDLE TILDE,fHORN
bSMALLe,bCAPITAL LETTER OI|dGHA,bSMALL LETTER OI|dGHA,bCAPITAL LETTER P WITH HOOK,bSMALLe,bLETTER YR
bCAPITAL LETTER TONE TWO,bSMALLd,bCAPITAL LETTER ESH,bLETTER REVERSED ESH LOOP
bSMALL LETTER T WITH PALATAL HOOK,bCAPITAL LETTER T WITHb,bSMALLe,bCAPITAL LETTER T WITH RETROFLEXb
dU WITH HORN,bSMALLe,bCAPITAL LETTER UPSILON,dV WITH HOOK,dYc,bSMALLe,bCAPITAL LETTER Z WITH STROKE
bSMALLe,bCAPITAL LETTER EZH,eREVERSED,bSMALLd,eWITH TAIL,bLETTER TWO WITH STROKE
bCAPITAL LETTER TONE FIVE,bSMALLd,bLETTER INVERTED GLOTTAL STOP WITH STROKE,cWYNN,cDENTAL CLICK
cLATERALb,cALVEOLARb,cRETROFLEXb,bCAPITAL LETTER DZ WITH CARON,dD WITH SMALL LETTER Zc
bSMALL LETTER DZc,bCAPITAL LETTER LJ,dL WITH SMALL LETTER J,bSMALL LETTER LJ,bCAPITAL LETTER NJ
dN WITH SMALL LETTER J,bSMALL LETTER NJ,bCAPITAL LETTER A WITH CARON,bSMALLe,bCAPITAL LETTER Ic
bSMALLe,bCAPITAL LETTER Oc,bSMALLe,bCAPITAL LETTER Uc,bSMALLe
bCAPITAL LETTER U WITH DIAERESIS AND MACRON,bSMALLg,bCAPITAL LETTER U WITH DIAERESIS AND ACUTE
bSMALLg,bCAPITAL LETTER U WITH DIAERESIS AND CARON,bSMALLg
bCAPITAL LETTER U WITH DIAERESIS AND GRAVE,bSMALLg,dTURNED E
bCAPITAL LETTER A WITH DIAERESIS AND MACRON,bSMALLg,bCAPITAL LETTER A WITH DOT ABOVEc,bSMALLh
bCAPITAL LETTER AE WITHb,bSMALLe,bCAPITAL LETTER G WITH STROKE,bSMALLe,bCAPITAL LETTER G WITH CARON
bSMALLe,bCAPITAL LETTER Kc,bSMALLe,bCAPITAL LETTER O WITH OGONEK,bSMALLe
bCAPITAL LETTER O WITH OGONEK AND MACRON,bSMALLg,bCAPITAL LETTER EZH WITH CARON,bSMALLe,dJc
bCAPITAL LETTER DZ,dD WITH SMALL LETTER Z,bSMALL LETTER DZ,bCAPITAL LETTER G WITH ACUTE,bSMALLe
bCAPITAL LETTER HWAIR,dWYNN,dN WITH GRAVE,bSMALLe,bCAPITAL LETTER A WITH RING ABOVE AND ACUTE
bSMALLh,bCAPITAL LETTER AE WITHb,bSMALLe,bCAPITAL LETTER O WITH STROKE ANDb,bSMALLg
bCAPITAL LETTER A WITH DOUBLE GRAVE,bSMALLf,bCAPITAL LETTER A WITH INVERTED BREVE,bSMALLf
bCAPITAL LETTER E WITH DOUBLE GRAVE,bSMALLf,bCAPITAL LETTER E WITH INVERTED BREVE,bSMALLf
bCAPITAL LETTER I WITH DOUBLE GRAVE,bSMALLf,bCAPITAL LETTER I WITH INVERTED BREVE,bSMALLf
bCAPITAL LETTER O WITH DOUBLE GRAVE,bSMALLf,bCAPITAL LETTER O WITH INVERTED BREVE,bSMALLf
bCAPITAL LETTER R WITH DOUBLE GRAVE,bSMALLf,bCAPITAL LETTER R WITH INVERTED BREVE,bSMALLf
bCAPITAL LETTER U WITH DOUBLE GRAVE,bSMALLf,bCAPITAL LETTER U WITH INVERTED BREVE,bSMALLf
bCAPITAL LETTER S WITH COMMA BELOW,bSMALLf,bCAPITAL LETTER Td,bSMALLf,bCAPITAL LETTER YOGH,bSMALLc
bCAPITAL LETTER H WITH CARON,bSMALLe,bCAPITAL LETTER N WITH LONG RIGHT LEG,bSMALL LETTER D WITH CURL
bCAPITAL LETTER OU,bSMALLc,bCAPITAL LETTER Z WITH HOOK,bSMALLe,bCAPITAL LETTER A WITH DOT ABOVE
bSMALLf,bCAPITAL LETTER E WITH CEDILLA,bSMALLe,bCAPITAL LETTER O WITH DIAERESIS AND MACRON,bSMALLg
bCAPITAL LETTER O WITH TILDEc,bSMALLg,bCAPITAL LETTER O WITH DOT ABOVE,bSMALLf
bCAPITAL LETTER O WITH DOT ABOVE AND MACRON,bSMALLh,bCAPITAL LETTER Y WITHb,bSMALLe,dL WITH CURL,dNc
dTc,dDOTLESS J,dDB DIGRAPH,dQPb,bCAPITAL LETTER A WITH STROKE,dCc,bSMALLe,bCAPITAL LETTER L WITH BAR
dT WITH DIAGONAL STROKE,bSMALL LETTER S WITH SWASH TAIL,dZd,bCAPITAL LETTER GLOTTAL STOP,bSMALLd
bCAPITAL LETTER B WITH STROKE,dU BAR,dTURNED V,dE WITH STROKE,bSMALLe,bCAPITAL LETTER Jc,bSMALLe
bCAPITAL LETTER SMALL Q WITH HOOK TAIL,bSMALL LETTERe,bCAPITAL LETTER R WITH STROKE,bSMALLe
bCAPITAL LETTER Yc,bSMALLe,dTURNED A,dALPHA,dTURNEDb,dB WITH HOOK,dOPEN O,dC WITH CURL,dD WITH TAIL
fHOOK,dREVERSED E,dSCHWA,eWITH HOOK,dOPEN E,dREVERSEDc,gWITH HOOK,dCLOSED REVERSED OPEN E
dDOTLESS J WITH STROKE,dG WITH HOOK,dSCRIPT G,bLETTER SMALL CAPITALb,bSMALL LETTER GAMMA,dRAMS HORN
dTURNED H,dH WITH HOOK,dHENGc,dI WITH STROKE,dIOTA,bLETTER SMALL CAPITAL I
bSMALL LETTER L WITH MIDDLE TILDE,fBELT,fRETROFLEX HOOK,dLEZH,dTURNED M,fWITH LONG LEG,dM WITH HOOK
dN WITH LEFTb,fRETROFLEXb,bLETTER SMALL CAPITAL N,bSMALL LETTER BARRED O,bLETTER SMALL CAPITAL OE
bSMALL LETTER CLOSED OMEGA,dPHI,dTURNED R,fWITH LONG LEG,gHOOK,dR WITH LONG LEG,fTAIL,fFISHHOOK
dREVERSEDd,bLETTER SMALL CAPITAL R,eINVERTEDb,bSMALL LETTER S WITH HOOK,dESH
dDOTLESS J WITH STROKE AND HOOK,dSQUAT REVERSED ESH,dESH WITH CURL,dTURNED T,dT WITH RETROFLEX HOOK
dU BAR,dUPSILON,dV WITH HOOK,dTURNED V,eW,eY,bLETTER SMALL CAPITALb
bSMALL LETTER Z WITH RETROFLEX HOOK,fCURL,dEZH,eWITH CURL,bLETTER GLOTTAL STOP
cPHARYNGEAL VOICED FRICATIVE,cINVERTED GLOTTAL STOP,cSTRETCHED C,cBILABIAL CLICK,cSMALL CAPITAL B
bSMALL LETTER CLOSED OPEN E,bLETTER SMALL CAPITAL G WITH HOOK,eH,bSMALL LETTER J WITH CROSSED-TAIL
dTURNED K,bLETTER SMALL CAPITAL L,bSMALL LETTER Q WITH HOOK,bLETTER GLOTTAL STOP WITH STROKE
cREVERSEDe,bSMALL LETTER DZ DIGRAPH,dDEZHb,dDZ DIGRAPH WITH CURL,dTS DIGRAPH,dTESHb
dTC DIGRAPH WITH CURL,dFENG DIGRAPH,dLSb,dLZb,bLETTER BILABIAL PERCUSSIVE,cBIDENTALb
bSMALL LETTER TURNED H WITH FISHHOOK,hAND TAIL,aMODIFIER LETTER SMALL H,eWITH HOOK,dJ,dR,dTURNEDb
fWITH HOOK,dCAPITAL INVERTED R,dW,dY,cPRIME,cDOUBLEb,cTURNED COMMA,cAPOSTROPHE,cREVERSED COMMA
cRIGHT HALF RING,cLEFTc,cGLOTTAL STOP,cREVERSEDc,cLEFT ARROWHEAD,cRIGHTb,cUPb,cDOWNb
cCIRCUMFLEX ACCENT,aCARON,aMODIFIER LETTER VERTICAL LINE,cMACRON,cACUTE ACCENT,cGRAVEb
cLOW VERTICAL LINE,dMACRON,dGRAVE ACCENT,dACUTEb,cTRIANGULAR COLON,cHALFc,cCENTRED RIGHT HALF RING
dLEFTc,cUP TACK,cDOWNb,cPLUS SIGN,cMINUSb,aBREVE,aDOT ABOVE,aRINGb,aOGONEK,aSMALL TILDE
aDOUBLE ACUTE ACCENT,aMODIFIER LETTER RHOTIC HOOK,cCROSS ACCENT,cSMALL GAMMA,dL,dS,dX
dREVERSED GLOTTAL STOP,cEXTRA-HIGH TONE BAR,cHIGHc,cMIDc,cLOWc,cEXTRA-LOWc,cYIN DEPARTING TONE MARK
cYANGd,cVOICING,cUNASPIRATED,cDOUBLE APOSTROPHE,cLOW DOWN ARROWHEAD,dUPb,dLEFTb,dRIGHTb,dRING
cMIDDLE GRAVE ACCENT,dDOUBLEc,eACUTEb,cLOW TILDE,cRAISED COLON,cBEGIN HIGH TONE,cENDc,cBEGIN LOWb
cENDc,cSHELF,cOPENb,cLOW LEFT ARROW,aCOMBINING GRAVE ACCENT,bACUTEb,bCIRCUMFLEXb,bTILDE,bMACRON
bOVERLINE,bBREVE,bDOT ABOVE,bDIAERESIS,bHOOK ABOVE,bRINGb,bDOUBLE ACUTE ACCENT,bCARON
bVERTICAL LINE ABOVE,bDOUBLEd,cGRAVE ACCENT,bCANDRABINDU,bINVERTED BREVE,bTURNED COMMA ABOVE,bc
bREVERSEDc,bCOMMA ABOVE RIGHT,bGRAVE ACCENT BELOW,bACUTEc,bLEFT TACKb,bRIGHTc,bLEFT ANGLE ABOVE
bHORN,bLEFT HALF RING BELOW,bUP TACKb,bDOWNc,bPLUS SIGNb,bMINUSc,bPALATALIZED HOOKb,bRETROFLEXc
bDOTb,bDIAERESISb,bRINGb,bCOMMAb,bCEDILLA,bOGONEK,bVERTICAL LINE BELOW,bBRIDGEb
bINVERTED DOUBLE ARCHb,bCARONb,bCIRCUMFLEX ACCENTb,bBREVEb,bINVERTEDc,bTILDEb,bMACRONb,bLOW LINE
bDOUBLEc,bTILDE OVERLAY,bSHORT STROKEb,bLONGc,bSHORT SOLIDUSb,bLONGc,bRIGHT HALF RING BELOW
bINVERTED BRIDGEb,bSQUAREb,bSEAGULLb,bX ABOVE,bVERTICAL TILDE,bDOUBLE OVERLINE,bGRAVE TONE MARK
bACUTEc,bGREEK PERISPOMENI,cKORONIS,cDIALYTIKA TONOS,cYPOGEGRAMMENI,bBRIDGE ABOVE,bEQUALS SIGN BELOW
bDOUBLE VERTICAL LINEb,bLEFT ANGLEb,bNOT TILDE ABOVE,bHOMOTHETICb,bALMOST EQUAL TOb
bLEFT RIGHT ARROW BELOW,bUPWARDSc,bGRAPHEME JOINER|aCGJ,aCOMBINING RIGHT ARROWHEAD ABOVE
bLEFT HALF RINGb,bFERMATA,bX BELOW,bLEFT ARROWHEADb,bRIGHTc,dAND UPc,cHALF RING ABOVE
bDOT ABOVE RIGHT,bASTERISK BELOW,bDOUBLE RINGb,bZIGZAG ABOVE,bDOUBLE BREVE BELOW,d,cMACRON,dBELOW
cTILDE,cINVERTED BREVE,cRIGHTWARDS ARROW BELOW,bLATIN SMALL LETTER A,eE,eI,eO,eU,eC,eD,eH,eM,eR,eT
eV,eX,aGREEK CAPITAL LETTER HETA,bSMALLc,bCAPITAL LETTER ARCHAIC SAMPI,bSMALLd,bNUMERAL SIGN,bLOWERc
bCAPITAL LETTER PAMPHYLIAN DIGAMMA,bSMALLd,2,bYPOGEGRAMMENI,bSMALL REVERSED LUNATE SIGMA SYMBOL
cDOTTEDd,cREVERSEDe,bQUESTION MARK,bCAPITAL LETTER YOT,4,bTONOS,bDIALYTIKAb
bCAPITAL LETTER ALPHA WITHb,bANO TELEIA,bCAPITAL LETTER EPSILON WITH TONOS,dETAc,dIOTAc,1,dOMICRONc
1,dUPSILONc,dOMEGAc,bSMALL LETTER IOTA WITH DIALYTIKA ANDb,bCAPITAL LETTER ALPHA,dBETA,dGAMMA,dDELTA
dEPSILON,dZETA,dETA,dTHETA,dIOTA,dKAPPA,dLAMDA,dMU,dNU,dXI,dOMICRON,dPI,dRHO,1,dSIGMA,dTAU,dUPSILON
dPHI,dCHI,dPSI,dOMEGA,dIOTA WITH DIALYTIKA,dUPSILONc,bSMALL LETTER ALPHA WITH TONOS,dEPSILONc,dETAc
dIOTAc,dUPSILON WITH DIALYTIKA ANDb,dALPHA,dBETA,dGAMMA,dDELTA,dEPSILON,dZETA,dETA,dTHETA,dIOTA
dKAPPA,dLAMDA,dMU,dNU,dXI,dOMICRON,dPI,dRHO,dFINAL SIGMA,db,dTAU,dUPSILON,dPHI,dCHI,dPSI,dOMEGA
dIOTA WITH DIALYTIKA,dUPSILONc,dOMICRON WITH TONOS,dUPSILONc,dOMEGAc,bCAPITAL KAI SYMBOL,bBETAb
bTHETAb,bUPSILON WITH HOOKb,dACUTE ANDc,dDIAERESISd,bPHIb,bPIb,bKAIb,bLETTER ARCHAIC KOPPA,bSMALLd
bLETTER STIGMA,bSMALLc,bLETTER DIGAMMA,bSMALLc,bLETTER KOPPA,bSMALLc,bLETTER SAMPI,bSMALLc
aCOPTIC CAPITAL LETTER SHEI,bSMALLc,bCAPITAL LETTER FEI,bSMALLc,bCAPITAL LETTER KHEI,bSMALLc
bCAPITAL LETTER HORI,bSMALLc,bCAPITAL LETTER GANGIA,bSMALLc,bCAPITAL LETTER SHIMA,bSMALLc
bCAPITAL LETTER DEI,bSMALLc,aGREEK KAPPA SYMBOL,bRHOb,bLUNATE SIGMAb,bLETTER YOT
bCAPITAL THETA SYMBOL,bLUNATE EPSILONb,bREVERSEDd,bCAPITAL LETTER SHO,bSMALLc
bCAPITAL LUNATE SIGMA SYMBOL,cLETTER SAN,bSMALLc,bRHO WITH STROKE SYMBOL
bCAPITAL REVERSED LUNATE SIGMAb,cDOTTEDd,cREVERSEDe,aCYRILLIC CAPITAL LETTER IE WITH GRAVE,dIO,dDJE
dGJE,dUKRAINIAN IE,dDZE,dBYELORUSSIAN-UKRAINIAN I,dYI,dJE,dLJE,dNJE,dTSHE,dKJE,dI WITH GRAVE
dSHORT U,dDZHE,dA,dBE,dVE,dGHE,dDE,dIE,dZHE,dZE,dI,dSHORTb,dKA,dEL,dEM,dEN,dO,dPE,dER,dES,dTE,dU,dEF
dHA,dTSE,dCHE,dSHA,dSHCHA,dHARD SIGN,dYERU,dSOFT SIGN,dE,dYU,dYA,bSMALL LETTER A,dBE,dVE,dGHE,dDE
dIE,dZHE,dZE,dI,dSHORTb,dKA,dEL,dEM,dEN,dO,dPE,dER,dES,dTE,dU,dEF,dHA,dTSE,dCHE,dSHA,dSHCHA
dHARD SIGN,dYERU,dSOFT SIGN,dE,dYU,dYA,dIE WITH GRAVE,dIO,dDJE,dGJE,dUKRAINIAN IE,dDZE
dBYELORUSSIAN-UKRAINIAN I,dYI,dJE,dLJE,dNJE,dTSHE,dKJE,dI WITH GRAVE,dSHORT U,dDZHE
bCAPITAL LETTER OMEGA,bSMALLc,bCAPITAL LETTER YAT,bSMALLc,bCAPITAL LETTER IOTIFIED E,bSMALLd
bCAPITAL LETTER LITTLE YUS,bSMALLd,bCAPITAL LETTER IOTIFIEDc,bSMALLe,bCAPITAL LETTER BIGb,bSMALLd
bCAPITAL LETTER IOTIFIEDc,bSMALLe,bCAPITAL LETTER KSI,bSMALLc,bCAPITAL LETTER PSI,bSMALLc
bCAPITAL LETTER FITA,bSMALLc,bCAPITAL LETTER IZHITSA,bSMALLc
bCAPITAL LETTER IZHITSA WITH DOUBLE GRAVE ACCENT,bSMALLg,bCAPITAL LETTER UK,bSMALLc
bCAPITAL LETTER ROUND OMEGA,bSMALLd,bCAPITAL LETTER OMEGA WITH TITLO,bSMALLe,bCAPITAL LETTER OT
bSMALLc,bCAPITAL LETTER KOPPA,bSMALLc,bTHOUSANDS SIGN,aCOMBINING CYRILLIC TITLO,cPALATALIZATION
cDASIA PNEUMATA,cPSILIb,cPOKRYTIE,cHUNDRED THOUSANDS SIGN,cMILLIONSb
aCYRILLIC CAPITAL LETTER SHORT I WITH TAIL,bSMALLf,bCAPITAL LETTER SEMISOFT SIGN,bSMALLd
bCAPITAL LETTER ER WITH TICK,bSMALLe,bCAPITAL LETTER GHE WITH UPTURN,bSMALLe
bCAPITAL LETTER GHE WITH STROKE,bSMALLe,bCAPITAL LETTER GHE WITH MIDDLE HOOK,bSMALLf
bCAPITAL LETTER ZHE WITH DESCENDER,bSMALLe,bCAPITAL LETTER ZEc,bSMALLe,bCAPITAL LETTER KAc,bSMALLe
bCAPITAL LETTER KA WITH VERTICAL STROKE,bSMALLf,bCAPITAL LETTER KA WITHb,bSMALLe
bCAPITAL LETTER BASHKIR KA,bSMALLd,bCAPITAL LETTER EN WITH DESCENDER,bSMALLe
bCAPITAL LIGATURE EN GHE,bSMALLd,bCAPITAL LETTER PE WITH MIDDLE HOOK,bSMALLf
bCAPITAL LETTER ABKHASIAN HA,bSMALLd,bCAPITAL LETTER ES WITH DESCENDER,bSMALLe,bCAPITAL LETTER TEc
bSMALLe,bCAPITAL LETTER STRAIGHT U,bSMALLd,bCAPITAL LETTER STRAIGHT U WITH STROKE,bSMALLf
bCAPITAL LETTER HA WITH DESCENDER,bSMALLe,bCAPITAL LIGATURE TE TSE,bSMALLd
bCAPITAL LETTER CHE WITH DESCENDER,bSMALLe,bCAPITAL LETTER CHE WITH VERTICAL STROKE,bSMALLf
bCAPITAL LETTER SHHA,bSMALLc,bCAPITAL LETTER ABKHASIAN CHE,bSMALLd
bCAPITAL LETTER ABKHASIAN CHE WITH DESCENDER,bSMALLf,bLETTER PALOCHKA,bCAPITAL LETTER ZHE WITH BREVE
bSMALLe,bCAPITAL LETTER KA WITH HOOK,bSMALLe,bCAPITAL LETTER EL WITH TAIL,bSMALLe
bCAPITAL LETTER EN WITH HOOK,bSMALLe,bCAPITAL LETTER EN WITH TAIL,bSMALLe
bCAPITAL LETTER KHAKASSIAN CHE,bSMALLd,bCAPITAL LETTER EM WITH TAIL,bSMALLe,dPALOCHKA
bCAPITAL LETTER A WITH BREVE,bSMALLe,bCAPITAL LETTER A WITH DIAERESIS,bSMALLe,bCAPITAL LIGATURE A IE
bSMALLd,bCAPITAL LETTER IE WITH BREVE,bSMALLe,bCAPITAL LETTER SCHWA,bSMALLc
bCAPITAL LETTER SCHWA WITH DIAERESIS,bSMALLe,bCAPITAL LETTER ZHEc,bSMALLe,bCAPITAL LETTER ZEc
bSMALLe,bCAPITAL LETTER ABKHASIAN DZE,bSMALLd,bCAPITAL LETTER I WITH MACRON,bSMALLe
bCAPITAL LETTER I WITH DIAERESIS,bSMALLe,bCAPITAL LETTER Oc,bSMALLe,bCAPITAL LETTER BARRED O,bSMALLd
bCAPITAL LETTER BARRED O WITH DIAERESIS,bSMALLf,bCAPITAL LETTER Ec,bSMALLe
bCAPITAL LETTER U WITH MACRON,bSMALLe,bCAPITAL LETTER U WITH DIAERESIS,bSMALLe
bCAPITAL LETTER U WITH DOUBLE ACUTE,bSMALLf,bCAPITAL LETTER CHE WITH DIAERESIS,bSMALLe
bCAPITAL LETTER GHE WITH DESCENDER,bSMALLe,bCAPITAL LETTER YERU WITH DIAERESIS,bSMALLe
bCAPITAL LETTER GHE WITH STROKE AND HOOK,bSMALLg,bCAPITAL LETTER HA WITHb,bSMALLe
bCAPITAL LETTER HA WITH STROKE,bSMALLe,bCAPITAL LETTER KOMI DE,bSMALLd,bCAPITAL LETTER KOMI DJE
bSMALLd,bCAPITAL LETTER KOMI ZJE,bSMALLd,bCAPITAL LETTER KOMI DZJE,bSMALLd,bCAPITAL LETTER KOMI LJE
bSMALLd,bCAPITAL LETTER KOMI NJE,bSMALLd,bCAPITAL LETTER KOMI SJE,bSMALLd,bCAPITAL LETTER KOMI TJE
bSMALLd,bCAPITAL LETTER REVERSED ZE,bSMALLd,bCAPITAL LETTER EL WITH HOOK,bSMALLe,bCAPITAL LETTER LHA
bSMALLc,bCAPITAL LETTER RHA,bSMALLc,bCAPITAL LETTER YAE,bSMALLc,bCAPITAL LETTER QA,bSMALLc
bCAPITAL LETTER WE,bSMALLc,bCAPITAL LETTER ALEUT KA,bSMALLd,bCAPITAL LETTER EL WITH MIDDLE HOOK
bSMALLf,bCAPITAL LETTER ENd,bSMALLf,bCAPITAL LETTER PE WITH DESCENDER,bSMALLe,bCAPITAL LETTER SHHAc
bSMALLe,bCAPITAL LETTER EN WITH LEFT HOOK,bSMALLf,bCAPITAL LETTER DZZHE,bSMALLc,bCAPITAL LETTER DCHE
bSMALLc,bCAPITAL LETTER EL WITH DESCENDER,bSMALLe,1,aARMENIAN CAPITAL LETTER AYB,dBEN,dGIM,dDA,dECH
dZA,dEH,dET,dTO,dZHE,dINI,dLIWN,dXEH,dCA,dKEN,dHO,dJA,dGHAD,dCHEH,dMEN,dYI,dNOW,dSHA,dVO,dCHA,dPEH
dJHEH,dRA,dSEH,dVEW,dTIWN,dREH,dCO,dYIWN,dPIWR,dKEH,dOH,dFEH,2,bMODIFIER LETTER LEFT HALF RING
bAPOSTROPHE,bEMPHASIS MARK,bEXCLAMATIONb,bCOMMA,bQUESTION MARK,bABBREVIATIONb
bSMALL LETTER TURNED AYB,db,dBEN,dGIM,dDA,dECH,dZA,dEH,dET,dTO,dZHE,dINI,dLIWN,dXEH,dCA,dKEN,dHO,dJA
dGHAD,dCHEH,dMEN,dYI,dNOW,dSHA,dVO,dCHA,dPEH,dJHEH,dRA,dSEH,dVEW,dTIWN,dREH,dCO,dYIWN,dPIWR,dKEH,dOH
dFEH,cLIGATURE ECH YIWN,cLETTER YI WITH STROKE,bFULL STOP,bHYPHEN,2
aRIGHT-FACING ARMENIAN ETERNITY SIGN,aLEFT-FACINGd,aARMENIAN DRAMb,1,aHEBREW ACCENT ETNAHTA,cSEGOL
cSHALSHELET,cZAQEF QATAN,dGADOL,cTIPEHA,cREVIA,cZARQA,cPASHTA,cYETIV,cTEVIR,cGERESH,dMUQDAM
cGERSHAYIM,cQARNEY PARA,cTELISHA GEDOLA,cPAZER,cATNAH HAFUKH,cMUNAH,cMAHAPAKH,cMERKHA,dKEFULA,cDARGA
cQADMA,cTELISHA QETANA,cYERAH BEN YOMO,cOLE,cILUY,cDEHI,cZINOR,bMARK MASORA CIRCLE,bPOINT SHEVA
cHATAF SEGOL,dPATAH,dQAMATS,cHIRIQ,cTSERE,cSEGOL,cPATAH,cQAMATS,cHOLAM,dHASER FOR VAV,cQUBUTS
cDAGESH OR MAPIQ,cMETEG,bPUNCTUATION MAQAF,bPOINT RAFE,bPUNCTUATION PASEQ,bPOINT SHIN DOT,cSINb
bPUNCTUATION SOF PASUQ,bMARK UPPER DOT,cLOWERb,bPUNCTUATION NUN HAFUKHA,bPOINT QAMATS QATAN,8
bLETTER ALEF,cBET,cGIMEL,cDALET,cHE,cVAV,cZAYIN,cHET,cTET,cYOD,cFINAL KAF,cb,cLAMED,cFINAL MEM,cb
cFINAL NUN,cb,cSAMEKH,cAYIN,cFINAL PE,cb,cFINAL TSADI,cb,cQOF,cRESH,cSHIN,cTAV,4,bYOD TRIANGLE
bLIGATURE YIDDISH DOUBLE VAV,dVAV YOD,dDOUBLEb,bPUNCTUATION GERESH,cGERSHAYIM,11,aARABIC NUMBER SIGN
bSIGN SANAH,bFOOTNOTE MARKER,bSIGN SAFHA,cSAMVAT,bNUMBER MARK ABOVE,aARABIC-INDIC CUBE ROOT,bFOURTHb
aARABIC RAY,aARABIC-INDIC PER MILLE SIGN,cTEN THOUSANDb,aAFGHANIb,aARABIC COMMA,bDATE SEPARATOR
bPOETIC VERSE SIGN,bSIGN MISRA,cSALLALLAHOU ALAYHE WASSALLAM,cALAYHE ASSALLAM,cRAHMATULLAH ALAYHE
cRADI ALLAHOU ANHU,cTAKHALLUS,bSMALL HIGH TAH,dLIGATURE ALEF WITH LAM WITH YEH,dZAIN,cFATHA,cDAMMA
cKASRA,bSEMICOLON,bLETTER MARK|aALM,aARABIC END OF TEXT MARK,bTRIPLE DOT PUNCTUATIONb,bQUESTIONb
bLETTER KASHMIRI YEH,cHAMZA,cALEF WITH MADDA ABOVE,eHAMZAb,cWAWd,cALEF WITH HAMZA BELOW
cYEH WITH HAMZA ABOVE,cALEF,cBEH,cTEH MARBUTA,d,cTHEH,cJEEM,cHAH,cKHAH,cDAL,cTHAL,cREH,cZAIN,cSEEN
cSHEEN,cSAD,cDAD,cTAH,cZAH,cAIN,cGHAIN,cKEHEH WITH TWO DOTS ABOVE,eTHREE DOTS BELOW
cFARSI YEH WITH INVERTED V,fTWO DOTS ABOVE,fTHREEc,bTATWEEL,bLETTER FEH,cQAF,cKAF,cLAM,cMEEM,cNOON
cHEH,cWAW,cALEF MAKSURA,cYEH,bFATHATAN,bDAMMATAN,bKASRATAN,bFATHA,bDAMMA,bKASRA,bSHADDA,bSUKUN
bMADDAH ABOVE,bHAMZAb,cBELOW,bSUBSCRIPT ALEF,bINVERTED DAMMA,bMARK NOON GHUNNA,bZWARAKAY
bVOWEL SIGN SMALL V ABOVE,dINVERTEDd,dDOT BELOW,bREVERSED DAMMA,bFATHA WITH TWO DOTS
bWAVY HAMZA BELOW,aARABIC-INDIC DIGIT ZERO,cONE,cTWO,cTHREE,cFOUR,cFIVE,cSIX,cSEVEN,cEIGHT,cNINE
aARABIC PERCENT SIGN,bDECIMAL SEPARATOR,bTHOUSANDSb,bFIVE POINTED STAR,bLETTER DOTLESS BEH,dQAF
cSUPERSCRIPT ALEF,cALEF WASLA,dWITH WAVY HAMZA ABOVE,gBELOW,cHIGH HAMZA,eALEF,eWAW
cU WITH HAMZA ABOVE,cHIGH HAMZA YEH,cTTEH,cTTEHEH,cBEEH,cTEH WITH RING,eTHREE DOTS ABOVE DOWNWARDS
cPEH,cTEHEH,cBEHEH,cHAH WITH HAMZA ABOVE,eTWO DOTS VERTICALb,cNYEH,cDYEH,cHAH WITH THREE DOTS ABOVE
cTCHEH,cTCHEHEH,cDDAL,cDAL WITH RING,eDOT BELOW,gAND SMALL TAH,cDAHAL,cDDAHAL,cDUL
cDAL WITH THREE DOTS ABOVE DOWNWARDS,eFOUR DOTS ABOVE,cRREH,cREH WITH SMALL V,eRING,eDOT BELOW
eSMALL Vb,eDOT BELOW AND DOT ABOVE,eTWO DOTSb,cJEH,cREH WITH FOUR DOTS ABOVE
cSEEN WITH DOT BELOW AND DOTb,eTHREE DOTS BELOW,hAND THREE DOTS ABOVE,cSAD WITH TWO DOTS BELOW
eTHREE DOTS ABOVE,cTAHe,cAINe,cDOTLESS FEH,cFEH WITH DOT MOVED BELOW,fb,cVEH
cFEH WITH THREE DOTS BELOW,cPEHEH,cQAF WITH DOT ABOVE,eTHREE DOTSb,cKEHEH,cSWASH KAF,cKAF WITH RING
eDOT ABOVE,cNG,cKAF WITH THREE DOTS BELOW,cGAF,dWITH RING,cNGOEH,cGAF WITH TWO DOTS BELOW,cGUEH
cGAF WITH THREE DOTS ABOVE,cLAM WITH SMALL V,eDOT ABOVE,eTHREE DOTSb,gBELOW,cNOON WITH DOTb,dGHUNNA
cRNOON,cNOON WITH RING,eTHREE DOTS ABOVE,cHEH DOACHASHMEE,cTCHEH WITH DOT ABOVE,cHEH WITH YEHb,dGOAL
eWITH HAMZA ABOVE,cTEH MARBUTA GOAL,cWAW WITH RING,cKIRGHIZ OE,cb,cU,cYU,cKIRGHIZb
cWAW WITH TWO DOTS ABOVE,cVE,cFARSI YEH,cYEH WITH TAIL,eSMALL V,cWAW WITH DOT ABOVE,cE
cYEH WITH THREE DOTS BELOW,dBARREE,eWITH HAMZA ABOVE,bFULL STOP,bLETTER AE
bSMALL HIGH LIGATURE SAD WITH LAM WITH ALEF MAKSURA,eQAFf,dMEEM INITIAL FORM,dLAM ALEF,dJEEM
dTHREE DOTS,dSEEN,bEND OF AYAH,bSTART OF RUB EL HIZB,bSMALL HIGH ROUNDED ZERO,dUPRIGHT RECTANGULARb
dDOTLESS HEAD OF KHAH,dMEEM ISOLATED FORM,cLOW SEEN,cHIGH MADDA,cWAW,cYEH,cHIGHb,dNOON
bPLACE OF SAJDAH,bEMPTY CENTRE LOW STOP,dHIGHb,bROUNDED HIGH STOP WITH FILLED CENTRE,bSMALL LOW MEEM
bLETTER DAL WITH INVERTED V,cREHd,aEXTENDED ARABIC-INDIC DIGIT ZERO,dONE,dTWO,dTHREE,dFOUR,dFIVE
dSIX,dSEVEN,dEIGHT,dNINE,aARABIC LETTER SHEEN WITH DOT BELOW,cDADd,cGHAINd,bSIGN SINDHI AMPERSAND
dPOSTPOSITION MEN,bLETTER HEH WITH INVERTED V,aSYRIAC END OF PARAGRAPH,bSUPRALINEAR FULL STOP
bSUBLINEARc,bSUPRALINEAR COLON,bSUBLINEARb,bHORIZONTALb,bCOLON SKEWED LEFT,dRIGHT
bSUPRALINEAR COLON SKEWED LEFT,bSUBLINEAR COLON SKEWED RIGHT|eLEFT,bCONTRACTION,bHARKLEAN OBELUS
cMETOBELUS,cASTERISCUS,1,bABBREVIATION MARK,bLETTER ALAPH,cSUPERSCRIPTb,cBETH,cGAMAL,dGARSHUNI
cDALATH,cDOTLESS DALATH RISH,cHE,cWAW,cZAIN,cHETH,cTETH,dGARSHUNI,cYUDH,dHE,cKAPH,cLAMADH,cMIM,cNUN
cSEMKATH,cFINALb,cE,cPE,cREVERSEDb,cSADHE,cQAPH,cRISH,cSHIN,cTAW,cPERSIAN BHETH,dGHAMAL,dDHALATH
bPTHAHA ABOVE,cBELOW,cDOTTED,bZQAPHA ABOVE,cBELOW,cDOTTED,bRBASA ABOVE,cBELOW
bDOTTED ZLAMA HORIZONTAL,dANGULAR,bHBASA ABOVE,cBELOW,bHBASA-ESASA DOTTED,bESASA ABOVE,cBELOW,bRWAHA
bFEMININE DOT,bQUSHSHAYA,bRUKKAKHA,bTWO VERTICAL DOTS ABOVE,eBELOW,bTHREE DOTS ABOVE,dBELOW
bOBLIQUE LINE ABOVE,dBELOW,bMUSIC,bBARREKH,2,bLETTER SOGDIAN ZHAIN,dKHAPH,dFE
aARABIC LETTER BEH WITH THREE DOTS HORIZONTALLY BELOW,eDOT BELOW AND THREE DOTS ABOVE
eTHREE DOTS POINTING UPWARDS BELOW,jAND TWO DOTS ABOVE,eTWO DOTS BELOW AND DOTb
eINVERTED SMALL V BELOW,eSMALL V,cHAH WITH TWO DOTS ABOVE,eTHREE DOTS POINTING UPWARDS BELOW
cDAL WITH TWO DOTS VERTICALLY BELOW AND SMALL TAH,eINVERTED SMALL V BELOW,cREH WITH STROKE
cSEEN WITH FOUR DOTS ABOVE,cAIN WITH TWOc,eTHREE DOTS POINTING DOWNWARDSb,eTWO DOTS VERTICALLYb
cFEH WITH TWO DOTS BELOW,eTHREE DOTS POINTING UPWARDSb,cKEHEH WITH DOT ABOVE,eTHREE DOTSb
gPOINTING UPWARDS BELOW,cMEEM WITH DOT ABOVE,fBELOW,cNOON WITH TWO DOTSb,eSMALL TAH,fV,cLAM WITH BAR
cREH WITH TWO DOTS VERTICALLY ABOVE,eHAMZAb,cSEEN WITH TWO DOTS VERTICALLYb
cHAH WITH SMALL ARABIC LETTER TAH BELOW,iAND TWO DOTS,cSEENi,cREHi
cHAH WITH SMALL ARABIC LETTER TAH ABOVE,cALEF WITH EXTENDED ARABIC-INDIC DIGIT TWOb,hTHREEb
cFARSI YEH WITH EXTENDED ARABIC-INDIC DIGIT TWOb,iTHREEb,iFOUR BELOW
cWAW WITH EXTENDED ARABIC-INDIC DIGIT TWO ABOVE,hTHREEb
cYEH BARREE WITH EXTENDED ARABIC-INDIC DIGIT TWOb,iTHREEb
cHAH WITH EXTENDED ARABIC-INDIC DIGIT FOUR BELOW,cSEEN WITH EXTENDED ARABIC-INDIC DIGIT FOUR ABOVE
eINVERTED V,cKAF WITH TWO DOTS ABOVE,aTHAANA LETTER HAA,cSHAVIYANI,cNOONU,cRAA,cBAA,cLHAVIYANI
cKAAFU,cALIFU,cVAAVU,cMEEMU,cFAAFU,cDHAALU,cTHAA,cLAAMU,cGAAFU,cGNAVIYANI,cSEENU,cDAVIYANI,cZAVIYANI
cTAVIYANI,cYAA,cPAVIYANI,cJAVIYANI,cCHAVIYANI,cTTAA,cHHAA,cKHAA,cTHAALU,cZAA,cSHEENU,cSAADHU,cDAADHU
cTO,cZO,cAINU,cGHAINU,cQAAFU,cWAAVU,bABAFILI,bAABAAFILI,bIBIFILI,bEEBEEFILI,bUBUFILI,bOOBOOFILI
bEBEFILI,bEYBEYFILI,bOBOFILI,bOABOAFILI,bSUKUN,bLETTER NAA,14,aNKO DIGIT ZERO,cONE,cTWO,cTHREE,cFOUR
cFIVE,cSIX,cSEVEN,cEIGHT,cNINE,bLETTER A,cEE,cI,cE,cU,cOO,cO,cDAGBASINNA,cN,cBA,cPA,cTA,cJA,cCHA,cDA
cRA,cRRA,cSA,cGBA,cFA,cKA,cLA,cNA WOLOSO,cMA,cNYA,cNA,cHA,cWA,cYA,cNYA WOLOSO,cJONA JA,dCHA,dRA
bCOMBINING SHORT HIGH TONE,dLOWb,dRISINGb,cLONG DESCENDINGb,dHIGHb,dLOWb,dRISINGb,cNASALIZATION MARK
cDOUBLE DOT ABOVE,bHIGH TONE APOSTROPHE,bLOWc,bSYMBOL OO DENNEN,cGBAKURUNEN,bCOMMA,bEXCLAMATION MARK
bLAJANYALAN,2,bDANTAYALAN,bDOROME SIGN,bTAMANb,aSAMARITAN LETTER ALAF,cBIT,cGAMAN,cDALAT,cIY,cBAA
cZEN,cIT,cTIT,cYUT,cKAAF,cLABAT,cMIM,cNUN,cSINGAAT,cIN,cFI,cTSAADIY,cQUF,cRISH,cSHAN,cTAAF,bMARK IN
cIN-ALAF,cOCCLUSION,cDAGESH,bMODIFIER LETTER EPENTHETIC YUT,bMARKc,bVOWEL SIGN LONG E,db
dOVERLONG AA,dLONGb,db,dOVERLONG A,dLONGb,db,bMODIFIER LETTER SHORTb,bVOWEL SIGNc,dLONG U,db
bMODIFIER LETTER I,bVOWEL SIGN LONGb,db,dO,dSUKUN,bMARK NEQUDAA,2,bPUNCTUATIONb,cAFSAAQ,cANGED,cBAU
cATMAAU,cSHIYYAALAA,bABBREVIATION MARK,bPUNCTUATION MELODIC QITSA,cZIQAA,cQITSA,cZAEF,cTURU,cARKAANU
cSOF MASHFAAT,cANNAAU,1,aMANDAIC LETTER HALQA,cAB,cAG,cAD,cAH,cUSHENNA,cAZ,cIT,cATT,cAKSA,cAK,cAL
cAM,cAN,cAS,cIN,cAP,cASZ,cAQ,cAR,cASH,cAT,cDUSHENNA,cKAD,cAIN,bAFFRICATION MARK,bVOCALIZATIONb
bGEMINATIONb,2,bPUNCTUATION,1,aSYRIAC LETTER MALAYALAM NGA,dJA,dNYA,dTTA,dNNA,dNNNA,dBHA,dRA,dLLA
dLLLA,dSSA,5,aARABIC LETTER ALEF WITH ATTACHED FATHA,fTOP RIGHTb,eRIGHT MIDDLE STROKE,eLEFTc
eATTACHED KASRA,fBOTTOM RIGHTb,fROUND DOT ABOVE,fRIGHT ROUND DOT,fLEFTc,fROUND DOT BELOW,eDOT ABOVE
eATTACHED TOP RIGHT FATHA ANDc,eRIGHT MIDDLE STROKEd,eATTACHED BOTTOM RIGHT KASRAd
fTOP RIGHT FATHA AND LEFT RING,eRIGHT MIDDLE STROKEd,eATTACHED BOTTOM RIGHT KASRAd,fRIGHT HAMZA
fLEFTb,bTATWEEL WITH OVERSTRUCKb,eWAW,dTWO DOTS BELOW,bLETTER THIN YEH,bBASELINE ROUND DOT,bRAISEDc
bLETTER NOON WITH INVERTED SMALL V,cHAH WITH INVERTED SMALL V BELOW,cTAH WITH DOTb,eTHREE DOTSb
cKEHEH WITH TWO DOTS VERTICALLYb,bVERTICAL TAIL,1,bPOUND MARK ABOVE,bPIASTREc,6
bSMALL HIGH WORD AL-JUZ,cLOW WORD ISHMAAM,eIMAALA,eTASHEEL,bMADDA WAAJIB,bSUPERSCRIPT ALEF MOKHASSAS
bDOUBLED MADDA,bHALF MADDA OVERb,bLETTER BEH WITH SMALL V BELOW,eHAMZA ABOVE,cJEEM WITH TWO DOTSb
cTAHe,cFEH WITH DOT BELOW AND THREEc,cQAF WITH DOT BELOW,cLAM WITH DOUBLE BAR
cMEEM WITH THREE DOTS ABOVE,cYEH WITH TWO DOTS BELOW AND HAMZAb,iDOTb,cREH WITH LOOP
cWAW WITH DOT WITHIN,cROHINGYA YEH,cLOW ALEF,cDAL WITH THREE DOTS BELOW,cSADe
cGAF WITH INVERTED STROKE,cSTRAIGHT WAW,cZAIN WITH INVERTED V ABOVE,cAIN WITH THREE DOTS BELOW
cKAF WITH DOTb,cQAF WITH DOT BELOW AND NO DOTS ABOVE,cBEH WITH SMALL MEEMb,cPEHe
cTEH WITH SMALL TEHb,cREH WITH SMALL NOONb,cYEH WITH TWO DOTS BELOW ANDd,cAFRICAN FEH,dQAF,dNOON
cPEH WITH SMALL V,cTEHd,cTTEHd,cTCHEHd,cKEHEHd,cGHAIN WITH THREE DOTS ABOVE,cAFRICAN QAFe,cJEEMe
gBELOW,cLAM WITH SMALL ARABIC LETTER TAH ABOVE,cGRAF,bSMALL FARSI YEH,cHIGHc
dYEH BARREE WITH TWO DOTS BELOW,dWORD SAH,dZAH,bLARGE ROUND DOT ABOVE,eBELOW,bSUKUNb,bLARGE CIRCLEb
cROUND DOT INSIDEc,bSMALL LOW WAW,cHIGH WORD AR-RUB,dSAD,dAIN,dQAF,dNOON WITH KASRA,cLOWd
cHIGH WORD ATH-THALATHA,eAS-SAJDA,eAN-NISF,eSAKTA,eQIF,eWAQFA,dFOOTNOTE MARKER,dSIGN SAFHA
bDISPUTED END OF AYAH,bTURNED DAMMA BELOW,bCURLY FATHA,cDAMMA,cKASRA,cFATHATAN,cDAMMATAN,cKASRATAN
bTONE ONE DOT ABOVE,cTWO DOTSb,cLOOPb,cONE DOT BELOW,cTWO DOTSb,cLOOPb,bOPEN FATHATAN,cDAMMATAN
cKASRATAN,bSMALL HIGH WAW,bFATHA WITH RING,dDOT ABOVE,bKASRA WITH DOT BELOW,bLEFT ARROWHEAD ABOVE
bRIGHTc,bLEFT ARROWHEAD BELOW,bRIGHTc,bDOUBLE RIGHT ARROWHEAD ABOVE,fWITH DOT,bf,bDAMMAc
bMARK SIDEWAYS NOON GHUNNA,aDEVANAGARI SIGN INVERTED CANDRABINDU,cb,cANUSVARA,cVISARGA
bLETTER SHORT A,cb,cAA,cI,cII,cU,cUU,cVOCALIC R,dL,cCANDRA E,cSHORTb,cb,cAI,cCANDRA O,cSHORTb,cb,cAU
cKA,cKHA,cGA,cGHA,cNGA,cCA,cCHA,cJA,cJHA,cNYA,cTTA,cTTHA,cDDA,cDDHA,cNNA,cTA,cTHA,cDA,cDHA,cNA,cNNNA
cPA,cPHA,cBA,cBHA,cMA,cYA,cRA,cRRA,cLA,cLLA,cLLLA,cVA,cSHA,cSSA,cSA,cHA,bVOWEL SIGN OE,dOOE
bSIGN NUKTA,cAVAGRAHA,bVOWEL SIGN AA,dI,dII,dU,dUU,dVOCALIC R,eRR,dCANDRA E,dSHORTb,db,dAI,dCANDRA O
dSHORTb,db,dAU,bSIGN VIRAMA,bVOWEL SIGN PRISHTHAMATRA E,dAW,bOM,bSTRESS SIGN UDATTA,dANUDATTA
bGRAVE ACCENT,bACUTEb,bVOWEL SIGN CANDRA LONG E,dUE,dUUE,bLETTER QA,cKHHA,cGHHA,cZA,cDDDHA,cRHA,cFA
cYYA,cVOCALIC RR,dLL,bVOWEL SIGN VOCALIC L,eLL,bDANDA,bDOUBLEb,bDIGIT ZERO,cONE,cTWO,cTHREE,cFOUR
cFIVE,cSIX,cSEVEN,cEIGHT,cNINE,bABBREVIATION SIGN,bSIGN HIGH SPACING DOT,bLETTER CANDRA A,cOE,cOOE
cAW,cUE,cUUE,cMARWARI DDA,cZHA,cHEAVY YA,cGGA,cJJA,cGLOTTAL STOP,cDDDA,cBBA,aBENGALI ANJI
bSIGN CANDRABINDU,cANUSVARA,cVISARGA,1,bLETTER A,cAA,cI,cII,cU,cUU,cVOCALIC R,dL,2,cE,cAI,2,cO,cAU
cKA,cKHA,cGA,cGHA,cNGA,cCA,cCHA,cJA,cJHA,cNYA,cTTA,cTTHA,cDDA,cDDHA,cNNA,cTA,cTHA,cDA,cDHA,cNA,1,cPA
cPHA,cBA,cBHA,cMA,cYA,cRA,1,cLA,3,cSHA,cSSA,cSA,cHA,2,bSIGN NUKTA,cAVAGRAHA,bVOWEL SIGN AA,dI,dII,dU
dUU,dVOCALIC R,eRR,2,dE,dAI,2,dO,dAU,bSIGN VIRAMA,bLETTER KHANDA TA,8,bAU LENGTH MARK,4,bLETTER RRA
cRHA,1,cYYA,cVOCALIC RR,dLL,bVOWEL SIGN VOCALIC L,eLL,2,bDIGIT ZERO,cONE,cTWO,cTHREE,cFOUR,cFIVE
cSIX,cSEVEN,cEIGHT,cNINE,bLETTER RA WITH MIDDLE DIAGONAL,eLOWERb,bRUPEE MARK,cSIGN
bCURRENCY NUMERATOR ONE,dTWO,dTHREE,dFOUR,dONE LESS THAN THE DENOMINATOR,cDENOMINATOR SIXTEEN
bISSHAR,bGANDA MARK,bLETTER VEDIC ANUSVARA,bABBREVIATION SIGN,bSANDHI MARK,2
aGURMUKHI SIGN ADAK BINDI,cb,cVISARGA,1,bLETTER A,cAA,cI,cII,cU,cUU,4,cEE,cAI,2,cOO,cAU,cKA,cKHA,cGA
cGHA,cNGA,cCA,cCHA,cJA,cJHA,cNYA,cTTA,cTTHA,cDDA,cDDHA,cNNA,cTA,cTHA,cDA,cDHA,cNA,1,cPA,cPHA,cBA
cBHA,cMA,cYA,cRA,1,cLA,cLLA,1,cVA,cSHA,1,cSA,cHA,2,bSIGN NUKTA,1,bVOWEL SIGN AA,dI,dII,dU,dUU,4,dEE
dAI,2,dOO,dAU,bSIGN VIRAMA,3,cUDAAT,7,bLETTER KHHA,cGHHA,cZA,cRRA,1,cFA,7,bDIGIT ZERO,cONE,cTWO
cTHREE,cFOUR,cFIVE,cSIX,cSEVEN,cEIGHT,cNINE,bTIPPI,bADDAK,bIRI,bURA,bEK ONKAR,bSIGN YAKASH
bABBREVIATION SIGN,10,aGUJARATI SIGN CANDRABINDU,cANUSVARA,cVISARGA,1,bLETTER A,cAA,cI,cII,cU,cUU
cVOCALIC R,dL,bVOWEL CANDRA E,1,bLETTERb,cAI,bVOWEL CANDRA O,1,bLETTERb,cAU,cKA,cKHA,cGA,cGHA,cNGA
cCA,cCHA,cJA,cJHA,cNYA,cTTA,cTTHA,cDDA,cDDHA,cNNA,cTA,cTHA,cDA,cDHA,cNA,1,cPA,cPHA,cBA,cBHA,cMA,cYA
cRA,1,cLA,cLLA,1,cVA,cSHA,cSSA,cSA,cHA,2,bSIGN NUKTA,cAVAGRAHA,bVOWEL SIGN AA,dI,dII,dU,dUU
dVOCALIC R,eRR,dCANDRA E,1,db,dAI,dCANDRA O,1,db,dAU,bSIGN VIRAMA,2,bOM,15,bLETTER VOCALIC RR,dLL
bVOWEL SIGN VOCALIC L,eLL,2,bDIGIT ZERO,cONE,cTWO,cTHREE,cFOUR,cFIVE,cSIX,cSEVEN,cEIGHT,cNINE
bABBREVIATION SIGN,bRUPEEb,7,bLETTER ZHA,bSIGN SUKUN,cSHADDA,cMADDAH,cTHREE-DOT NUKTA ABOVE,cCIRCLEc
cTWO-CIRCLEc,1,aORIYA SIGN CANDRABINDU,cANUSVARA,cVISARGA,1,bLETTER A,cAA,cI,cII,cU,cUU,cVOCALIC R
dL,2,cE,cAI,2,cO,cAU,cKA,cKHA,cGA,cGHA,cNGA,cCA,cCHA,cJA,cJHA,cNYA,cTTA,cTTHA,cDDA,cDDHA,cNNA,cTA
cTHA,cDA,cDHA,cNA,1,cPA,cPHA,cBA,cBHA,cMA,cYA,cRA,1,cLA,cLLA,1,cVA,cSHA,cSSA,cSA,cHA,2,bSIGN NUKTA
cAVAGRAHA,bVOWEL SIGN AA,dI,dII,dU,dUU,dVOCALIC R,eRR,2,dE,dAI,2,dO,dAU,bSIGN VIRAMA,7,cOVERLINE
bAI LENGTH MARK,bAUc,4,bLETTER RRA,cRHA,1,cYYA,cVOCALIC RR,dLL,bVOWEL SIGN VOCALIC L,eLL,2
bDIGIT ZERO,cONE,cTWO,cTHREE,cFOUR,cFIVE,cSIX,cSEVEN,cEIGHT,cNINE,bISSHAR,bLETTER WA
bFRACTION ONE QUARTER,dHALF,cTHREE QUARTERS,cONE SIXTEENTH,dEIGHTH,cTHREE SIXTEENTHS,10
aTAMIL SIGN ANUSVARA,cVISARGA,1,bLETTER A,cAA,cI,cII,cU,cUU,3,cE,cEE,cAI,1,cO,cOO,cAU,cKA,3,cNGA,cCA
1,cJA,1,cNYA,cTTA,3,cNNA,cTA,3,cNA,cNNNA,cPA,3,cMA,cYA,cRA,cRRA,cLA,cLLA,cLLLA,cVA,cSHA,cSSA,cSA,cHA
4,bVOWEL SIGN AA,dI,dII,dU,dUU,3,dE,dEE,dAI,1,dO,dOO,dAU,bSIGN VIRAMA,2,bOM,6,bAU LENGTH MARK,14
bDIGIT ZERO,cONE,cTWO,cTHREE,cFOUR,cFIVE,cSIX,cSEVEN,cEIGHT,cNINE,bNUMBER TEN,cONE HUNDRED,dTHOUSAND
bDAY SIGN,bMONTHb,bYEARb,bDEBITb,bCREDITb,bAS ABOVEb,bRUPEEb,bNUMBERb,5
aTELUGU SIGN COMBINING CANDRABINDU ABOVE,cCANDRABINDU,cANUSVARA,cVISARGA,cCOMBINING ANUSVARA ABOVE
bLETTER A,cAA,cI,cII,cU,cUU,cVOCALIC R,dL,1,cE,cEE,cAI,1,cO,cOO,cAU,cKA,cKHA,cGA,cGHA,cNGA,cCA,cCHA
cJA,cJHA,cNYA,cTTA,cTTHA,cDDA,cDDHA,cNNA,cTA,cTHA,cDA,cDHA,cNA,1,cPA,cPHA,cBA,cBHA,cMA,cYA,cRA,cRRA
cLA,cLLA,cLLLA,cVA,cSHA,cSSA,cSA,cHA,2,bSIGN NUKTA,cAVAGRAHA,bVOWEL SIGN AA,dI,dII,dU,dUU,dVOCALIC R
eRR,1,dE,dEE,dAI,1,dO,dOO,dAU,bSIGN VIRAMA,7,bLENGTH MARK,bAIc,1,bLETTER TSA,cDZA,cRRRA,2
cNAKAARA POLLU,2,cVOCALIC RR,dLL,bVOWEL SIGN VOCALIC L,eLL,2,bDIGIT ZERO,cONE,cTWO,cTHREE,cFOUR
cFIVE,cSIX,cSEVEN,cEIGHT,cNINE,7,bSIGN SIDDHAM,bFRACTION DIGIT ZERO FOR ODD POWERS OF FOUR,dONEf
dTWOf,dTHREEf,dONE FOR EVENd,dTWOf,dTHREEf,bSIGN TUUMU,aKANNADA SIGN SPACING CANDRABINDU,cb
cANUSVARA,cVISARGA,cSIDDHAM,bLETTER A,cAA,cI,cII,cU,cUU,cVOCALIC R,dL,1,cE,cEE,cAI,1,cO,cOO,cAU,cKA
cKHA,cGA,cGHA,cNGA,cCA,cCHA,cJA,cJHA,cNYA,cTTA,cTTHA,cDDA,cDDHA,cNNA,cTA,cTHA,cDA,cDHA,cNA,1,cPA
cPHA,cBA,cBHA,cMA,cYA,cRA,cRRA,cLA,cLLA,1,cVA,cSHA,cSSA,cSA,cHA,2,bSIGN NUKTA,cAVAGRAHA
bVOWEL SIGN AA,dI,dII,dU,dUU,dVOCALIC R,eRR,1,dE,dEE,dAI,1,dO,dOO,dAU,bSIGN VIRAMA,7,bLENGTH MARK
bAIc,6,bLETTER NAKAARA POLLU,cFA|cLLLA,1,cVOCALIC RR,dLL,bVOWEL SIGN VOCALIC L,eLL,2,bDIGIT ZERO
cONE,cTWO,cTHREE,cFOUR,cFIVE,cSIX,cSEVEN,cEIGHT,cNINE,1,bSIGN JIHVAMULIYA,cUPADHMANIYA,13
aMALAYALAM SIGN COMBINING ANUSVARA ABOVE,cCANDRABINDU,cANUSVARA,cVISARGA,bLETTER VEDIC ANUSVARA,cA
cAA,cI,cII,cU,cUU,cVOCALIC R,dL,1,cE,cEE,cAI,1,cO,cOO,cAU,cKA,cKHA,cGA,cGHA,cNGA,cCA,cCHA,cJA,cJHA
cNYA,cTTA,cTTHA,cDDA,cDDHA,cNNA,cTA,cTHA,cDA,cDHA,cNA,cNNNA,cPA,cPHA,cBA,cBHA,cMA,cYA,cRA,cRRA,cLA
cLLA,cLLLA,cVA,cSHA,cSSA,cSA,cHA,cTTTA,bSIGN VERTICAL BAR VIRAMA,cCIRCULARb,cAVAGRAHA,bVOWEL SIGN AA
dI,dII,dU,dUU,dVOCALIC R,eRR,1,dE,dEE,dAI,1,dO,dOO,dAU,bSIGN VIRAMA,bLETTER DOT REPH,bSIGN PARA,4
bLETTER CHILLU M,dY,dLLL,bAU LENGTH MARK,bFRACTION ONE ONE-HUNDRED-AND-SIXTIETH,dFORTIETH
cTHREE EIGHTIETHS,cONE TWENTIETH,dTENTH,cTHREE TWENTIETHS,cONE FIFTH,bLETTER ARCHAIC II,cVOCALIC RR
dLL,bVOWEL SIGN VOCALIC L,eLL,2,bDIGIT ZERO,cONE,cTWO,cTHREE,cFOUR,cFIVE,cSIX,cSEVEN,cEIGHT,cNINE
bNUMBER TEN,cONE HUNDRED,dTHOUSAND,bFRACTION ONE QUARTER,dHALF,cTHREE QUARTERS,cONE SIXTEENTH
dEIGHTH,cTHREE SIXTEENTHS,bDATE MARK,bLETTER CHILLU NN,dN,dRR,dL,dLL,dK,1,aSINHALA SIGN CANDRABINDU
cANUSVARAYA,cVISARGAYA,1,bLETTER AYANNA,cAAYANNA,cAEYANNA,cAEEYANNA,cIYANNA,cIIYANNA,cUYANNA
cUUYANNA,cIRUYANNA,cIRUUYANNA,cILUYANNA,cILUUYANNA,cEYANNA,cEEYANNA,cAIYANNA,cOYANNA,cOOYANNA
cAUYANNA,3,cALPAPRAANA KAYANNA,cMAHAAPRAANAb,cALPAPRAANA GAYANNA,cMAHAAPRAANAb,cKANTAJA NAASIKYAYA
cSANYAKA GAYANNA,cALPAPRAANA CAYANNA,cMAHAAPRAANAb,cALPAPRAANA JAYANNA,cMAHAAPRAANAb
cTAALUJA NAASIKYAYA,dSANYOOGA NAAKSIKYAYA,cSANYAKA JAYANNA,cALPAPRAANA TTAYANNA,cMAHAAPRAANAb
cALPAPRAANA DDAYANNA,cMAHAAPRAANAb,cMUURDHAJA NAYANNA,cSANYAKA DDAYANNA,cALPAPRAANA TAYANNA
cMAHAAPRAANAb,cALPAPRAANA DAYANNA,cMAHAAPRAANAb,cDANTAJA NAYANNA,1,cSANYAKA DAYANNA
cALPAPRAANA PAYANNA,cMAHAAPRAANAb,cALPAPRAANA BAYANNA,cMAHAAPRAANAb,cMAYANNA,cAMBA BAYANNA,cYAYANNA
cRAYANNA,1,cDANTAJA LAYANNA,2,cVAYANNA,cTAALUJA SAYANNA,cMUURDHAJAb,cDANTAJAb,cHAYANNA
cMUURDHAJA LAYANNA,cFAYANNA,3,bSIGN AL-LAKUNA,4,bVOWEL SIGN AELA-PILLA,dKETTI AEDA-PILLA,dDIGAb
dKETTI IS-PILLA,dDIGAb,dKETTI PAA-PILLA,1,dDIGAb,1,dGAETTA-PILLA,dKOMBUVA,dDIGAb,dKOMBU DEKA
dKOMBUVA HAA AELA-PILLA,fDIGAb,fGAYANUKITTA,db,6,bLITH DIGIT ZERO,dONE,dTWO,dTHREE,dFOUR,dFIVE,dSIX
dSEVEN,dEIGHT,dNINE,2,bVOWEL SIGN DIGA GAETTA-PILLA,eGAYANUKITTA,bPUNCTUATION KUNDDALIYA,12
aTHAI CHARACTER KO KAI,cKHO KHAI,dKHUAT,dKHWAI,dKHON,dRAKHANG,cNGO NGU,cCHO CHAN,dCHING,dCHANG
cSO SO,cCHO CHOE,cYO YING,cDO CHADA,cTO PATAK,cTHO THAN,dNANGMONTHO,dPHUTHAO,cNO NEN,cDO DEK,cTO TAO
cTHO THUNG,dTHAHAN,dTHONG,cNO NU,cBO BAIMAI,cPO PLA,cPHO PHUNG,cFO FA,cPHO PHAN,cFO FAN,cPHO SAMPHAO
cMO MA,cYO YAK,cRO RUA,cRU,cLO LING,cLU,cWO WAEN,cSO SALA,dRUSI,dSUA,cHO HIP,cLO CHULA,cO ANG
cHO NOKHUK,cPAIYANNOI,cSARA A,cMAI HAN-AKAT,cSARA AA,dAM,dI,dII,dUE,dUEE,dU,dUU,cPHINTHU,4
bCURRENCY SYMBOL BAHT,bCHARACTER SARA E,dAE,dO,dAI MAIMUAN,eMAIMALAI,cLAKKHANGYAO,cMAIYAMOK
cMAITAIKHU,cMAI EK,dTHO,dTRI,dCHATTAWA,cTHANTHAKHAT,cNIKHAHIT,cYAMAKKAN,cFONGMAN,bDIGIT ZERO,cONE
cTWO,cTHREE,cFOUR,cFIVE,cSIX,cSEVEN,cEIGHT,cNINE,bCHARACTER ANGKHANKHU,cKHOMUT,37,aLAO LETTER KO
cKHO SUNG,1,dTAM,1,cPALI GHA,cNGO,cCO,cPALI CHA,cSO TAM,1,cPALI JHA,cNYO,cPALI NYA,dTTA,dTTHA,dDDA
dDDHA,dNNA,cDO,cTO,cTHO SUNG,dTAM,cPALI DHA,cNO,cBO,cPO,cPHO SUNG,cFO TAM|dFON,cPHO TAM
cFO SUNG|dFAY,cPALI BHA,cMO,cYO,cLO LING|cRO,1,cLO LOOT|d,1,cWO,cSANSKRIT SHA,dSSA,cSO SUNG,cHOb
cPALI LLA,cO,cHO TAM,bELLIPSIS,bVOWEL SIGN A,dMAI KAN,dAA,dAM,dI,dII,dY,dYY,dU,dUU,bSIGN PALI VIRAMA
bVOWEL SIGN MAI KON,bSEMIVOWEL SIGN LO,dNYO,2,bVOWEL SIGN E,dEI,dO,dAY,dAI,1,bKO LA,1,bTONE MAI EK
dTHO,dTI,dCATAWA,bCANCELLATION MARK,bNIGGAHITA,2,bDIGIT ZERO,cONE,cTWO,cTHREE,cFOUR,cFIVE,cSIX
cSEVEN,cEIGHT,cNINE,2,bHO NO,cMO,bLETTER KHMU GO,dNYO,32,aTIBETAN SYLLABLE OM
bMARK GTER YIG MGO TRUNCATED A,f-UM RNAM BCAD MA,gGTER TSHEGb,cINITIAL YIG MGO MDUNb
cCLOSING YIG MGO SGABb,cCARET YIG MGO PHUR SHADb,cYIG MGO TSHEGc,cSBRUL SHAD,cBSKUR YIG MGO
cBKA- SHOGc,cINTERSYLLABIC TSHEG,cDELIMITER TSHEG BSTAR,cSHAD,cNYISb,cTSHEGb,cNYISc
cRIN CHEN SPUNGSb,cRGYA GRAMb,cCARET -DZUD RTAGS ME LONG CAN,cGTER TSHEG,bLOGOTYPE SIGN CHAD RTAGS
dLHAGb,bASTROLOGICAL SIGN SGRA GCAN -CHARb,d-KHYUD PA,dSDONG TSHUGS,bSIGN RDEL DKAR GCIG,eGNYIS
eGSUM,dNAG GCIG,eGNYIS,dDKAR RDEL NAG,bDIGIT ZERO,cONE,cTWO,cTHREE,cFOUR,cFIVE,cSIX,cSEVEN,cEIGHT
cNINE,cHALF ONE,dTWO,dTHREE,dFOUR,dFIVE,dSIX,dSEVEN,dEIGHT,dNINE,dZERO,bMARK BSDUS RTAGS
cNGAS BZUNG NYI ZLA,cCARET -DZUD RTAGS BZHI MIG CAN,cNGAS BZUNG SGOR RTAGS,cCHE MGO,cTSA -PHRU
cGUG RTAGS GYON,eGYAS,cANG KHANG GYON,eGYAS,bSIGN YAR TSHES,cMARb,bLETTER KA,cKHA,cGA,cGHA,cNGA,cCA
cCHA,cJA,1,cNYA,cTTA,cTTHA,cDDA,cDDHA,cNNA,cTA,cTHA,cDA,cDHA,cNA,cPA,cPHA,cBA,cBHA,cMA,cTSA,cTSHA
cDZA,cDZHA,cWA,cZHA,cZA,c-A,cYA,cRA,cLA,cSHA,cSSA,cSA,cHA,cA,cKSSA,cFIXED-FORM RA,cKKA,cRRA,4
bVOWEL SIGN AA,dI,dII,dU,dUU,dVOCALIC R,eRR,eL,eLL,dE,dEE,dO,dOO,bSIGN RJES SU NGA RO,cRNAM BCAD
bVOWEL SIGN REVERSED I,eII,bSIGN NYI ZLA NAA DA,cSNA LDAN,bMARK HALANTA,cPALUTA,bSIGN LCI RTAGS
cYANGb,cLCE TSA CAN,cMCHUb,cGRU CAN RGYINGS,dMEDb,cINVERTED MCHU CAN,bSUBJOINED SIGN LCE TSAb,dMCHUb
dINVERTEDc,cLETTER KA,dKHA,dGA,dGHA,dNGA,dCA,dCHA,dJA,1,dNYA,dTTA,dTTHA,dDDA,dDDHA,dNNA,dTA,dTHA,dDA
dDHA,dNA,dPA,dPHA,dBA,dBHA,dMA,dTSA,dTSHA,dDZA,dDZHA,dWA,dZHA,dZA,d-A,dYA,dRA,dLA,dSHA,dSSA,dSA,dHA
dA,dKSSA,dFIXED-FORM WA,eYA,eRA,1,bKU RU KHA,eBZHI MIG CAN,bCANTILLATION SIGN HEAVY BEAT,dLIGHTb
dCANG TE-U,dSBUB -CHAL,bSYMBOL DRIL BU,cRDO RJE,cPADMA GDAN,cRDO RJE RGYA GRAM,cPHUR PA,cNOR BU
eNYIS -KHYIL,eGSUMb,eBZHIb,1,bSIGN RDEL NAG RDEL DKAR,eGSUM,bMARK BSKA- SHOG GI MGO RGYAN|cBKA-e
cMNYAM YIGd,cNYIS TSHEG,cINITIAL BRDA RNYING YIG MGO MDUN MA,cCLOSING BRDA RNYING YIG MGO SGABb
aRIGHT-FACING SVASTI SIGN,aLEFT-FACINGc,aRIGHT-FACING SVASTI SIGN WITH DOTS,aLEFT-FACINGe
aTIBETAN MARK LEADING MCHAN RTAGS,cTRAILINGc,37,aMYANMAR LETTER KA,cKHA,cGA,cGHA,cNGA,cCA,cCHA,cJA
cJHA,cNYA,cNNYA,cTTA,cTTHA,cDDA,cDDHA,cNNA,cTA,cTHA,cDA,cDHA,cNA,cPA,cPHA,cBA,cBHA,cMA,cYA,cRA,cLA
cWA,cSA,cHA,cLLA,cA,cSHANb,cI,cII,cU,cUU,cE,cMONb,cO,cAU,bVOWEL SIGN TALL AA,db,dI,dII,dU,dUU,dE,dAI
dMON II,eO,dE ABOVE,bSIGN ANUSVARA,cDOT BELOW,cVISARGA,cVIRAMA,cASAT,bCONSONANT SIGN MEDIAL YA,eRA
eWA,eHA,bLETTER GREAT SA,bDIGIT ZERO,cONE,cTWO,cTHREE,cFOUR,cFIVE,cSIX,cSEVEN,cEIGHT,cNINE
bSIGN LITTLE SECTION,cb,bSYMBOL LOCATIVE,cCOMPLETED,cAFOREMENTIONED,cGENITIVE,bLETTER SHA,cSSA
cVOCALIC R,dRR,dL,dLL,bVOWEL SIGN VOCALIC R,eRR,eL,eLL,bLETTER MON NGA,dJHA,dBBA,dBBE
bCONSONANT SIGN MON MEDIAL NA,fMA,fLA,bLETTER SGAW KAREN SHA,bVOWEL SIGN SGAW KAREN EU
bTONE MARK SGAW KAREN HATHI,fKE PHO,bLETTER WESTERN PWO KAREN THA,fPWA
bVOWEL SIGN WESTERN PWO KAREN EU,gUE,bSIGN WESTERN PWO KAREN TONE-1,fTONE-2,fTONE-3,fTONE-4,fTONE-5
bLETTER EASTERN PWO KAREN NNA,fYWA,fGHWA,bVOWEL SIGN GEBA KAREN I,dKAYAH OE,eU,eEE,bLETTER SHAN KA
dKHA,dGA,dCA,dZA,dNYA,dDA,dNA,dPHA,dFA,dBA,dTHA,dHA,bCONSONANT SIGN SHAN MEDIAL WA
bVOWEL SIGN SHAN AA,eE,fABOVE,eFINAL Y,bSIGN SHAN TONE-2,dTONE-3,dTONE-5,dTONE-6,dCOUNCIL TONE-2
eTONE-3,eEMPHATIC TONE,bLETTER RUMAI PALAUNG FA,bSIGN RUMAI PALAUNG TONE-5,bSHAN DIGIT ZERO,dONE
dTWO,dTHREE,dFOUR,dFIVE,dSIX,dSEVEN,dEIGHT,dNINE,bSIGN KHAMTI TONE-1,dTONE-3,bVOWEL SIGN AITON A,eAI
bSYMBOL SHAN ONE,dEXCLAMATION,aGEORGIAN CAPITAL LETTER AN,dBAN,dGAN,dDON,dEN,dVIN,dZEN,dTAN,dIN,dKAN
dLAS,dMAN,dNAR,dON,dPAR,dZHAR,dRAE,dSAN,dTAR,dUN,dPHAR,dKHAR,dGHAN,dQAR,dSHIN,dCHIN,dCAN,dJIL,dCIL
dCHAR,dXAN,dJHAN,dHAE,dHE,dHIE,dWE,dHAR,dHOE,1,dYN,5,dAEN,2,bLETTER AN,cBAN,cGAN,cDON,cEN,cVIN,cZEN
cTAN,cIN,cKAN,cLAS,cMAN,cNAR,cON,cPAR,cZHAR,cRAE,cSAN,cTAR,cUN,cPHAR,cKHAR,cGHAN,cQAR,cSHIN,cCHIN
cCAN,cJIL,cCIL,cCHAR,cXAN,cJHAN,cHAE,cHE,cHIE,cWE,cHAR,cHOE,cFI,cYN,cELIFI,cTURNED GAN,cAIN
bPARAGRAPH SEPARATOR,aMODIFIER LETTER GEORGIAN NAR,aGEORGIAN LETTER AEN,cHARD SIGN,cLABIALb
aHANGUL CHOSEONG KIYEOK,cSSANGKIYEOK,cNIEUN,cTIKEUT,cSSANGTIKEUT,cRIEUL,cMIEUM,cPIEUP,cSSANGPIEUP
cSIOS,cSSANGSIOS,cIEUNG,cCIEUC,cSSANGCIEUC,cCHIEUCH,cKHIEUKH,cTHIEUTH,cPHIEUPH,cHIEUH,cNIEUN-KIYEOK
cSSANGNIEUN,cNIEUN-TIKEUT,cNIEUN-PIEUP,cTIKEUT-KIYEOK,cRIEUL-NIEUN,cSSANGRIEUL,cRIEUL-HIEUH
cKAPYEOUNRIEUL,cMIEUM-PIEUP,cKAPYEOUNMIEUM,cPIEUP-KIYEOK,cPIEUP-NIEUN,cPIEUP-TIKEUT,cPIEUP-SIOS
cPIEUP-SIOS-KIYEOK,cPIEUP-SIOS-TIKEUT,cPIEUP-SIOS-PIEUP,cPIEUP-SSANGSIOS,cPIEUP-SIOS-CIEUC
cPIEUP-CIEUC,cPIEUP-CHIEUCH,cPIEUP-THIEUTH,cPIEUP-PHIEUPH,cKAPYEOUNPIEUP,cKAPYEOUNSSANGPIEUP
cSIOS-KIYEOK,cSIOS-NIEUN,cSIOS-TIKEUT,cSIOS-RIEUL,cSIOS-MIEUM,cSIOS-PIEUP,cSIOS-PIEUP-KIYEOK
cSIOS-SSANGSIOS,cSIOS-IEUNG,cSIOS-CIEUC,cSIOS-CHIEUCH,cSIOS-KHIEUKH,cSIOS-THIEUTH,cSIOS-PHIEUPH
cSIOS-HIEUH,cCHITUEUMSIOS,cCHITUEUMSSANGSIOS,cCEONGCHIEUMSIOS,cCEONGCHIEUMSSANGSIOS,cPANSIOS
cIEUNG-KIYEOK,cIEUNG-TIKEUT,cIEUNG-MIEUM,cIEUNG-PIEUP,cIEUNG-SIOS,cIEUNG-PANSIOS,cSSANGIEUNG
cIEUNG-CIEUC,cIEUNG-CHIEUCH,cIEUNG-THIEUTH,cIEUNG-PHIEUPH,cYESIEUNG,cCIEUC-IEUNG,cCHITUEUMCIEUC
cCHITUEUMSSANGCIEUC,cCEONGCHIEUMCIEUC,cCEONGCHIEUMSSANGCIEUC,cCHIEUCH-KHIEUKH,cCHIEUCH-HIEUH
cCHITUEUMCHIEUCH,cCEONGCHIEUMCHIEUCH,cPHIEUPH-PIEUP,cKAPYEOUNPHIEUPH,cSSANGHIEUH,cYEORINHIEUH
cKIYEOK-TIKEUT,cNIEUN-SIOS,cNIEUN-CIEUC,cNIEUN-HIEUH,cTIKEUT-RIEUL,cFILLER,bJUNGSEONGb,cA,cAE,cYA
cYAE,cEO,cE,cYEO,cYE,cO,cWA,cWAE,cOE,cYO,cU,cWEO,cWE,cWI,cYU,cEU,cYI,cI,cA-O,cA-U,cYA-O,cYA-YO,cEO-O
cEO-U,cEO-EU,cYEO-O,cYEO-U,cO-EO,cO-E,cO-YE,cO-O,cO-U,cYO-YA,cYO-YAE,cYO-YEO,cYO-O,cYO-I,cU-A,cU-AE
cU-EO-EU,cU-YE,cU-U,cYU-A,cYU-EO,cYU-E,cYU-YEO,cYU-YE,cYU-U,cYU-I,cEU-U,cEU-EU,cYI-U,cI-A,cI-YA,cI-O
cI-U,cI-EU,cI-ARAEA,cARAEA,cARAEA-EO,cARAEA-U,cARAEA-I,cSSANGARAEA,cA-EU,cYA-U,cYEO-YA,cO-YA,cO-YAE
bJONGSEONG KIYEOK,cSSANGKIYEOK,cKIYEOK-SIOS,cNIEUN,cNIEUN-CIEUC,cNIEUN-HIEUH,cTIKEUT,cRIEUL
cRIEUL-KIYEOK,cRIEUL-MIEUM,cRIEUL-PIEUP,cRIEUL-SIOS,cRIEUL-THIEUTH,cRIEUL-PHIEUPH,cRIEUL-HIEUH
cMIEUM,cPIEUP,cPIEUP-SIOS,cSIOS,cSSANGSIOS,cIEUNG,cCIEUC,cCHIEUCH,cKHIEUKH,cTHIEUTH,cPHIEUPH,cHIEUH
cKIYEOK-RIEUL,cKIYEOK-SIOS-KIYEOK,cNIEUN-KIYEOK,cNIEUN-TIKEUT,cNIEUN-SIOS,cNIEUN-PANSIOS
cNIEUN-THIEUTH,cTIKEUT-KIYEOK,cTIKEUT-RIEUL,cRIEUL-KIYEOK-SIOS,cRIEUL-NIEUN,cRIEUL-TIKEUT
cRIEUL-TIKEUT-HIEUH,cSSANGRIEUL,cRIEUL-MIEUM-KIYEOK,cRIEUL-MIEUM-SIOS,cRIEUL-PIEUP-SIOS
cRIEUL-PIEUP-HIEUH,cRIEUL-KAPYEOUNPIEUP,cRIEUL-SSANGSIOS,cRIEUL-PANSIOS,cRIEUL-KHIEUKH
cRIEUL-YEORINHIEUH,cMIEUM-KIYEOK,cMIEUM-RIEUL,cMIEUM-PIEUP,cMIEUM-SIOS,cMIEUM-SSANGSIOS
cMIEUM-PANSIOS,cMIEUM-CHIEUCH,cMIEUM-HIEUH,cKAPYEOUNMIEUM,cPIEUP-RIEUL,cPIEUP-PHIEUPH,cPIEUP-HIEUH
cKAPYEOUNPIEUP,cSIOS-KIYEOK,cSIOS-TIKEUT,cSIOS-RIEUL,cSIOS-PIEUP,cPANSIOS
cIEUNG-KIYEOK|cYESIEUNG-KIYEOK,cIEUNG-SSANGKIYEOK|cYESIEUNG-SSANGKIYEOK,cSSANGIEUNG|cSSANGYESIEUNG
cIEUNG-KHIEUKH|cYESIEUNG-KHIEUKH,cYESIEUNG,cYESIEUNG-SIOS,cYESIEUNG-PANSIOS,cPHIEUPH-PIEUP
cKAPYEOUNPHIEUPH,cHIEUH-NIEUN,cHIEUH-RIEUL,cHIEUH-MIEUM,cHIEUH-PIEUP,cYEORINHIEUH,cKIYEOK-NIEUN
cKIYEOK-PIEUP,cKIYEOK-CHIEUCH,cKIYEOK-KHIEUKH,cKIYEOK-HIEUH,cSSANGNIEUN,aETHIOPIC SYLLABLE HA,cHU
cHI,cHAA,cHEE,cHE,cHO,cHOA,cLA,cLU,cLI,cLAA,cLEE,cLE,cLO,cLWA,cHHA,cHHU,cHHI,cHHAA,cHHEE,cHHE,cHHO
cHHWA,cMA,cMU,cMI,cMAA,cMEE,cME,cMO,cMWA,cSZA,cSZU,cSZI,cSZAA,cSZEE,cSZE,cSZO,cSZWA,cRA,cRU,cRI,cRAA
cREE,cRE,cRO,cRWA,cSA,cSU,cSI,cSAA,cSEE,cSE,cSO,cSWA,cSHA,cSHU,cSHI,cSHAA,cSHEE,cSHE,cSHO,cSHWA,cQA
cQU,cQI,cQAA,cQEE,cQE,cQO,cQOA,cQWA,1,cQWI,cQWAA,cQWEE,cQWE,2,cQHA,cQHU,cQHI,cQHAA,cQHEE,cQHE,cQHO,1
cQHWA,1,cQHWI,cQHWAA,cQHWEE,cQHWE,2,cBA,cBU,cBI,cBAA,cBEE,cBE,cBO,cBWA,cVA,cVU,cVI,cVAA,cVEE,cVE,cVO
cVWA,cTA,cTU,cTI,cTAA,cTEE,cTE,cTO,cTWA,cCA,cCU,cCI,cCAA,cCEE,cCE,cCO,cCWA,cXA,cXU,cXI,cXAA,cXEE,cXE
cXO,cXOA,cXWA,1,cXWI,cXWAA,cXWEE,cXWE,2,cNA,cNU,cNI,cNAA,cNEE,cNE,cNO,cNWA,cNYA,cNYU,cNYI,cNYAA
cNYEE,cNYE,cNYO,cNYWA,cGLOTTAL A,dU,dI,dAA,dEE,dE,dO,dWA,cKA,cKU,cKI,cKAA,cKEE,cKE,cKO,cKOA,cKWA,1
cKWI,cKWAA,cKWEE,cKWE,2,cKXA,cKXU,cKXI,cKXAA,cKXEE,cKXE,cKXO,1,cKXWA,1,cKXWI,cKXWAA,cKXWEE,cKXWE,2
cWA,cWU,cWI,cWAA,cWEE,cWE,cWO,cWOA,cPHARYNGEAL A,dU,dI,dAA,dEE,dE,dO,1,cZA,cZU,cZI,cZAA,cZEE,cZE,cZO
cZWA,cZHA,cZHU,cZHI,cZHAA,cZHEE,cZHE,cZHO,cZHWA,cYA,cYU,cYI,cYAA,cYEE,cYE,cYO,cYOA,cDA,cDU,cDI,cDAA
cDEE,cDE,cDO,cDWA,cDDA,cDDU,cDDI,cDDAA,cDDEE,cDDE,cDDO,cDDWA,cJA,cJU,cJI,cJAA,cJEE,cJE,cJO,cJWA,cGA
cGU,cGI,cGAA,cGEE,cGE,cGO,cGOA,cGWA,1,cGWI,cGWAA,cGWEE,cGWE,2,cGGA,cGGU,cGGI,cGGAA,cGGEE,cGGE,cGGO
cGGWAA,cTHA,cTHU,cTHI,cTHAA,cTHEE,cTHE,cTHO,cTHWA,cCHA,cCHU,cCHI,cCHAA,cCHEE,cCHE,cCHO,cCHWA,cPHA
cPHU,cPHI,cPHAA,cPHEE,cPHE,cPHO,cPHWA,cTSA,cTSU,cTSI,cTSAA,cTSEE,cTSE,cTSO,cTSWA,cTZA,cTZU,cTZI
cTZAA,cTZEE,cTZE,cTZO,cTZOA,cFA,cFU,cFI,cFAA,cFEE,cFE,cFO,cFWA,cPA,cPU,cPI,cPAA,cPEE,cPE,cPO,cPWA
cRYA,cMYA,cFYA,2,bCOMBINING GEMINATION AND VOWEL LENGTH MARK,cd,cGEMINATIONb,bSECTIONb,bWORDSPACE
bFULL STOP,bCOMMA,bSEMICOLON,bCOLON,bPREFACEb,bQUESTION MARK,bPARAGRAPH SEPARATOR,bDIGIT ONE,cTWO
cTHREE,cFOUR,cFIVE,cSIX,cSEVEN,cEIGHT,cNINE,bNUMBER TEN,cTWENTY,cTHIRTY,cFORTY,cFIFTY,cSIXTY
cSEVENTY,cEIGHTY,cNINETY,cHUNDRED,cTEN THOUSAND,3,bSYLLABLE SEBATBEIT MWA,cMWI,cMWEE,cMWE
cSEBATBEIT BWA,cBWI,cBWEE,cBWE,cSEBATBEIT FWA,cFWI,cFWEE,cFWE,cSEBATBEIT PWA,cPWI,cPWEE,cPWE
bTONAL MARK YIZET,dDERET,dRIKRIK,dSHORTb,dDIFAT,dKENAT,dCHIRET,dHIDET,dDERET-HIDET,dKURT,6
aCHEROKEE LETTER A,cE,cI,cO,cU,cV,cGA,cKA,cGE,cGI,cGO,cGU,cGV,cHA,cHE,cHI,cHO,cHU,cHV,cLA,cLE,cLI
cLO,cLU,cLV,cMA,cME,cMI,cMO,cMU,cNA,cHNA,cNAH,cNE,cNI,cNO,cNU,cNV,cQUA,cQUE,cQUI,cQUO,cQUU,cQUV,cSA
cS,cSE,cSI,cSO,cSU,cSV,cDA,cTA,cDE,cTE,cDI,cTI,cDO,cDU,cDV,cDLA,cTLA,cTLE,cTLI,cTLO,cTLU,cTLV,cTSA
cTSE,cTSI,cTSO,cTSU,cTSV,cWA,cWE,cWI,cWO,cWU,cWV,cYA,cYE,cYI,cYO,cYU,cYV,cMV,2,bSMALL LETTER YE,dYI
dYO,dYU,dYV,dMV,2,aCANADIAN SYLLABICS HYPHEN,cE,cAAI,cI,cII,cO,cOO,cY-CREEb,cCARRIER EE,dI,cA,cAA
cWE,cWEST-CREEb,cWI,cWEST-CREEb,cWII,cWEST-CREEb,cWO,cWEST-CREEb,cWOO,cWEST-CREEb,cNASKAPIb,cWA
cWEST-CREEb,cWAA,cWEST-CREEb,cNASKAPIb,cAI,cY-CREE W,cGLOTTAL STOP,cFINAL ACUTE,dGRAVE
dBOTTOM HALF RING,dTOPc,dRIGHTc,db,dDOUBLE ACUTE,eSHORT VERTICAL STROKES,dMIDDLE DOT
dSHORT HORIZONTAL STROKE,dPLUS,dDOWN TACK,cEN,cIN,cON,cAN,cPE,cPAAI,cPI,cPII,cPO,cPOO,cY-CREEb
cCARRIER HEE,dHI,cPA,cPAA,cPWE,cWEST-CREEb,cPWI,cWEST-CREEb,cPWII,cWEST-CREEb,cPWO,cWEST-CREEb,cPWOO
cWEST-CREEb,cPWA,cWEST-CREEb,cPWAA,cWEST-CREEb,cY-CREEb,cP,cWEST-CREEb,cCARRIER H,cTE,cTAAI,cTI,cTII
cTO,cTOO,cY-CREEb,cCARRIER DEE,dDI,cTA,cTAA,cTWE,cWEST-CREEb,cTWI,cWEST-CREEb,cTWII,cWEST-CREEb,cTWO
cWEST-CREEb,cTWOO,cWEST-CREEb,cTWA,cWEST-CREEb,cTWAA,cWEST-CREEb,cNASKAPIb,cT,cTTE,cTTI,cTTO,cTTA
cKE,cKAAI,cKI,cKII,cKO,cKOO,cY-CREEb,cKA,cKAA,cKWE,cWEST-CREEb,cKWI,cWEST-CREEb,cKWII,cWEST-CREEb
cKWO,cWEST-CREEb,cKWOO,cWEST-CREEb,cKWA,cWEST-CREEb,cKWAA,cWEST-CREEb,cNASKAPIb,cK,cKW
cSOUTH-SLAVEY KEH,dKIH,dKOH,dKAH,cCE,cCAAI,cCI,cCII,cCO,cCOO,cY-CREEb,cCA,cCAA,cCWE,cWEST-CREEb,cCWI
cWEST-CREEb,cCWII,cWEST-CREEb,cCWO,cWEST-CREEb,cCWOO,cWEST-CREEb,cCWA,cWEST-CREEb,cCWAA,cWEST-CREEb
cNASKAPIb,cC,cSAYISI TH,cME,cMAAI,cMI,cMII,cMO,cMOO,cY-CREEb,cMA,cMAA,cMWE,cWEST-CREEb,cMWI
cWEST-CREEb,cMWII,cWEST-CREEb,cMWO,cWEST-CREEb,cMWOO,cWEST-CREEb,cMWA,cWEST-CREEb,cMWAA,cWEST-CREEb
cNASKAPIb,cM,cWEST-CREEb,cMH,cATHAPASCAN M,cSAYISIb,cNE,cNAAI,cNI,cNII,cNO,cNOO,cY-CREEb,cNA,cNAA
cNWE,cWEST-CREEb,cNWA,cWEST-CREEb,cNWAA,cWEST-CREEb,cNASKAPIb,cN,cCARRIER NG,cNH,cLE,cLAAI,cLI,cLII
cLO,cLOO,cY-CREEb,cLA,cLAA,cLWE,cWEST-CREEb,cLWI,cWEST-CREEb,cLWII,cWEST-CREEb,cLWO,cWEST-CREEb
cLWOO,cWEST-CREEb,cLWA,cWEST-CREEb,cLWAA,cWEST-CREEb,cL,cWEST-CREEb,cMEDIALb,cSE,cSAAI,cSI,cSII,cSO
cSOO,cY-CREEb,cSA,cSAA,cSWE,cWEST-CREEb,cSWI,cWEST-CREEb,cSWII,cWEST-CREEb,cSWO,cWEST-CREEb,cSWOO
cWEST-CREEb,cSWA,cWEST-CREEb,cSWAA,cWEST-CREEb,cNASKAPIb,cS,cATHAPASCANb,cSW,cBLACKFOOT S
cMOOSE-CREE SK,cNASKAPI SKW,dS-W,dSPWA,dSTWA,dSKWA,dSCWA,cSHE,cSHI,cSHII,cSHO,cSHOO,cSHA,cSHAA,cSHWE
cWEST-CREEb,cSHWI,cWEST-CREEb,cSHWII,cWEST-CREEb,cSHWO,cWEST-CREEb,cSHWOO,cWEST-CREEb,cSHWA
cWEST-CREEb,cSHWAA,cWEST-CREEb,cSH,cYE,cYAAI,cYI,cYII,cYO,cYOO,cY-CREEb,cYA,cYAA,cYWE,cWEST-CREEb
cYWI,cWEST-CREEb,cYWII,cWEST-CREEb,cYWO,cWEST-CREEb,cYWOO,cWEST-CREEb,cYWA,cWEST-CREEb,cYWAA
cWEST-CREEb,cNASKAPIb,cY,cBIBLE-CREEb,cWEST-CREEb,cSAYISI YI,cRE,cR-CREEb,cWEST-CREE LE,cRAAI,cRI
cRII,cRO,cROO,cWEST-CREE LO,cRA,cRAA,cWEST-CREE LA,cRWAA,cWEST-CREEb,cR,cWEST-CREEb,cMEDIALb,cFE
cFAAI,cFI,cFII,cFO,cFOO,cFA,cFAA,cFWAA,cWEST-CREEb,cF,cTHE,cN-CREEb,cTHI,cN-CREEb,cTHII,cN-CREEb
cTHO,cTHOO,cTHA,cTHAA,cTHWAA,cWEST-CREEb,cTH,cTTHE,cTTHI,cTTHO,cTTHA,cTTH,cTYE,cTYI,cTYO,cTYA
cNUNAVIK HE,dHI,dHII,dHO,dHOO,dHA,dHAA,dH,cNUNAVUTb,cHK,cQAAI,cQI,cQII,cQO,cQOO,cQA,cQAA,cQ,cTLHE
cTLHI,cTLHO,cTLHA,cWEST-CREE RE,dRI,dRO,dRA,cNGAAI,cNGI,cNGII,cNGO,cNGOO,cNGA,cNGAA,cNG,cNNG
cSAYISI SHE,dSHI,dSHO,dSHA,cWOODS-CREE THE,dTHI,dTHO,dTHA,dTH,cLHI,cLHII,cLHO,cLHOO,cLHA,cLHAA,cLH
cTH-CREE THE,dTHI,dTHII,dTHO,dTHOO,dTHA,dTHAA,dTH,cAIVILIK B,cBLACKFOOT E,dI,dO,dA,dWE,dWI,dWO,dWA
dNE,dNI,dNO,dNA,dKE,dKI,dKO,dKA,cSAYISI HE,dHI,dHO,dHA,cCARRIER GHU,dGHO,dGHE,dGHEE,dGHI,dGHA,dRU
dRO,dRE,dREE,dRI,dRA,dWU,dWO,dWE,dWEE,dWI,dWA,dHWU,dHWO,dHWE,dHWEE,dHWI,dHWA,dTHU,dTHO,dTHE,dTHEE
dTHI,dTHA,dTTU,dTTO,dTTE,dTTEE,dTTI,dTTA,dPU,dPO,dPE,dPEE,dPI,dPA,dP,dGU,dGO,dGE,dGEE,dGI,dGA,dKHU
dKHO,dKHE,dKHEE,dKHI,dKHA,dKKU,dKKO,dKKE,dKKEE,dKKI,dKKA,dKK,dNU,dNO,dNE,dNEE,dNI,dNA,dMU,dMO,dME
dMEE,dMI,dMA,dYU,dYO,dYE,dYEE,dYI,dYA,dJU,cSAYISIb,cCARRIER JO,dJE,dJEE,dJI,cSAYISIb,cCARRIER JA
dJJU,dJJO,dJJE,dJJEE,dJJI,dJJA,dLU,dLO,dLE,dLEE,dLI,dLA,dDLU,dDLO,dDLE,dDLEE,dDLI,dDLA,dLHU,dLHO
dLHE,dLHEE,dLHI,dLHA,dTLHU,dTLHO,dTLHE,dTLHEE,dTLHI,dTLHA,dTLU,dTLO,dTLE,dTLEE,dTLI,dTLA,dZU,dZO,dZE
dZEE,dZI,dZA,dZ,dINITIALb,dDZU,dDZO,dDZE,dDZEE,dDZI,dDZA,dSU,dSO,dSE,dSEE,dSI,dSA,dSHU,dSHO,dSHE
dSHEE,dSHI,dSHA,dSH,dTSU,dTSO,dTSE,dTSEE,dTSI,dTSA,dCHU,dCHO,dCHE,dCHEE,dCHI,dCHA,dTTSU,dTTSO,dTTSE
dTTSEE,dTTSI,dTTSA,cCHI SIGN,cFULL STOP,cQAI,cNGAI,cNNGI,cNNGII,cNNGO,cNNGOO,cNNGA,cNNGAA
cWOODS-CREE THWEE,dTHWI,dTHWII,dTHWO,dTHWOO,dTHWA,dTHWAA,dFINAL TH,cBLACKFOOT W,aOGHAM SPACE MARK
bLETTER BEITH,cLUIS,cFEARN,cSAIL,cNION,cUATH,cDAIR,cTINNE,cCOLL,cCEIRT,cMUIN,cGORT,cNGEADAL,cSTRAIF
cRUIS,cAILM,cONN,cUR,cEADHADH,cIODHADH,cEABHADH,cOR,cUILLEANN,cIFIN,cEAMHANCHOLL,cPEITH
bFEATHER MARK,bREVERSEDc,3,aRUNIC LETTER FEHU FEOH FE F,cV,cURUZ UR U,cYR,cY,cW
cTHURISAZ THURS THORN,cETH,cANSUZ A,cOS O,cAC A,cAESC,cLONG-BRANCH-OSS O,cSHORT-TWIG-OSSb,cb,cOE,cON
cRAIDO RAD REID R,cKAUNA,cCEN,cKAUN K,cG,cENG,cGEBO GYFU G,cGAR,cWUNJO WYNN W,cHAGLAZ H,cHAEGLb
cLONG-BRANCH-HAGALLb,cSHORT-TWIG-HAGALLb,cNAUDIZ NYD NAUD N,cSHORT-TWIG-NAUDb,cDOTTED-N
cISAZ IS ISS I,cE,cJERAN J,cGER,cLONG-BRANCH-AR AE,cSHORT-TWIG-AR A,cIWAZ EOH,cPERTHO PEORTH P
cALGIZ EOLHX,cSOWILO S,cSIGEL LONG-BRANCH-SOLb,cSHORT-TWIG-SOLb,cC,cZ,cTIWAZ TIR TYR T
cSHORT-TWIG-TYRb,cD,cBERKANAN BEORC BJARKAN B,cSHORT-TWIG-BJARKANb,cDOTTED-P,cOPEN-P,cEHWAZ EH E
cMANNAZ MAN M,cLONG-BRANCH-MADRb,cSHORT-TWIG-MADRb,cLAUKAZ LAGU LOGR L,cDOTTED-L,cINGWAZ,cING
cDAGAZ DAEG D,cOTHALAN ETHEL O,cEAR,cIOR,cCWEORTH,cCALC,cCEALC,cSTAN,cLONG-BRANCH-YR,cSHORT-TWIG-YR
cICELANDIC-YR,cQ,cX,bSINGLE PUNCTUATION,bMULTIPLEb,bCROSSb,bARLAUG SYMBOL,bTVIMADURb,bBELGTHORb
bLETTER K,cSH,cOO,cFRANKS CASKET OS,eIS,eEH,eAC,eAESC,7,aTAGALOG LETTER A,cI,cU,cKA,cGA,cNGA,cTA,cDA
cNA,cPA,cBA,cMA,cYA,cRA,cLA,cWA,cSA,cHA,bVOWEL SIGN I,dU,bSIGN VIRAMA,cPAMUDPOD,9,bLETTER ARCHAIC RA
aHANUNOO LETTER A,cI,cU,cKA,cGA,cNGA,cTA,cDA,cNA,cPA,cBA,cMA,cYA,cRA,cLA,cWA,cSA,cHA,bVOWEL SIGN I
dU,bSIGN PAMUDPOD,aPHILIPPINE SINGLE PUNCTUATION,bDOUBLEb,9,aBUHID LETTER A,cI,cU,cKA,cGA,cNGA,cTA
cDA,cNA,cPA,cBA,cMA,cYA,cRA,cLA,cWA,cSA,cHA,bVOWEL SIGN I,dU,12,aTAGBANWA LETTER A,cI,cU,cKA,cGA
cNGA,cTA,cDA,cNA,cPA,cBA,cMA,cYA,1,cLA,cWA,cSA,1,bVOWEL SIGN I,dU,12,aKHMER LETTER KA,cKHA,cKO,cKHO
cNGO,cCA,cCHA,cCO,cCHO,cNYO,cDA,cTTHA,cDO,cTTHO,cNNO,cTA,cTHA,cTO,cTHO,cNO,cBA,cPHA,cPO,cPHO,cMO,cYO
cRO,cLO,cVO,cSHA,cSSO,cSA,cHA,cLA,cQA,bINDEPENDENT VOWEL QAQ,dQAA,dQI,dQII,dQU,dQUK,dQUU,dQUUV,dRY
dRYY,dLY,dLYY,dQE,dQAI,dQOO TYPE ONE,fTWO,dQAU,bVOWEL INHERENT AQ,dAA,cSIGNb,dI,dII,dY,dYY,dU,dUU
dUA,dOE,dYA,dIE,dE,dAE,dAI,dOO,dAU,bSIGN NIKAHIT,cREAHMUK,cYUUKALEAPINTU,cMUUSIKATOAN,cTRIISAP
cBANTOC,cROBAT,cTOANDAKHIAT,cKAKABAT,cAHSDA,cSAMYOK SANNYA,cVIRIAM,cCOENG,cBATHAMASAT,cKHAN
cBARIYOOSAN,cCAMNUC PII KUUH,cLEK TOO,cBEYYAL,cPHNAEK MUAN,cKOOMUUT,bCURRENCY SYMBOL RIEL
bSIGN AVAKRAHASANYA,cATTHACAN,2,bDIGIT ZERO,cONE,cTWO,cTHREE,cFOUR,cFIVE,cSIX,cSEVEN,cEIGHT,cNINE,6
bSYMBOL LEK ATTAK SON,eMUOY,ePII,eBEI,eBUON,ePRAM,ePRAM-MUOY,ePRAM-PII,ePRAM-BEI,ePRAM-BUON,6
aMONGOLIAN BIRGA,bELLIPSIS,bCOMMA,bFULL STOP,bCOLON,bFOUR DOTS,bTODO SOFT HYPHEN
bSIBE SYLLABLE BOUNDARY MARKER,bMANCHU COMMA,cFULL STOP,bNIRUGU,bFREE VARIATION SELECTOR ONE|aFVS1
aMONGOLIAN FREE VARIATION SELECTOR TWO|aFVS2,aMONGOLIAN FREE VARIATION SELECTOR THREE|aFVS3
aMONGOLIAN VOWEL SEPARATOR|aMVS,aMONGOLIAN FREE VARIATION SELECTOR FOUR|aFVS4,aMONGOLIAN DIGIT ZERO
cONE,cTWO,cTHREE,cFOUR,cFIVE,cSIX,cSEVEN,cEIGHT,cNINE,6,bLETTER A,cE,cI,cO,cU,cOE,cUE,cEE,cNA,cANG
cBA,cPA,cQA,cGA,cMA,cLA,cSA,cSHA,cTA,cDA,cCHA,cJA,cYA,cRA,cWA,cFA,cKA,cKHA,cTSA,cZA,cHAA,cZRA,cLHA
cZHI,cCHI,cTODO LONG VOWEL SIGN,dE,dI,dO,dU,dOE,dUE,dANG,dBA,dPA,dQA,dGA,dMA,dTA,dDA,dCHA,dJA,dTSA
dYA,dWA,dKA,dGAA,dHAA,dJIA,dNIA,dDZA,cSIBE E,dI,dIY,dUE,dU,dANG,dKA,dGA,dHA,dPA,dSHA,dTA,dDA,dJA,dFA
dGAA,dHAA,dTSA,dZA,dRAA,dCHA,dZHA,cMANCHU I,dKA,dRA,dFA,dZHA,cCHA WITH TWO DOTS,7
cALI GALI ANUSVARA ONE,eVISARGAb,eDAMARU,eUBADAMA,eINVERTEDb,eBALUDA,eTHREEb,eA,eI,eKA,eNGA,eCA,eTTA
eTTHA,eDDA,eNNA,eTA,eDA,ePA,ePHA,eSSA,eZHA,eZA,eAH,cTODO ALI GALI TA,fZHA,cMANCHU ALI GALI GHA,fNGA
fCA,fJHA,fTTA,fDDHA,fTA,fDHA,fSSA,fCYA,fZHA,fZA,cALI GALI HALF U,fYA,cMANCHU ALI GALI BHA
cALI GALI DAGALGA,cMANCHU ALI GALI LHA,5,aCANADIAN SYLLABICS OY,cAY,cAAY,cWAY,cPOY,cPAY,cPWOY,cTAY
cKAY,cKWAY,cMAY,cNOY,cNAY,cLAY,cSOY,cSAY,cSHOY,cSHAY,cSHWOY,cYOY,cYAY,cRAY,cNWI,cOJIBWAYb,cNWII
cOJIBWAYb,cNWO,cOJIBWAYb,cNWOO,cOJIBWAYb,cRWEE,cRWI,cRWII,cRWO,cRWOO,cRWA,cOJIBWAY P,dT,dK,dC,dM,dN
dS,dSH,cEASTERN W,cWESTERNb,cFINAL SMALL RING,dRAISED DOT,cR-CREE RWE,cWEST-CREE LOO,dLAA,cTHWE
cTHWA,cTTHWE,cTTHOO,cTTHAA,cTLHWE,cTLHOO,cSAYISI SHWE,dSHOO,dHOO,cCARRIER GWU,dDENE GEE,dGAA,dGWA
cSAYISI JUU,cCARRIER JWA,cBEAVER DENE L,eR,cCARRIER DENTAL S,10,aLIMBU VOWEL-CARRIER LETTER
bLETTER KA,cKHA,cGA,cGHA,cNGA,cCA,cCHA,cJA,cJHA,cYAN,cTA,cTHA,cDA,cDHA,cNA,cPA,cPHA,cBA,cBHA,cMA,cYA
cRA,cLA,cWA,cSHA,cSSA,cSA,cHA,cGYAN,cTRA,1,bVOWEL SIGN A,dI,dU,dEE,dAI,dOO,dAU,dE,dO
bSUBJOINED LETTER YA,dRA,dWA,4,bSMALL LETTER KA,dNGA,dANUSVARA,dTA,dNA,dPA,dMA,dRA,dLA
bSIGN MUKPHRENG,cKEMPHRENG,cSA-I,4,cLOO,3,bEXCLAMATION MARK,bQUESTIONb,bDIGIT ZERO,cONE,cTWO,cTHREE
cFOUR,cFIVE,cSIX,cSEVEN,cEIGHT,cNINE,aTAI LE LETTER KA,dXA,dNGA,dTSA,dSA,dYA,dTA,dTHA,dLA,dPA,dPHA
dMA,dFA,dVA,dHA,dQA,dKHA,dTSHA,dNA,dA,dI,dEE,dEH,dU,dOO,dO,dUE,dE,dAUE,dAI,2,dTONE-2,dTONE-3,dTONE-4
dTONE-5,dTONE-6,11,aNEW TAI LUE LETTER HIGH QA,eLOWb,eHIGH KA,fXA,fNGA,eLOW KA,fXA,fNGA,eHIGH TSA
fSA,fYA,eLOW TSA,fSA,fYA,eHIGH TA,fTHA,fNA,eLOW TA,fTHA,fNA,eHIGH PA,fPHA,fMA,eLOW PA,fPHA,fMA
eHIGH FA,fVA,fLA,eLOW FA,fVA,fLA,eHIGH HA,fDA,fBA,eLOW HA,fDA,fBA,eHIGH KVA,fXVA,eLOW KVA,fXVA
eHIGH SUA,eLOWb,4,dVOWEL SIGN VOWEL SHORTENER,fAA,fII,fU,fUU,fE,fAE,fO,fOA,fUE,fAY,fAAY,fUY,fOY,fOAY
fUEY,fIY,dLETTER FINAL V,fNG,fN,fM,fK,fD,fB,dTONE MARK-1,eMARK-2,6,dDIGIT ZERO,eONE,eTWO,eTHREE
eFOUR,eFIVE,eSIX,eSEVEN,eEIGHT,eNINE,dTHAM DIGIT ONE,3,dSIGN LAE,eLAEV,aKHMER SYMBOL PATHAMASAT
cMUOY KOET,cPIIb,cBEIb,cBUONb,cPRAMb,cPRAM-MUOYb,cPRAM-PIIb,cPRAM-BEIb,cPRAM-BUONb,cDAPb,cDAP-MUOYb
cDAP-PIIb,cDAP-BEIb,cDAP-BUONb,cDAP-PRAMb,cTUTEYASAT,cMUOY ROC,cPIIb,cBEIb,cBUONb,cPRAMb,cPRAM-MUOYb
cPRAM-PIIb,cPRAM-BEIb,cPRAM-BUONb,cDAPb,cDAP-MUOYb,cDAP-PIIb,cDAP-BEIb,cDAP-BUONb,cDAP-PRAMb
aBUGINESE LETTER KA,cGA,cNGA,cNGKA,cPA,cBA,cMA,cMPA,cTA,cDA,cNA,cNRA,cCA,cJA,cNYA,cNYCA,cYA,cRA,cLA
cVA,cSA,cA,cHA,bVOWEL SIGN I,dU,dE,dO,dAE,2,bPALLAWA,bEND OF SECTION,aTAI THAM LETTER HIGH KA,eKHA
eKXA,dLOW KA,eKXA,eKHA,dNGA,dHIGH CA,eCHA,dLOW CA,eSA,eCHA,dNYA,dRATA,dHIGH RATHA,dDA,dLOW RATHA
dRANA,dHIGH TA,eTHA,dLOW TA,eTHA,dNA,dBA,dHIGH PA,ePHA,eFA,dLOW PA,eFA,ePHA,dMA,dLOW YA,dHIGHb,dRA
dRUE,dLA,dLUE,dWA,dHIGH SHA,eSSA,eSA,eHA,dLLA,dA,dLOW HA,dI,dII,dU,dUU,dEE,dOO,dLAE,dGREAT SA
cCONSONANT SIGN MEDIAL RA,fLA,eLA TANG LAI,cSIGN MAI KANGb,cCONSONANT SIGN FINAL NGA,eLOW PA
eHIGH RATHA ORc,eMA,eBA,eSA,1,cSIGN SAKOT,cVOWEL SIGN A,eMAI SAT,eAA,eTALLb,eI,eII,eUE,eUUE,eU,eUU
eO,eOA BELOW,eOY,eE,eAE,eOO,eAI,eTHAMb,eOA ABOVE,cSIGN MAI KANG,dTONE-1,dTONE-2,dKHUEN TONE-3
eTONE-4,eTONE-5,dRA HAAM,dMAI SAM,dKHUEN-LUE KARAN,2,cCOMBINING CRYPTOGRAMMIC DOT,cHORA DIGIT ZERO
eONE,eTWO,eTHREE,eFOUR,eFIVE,eSIX,eSEVEN,eEIGHT,eNINE,6,cTHAM DIGIT ZERO,eONE,eTWO,eTHREE,eFOUR
eFIVE,eSIX,eSEVEN,eEIGHT,eNINE,6,cSIGN WIANG,dWIANGWAAK,dSAWAN,dKEOW,dHOY,dDOKMAI
dREVERSED ROTATED RANA,dMAI YAMOK,dKAAN,dKAANKUU,dSATKAAN,dSATKAANKUU,dHANG,dCAANG,2
aCOMBINING DOUBLED CIRCUMFLEX ACCENT,bDIAERESIS-RING,bINFINITY,bDOWNWARDS ARROW,bTRIPLE DOT
bX-X BELOW,bWIGGLY LINEb,bOPEN MARKb,bDOUBLEd,bLIGHT CENTRALIZATION STROKEb,bSTRONGd
bPARENTHESES ABOVE,bDOUBLEc,bPARENTHESES BELOW,cOVERLAY,bLATIN SMALL LETTER W BELOW,eTURNEDc
bLEFT PARENTHESIS ABOVE LEFT,bRIGHT PARENTHESIS ABOVE RIGHT,bLEFT PARENTHESIS BELOW LEFT
bRIGHT PARENTHESIS BELOW RIGHT,bSQUARE BRACKETS ABOVE,bNUMBER SIGNb,bINVERTED DOUBLE ARCHb
bPLUS SIGNb,bDOUBLEd,eBELOW,bTRIPLE ACUTE ACCENT,bLATIN SMALL LETTER INSULAR G,fR,fT,49
aBALINESE SIGN ULU RICEM,dCANDRA,cCECEK,cSURANG,cBISAH,bLETTER AKARA,dTEDUNG,cIKARA,dTEDUNG,cUKARA
dTEDUNG,cRA REPA,eTEDUNG,cLA LENGA,eTEDUNG,cEKARA,cAIKARA,cOKARA,dTEDUNG,cKA,dMAHAPRANA,cGA,dGORA
cNGA,cCA,dLACA,cJA,dJERA,cNYA,cTA LATIK,dMURDA MAHAPRANA,cDA MURDA ALPAPRANA,eMAHAPRANA,cNA RAMBAT
cTA,dTAWA,cDA,dMADU,cNA,cPA,dKAPAL,cBA,dKEMBANG,cMA,cYA,cRA,cLA,cWA,cSA SAGA,dSAPA,d,cHA
bSIGN REREKAN,bVOWEL SIGN TEDUNG,dULU,eSARI,dSUKU,eILUT,dRA REPA,fTEDUNG,dLA LENGA,fTEDUNG,dTALING
eREPA,eTEDUNG,eREPAb,dPEPET,eTEDUNG,bADEG ADEG,bLETTER KAF SASAK,cKHOTb,cTZIRb,cEFb,cVEb,cZALb
cASYURAb,cARCHAIC JNYA,3,bDIGIT ZERO,cONE,cTWO,cTHREE,cFOUR,cFIVE,cSIX,cSEVEN,cEIGHT,cNINE,bPANTI
bPAMADA,bWINDU,bCARIK PAMUNGKAH,cSIKI,cPAREREN,bPAMENENG,bMUSICAL SYMBOL DONG,dDENG,dDUNG,dDANG
eSURANG,dDING,dDAENG,dDEUNG,dDAING,dDANG GEDE,dCOMBINING TEGEH,eENDEP,eKEMPUL,eKEMPLI,eJEGOGAN
eKEMPUL WITHb,eKEMPLIc,eBENDE,eGONG,dRIGHT-HAND OPEN DUG,fDAG,eCLOSED TUK,fTAK,dLEFT-HAND OPEN PANG
fPUNG,eCLOSED PLAK,fPLUK,eOPEN PING,bPANTI LANTANG,bPAMADAb,1,aSUNDANESE SIGN PANYECEK,cPANGLAYAR
cPANGWISAD,bLETTER A,cI,cU,cAE,cO,cE,cEU,cKA,cQA,cGA,cNGA,cCA,cJA,cZA,cNYA,cTA,cDA,cNA,cPA,cFA,cVA
cBA,cMA,cYA,cRA,cLA,cWA,cSA,cXA,cHA,bCONSONANT SIGN PAMINGKAL,dPANYAKRA,dPANYIKU
bVOWEL SIGN PANGHULU,dPANYUKU,dPANAELAENG,dPANOLONG,dPAMEPET,dPANEULEUNG,bSIGN PAMAAEH,cVIRAMA
bCONSONANT SIGN PASANGAN MA,eWA,bLETTER KHA,cSYA,bDIGIT ZERO,cONE,cTWO,cTHREE,cFOUR,cFIVE,cSIX
cSEVEN,cEIGHT,cNINE,bAVAGRAHA,bLETTER REU,cLEU,cBHA,cFINAL K,dM,aBATAK LETTER A,cSIMALUNGUNb,cHA
cSIMALUNGUNb,cMANDAILINGb,cBA,cKAROb,cPA,cSIMALUNGUNb,cNA,cMANDAILINGb,cWA,cSIMALUNGUNb,cPAKPAKb,cGA
cSIMALUNGUNb,cJA,cDA,cRA,cSIMALUNGUNb,cMA,cSIMALUNGUNb,cSOUTHERN TA,cNORTHERNb,cSA,cSIMALUNGUNb
cMANDAILINGb,cYA,cSIMALUNGUNb,cNGA,cLA,cSIMALUNGUNb,cNYA,cCA,cNDA,cMBA,cI,cU,bSIGN TOMPI
bVOWEL SIGN E,dPAKPAKb,dEE,dI,dKAROb,dO,dKAROb,dU,eFOR SIMALUNGUN SA,bCONSONANT SIGN NG,dH,bPANGOLAT
bPANONGONAN,8,bSYMBOL BINDU NA METEK,dPINARBORAS,dJUDUL,dPANGOLAT,aLEPCHA LETTER KA,cKLA,cKHA,cGA
cGLA,cNGA,cCA,cCHA,cJA,cNYA,cTA,cTHA,cDA,cNA,cPA,cPLA,cPHA,cFA,cFLA,cBA,cBLA,cMA,cMLA,cTSA,cTSHA
cDZA,cYA,cRA,cLA,cHA,cHLA,cVA,cSA,cSHA,cWA,cA,bSUBJOINED LETTER YA,dRA,bVOWEL SIGN AA,dI,dO,dOO,dU
dUU,dE,bCONSONANT SIGN K,dM,dL,dN,dP,dR,dT,dNYIN-DO,dKANG,bSIGN RAN,cNUKTA,3,bPUNCTUATION TA-ROL
cNYET THYOOMb,cCER-WA,cTSHOOKb,d,bDIGIT ZERO,cONE,cTWO,cTHREE,cFOUR,cFIVE,cSIX,cSEVEN,cEIGHT,cNINE,3
bLETTER TTA,cTTHA,cDDA,aOL CHIKI DIGIT ZERO,dONE,dTWO,dTHREE,dFOUR,dFIVE,dSIX,dSEVEN,dEIGHT,dNINE
cLETTER LA,dAT,dAG,dANG,dAL,dLAA,dAAK,dAAJ,dAAM,dAAW,dLI,dIS,dIH,dINY,dIR,dLU,dUC,dUD,dUNN,dUY,dLE
dEP,dEDD,dEN,dERR,dLO,dOTT,dOB,dOV,dOH,cMU TTUDDAG,cGAAHLAA TTUDDAAG,cMU-GAAHLAAb,cRELAA,cPHAARKAA
cAHAD,cPUNCTUATION MUCAAD,dDOUBLEb,aCYRILLIC SMALL LETTER ROUNDED VE,dLONG-LEGGED DE,dNARROW O
dWIDE ES,dTALL TE,dTHREE-LEGGEDb,dTALL HARD SIGN,eYAT,dUNBLENDED UK,7
aGEORGIAN MTAVRULI CAPITAL LETTER AN,eBAN,eGAN,eDON,eEN,eVIN,eZEN,eTAN,eIN,eKAN,eLAS,eMAN,eNAR,eON
ePAR,eZHAR,eRAE,eSAN,eTAR,eUN,ePHAR,eKHAR,eGHAN,eQAR,eSHIN,eCHIN,eCAN,eJIL,eCIL,eCHAR,eXAN,eJHAN
eHAE,eHE,eHIE,eWE,eHAR,eHOE,eFI,eYN,eELIFI,eTURNED GAN,eAIN,2,eAEN,eHARD SIGN,eLABIALb
aSUNDANESE PUNCTUATION BINDU SURYA,dPANGLONG,dPURNAMA,dCAKRA,dLEU SATANGA,dKAb,dDAb,dBAb,8
aVEDIC TONE KARSHANA,cSHARA,cPRENKHA,bSIGN NIHSHVASA,cYAJURVEDIC MIDLINE SVARITA
bTONE YAJURVEDIC AGGRAVATED INDEPENDENTb,dc,dKATHAKAc,cCANDRA BELOW
cYAJURVEDIC KATHAKA INDEPENDENT SVARITA SCHROEDER,cDOUBLE SVARITA,cTRIPLEb,cKATHAKA ANUDATTA
cDOT BELOW,cTWO DOTSb,cTHREEc,cRIGVEDIC KASHMIRI INDEPENDENT SVARITA,cATHARVAVEDICc,bSIGN VISARGAb
dUDATTA,cREVERSEDc,cVISARGA ANUDATTA,cREVERSEDc,cVISARGA UDATTA WITH TAIL,dANUDATTAc
cANUSVARA ANTARGOMUKHA,dBAHIRGOMUKHA,dVAMAGOMUKHA,eWITH TAIL,cTIRYAK,cHEXIFORM LONG ANUSVARA,cc
cRTHANGc,cANUSVARA UBHAYATO MUKHA,cARDHAVISARGA,cROTATEDb,bTONE CANDRA ABOVE,bSIGN JIHVAMULIYA
cUPADHMANIYA,cATIKRAMA,bTONE RING ABOVE,cDOUBLEc,bSIGN DOUBLE ANUSVARA ANTARGOMUKHA,5
aLATIN LETTER SMALL CAPITAL A,eAE,bSMALL LETTER TURNEDb,bLETTER SMALL CAPITAL BARRED B,eC,eD,eETH,eE
bSMALL LETTER TURNED OPENb,eI,bLETTER SMALL CAPITAL J,eK,eL WITH STROKE,eM,eREVERSED N,eO,eOPENb
bSMALL LETTER SIDEWAYSb,eOPENb,eO WITH STROKE,dTURNED OE,bLETTER SMALL CAPITAL OU
bSMALL LETTER TOP HALF O,dBOTTOMc,bLETTER SMALL CAPITAL P,eREVERSED R,eTURNEDb,eT,eU
bSMALL LETTER SIDEWAYSb,eDIAERESIZEDb,eTURNED M,bLETTER SMALL CAPITAL V,eW,eZ,eEZH
cVOICED LARYNGEAL SPIRANT,cAIN,aGREEK LETTER SMALL CAPITAL GAMMA,eLAMDA,ePI,eRHO,ePSI
aCYRILLIC LETTER SMALL CAPITAL EL,aMODIFIER LETTER CAPITAL A,dAE,dB,dBARREDb,dD,dE,dREVERSEDb,dG,dH
dI,dJ,dK,dL,dM,dN,dREVERSEDb,dO,dOU,dP,dR,dT,dU,dW,cSMALL A,dTURNEDb,dALPHA,dTURNED AE,dB,dD,dE
dSCHWA,dOPEN E,dTURNEDc,dG,dTURNED I,dK,dM,dENG,dO,dOPENb,dTOP HALFb,dBOTTOMc,dP,dT,dU,dSIDEWAYSb
dTURNED M,dV,dAIN,dBETA,dGREEK GAMMA,dDELTA,dGREEK PHI,dCHI,aLATIN SUBSCRIPT SMALL LETTER I,eR,eU,eV
aGREEK SUBSCRIPT SMALL LETTER BETA,eGAMMA,eRHO,ePHI,eCHI,aLATIN SMALL LETTER UE,dB WITH MIDDLE TILDE
dDd,dFd,dMd,dNd,dPd,dRd,fFISHHOOK ANDc,dS WITHc,dTd,dZd,dTURNED G,aMODIFIER LETTER CYRILLIC EN
aLATIN SMALL LETTER INSULAR G,dTH WITH STRIKETHROUGH,cCAPITAL LETTER I WITH STROKE,cLETTER IOTAc,dPc
cCAPITAL LETTER Uc,cLETTER UPSILONc,dB WITH PALATAL HOOK,dDd,dFd,dGd,dKd,dLd,dMd,dNd,dPd,dRd,dSd
dESHd,dVd,dXd,dZd,dA WITH RETROFLEXb,dALPHAd,dD WITH HOOK AND TAIL,dE WITH RETROFLEX HOOK,dOPENe
dREVERSEDf,dSCHWAd,dId,dOPEN Od,dESHd,dUd,dEZHd,aMODIFIER LETTER SMALL TURNED ALPHA,dC,eWITH CURL
dETH,dREVERSED OPEN E,dF,dDOTLESS J WITH STROKE,dSCRIPT G,dTURNED H,dI WITH STROKE,dIOTA,dCAPITAL I
fWITH STROKE,dJ WITH CROSSED-TAIL,dL WITH RETROFLEX HOOK,fPALATALb,dCAPITAL L,dM WITH HOOK
dTURNED M WITH LONG LEG,dN WITH LEFT HOOK,fRETROFLEXb,dCAPITAL N,dBARRED O,dPHI,dS WITH HOOK,dESH
dT WITH PALATAL HOOK,dU BAR,dUPSILON,dCAPITAL U,dV WITH HOOK,dTURNED V,dZ,eWITH RETROFLEX HOOK,fCURL
dEZH,dTHETA,aCOMBINING DOTTED GRAVE ACCENT,cACUTEb,bSNAKE BELOW,bSUSPENSION MARK,bMACRON-ACUTE
bGRAVE-MACRON,bMACRON-GRAVE,bACUTE-MACRON,bGRAVE-ACUTE-GRAVE,bACUTE-GRAVE-ACUTE
bLATIN SMALL LETTER R BELOW,bBREVE-MACRON,bMACRON-BREVE,bDOUBLE CIRCUMFLEX ABOVE,bOGONEKb
bZIGZAG BELOW,bISb,bUR ABOVE,bUSb,bLATIN SMALL LETTER FLATTENED OPEN Ab,eAE,eAO,eAV,eC CEDILLA
eINSULAR D,eETH,eG,cLETTER SMALL CAPITALb,cSMALL LETTER K,eL,cLETTER SMALL CAPITALb,fM
cSMALL LETTER N,cLETTER SMALL CAPITALb,fR,cSMALL LETTER R ROTUNDA,eS,eLONGb,eZ,eALPHA,eB,eBETA
eSCHWA,eF,eL WITH DOUBLE MIDDLE TILDE,eO WITH LIGHT CENTRALIZATION STROKE,eP,eESH
eU WITH LIGHT CENTRALIZATION STROKE,eW,eA WITH DIAERESIS,eOc,eUc,bUP TACK ABOVE,bKAVYKA ABOVE RIGHT
dLEFT,bDOTc,bWIDE INVERTED BRIDGE BELOW,bDOT BELOW LEFT,bDELETION MARK,bDOUBLE INVERTED BREVE BELOW
bALMOST EQUAL TOb,bLEFT ARROWHEAD ABOVE,bRIGHT ARROWHEAD AND DOWN ARROWHEAD BELOW
aLATIN CAPITAL LETTER A WITH RINGb,bSMALLf,bCAPITAL LETTER B WITH DOT ABOVE,bSMALLf
bCAPITAL LETTER B WITH DOT BELOW,bSMALLf,bCAPITAL LETTER B WITH LINEb,bSMALLf
bCAPITAL LETTER C WITH CEDILLA AND ACUTE,bSMALLg,bCAPITAL LETTER D WITH DOT ABOVE,bSMALLf
bCAPITAL LETTER D WITH DOT BELOW,bSMALLf,bCAPITAL LETTER D WITH LINEb,bSMALLf
bCAPITAL LETTER D WITH CEDILLA,bSMALLe,bCAPITAL LETTER D WITH CIRCUMFLEX BELOW,bSMALLf
bCAPITAL LETTER E WITH MACRON AND GRAVE,bSMALLg,bCAPITAL LETTER E WITH MACRON AND ACUTE,bSMALLg
bCAPITAL LETTER E WITH CIRCUMFLEX BELOW,bSMALLf,bCAPITAL LETTER E WITH TILDEb,bSMALLf
bCAPITAL LETTER E WITH CEDILLA AND BREVE,bSMALLg,bCAPITAL LETTER F WITH DOT ABOVE,bSMALLf
bCAPITAL LETTER G WITH MACRON,bSMALLe,bCAPITAL LETTER H WITH DOT ABOVE,bSMALLf
bCAPITAL LETTER H WITH DOT BELOW,bSMALLf,bCAPITAL LETTER H WITH DIAERESIS,bSMALLe
bCAPITAL LETTER H WITH CEDILLA,bSMALLe,bCAPITAL LETTER H WITH BREVE BELOW,bSMALLf
bCAPITAL LETTER I WITH TILDEb,bSMALLf,bCAPITAL LETTER I WITH DIAERESIS AND ACUTE,bSMALLg
bCAPITAL LETTER K WITHb,bSMALLe,bCAPITAL LETTER K WITH DOT BELOW,bSMALLf
bCAPITAL LETTER K WITH LINEb,bSMALLf,bCAPITAL LETTER L WITH DOTb,bSMALLf
bCAPITAL LETTER L WITH DOT BELOW AND MACRON,bSMALLh,bCAPITAL LETTER L WITH LINE BELOW,bSMALLf
bCAPITAL LETTER L WITH CIRCUMFLEXb,bSMALLf,bCAPITAL LETTER M WITH ACUTE,bSMALLe
bCAPITAL LETTER M WITH DOT ABOVE,bSMALLf,bCAPITAL LETTER M WITH DOT BELOW,bSMALLf
bCAPITAL LETTER N WITH DOT ABOVE,bSMALLf,bCAPITAL LETTER N WITH DOT BELOW,bSMALLf
bCAPITAL LETTER N WITH LINEb,bSMALLf,bCAPITAL LETTER N WITH CIRCUMFLEXb,bSMALLf
bCAPITAL LETTER O WITH TILDE AND ACUTE,bSMALLg,bCAPITAL LETTER O WITH TILDE AND DIAERESIS,bSMALLg
bCAPITAL LETTER O WITH MACRON AND GRAVE,bSMALLg,bCAPITAL LETTER O WITH MACRON AND ACUTE,bSMALLg
bCAPITAL LETTER P WITHb,bSMALLe,bCAPITAL LETTER P WITH DOT ABOVE,bSMALLf,bCAPITAL LETTER Rd,bSMALLf
bCAPITAL LETTER R WITH DOT BELOW,bSMALLf,bCAPITAL LETTER R WITH DOT BELOW AND MACRON,bSMALLh
bCAPITAL LETTER R WITH LINE BELOW,bSMALLf,bCAPITAL LETTER S WITH DOT ABOVE,bSMALLf
bCAPITAL LETTER S WITH DOT BELOW,bSMALLf,bCAPITAL LETTER S WITH ACUTE AND DOT ABOVE,bSMALLh
bCAPITAL LETTER S WITH CARONd,bSMALLh,bCAPITAL LETTER S WITH DOT BELOWd,bSMALLi
bCAPITAL LETTER T WITHc,bSMALLf,bCAPITAL LETTER T WITH DOT BELOW,bSMALLf
bCAPITAL LETTER T WITH LINEb,bSMALLf,bCAPITAL LETTER T WITH CIRCUMFLEXb,bSMALLf
bCAPITAL LETTER U WITH DIAERESISb,bSMALLf,bCAPITAL LETTER U WITH TILDEb,bSMALLf
bCAPITAL LETTER U WITH CIRCUMFLEXb,bSMALLf,bCAPITAL LETTER U WITH TILDE AND ACUTE,bSMALLg
bCAPITAL LETTER U WITH MACRON AND DIAERESIS,bSMALLg,bCAPITAL LETTER V WITH TILDE,bSMALLe
bCAPITAL LETTER V WITH DOT BELOW,bSMALLf,bCAPITAL LETTER W WITH GRAVE,bSMALLe
bCAPITAL LETTER W WITH ACUTE,bSMALLe,bCAPITAL LETTER W WITH DIAERESIS,bSMALLe
bCAPITAL LETTER W WITH DOT ABOVE,bSMALLf,bCAPITAL LETTER W WITH DOT BELOW,bSMALLf
bCAPITAL LETTER X WITH DOT ABOVE,bSMALLf,bCAPITAL LETTER X WITH DIAERESIS,bSMALLe
bCAPITAL LETTER Y WITH DOT ABOVE,bSMALLf,bCAPITAL LETTER Z WITH CIRCUMFLEX,bSMALLe
bCAPITAL LETTER Z WITH DOT BELOW,bSMALLf,bCAPITAL LETTER Z WITH LINEb,bSMALLf,dHd,dT WITH DIAERESIS
dW WITH RING ABOVE,dYd,dA WITH RIGHT HALF RING,dLONG S WITH DOT ABOVE,gDIAGONAL STROKE,gHIGHb
bCAPITAL LETTER SHARP S,bSMALL LETTER DELTA,bCAPITAL LETTER A WITH DOT BELOW,bSMALLf
bCAPITAL LETTER A WITH HOOK ABOVE,bSMALLf,bCAPITAL LETTER A WITH CIRCUMFLEX AND ACUTE,bSMALLg
bCAPITAL LETTER A WITH CIRCUMFLEX AND GRAVE,bSMALLg,bCAPITAL LETTER A WITH CIRCUMFLEX AND HOOK ABOVE
bSMALLh,bCAPITAL LETTER A WITH CIRCUMFLEX AND TILDE,bSMALLg
bCAPITAL LETTER A WITH CIRCUMFLEX AND DOT BELOW,bSMALLh,bCAPITAL LETTER A WITH BREVE AND ACUTE
bSMALLg,bCAPITAL LETTER A WITH BREVE AND GRAVE,bSMALLg,bCAPITAL LETTER A WITH BREVE AND HOOK ABOVE
bSMALLh,bCAPITAL LETTER A WITH BREVE AND TILDE,bSMALLg,bCAPITAL LETTER A WITH BREVE AND DOT BELOW
bSMALLh,bCAPITAL LETTER E WITHc,bSMALLf,bCAPITAL LETTER E WITH HOOK ABOVE,bSMALLf
bCAPITAL LETTER E WITH TILDE,bSMALLe,bCAPITAL LETTER E WITH CIRCUMFLEX AND ACUTE,bSMALLg
bCAPITAL LETTER E WITH CIRCUMFLEX AND GRAVE,bSMALLg,bCAPITAL LETTER E WITH CIRCUMFLEX AND HOOK ABOVE
bSMALLh,bCAPITAL LETTER E WITH CIRCUMFLEX AND TILDE,bSMALLg
bCAPITAL LETTER E WITH CIRCUMFLEX AND DOT BELOW,bSMALLh,bCAPITAL LETTER I WITH HOOK ABOVE,bSMALLf
bCAPITAL LETTER I WITH DOT BELOW,bSMALLf,bCAPITAL LETTER Od,bSMALLf
bCAPITAL LETTER O WITH HOOK ABOVE,bSMALLf,bCAPITAL LETTER O WITH CIRCUMFLEX AND ACUTE,bSMALLg
bCAPITAL LETTER O WITH CIRCUMFLEX AND GRAVE,bSMALLg,bCAPITAL LETTER O WITH CIRCUMFLEX AND HOOK ABOVE
bSMALLh,bCAPITAL LETTER O WITH CIRCUMFLEX AND TILDE,bSMALLg
bCAPITAL LETTER O WITH CIRCUMFLEX AND DOT BELOW,bSMALLh,bCAPITAL LETTER O WITH HORN AND ACUTE
bSMALLg,bCAPITAL LETTER O WITH HORN AND GRAVE,bSMALLg,bCAPITAL LETTER O WITH HORN AND HOOK ABOVE
bSMALLh,bCAPITAL LETTER O WITH HORN AND TILDE,bSMALLg,bCAPITAL LETTER O WITH HORN AND DOT BELOW
bSMALLh,bCAPITAL LETTER U WITHc,bSMALLf,bCAPITAL LETTER U WITH HOOK ABOVE,bSMALLf
bCAPITAL LETTER U WITH HORN AND ACUTE,bSMALLg,bCAPITAL LETTER U WITH HORN AND GRAVE,bSMALLg
bCAPITAL LETTER U WITH HORN AND HOOK ABOVE,bSMALLh,bCAPITAL LETTER U WITH HORN AND TILDE,bSMALLg
bCAPITAL LETTER U WITH HORN AND DOT BELOW,bSMALLh,bCAPITAL LETTER Y WITH GRAVE,bSMALLe
bCAPITAL LETTER Y WITH DOT BELOW,bSMALLf,bCAPITAL LETTER Y WITH HOOK ABOVE,bSMALLf
bCAPITAL LETTER Y WITH TILDE,bSMALLe,bCAPITAL LETTER MIDDLE-WELSH LL,bSMALLd
bCAPITAL LETTER MIDDLE-WELSH V,bSMALLd,bCAPITAL LETTER Y WITH LOOP,bSMALLe
aGREEK SMALL LETTER ALPHA WITH PSILI,fDASIA,fPSILI AND VARIA,fDASIAc,fPSILI AND OXIA,fDASIAc
fPSILI AND PERISPOMENI,fDASIAc,bCAPITAL LETTER ALPHA WITH PSILI,fDASIA,fPSILI AND VARIA,fDASIAc
fPSILI AND OXIA,fDASIAc,fPSILI AND PERISPOMENI,fDASIAc,bSMALL LETTER EPSILON WITH PSILI,fDASIA
fPSILI AND VARIA,fDASIAc,fPSILI AND OXIA,fDASIAc,2,bCAPITAL LETTER EPSILON WITH PSILI,fDASIA
fPSILI AND VARIA,fDASIAc,fPSILI AND OXIA,fDASIAc,2,bSMALL LETTER ETA WITH PSILI,fDASIA
fPSILI AND VARIA,fDASIAc,fPSILI AND OXIA,fDASIAc,fPSILI AND PERISPOMENI,fDASIAc
bCAPITAL LETTER ETA WITH PSILI,fDASIA,fPSILI AND VARIA,fDASIAc,fPSILI AND OXIA,fDASIAc
fPSILI AND PERISPOMENI,fDASIAc,bSMALL LETTER IOTA WITH PSILI,fDASIA,fPSILI AND VARIA,fDASIAc
fPSILI AND OXIA,fDASIAc,fPSILI AND PERISPOMENI,fDASIAc,bCAPITAL LETTER IOTA WITH PSILI,fDASIA
fPSILI AND VARIA,fDASIAc,fPSILI AND OXIA,fDASIAc,fPSILI AND PERISPOMENI,fDASIAc
bSMALL LETTER OMICRON WITH PSILI,fDASIA,fPSILI AND VARIA,fDASIAc,fPSILI AND OXIA,fDASIAc,2
bCAPITAL LETTER OMICRON WITH PSILI,fDASIA,fPSILI AND VARIA,fDASIAc,fPSILI AND OXIA,fDASIAc,2
bSMALL LETTER UPSILON WITH PSILI,fDASIA,fPSILI AND VARIA,fDASIAc,fPSILI AND OXIA,fDASIAc
fPSILI AND PERISPOMENI,fDASIAc,1,bCAPITAL LETTER UPSILON WITH DASIA,1,gAND VARIA,1,hOXIA,1
hPERISPOMENI,bSMALL LETTER OMEGA WITH PSILI,fDASIA,fPSILI AND VARIA,fDASIAc,fPSILI AND OXIA,fDASIAc
fPSILI AND PERISPOMENI,fDASIAc,bCAPITAL LETTER OMEGA WITH PSILI,fDASIA,fPSILI AND VARIA,fDASIAc
fPSILI AND OXIA,fDASIAc,fPSILI AND PERISPOMENI,fDASIAc,bSMALL LETTER ALPHA WITH VARIA,fOXIA
dEPSILON WITH VARIA,fOXIA,dETA WITH VARIA,fOXIA,dIOTA WITH VARIA,fOXIA,dOMICRON WITH VARIA,fOXIA
dUPSILON WITH VARIA,fOXIA,dOMEGA WITH VARIA,fOXIA,2,dALPHA WITH PSILI AND YPOGEGRAMMENI,fDASIAc
fPSILI AND VARIAc,fDASIAe,fPSILI AND OXIAc,fDASIAe,fPSILI AND PERISPOMENIc,fDASIAe
bCAPITAL LETTER ALPHA WITH PSILI AND PROSGEGRAMMENI,fDASIAc,fPSILI AND VARIAc,fDASIAe
fPSILI AND OXIAc,fDASIAe,fPSILI AND PERISPOMENIc,fDASIAe
bSMALL LETTER ETA WITH PSILI AND YPOGEGRAMMENI,fDASIAc,fPSILI AND VARIAc,fDASIAe,fPSILI AND OXIAc
fDASIAe,fPSILI AND PERISPOMENIc,fDASIAe,bCAPITAL LETTER ETA WITH PSILI AND PROSGEGRAMMENI,fDASIAc
fPSILI AND VARIAc,fDASIAe,fPSILI AND OXIAc,fDASIAe,fPSILI AND PERISPOMENIc,fDASIAe
bSMALL LETTER OMEGA WITH PSILI AND YPOGEGRAMMENI,fDASIAc,fPSILI AND VARIAc,fDASIAe,fPSILI AND OXIAc
fDASIAe,fPSILI AND PERISPOMENIc,fDASIAe,bCAPITAL LETTER OMEGA WITH PSILI AND PROSGEGRAMMENI,fDASIAc
fPSILI AND VARIAc,fDASIAe,fPSILI AND OXIAc,fDASIAe,fPSILI AND PERISPOMENIc,fDASIAe
bSMALL LETTER ALPHA WITH VRACHY,fMACRON,fVARIA AND YPOGEGRAMMENI,fb,fOXIA ANDb,1,fPERISPOMENI
gAND YPOGEGRAMMENI,bCAPITAL LETTER ALPHA WITH VRACHY,fMACRON,fVARIA,fOXIA,fPROSGEGRAMMENI,bKORONIS
bPROSGEGRAMMENI,bPSILI,bPERISPOMENI,bDIALYTIKA ANDb,bSMALL LETTER ETA WITH VARIA AND YPOGEGRAMMENI
fb,fOXIA ANDb,1,fPERISPOMENI,gAND YPOGEGRAMMENI,bCAPITAL LETTER EPSILON WITH VARIA,fOXIA
dETA WITH VARIA,fOXIA,fPROSGEGRAMMENI,bPSILI AND VARIA,dOXIA,dPERISPOMENI
bSMALL LETTER IOTA WITH VRACHY,fMACRON,fDIALYTIKA AND VARIA,hOXIA,2,fPERISPOMENI,fDIALYTIKA ANDb
bCAPITAL LETTER IOTA WITH VRACHY,fMACRON,fVARIA,fOXIA,1,bDASIA AND VARIA,dOXIA,dPERISPOMENI
bSMALL LETTER UPSILON WITH VRACHY,fMACRON,fDIALYTIKA AND VARIA,hOXIA,dRHO WITH PSILI,fDASIA
dUPSILON WITH PERISPOMENI,fDIALYTIKA ANDb,bCAPITAL LETTER UPSILON WITH VRACHY,fMACRON,fVARIA,fOXIA
dRHO WITH DASIA,bDIALYTIKA AND VARIA,dOXIA,bVARIA,2,bSMALL LETTER OMEGA WITH VARIA AND YPOGEGRAMMENI
fb,fOXIA ANDb,1,fPERISPOMENI,gAND YPOGEGRAMMENI,bCAPITAL LETTER OMICRON WITH VARIA,fOXIA
dOMEGA WITH VARIA,fOXIA,fPROSGEGRAMMENI,bOXIA,bDASIA,1,aEN QUAD,aEMb,aEN SPACE,aEMb,aTHREE-PER-EMb
aFOUR-PER-EMb,aSIX-PER-EMb,aFIGUREb,aPUNCTUATIONb,aTHINb,aHAIRb,aZERO WIDTHb|aZWSP
aZERO WIDTH NON-JOINER|aZWNJ,aZERO WIDTH JOINER|aZWJ,aLEFT-TO-RIGHT MARK|aLRM
aRIGHT-TO-LEFT MARK|aRLM,aHYPHEN,aNON-BREAKINGb,aFIGURE DASH,aENb,aEMb,aHORIZONTAL BAR
aDOUBLE VERTICAL LINE,bLOWb,aLEFT SINGLE QUOTATION MARK,aRIGHTd,aSINGLE LOW-9c,bHIGH-REVERSED-9c
aLEFT DOUBLEc,aRIGHTd,aDOUBLE LOW-9c,bHIGH-REVERSED-9c,aDAGGER,aDOUBLEb,aBULLET,aTRIANGULARb
aONE DOT LEADER,aTWOc,aHORIZONTAL ELLIPSIS,aHYPHENATION POINT,aLINE SEPARATOR,aPARAGRAPHb
aLEFT-TO-RIGHT EMBEDDING|aLRE,aRIGHT-TO-LEFT EMBEDDING|aRLE,aPOP DIRECTIONAL FORMATTING|aPDF
aLEFT-TO-RIGHT OVERRIDE|aLRO,aRIGHT-TO-LEFT OVERRIDE|aRLO,aNARROW NO-BREAK SPACE|aNNBSP
aPER MILLE SIGN,bTEN THOUSANDb,aPRIME,aDOUBLEb,aTRIPLEb,aREVERSEDb,bDOUBLEb,bTRIPLEb,aCARET
aSINGLE LEFT-POINTING ANGLE QUOTATION MARK,bRIGHT-POINTINGd,aREFERENCEb,aDOUBLE EXCLAMATIONb
aINTERROBANG,aOVERLINE,aUNDERTIE,aCHARACTER TIE,aCARET INSERTION POINT,aASTERISM,aHYPHEN BULLET
aFRACTION SLASH,aLEFT SQUARE BRACKET WITH QUILL,aRIGHTe,aDOUBLE QUESTION MARK,aQUESTION EXCLAMATIONb
aEXCLAMATION QUESTIONb,aTIRONIAN SIGN ET,aREVERSED PILCROW SIGN,aBLACK LEFTWARDS BULLET,bRIGHTWARDSb
aLOW ASTERISK,aREVERSED SEMICOLON,aCLOSE UP,aTWO ASTERISKS ALIGNED VERTICALLY,aCOMMERCIAL MINUS SIGN
aSWUNG DASH,aINVERTED UNDERTIE,aFLOWER PUNCTUATION MARK,aTHREE DOT PUNCTUATION,aQUADRUPLE PRIME
aFOUR DOT PUNCTUATION,aFIVEc,aTWOc,aFOUR DOT MARK,aDOTTED CROSS,aTRICOLON,aVERTICAL FOUR DOTS
aMEDIUM MATHEMATICAL SPACE|aMMSP,aWORD JOINER|aWJ,aFUNCTION APPLICATION,aINVISIBLE TIMES,bSEPARATOR
bPLUS,1,aLEFT-TO-RIGHT ISOLATE|aLRI,aRIGHT-TO-LEFT ISOLATE|aRLI,aFIRST STRONG ISOLATE|aFSI
aPOP DIRECTIONAL ISOLATE|aPDI,aINHIBIT SYMMETRIC SWAPPING,aACTIVATEc,aINHIBIT ARABIC FORM SHAPING
aACTIVATEd,aNATIONAL DIGIT SHAPES,aNOMINALc,aSUPERSCRIPT ZERO,bLATIN SMALL LETTER I,2,bFOUR,bFIVE
bSIX,bSEVEN,bEIGHT,bNINE,bPLUS SIGN,bMINUS,bEQUALS SIGN,bLEFT PARENTHESIS,bRIGHTb
bLATIN SMALL LETTER N,aSUBSCRIPT ZERO,bONE,bTWO,bTHREE,bFOUR,bFIVE,bSIX,bSEVEN,bEIGHT,bNINE
bPLUS SIGN,bMINUS,bEQUALS SIGN,bLEFT PARENTHESIS,bRIGHTb,1,aLATIN SUBSCRIPT SMALL LETTER A,eE,eO,eX
eSCHWA,eH,eK,eL,eM,eN,eP,eS,eT,3,aEURO-CURRENCY SIGN,aCOLONb,aCRUZEIROb,aFRENCH FRANCb,aLIRAb,aMILLb
aNAIRAb,aPESETAb,aRUPEEb,aWONb,aNEW SHEQELb,aDONGb,aEUROb,aKIPb,aTUGRIKb,aDRACHMAb,aGERMAN PENNYb
aPESOb,aGUARANIb,aAUSTRALb,aHRYVNIAb,aCEDIb,aLIVRE TOURNOISb,aSPESMILOb,aTENGEb,aINDIAN RUPEEb
aTURKISH LIRAb,aNORDIC MARKb,aMANATb,aRUBLEb,aLARIb,aBITCOINb,aSOMb,15,aCOMBINING LEFT HARPOON ABOVE
bRIGHTc,bLONG VERTICAL LINE OVERLAY,bSHORTd,bANTICLOCKWISE ARROW ABOVE,bCLOCKWISEc,bLEFTc,bRIGHTc
bRING OVERLAY,bCLOCKWISEc,bANTICLOCKWISEc,bTHREE DOTS ABOVE,bFOURc,bENCLOSING CIRCLE,cSQUARE
cDIAMOND,cCIRCLE BACKSLASH,bLEFT RIGHT ARROW ABOVE,bENCLOSING SCREEN,cKEYCAP
cUPWARD POINTING TRIANGLE,bREVERSE SOLIDUS OVERLAY,bDOUBLE VERTICAL STROKEb,bANNUITY SYMBOL
bTRIPLE UNDERDOT,bWIDE BRIDGE ABOVE,bLEFTWARDS ARROW OVERLAY,bLONG DOUBLE SOLIDUSb
bRIGHTWARDS HARPOON WITH BARB DOWNWARDS,bLEFTWARDSe,bLEFT ARROW BELOW,bRIGHTc,bASTERISK ABOVE,15
aACCOUNT OF,aADDRESSED TO THE SUBJECT,aDOUBLE-STRUCK CAPITAL C,aDEGREE CELSIUS,aCENTRE LINE SYMBOL
aCARE OF,aCADA UNA,aEULER CONSTANT,aSCRUPLE,aDEGREE FAHRENHEIT,aSCRIPT SMALL G,bCAPITAL H
aBLACK-LETTERc,aDOUBLE-STRUCKc,aPLANCK CONSTANT,cOVER TWO PI,aSCRIPT CAPITAL I,aBLACK-LETTERc
aSCRIPT CAPITAL L,bSMALLb,aL B BAR SYMBOL,aDOUBLE-STRUCK CAPITAL N,aNUMERO SIGN
aSOUND RECORDING COPYRIGHT,aSCRIPT CAPITAL P|aWEIERSTRASS ELLIPTIC FUNCTION,aDOUBLE-STRUCK CAPITAL P
cQ,aSCRIPT CAPITAL R,aBLACK-LETTERc,aDOUBLE-STRUCKc,aPRESCRIPTION TAKE,aRESPONSE,aSERVICE MARK
aTELEPHONE SIGN,aTRADE MARKb,aVERSICLE,aDOUBLE-STRUCK CAPITAL Z,aOUNCE SIGN,aOHMb,aINVERTEDc
aBLACK-LETTER CAPITAL Z,aTURNED GREEK SMALL LETTER IOTA,aKELVIN SIGN,aANGSTROMb,aSCRIPT CAPITAL B
aBLACK-LETTER CAPITAL C,aESTIMATED SYMBOL,aSCRIPT SMALL E,bCAPITALb,cF,aTURNEDc,aSCRIPT CAPITAL M
bSMALL O,aALEF SYMBOL,aBETb,aGIMELb,aDALETb,aINFORMATION SOURCE,aROTATED CAPITAL Q,aFACSIMILE SIGN
aDOUBLE-STRUCK SMALL PI,cGAMMA,bCAPITALb,cPI,bN-ARY SUMMATION,aTURNED SANS-SERIF CAPITAL G,dL
aREVERSEDd,aTURNED SANS-SERIF CAPITAL Y,aDOUBLE-STRUCK ITALIC CAPITAL D,cSMALLb,dE,dI,dJ
aPROPERTY LINE,aTURNED AMPERSAND,aPER SIGN,aAKTIESELSKAB,aTURNED SMALL F
aSYMBOL FOR SAMARITAN SOURCE,aVULGAR FRACTION ONE SEVENTH,dNINTH,dTENTH,dTHIRD,cTWO THIRDS
cONE FIFTH,cTWO FIFTHS,cTHREEb,cFOURb,cONE SIXTH,cFIVE SIXTHS,cONE EIGHTH,cTHREE EIGHTHS,cFIVEb
cSEVENb,aFRACTION NUMERATOR ONE,aROMAN NUMERALb,cTWO,cTHREE,cFOUR,cFIVE,cSIX,cSEVEN,cEIGHT,cNINE
cTEN,cELEVEN,cTWELVE,cFIFTY,cONE HUNDRED,cFIVEb,cONE THOUSAND,aSMALL ROMAN NUMERAL ONE,dTWO,dTHREE
dFOUR,dFIVE,dSIX,dSEVEN,dEIGHT,dNINE,dTEN,dELEVEN,dTWELVE,dFIFTY,dONE HUNDRED,dFIVEb,dONE THOUSAND
aROMAN NUMERAL ONE THOUSAND C D,cFIVE THOUSAND,cTENb,cREVERSED ONE HUNDRED
aLATIN SMALL LETTER REVERSED C,aROMAN NUMERAL SIX LATE FORM,cFIFTY EARLYb,dTHOUSAND,cONE HUNDREDb
aVULGAR FRACTION ZERO THIRDS,aTURNED DIGIT TWO,cTHREE,4,aLEFTWARDS ARROW,aUPWARDSb,aRIGHTWARDSb
aDOWNWARDSb,aLEFT RIGHTb,aUP DOWNb,aNORTH WESTb,bEASTb,aSOUTHc,bWESTb,aLEFTWARDS ARROW WITH STROKE
aRIGHTWARDSd,aLEFTWARDS WAVE ARROW,aRIGHTWARDSc,aLEFTWARDS TWO HEADEDb,aUPWARDSd,aRIGHTWARDSd
aDOWNWARDSd,aLEFTWARDS ARROW WITH TAIL,aRIGHTWARDSd,aLEFTWARDS ARROW FROM BAR,aUPWARDSd,aRIGHTWARDSd
aDOWNWARDSd,aUP DOWN ARROW WITH BASE,aLEFTWARDS ARROW WITH HOOK,aRIGHTWARDSd
aLEFTWARDS ARROW WITH LOOP,aRIGHTWARDSd,aLEFT RIGHT WAVE ARROW,cARROW WITH STROKE
aDOWNWARDS ZIGZAG ARROW,aUPWARDS ARROW WITH TIP LEFTWARDS,eRIGHTWARDS
aDOWNWARDS ARROW WITH TIP LEFTWARDS,eRIGHTWARDS,aRIGHTWARDS ARROW WITH CORNER DOWNWARDS
aDOWNWARDS ARROW WITH CORNER LEFTWARDS,aANTICLOCKWISE TOP SEMICIRCLE ARROW,aCLOCKWISEd
aNORTH WEST ARROW TO LONG BAR,aLEFTWARDS ARROW TO BAR OVER RIGHTWARDS ARROW TOb
aANTICLOCKWISE OPEN CIRCLE ARROW,aCLOCKWISEd,aLEFTWARDS HARPOON WITH BARB UPWARDS,eDOWNWARDS
aUPWARDS HARPOON WITH BARB RIGHTWARDS,eLEFTWARDS,aRIGHTWARDS HARPOON WITH BARB UPWARDS,eDOWNWARDS
aDOWNWARDS HARPOON WITH BARB RIGHTWARDS,eLEFTWARDS,aRIGHTWARDS ARROW OVER LEFTWARDS ARROW
aUPWARDS ARROW LEFTWARDS OF DOWNWARDSb,aLEFTWARDS ARROW OVER RIGHTWARDSb,bPAIRED ARROWS,aUPWARDSc
aRIGHTWARDSc,aDOWNWARDSc,aLEFTWARDS HARPOON OVER RIGHTWARDS HARPOON
aRIGHTWARDS HARPOON OVER LEFTWARDSb,aLEFTWARDS DOUBLE ARROW WITH STROKE,aLEFT RIGHTe,aRIGHTWARDSe
aLEFTWARDS DOUBLE ARROW,aUPWARDSc,aRIGHTWARDSc,aDOWNWARDSc,aLEFT RIGHTc,aUP DOWNc,aNORTH WESTc
bEASTc,aSOUTHd,bWESTc,aLEFTWARDS TRIPLEb,aRIGHTWARDSc,aLEFTWARDS SQUIGGLEb,aRIGHTWARDSc
aUPWARDS ARROW WITH DOUBLE STROKE,aDOWNWARDSe,aLEFTWARDS DASHED ARROW,aUPWARDSc,aRIGHTWARDSc
aDOWNWARDSc,aLEFTWARDS ARROW TO BAR,aRIGHTWARDSd,aLEFTWARDS WHITE ARROW,aUPWARDSc,aRIGHTWARDSc
aDOWNWARDSc,aUPWARDS WHITE ARROW FROM BAR,dON PEDESTAL,fWITH HORIZONTAL BAR,gVERTICALb,cDOUBLE ARROW
eON PEDESTAL,aRIGHTWARDS WHITE ARROW FROM WALL,aNORTH WEST ARROW TO CORNER,aSOUTH EASTd
aUP DOWN WHITE ARROW,aRIGHT ARROW WITH SMALL CIRCLE,aDOWNWARDS ARROW LEFTWARDS OF UPWARDS ARROW
aTHREE RIGHTWARDS ARROWS,aLEFTWARDS ARROW WITH VERTICAL STROKE,aRIGHTWARDSe,aLEFT RIGHTe
aLEFTWARDS ARROW WITH DOUBLEc,aRIGHTWARDSf,aLEFT RIGHTf,aLEFTWARDS OPEN-HEADED ARROW,aRIGHTWARDSc
aLEFT RIGHTc,aFOR ALL,aCOMPLEMENT,aPARTIAL DIFFERENTIAL,aTHERE EXISTS,bDOES NOT EXIST,aEMPTY SET
aINCREMENT,aNABLA,aELEMENT OF,aNOT ANc,aSMALLc,aCONTAINS AS MEMBER,aDOES NOT CONTAINc
aSMALL CONTAINSc,aEND OF PROOF,aN-ARY PRODUCT,bCOPRODUCT,bSUMMATION,aMINUS SIGN,aMINUS-OR-PLUSb
aDOT PLUS,aDIVISION SLASH,aSET MINUS,aASTERISK OPERATOR,aRINGb,aBULLETb,aSQUARE ROOT,aCUBEb,aFOURTHb
aPROPORTIONAL TO,aINFINITY,aRIGHT ANGLE,ab,aMEASUREDb,aSPHERICALb,aDIVIDES,aDOES NOT DIVIDE
aPARALLEL TO,aNOTc,aLOGICAL AND,bOR,aINTERSECTION,aUNION,aINTEGRAL,aDOUBLEb,aTRIPLEb,aCONTOURb
aSURFACEb,aVOLUMEb,aCLOCKWISEb,bCONTOURb,aANTICLOCKWISEc,aTHEREFORE,aBECAUSE,aRATIO,aPROPORTION
aDOT MINUS,aEXCESS,aGEOMETRIC PROPORTION,aHOMOTHETIC,aTILDE OPERATOR,aREVERSED TILDE
aINVERTED LAZY S,aSINE WAVE,aWREATH PRODUCT,aNOT TILDE,aMINUSb,aASYMPTOTICALLY EQUAL TO,aNOTd
aAPPROXIMATELYc,bBUT NOT ACTUALLYc,aNEITHER APPROXIMATELY NORd,aALMOSTc,aNOTd,aALMOST EQUAL ORc
aTRIPLE TILDE,aALL EQUAL TO,aEQUIVALENTb,aGEOMETRICALLYc,aDIFFERENCE BETWEEN,aAPPROACHES THE LIMIT
aGEOMETRICALLY EQUAL TO,aAPPROXIMATELY EQUAL TO OR THE IMAGE OF,aIMAGE OF OR APPROXIMATELY EQUAL TO
aCOLON EQUALS,aEQUALS COLON,aRING IN EQUAL TO,bc,aCORRESPONDSb,aESTIMATES,aEQUIANGULAR TO
aSTAR EQUALS,aDELTA EQUAL TO,aEQUAL TO BY DEFINITION,aMEASURED BY,aQUESTIONED EQUAL TO,aNOTc
aIDENTICALb,aNOTc,aSTRICTLY EQUIVALENTb,aLESS-THAN OR EQUALb,aGREATER-THANd,aLESS-THAN OVERc
aGREATER-THANd,aLESS-THAN BUT NOTc,aGREATER-THANe,aMUCH LESS-THAN,bGREATER-THAN,aBETWEEN
aNOT EQUIVALENT TO,bLESS-THAN,bGREATER-THAN,aNEITHER LESS-THAN NOR EQUAL TO,bGREATER-THANd
aLESS-THAN OR EQUIVALENTb,aGREATER-THANd,aNEITHER LESS-THAN NORc,bGREATER-THANd
aLESS-THAN OR GREATER-THAN,aGREATER-THAN OR LESS-THAN,aNEITHER LESS-THAN NOR GREATER-THAN
bGREATER-THAN NOR LESS-THAN,aPRECEDES,aSUCCEEDS,aPRECEDES OR EQUAL TO,aSUCCEEDSd
aPRECEDES OR EQUIVALENTb,aSUCCEEDSd,aDOES NOT PRECEDE,cSUCCEED,aSUBSET OF,aSUPERSETb,aNOT A SUBSETb
cSUPERSETb,aSUBSET OF OR EQUAL TO,aSUPERSETe,aNEITHER A SUBSET OF NORc,cSUPERSETe
aSUBSET OF WITH NOTc,aSUPERSETf,aMULTISET,bMULTIPLICATION,bUNION,aSQUARE IMAGE OF,bORIGINALb
bIMAGE OF OR EQUAL TO,bORIGINALe,bCAP,bCUP,aCIRCLED PLUS,bMINUS,bTIMES,bDIVISION SLASH,bDOT OPERATOR
bRINGb,bASTERISKb,bEQUALS,bDASH,aSQUARED PLUS,bMINUS,bTIMES,bDOT OPERATOR,aRIGHT TACK,aLEFTb,aDOWNb
aUPb,aASSERTION,aMODELS,aTRUE,aFORCES,aTRIPLE VERTICAL BAR RIGHT TURNSTILE
aDOUBLE VERTICAL BAR DOUBLEc,aDOES NOT PROVE,aNOT TRUE,aDOES NOT FORCE
aNEGATED DOUBLE VERTICAL BAR DOUBLE RIGHT TURNSTILE,aPRECEDES UNDER RELATION,aSUCCEEDSc
aNORMAL SUBGROUP OF,aCONTAINS AS NORMAL SUBGROUP,aNORMAL SUBGROUP OF OR EQUAL TO
aCONTAINS AS NORMAL SUBGROUPd,aORIGINAL OF,aIMAGEb,aMULTIMAP,aHERMITIAN CONJUGATE MATRIX
aINTERCALATE,aXOR,aNAND,aNOR,aRIGHT ANGLE WITH ARC,bTRIANGLE,aN-ARY LOGICAL AND,cOR,bINTERSECTION
bUNION,aDIAMOND OPERATOR,aDOTb,aSTARb,aDIVISION TIMES,aBOWTIE,aLEFT NORMAL FACTOR SEMIDIRECT PRODUCT
aRIGHTe,aLEFTc,aRIGHTc,aREVERSED TILDE EQUALS,aCURLY LOGICAL OR,cAND,aDOUBLE SUBSET,bSUPERSET
bINTERSECTION,bUNION,aPITCHFORK,aEQUAL AND PARALLEL TO,aLESS-THAN WITH DOT,aGREATER-THANc
aVERY MUCH LESS-THAN,cGREATER-THAN,aLESS-THAN EQUAL TO ORb,aGREATER-THAN EQUAL TO OR LESS-THAN,ae
dGREATER-THAN,dPRECEDES,dSUCCEEDS,aDOES NOT PRECEDE OR EQUAL,cSUCCEEDc
aNOT SQUARE IMAGE OF OR EQUAL TO,cORIGINALe,aSQUARE IMAGE OF OR NOTc,bORIGINALf
aLESS-THAN BUT NOT EQUIVALENTb,aGREATER-THANe,aPRECEDESe,aSUCCEEDSe,aNOT NORMAL SUBGROUP OF
aDOES NOT CONTAIN AS NORMAL SUBGROUP,aNOT NORMAL SUBGROUP OF OR EQUAL TO
aDOES NOT CONTAIN AS NORMAL SUBGROUP OR EQUAL,aVERTICAL ELLIPSIS,aMIDLINE HORIZONTALb
aUP RIGHT DIAGONALb,aDOWNd,aELEMENT OF WITH LONG HORIZONTAL STROKE,dVERTICAL BAR AT END OFc,aSMALLk
aELEMENT OF WITH DOT ABOVE,dOVERBAR,aSMALLe,aELEMENT OF WITH UNDERBAR,dTWO HORIZONTAL STROKES
aCONTAINS WITH LONG HORIZONTAL STROKE,cVERTICAL BAR AT END OFc,aSMALLj,aCONTAINS WITH OVERBAR
aSMALLd,aZ NOTATION BAG MEMBERSHIP,aDIAMETER SIGN,aELECTRIC ARROW,aHOUSE,aUP ARROWHEAD,aDOWNb
aPROJECTIVE,aPERSPECTIVE,aWAVY LINE,aLEFT CEILING,aRIGHTb,aLEFT FLOOR,aRIGHTb,aBOTTOM RIGHT CROP
bLEFTb,aTOP RIGHTb,bLEFTb,aREVERSED NOT SIGN,aSQUARE LOZENGE,aARC,aSEGMENT,aSECTOR
aTELEPHONE RECORDER,aPOSITION INDICATOR,aVIEWDATA SQUARE,aPLACE OF INTEREST SIGN,aTURNED NOTb,aWATCH
aHOURGLASS,aTOP LEFT CORNER,bRIGHTb,aBOTTOM LEFTb,bRIGHTb,aTOP HALF INTEGRAL,aBOTTOMc,aFROWN,aSMILE
aUP ARROWHEAD BETWEEN TWO HORIZONTAL BARS,aOPTION KEY,aERASE TO THE RIGHT,aX IN A RECTANGLE BOX
aKEYBOARD,aLEFT-POINTING ANGLE BRACKET,aRIGHT-POINTINGc,aERASE TO THE LEFT,aBENZENE RING
aCYLINDRICITY,aALL AROUND-PROFILE,aSYMMETRY,aTOTAL RUNOUT,aDIMENSION ORIGIN,aCONICAL TAPER,aSLOPE
aCOUNTERBORE,aCOUNTERSINK,aAPL FUNCTIONAL SYMBOL I-BEAM,dSQUISH QUAD,dQUAD EQUAL,eDIVIDE,eDIAMOND
eJOT,eCIRCLE,dCIRCLE STILE,eJOT,dSLASH BAR,dBACKSLASHb,dQUAD SLASH,eBACKSLASH,eLESS-THAN
eGREATER-THAN,dLEFTWARDS VANE,dRIGHTWARDSb,dQUAD LEFTWARDS ARROW,eRIGHTWARDSb,dCIRCLE BACKSLASH
dDOWN TACK UNDERBAR,dDELTA STILE,dQUAD DOWN CARET,eDELTA,dDOWN TACK JOT,dUPWARDS VANE
dQUAD UPWARDS ARROW,dUP TACK OVERBAR,dDEL STILE,dQUAD UP CARET,eDEL,dUP TACK JOT,dDOWNWARDS VANE
dQUAD DOWNWARDS ARROW,dQUOTE UNDERBAR,dDELTAb,dDIAMONDb,dJOTb,dCIRCLEb,dUP SHOE JOT,dQUOTE QUAD
dCIRCLE STAR,dQUAD COLON,dUP TACK DIAERESIS,dDELb,dSTARb,dJOTb,dCIRCLEb,dDOWN SHOE STILE,dLEFTc
dTILDE DIAERESIS,dGREATER-THANb,dCOMMA BAR,dDEL TILDE,dZILDE,dSTILE TILDE,dSEMICOLON UNDERBAR
dQUAD NOT EQUAL,eQUESTION,dDOWN CARET TILDE,dUPc,dIOTA,dRHO,dOMEGA,dALPHA UNDERBAR,dEPSILONb,dIOTAb
dOMEGAb,dALPHA,aNOT CHECK MARK,aRIGHT ANGLE WITH DOWNWARDS ZIGZAG ARROW,aSHOULDERED OPEN BOX
aBELL SYMBOL,aVERTICAL LINE WITH MIDDLE DOT,aINSERTION SYMBOL,aCONTINUOUS UNDERLINEb,aDISCONTINUOUSc
aEMPHASISb,aCOMPOSITIONb,aWHITE SQUARE WITH CENTRE VERTICAL LINE,aENTER SYMBOL,aALTERNATIVE KEYb
aHELMb,aCIRCLED HORIZONTAL BAR WITH NOTCH,bTRIANGLE DOWN,aBROKEN CIRCLE WITH NORTHWEST ARROW
aUNDO SYMBOL,aMONOSTABLEb,aHYSTERESISb,aOPEN-CIRCUIT-OUTPUT H-TYPEb,bL-TYPEb
aPASSIVE-PULL-DOWN-OUTPUTb,aPASSIVE-PULL-UP-OUTPUTb,aDIRECT CURRENT SYMBOL FORM TWO
aSOFTWARE-FUNCTION SYMBOL,aAPL FUNCTIONAL SYMBOL QUAD,aDECIMAL SEPARATOR KEY SYMBOL,aPREVIOUS PAGE
aNEXTb,aPRINT SCREEN SYMBOL,aCLEARc,aLEFT PARENTHESIS UPPER HOOK,cEXTENSION,cLOWER HOOK
aRIGHT PARENTHESIS UPPERb,cEXTENSION,cLOWER HOOK,aLEFT SQUARE BRACKET UPPER CORNER,dEXTENSION
dLOWER CORNER,aRIGHT SQUARE BRACKET UPPERb,dEXTENSION,dLOWER CORNER,aLEFT CURLY BRACKET UPPER HOOK
dMIDDLE PIECE,dLOWER HOOK,aCURLY BRACKET EXTENSION,aRIGHT CURLY BRACKET UPPER HOOK,dMIDDLE PIECE
dLOWER HOOK,aINTEGRAL EXTENSION,aHORIZONTAL LINEb,aUPPER LEFT OR LOWER RIGHT CURLY BRACKET SECTION
bRIGHT OR LOWER LEFTd,aSUMMATION TOP,bBOTTOM,aTOP SQUARE BRACKET,aBOTTOMc,dOVER TOPc
aRADICAL SYMBOL BOTTOM,aLEFT VERTICAL BOX LINE,aRIGHTd,aHORIZONTAL SCAN LINE-1,cLINE-3,cLINE-7
cLINE-9,aDENTISTRY SYMBOL LIGHT VERTICAL AND TOP RIGHT,fBOTTOMb,eWITH CIRCLE,dDOWN AND HORIZONTALc
dUPe,dVERTICAL WITH TRIANGLE,dDOWN AND HORIZONTALc,dUPe,dVERTICAL AND WAVE
dDOWN AND HORIZONTAL WITHb,dUPe,dDOWN AND HORIZONTAL,dUPc,dVERTICAL AND TOP LEFT,fBOTTOMb
aSQUARE FOOT,aRETURN SYMBOL,aEJECTb,aVERTICAL LINE EXTENSION,aMETRICAL BREVE,bLONG OVER SHORT
bSHORT OVER LONG,bLONG OVER TWO SHORTS,bTWO SHORTS OVER LONG,dJOINED,bTRISEME,bTETRASEME,bPENTASEME
aEARTH GROUND,aFUSE,aTOP PARENTHESIS,aBOTTOMb,aTOP CURLY BRACKET,aBOTTOMc,aTOP TORTOISE SHELLb
aBOTTOMd,aWHITE TRAPEZIUM,aBENZENE RING WITH CIRCLE,aSTRAIGHTNESS,aFLATNESS,aAC CURRENT
aELECTRICAL INTERSECTION,aDECIMAL EXPONENT SYMBOL,aBLACK RIGHT-POINTING DOUBLE TRIANGLE
bLEFT-POINTINGc,bUP-POINTINGc,bDOWN-POINTINGc,bRIGHT-POINTING DOUBLE TRIANGLE WITH VERTICAL BAR
bLEFT-POINTINGf,bRIGHT-POINTING TRIANGLE WITH DOUBLEc,aALARM CLOCK,aSTOPWATCH,aTIMER CLOCK
aHOURGLASS WITH FLOWING SAND,aBLACK MEDIUM LEFT-POINTING TRIANGLE,cRIGHT-POINTINGb,cUP-POINTINGb
cDOWN-POINTINGb,aDOUBLE VERTICAL BAR,aBLACK SQUARE FOR STOP,bCIRCLE FOR RECORD,aPOWER SYMBOL
bON-OFFb,bONb,bSLEEPb,aOBSERVER EYEb,aSYMBOL FOR NULL,cSTART OF HEADING,eTEXT,cENDc,eTRANSMISSION
cENQUIRY,cACKNOWLEDGE,cBELL,cBACKSPACE,cHORIZONTAL TABULATION,cLINE FEED,cVERTICAL TABULATION
cFORM FEED,cCARRIAGE RETURN,cSHIFT OUT,dIN,cDATA LINK ESCAPE,cDEVICE CONTROL ONE,eTWO,eTHREE,eFOUR
cNEGATIVE ACKNOWLEDGE,cSYNCHRONOUS IDLE,cEND OF TRANSMISSION BLOCK,cCANCEL,cEND OF MEDIUM
cSUBSTITUTE,cESCAPE,cFILE SEPARATOR,cGROUPb,cRECORDb,cUNITb,cSPACE,cDELETE,aBLANK SYMBOL,aOPEN BOX
aSYMBOL FOR NEWLINE,cDELETE FORM TWO,cSUBSTITUTEc,25,aOCR HOOK,bCHAIR,bFORK,bINVERTEDb,bBELT BUCKLE
bBOW TIE,bBRANCH BANK IDENTIFICATION,bAMOUNT OF CHECK,bDASH|aMICR ON US SYMBOL
aOCR CUSTOMER ACCOUNT NUMBER|aMICR DASH SYMBOL,aOCR DOUBLE BACKSLASH,21,aCIRCLED DIGIT ONE,cTWO
cTHREE,cFOUR,cFIVE,cSIX,cSEVEN,cEIGHT,cNINE,bNUMBER TEN,cELEVEN,cTWELVE,cTHIRTEEN,cFOURTEEN,cFIFTEEN
cSIXTEEN,cSEVENTEEN,cEIGHTEEN,cNINETEEN,cTWENTY,aPARENTHESIZED DIGIT ONE,cTWO,cTHREE,cFOUR,cFIVE
cSIX,cSEVEN,cEIGHT,cNINE,bNUMBER TEN,cELEVEN,cTWELVE,cTHIRTEEN,cFOURTEEN,cFIFTEEN,cSIXTEEN
cSEVENTEEN,cEIGHTEEN,cNINETEEN,cTWENTY,aDIGIT ONE FULL STOP,bTWOc,bTHREEc,bFOURc,bFIVEc,bSIXc
bSEVENc,bEIGHTc,bNINEc,aNUMBER TENc,bELEVENc,bTWELVEc,bTHIRTEENc,bFOURTEENc,bFIFTEENc,bSIXTEENc
bSEVENTEENc,bEIGHTEENc,bNINETEENc,bTWENTYc,aPARENTHESIZED LATIN SMALL LETTER A,eB,eC,eD,eE,eF,eG,eH
eI,eJ,eK,eL,eM,eN,eO,eP,eQ,eR,eS,eT,eU,eV,eW,eX,eY,eZ,aCIRCLED LATIN CAPITAL LETTER A,eB,eC,eD,eE,eF
eG,eH,eI,eJ,eK,eL,eM,eN,eO,eP,eQ,eR,eS,eT,eU,eV,eW,eX,eY,eZ,cSMALL LETTER A,eB,eC,eD,eE,eF,eG,eH,eI
eJ,eK,eL,eM,eN,eO,eP,eQ,eR,eS,eT,eU,eV,eW,eX,eY,eZ,bDIGIT ZERO,aNEGATIVE CIRCLED NUMBER ELEVEN
dTWELVE,dTHIRTEEN,dFOURTEEN,dFIFTEEN,dSIXTEEN,dSEVENTEEN,dEIGHTEEN,dNINETEEN,dTWENTY
aDOUBLE CIRCLED DIGIT ONE,dTWO,dTHREE,dFOUR,dFIVE,dSIX,dSEVEN,dEIGHT,dNINE,cNUMBER TEN
aNEGATIVE CIRCLED DIGIT ZERO,aBOX DRAWINGS LIGHT HORIZONTAL,cHEAVYb,cLIGHT VERTICAL,cHEAVYb
cLIGHT TRIPLE DASH HORIZONTAL,cHEAVYd,cLIGHT TRIPLE DASH VERTICAL,cHEAVYd
cLIGHT QUADRUPLE DASH HORIZONTAL,cHEAVYd,cLIGHT QUADRUPLE DASH VERTICAL,cHEAVYd
cLIGHT DOWN AND RIGHT,cDOWN LIGHT AND RIGHT HEAVY,dHEAVY AND RIGHT LIGHT,cHEAVY DOWN AND RIGHT
cLIGHT DOWN AND LEFT,cDOWN LIGHT AND LEFT HEAVY,dHEAVY AND LEFT LIGHT,cHEAVY DOWN AND LEFT
cLIGHT UP AND RIGHT,cUP LIGHT AND RIGHT HEAVY,dHEAVY AND RIGHT LIGHT,cHEAVY UP AND RIGHT
cLIGHT UP AND LEFT,cUP LIGHT AND LEFT HEAVY,dHEAVY AND LEFT LIGHT,cHEAVY UP AND LEFT
cLIGHT VERTICAL AND RIGHT,cVERTICAL LIGHT AND RIGHT HEAVY,cUP HEAVY AND RIGHT DOWN LIGHT
cDOWN HEAVY AND RIGHT UPb,cVERTICAL HEAVY AND RIGHTb,cDOWN LIGHT AND RIGHT UP HEAVY
cUP LIGHT AND RIGHT DOWNb,cHEAVY VERTICAL AND RIGHT,cLIGHT VERTICAL AND LEFT
cVERTICAL LIGHT AND LEFT HEAVY,cUP HEAVY AND LEFT DOWN LIGHT,cDOWN HEAVY AND LEFT UPb
cVERTICAL HEAVY AND LEFTb,cDOWN LIGHT AND LEFT UP HEAVY,cUP LIGHT AND LEFT DOWNb
cHEAVY VERTICAL AND LEFT,cLIGHT DOWN AND HORIZONTAL,cLEFT HEAVY AND RIGHT DOWN LIGHT
cRIGHT HEAVY AND LEFTc,cDOWN LIGHT AND HORIZONTAL HEAVY,dHEAVY AND HORIZONTAL LIGHT
cRIGHT LIGHT AND LEFT DOWN HEAVY,cLEFT LIGHT AND RIGHTc,cHEAVY DOWN AND HORIZONTAL,cLIGHT UPc
cLEFT HEAVY AND RIGHT UP LIGHT,cRIGHT HEAVY AND LEFTc,cUP LIGHT AND HORIZONTAL HEAVY
dHEAVY AND HORIZONTAL LIGHT,cRIGHT LIGHT AND LEFT UP HEAVY,cLEFT LIGHT AND RIGHTc
cHEAVY UP AND HORIZONTAL,cLIGHT VERTICALc,cLEFT HEAVY AND RIGHT VERTICAL LIGHT
cRIGHT HEAVY AND LEFTc,cVERTICAL LIGHT AND HORIZONTAL HEAVY,cUP HEAVY AND DOWN HORIZONTAL LIGHT
cDOWN HEAVY AND UPc,cVERTICAL HEAVY ANDc,cLEFT UP HEAVY AND RIGHT DOWNb,cRIGHT UP HEAVY AND LEFTc
cLEFT DOWN HEAVY AND RIGHT UPb,cRIGHT DOWN HEAVY AND LEFTc,cDOWN LIGHT AND UP HORIZONTAL HEAVY
cUP LIGHT AND DOWNc,cRIGHT LIGHT AND LEFT VERTICALb,cLEFT LIGHT AND RIGHTc
cHEAVY VERTICAL AND HORIZONTAL,cLIGHT DOUBLE DASHb,cHEAVYd,cLIGHT DOUBLE DASH VERTICAL,cHEAVYd
cDOUBLE HORIZONTAL,dVERTICAL,cDOWN SINGLE AND RIGHT DOUBLE,dDOUBLE AND RIGHT SINGLE
cDOUBLE DOWN AND RIGHT,cDOWN SINGLE AND LEFT DOUBLE,dDOUBLE AND LEFT SINGLE,cDOUBLE DOWN AND LEFT
cUP SINGLE AND RIGHT DOUBLE,dDOUBLE AND RIGHT SINGLE,cDOUBLE UP AND RIGHT,cUP SINGLE AND LEFT DOUBLE
dDOUBLE AND LEFT SINGLE,cDOUBLE UP AND LEFT,cVERTICAL SINGLE AND RIGHT DOUBLE
dDOUBLE AND RIGHT SINGLE,cDOUBLE VERTICAL AND RIGHT,cVERTICAL SINGLE AND LEFT DOUBLE
dDOUBLE AND LEFT SINGLE,cDOUBLE VERTICAL AND LEFT,cDOWN SINGLE AND HORIZONTAL DOUBLE
dDOUBLE AND HORIZONTAL SINGLE,cDOUBLE DOWN AND HORIZONTAL,cUP SINGLE AND HORIZONTAL DOUBLE
dDOUBLE AND HORIZONTAL SINGLE,cDOUBLE UP AND HORIZONTAL,cVERTICAL SINGLE AND HORIZONTAL DOUBLE
dDOUBLE AND HORIZONTAL SINGLE,cDOUBLE VERTICAL AND HORIZONTAL,cLIGHT ARC DOWN AND RIGHT,gLEFT,eUPc
gRIGHT,dDIAGONAL UPPER RIGHT TO LOWER LEFT,fLEFT TO LOWER RIGHT,eCROSS,dLEFT,dUP,dRIGHT,dDOWN
cHEAVY LEFT,dUP,dRIGHT,dDOWN,cLIGHT LEFT AND HEAVY RIGHT,dUP AND HEAVY DOWN
cHEAVY LEFT AND LIGHT RIGHT,dUP AND LIGHT DOWN,aUPPER HALF BLOCK,aLOWER ONE EIGHTHb,cQUARTERb
bTHREE EIGHTHSb,bHALFb,bFIVE EIGHTHSb,bTHREE QUARTERSb,bSEVEN EIGHTHSb,aFULLb,aLEFT SEVEN EIGHTHSb
bTHREE QUARTERSb,bFIVE EIGHTHSb,bHALFb,bTHREE EIGHTHSb,bONE QUARTERb,cEIGHTHb,aRIGHT HALFb
aLIGHT SHADE,aMEDIUMb,aDARKb,aUPPER ONE EIGHTH BLOCK,aRIGHTd,aQUADRANT LOWER LEFT,cRIGHT,bUPPER LEFT
dAND LOWER LEFT AND LOWER RIGHT,fb,eUPPER RIGHT AND LOWER LEFT,iRIGHT,cb,dAND LOWER LEFT
gAND LOWER RIGHT,aBLACK SQUARE,aWHITEb,cWITH ROUNDED CORNERS,cCONTAINING BLACK SMALL SQUARE
aSQUARE WITH HORIZONTAL FILL,cVERTICALb,cORTHOGONAL CROSSHATCHb,cUPPER LEFT TO LOWER RIGHTb
dRIGHT TO LOWER LEFTb,cDIAGONAL CROSSHATCHb,aBLACK SMALL SQUARE,aWHITEc,aBLACK RECTANGLE,aWHITEb
aBLACK VERTICALb,aWHITEc,aBLACK PARALLELOGRAM,aWHITEb,aBLACK UP-POINTING TRIANGLE,aWHITEc
aBLACK UP-POINTING SMALLb,aWHITEd,aBLACK RIGHT-POINTINGb,aWHITEc,aBLACK RIGHT-POINTING SMALLb
aWHITEd,aBLACK RIGHT-POINTING POINTER,aWHITEc,aBLACK DOWN-POINTING TRIANGLE,aWHITEc
aBLACK DOWN-POINTING SMALLb,aWHITEd,aBLACK LEFT-POINTINGb,aWHITEc,aBLACK LEFT-POINTING SMALLb
aWHITEd,aBLACK LEFT-POINTING POINTER,aWHITEc,aBLACK DIAMOND,aWHITEb,cCONTAINING BLACK SMALLb
aFISHEYE,aLOZENGE,aWHITE CIRCLE,aDOTTEDb,aCIRCLE WITH VERTICAL FILL,aBULLSEYE,aBLACK CIRCLE
aCIRCLE WITH LEFT HALF BLACK,cRIGHTc,cLOWERc,cUPPERc,dRIGHT QUADRANTb,cALL BUT UPPER LEFTc
aLEFT HALF BLACK CIRCLE,aRIGHTd,aINVERSE BULLET,bWHITE CIRCLE,aUPPER HALFd,aLOWERe
aUPPER LEFT QUADRANT CIRCULAR ARC,bRIGHTd,aLOWERe,bLEFTd,aUPPER HALF CIRCLE,aLOWERc
aBLACK LOWER RIGHT TRIANGLE,cLEFTb,bUPPERc,cRIGHTb,aWHITE BULLET,aSQUARE WITH LEFT HALF BLACK
cRIGHTc,cUPPER LEFT DIAGONALc,cLOWER RIGHTd,aWHITE SQUARE WITH VERTICAL BISECTING LINE
bUP-POINTING TRIANGLE WITH DOT,aUP-POINTING TRIANGLE WITH LEFT HALF BLACK,dRIGHTc,aLARGE CIRCLE
aWHITE SQUARE WITH UPPER LEFT QUADRANT,dLOWERc,eRIGHTb,dUPPERc,bCIRCLE WITH UPPER LEFTb,dLOWERc
eRIGHTb,dUPPERc,aUPPER LEFT TRIANGLE,bRIGHTb,aLOWER LEFTb,aWHITE MEDIUM SQUARE,aBLACKc
aWHITE MEDIUM SMALLb,aBLACKd,aLOWER RIGHT TRIANGLE,aBLACK SUN WITH RAYS,aCLOUD,aUMBRELLA,aSNOWMAN
aCOMET,aBLACK STAR,aWHITEb,aLIGHTNING,aTHUNDERSTORM,aSUN,aASCENDING NODE,aDESCENDINGb,aCONJUNCTION
aOPPOSITION,aBLACK TELEPHONE,aWHITEb,aBALLOT BOX,cWITH CHECK,dX,aSALTIRE,aUMBRELLA WITH RAIN DROPS
aHOT BEVERAGE,aWHITE SHOGI PIECE,aBLACKc,aSHAMROCK,aREVERSED ROTATED FLORAL HEART BULLET
aBLACK LEFT POINTING INDEX,bRIGHTc,aWHITE LEFTc,bUPc,bRIGHTc,bDOWNc,aSKULL AND CROSSBONES
aCAUTION SIGN,aRADIOACTIVEb,aBIOHAZARDb,aCADUCEUS,aANKH,aORTHODOX CROSS,aCHI RHO,aCROSS OF LORRAINE
cJERUSALEM,aSTAR AND CRESCENT,aFARSI SYMBOL,aADI SHAKTI,aHAMMER AND SICKLE,aPEACE SYMBOL,aYIN YANG
aTRIGRAM FOR HEAVEN,cLAKE,cFIRE,cTHUNDER,cWIND,cWATER,cMOUNTAIN,cEARTH,aWHEEL OF DHARMA
aWHITE FROWNING FACE,bSMILINGb,aBLACKc,aWHITE SUN WITH RAYS,aFIRST QUARTER MOON,aLASTc,aMERCURY
aFEMALE SIGN,aEARTH,aMALE SIGN,aJUPITER,aSATURN,aURANUS,aNEPTUNE,aPLUTO,aARIES,aTAURUS,aGEMINI
aCANCER,aLEO,aVIRGO,aLIBRA,aSCORPIUS,aSAGITTARIUS,aCAPRICORN,aAQUARIUS,aPISCES,aWHITE CHESS KING
cQUEEN,cROOK,cBISHOP,cKNIGHT,cPAWN,aBLACK CHESS KING,cQUEEN,cROOK,cBISHOP,cKNIGHT,cPAWN,bSPADE SUIT
aWHITE HEARTb,bDIAMONDb,aBLACK CLUBb,aWHITE SPADEb,aBLACK HEARTb,bDIAMONDb,aWHITE CLUBb,aHOT SPRINGS
aQUARTER NOTE,aEIGHTHb,aBEAMED EIGHTH NOTES,bSIXTEENTHb,aMUSIC FLAT SIGN,bNATURALb,bSHARPb
aWEST SYRIAC CROSS,aEASTc,aUNIVERSAL RECYCLING SYMBOL,aRECYCLING SYMBOL FOR TYPE-1 PLASTICS,dTYPE-2b
dTYPE-3b,dTYPE-4b,dTYPE-5b,dTYPE-6b,dTYPE-7b,dGENERIC MATERIALS,aBLACK UNIVERSAL RECYCLING SYMBOL
aRECYCLED PAPERb,aPARTIALLY-RECYCLEDc,aPERMANENT PAPER SIGN,aWHEELCHAIR SYMBOL,aDIE FACE-1,bFACE-2
bFACE-3,bFACE-4,bFACE-5,bFACE-6,aWHITE CIRCLE WITH DOT RIGHT,dTWO DOTS
aBLACK CIRCLE WITH WHITE DOT RIGHT,dTWO WHITE DOTS,aMONOGRAM FOR YANG,cYIN,aDIGRAM FOR GREATER YANG
cLESSER YIN,dYANG,cGREATER YIN,aWHITE FLAG,aBLACKb,aHAMMER AND PICK,aANCHOR,aCROSSED SWORDS
aSTAFF OF AESCULAPIUS,aSCALES,aALEMBIC,aFLOWER,aGEAR,aSTAFF OF HERMES,aATOM SYMBOL,aFLEUR-DE-LIS
aOUTLINED WHITE STAR,aTHREE LINES CONVERGING RIGHT,dLEFT,aWARNING SIGN,aHIGH VOLTAGEb
aDOUBLED FEMALEb,bMALEb,aINTERLOCKED FEMALE ANDc,aMALE AND FEMALEb,bWITH STROKEb
dAND MALE AND FEMALEb,aVERTICAL MALE WITH STROKEb,aHORIZONTALe,aMEDIUM WHITE CIRCLE,bBLACKb
bSMALL WHITEb,aMARRIAGE SYMBOL,aDIVORCEb,aUNMARRIED PARTNERSHIPb,aCOFFIN,aFUNERAL URN,aNEUTER,aCERES
aPALLAS,aJUNO,aVESTA,aCHIRON,aBLACK MOON LILITH,aSEXTILE,aSEMISEXTILE,aQUINCUNX,aSESQUIQUADRATE
aSOCCER BALL,aBASEBALL,aSQUARED KEY,aWHITE DRAUGHTS MAN,cKING,aBLACK DRAUGHTS MAN,cKING
aSNOWMAN WITHOUT SNOW,aSUN BEHIND CLOUD,aRAIN,aBLACK SNOWMAN,aTHUNDER CLOUD AND RAIN
aTURNED WHITE SHOGI PIECE,bBLACKc,aWHITE DIAMOND IN SQUARE,aCROSSING LANES,aDISABLED CAR,aOPHIUCHUS
aPICK,aCAR SLIDING,aHELMET WITH WHITE CROSS,aCIRCLED CROSSING LANES,aCHAINS,aNO ENTRY
aALTERNATE ONE-WAY LEFT WAY TRAFFIC,aBLACK TWO-WAYd,aWHITEe,aBLACK LEFT LANE MERGE,aWHITEd
aDRIVE SLOW SIGN,aHEAVY WHITE DOWN-POINTING TRIANGLE,aLEFT CLOSED ENTRY,aSQUARED SALTIRE
aFALLING DIAGONAL IN WHITE CIRCLE IN BLACK SQUARE,aBLACK TRUCK,aRESTRICTED LEFT ENTRY-1,cENTRY-2
aASTRONOMICAL SYMBOL FOR URANUS,aHEAVY CIRCLE WITH STROKE AND TWO DOTS ABOVE,aPENTAGRAM
aRIGHT-HANDED INTERLACEDb,aLEFT-HANDEDc,aINVERTEDb,aBLACK CROSS ON SHIELD,aSHINTO SHRINE,aCHURCH
aCASTLE,aHISTORIC SITE,aGEAR WITHOUT HUB,bWITH HANDLES,aMAP SYMBOL FOR LIGHTHOUSE,aMOUNTAIN
aUMBRELLA ON GROUND,aFOUNTAIN,aFLAG IN HOLE,aFERRY,aSAILBOAT,aSQUARE FOUR CORNERS,aSKIER,aICE SKATE
aPERSON WITH BALL,aTENT,aJAPANESE BANK SYMBOL,aHEADSTONE GRAVEYARDb,aFUEL PUMP,aCUP ON BLACK SQUARE
aWHITE FLAG WITH HORIZONTAL MIDDLE BLACK STRIPE,aBLACK SAFETY SCISSORS,aUPPER BLADEb,aBLACKb
aLOWER BLADEb,aWHITEb,bHEAVY CHECK MARK,aTELEPHONE LOCATION SIGN,aTAPE DRIVE,aAIRPLANE,aENVELOPE
aRAISED FIST,bHAND,aVICTORYb,aWRITINGb,aLOWER RIGHT PENCIL,ab,aUPPER RIGHTb,aWHITE NIB,aBLACKb
aCHECK MARK,aHEAVYc,aMULTIPLICATION X,aHEAVYc,aBALLOTb,aHEAVYc,aOUTLINED GREEK CROSS,aHEAVYc
aOPEN CENTREb,aHEAVYd,aLATINb,aSHADOWED WHITEc,aOUTLINEDc,aMALTESEb,aSTAR OF DAVID
aFOUR TEARDROP-SPOKED ASTERISK,bBALLOON-SPOKEDb,aHEAVYd,aFOUR CLUB-SPOKEDb,aBLACK FOUR POINTED STAR
aWHITEd,aSPARKLES,aSTRESS OUTLINED WHITE STAR,aCIRCLEDc,aOPEN CENTRE BLACKb,aBLACK CENTRE WHITEb
aOUTLINED BLACKb,aHEAVYd,aPINWHEELb,aSHADOWED WHITEb,aHEAVY ASTERISK,aOPEN CENTREb,aEIGHT SPOKEDb
bPOINTED BLACK STAR,cPINWHEELb,aSIX POINTED BLACKb,aEIGHT POINTED RECTILINEARc,aHEAVYf
aTWELVE POINTEDc,aSIXTEEN POINTED ASTERISK,aTEARDROP-SPOKEDb,aOPEN CENTREc,aHEAVYc
aSIX PETALLED BLACK AND WHITE FLORETTE,aBLACKb,aWHITEb,aEIGHT PETALLED OUTLINED BLACKb
aCIRCLED OPEN CENTRE EIGHT POINTED STAR,aHEAVY TEARDROP-SPOKED PINWHEEL ASTERISK,aSNOWFLAKE
aTIGHT TRIFOLIATEb,aHEAVY CHEVRONb,aSPARKLE,aHEAVYb,aBALLOON-SPOKED ASTERISK
aEIGHT TEARDROP-SPOKED PROPELLERb,aHEAVYe,aCROSS MARK,aSHADOWED WHITE CIRCLE
aNEGATIVE SQUARED CROSS MARK,aLOWER RIGHT DROP-SHADOWED WHITE SQUARE,aUPPERe,aLOWER RIGHT SHADOWEDc
aUPPERe,aBLACK QUESTION MARK ORNAMENT,aWHITEd,bEXCLAMATIONc,aBLACK DIAMOND MINUS WHITE X
aHEAVY EXCLAMATION MARK SYMBOL,aLIGHT VERTICAL BAR,aMEDIUMc,aHEAVYc
bSINGLE TURNED COMMA QUOTATION MARK ORNAMENT,ce,bDOUBLE TURNEDe,ce,bLOW SINGLEe,cDOUBLEe
aCURVED STEM PARAGRAPH SIGNb,aHEAVY EXCLAMATION MARKb,bHEARTd,bBLACK HEART
aROTATED HEAVY BLACK HEART BULLET,aFLORAL HEART,aROTATED FLORAL HEART BULLET
aMEDIUM LEFT PARENTHESIS ORNAMENT,bRIGHTc,bFLATTENED LEFTc,cRIGHTc,bLEFT-POINTING ANGLE BRACKETb
bRIGHT-POINTINGd,aHEAVY LEFT-POINTING ANGLE QUOTATION MARKb,bRIGHT-POINTINGe
bLEFT-POINTING ANGLE BRACKETb,bRIGHT-POINTINGd,aLIGHT LEFT TORTOISE SHELLc,bRIGHTe
aMEDIUM LEFT CURLYc,bRIGHTd,aDINGBAT NEGATIVE CIRCLED DIGIT ONE,eTWO,eTHREE,eFOUR,eFIVE,eSIX,eSEVEN
eEIGHT,eNINE,dNUMBER TEN,bCIRCLED SANS-SERIF DIGIT ONE,eTWO,eTHREE,eFOUR,eFIVE,eSIX,eSEVEN,eEIGHT
eNINE,dNUMBER TEN,bNEGATIVE CIRCLED SANS-SERIF DIGIT ONE,fTWO,fTHREE,fFOUR,fFIVE,fSIX,fSEVEN,fEIGHT
fNINE,eNUMBER TEN,aHEAVY WIDE-HEADED RIGHTWARDS ARROW,bPLUS SIGN,bMINUSb,bDIVISIONb
bSOUTH EAST ARROW,bRIGHTWARDSb,bNORTH EASTb,aDRAFTING POINT RIGHTWARDSb,aHEAVY ROUND-TIPPEDc
aTRIANGLE-HEADEDc,aHEAVYd,aDASHEDd,aHEAVYe,aBLACKc,aTHREE-D TOP-LIGHTED RIGHTWARDS ARROWHEAD
bBOTTOM-LIGHTEDc,aBLACKc,aHEAVY BLACK CURVED DOWNWARDS AND RIGHTWARDS ARROW,dUPWARDSd,aSQUAT BLACKc
aHEAVY CONCAVE-POINTEDd,aRIGHT-SHADED WHITEc,aLEFT-SHADEDd,aBACK-TILTED SHADOWEDd,aFRONT-TILTEDe
aHEAVY LOWER RIGHT-SHADOWEDd,bUPPERe,aNOTCHED LOWERe,aCURLY LOOP
aNOTCHED UPPER RIGHT-SHADOWED WHITE RIGHTWARDS ARROW,aCIRCLED HEAVYd,aWHITE-FEATHEREDc
aBLACK-FEATHERED SOUTH EASTb,bRIGHTWARDSb,bNORTH EASTb,aHEAVY BLACK-FEATHERED SOUTHc,cRIGHTWARDSb
cNORTH EASTb,aTEARDROP-BARBED RIGHTWARDSb,aHEAVY TEARDROP-SHANKEDc,aWEDGE-TAILEDc,aHEAVYd
aOPEN-OUTLINEDc,aDOUBLE CURLY LOOP,aTHREE DIMENSIONAL ANGLE
aWHITE TRIANGLE CONTAINING SMALL WHITE TRIANGLE,aPERPENDICULAR,aOPEN SUBSET,bSUPERSET
aLEFT S-SHAPED BAG DELIMITER,aRIGHTd,aOR WITH DOT INSIDE,aREVERSE SOLIDUS PRECEDING SUBSET
aSUPERSET PRECEDING SOLIDUS,aVERTICAL BAR WITH HORIZONTAL STROKE,aMATHEMATICAL RISING DIAGONAL
aLONG DIVISION,aMATHEMATICAL FALLING DIAGONAL,aSQUARED LOGICAL AND,cOR
aWHITE DIAMOND WITH CENTRED DOT,aAND WITHb,aELEMENT OF OPENING UPWARDS,aLOWER RIGHT CORNER WITH DOT
aUPPER LEFTd,aLEFT OUTER JOIN,aRIGHTc,aFULLc,aLARGE UP TACK,bDOWNb,aLEFT AND RIGHT DOUBLE TURNSTILE
dTACK,bMULTIMAP,aLONG RIGHT TACK,bLEFTb,aUP TACK WITH CIRCLE ABOVE
aLOZENGE DIVIDED BY HORIZONTAL RULE,aWHITE CONCAVE-SIDED DIAMOND,dWITH LEFTWARDS TICK,eRIGHTWARDSb
bSQUARE WITH LEFTWARDSb,dRIGHTWARDSb,aMATHEMATICAL LEFT WHITE SQUARE BRACKET,bRIGHTd,bLEFT ANGLEb
bRIGHTc,bLEFT DOUBLEc,bRIGHTd,bLEFT WHITE TORTOISE SHELLb,bRIGHTe,bLEFT FLATTENED PARENTHESIS
bRIGHTc,aUPWARDS QUADRUPLE ARROW,aDOWNWARDSc,aANTICLOCKWISE GAPPED CIRCLEb,aCLOCKWISEd
aRIGHT ARROW WITH CIRCLED PLUS,aLONG LEFTWARDS ARROW,bRIGHTWARDSb,bLEFT RIGHTb,bLEFTWARDS DOUBLEb
bRIGHTWARDSc,bLEFT RIGHTc,bLEFTWARDS ARROW FROM BAR,bRIGHTWARDSd,bLEFTWARDS DOUBLEd,bRIGHTWARDSe
cSQUIGGLE ARROW,aBRAILLE PATTERN BLANK,cDOTS-1,cDOTS-2,cDOTS-12,cDOTS-3,cDOTS-13,cDOTS-23,cDOTS-123
cDOTS-4,cDOTS-14,cDOTS-24,cDOTS-124,cDOTS-34,cDOTS-134,cDOTS-234,cDOTS-1234,cDOTS-5,cDOTS-15
cDOTS-25,cDOTS-125,cDOTS-35,cDOTS-135,cDOTS-235,cDOTS-1235,cDOTS-45,cDOTS-145,cDOTS-245,cDOTS-1245
cDOTS-345,cDOTS-1345,cDOTS-2345,cDOTS-12345,cDOTS-6,cDOTS-16,cDOTS-26,cDOTS-126,cDOTS-36,cDOTS-136
cDOTS-236,cDOTS-1236,cDOTS-46,cDOTS-146,cDOTS-246,cDOTS-1246,cDOTS-346,cDOTS-1346,cDOTS-2346
cDOTS-12346,cDOTS-56,cDOTS-156,cDOTS-256,cDOTS-1256,cDOTS-356,cDOTS-1356,cDOTS-2356,cDOTS-12356
cDOTS-456,cDOTS-1456,cDOTS-2456,cDOTS-12456,cDOTS-3456,cDOTS-13456,cDOTS-23456,cDOTS-123456,cDOTS-7
cDOTS-17,cDOTS-27,cDOTS-127,cDOTS-37,cDOTS-137,cDOTS-237,cDOTS-1237,cDOTS-47,cDOTS-147,cDOTS-247
cDOTS-1247,cDOTS-347,cDOTS-1347,cDOTS-2347,cDOTS-12347,cDOTS-57,cDOTS-157,cDOTS-257,cDOTS-1257
cDOTS-357,cDOTS-1357,cDOTS-2357,cDOTS-12357,cDOTS-457,cDOTS-1457,cDOTS-2457,cDOTS-12457,cDOTS-3457
cDOTS-13457,cDOTS-23457,cDOTS-123457,cDOTS-67,cDOTS-167,cDOTS-267,cDOTS-1267,cDOTS-367,cDOTS-1367
cDOTS-2367,cDOTS-12367,cDOTS-467,cDOTS-1467,cDOTS-2467,cDOTS-12467,cDOTS-3467,cDOTS-13467
cDOTS-23467,cDOTS-123467,cDOTS-567,cDOTS-1567,cDOTS-2567,cDOTS-12567,cDOTS-3567,cDOTS-13567
cDOTS-23567,cDOTS-123567,cDOTS-4567,cDOTS-14567,cDOTS-24567,cDOTS-124567,cDOTS-34567,cDOTS-134567
cDOTS-234567,cDOTS-1234567,cDOTS-8,cDOTS-18,cDOTS-28,cDOTS-128,cDOTS-38,cDOTS-138,cDOTS-238
cDOTS-1238,cDOTS-48,cDOTS-148,cDOTS-248,cDOTS-1248,cDOTS-348,cDOTS-1348,cDOTS-2348,cDOTS-12348
cDOTS-58,cDOTS-158,cDOTS-258,cDOTS-1258,cDOTS-358,cDOTS-1358,cDOTS-2358,cDOTS-12358,cDOTS-458
cDOTS-1458,cDOTS-2458,cDOTS-12458,cDOTS-3458,cDOTS-13458,cDOTS-23458,cDOTS-123458,cDOTS-68,cDOTS-168
cDOTS-268,cDOTS-1268,cDOTS-368,cDOTS-1368,cDOTS-2368,cDOTS-12368,cDOTS-468,cDOTS-1468,cDOTS-2468
cDOTS-12468,cDOTS-3468,cDOTS-13468,cDOTS-23468,cDOTS-123468,cDOTS-568,cDOTS-1568,cDOTS-2568
cDOTS-12568,cDOTS-3568,cDOTS-13568,cDOTS-23568,cDOTS-123568,cDOTS-4568,cDOTS-14568,cDOTS-24568
cDOTS-124568,cDOTS-34568,cDOTS-134568,cDOTS-234568,cDOTS-1234568,cDOTS-78,cDOTS-178,cDOTS-278
cDOTS-1278,cDOTS-378,cDOTS-1378,cDOTS-2378,cDOTS-12378,cDOTS-478,cDOTS-1478,cDOTS-2478,cDOTS-12478
cDOTS-3478,cDOTS-13478,cDOTS-23478,cDOTS-123478,cDOTS-578,cDOTS-1578,cDOTS-2578,cDOTS-12578
cDOTS-3578,cDOTS-13578,cDOTS-23578,cDOTS-123578,cDOTS-4578,cDOTS-14578,cDOTS-24578,cDOTS-124578
cDOTS-34578,cDOTS-134578,cDOTS-234578,cDOTS-1234578,cDOTS-678,cDOTS-1678,cDOTS-2678,cDOTS-12678
cDOTS-3678,cDOTS-13678,cDOTS-23678,cDOTS-123678,cDOTS-4678,cDOTS-14678,cDOTS-24678,cDOTS-124678
cDOTS-34678,cDOTS-134678,cDOTS-234678,cDOTS-1234678,cDOTS-5678,cDOTS-15678,cDOTS-25678,cDOTS-125678
cDOTS-35678,cDOTS-135678,cDOTS-235678,cDOTS-1235678,cDOTS-45678,cDOTS-145678,cDOTS-245678
cDOTS-1245678,cDOTS-345678,cDOTS-1345678,cDOTS-2345678,cDOTS-12345678
aRIGHTWARDS TWO-HEADED ARROW WITH VERTICAL STROKE,eDOUBLEc,aLEFTWARDS DOUBLE ARROW WITHc
aRIGHTWARDSf,aLEFT RIGHTf,aRIGHTWARDS TWO-HEADED ARROW FROM BAR,aLEFTWARDS DOUBLEd,aRIGHTWARDSe
aDOWNWARDS ARROW WITH HORIZONTAL STROKE,aUPWARDSe,bTRIPLE ARROW,aDOWNWARDSc,aLEFTWARDS DOUBLE DASHb
aRIGHTWARDSd,aLEFTWARDS TRIPLEc,aRIGHTWARDSd,bTWO-HEADEDd,bARROW WITH DOTTED STEM
aUPWARDS ARROW TO BAR,aDOWNWARDSd,aRIGHTWARDS ARROW WITH TAIL WITH VERTICAL STROKE,fDOUBLEc
bTWO-HEADED ARROW WITH TAIL,fWITH VERTICAL STROKE,gDOUBLEc,aLEFTWARDS ARROW-TAIL,aRIGHTWARDSb
aLEFTWARDS DOUBLEb,aRIGHTWARDSc,aLEFTWARDS ARROW TO BLACK DIAMOND,aRIGHTWARDSe
aLEFTWARDS ARROW FROM BARd,aRIGHTWARDSg,aNORTH WEST AND SOUTH EAST ARROW,bEAST AND SOUTH WESTb
bWEST ARROW WITH HOOK,bEASTd,aSOUTHe,bWESTd,aNORTH WEST ARROW AND NORTH EAST ARROW
bEAST ARROW AND SOUTHc,aSOUTH EAST ARROW AND SOUTH WESTb,bWEST ARROW AND NORTHc
aRISING DIAGONAL CROSSING FALLING DIAGONAL,aFALLING DIAGONAL CROSSING RISINGb
aSOUTH EAST ARROW CROSSING NORTH EAST ARROW,aNORTH EAST ARROW CROSSING SOUTHc
aFALLING DIAGONAL CROSSING NORTHc,aRISING DIAGONAL CROSSING SOUTHc
aNORTH EAST ARROW CROSSING NORTH WESTb,bWEST ARROW CROSSING NORTH EASTb
aWAVE ARROW POINTING DIRECTLY RIGHT,aARROW POINTING RIGHTWARDS THEN CURVING UPWARDS,fDOWNWARDS
cDOWNWARDS THEN CURVING LEFTWARDS,fRIGHTWARDS,aRIGHT-SIDE ARC CLOCKWISE ARROW
aLEFT-SIDE ARC ANTICLOCKWISEb,aTOPd,aBOTTOMd,aTOP ARC CLOCKWISE ARROW WITH MINUS
cANTICLOCKWISE ARROW WITH PLUS,aLOWER RIGHT SEMICIRCULAR CLOCKWISE ARROW
bLEFT SEMICIRCULAR ANTICLOCKWISEb,aANTICLOCKWISE CLOSED CIRCLEb,aCLOCKWISEd
aRIGHTWARDS ARROW ABOVE SHORT LEFTWARDSb,aLEFTWARDS ARROW ABOVE SHORT RIGHTWARDSb
aSHORT RIGHTWARDS ARROW ABOVE LEFTWARDSb,aRIGHTWARDS ARROW WITH PLUS BELOW,aLEFTWARDSe
aRIGHTWARDS ARROW THROUGH X,aLEFT RIGHT ARROW THROUGH SMALL CIRCLE,aUPWARDS TWO-HEADED ARROW FROMc
aLEFT BARB UP RIGHT BARB DOWN HARPOON,cDOWN RIGHT BARB UPb,aUP BARB RIGHT DOWN BARB LEFTb
cLEFT DOWN BARB RIGHTb,aLEFT BARB UP RIGHT BARB UPb,aUP BARB RIGHT DOWN BARB RIGHTb
aLEFT BARB DOWN RIGHT BARB DOWNb,aUP BARB LEFT DOWN BARB LEFTb
aLEFTWARDS HARPOON WITH BARB UP TO BAR,aRIGHTWARDSg,aUPWARDS HARPOON WITH BARB RIGHTc,aDOWNWARDSg
aLEFTWARDS HARPOON WITH BARB DOWNc,aRIGHTWARDSg,aUPWARDS HARPOON WITH BARB LEFTc,aDOWNWARDSg
aLEFTWARDS HARPOON WITH BARB UP FROMb,aRIGHTWARDSg,aUPWARDS HARPOON WITH BARB RIGHTc,aDOWNWARDSg
aLEFTWARDS HARPOON WITH BARB DOWNc,aRIGHTWARDSg,aUPWARDS HARPOON WITH BARB LEFTc,aDOWNWARDSg
aLEFTWARDS HARPOON WITH BARB UP ABOVE LEFTWARDS HARPOON WITH BARB DOWN
aUPWARDS HARPOON WITH BARB LEFT BESIDE UPWARDS HARPOON WITH BARB RIGHT
aRIGHTWARDS HARPOON WITH BARB UP ABOVE RIGHTWARDS HARPOON WITH BARB DOWN
aDOWNWARDS HARPOON WITH BARB LEFT BESIDE DOWNWARDS HARPOON WITH BARB RIGHT
aLEFTWARDS HARPOON WITH BARB UP ABOVE RIGHTWARDS HARPOON WITH BARB UP
eDOWN ABOVE RIGHTWARDS HARPOON WITH BARB DOWN
aRIGHTWARDS HARPOON WITH BARB UP ABOVE LEFTWARDS HARPOON WITH BARB UP
eDOWN ABOVE LEFTWARDS HARPOON WITH BARB DOWN,aLEFTWARDS HARPOON WITH BARB UP ABOVE LONG DASH
eDOWN BELOWc,aRIGHTWARDS HARPOON WITH BARB UP ABOVEc,eDOWN BELOWc
aUPWARDS HARPOON WITH BARB LEFT BESIDE DOWNWARDS HARPOON WITH BARB RIGHT
aDOWNWARDS HARPOON WITH BARB LEFT BESIDE UPWARDSe,aRIGHT DOUBLE ARROW WITH ROUNDED HEAD
aEQUALS SIGN ABOVE RIGHTWARDS ARROW,aTILDE OPERATORd,aLEFTWARDS ARROW ABOVE TILDE OPERATOR
aRIGHTWARDSe,dALMOST EQUAL TO,aLESS-THAN ABOVE LEFTWARDS ARROW,aLEFTWARDS ARROW THROUGH LESS-THAN
aGREATER-THAN ABOVE RIGHTWARDS ARROW,aSUBSETd,aLEFTWARDS ARROW THROUGH SUBSET
aSUPERSET ABOVE LEFTWARDS ARROW,aLEFT FISH TAIL,aRIGHTc,aUPc,aDOWNc,aTRIPLE VERTICAL BAR DELIMITER
aZ NOTATION SPOT,cTYPE COLON,aLEFT WHITE CURLY BRACKET,aRIGHTd,aLEFT WHITE PARENTHESIS,aRIGHTc
aZ NOTATION LEFT IMAGE BRACKET,cRIGHTc,cLEFT BINDINGb,cRIGHTc,aLEFT SQUARE BRACKET WITH UNDERBAR
aRIGHTe,aLEFT SQUARE BRACKET WITH TICK IN TOP CORNER,aRIGHT SQUARE BRACKET WITH TICK IN BOTTOMb
aLEFTh,aRIGHT SQUARE BRACKET WITH TICK IN TOPb,aLEFT ANGLE BRACKET WITH DOT,aRIGHTe
aLEFT ARC LESS-THAN BRACKET,aRIGHT ARC GREATER-THANb,aDOUBLE LEFTd,bRIGHT ARC LESS-THANb
aLEFT BLACK TORTOISE SHELLb,aRIGHTe,aDOTTED FENCE,aVERTICAL ZIGZAG LINE,aMEASURED ANGLE OPENING LEFT
aRIGHT ANGLE VARIANT WITH SQUARE,aMEASURED RIGHT ANGLE WITH DOT,aANGLE WITH S INSIDE,aACUTE ANGLE
aSPHERICAL ANGLE OPENING LEFT,dUP,aTURNED ANGLE,aREVERSEDb,aANGLE WITH UNDERBAR,aREVERSEDd
aOBLIQUE ANGLE OPENING UP,dDOWN,aMEASURED ANGLE WITH OPEN ARM ENDING IN ARROW POINTING UP AND RIGHT
lLEFT,jDOWN AND RIGHT,lLEFT,jRIGHT AND UP,jLEFTc,jRIGHT AND DOWN,jLEFTc,aREVERSED EMPTY SET
aEMPTY SET WITH OVERBAR,dSMALL CIRCLE ABOVE,dRIGHT ARROWb,dLEFTc,aCIRCLE WITH HORIZONTAL BAR
aCIRCLED VERTICALb,bPARALLEL,bREVERSE SOLIDUS,bPERPENDICULAR
aCIRCLE DIVIDED BY HORIZONTAL BAR AND TOP HALF DIVIDED BY VERTICAL BAR,bWITH SUPERIMPOSED X
aCIRCLED ANTICLOCKWISE-ROTATED DIVISION SIGN,aUP ARROW THROUGH CIRCLE,aCIRCLED WHITE BULLET,bb
bLESS-THAN,bGREATER-THAN,aCIRCLE WITH SMALL CIRCLE TO THE RIGHT,cTWO HORIZONTAL STROKESd
aSQUARED RISING DIAGONAL SLASH,bFALLINGc,bASTERISK,bSMALL CIRCLE,bSQUARE,aTWO JOINED SQUARES
aTRIANGLE WITH DOT ABOVE,cUNDERBAR,aS IN TRIANGLE,aTRIANGLE WITH SERIFS AT BOTTOM
aRIGHT TRIANGLE ABOVE LEFT TRIANGLE,aLEFT TRIANGLE BESIDE VERTICAL BAR
aVERTICAL BAR BESIDE RIGHT TRIANGLE,aBOWTIE WITH LEFT HALF BLACK,cRIGHTc,aBLACK BOWTIE
aTIMES WITH LEFT HALF BLACK,cRIGHTc,aWHITE HOURGLASS,aBLACKb,aLEFT WIGGLY FENCE,aRIGHTc
aLEFT DOUBLEc,aRIGHTd,aINCOMPLETE INFINITY,aTIE OVERb,aINFINITY NEGATED WITH VERTICAL BAR
aDOUBLE-ENDED MULTIMAP,aSQUARE WITH CONTOURED OUTLINE,aINCREASES AS,aSHUFFLE PRODUCT
aEQUALS SIGN AND SLANTED PARALLEL,fWITH TILDE ABOVE,aIDENTICAL TO AND SLANTED PARALLEL,aGLEICH STARK
aTHERMODYNAMIC,aDOWN-POINTING TRIANGLE WITH LEFT HALF BLACK,dRIGHTc,aBLACK DIAMOND WITH DOWN ARROW
bLOZENGE,aWHITE CIRCLE WITH DOWN ARROW,aBLACKe,aERROR-BARRED WHITE SQUARE,bBLACKb,bWHITE DIAMOND
bBLACKb,bWHITE CIRCLE,bBLACKb,aRULE-DELAYED,aREVERSE SOLIDUS OPERATOR,aSOLIDUS WITH OVERBAR
aREVERSE SOLIDUS WITH HORIZONTAL STROKE,aBIG SOLIDUS,bREVERSEb,aDOUBLE PLUS,aTRIPLEb
aLEFT-POINTING CURVED ANGLE BRACKET,aRIGHT-POINTINGd,aTINY,aMINY,aN-ARY CIRCLED DOT OPERATOR,cPLUSb
cTIMESb,bUNION OPERATOR WITH DOT,ePLUS,bSQUARE INTERSECTION OPERATOR,cUNIONb,aTWO LOGICAL ANDb,cORb
aN-ARY TIMESb,aMODULO TWO SUM,aSUMMATION WITH INTEGRAL,aQUADRUPLE INTEGRAL OPERATOR
aFINITE PART INTEGRAL,aINTEGRAL WITH DOUBLE STROKE,bAVERAGE WITH SLASH,aCIRCULATION FUNCTION
aANTICLOCKWISE INTEGRATION,aLINE INTEGRATION WITH RECTANGULAR PATH AROUND POLE,dSEMICIRCULARd
cNOT INCLUDING THEb,aINTEGRAL AROUND A POINT OPERATOR,aQUATERNION INTEGRALb
aINTEGRAL WITH LEFTWARDS ARROW WITH HOOK,cTIMES SIGN,cINTERSECTION,cUNION,cOVERBAR,cUNDERBAR,aJOIN
aLARGE LEFT TRIANGLE OPERATOR,aZ NOTATION SCHEMA COMPOSITION,dPIPING,dPROJECTION
aPLUS SIGN WITH SMALL CIRCLE ABOVE,dCIRCUMFLEX ACCENTb,dTILDEb,dDOT BELOW,dTILDEb,dSUBSCRIPT TWO
dBLACK TRIANGLE,aMINUS SIGN WITH COMMA ABOVE,dDOT BELOW,dFALLING DOTS,dRISINGb
aPLUS SIGN IN LEFT HALF CIRCLE,dRIGHTc,aVECTOR OR CROSS PRODUCT,aMULTIPLICATION SIGN WITH DOT ABOVE
dUNDERBAR,aSEMIDIRECT PRODUCT WITH BOTTOM CLOSED,aSMASH PRODUCT
aMULTIPLICATION SIGN IN LEFT HALF CIRCLE,dRIGHTc,aCIRCLED MULTIPLICATION SIGN WITH CIRCUMFLEX ACCENT
aMULTIPLICATION SIGN IN DOUBLE CIRCLE,aCIRCLED DIVISION SIGN,aPLUS SIGN IN TRIANGLE,aMINUSd
aMULTIPLICATIONd,aINTERIOR PRODUCT,aRIGHTHANDc,aZ NOTATION RELATIONAL COMPOSITION
aAMALGAMATION OR COPRODUCT,aINTERSECTION WITH DOT,aUNION WITH MINUS SIGN,cOVERBAR,aINTERSECTIONc
cLOGICAL AND,aUNION WITH LOGICAL OR,bABOVE INTERSECTION,aINTERSECTION ABOVE UNION
aUNION ABOVE BAR ABOVE INTERSECTION,aINTERSECTION ABOVE BAR ABOVE UNION
aUNION BESIDE AND JOINED WITHb,aINTERSECTION BESIDE AND JOINED WITH INTERSECTION
aCLOSED UNION WITH SERIFS,bINTERSECTIONc,aDOUBLE SQUARE INTERSECTION,cUNION
aCLOSED UNION WITH SERIFS AND SMASH PRODUCT,aLOGICAL AND WITH DOT ABOVE,bORd,aDOUBLE LOGICAL AND,cOR
aTWO INTERSECTING LOGICAL AND,dOR,aSLOPING LARGEb,cAND,aLOGICAL OR OVERLAPPING LOGICALb
bAND WITH MIDDLE STEM,bORd,bAND WITH HORIZONTAL DASH,bORd,bAND WITH DOUBLE OVERBAR,dUNDERBAR
dDOUBLEb,aSMALL VEE WITHb,aLOGICAL OR WITH DOUBLE OVERBAR,eUNDERBAR
aZ NOTATION DOMAIN ANTIRESTRICTION,cRANGEb,aEQUALS SIGN WITH DOT BELOW,aIDENTICAL WITH DOT ABOVE
aTRIPLE HORIZONTAL BAR WITH DOUBLE VERTICAL STROKE,eTRIPLEc,aTILDE OPERATOR WITH DOT ABOVE
dRISING DOTS,aSIMILAR MINUS SIMILAR,aCONGRUENT WITH DOT ABOVE,aEQUALS WITH ASTERISK
aALMOST EQUAL TO WITH CIRCUMFLEX ACCENT,aAPPROXIMATELY EQUAL OR EQUAL TO
aEQUALS SIGN ABOVE PLUS SIGN,aPLUS SIGN ABOVE EQUALSb,aEQUALS SIGN ABOVE TILDE OPERATOR
aDOUBLE COLON EQUAL,aTWO CONSECUTIVE EQUALS SIGNS,aTHREEd
aEQUALS SIGN WITH TWO DOTS ABOVE AND TWO DOTS BELOW,aEQUIVALENT WITH FOUR DOTS ABOVE
aLESS-THAN WITH CIRCLE INSIDE,aGREATER-THANd,aLESS-THAN WITH QUESTION MARK ABOVE,aGREATER-THANe
aLESS-THAN OR SLANTED EQUAL TO,aGREATER-THANe,aLESS-THAN OR SLANTED EQUAL TO WITH DOT INSIDE
aGREATER-THANh,aLESS-THAN OR SLANTED EQUAL TO WITH DOT ABOVE,aGREATER-THANh
aLESS-THAN OR SLANTED EQUAL TO WITH DOT ABOVE RIGHT
aGREATER-THAN OR SLANTED EQUAL TO WITH DOT ABOVE LEFT,aLESS-THAN OR APPROXIMATE,aGREATER-THANc
aLESS-THAN AND SINGLE-LINE NOT EQUAL TO,aGREATER-THANf,aLESS-THAN AND NOT APPROXIMATE,aGREATER-THANd
aLESS-THAN ABOVE DOUBLE-LINE EQUAL ABOVE GREATER-THAN
aGREATER-THAN ABOVE DOUBLE-LINE EQUAL ABOVE LESS-THAN,aLESS-THAN ABOVE SIMILAR OR EQUAL
aGREATER-THANe,aLESS-THAN ABOVE SIMILAR ABOVE GREATER-THAN
aGREATER-THAN ABOVE SIMILAR ABOVE LESS-THAN,aLESS-THAN ABOVE GREATER-THAN ABOVE DOUBLE-LINE EQUAL
aGREATER-THAN ABOVE LESS-THANd,aLESS-THAN ABOVE SLANTED EQUAL ABOVE GREATER-THAN ABOVE SLANTEDb
aGREATER-THAN ABOVE SLANTED EQUAL ABOVE LESS-THANd,aSLANTED EQUAL TO OR LESS-THAN,eGREATER-THAN
eLESS-THAN WITH DOT INSIDE,eGREATER-THANd,aDOUBLE-LINE EQUAL TO OR LESS-THAN,eGREATER-THAN
bSLANTED EQUAL TO OR LESS-THAN,fGREATER-THAN,aSIMILAR OR LESS-THAN,cGREATER-THAN
bABOVE LESS-THAN ABOVE EQUALS SIGN,cGREATER-THANd,aDOUBLE NESTED LESS-THAN,cGREATER-THAN
cLESS-THAN WITH UNDERBAR,aGREATER-THAN OVERLAPPING LESS-THAN,bBESIDEb,aLESS-THAN CLOSED BY CURVE
aGREATER-THANd,aLESS-THAN CLOSED BY CURVE ABOVE SLANTED EQUAL,aGREATER-THANg,aSMALLER THAN,aLARGERb
aSMALLER THAN OR EQUAL TO,aLARGERe,aEQUALS SIGN WITH BUMPY ABOVE
aPRECEDES ABOVE SINGLE-LINE EQUALS SIGN,aSUCCEEDSe,aPRECEDES ABOVE SINGLE-LINE NOT EQUAL TO
aSUCCEEDSf,aPRECEDES ABOVE EQUALS SIGN,aSUCCEEDSd,aPRECEDES ABOVE NOT EQUAL TO,aSUCCEEDSe
aPRECEDES ABOVE ALMOSTc,aSUCCEEDSe,aPRECEDES ABOVE NOTd,aSUCCEEDSf,aDOUBLE PRECEDES,bSUCCEEDS
aSUBSET WITH DOT,aSUPERSETc,aSUBSET WITH PLUS SIGN BELOW,aSUPERSETe,aSUBSET WITH MULTIPLICATIONc
aSUPERSETe,aSUBSET OF OR EQUAL TO WITH DOT ABOVE,aSUPERSETh,aSUBSET OF ABOVE EQUALS SIGN,aSUPERSETe
aSUBSET OF ABOVE TILDE OPERATOR,aSUPERSETe,aSUBSET OF ABOVE ALMOST EQUAL TO,aSUPERSETf
aSUBSET OF ABOVE NOTc,aSUPERSETf,aSQUARE LEFT OPEN BOX OPERATOR,bRIGHTd,aCLOSED SUBSET,bSUPERSET
bSUBSET OR EQUAL TO,bSUPERSETd,aSUBSET ABOVE SUPERSET,aSUPERSET ABOVE SUBSET,aSUBSETc
aSUPERSET ABOVE SUPERSET,bBESIDE SUBSET,cAND JOINED BY DASH WITHb,aELEMENT OF OPENING DOWNWARDS
aPITCHFORK WITH TEE TOP,aTRANSVERSAL INTERSECTION,aFORKING,aNONFORKING,aSHORT LEFT TACK,bDOWNb,bUPb
aPERPENDICULAR WITH S,aVERTICAL BAR TRIPLE RIGHT TURNSTILE,aDOUBLE VERTICAL BAR LEFTb
aVERTICAL BAR DOUBLEc,aDOUBLEf,aLONG DASH FROM LEFT MEMBER OF DOUBLE VERTICAL
aSHORT DOWN TACK WITH OVERBAR,bUP TACK WITH UNDERBAR,dABOVE SHORT DOWN TACK,aDOUBLEc,bUPb
bSTROKE NOT SIGN,aREVERSEDe,aDOES NOT DIVIDE WITH REVERSED NEGATION SLASH
aVERTICAL LINE WITH CIRCLE ABOVE,eBELOW,aDOWN TACKd,aPARALLEL WITH HORIZONTAL STROKE,cTILDE OPERATOR
aTRIPLE VERTICAL BAR BINARY RELATION,dWITH HORIZONTAL STROKE,bCOLON OPERATOR,bNESTED LESS-THAN
cGREATER-THAN,aDOUBLE-LINE SLANTED LESS-THAN OR EQUAL TO,cGREATER-THANd
aTRIPLE SOLIDUS BINARY RELATION,aLARGE TRIPLE VERTICAL BAR OPERATOR,aDOUBLE SOLIDUSb
aWHITE VERTICAL BAR,aN-ARYd,aNORTH EAST WHITE ARROW,bWESTc,aSOUTH EASTc,bWESTc,aLEFT RIGHTc
aLEFTWARDS BLACKb,aUPWARDSc,aDOWNWARDSc,aNORTH EASTc,bWESTc,aSOUTH EASTc,bWESTc,aLEFT RIGHTc
aUP DOWNc,aRIGHTWARDS ARROW WITH TIP DOWNWARDS,eUPWARDS,aLEFTWARDS ARROW WITH TIP DOWNWARDS,eUPWARDS
aSQUARE WITH TOP HALF BLACK,cBOTTOMc,cUPPER RIGHT DIAGONALc,cLOWER LEFTd,aDIAMOND WITH LEFTc,cRIGHTc
cTOPc,cBOTTOMc,aDOTTED SQUARE,aBLACK LARGEb,aWHITEc,aBLACK VERY SMALLb,aWHITEd,aBLACK PENTAGON
aWHITEb,bHEXAGON,aBLACKb,aHORIZONTALc,aBLACK LARGE CIRCLE,bMEDIUM DIAMOND,aWHITEc
aBLACK MEDIUM LOZENGE,aWHITEc,aBLACK SMALL DIAMOND,cLOZENGE,aWHITEc,aBLACK HORIZONTAL ELLIPSE
aWHITEc,aBLACK VERTICALb,aWHITEc,aLEFT ARROW WITH SMALL CIRCLE,aTHREE LEFTWARDS ARROWS
aLEFT ARROW WITH CIRCLED PLUS,aLONG LEFTWARDS SQUIGGLE ARROW
aLEFTWARDS TWO-HEADED ARROW WITH VERTICAL STROKE,eDOUBLEc,dFROM BAR,cTRIPLE DASH ARROW
bARROW WITH DOTTED STEM,dTAIL WITH VERTICAL STROKE,fDOUBLEc,bTWO-HEADED ARROW WITH TAIL
fWITH VERTICAL STROKE,gDOUBLEc,bARROW THROUGH X,aWAVE ARROW POINTING DIRECTLY LEFT
aEQUALS SIGN ABOVE LEFTWARDS ARROW,aREVERSE TILDE OPERATORd
aLEFTWARDS ARROW ABOVE REVERSE ALMOST EQUAL TO,aRIGHTWARDS ARROW THROUGH GREATER-THAN,dSUPERSET
aLEFTWARDS QUADRUPLE ARROW,aRIGHTWARDSc,aREVERSE TILDE OPERATOR ABOVE RIGHTWARDSb
aRIGHTWARDS ARROW ABOVE REVERSE ALMOST EQUAL TO,aTILDE OPERATOR ABOVE LEFTWARDS ARROW
aLEFTWARDS ARROW ABOVE ALMOST EQUAL TO,dREVERSE TILDE OPERATOR,aRIGHTWARDSf
aDOWNWARDS TRIANGLE-HEADED ZIGZAG ARROW,aSHORT SLANTED NORTHb,bBACKSLANTED SOUTHb,aWHITE MEDIUM STAR
aBLACK SMALLb,aWHITEc,aBLACK RIGHT-POINTING PENTAGON,aWHITEc,aHEAVY LARGE CIRCLE
bOVAL WITH OVAL INSIDE,bCIRCLE WITH CIRCLEb,c,bCIRCLED SALTIRE,aSLANTED NORTH ARROW WITH HOOKED HEAD
aBACKSLANTED SOUTH ARROW WITH HOOKED TAIL,aSLANTED NORTH ARROW WITH HORIZONTALb,aBACKSLANTED SOUTHe
aBENT ARROW POINTING DOWNWARDS THEN NORTH EAST,aSHORTh,aLEFTWARDS TRIANGLE-HEADED ARROW,aUPWARDSc
aRIGHTWARDSc,aDOWNWARDSc,aLEFT RIGHTc,aUP DOWNc,aNORTH WESTc,bEASTc,aSOUTHd,bWESTc
aLEFTWARDS TRIANGLE-HEADED DASHEDb,aUPWARDSd,aRIGHTWARDSd,aDOWNWARDSd
aCLOCKWISE TRIANGLE-HEADED OPEN CIRCLEb,aANTICLOCKWISEe,aLEFTWARDS TRIANGLE-HEADED ARROW TO BAR
aUPWARDSe,aRIGHTWARDSe,aDOWNWARDSe,2,aNORTH WESTe,bEASTe,aSOUTHf,bWESTe
aLEFTWARDS TRIANGLE-HEADED ARROW WITH DOUBLE HORIZONTAL STROKE|fVERTICALb
aUPWARDS TRIANGLE-HEADED ARROW WITH DOUBLE HORIZONTALb,aRIGHTWARDSg|fVERTICALb
aDOWNWARDS TRIANGLE-HEADED ARROW WITH DOUBLE HORIZONTALb,aHORIZONTAL TAB KEY,aVERTICALc
aLEFTWARDS TRIANGLE-HEADED ARROW OVER RIGHTWARDS TRIANGLE-HEADED ARROW
aUPWARDS TRIANGLE-HEADED ARROW LEFTWARDS OF DOWNWARDSc
aRIGHTWARDS TRIANGLE-HEADED ARROW OVER LEFTWARDSc
aDOWNWARDS TRIANGLE-HEADED ARROW LEFTWARDS OF UPWARDSc,aLEFTWARDS TRIANGLE-HEADED PAIRED ARROWS
aUPWARDSd,aRIGHTWARDSd,aDOWNWARDSd,aLEFTWARDS BLACK CIRCLED WHITE ARROW,aUPWARDSe,aRIGHTWARDSe
aDOWNWARDSe,aANTICLOCKWISE TRIANGLE-HEADED RIGHT U-SHAPEDb,cBOTTOMc,cLEFTc,cTOPc,aRETURN LEFT,bRIGHT
aNEWLINE LEFT,bRIGHT,aFOUR CORNER ARROWS CIRCLING ANTICLOCKWISE,aRIGHTWARDS BLACK ARROW,1
aSYMBOL FOR TYPE A ELECTRONICS,aTHREE-D TOP-LIGHTED LEFTWARDS EQUILATERAL ARROWHEAD
bRIGHT-LIGHTED UPWARDSc,bTOP-LIGHTED RIGHTWARDSc,bLEFT-LIGHTED DOWNWARDSc,aBLACK LEFTWARDSc
bUPWARDSc,bRIGHTWARDSc,bDOWNWARDSc,aDOWNWARDS TRIANGLE-HEADED ARROW WITH LONG TIP LEFTWARDS
gRIGHTWARDS,aUPWARDS TRIANGLE-HEADED ARROW WITH LONG TIP LEFTWARDS,gRIGHTWARDS
aLEFTWARDS TRIANGLE-HEADED ARROW WITH LONG TIP UPWARDS,aRIGHTWARDSg
aLEFTWARDS TRIANGLE-HEADED ARROW WITH LONG TIP DOWNWARDS,aRIGHTWARDSg
aBLACK CURVED DOWNWARDS AND LEFTWARDS ARROW,eRIGHTWARDSb,cUPWARDS AND LEFTWARDSb,eRIGHTWARDSb
cLEFTWARDS AND UPWARDSb,cRIGHTWARDSd,cLEFTWARDS AND DOWNWARDSb,cRIGHTWARDSd,aRIBBON ARROW DOWN LEFT
dRIGHT,cUP LEFT,dRIGHT,cLEFT UP,cRIGHTb,cLEFT DOWN,cRIGHTb
aUPWARDS WHITE ARROW FROM BAR WITH HORIZONTAL BAR,aUP ARROWHEAD IN A RECTANGLE BOX
aOVERLAPPING WHITE SQUARES,cAND BLACKb,bc,aBALLOT BOX WITH LIGHT X,aCIRCLEDb,bBOLDb
aBLACK SQUARE CENTRED,bDIAMONDb,aTURNED BLACK PENTAGON,aHORIZONTAL BLACK OCTAGON,ac
bMEDIUM UP-POINTING TRIANGLE CENTRED,cDOWN-POINTINGc,cLEFT-POINTINGc,cRIGHT-POINTINGc
aNEPTUNE FORM TWO,aTOP HALF BLACK CIRCLE,aBOTTOMd,aLIGHT FOUR POINTED BLACK CUSP,aROTATEDf
aWHITE FOUR POINTEDb,aROTATEDe,aSQUARE POSITION INDICATOR,aUNCERTAINTY SIGN,aGROUP MARK
aPLUTO FORM TWO,cTHREE,cFOUR,cFIVE,aTRANSPLUTO,aPROSERPINA,aASTRAEA,aHYGIEA,aPHOLUS,aNESSUS
aWHITE MOON SELENA,aBLACK DIAMOND ON CROSS,aTRUE LIGHT MOON ARTA,aCUPIDO,aHADES,aZEUS,aKRONOS
aAPOLLON,aADMETOS,aVULCANUS,aPOSEIDON,aLEFT HALF BLACK STAR,aRIGHTd,aSTAR WITH LEFT HALF BLACK
cRIGHTc,aLEFTWARDS TWO-HEADED ARROW WITH TRIANGLE ARROWHEADS,aUPWARDSf,aRIGHTWARDSf,aDOWNWARDSf
aERIS FORM ONE,cTWO,aSEDNA,aRUSSIAN ASTROLOGICAL SYMBOL VIGINTILE,dNOVILE,dQUINTILE,dBINOVILE
dSENTAGON,dTREDECILE,aEQUALS SIGN WITH INFINITY BELOW,aUNITED SYMBOL,aSEPARATEDb,aDOUBLEDb,aPASSEDb
aREVERSED RIGHT ANGLE,aHELLSCHREIBER PAUSE SYMBOL,aGLAGOLITIC CAPITAL LETTER AZU,dBUKY,dVEDE
dGLAGOLI,dDOBRO,dYESTU,dZHIVETE,dDZELO,dZEMLJA,dIZHE,dINITIALb,dI,dDJERVI,dKAKO,dLJUDIJE,dMYSLITE
dNASHI,dONU,dPOKOJI,dRITSI,dSLOVO,dTVRIDO,dUKU,dFRITU,dHERU,dOTU,dPE,dSHTA,dTSI,dCHRIVI,dSHA,dYERU
dYERI,dYATI,dSPIDERY HA,dYU,dSMALL YUS,fWITH TAIL,dYO,dIOTATED SMALL YUS,dBIGb,dIOTATEDc,dFITA
dIZHITSA,dSHTAPIC,dTROKUTASTI A,dLATINATE MYSLITE,dCAUDATE CHRIVI,bSMALL LETTER AZU,dBUKY,dVEDE
dGLAGOLI,dDOBRO,dYESTU,dZHIVETE,dDZELO,dZEMLJA,dIZHE,dINITIALb,dI,dDJERVI,dKAKO,dLJUDIJE,dMYSLITE
dNASHI,dONU,dPOKOJI,dRITSI,dSLOVO,dTVRIDO,dUKU,dFRITU,dHERU,dOTU,dPE,dSHTA,dTSI,dCHRIVI,dSHA,dYERU
dYERI,dYATI,dSPIDERY HA,dYU,dSMALL YUS,fWITH TAIL,dYO,dIOTATED SMALL YUS,dBIGb,dIOTATEDc,dFITA
dIZHITSA,dSHTAPIC,dTROKUTASTI A,dLATINATE MYSLITE,dCAUDATE CHRIVI
aLATIN CAPITAL LETTER L WITH DOUBLE BAR,bSMALLf,bCAPITAL LETTER L WITH MIDDLE TILDE,dP WITH STROKE
dR WITH TAIL,bSMALL LETTER A WITH STROKE,dT WITH DIAGONALb,bCAPITAL LETTER H WITH DESCENDER,bSMALLe
bCAPITAL LETTER Kc,bSMALLe,bCAPITAL LETTER Zc,bSMALLe,bCAPITAL LETTER ALPHA,dM WITH HOOK,dTURNED A
eALPHA,bSMALL LETTER V WITH RIGHT HOOK,bCAPITAL LETTER W WITHb,bSMALLe,dV WITH CURL
bCAPITAL LETTER HALF H,bSMALLd,dTAILLESS PHI,dE WITH NOTCH,dTURNED R WITH TAIL
dO WITH LOW RING INSIDE,bLETTER SMALL CAPITAL TURNED E,bSUBSCRIPT SMALL LETTER J
aMODIFIER LETTER CAPITAL V,aLATIN CAPITAL LETTER S WITH SWASH TAIL,dZd,aCOPTIC CAPITAL LETTER ALFA
bSMALLc,bCAPITAL LETTER VIDA,bSMALLc,bCAPITAL LETTER GAMMA,bSMALLc,bCAPITAL LETTER DALDA,bSMALLc
bCAPITAL LETTER EIE,bSMALLc,bCAPITAL LETTER SOU,bSMALLc,bCAPITAL LETTER ZATA,bSMALLc
bCAPITAL LETTER HATE,bSMALLc,bCAPITAL LETTER THETHE,bSMALLc,bCAPITAL LETTER IAUDA,bSMALLc
bCAPITAL LETTER KAPA,bSMALLc,bCAPITAL LETTER LAULA,bSMALLc,bCAPITAL LETTER MI,bSMALLc
bCAPITAL LETTER NI,bSMALLc,bCAPITAL LETTER KSI,bSMALLc,bCAPITAL LETTER O,bSMALLc,bCAPITAL LETTER PI
bSMALLc,bCAPITAL LETTER RO,bSMALLc,bCAPITAL LETTER SIMA,bSMALLc,bCAPITAL LETTER TAU,bSMALLc
bCAPITAL LETTER UA,bSMALLc,bCAPITAL LETTER FI,bSMALLc,bCAPITAL LETTER KHI,bSMALLc
bCAPITAL LETTER PSI,bSMALLc,bCAPITAL LETTER OOU,bSMALLc,bCAPITAL LETTER DIALECT-P ALEF,bSMALLd
bCAPITAL LETTER OLD COPTIC AIN,bSMALLe,bCAPITAL LETTER CRYPTOGRAMMIC EIE,bSMALLd
bCAPITAL LETTER DIALECT-P KAPA,bSMALLd,bCAPITAL LETTER DIALECT-P NI,bSMALLd
bCAPITAL LETTER CRYPTOGRAMMICb,bSMALLd,bCAPITAL LETTER OLD COPTIC OOU,bSMALLe,bCAPITAL LETTER SAMPI
bSMALLc,bCAPITAL LETTER CROSSED SHEI,bSMALLd,bCAPITAL LETTER OLD COPTICb,bSMALLe
bCAPITAL LETTER OLD COPTIC ESH,bSMALLe,bCAPITAL LETTER AKHMIMIC KHEI,bSMALLd
bCAPITAL LETTER DIALECT-P HORI,bSMALLd,bCAPITAL LETTER OLD COPTICb,bSMALLe
bCAPITAL LETTER OLD COPTIC HA,bSMALLe,bCAPITAL LETTER L-SHAPEDb,bSMALLd
bCAPITAL LETTER OLD COPTIC HEI,bSMALLe,bCAPITAL LETTER OLD COPTIC HAT,bSMALLe
bCAPITAL LETTER OLD COPTIC GANGIA,bSMALLe,bCAPITAL LETTER OLD COPTIC DJA,bSMALLe
bCAPITAL LETTER OLD COPTIC SHIMA,bSMALLe,bCAPITAL LETTER OLD NUBIANb,bSMALLe
bCAPITAL LETTER OLD NUBIAN NGI,bSMALLe,bCAPITAL LETTER OLD NUBIAN NYI,bSMALLe
bCAPITAL LETTER OLD NUBIAN WAU,bSMALLe,bSYMBOL KAI,cMI RO,cPIb,cSTAUROS,cTAU RO,cKHIb,cSHIMA SIMA
bCAPITAL LETTER CRYPTOGRAMMIC SHEI,bSMALLd,bCAPITAL LETTER CRYPTOGRAMMIC GANGIA,bSMALLd
bCOMBINING NI ABOVE,cSPIRITUS ASPER,dLENIS,bCAPITAL LETTER BOHAIRIC KHEI,bSMALLd,5
bOLD NUBIAN FULL STOP,dDIRECT QUESTION MARK,dINDIRECTc,dVERSE DIVIDER,bFRACTION ONE HALF,bFULL STOP
bMORPHOLOGICAL DIVIDER,aGEORGIAN SMALL LETTER AN,dBAN,dGAN,dDON,dEN,dVIN,dZEN,dTAN,dIN,dKAN,dLAS
dMAN,dNAR,dON,dPAR,dZHAR,dRAE,dSAN,dTAR,dUN,dPHAR,dKHAR,dGHAN,dQAR,dSHIN,dCHIN,dCAN,dJIL,dCIL,dCHAR
dXAN,dJHAN,dHAE,dHE,dHIE,dWE,dHAR,dHOE,1,dYN,5,dAEN,2,aTIFINAGH LETTER YA,cYAB,cYABH,cYAG,cYAGHH
cBERBER ACADEMY YAJ,cb,cYAD,cYADH,cYADD,cYADDH,cYEY,cYAF,cYAK,cTUAREGb,cYAKHH,cYAH,cBERBER ACADEMYb
cTUAREGb,cYAHH,cYAA,cYAKH,cTUAREGb,cYAQ,cTUAREGb,cYI,cYAZH,cAHAGGARb,cTUAREGb,cYAL,cYAM,cYAN
cTUAREG YAGN,dYANG,cYAP,cYU,cYAR,cYARR,cYAGH,cTUAREGb,cAYERb,cYAS,cYASS,cYASH,cYAT,cYATH,cYACH,cYATT
cYAV,cYAW,cYAY,cYAZ,cTAWELLEMETb,cYAZZ,cYE,cYO,7,bMODIFIER LETTER LABIALIZATION MARK,bSEPARATORb,14
bCONSONANT JOINER,aETHIOPIC SYLLABLE LOA,cMOA,cROA,cSOA,cSHOA,cBOA,cTOA,cCOA,cNOA,cNYOA,cGLOTTAL OA
cZOA,cDOA,cDDOA,cJOA,cTHOA,cCHOA,cPHOA,cPOA,cGGWA,cGGWI,cGGWEE,cGGWE,9,cSSA,cSSU,cSSI,cSSAA,cSSEE
cSSE,cSSO,1,cCCA,cCCU,cCCI,cCCAA,cCCEE,cCCE,cCCO,1,cZZA,cZZU,cZZI,cZZAA,cZZEE,cZZE,cZZO,1,cCCHA
cCCHU,cCCHI,cCCHAA,cCCHEE,cCCHE,cCCHO,1,cQYA,cQYU,cQYI,cQYAA,cQYEE,cQYE,cQYO,1,cKYA,cKYU,cKYI,cKYAA
cKYEE,cKYE,cKYO,1,cXYA,cXYU,cXYI,cXYAA,cXYEE,cXYE,cXYO,1,cGYA,cGYU,cGYI,cGYAA,cGYEE,cGYE,cGYO,1
aCOMBINING CYRILLIC LETTER BE,dVE,dGHE,dDE,dZHE,dZE,dKA,dEL,dEM,dEN,dO,dPE,dER,dES,dTE,dHA,dTSE,dCHE
dSHA,dSHCHA,dFITA,dES-TE,dA,dIE,dDJERV,dMONOGRAPH UK,dYAT,dYU,dIOTIFIED A,dLITTLE YUS,dBIGb
dIOTIFIEDc,aRIGHT ANGLE SUBSTITUTION MARKER,cDOTTEDc,aLEFT SUBSTITUTION BRACKET,aRIGHTc
aLEFT DOTTEDc,aRIGHTd,aRAISED INTERPOLATION MARKER,bDOTTEDc,aDOTTED TRANSPOSITIONb
aLEFT TRANSPOSITION BRACKET,aRIGHTc,aRAISED SQUARE,aLEFT RAISED OMISSION BRACKET,aRIGHTd
aEDITORIAL CORONIS,aPARAGRAPHOS,aFORKEDb,aREVERSEDc,aHYPODIASTOLE,aDOTTED OBELOS,aDOWNWARDS ANCORA
aUPWARDSb,aDOTTED RIGHT-POINTING ANGLE,aDOUBLE OBLIQUE HYPHEN,aINVERTED INTERROBANG,aPALM BRANCH
aHYPHEN WITH DIAERESIS,aTILDE WITH RING ABOVE,aLEFT LOW PARAPHRASE BRACKET,aRIGHTd
aTILDE WITH DOT ABOVE,dBELOW,aLEFT VERTICAL BAR WITH QUILL,aRIGHTe,aTOP LEFT HALF BRACKET,bRIGHTc
aBOTTOM LEFTc,bRIGHTc,aLEFT SIDEWAYS Ub,aRIGHTd,aLEFT DOUBLE PARENTHESIS,aRIGHTc
aTWO DOTS OVER ONE DOT PUNCTUATION,aONE DOT OVER TWO DOTSb,aSQUARED FOUR DOTb,aFIVE DOT MARK
aREVERSED QUESTIONb,aVERTICAL TILDE,aRING POINT,aWORD SEPARATOR MIDDLE DOT,aTURNED COMMA,aRAISED DOT
bCOMMA,aTURNED SEMICOLON,aDAGGER WITH LEFT GUARD,cRIGHTb,aTURNED DAGGER,aTOP HALF SECTION SIGN
aTWO-EM DASH,aTHREE-EMb,aSTENOGRAPHIC FULL STOP,aVERTICAL SIX DOTS,aWIGGLY VERTICAL LINE,aCAPITULUM
aDOUBLE HYPHEN,aREVERSED COMMA,aDOUBLE LOW-REVERSED-9 QUOTATION MARK,aDASH WITH LEFT UPTURN
aDOUBLE SUSPENSION MARK,aINVERTED LOW KAVYKA,dWITH KAVYKA ABOVE,aLOW KAVYKA,cWITH DOT
aDOUBLE STACKED COMMA,aDOTTED SOLIDUS,aTRIPLE DAGGER,aMEDIEVAL COMMA,aPARAGRAPHUS MARK
aPUNCTUS ELEVATUSb,aCORNISH VERSE DIVIDER,aCROSS PATTY WITH RIGHT CROSSBAR,dLEFTb
aTIRONIAN SIGN CAPITAL ET,aMEDIEVAL EXCLAMATION MARK,bQUESTIONb,aLEFT SQUARE BRACKET WITH STROKE
aRIGHTe,aLEFT SQUARE BRACKET WITH DOUBLEb,aRIGHTf,aTOP HALF LEFT PARENTHESIS,cRIGHTb
aBOTTOM HALF LEFTb,cRIGHTb,aOBLIQUE HYPHEN,34,aCJK RADICAL REPEAT,cCLIFF,cSECOND ONE,dTWO,dTHREE
cPERSON,cBOX,cTABLE,cKNIFE ONE,dTWO,cDIVINATION,cSEAL,cSMALL ONE,dTWO,cLAME ONE,dTWO,dTHREE,dFOUR
cSNAKE,cTHREAD,cSNOUT ONE,dTWO,cHEART ONE,dTWO,cHAND,cRAP,1,cCHOKE,cSUN,cMOON,cDEATH,cMOTHER
cCIVILIAN,cWATER ONE,dTWO,cFIRE,cPAW ONE,dTWO,cSIMPLIFIED HALF TREE TRUNK,cCOW,cDOG,cJADE
cBOLT OF CLOTH,cEYE,cSPIRIT ONE,dTWO,cBAMBOO,cSILK,cC-SIMPLIFIEDb,cNET ONE,dTWO,dTHREE,dFOUR,cMESH
cSHEEP,cRAM,cEWE,cOLD,cBRUSH ONE,dTWO,cMEAT,cMORTAR,cGRASS ONE,dTWO,dTHREE,cTIGER,cCLOTHES,cWEST ONE
dTWO,cC-SIMPLIFIED SEE,cSIMPLIFIED HORN,cb,cC-SIMPLIFIED SPEECH,dSHELL,cFOOT,cC-SIMPLIFIED CART
cSIMPLIFIED WALK,cWALK ONE,dTWO,cCITY,cC-SIMPLIFIED GOLD,cLONG ONE,dTWO,cC-SIMPLIFIED LONG,dGATE
cMOUND ONE,dTWO,cRAIN,cBLUE,cC-SIMPLIFIED TANNED LEATHER,dLEAF,dWIND,dFLY,cEAT ONE,dTWO,dTHREE
cC-SIMPLIFIED EAT,cHEAD,cC-SIMPLIFIED HORSE,cBONE,cGHOST,cC-SIMPLIFIED FISH,dBIRD,dSALT
cSIMPLIFIED WHEAT,dYELLOW,cC-SIMPLIFIED FROG,cJ-SIMPLIFIED EVEN,cC-SIMPLIFIEDb,cJ-SIMPLIFIED TOOTH
cC-SIMPLIFIEDb,cJ-SIMPLIFIED DRAGON,cC-SIMPLIFIEDb,cTURTLE,cJ-SIMPLIFIEDb,cC-SIMPLIFIEDb,12
aKANGXI RADICAL ONE,cLINE,cDOT,cSLASH,cSECOND,cHOOK,cTWO,cLID,cMAN,cLEGS,cENTER,cEIGHT,cDOWN BOX
cCOVER,cICE,cTABLE,cOPEN BOX,cKNIFE,cPOWER,cWRAP,cSPOON,cRIGHT OPEN BOX,cHIDING ENCLOSURE,cTEN
cDIVINATION,cSEAL,cCLIFF,cPRIVATE,cAGAIN,cMOUTH,cENCLOSURE,cEARTH,cSCHOLAR,cGO,dSLOWLY,cEVENING,cBIG
cWOMAN,cCHILD,cROOF,cINCH,cSMALL,cLAME,cCORPSE,cSPROUT,cMOUNTAIN,cRIVER,cWORK,cONESELF,cTURBAN,cDRY
cSHORT THREAD,cDOTTED CLIFF,cLONG STRIDE,cTWO HANDS,cSHOOT,cBOW,cSNOUT,cBRISTLE,cSTEP,cHEART
cHALBERD,cDOOR,cHAND,cBRANCH,cRAP,cSCRIPT,cDIPPER,cAXE,cSQUARE,cNOT,cSUN,cSAY,cMOON,cTREE,cLACK
cSTOP,cDEATH,cWEAPON,cDO NOT,cCOMPARE,cFUR,cCLAN,cSTEAM,cWATER,cFIRE,cCLAW,cFATHER,cDOUBLE X
cHALF TREE TRUNK,cSLICE,cFANG,cCOW,cDOG,cPROFOUND,cJADE,cMELON,cTILE,cSWEET,cLIFE,cUSE,cFIELD
cBOLT OF CLOTH,cSICKNESS,cDOTTED TENT,cWHITE,cSKIN,cDISH,cEYE,cSPEAR,cARROW,cSTONE,cSPIRIT,cTRACK
cGRAIN,cCAVE,cSTAND,cBAMBOO,cRICE,cSILK,cJAR,cNET,cSHEEP,cFEATHER,cOLD,cAND,cPLOW,cEAR,cBRUSH,cMEAT
cMINISTER,cSELF,cARRIVE,cMORTAR,cTONGUE,cOPPOSE,cBOAT,cSTOPPING,cCOLOR,cGRASS,cTIGER,cINSECT,cBLOOD
cWALK ENCLOSURE,cCLOTHES,cWEST,cSEE,cHORN,cSPEECH,cVALLEY,cBEAN,cPIG,cBADGER,cSHELL,cRED,cRUN,cFOOT
cBODY,cCART,cBITTER,cMORNING,cWALK,cCITY,cWINE,cDISTINGUISH,cVILLAGE,cGOLD,cLONG,cGATE,cMOUND,cSLAVE
cSHORT TAILED BIRD,cRAIN,cBLUE,cWRONG,cFACE,cLEATHER,cTANNEDb,cLEEK,cSOUND,cLEAF,cWIND,cFLY,cEAT
cHEAD,cFRAGRANT,cHORSE,cBONE,cTALL,cHAIR,cFIGHT,cSACRIFICIAL WINE,cCAULDRON,cGHOST,cFISH,cBIRD,cSALT
cDEER,cWHEAT,cHEMP,cYELLOW,cMILLET,cBLACK,cEMBROIDERY,cFROG,cTRIPOD,cDRUM,cRAT,cNOSE,cEVEN,cTOOTH
cDRAGON,cTURTLE,cFLUTE,26,aIDEOGRAPHIC DESCRIPTION CHARACTER LEFT TO RIGHT,dABOVE TO BELOW
dLEFT TO MIDDLE AND RIGHT,dABOVE TO MIDDLE AND BELOW,dFULL SURROUND,dSURROUND FROM ABOVE,fBELOW
fLEFT,fUPPERb,gRIGHT,fLOWER LEFT,dOVERLAID,4,bSPACE,bCOMMA,bFULL STOP,aDITTO MARK
aJAPANESE INDUSTRIAL STANDARD SYMBOL,aIDEOGRAPHIC ITERATION MARK,bCLOSINGb,bNUMBER ZERO
aLEFT ANGLE BRACKET,aRIGHTc,aLEFT DOUBLEc,aRIGHTd,aLEFT CORNERb,aRIGHTc,aLEFT WHITEc,aRIGHTd
aLEFT BLACK LENTICULARb,aRIGHTd,aPOSTAL MARK,aGETAb,aLEFT TORTOISE SHELL BRACKET,aRIGHTd
aLEFT WHITE LENTICULARb,aRIGHTd,aLEFT WHITE TORTOISE SHELLb,aRIGHTe,aLEFT WHITE SQUAREb,aRIGHTd
aWAVE DASH,aREVERSED DOUBLE PRIME QUOTATION MARK,ae,aLOWe,aPOSTAL MARK FACE,aHANGZHOU NUMERAL ONE
cTWO,cTHREE,cFOUR,cFIVE,cSIX,cSEVEN,cEIGHT,cNINE,aIDEOGRAPHIC LEVEL TONE MARK,bRISINGc,bDEPARTINGc
bENTERINGc,aHANGUL SINGLE DOTc,bDOUBLEd,aWAVY DASH,aVERTICAL KANA REPEAT MARK,dWITH VOICED SOUNDb
dMARK UPPER HALF,dWITH VOICED SOUNDd,dMARK LOWERb,aCIRCLED POSTAL MARK
aIDEOGRAPHIC TELEGRAPH LINE FEED SEPARATOR SYMBOL,aHANGZHOU NUMERAL TEN,cTWENTY,cTHIRTY
aVERTICAL IDEOGRAPHIC ITERATION MARK,aMASUb,aPART ALTERNATIONb,aIDEOGRAPHIC VARIATION INDICATOR
bHALF FILL SPACE,1,aHIRAGANA LETTER SMALL A,cb,cSMALL I,cb,cSMALL U,cb,cSMALL E,cb,cSMALL O,cb,cKA
cGA,cKI,cGI,cKU,cGU,cKE,cGE,cKO,cGO,cSA,cZA,cSI,cZI,cSU,cZU,cSE,cZE,cSO,cZO,cTA,cDA,cTI,cDI
cSMALL TU,cb,cDU,cTE,cDE,cTO,cDO,cNA,cNI,cNU,cNE,cNO,cHA,cBA,cPA,cHI,cBI,cPI,cHU,cBU,cPU,cHE,cBE,cPE
cHO,cBO,cPO,cMA,cMI,cMU,cME,cMO,cSMALL YA,cb,cSMALL YU,cb,cSMALL YO,cb,cRA,cRI,cRU,cRE,cRO,cSMALL WA
cb,cWI,cWE,cWO,cN,cVU,cSMALL KA,dKE,2,aCOMBINING KATAKANA-HIRAGANA VOICED SOUND MARK,cSEMI-VOICEDc
aKATAKANA-HIRAGANA VOICEDc,bSEMI-VOICEDc,aHIRAGANA ITERATIONb,bVOICEDc,bDIGRAPH YORI
aKATAKANA-HIRAGANA DOUBLE HYPHEN,aKATAKANA LETTER SMALL A,cb,cSMALL I,cb,cSMALL U,cb,cSMALL E,cb
cSMALL O,cb,cKA,cGA,cKI,cGI,cKU,cGU,cKE,cGE,cKO,cGO,cSA,cZA,cSI,cZI,cSU,cZU,cSE,cZE,cSO,cZO,cTA,cDA
cTI,cDI,cSMALL TU,cb,cDU,cTE,cDE,cTO,cDO,cNA,cNI,cNU,cNE,cNO,cHA,cBA,cPA,cHI,cBI,cPI,cHU,cBU,cPU,cHE
cBE,cPE,cHO,cBO,cPO,cMA,cMI,cMU,cME,cMO,cSMALL YA,cb,cSMALL YU,cb,cSMALL YO,cb,cRA,cRI,cRU,cRE,cRO
cSMALL WA,cb,cWI,cWE,cWO,cN,cVU,cSMALL KA,dKE,cVA,cVI,cVE,cVO,bMIDDLE DOT
aKATAKANA-HIRAGANA PROLONGED SOUND MARK,aKATAKANA ITERATIONb,bVOICEDc,bDIGRAPH KOTO,5
aBOPOMOFO LETTER B,cP,cM,cF,cD,cT,cN,cL,cG,cK,cH,cJ,cQ,cX,cZH,cCH,cSH,cR,cZ,cC,cS,cA,cO,cE,cEH,cAI
cEI,cAU,cOU,cAN,cEN,cANG,cENG,cER,cI,cU,cIU,cV,cNG,cGN,cIH,cO WITH DOT ABOVE,cNN,1
aHANGUL LETTER KIYEOK,cSSANGKIYEOK,cKIYEOK-SIOS,cNIEUN,cNIEUN-CIEUC,cNIEUN-HIEUH,cTIKEUT
cSSANGTIKEUT,cRIEUL,cRIEUL-KIYEOK,cRIEUL-MIEUM,cRIEUL-PIEUP,cRIEUL-SIOS,cRIEUL-THIEUTH
cRIEUL-PHIEUPH,cRIEUL-HIEUH,cMIEUM,cPIEUP,cSSANGPIEUP,cPIEUP-SIOS,cSIOS,cSSANGSIOS,cIEUNG,cCIEUC
cSSANGCIEUC,cCHIEUCH,cKHIEUKH,cTHIEUTH,cPHIEUPH,cHIEUH,cA,cAE,cYA,cYAE,cEO,cE,cYEO,cYE,cO,cWA,cWAE
cOE,cYO,cU,cWEO,cWE,cWI,cYU,cEU,cYI,cI,bFILLER,bLETTER SSANGNIEUN,cNIEUN-TIKEUT,cNIEUN-SIOS
cNIEUN-PANSIOS,cRIEUL-KIYEOK-SIOS,cRIEUL-TIKEUT,cRIEUL-PIEUP-SIOS,cRIEUL-PANSIOS,cRIEUL-YEORINHIEUH
cMIEUM-PIEUP,cMIEUM-SIOS,cMIEUM-PANSIOS,cKAPYEOUNMIEUM,cPIEUP-KIYEOK,cPIEUP-TIKEUT
cPIEUP-SIOS-KIYEOK,cPIEUP-SIOS-TIKEUT,cPIEUP-CIEUC,cPIEUP-THIEUTH,cKAPYEOUNPIEUP,cKAPYEOUNSSANGPIEUP
cSIOS-KIYEOK,cSIOS-NIEUN,cSIOS-TIKEUT,cSIOS-PIEUP,cSIOS-CIEUC,cPANSIOS,cSSANGIEUNG,cYESIEUNG
cYESIEUNG-SIOS,cYESIEUNG-PANSIOS,cKAPYEOUNPHIEUPH,cSSANGHIEUH,cYEORINHIEUH,cYO-YA,cYO-YAE,cYO-I
cYU-YEO,cYU-YE,cYU-I,cARAEA,cARAEAE,1,aIDEOGRAPHIC ANNOTATION LINKING MARK,cREVERSEb,cONEb,cTWOb
cTHREEb,cFOURb,cTOPb,cMIDDLEb,cBOTTOMb,cFIRSTb,cSECONDb,cTHIRDb,cFOURTHb,cHEAVENb,cEARTHb,cMANb
aBOPOMOFO LETTER BU,cZI,cJI,cGU,cEE,cENN,cOO,cONN,cIR,cANN,cINN,cUNN,cIM,cNGG,cAINN,cAUNN,cAM,cOM
cONG,cINNN,bFINAL LETTER P,dT,dK,dH,bLETTER GH,cLH,cZY,bFINAL LETTER G,bLETTER GW,cKW,cOE,cAH
aCJK STROKE T,cWG,cXG,cBXG,cSW,cHZZ,cHZG,cHP,cHZWG,cSZWG,cHZT,cHZZP,cHPWG,cHZW,cHZZZ,cN,cH,cS,cP,cSP
cD,cHZ,cHG,cSZ,cSWZ,cST,cSG,cPD,cPZ,cTN,cSZZ,cSWG,cHXWG,cHZZZG,cPG,cQ,12,aKATAKANA LETTER SMALL KU
dSI,dSU,dTO,dNU,dHA,dHI,dHU,dHE,dHO,dMU,dRA,dRI,dRU,dRE,dRO,aPARENTHESIZED HANGUL KIYEOK,cNIEUN
cTIKEUT,cRIEUL,cMIEUM,cPIEUP,cSIOS,cIEUNG,cCIEUC,cCHIEUCH,cKHIEUKH,cTHIEUTH,cPHIEUPH,cHIEUH
cKIYEOK A,cNIEUNb,cTIKEUTb,cRIEULb,cMIEUMb,cPIEUPb,cSIOSb,cIEUNGb,cCIEUCb,cCHIEUCHb,cKHIEUKHb
cTHIEUTHb,cPHIEUPHb,cHIEUHb,cCIEUC U,bKOREAN CHARACTER OJEON,dO HU,1,bIDEOGRAPH ONE,cTWO,cTHREE
cFOUR,cFIVE,cSIX,cSEVEN,cEIGHT,cNINE,cTEN,cMOON,cFIRE,cWATER,cWOOD,cMETAL,cEARTH,cSUN,cSTOCK,cHAVE
cSOCIETY,cNAME,cSPECIAL,cFINANCIAL,cCONGRATULATION,cLABOR,cREPRESENT,cCALL,cSTUDY,cSUPERVISE
cENTERPRISE,cRESOURCE,cALLIANCE,cFESTIVAL,cREST,cSELF,cREACH,aCIRCLED IDEOGRAPH QUESTION
cKINDERGARTEN,cSCHOOL,cKOTO,bNUMBER TEN ON BLACK SQUARE,cTWENTYd,cTHIRTYd,cFORTYd,cFIFTYd,cSIXTYd
cSEVENTYd,cEIGHTYd,aPARTNERSHIP SIGN,aCIRCLED NUMBER TWENTY ONE,dTWO,dTHREE,dFOUR,dFIVE,dSIX,dSEVEN
dEIGHT,dNINE,cTHIRTY,dONE,dTWO,dTHREE,dFOUR,dFIVE,bHANGUL KIYEOK,cNIEUN,cTIKEUT,cRIEUL,cMIEUM,cPIEUP
cSIOS,cIEUNG,cCIEUC,cCHIEUCH,cKHIEUKH,cTHIEUTH,cPHIEUPH,cHIEUH,cKIYEOK A,cNIEUNb,cTIKEUTb,cRIEULb
cMIEUMb,cPIEUPb,cSIOSb,cIEUNGb,cCIEUCb,cCHIEUCHb,cKHIEUKHb,cTHIEUTHb,cPHIEUPHb,cHIEUHb
bKOREAN CHARACTER CHAMKO,dJUEUI,bHANGUL IEUNG U,aKOREAN STANDARD SYMBOL,aCIRCLED IDEOGRAPH ONE,cTWO
cTHREE,cFOUR,cFIVE,cSIX,cSEVEN,cEIGHT,cNINE,cTEN,cMOON,cFIRE,cWATER,cWOOD,cMETAL,cEARTH,cSUN,cSTOCK
cHAVE,cSOCIETY,cNAME,cSPECIAL,cFINANCIAL,cCONGRATULATION,cLABOR,cSECRET,cMALE,cFEMALE,cSUITABLE
cEXCELLENT,cPRINT,cATTENTION,cITEM,cREST,cCOPY,cCORRECT,cHIGH,cCENTRE,cLOW,cLEFT,cRIGHT,cMEDICINE
cRELIGION,cSTUDY,cSUPERVISE,cENTERPRISE,cRESOURCE,cALLIANCE,cNIGHT,bNUMBER THIRTY SIX,dSEVEN,dEIGHT
dNINE,cFORTY,dONE,dTWO,dTHREE,dFOUR,dFIVE,dSIX,dSEVEN,dEIGHT,dNINE,cFIFTY
aIDEOGRAPHIC TELEGRAPH SYMBOL FOR JANUARY,eFEBRUARY,eMARCH,eAPRIL,eMAY,eJUNE,eJULY,eAUGUST
eSEPTEMBER,eOCTOBER,eNOVEMBER,eDECEMBER,aSQUARE HG,bERG,bEV,aLIMITED LIABILITY SIGN
aCIRCLED KATAKANA A,cI,cU,cE,cO,cKA,cKI,cKU,cKE,cKO,cSA,cSI,cSU,cSE,cSO,cTA,cTI,cTU,cTE,cTO,cNA,cNI
cNU,cNE,cNO,cHA,cHI,cHU,cHE,cHO,cMA,cMI,cMU,cME,cMO,cYA,cYU,cYO,cRA,cRI,cRU,cRE,cRO,cWA,cWI,cWE,cWO
aSQUARE ERA NAME REIWA,bAPAATO,bARUHUA,bANPEA,bAARU,bININGU,bINTI,bUON,bESUKUUDO,bEEKAA,bONSU,bOOMU
bKAIRI,bKARATTO,bKARORII,bGARON,bGANMA,bGIGA,bGINII,bKYURII,bGIRUDAA,bKIRO,bKIROGURAMU,bKIROMEETORU
bKIROWATTO,bGURAMU,bGURAMUTON,bKURUZEIRO,bKUROONE,bKEESU,bKORUNA,bKOOPO,bSAIKURU,bSANTIIMU,bSIRINGU
bSENTI,bSENTO,bDAASU,bDESI,bDORU,bTON,bNANO,bNOTTO,bHAITU,bPAASENTO,bPAATU,bBAARERU,bPIASUTORU
bPIKURU,bPIKO,bBIRU,bHUARADDO,bHUIITO,bBUSSYERU,bHURAN,bHEKUTAARU,bPESO,bPENIHI,bHERUTU,bPENSU
bPEEZI,bBEETA,bPOINTO,bBORUTO,bHON,bPONDO,bHOORU,bHOON,bMAIKURO,bMAIRU,bMAHHA,bMARUKU,bMANSYON
bMIKURON,bMIRI,bMIRIBAARU,bMEGA,bMEGATON,bMEETORU,bYAADO,bYAARU,bYUAN,bRITTORU,bRIRA,bRUPII,bRUUBURU
bREMU,bRENTOGEN,bWATTO,aIDEOGRAPHIC TELEGRAPH SYMBOL FOR HOUR ZERO,fONE,fTWO,fTHREE,fFOUR,fFIVE,fSIX
fSEVEN,fEIGHT,fNINE,fTEN,fELEVEN,fTWELVE,fTHIRTEEN,fFOURTEEN,fFIFTEEN,fSIXTEEN,fSEVENTEEN,fEIGHTEEN
fNINETEEN,fTWENTY,fTWENTY-ONE,fTWENTY-TWO,fTWENTY-THREE,fTWENTY-FOUR,aSQUARE HPA,bDA,bAU,bBAR,bOV
bPC,bDM,cSQUARED,cCUBED,bIU,bERA NAME HEISEI,dSYOUWA,dTAISYOU,dMEIZI,bCORPORATION,bPA AMPS,bNA,bMU A
bMA,bKA,bKB,bMB,bGB,bCAL,bKCAL,bPF,bNF,bMU F,cG,bMG,bKG,bHZ,bKHZ,bMHZ,bGHZ,bTHZ,bMU L,bML,bDL,bKL
bFM,bNM,bMU M,bMM,bCM,bKM,bMM SQUARED,bCMb,bMb,bKMb,bMM CUBED,bCMb,bMb,bKMb,bM OVER S,eSQUARED,bPA
bKPA,bMPA,bGPA,bRAD,cOVER S,eSQUARED,bPS,bNS,bMU S,bMS,bPV,bNV,bMU V,bMV,bKV,bMV MEGA,bPW,bNW,bMU W
bMW,bKW,bMW MEGA,bK OHM,bMb,bAM,bBQ,bCC,bCD,bC OVER KG,bCO,bDB,bGY,bHA,bHP,bIN,bKK,bKM CAPITAL,bKT
bLM,bLN,bLOG,bLX,bMB SMALL,bMIL,bMOL,bPH,bPM,bPPM,bPR,bSR,bSV,bWB,bV OVER M,bAc
aIDEOGRAPHIC TELEGRAPH SYMBOL FOR DAY ONE,fTWO,fTHREE,fFOUR,fFIVE,fSIX,fSEVEN,fEIGHT,fNINE,fTEN
fELEVEN,fTWELVE,fTHIRTEEN,fFOURTEEN,fFIFTEEN,fSIXTEEN,fSEVENTEEN,fEIGHTEEN,fNINETEEN,fTWENTY
fTWENTY-ONE,fTWENTY-TWO,fTWENTY-THREE,fTWENTY-FOUR,fTWENTY-FIVE,fTWENTY-SIX,fTWENTY-SEVEN
fTWENTY-EIGHT,fTWENTY-NINE,fTHIRTY,fTHIRTY-ONE,aSQUARE GAL,6592,aHEXAGRAM FOR THE CREATIVE HEAVEN
dRECEPTIVE EARTH,cDIFFICULTY AT THE BEGINNING,cYOUTHFUL FOLLY,cWAITING,cCONFLICT,cTHE ARMY
cHOLDING TOGETHER,cSMALL TAMING,cTREADING,cPEACE,cSTANDSTILL,cFELLOWSHIP,cGREAT POSSESSION,cMODESTY
cENTHUSIASM,cFOLLOWING,cWORK ON THE DECAYED,cAPPROACH,cCONTEMPLATION,cBITING THROUGH,cGRACE
cSPLITTING APART,cRETURN,cINNOCENCE,cGREAT TAMING,cMOUTH CORNERS,cGREAT PREPONDERANCE
cTHE ABYSMAL WATER,dCLINGING FIRE,cINFLUENCE,cDURATION,cRETREAT,cGREAT POWER,cPROGRESS
cDARKENING OF THE LIGHT,cTHE FAMILY,cOPPOSITION,cOBSTRUCTION,cDELIVERANCE,cDECREASE,cINCREASE
cBREAKTHROUGH,cCOMING TO MEET,cGATHERING TOGETHER,cPUSHING UPWARD,cOPPRESSION,cTHE WELL,cREVOLUTION
cTHE CAULDRON,dAROUSING THUNDER,dKEEPING STILL MOUNTAIN,cDEVELOPMENT,cTHE MARRYING MAIDEN,cABUNDANCE
cTHE WANDERER,dGENTLE WIND,dJOYOUS LAKE,cDISPERSION,cLIMITATION,cINNER TRUTH,cSMALL PREPONDERANCE
cAFTER COMPLETION,cBEFOREb,20992,aYI SYLLABLE IT,cIX,cI,cIP,cIET,cIEX,cIE,cIEP,cAT,cAX,cA,cAP,cUOX
cUO,cUOP,cOT,cOX,cO,cOP,cEX,cE,cWU|cITERATION MARK,cBIT,cBIX,cBI,cBIP,cBIET,cBIEX,cBIE,cBIEP,cBAT
cBAX,cBA,cBAP,cBUOX,cBUO,cBUOP,cBOT,cBOX,cBO,cBOP,cBEX,cBE,cBEP,cBUT,cBUX,cBU,cBUP,cBURX,cBUR,cBYT
cBYX,cBY,cBYP,cBYRX,cBYR,cPIT,cPIX,cPI,cPIP,cPIEX,cPIE,cPIEP,cPAT,cPAX,cPA,cPAP,cPUOX,cPUO,cPUOP
cPOT,cPOX,cPO,cPOP,cPUT,cPUX,cPU,cPUP,cPURX,cPUR,cPYT,cPYX,cPY,cPYP,cPYRX,cPYR,cBBIT,cBBIX,cBBI
cBBIP,cBBIET,cBBIEX,cBBIE,cBBIEP,cBBAT,cBBAX,cBBA,cBBAP,cBBUOX,cBBUO,cBBUOP,cBBOT,cBBOX,cBBO,cBBOP
cBBEX,cBBE,cBBEP,cBBUT,cBBUX,cBBU,cBBUP,cBBURX,cBBUR,cBBYT,cBBYX,cBBY,cBBYP,cNBIT,cNBIX,cNBI,cNBIP
cNBIEX,cNBIE,cNBIEP,cNBAT,cNBAX,cNBA,cNBAP,cNBOT,cNBOX,cNBO,cNBOP,cNBUT,cNBUX,cNBU,cNBUP,cNBURX
cNBUR,cNBYT,cNBYX,cNBY,cNBYP,cNBYRX,cNBYR,cHMIT,cHMIX,cHMI,cHMIP,cHMIEX,cHMIE,cHMIEP,cHMAT,cHMAX
cHMA,cHMAP,cHMUOX,cHMUO,cHMUOP,cHMOT,cHMOX,cHMO,cHMOP,cHMUT,cHMUX,cHMU,cHMUP,cHMURX,cHMUR,cHMYX,cHMY
cHMYP,cHMYRX,cHMYR,cMIT,cMIX,cMI,cMIP,cMIEX,cMIE,cMIEP,cMAT,cMAX,cMA,cMAP,cMUOT,cMUOX,cMUO,cMUOP
cMOT,cMOX,cMO,cMOP,cMEX,cME,cMUT,cMUX,cMU,cMUP,cMURX,cMUR,cMYT,cMYX,cMY,cMYP,cFIT,cFIX,cFI,cFIP,cFAT
cFAX,cFA,cFAP,cFOX,cFO,cFOP,cFUT,cFUX,cFU,cFUP,cFURX,cFUR,cFYT,cFYX,cFY,cFYP,cVIT,cVIX,cVI,cVIP
cVIET,cVIEX,cVIE,cVIEP,cVAT,cVAX,cVA,cVAP,cVOT,cVOX,cVO,cVOP,cVEX,cVEP,cVUT,cVUX,cVU,cVUP,cVURX,cVUR
cVYT,cVYX,cVY,cVYP,cVYRX,cVYR,cDIT,cDIX,cDI,cDIP,cDIEX,cDIE,cDIEP,cDAT,cDAX,cDA,cDAP,cDUOX,cDUO,cDOT
cDOX,cDO,cDOP,cDEX,cDE,cDEP,cDUT,cDUX,cDU,cDUP,cDURX,cDUR,cTIT,cTIX,cTI,cTIP,cTIEX,cTIE,cTIEP,cTAT
cTAX,cTA,cTAP,cTUOT,cTUOX,cTUO,cTUOP,cTOT,cTOX,cTO,cTOP,cTEX,cTE,cTEP,cTUT,cTUX,cTU,cTUP,cTURX,cTUR
cDDIT,cDDIX,cDDI,cDDIP,cDDIEX,cDDIE,cDDIEP,cDDAT,cDDAX,cDDA,cDDAP,cDDUOX,cDDUO,cDDUOP,cDDOT,cDDOX
cDDO,cDDOP,cDDEX,cDDE,cDDEP,cDDUT,cDDUX,cDDU,cDDUP,cDDURX,cDDUR,cNDIT,cNDIX,cNDI,cNDIP,cNDIEX,cNDIE
cNDAT,cNDAX,cNDA,cNDAP,cNDOT,cNDOX,cNDO,cNDOP,cNDEX,cNDE,cNDEP,cNDUT,cNDUX,cNDU,cNDUP,cNDURX,cNDUR
cHNIT,cHNIX,cHNI,cHNIP,cHNIET,cHNIEX,cHNIE,cHNIEP,cHNAT,cHNAX,cHNA,cHNAP,cHNUOX,cHNUO,cHNOT,cHNOX
cHNOP,cHNEX,cHNE,cHNEP,cHNUT,cNIT,cNIX,cNI,cNIP,cNIEX,cNIE,cNIEP,cNAX,cNA,cNAP,cNUOX,cNUO,cNUOP,cNOT
cNOX,cNO,cNOP,cNEX,cNE,cNEP,cNUT,cNUX,cNU,cNUP,cNURX,cNUR,cHLIT,cHLIX,cHLI,cHLIP,cHLIEX,cHLIE,cHLIEP
cHLAT,cHLAX,cHLA,cHLAP,cHLUOX,cHLUO,cHLUOP,cHLOX,cHLO,cHLOP,cHLEX,cHLE,cHLEP,cHLUT,cHLUX,cHLU,cHLUP
cHLURX,cHLUR,cHLYT,cHLYX,cHLY,cHLYP,cHLYRX,cHLYR,cLIT,cLIX,cLI,cLIP,cLIET,cLIEX,cLIE,cLIEP,cLAT,cLAX
cLA,cLAP,cLUOT,cLUOX,cLUO,cLUOP,cLOT,cLOX,cLO,cLOP,cLEX,cLE,cLEP,cLUT,cLUX,cLU,cLUP,cLURX,cLUR,cLYT
cLYX,cLY,cLYP,cLYRX,cLYR,cGIT,cGIX,cGI,cGIP,cGIET,cGIEX,cGIE,cGIEP,cGAT,cGAX,cGA,cGAP,cGUOT,cGUOX
cGUO,cGUOP,cGOT,cGOX,cGO,cGOP,cGET,cGEX,cGE,cGEP,cGUT,cGUX,cGU,cGUP,cGURX,cGUR,cKIT,cKIX,cKI,cKIP
cKIEX,cKIE,cKIEP,cKAT,cKAX,cKA,cKAP,cKUOX,cKUO,cKUOP,cKOT,cKOX,cKO,cKOP,cKET,cKEX,cKE,cKEP,cKUT,cKUX
cKU,cKUP,cKURX,cKUR,cGGIT,cGGIX,cGGI,cGGIEX,cGGIE,cGGIEP,cGGAT,cGGAX,cGGA,cGGAP,cGGUOT,cGGUOX,cGGUO
cGGUOP,cGGOT,cGGOX,cGGO,cGGOP,cGGET,cGGEX,cGGE,cGGEP,cGGUT,cGGUX,cGGU,cGGUP,cGGURX,cGGUR,cMGIEX
cMGIE,cMGAT,cMGAX,cMGA,cMGAP,cMGUOX,cMGUO,cMGUOP,cMGOT,cMGOX,cMGO,cMGOP,cMGEX,cMGE,cMGEP,cMGUT,cMGUX
cMGU,cMGUP,cMGURX,cMGUR,cHXIT,cHXIX,cHXI,cHXIP,cHXIET,cHXIEX,cHXIE,cHXIEP,cHXAT,cHXAX,cHXA,cHXAP
cHXUOT,cHXUOX,cHXUO,cHXUOP,cHXOT,cHXOX,cHXO,cHXOP,cHXEX,cHXE,cHXEP,cNGIEX,cNGIE,cNGIEP,cNGAT,cNGAX
cNGA,cNGAP,cNGUOT,cNGUOX,cNGUO,cNGOT,cNGOX,cNGO,cNGOP,cNGEX,cNGE,cNGEP,cHIT,cHIEX,cHIE,cHAT,cHAX,cHA
cHAP,cHUOT,cHUOX,cHUO,cHUOP,cHOT,cHOX,cHO,cHOP,cHEX,cHE,cHEP,cWAT,cWAX,cWA,cWAP,cWUOX,cWUO,cWUOP
cWOX,cWO,cWOP,cWEX,cWE,cWEP,cZIT,cZIX,cZI,cZIP,cZIEX,cZIE,cZIEP,cZAT,cZAX,cZA,cZAP,cZUOX,cZUO,cZUOP
cZOT,cZOX,cZO,cZOP,cZEX,cZE,cZEP,cZUT,cZUX,cZU,cZUP,cZURX,cZUR,cZYT,cZYX,cZY,cZYP,cZYRX,cZYR,cCIT
cCIX,cCI,cCIP,cCIET,cCIEX,cCIE,cCIEP,cCAT,cCAX,cCA,cCAP,cCUOX,cCUO,cCUOP,cCOT,cCOX,cCO,cCOP,cCEX,cCE
cCEP,cCUT,cCUX,cCU,cCUP,cCURX,cCUR,cCYT,cCYX,cCY,cCYP,cCYRX,cCYR,cZZIT,cZZIX,cZZI,cZZIP,cZZIET
cZZIEX,cZZIE,cZZIEP,cZZAT,cZZAX,cZZA,cZZAP,cZZOX,cZZO,cZZOP,cZZEX,cZZE,cZZEP,cZZUX,cZZU,cZZUP,cZZURX
cZZUR,cZZYT,cZZYX,cZZY,cZZYP,cZZYRX,cZZYR,cNZIT,cNZIX,cNZI,cNZIP,cNZIEX,cNZIE,cNZIEP,cNZAT,cNZAX
cNZA,cNZAP,cNZUOX,cNZUO,cNZOX,cNZOP,cNZEX,cNZE,cNZUX,cNZU,cNZUP,cNZURX,cNZUR,cNZYT,cNZYX,cNZY,cNZYP
cNZYRX,cNZYR,cSIT,cSIX,cSI,cSIP,cSIEX,cSIE,cSIEP,cSAT,cSAX,cSA,cSAP,cSUOX,cSUO,cSUOP,cSOT,cSOX,cSO
cSOP,cSEX,cSE,cSEP,cSUT,cSUX,cSU,cSUP,cSURX,cSUR,cSYT,cSYX,cSY,cSYP,cSYRX,cSYR,cSSIT,cSSIX,cSSI
cSSIP,cSSIEX,cSSIE,cSSIEP,cSSAT,cSSAX,cSSA,cSSAP,cSSOT,cSSOX,cSSO,cSSOP,cSSEX,cSSE,cSSEP,cSSUT,cSSUX
cSSU,cSSUP,cSSYT,cSSYX,cSSY,cSSYP,cSSYRX,cSSYR,cZHAT,cZHAX,cZHA,cZHAP,cZHUOX,cZHUO,cZHUOP,cZHOT
cZHOX,cZHO,cZHOP,cZHET,cZHEX,cZHE,cZHEP,cZHUT,cZHUX,cZHU,cZHUP,cZHURX,cZHUR,cZHYT,cZHYX,cZHY,cZHYP
cZHYRX,cZHYR,cCHAT,cCHAX,cCHA,cCHAP,cCHUOT,cCHUOX,cCHUO,cCHUOP,cCHOT,cCHOX,cCHO,cCHOP,cCHET,cCHEX
cCHE,cCHEP,cCHUX,cCHU,cCHUP,cCHURX,cCHUR,cCHYT,cCHYX,cCHY,cCHYP,cCHYRX,cCHYR,cRRAX,cRRA,cRRUOX,cRRUO
cRROT,cRROX,cRRO,cRROP,cRRET,cRREX,cRRE,cRREP,cRRUT,cRRUX,cRRU,cRRUP,cRRURX,cRRUR,cRRYT,cRRYX,cRRY
cRRYP,cRRYRX,cRRYR,cNRAT,cNRAX,cNRA,cNRAP,cNROX,cNRO,cNROP,cNRET,cNREX,cNRE,cNREP,cNRUT,cNRUX,cNRU
cNRUP,cNRURX,cNRUR,cNRYT,cNRYX,cNRY,cNRYP,cNRYRX,cNRYR,cSHAT,cSHAX,cSHA,cSHAP,cSHUOX,cSHUO,cSHUOP
cSHOT,cSHOX,cSHO,cSHOP,cSHET,cSHEX,cSHE,cSHEP,cSHUT,cSHUX,cSHU,cSHUP,cSHURX,cSHUR,cSHYT,cSHYX,cSHY
cSHYP,cSHYRX,cSHYR,cRAT,cRAX,cRA,cRAP,cRUOX,cRUO,cRUOP,cROT,cROX,cRO,cROP,cREX,cRE,cREP,cRUT,cRUX
cRU,cRUP,cRURX,cRUR,cRYT,cRYX,cRY,cRYP,cRYRX,cRYR,cJIT,cJIX,cJI,cJIP,cJIET,cJIEX,cJIE,cJIEP,cJUOT
cJUOX,cJUO,cJUOP,cJOT,cJOX,cJO,cJOP,cJUT,cJUX,cJU,cJUP,cJURX,cJUR,cJYT,cJYX,cJY,cJYP,cJYRX,cJYR,cQIT
cQIX,cQI,cQIP,cQIET,cQIEX,cQIE,cQIEP,cQUOT,cQUOX,cQUO,cQUOP,cQOT,cQOX,cQO,cQOP,cQUT,cQUX,cQU,cQUP
cQURX,cQUR,cQYT,cQYX,cQY,cQYP,cQYRX,cQYR,cJJIT,cJJIX,cJJI,cJJIP,cJJIET,cJJIEX,cJJIE,cJJIEP,cJJUOX
cJJUO,cJJUOP,cJJOT,cJJOX,cJJO,cJJOP,cJJUT,cJJUX,cJJU,cJJUP,cJJURX,cJJUR,cJJYT,cJJYX,cJJY,cJJYP,cNJIT
cNJIX,cNJI,cNJIP,cNJIET,cNJIEX,cNJIE,cNJIEP,cNJUOX,cNJUO,cNJOT,cNJOX,cNJO,cNJOP,cNJUX,cNJU,cNJUP
cNJURX,cNJUR,cNJYT,cNJYX,cNJY,cNJYP,cNJYRX,cNJYR,cNYIT,cNYIX,cNYI,cNYIP,cNYIET,cNYIEX,cNYIE,cNYIEP
cNYUOX,cNYUO,cNYUOP,cNYOT,cNYOX,cNYO,cNYOP,cNYUT,cNYUX,cNYU,cNYUP,cXIT,cXIX,cXI,cXIP,cXIET,cXIEX
cXIE,cXIEP,cXUOX,cXUO,cXOT,cXOX,cXO,cXOP,cXYT,cXYX,cXY,cXYP,cXYRX,cXYR,cYIT,cYIX,cYI,cYIP,cYIET
cYIEX,cYIE,cYIEP,cYUOT,cYUOX,cYUO,cYUOP,cYOT,cYOX,cYO,cYOP,cYUT,cYUX,cYU,cYUP,cYURX,cYUR,cYYT,cYYX
cYY,cYYP,cYYRX,cYYR,3,bRADICAL QOT,cLI,cKIT,cNYIP,cCYP,cSSI,cGGOP,cGEP,cMI,cHXIT,cLYR,cBBUT,cMOP,cYO
cPUT,cHXUO,cTAT,cGA,cZUP,cCYT,cDDUR,cBUR,cGGUO,cNYOP,cTU,cOP,cJJUT,cZOT,cPYT,cHMO,cYIT,cVUR,cSHY
cVEP,cZA,cJO,cNZUP,cJJY,cGOT,cJJIE,cWO,cDU,cSHUR,cLIE,cCY,cCUOP,cCIP,cHXOP,cSHAT,cZUR,cSHOP,cCHE
cZZIET,cNBIE,cKE,9,aLISU LETTER BA,cPA,cPHA,cDA,cTA,cTHA,cGA,cKA,cKHA,cJA,cCA,cCHA,cDZA,cTSA,cTSHA
cMA,cNA,cLA,cSA,cZHA,cZA,cNGA,cHA,cXA,cHHA,cFA,cWA,cSHA,cYA,cGHA,cA,cAE,cE,cEU,cI,cO,cU,cUE,cUH,cOE
cTONE MYA TI,dNA PO,dMYA CYA,eBO,eNA,eJEU,bPUNCTUATION COMMA,cFULL STOP,aVAI SYLLABLE EE,cEEN,cHEE
cWEE,cWEEN,cPEE,cBHEE,cBEE,cMBEE,cKPEE,cMGBEE,cGBEE,cFEE,cVEE,cTEE,cTHEE,cDHEE,cDHHEE,cLEE,cREE,cDEE
cNDEE,cSEE,cSHEE,cZEE,cZHEE,cCEE,cJEE,cNJEE,cYEE,cKEE,cNGGEE,cGEE,cMEE,cNEE,cNYEE,cI,cIN,cHI,cHIN
cWI,cWIN,cPI,cBHI,cBI,cMBI,cKPI,cMGBI,cGBI,cFI,cVI,cTI,cTHI,cDHI,cDHHI,cLI,cRI,cDI,cNDI,cSI,cSHI,cZI
cZHI,cCI,cJI,cNJI,cYI,cKI,cNGGI,cGI,cMI,cNI,cNYI,cA,cAN,cNGAN,cHA,cHAN,cWA,cWAN,cPA,cBHA,cBA,cMBA
cKPA,cKPAN,cMGBA,cGBA,cFA,cVA,cTA,cTHA,cDHA,cDHHA,cLA,cRA,cDA,cNDA,cSA,cSHA,cZA,cZHA,cCA,cJA,cNJA
cYA,cKA,cKAN,cNGGA,cGA,cMA,cNA,cNYA,cOO,cOON,cHOO,cWOO,cWOON,cPOO,cBHOO,cBOO,cMBOO,cKPOO,cMGBOO
cGBOO,cFOO,cVOO,cTOO,cTHOO,cDHOO,cDHHOO,cLOO,cROO,cDOO,cNDOO,cSOO,cSHOO,cZOO,cZHOO,cCOO,cJOO,cNJOO
cYOO,cKOO,cNGGOO,cGOO,cMOO,cNOO,cNYOO,cU,cUN,cHU,cHUN,cWU,cWUN,cPU,cBHU,cBU,cMBU,cKPU,cMGBU,cGBU,cFU
cVU,cTU,cTHU,cDHU,cDHHU,cLU,cRU,cDU,cNDU,cSU,cSHU,cZU,cZHU,cCU,cJU,cNJU,cYU,cKU,cNGGU,cGU,cMU,cNU
cNYU,cO,cON,cNGON,cHO,cHON,cWO,cWON,cPO,cBHO,cBO,cMBO,cKPO,cMGBO,cGBO,cGBON,cFO,cVO,cTO,cTHO,cDHO
cDHHO,cLO,cRO,cDO,cNDO,cSO,cSHO,cZO,cZHO,cCO,cJO,cNJO,cYO,cKO,cNGGO,cGO,cMO,cNO,cNYO,cE,cEN,cNGEN
cHE,cHEN,cWE,cWEN,cPE,cBHE,cBE,cMBE,cKPE,cKPEN,cMGBE,cGBE,cGBEN,cFE,cVE,cTE,cTHE,cDHE,cDHHE,cLE,cRE
cDE,cNDE,cSE,cSHE,cZE,cZHE,cCE,cJE,cNJE,cYE,cKE,cNGGE,cNGGEN,cGE,cGEN,cME,cNE,cNYE,cNG,cLENGTHENER
bCOMMA,bFULL STOP,bQUESTION MARK,bSYLLABLE NDOLE FA,dKA,dSOO,bSYMBOL FEENG,cKEENG,cTING,cNII,cBANG
cFAA,cTAA,cDANG,cDOONG,cKUNG,cTONG,cDO-O,cJONG,bDIGIT ZERO,cONE,cTWO,cTHREE,cFOUR,cFIVE,cSIX,cSEVEN
cEIGHT,cNINE,bSYLLABLE NDOLE MA,dDO,20,aCYRILLIC CAPITAL LETTER ZEMLYA,bSMALLc,bCAPITAL LETTER DZELO
bSMALLc,bCAPITAL LETTER REVERSED DZE,bSMALLd,bCAPITAL LETTER IOTA,bSMALLc,bCAPITAL LETTER DJERV
bSMALLc,bCAPITAL LETTER MONOGRAPH UK,bSMALLd,bCAPITAL LETTER BROAD OMEGA,bSMALLd
bCAPITAL LETTER NEUTRAL YER,bSMALLd,bCAPITAL LETTER YERU WITH BACKb,bSMALLf
bCAPITAL LETTER IOTIFIED YAT,bSMALLd,bCAPITAL LETTER REVERSED YU,bSMALLd,bCAPITAL LETTER IOTIFIED A
bSMALLd,bCAPITAL LETTER CLOSED LITTLE YUS,bSMALLe,bCAPITAL LETTER BLENDEDb,bSMALLd
bCAPITAL LETTER IOTIFIED CLOSED LITTLEb,bSMALLf,bCAPITAL LETTER YN,bSMALLc
bCAPITAL LETTER REVERSED TSE,bSMALLd,bCAPITAL LETTER SOFT DE,bSMALLd,bCAPITAL LETTER SOFT EL,bSMALLd
bCAPITAL LETTER SOFT EM,bSMALLd,bCAPITAL LETTER MONOCULAR O,bSMALLd,bCAPITAL LETTER BINOCULARb
bSMALLd,bCAPITAL LETTER DOUBLE MONOCULARb,bSMALLe,bLETTER MULTIOCULARb,aCOMBINING CYRILLIC VZMET
cTEN MILLIONS SIGN,cHUNDREDc,cTHOUSANDc,aSLAVONIC ASTERISK,aCOMBINING CYRILLIC LETTER UKRAINIAN IE
dI,dYI,dU,dHARD SIGN,dYERU,dSOFT SIGN,dOMEGA,cKAVYKA,cPAYEROK,aCYRILLIC KAVYKA,bPAYEROK
bCAPITAL LETTER DWE,bSMALLc,bCAPITAL LETTER DZWE,bSMALLc,bCAPITAL LETTER ZHWE,bSMALLc
bCAPITAL LETTER CCHE,bSMALLc,bCAPITAL LETTER DZZE,bSMALLc,bCAPITAL LETTER TE WITH MIDDLE HOOK
bSMALLf,bCAPITAL LETTER TWE,bSMALLc,bCAPITAL LETTER TSWE,bSMALLc,bCAPITAL LETTER TSSE,bSMALLc
bCAPITAL LETTER TCHE,bSMALLc,bCAPITAL LETTER HWE,bSMALLc,bCAPITAL LETTER SHWE,bSMALLc
bCAPITAL LETTER DOUBLE O,bSMALLd,bCAPITAL LETTER CROSSEDb,bSMALLd
aMODIFIER LETTER CYRILLIC HARD SIGN,dSOFTb,aCOMBINING CYRILLIC LETTER EF,dIOTIFIED E,aBAMUM LETTER A
cKA,cU,cKU,cEE,cREE,cTAE,cO,cNYI,cI,cLA,cPA,cRII,cRIEE,cLEEEE,cMEEEE,cTAA,cNDAA,cNJAEM,cM,cSUU,cMU
cSHII,cSI,cSHEUX,cSEUX,cKYEE,cKET,cNUAE,cNU,cNJUAE,cYOQ,cSHU,cYUQ,cYA,cNSHA,cKEUX,cPEUX,cNJEE,cNTEE
cPUE,cWUE,cPEE,cFEE,cRU,cLU,cMI,cNI,cREUX,cRAE,cKEN,cNGKWAEN,cNGGA,cNGA,cSHO,cPUAE,cFU,cFOM,cWA,cNA
cLI,cPI,cLOQ,cKO,cMBEN,cREN,cMEN,cMA,cTI,cKI,cMO,cMBAA,cTET,cKPA,cTEN,cNTUU,cSAMBA,cFAAMAE,cKOVUU
cKOGHOM,bCOMBINING MARK KOQNDON,dTUKWENTIS,bNJAEMLI,bFULL STOP,bCOLON,bCOMMA,bSEMICOLON
bQUESTION MARK,8,aMODIFIER LETTER CHINESE TONE YIN PING,eYANGb,eYIN SHANG,eYANGb,eYIN QU,eYANGb
eYIN RU,eYANGb,cEXTRA-HIGH DOTTED TONE BAR,cHIGHd,cMIDd,cLOWd,cEXTRA-LOWd
cEXTRA-HIGH DOTTED LEFT-STEMc,cHIGHe,cMIDe,cLOWe,cEXTRA-LOWe,cEXTRA-HIGHd,cHIGHd,cMIDd,cLOWd
cEXTRA-LOWd,cDOT VERTICALb,dSLASH,dHORIZONTAL BAR,cLOWER RIGHT CORNER ANGLE,cRAISED UP ARROW,dDOWNb
dEXCLAMATION MARK,dINVERTEDc,cLOWd,cSTRESS AND HIGH TONE,eLOWb
aLATIN CAPITAL LETTER EGYPTOLOGICAL ALEF,bSMALLd,bCAPITAL LETTER EGYPTOLOGICAL AIN,bSMALLd
bCAPITAL LETTER HENG,bSMALLc,bCAPITAL LETTER TZ,bSMALLc,bCAPITAL LETTER TRESILLO,bSMALLc
bCAPITAL LETTER CUATRILLO,bSMALLc,bCAPITAL LETTER CUATRILLO WITH COMMA,bSMALLe
bLETTER SMALL CAPITAL F,eS,bCAPITAL LETTER AA,bSMALLc,bCAPITAL LETTER AO,bSMALLc,bCAPITAL LETTER AU
bSMALLc,bCAPITAL LETTER AV,bSMALLc,bCAPITAL LETTER AV WITH HORIZONTAL BAR,bSMALLf,bCAPITAL LETTER AY
bSMALLc,bCAPITAL LETTER REVERSED C WITH DOT,bSMALLf,bCAPITAL LETTER K WITH STROKE,bSMALLe
bCAPITAL LETTER K WITH DIAGONALb,bSMALLf,bCAPITAL LETTER K WITH STROKE ANDc,bSMALLh
bCAPITAL LETTER BROKEN L,bSMALLd,bCAPITAL LETTER L WITH HIGH STROKE,bSMALLf
bCAPITAL LETTER O WITH LONG STROKE OVERLAY,bSMALLg,bCAPITAL LETTER O WITH LOOP,bSMALLe
bCAPITAL LETTER OO,bSMALLc,bCAPITAL LETTER P WITH STROKE THROUGH DESCENDER,bSMALLg
bCAPITAL LETTER P WITH FLOURISH,bSMALLe,bCAPITAL LETTER P WITH SQUIRREL TAIL,bSMALLf
bCAPITAL LETTER Q WITH STROKE THROUGH DESCENDER,bSMALLg,bCAPITAL LETTER Q WITH DIAGONAL STROKE
bSMALLf,bCAPITAL LETTER R ROTUNDA,bSMALLd,bCAPITAL LETTER RUMb,bSMALLd
bCAPITAL LETTER V WITH DIAGONAL STROKE,bSMALLf,bCAPITAL LETTER VY,bSMALLc
bCAPITAL LETTER VISIGOTHIC Z,bSMALLd,bCAPITAL LETTER THORN WITH STROKE,bSMALLe
bCAPITAL LETTER THORN WITH STROKE THROUGH DESCENDER,bSMALLg,bCAPITAL LETTER VEND,bSMALLc
bCAPITAL LETTER ET,bSMALLc,bCAPITAL LETTER IS,bSMALLc,bCAPITAL LETTER CON,bSMALLc
aMODIFIER LETTER US,aLATIN SMALL LETTER DUM,dLUM,dMUM,dNUM,dRUM,bLETTER SMALL CAPITALb
bSMALL LETTER TUM,dUM,bCAPITAL LETTER INSULAR D,bSMALLd,bCAPITAL LETTER INSULAR F,bSMALLd
bCAPITAL LETTER INSULAR G,dTURNEDc,bSMALLe,bCAPITAL LETTER TURNED L,bSMALLd
bCAPITAL LETTER INSULAR R,bSMALLd,bCAPITAL LETTER INSULAR S,bSMALLd,bCAPITAL LETTER INSULAR T
bSMALLd,aMODIFIER LETTER LOW CIRCUMFLEX ACCENT,cCOLON,cSHORT EQUALS SIGN
aLATIN CAPITAL LETTER SALTILLO,bSMALLc,bCAPITAL LETTER TURNED H
bSMALL LETTER L WITH RETROFLEX HOOK AND BELT,bLETTER SINOLOGICAL DOT
bCAPITAL LETTER N WITH DESCENDER,bSMALLe,bCAPITAL LETTER C WITH BAR,bSMALLe,fPALATAL HOOK,dHd
bCAPITAL LETTER B WITH FLOURISH,bSMALLe,bCAPITAL LETTER F WITH STROKE,bSMALLe
bCAPITAL LETTER VOLAPUK AE,bSMALLd,bCAPITAL LETTER VOLAPUK OE,bSMALLd,bCAPITAL LETTER VOLAPUK UE
bSMALLd,bCAPITAL LETTER G WITH OBLIQUE STROKE,bSMALLf,bCAPITAL LETTER Kd,bSMALLf,bCAPITAL LETTER Nd
bSMALLf,bCAPITAL LETTER Rd,bSMALLf,bCAPITAL LETTER Sd,bSMALLf,bCAPITAL LETTER H WITH HOOK
dREVERSED OPEN E,dSCRIPT G,dL WITH BELT,dSMALL CAPITAL I,bLETTER SMALL CAPITAL Q
bCAPITAL LETTER TURNED K,eT,dJ WITH CROSSED-TAIL,dCHI,dBETA,bSMALLc,bCAPITAL LETTER OMEGA,bSMALLc
bCAPITAL LETTER U WITH STROKE,bSMALLe,bCAPITAL LETTER GLOTTAL A,bSMALLd,bCAPITAL LETTER GLOTTAL I
bSMALLd,bCAPITAL LETTER GLOTTAL U,bSMALLd,bCAPITAL LETTER OLD POLISH O,bSMALLe
bCAPITAL LETTER ANGLICANA W,bSMALLd,bCAPITAL LETTER C WITH PALATAL HOOK,dS WITHb,dZ WITH PALATALb
dD WITH SHORT STROKE OVERLAY,bSMALLg,bCAPITAL LETTER Se,bSMALLg,5,bCAPITAL LETTER CLOSED INSULAR G
bSMALLe,1,dDOUBLE THORN,1,eWYNN,bCAPITAL LETTER MIDDLE SCOTS S,bSMALLe,bCAPITAL LETTER SIGMOIDb
bSMALLd,24,aMODIFIER LETTER CAPITAL C,dF,dQ,aLATIN CAPITAL LETTER REVERSED HALF H,bSMALLe
bEPIGRAPHIC LETTER SIDEWAYS I,aMODIFIER LETTER CAPITAL H WITH STROKE,cSMALL LIGATURE OE
aLATIN LETTER SMALL CAPITAL TURNED M,bEPIGRAPHIC LETTER REVERSED F,eP,dINVERTED M,dI LONGA
dARCHAIC M,aSYLOTI NAGRI LETTER A,dI,cSIGN DVISVARA,cLETTER U,dE,dO,cSIGN HASANTA,cLETTER KO,dKHO
dGO,dGHO,cSIGN ANUSVARA,cLETTER CO,dCHO,dJO,dJHO,dTTO,dTTHO,dDDO,dDDHO,dTO,dTHO,dDO,dDHO,dNO,dPO
dPHO,dBO,dBHO,dMO,dRO,dLO,dRRO,dSO,dHO,cVOWEL SIGN A,eI,eU,eE,eOO,cPOETRY MARK-1,dMARK-2,dMARK-3
dMARK-4,cSIGN ALTERNATE HASANTA,3,aNORTH INDIC FRACTION ONE QUARTER,eHALF,dTHREE QUARTERS
dONE SIXTEENTH,eEIGHTH,dTHREE SIXTEENTHS,cQUARTER MARK,cPLACEHOLDERb,cRUPEEb,cQUANTITYb,6
aPHAGS-PA LETTER KA,cKHA,cGA,cNGA,cCA,cCHA,cJA,cNYA,cTA,cTHA,cDA,cNA,cPA,cPHA,cBA,cMA,cTSA,cTSHA
cDZA,cWA,cZHA,cZA,cSMALL A,cYA,cRA,cLA,cSHA,cSA,cHA,cA,cI,cU,cE,cO,cQA,cXA,cFA,cGGA,cEE
bSUBJOINED LETTER WA,dYA,bLETTER TTA,cTTHA,cDDA,cNNA,cALTERNATE YA,cVOICELESS SHA,cVOICED HA
cASPIRATED FA,bSUBJOINED LETTER RA,bSUPERFIXEDc,bLETTER CANDRABINDU,bSINGLE HEAD MARK,bDOUBLEc
bMARK SHAD,cDOUBLEb,8,aSAURASHTRA SIGN ANUSVARA,cVISARGA,bLETTER A,cAA,cI,cII,cU,cUU,cVOCALIC R,dRR
dL,dLL,cE,cEE,cAI,cO,cOO,cAU,cKA,cKHA,cGA,cGHA,cNGA,cCA,cCHA,cJA,cJHA,cNYA,cTTA,cTTHA,cDDA,cDDHA
cNNA,cTA,cTHA,cDA,cDHA,cNA,cPA,cPHA,cBA,cBHA,cMA,cYA,cRA,cLA,cVA,cSHA,cSSA,cSA,cHA,cLLA
bCONSONANT SIGN HAARU,bVOWEL SIGN AA,dI,dII,dU,dUU,dVOCALIC R,eRR,eL,eLL,dE,dEE,dAI,dO,dOO,dAU
bSIGN VIRAMA,cCANDRABINDU,8,bDANDA,bDOUBLEb,bDIGIT ZERO,cONE,cTWO,cTHREE,cFOUR,cFIVE,cSIX,cSEVEN
cEIGHT,cNINE,6,aCOMBINING DEVANAGARI DIGIT ZERO,dONE,dTWO,dTHREE,dFOUR,dFIVE,dSIX,dSEVEN,dEIGHT
dNINE,cLETTER A,dU,dKA,dNA,dPA,dRA,dVI,cSIGN AVAGRAHA,aDEVANAGARI SIGN SPACING CANDRABINDU
cCANDRABINDU VIRAMA,cDOUBLEc,cCANDRABINDU TWO,dTHREE,dAVAGRAHA,cPUSHPIKA,bGAP FILLER,bCARET
bHEADSTROKE,bSIGN SIDDHAM,bJAIN OM,bLETTER AY,bVOWEL SIGNb,aKAYAH LI DIGIT ZERO,dONE,dTWO,dTHREE
dFOUR,dFIVE,dSIX,dSEVEN,dEIGHT,dNINE,cLETTER KA,dKHA,dGA,dNGA,dSA,dSHA,dZA,dNYA,dTA,dHTA,dNA,dPA
dPHA,dMA,dDA,dBA,dRA,dYA,dLA,dWA,dTHA,dHA,dVA,dCA,dA,dOE,dI,dOO,cVOWEL UE,dE,dU,dEE,dO,cTONE PLOPHU
dCALYA,ePLOPHU,cSIGN CWI,dSHYA,aREJANG LETTER KA,cGA,cNGA,cTA,cDA,cNA,cPA,cBA,cMA,cCA,cJA,cNYA,cSA
cRA,cLA,cYA,cWA,cHA,cMBA,cNGGA,cNDA,cNYJA,cA,bVOWEL SIGN I,dU,dE,dAI,dO,dAU,dEU,dEA
bCONSONANT SIGN NG,dN,dR,dH,bVIRAMA,11,bSECTION MARK,aHANGUL CHOSEONG TIKEUT-MIEUM,cTIKEUT-PIEUP
cTIKEUT-SIOS,cTIKEUT-CIEUC,cRIEUL-KIYEOK,cRIEUL-SSANGKIYEOK,cRIEUL-TIKEUT,cRIEUL-SSANGTIKEUT
cRIEUL-MIEUM,cRIEUL-PIEUP,cRIEUL-SSANGPIEUP,cRIEUL-KAPYEOUNPIEUP,cRIEUL-SIOS,cRIEUL-CIEUC
cRIEUL-KHIEUKH,cMIEUM-KIYEOK,cMIEUM-TIKEUT,cMIEUM-SIOS,cPIEUP-SIOS-THIEUTH,cPIEUP-KHIEUKH
cPIEUP-HIEUH,cSSANGSIOS-PIEUP,cIEUNG-RIEUL,cIEUNG-HIEUH,cSSANGCIEUC-HIEUH,cSSANGTHIEUTH
cPHIEUPH-HIEUH,cHIEUH-SIOS,cSSANGYEORINHIEUH,3,aJAVANESE SIGN PANYANGGA,cCECAK,cLAYAR,cWIGNYAN
bLETTER A,cI KAWI,d,cII,cU,cPA CEREK,cNGA LELET,eRASWADI,cE,cAI,cO,cKA,dSASAK,dMURDA,cGA,dMURDA,cNGA
cCA,dMURDA,cJA,cNYA MURDA,cJA MAHAPRANA,cNYA,cTTA,dMAHAPRANA,cDDA,dMAHAPRANA,cNA MURDA,cTA,dMURDA
cDA,dMAHAPRANA,cNA,cPA,dMURDA,cBA,dMURDA,cMA,cYA,cRA,dAGUNG,cLA,cWA,cSA MURDA,dMAHAPRANA,d,cHA
bSIGN CECAK TELU,bVOWEL SIGN TARUNG,dTOLONG,dWULU,eMELIK,dSUKU,eMENDUT,dTALING,dDIRGA MURE,dPEPET
bCONSONANT SIGN KERET,dPENGKAL,dCAKRA,bPANGKON,bLEFT RERENGGAN,bRIGHTb,bPADA ANDAP,cMADYA,cLUHUR
cWINDU,cPANGKAT,cLINGSA,cLUNGSI,cADEG,db,cPISELEH,bTURNEDc,1,bPANGRANGKEP,bDIGIT ZERO,cONE,cTWO
cTHREE,cFOUR,cFIVE,cSIX,cSEVEN,cEIGHT,cNINE,4,bPADA TIRTA TUMETES,cISEN-ISEN
aMYANMAR LETTER SHAN GHA,dCHA,dJHA,dNNA,dBHA,bSIGN SHAN SAW,bMODIFIER LETTER SHAN REDUPLICATION
bLETTER TAI LAING NYA,eFA,eGA,eGHA,eJA,eJHA,eDDA,eDDHA,eNNA,bTAI LAING DIGIT ZERO,eONE,eTWO,eTHREE
eFOUR,eFIVE,eSIX,eSEVEN,eEIGHT,eNINE,bLETTER TAI LAING LLA,eDA,eDHA,eBA,eBHA,1,aCHAM LETTER A,cI,cU
cE,cAI,cO,cKA,cKHA,cGA,cGHA,cNGUE,cNGA,cCHA,cCHHA,cJA,cJHA,cNHUE,cNHA,cNHJA,cTA,cTHA,cDA,cDHA,cNUE
cNA,cDDA,cPA,cPPA,cPHA,cBA,cBHA,cMUE,cMA,cBBA,cYA,cRA,cLA,cVA,cSSA,cSA,cHA,bVOWEL SIGN AA,dI,dII,dEI
dU,dOE,dO,dAI,dAU,dUE,bCONSONANT SIGN YA,dRA,dLA,dWA,9,bLETTER FINAL K,dG,dNG,bCONSONANT SIGNc
bLETTER FINAL CH,dT,dN,dP,dY,dR,dL,dSS,bCONSONANT SIGN FINAL M,eH,2,bDIGIT ZERO,cONE,cTWO,cTHREE
cFOUR,cFIVE,cSIX,cSEVEN,cEIGHT,cNINE,2,bPUNCTUATION SPIRAL,cDANDA,cDOUBLEb,cTRIPLEb
aMYANMAR LETTER KHAMTI GA,dCA,dCHA,dJA,dJHA,dNYA,dTTA,dTTHA,dDDA,dDDHA,dDHA,dNA,dSA,dHA,dHHA|dLLA
dFA,bMODIFIER LETTER KHAMTI REDUPLICATION,bLETTER KHAMTI XA,dZA,dRA,bLOGOGRAM KHAMTI OAY,dQN,dHM
bSYMBOL AITON EXCLAMATION,dONE,dTWO,bLETTER AITON RA,bSIGN PAO KAREN TONE,cTAI LAING TONE-2,eTONE-5
bLETTER SHWE PALAUNG CHA,eSHA,aTAI VIET LETTER LOW KO,dHIGHb,dLOW KHO,dHIGHb,dLOW KHHO,dHIGHb
dLOW GO,dHIGHb,dLOW NGO,dHIGHb,dLOW CO,dHIGHb,dLOW CHO,dHIGHb,dLOW SO,dHIGHb,dLOW NYO,dHIGHb,dLOW DO
dHIGHb,dLOW TO,dHIGHb,dLOW THO,dHIGHb,dLOW NO,dHIGHb,dLOW BO,dHIGHb,dLOW PO,dHIGHb,dLOW PHO,dHIGHb
dLOW FO,dHIGHb,dLOW MO,dHIGHb,dLOW YO,dHIGHb,dLOW RO,dHIGHb,dLOW LO,dHIGHb,dLOW VO,dHIGHb,dLOW HO
dHIGHb,dLOW O,dHIGHb,cMAI KANG,cVOWEL AA,dI,dUE,dU,dE,dO,cMAI KHIT,cVOWEL IA,dUEA,dUA,dAUE,dAY,dAN
dAM,cTONE MAI EK,eNUENG,eTHO,eSONG,24,cSYMBOL KON,dNUENG,dSAM,dHO HOI,dKOI KOI
aMEETEI MAYEK LETTER E,dO,dCHA,dNYA,dTTA,dTTHA,dDDA,dDDHA,dNNA,dSHA,dSSA,cVOWEL SIGN II,eUU,eAAI,eAU
eAAU,cCHEIKHAN,cAHANG KHUDAM,cANJI,cSYLLABLE REPETITION MARK,cWORDc,cVOWEL SIGN VISARGA,cVIRAMA,10
aETHIOPIC SYLLABLE TTHU,cTTHI,cTTHAA,cTTHEE,cTTHE,cTTHO,2,cDDHU,cDDHI,cDDHAA,cDDHEE,cDDHE,cDDHO,2
cDZU,cDZI,cDZAA,cDZEE,cDZE,cDZO,9,cCCHHA,cCCHHU,cCCHHI,cCCHHAA,cCCHHEE,cCCHHE,cCCHHO,1,cBBA,cBBU
cBBI,cBBAA,cBBEE,cBBE,cBBO,1,aLATIN SMALL LETTER BARRED ALPHA,dA REVERSED-SCHWA,dBLACKLETTER E
dBARREDb,dE WITH FLOURISH,dLENIS F,dSCRIPT G WITH CROSSED-TAIL,dL WITH INVERTED LAZY S
fDOUBLE MIDDLE TILDE,fMIDDLE RING,dM WITH CROSSED-TAIL,dNc,dENGc,dBLACKLETTER O,fWITH STROKE,dOPENd
dINVERTED OE,dTURNED OE WITH STROKE,gHORIZONTALb,eO OPEN-O,gWITH STROKE,dSTIRRUP R
bLETTER SMALL CAPITAL R WITH RIGHT LEG,bSMALL LETTER R WITHOUT HANDLE,dDOUBLE R,dR WITH CROSSED-TAIL
dDOUBLEd,dSCRIPT R,fWITH RING,dBASELINE ESH,dU WITH SHORT RIGHT LEG,eBARe,dUI,dTURNEDb
dU WITH LEFT HOOK,dCHI,eWITH LOW RIGHT RING,gLEFT SERIF,dX WITH LOW RIGHT RING,fLONG LEFT LEG
iAND LOW RIGHT RING,iWITH SERIF,dY WITH SHORT RIGHT LEG,aMODIFIER BREVE WITH INVERTED BREVE
bLETTER SMALL HENG,dL WITH INVERTED LAZY S,fMIDDLE TILDE,dU WITH LEFT HOOK
aLATIN SMALL LETTER SAKHA YAT,dIOTIFIED E,dOPEN OE,dUO,dINVERTED ALPHA
aGREEK LETTER SMALL CAPITAL OMEGA,aLATIN SMALL LETTER DZ DIGRAPH WITH RETROFLEX HOOK,dTSe
dTURNED R WITH MIDDLE TILDE,aMODIFIER LETTER SMALL TURNED W,cLEFT TACK,cRIGHTb,4
aCHEROKEE SMALL LETTER A,dE,dI,dO,dU,dV,dGA,dKA,dGE,dGI,dGO,dGU,dGV,dHA,dHE,dHI,dHO,dHU,dHV,dLA,dLE
dLI,dLO,dLU,dLV,dMA,dME,dMI,dMO,dMU,dNA,dHNA,dNAH,dNE,dNI,dNO,dNU,dNV,dQUA,dQUE,dQUI,dQUO,dQUU,dQUV
dSA,dS,dSE,dSI,dSO,dSU,dSV,dDA,dTA,dDE,dTE,dDI,dTI,dDO,dDU,dDV,dDLA,dTLA,dTLE,dTLI,dTLO,dTLU,dTLV
dTSA,dTSE,dTSI,dTSO,dTSU,dTSV,dWA,dWE,dWI,dWO,dWU,dWV,dYA,aMEETEI MAYEK LETTER KOK,dSAM,dLAI,dMIT
dPA,dNA,dCHIL,dTIL,dKHOU,dNGOU,dTHOU,dWAI,dYANG,dHUK,dUN,dI,dPHAM,dATIYA,dGOK,dJHAM,dRAI,dBA,dJIL
dDIL,dGHOU,dDHOU,dBHAM,dKOK LONSUM,dLAIb,dMITb,dPAb,dNAb,dTILb,dNGOUb,dIb,cVOWEL SIGN ONAP,eINAP
eANAP,eYENAP,eSOUNAP,eUNAP,eCHEINAP,eNUNG,cCHEIKHEI,cLUM IYEK,cAPUNb,2,cDIGIT ZERO,dONE,dTWO,dTHREE
dFOUR,dFIVE,dSIX,dSEVEN,dEIGHT,dNINE,11190,aHANGUL JUNGSEONG O-YEO,cO-O-I,cYO-A,cYO-AE,cYO-EO,cU-YEO
cU-I-I,cYU-AE,cYU-O,cEU-A,cEU-EO,cEU-E,cEU-O,cI-YA-O,cI-YAE,cI-YEO,cI-YE,cI-O-I,cI-YO,cI-YU,cI-I
cARAEA-A,cARAEA-E,4,bJONGSEONG NIEUN-RIEUL,cNIEUN-CHIEUCH,cSSANGTIKEUT,cSSANGTIKEUT-PIEUP
cTIKEUT-PIEUP,cTIKEUT-SIOS,cTIKEUT-SIOS-KIYEOK,cTIKEUT-CIEUC,cTIKEUT-CHIEUCH,cTIKEUT-THIEUTH
cRIEUL-SSANGKIYEOK,cRIEUL-KIYEOK-HIEUH,cSSANGRIEUL-KHIEUKH,cRIEUL-MIEUM-HIEUH,cRIEUL-PIEUP-TIKEUT
cRIEUL-PIEUP-PHIEUPH,cRIEUL-YESIEUNG,cRIEUL-YEORINHIEUH-HIEUH,cKAPYEOUNRIEUL,cMIEUM-NIEUN
cMIEUM-SSANGNIEUN,cSSANGMIEUM,cMIEUM-PIEUP-SIOS,cMIEUM-CIEUC,cPIEUP-TIKEUT,cPIEUP-RIEUL-PHIEUPH
cPIEUP-MIEUM,cSSANGPIEUP,cPIEUP-SIOS-TIKEUT,cPIEUP-CIEUC,cPIEUP-CHIEUCH,cSIOS-MIEUM
cSIOS-KAPYEOUNPIEUP,cSSANGSIOS-KIYEOK,cSSANGSIOS-TIKEUT,cSIOS-PANSIOS,cSIOS-CIEUC,cSIOS-CHIEUCH
cSIOS-THIEUTH,cSIOS-HIEUH,cPANSIOS-PIEUP,cPANSIOS-KAPYEOUNPIEUP,cYESIEUNG-MIEUM,cYESIEUNG-HIEUH
cCIEUC-PIEUP,cCIEUC-SSANGPIEUP,cSSANGCIEUC,cPHIEUPH-SIOS,cPHIEUPH-THIEUTH,8964
aLATIN SMALL LIGATURE FF,dFI,dFL,dFFI,dFFL,dLONG S T,dST,12,aARMENIAN SMALL LIGATURE MEN NOW,eECH
eINI,dVEW NOW,dMEN XEH,5,aHEBREW LETTER YOD WITH HIRIQ,bPOINT JUDEO-SPANISH VARIKA
bLIGATURE YIDDISH YOD YOD PATAH,bLETTER ALTERNATIVE AYIN,cWIDE ALEF,dDALET,dHE,dKAF,dLAMED
dFINAL MEM,dRESH,dTAV,cALTERNATIVE PLUS SIGN,cSHIN WITH SHIN DOT,eSINb,eDAGESH AND SHINb,gSINb
cALEF WITH PATAH,eQAMATS,eMAPIQ,cBET WITH DAGESH,cGIMELc,cDALETc,cHE WITH MAPIQ,cVAV WITH DAGESH
cZAYINc,1,cTETc,cYODc,cFINAL KAFc,cd,cLAMEDc,1,cMEMc,1,cNUNc,cSAMEKHc,1,cFINAL PEc,cd,1,cTSADIc
cQOFc,cRESHc,cSHINc,cTAVc,cVAV WITH HOLAM,cBET WITH RAFE,cKAFc,cPEc,bLIGATURE ALEF LAMED
aARABIC LETTER ALEF WASLA ISOLATED FORM,eFINALb,cBEEH ISOLATEDb,dFINALb,dINITIALb,dMEDIALb
cPEH ISOLATEDb,dFINALb,dINITIALb,dMEDIALb,cBEHEH ISOLATEDb,dFINALb,dINITIALb,dMEDIALb
cTTEHEH ISOLATEDb,dFINALb,dINITIALb,dMEDIALb,cTEHEH ISOLATEDb,dFINALb,dINITIALb,dMEDIALb
cTTEH ISOLATEDb,dFINALb,dINITIALb,dMEDIALb,cVEH ISOLATEDb,dFINALb,dINITIALb,dMEDIALb
cPEHEH ISOLATEDb,dFINALb,dINITIALb,dMEDIALb,cDYEH ISOLATEDb,dFINALb,dINITIALb,dMEDIALb
cNYEH ISOLATEDb,dFINALb,dINITIALb,dMEDIALb,cTCHEH ISOLATEDb,dFINALb,dINITIALb,dMEDIALb
cTCHEHEH ISOLATEDb,dFINALb,dINITIALb,dMEDIALb,cDDAHAL ISOLATEDb,dFINALb,cDAHAL ISOLATEDb,dFINALb
cDUL ISOLATEDb,dFINALb,cDDAL ISOLATEDb,dFINALb,cJEH ISOLATEDb,dFINALb,cRREH ISOLATEDb,dFINALb
cKEHEH ISOLATEDb,dFINALb,dINITIALb,dMEDIALb,cGAF ISOLATEDb,dFINALb,dINITIALb,dMEDIALb
cGUEH ISOLATEDb,dFINALb,dINITIALb,dMEDIALb,cNGOEH ISOLATEDb,dFINALb,dINITIALb,dMEDIALb
cNOON GHUNNA ISOLATEDb,eFINALb,cRNOON ISOLATEDb,dFINALb,dINITIALb,dMEDIALb
cHEH WITH YEH ABOVE ISOLATEDb,gFINALb,dGOAL ISOLATEDb,eFINALb,eINITIALb,eMEDIALb
dDOACHASHMEE ISOLATEDb,eFINALb,eINITIALb,eMEDIALb,cYEH BARREE ISOLATEDb,eFINALb
eWITH HAMZA ABOVE ISOLATEDb,hFINALb,bSYMBOL DOT ABOVE,dBELOW,cTWO DOTS ABOVE,eBELOW
cTHREE DOTS ABOVE,eBELOW,ePOINTING DOWNWARDS ABOVE,gBELOW,cFOUR DOTS ABOVE,eBELOW
cDOUBLE VERTICAL BARb,cTWO DOTS VERTICALLY ABOVE,fBELOW,cRING,cSMALL TAH ABOVE,eBELOW,cWASLA ABOVE
16,bLETTER NG ISOLATED FORM,dFINALb,dINITIALb,dMEDIALb,cU ISOLATEDb,dFINALb,cOE ISOLATEDb,dFINALb
cYU ISOLATEDb,dFINALb,cU WITH HAMZA ABOVE ISOLATEDb,cVEc,dFINALb,cKIRGHIZ OE ISOLATEDb,eFINALb
dYU ISOLATEDb,eFINALb,cE ISOLATEDb,dFINALb,dINITIALb,dMEDIALb
cUIGHUR KAZAKH KIRGHIZ ALEF MAKSURA INITIALb,hMEDIALb
bLIGATURE YEH WITH HAMZA ABOVE WITH ALEF ISOLATEDb,iFINALb,hAE ISOLATEDb,iFINALb,hWAW ISOLATEDb
iFINALb,hU ISOLATEDb,iFINALb,hOE ISOLATEDb,iFINALb,hYU ISOLATEDb,iFINALb,hE ISOLATEDb,iFINALb
iINITIALb,cUIGHUR KIRGHIZ YEH WITH HAMZA ABOVE WITH ALEF MAKSURA ISOLATEDb,lFINALb,lINITIALb
bLETTER FARSI YEH ISOLATEDb,eFINALb,eINITIALb,eMEDIALb
bLIGATURE YEH WITH HAMZA ABOVE WITH JEEM ISOLATEDb,hHAHc,hMEEMc,hALEF MAKSURAc,hYEHc,cBEH WITH JEEMc
eHAHc,eKHAHc,eMEEMc,eALEF MAKSURAc,eYEHc,cTEH WITH JEEMc,eHAHc,eKHAHc,eMEEMc,eALEF MAKSURAc,eYEHc
cTHEH WITH JEEMc,eMEEMc,eALEF MAKSURAc,eYEHc,cJEEM WITH HAHc,eMEEMc,cHAH WITH JEEMc,eMEEMc
cKHAH WITH JEEMc,eHAHc,eMEEMc,cSEEN WITH JEEMc,eHAHc,eKHAHc,eMEEMc,cSAD WITH HAHc,eMEEMc
cDAD WITH JEEMc,eHAHc,eKHAHc,eMEEMc,cTAH WITH HAHc,eMEEMc,cZAHe,cAIN WITH JEEMc,eMEEMc
cGHAIN WITH JEEMc,eMEEMc,cFEH WITH JEEMc,eHAHc,eKHAHc,eMEEMc,eALEF MAKSURAc,eYEHc,cQAF WITH HAHc
eMEEMc,eALEF MAKSURAc,eYEHc,cKAF WITH ALEFc,eJEEMc,eHAHc,eKHAHc,eLAMc,eMEEMc,eALEF MAKSURAc,eYEHc
cLAM WITH JEEMc,eHAHc,eKHAHc,eMEEMc,eALEF MAKSURAc,eYEHc,cMEEM WITH JEEMc,eHAHc,eKHAHc,eMEEMc
eALEF MAKSURAc,eYEHc,cNOON WITH JEEMc,eHAHc,eKHAHc,eMEEMc,eALEF MAKSURAc,eYEHc,cHEH WITH JEEMc
eMEEMc,eALEF MAKSURAc,eYEHc,cYEH WITH JEEMc,eHAHc,eKHAHc,eMEEMc,eALEF MAKSURAc,eYEHc
cTHAL WITH SUPERSCRIPT ALEFc,cREHf,cALEF MAKSURAf,cSHADDA WITH DAMMATANc,eKASRATANc,eFATHAc,eDAMMAc
eKASRAc,eSUPERSCRIPT ALEFc,cYEH WITH HAMZA ABOVE WITH REH FINALb,hZAINc,hMEEMc,hNOONc,hALEF MAKSURAc
hYEHc,cBEH WITH REHc,eZAINc,eMEEMc,eNOONc,eALEF MAKSURAc,eYEHc,cTEH WITH REHc,eZAINc,eMEEMc,eNOONc
eALEF MAKSURAc,eYEHc,cTHEH WITH REHc,eZAINc,eMEEMc,eNOONc,eALEF MAKSURAc,eYEHc
cFEH WITH ALEF MAKSURAc,eYEHc,cQAF WITH ALEF MAKSURAc,eYEHc,cKAF WITH ALEFc,eLAMc,eMEEMc
eALEF MAKSURAc,eYEHc,cLAM WITH MEEMc,eALEF MAKSURAc,eYEHc,cMEEM WITH ALEFc,eMEEMc,cNOON WITH REHc
eZAINc,eMEEMc,eNOONc,eALEF MAKSURAc,eYEHc,cALEF MAKSURA WITH SUPERSCRIPT ALEFc,cYEH WITH REHc,eZAINc
eMEEMc,eNOONc,eALEF MAKSURAc,eYEHc,eHAMZA ABOVE WITH JEEM INITIALb,hHAHc,hKHAHc,hMEEMc,hHEHc
cBEH WITH JEEMc,eHAHc,eKHAHc,eMEEMc,eHEHc,cTEH WITH JEEMc,eHAHc,eKHAHc,eMEEMc,eHEHc,cTHEH WITH MEEMc
cJEEM WITH HAHc,eMEEMc,cHAH WITH JEEMc,eMEEMc,cKHAH WITH JEEMc,eMEEMc,cSEEN WITH JEEMc,eHAHc,eKHAHc
eMEEMc,cSAD WITH HAHc,eKHAHc,eMEEMc,cDAD WITH JEEMc,eHAHc,eKHAHc,eMEEMc,cTAH WITH HAHc
cZAH WITH MEEMc,cAIN WITH JEEMc,eMEEMc,cGHAIN WITH JEEMc,eMEEMc,cFEH WITH JEEMc,eHAHc,eKHAHc,eMEEMc
cQAF WITH HAHc,eMEEMc,cKAF WITH JEEMc,eHAHc,eKHAHc,eLAMc,eMEEMc,cLAM WITH JEEMc,eHAHc,eKHAHc,eMEEMc
eHEHc,cMEEM WITH JEEMc,eHAHc,eKHAHc,eMEEMc,cNOON WITH JEEMc,eHAHc,eKHAHc,eMEEMc,eHEHc
cHEH WITH JEEMc,eMEEMc,eSUPERSCRIPT ALEFc,cYEH WITH JEEMc,eHAHc,eKHAHc,eMEEMc,eHEHc
eHAMZA ABOVE WITH MEEM MEDIALb,hHEHc,cBEH WITH MEEMc,eHEHc,cTEH WITH MEEMc,eHEHc,cTHEH WITH MEEMc
eHEHc,cSEEN WITH MEEMc,eHEHc,cSHEEN WITH MEEMc,eHEHc,cKAF WITH LAMc,eMEEMc,cLAMe,cNOONe,eHEHc
cYEH WITH MEEMc,eHEHc,cSHADDA WITH FATHAc,eDAMMAc,eKASRAc,cTAH WITH ALEF MAKSURA ISOLATEDb,eYEHc
cAIN WITH ALEF MAKSURAc,eYEHc,cGHAIN WITH ALEF MAKSURAc,eYEHc,cSEEN WITH ALEF MAKSURAc,eYEHc
cSHEEN WITH ALEF MAKSURAc,eYEHc,cHAH WITH ALEF MAKSURAc,eYEHc,cJEEM WITH ALEF MAKSURAc,eYEHc
cKHAH WITH ALEF MAKSURAc,eYEHc,cSAD WITH ALEF MAKSURAc,eYEHc,cDAD WITH ALEF MAKSURAc,eYEHc
cSHEEN WITH JEEMc,eHAHc,eKHAHc,eMEEMc,eREHc,cSEENe,cSADe,cDADe,cTAH WITH ALEF MAKSURA FINALb,eYEHc
cAIN WITH ALEF MAKSURAc,eYEHc,cGHAIN WITH ALEF MAKSURAc,eYEHc,cSEEN WITH ALEF MAKSURAc,eYEHc
cSHEEN WITH ALEF MAKSURAc,eYEHc,cHAH WITH ALEF MAKSURAc,eYEHc,cJEEM WITH ALEF MAKSURAc,eYEHc
cKHAH WITH ALEF MAKSURAc,eYEHc,cSAD WITH ALEF MAKSURAc,eYEHc,cDAD WITH ALEF MAKSURAc,eYEHc
cSHEEN WITH JEEMc,eHAHc,eKHAHc,eMEEMc,eREHc,cSEENe,cSADe,cDADe,cSHEEN WITH JEEM INITIALb,eHAHc
eKHAHc,eMEEMc,cSEEN WITH HEHc,cSHEENe,cTAH WITH MEEMc,cSEEN WITH JEEM MEDIALb,eHAHc,eKHAHc
cSHEEN WITH JEEMc,eHAHc,eKHAHc,cTAH WITH MEEMc,cZAHe,cALEF WITH FATHATAN FINALb,fISOLATEDb
aORNATE LEFT PARENTHESIS,bRIGHTb,aARABIC LIGATURE RAHIMAHU ALLAAH,cRADI ALLAAHU ANH,eANHAA,eANHUM
eANHUMAA,eANHUNNA,cSALLALLAAHU ALAYHI WA-AALIH,cALAYHI AS-SALAAM,cALAYHIMb,cALAYHIMAAb
cALAYHI AS-SALAATU WAS-SALAAM,cQUDDISA SIRRAH,cSALLALLAHU ALAYHI WAAALIHEE WA-SALLAM
cALAYHAA AS-SALAAM,cTABAARAKA WA-TAAALAA,cRAHIMAHUM ALLAAH,cTEH WITH JEEM WITH MEEM INITIAL FORM
eHAH WITH JEEM FINALb,hINITIALb,gMEEMc,eKHAHe,eMEEM WITH JEEMc,gHAHc,gKHAHc
cJEEM WITH MEEM WITH HAH FINALb,hINITIALb,cHAH WITH MEEM WITH YEH FINALb,gALEF MAKSURAc
cSEEN WITH HAH WITH JEEM INITIALb,eJEEM WITH HAHc,gALEF MAKSURA FINALb,eMEEM WITH HAHc,hINITIALb
gJEEMc,gMEEM FINALb,hINITIALb,cSAD WITH HAH WITH HAH FINALb,hINITIALb,eMEEM WITH MEEM FINALb
cSHEEN WITH HAHe,hINITIALb,eJEEM WITH YEH FINALb,eMEEM WITH KHAHc,hINITIALb,gMEEM FINALb,hINITIALb
cDAD WITH HAH WITH ALEF MAKSURA FINALb,eKHAH WITH MEEMc,hINITIALb,cTAH WITH MEEM WITH HAH FINALb
hINITIALb,gMEEMc,gYEH FINALb,cAIN WITH JEEM WITH MEEMc,eMEEMe,hINITIALb,gALEF MAKSURA FINALb
cGHAIN WITH MEEM WITH MEEMc,gYEHc,gALEF MAKSURAc,cFEH WITH KHAH WITH MEEMc,hINITIALb
cQAF WITH MEEM WITH HAH FINALb,gMEEMc,cLAM WITH HAHe,gYEHc,gALEF MAKSURAc,eJEEM WITH JEEM INITIALb
hFINALb,eKHAH WITH MEEMc,hINITIALb,eMEEM WITH HAH FINALb,hINITIALb,cMEEM WITH HAH WITH JEEMc,gMEEMc
gYEH FINALb,eJEEM WITH HAH INITIALb,gMEEMc,eKHAH WITH JEEMc,gMEEMc,2,eJEEM WITH KHAHc
cHEH WITH MEEM WITH JEEMc,gMEEMc,cNOON WITH HAHe,gALEF MAKSURA FINALb,eJEEM WITH MEEMc,hINITIALb
gALEF MAKSURA FINALb,eMEEM WITH YEHc,gALEF MAKSURAc,cYEH WITH MEEM WITH MEEMc,hINITIALb
cBEH WITH KHAH WITH YEH FINALb,cTEH WITH JEEMe,gALEF MAKSURAc,eKHAH WITH YEHc,gALEF MAKSURAc
eMEEM WITH YEHc,gALEF MAKSURAc,cJEEM WITH MEEM WITH YEHc,eHAH WITH ALEF MAKSURAc,eMEEMf
cSEEN WITH KHAHf,cSAD WITH HAH WITH YEHc,cSHEENg,cDADg,cLAM WITH JEEMe,eMEEMe,cYEH WITH HAHe,eJEEMe
eMEEMe,cMEEMg,cQAFg,cNOON WITH HAHe,cQAF WITH MEEM WITH HAH INITIALb,cLAM WITH HAH WITH MEEMc
cAIN WITH MEEM WITH YEH FINALb,cKAFg,cNOON WITH JEEM WITH HAH INITIALb
cMEEM WITH KHAH WITH YEH FINALb,cLAM WITH JEEM WITH MEEM INITIALb,cKAF WITH MEEM WITH MEEM FINALb
cLAM WITH JEEMe,cNOON WITH JEEM WITH HAHc,cJEEM WITH HAH WITH YEHc,cHAH WITH JEEMe,cMEEMg
cFEH WITH MEEMe,cBEH WITH HAHe,cKAF WITH MEEM WITH MEEM INITIALb,cAIN WITH JEEMe,cSAD WITH MEEMe
cSEEN WITH KHAH WITH YEH FINALb,cNOON WITH JEEMe,7,cSALAAMUHU ALAYNAA,32
cSALLA USED AS KORANIC STOP SIGN ISOLATED FORM,cQALAh,cALLAHc,cAKBARc,cMOHAMMADc,cSALAMc,cRASOULc
cALAYHEc,cWASALLAMc,cSALLAc,cSALLALLAHOU ALAYHE WASALLAM,cJALLAJALALOUHOU,aRIAL SIGN
aARABIC LIGATURE BISMILLAH AR-RAHMAN AR-RAHEEM,cSUBHAANAHU WA TAAALAA,cAZZA WA JALL
aVARIATION SELECTOR-1|aVS1,aVARIATION SELECTOR-2|aVS2,aVARIATION SELECTOR-3|aVS3
aVARIATION SELECTOR-4|aVS4,aVARIATION SELECTOR-5|aVS5,aVARIATION SELECTOR-6|aVS6
aVARIATION SELECTOR-7|aVS7,aVARIATION SELECTOR-8|aVS8,aVARIATION SELECTOR-9|aVS9
aVARIATION SELECTOR-10|aVS10,aVARIATION SELECTOR-11|aVS11,aVARIATION SELECTOR-12|aVS12
aVARIATION SELECTOR-13|aVS13,aVARIATION SELECTOR-14|aVS14,aVARIATION SELECTOR-15|aVS15
aVARIATION SELECTOR-16|aVS16,aPRESENTATION FORM FOR VERTICAL COMMA,eIDEOGRAPHICb,fFULL STOP,eCOLON
eSEMICOLON,eEXCLAMATION MARK,eQUESTIONb,eLEFT WHITE LENTICULAR BRACKET
eRIGHT WHITE LENTICULAR BRAKCET|hBRACKET,eHORIZONTAL ELLIPSIS,6,aCOMBINING LIGATURE LEFT HALF
cRIGHTb,bDOUBLE TILDE LEFTb,dRIGHTb,bMACRON LEFTb,cRIGHTb,bCONJOINING MACRON
bLIGATURE LEFT HALF BELOW,cRIGHTc,bTILDE LEFTc,cRIGHTc,bMACRON LEFTc,cRIGHTc,bCONJOINING MACRONb
bCYRILLIC TITLO LEFT HALF,dRIGHTb,aPRESENTATION FORM FOR VERTICAL TWO DOT LEADER,eEM DASH,eENb
eLOW LINE,eWAVYc,eLEFT PARENTHESIS,eRIGHTb,eLEFT CURLY BRACKET,eRIGHTc,eLEFT TORTOISE SHELLb,eRIGHTd
eLEFT BLACK LENTICULARb,eRIGHTd,eLEFT DOUBLE ANGLEb,eRIGHTd,eLEFTc,eRIGHTc,eLEFT CORNERb,eRIGHTc
eLEFT WHITEc,eRIGHTd,aSESAME DOT,aWHITEc,aPRESENTATION FORM FOR VERTICAL LEFT SQUARE BRACKET,eRIGHTc
aDASHED OVERLINE,aCENTRELINEb,aWAVYb,aDOUBLEc,aDASHED LOW LINE,aCENTRELINEc,aWAVYc,aSMALL COMMA
bIDEOGRAPHICb,bFULL STOP,1,bSEMICOLON,bCOLON,bQUESTION MARK,bEXCLAMATIONb,bEM DASH,bLEFT PARENTHESIS
bRIGHTb,bLEFT CURLY BRACKET,bRIGHTc,bLEFT TORTOISE SHELLb,bRIGHTd,bNUMBER SIGN,bAMPERSAND,bASTERISK
bPLUS SIGN,bHYPHEN-MINUS,bLESS-THAN SIGN,bGREATER-THANb,bEQUALSb,1,bREVERSE SOLIDUS,bDOLLAR SIGN
bPERCENTb,bCOMMERCIAL AT,4,aARABIC FATHATAN ISOLATED FORM,bTATWEEL WITH FATHATAN ABOVE
bDAMMATAN ISOLATED FORM,bTAIL FRAGMENT,bKASRATAN ISOLATED FORM,1,bFATHAc,cMEDIALb,bDAMMA ISOLATEDb
cMEDIALb,bKASRA ISOLATEDb,cMEDIALb,bSHADDA ISOLATEDb,cMEDIALb,bSUKUN ISOLATEDb,cMEDIALb
bLETTER HAMZA ISOLATEDb,cALEF WITH MADDA ABOVEc,gFINALb,eHAMZA ABOVE ISOLATEDb,gFINALb
cWAW WITH HAMZA ABOVE ISOLATEDb,gFINALb,cALEF WITH HAMZA BELOW ISOLATEDb,gFINALb
cYEH WITH HAMZA ABOVE ISOLATEDb,gFINALb,gINITIALb,gMEDIALb,cALEF ISOLATEDb,dFINALb,cBEH ISOLATEDb
dFINALb,dINITIALb,dMEDIALb,cTEH MARBUTA ISOLATEDb,eFINALb,dISOLATEDb,dFINALb,dINITIALb,dMEDIALb
cTHEH ISOLATEDb,dFINALb,dINITIALb,dMEDIALb,cJEEM ISOLATEDb,dFINALb,dINITIALb,dMEDIALb,cHAH ISOLATEDb
dFINALb,dINITIALb,dMEDIALb,cKHAH ISOLATEDb,dFINALb,dINITIALb,dMEDIALb,cDAL ISOLATEDb,dFINALb
cTHAL ISOLATEDb,dFINALb,cREH ISOLATEDb,dFINALb,cZAIN ISOLATEDb,dFINALb,cSEEN ISOLATEDb,dFINALb
dINITIALb,dMEDIALb,cSHEEN ISOLATEDb,dFINALb,dINITIALb,dMEDIALb,cSAD ISOLATEDb,dFINALb,dINITIALb
dMEDIALb,cDAD ISOLATEDb,dFINALb,dINITIALb,dMEDIALb,cTAH ISOLATEDb,dFINALb,dINITIALb,dMEDIALb
cZAH ISOLATEDb,dFINALb,dINITIALb,dMEDIALb,cAIN ISOLATEDb,dFINALb,dINITIALb,dMEDIALb,cGHAIN ISOLATEDb
dFINALb,dINITIALb,dMEDIALb,cFEH ISOLATEDb,dFINALb,dINITIALb,dMEDIALb,cQAF ISOLATEDb,dFINALb
dINITIALb,dMEDIALb,cKAF ISOLATEDb,dFINALb,dINITIALb,dMEDIALb,cLAM ISOLATEDb,dFINALb,dINITIALb
dMEDIALb,cMEEM ISOLATEDb,dFINALb,dINITIALb,dMEDIALb,cNOON ISOLATEDb,dFINALb,dINITIALb,dMEDIALb
cHEH ISOLATEDb,dFINALb,dINITIALb,dMEDIALb,cWAW ISOLATEDb,dFINALb,cALEF MAKSURA ISOLATEDb,eFINALb
cYEH ISOLATEDb,dFINALb,dINITIALb,dMEDIALb,bLIGATURE LAM WITH ALEF WITH MADDA ABOVE ISOLATEDb,iFINALb
gHAMZA ABOVE ISOLATEDb,iFINALb,hBELOW ISOLATEDb,iFINALb,fISOLATEDb,fFINALb,2
aZERO WIDTH NO-BREAK SPACE|aBYTE ORDER MARK|aBOM|aZWNBSP,1,aFULLWIDTH EXCLAMATION MARK,bQUOTATIONb
bNUMBER SIGN,bDOLLARb,bPERCENTb,bAMPERSAND,bAPOSTROPHE,bLEFT PARENTHESIS,bRIGHTb,bASTERISK
bPLUS SIGN,bCOMMA,bHYPHEN-MINUS,bFULL STOP,bSOLIDUS,bDIGIT ZERO,cONE,cTWO,cTHREE,cFOUR,cFIVE,cSIX
cSEVEN,cEIGHT,cNINE,bCOLON,bSEMICOLON,bLESS-THAN SIGN,bEQUALSb,bGREATER-THANb,bQUESTION MARK
bCOMMERCIAL AT,bLATIN CAPITAL LETTER A,eB,eC,eD,eE,eF,eG,eH,eI,eJ,eK,eL,eM,eN,eO,eP,eQ,eR,eS,eT,eU
eV,eW,eX,eY,eZ,bLEFT SQUARE BRACKET,bREVERSE SOLIDUS,bRIGHT SQUARE BRACKET,bCIRCUMFLEX ACCENT
bLOW LINE,bGRAVE ACCENT,bLATIN SMALL LETTER A,eB,eC,eD,eE,eF,eG,eH,eI,eJ,eK,eL,eM,eN,eO,eP,eQ,eR,eS
eT,eU,eV,eW,eX,eY,eZ,bLEFT CURLY BRACKET,bVERTICAL LINE,bRIGHT CURLY BRACKET,bTILDE
bLEFT WHITE PARENTHESIS,bRIGHTc,aHALFWIDTH IDEOGRAPHIC FULL STOP,bLEFT CORNER BRACKET,bRIGHTc
bIDEOGRAPHIC COMMA,bKATAKANA MIDDLE DOT,cLETTER WO,dSMALL A,eI,eU,eE,eO,eYA,eYU,eYO,eTU
bKATAKANA-HIRAGANA PROLONGED SOUND MARK,bKATAKANA LETTER A,dI,dU,dE,dO,dKA,dKI,dKU,dKE,dKO,dSA,dSI
dSU,dSE,dSO,dTA,dTI,dTU,dTE,dTO,dNA,dNI,dNU,dNE,dNO,dHA,dHI,dHU,dHE,dHO,dMA,dMI,dMU,dME,dMO,dYA,dYU
dYO,dRA,dRI,dRU,dRE,dRO,dWA,dN,cVOICED SOUND MARK,cSEMI-VOICEDc,bHANGUL FILLER,cLETTER KIYEOK
dSSANGKIYEOK,dKIYEOK-SIOS,dNIEUN,dNIEUN-CIEUC,dNIEUN-HIEUH,dTIKEUT,dSSANGTIKEUT,dRIEUL,dRIEUL-KIYEOK
dRIEUL-MIEUM,dRIEUL-PIEUP,dRIEUL-SIOS,dRIEUL-THIEUTH,dRIEUL-PHIEUPH,dRIEUL-HIEUH,dMIEUM,dPIEUP
dSSANGPIEUP,dPIEUP-SIOS,dSIOS,dSSANGSIOS,dIEUNG,dCIEUC,dSSANGCIEUC,dCHIEUCH,dKHIEUKH,dTHIEUTH
dPHIEUPH,dHIEUH,3,dA,dAE,dYA,dYAE,dEO,dE,2,dYEO,dYE,dO,dWA,dWAE,dOE,2,dYO,dU,dWEO,dWE,dWI,dYU,2,dEU
dYI,dI,3,aFULLWIDTH CENT SIGN,bPOUNDb,bNOTb,bMACRON,bBROKEN BAR,bYEN SIGN,bWONb,1
aHALFWIDTH FORMS LIGHT VERTICAL,bLEFTWARDS ARROW,bUPWARDSb,bRIGHTWARDSb,bDOWNWARDSb,bBLACK SQUARE
bWHITE CIRCLE,10,aINTERLINEAR ANNOTATION ANCHOR,cSEPARATOR,cTERMINATOR,aOBJECT REPLACEMENT CHARACTER
ac,2,aLINEAR B SYLLABLE B008 A,dB038 E,dB028 I,dB061 O,dB010 U,dB001 DA,dB045 DE,dB007 DI,dB014 DO
dB051 DU,dB057 JA,dB046 JE,1,dB036 JO,dB065 JU,dB077 KA,dB044 KE,dB067 KI,dB070 KO,dB081 KU,dB080 MA
dB013 ME,dB073 MI,dB015 MO,dB023 MU,dB006 NA,dB024 NE,dB030 NI,dB052 NO,dB055 NU,dB003 PA,dB072 PE
dB039 PI,dB011 PO,dB050 PU,dB016 QA,dB078 QE,dB021 QI,dB032 QO,1,dB060 RA,dB027 RE,dB053 RI,dB002 RO
dB026 RU,dB031 SA,dB009 SE,dB041 SI,dB012 SO,dB058 SU,dB059 TA,dB004 TE,dB037 TI,dB005 TO,dB069 TU
dB054 WA,dB075 WE,dB040 WI,dB042 WO,1,dB017 ZA,dB074 ZE,1,dB020 ZO,dB025 A2,dB043 A3,dB085 AU
dB071 DWE,dB090 DWO,dB048 NWA,dB029 PU2,dB062 PTE,dB076 RA2,dB033 RA3,dB068 RO2,dB066 TA2,dB087 TWE
dB091 TWO,2,cSYMBOL B018,dB019,dB022,dB034,dB047,dB049,dB056,dB063,dB064,dB079,dB082,dB083,dB086
dB089,34,cIDEOGRAM B100 MAN,dB102 WOMAN,dB104 DEER,dB105 EQUID,dB105F MARE,dB105M STALLION
dB106F EWE,dB106M RAM,dB107F SHE-GOAT,dB107M HE-GOAT,dB108F SOW,dB108M BOAR,dB109F COW,dB109M BULL
dB120 WHEAT,dB121 BARLEY,dB122 OLIVE,dB123 SPICE,dB125 CYPERUS,cMONOGRAM B127 KAPO,dB128 KANAKO
cIDEOGRAM B130 OIL,dB131 WINE,dB132,cMONOGRAM B133 AREPA,dB135 MERI,cIDEOGRAM B140 BRONZE,dB141 GOLD
dB142,dB145 WOOL,dB146,dB150,dB151 HORN,dB152,dB153,dB154,cMONOGRAM B156 TURO2,cIDEOGRAM B157,dB158
dB159 CLOTH,dB160,dB161,dB162 GARMENT,dB163 ARMOUR,dB164,dB165,dB166,dB167,dB168,dB169,dB170,dB171
dB172,dB173 MONTH,dB174,dB176 TREE,dB177,dB178,dB179,dB180,dB181,dB182,dB183,dB184,dB185,dB189,dB190
dB191 HELMET,dB220 FOOTSTOOL,dB225 BATHTUB,dB230 SPEAR,dB231 ARROW,dB232,dB233 SWORD,dB234,dB236
dB240 WHEELED CHARIOT,dB241b,dB242 CHARIOT FRAME,dB243 WHEEL,dB245,dB246,cMONOGRAM B247 DIPTE
cIDEOGRAM B248,dB249,dB251,dB252,dB253,dB254 DART,dB255,dB256,dB257,dB258,dB259,dVESSEL B155,eB200
eB201,eB202,eB203,eB204,eB205,eB206,eB207,eB208,eB209,eB210,eB211,eB212,eB213,eB214,eB215,eB216
eB217,eB218,eB219,eB221,eB222,eB226,eB227,eB228,eB229,eB250,eB305,5,aAEGEAN WORD SEPARATOR LINE,dDOT
bCHECK MARK,4,bNUMBER ONE,cTWO,cTHREE,cFOUR,cFIVE,cSIX,cSEVEN,cEIGHT,cNINE,cTEN,cTWENTY,cTHIRTY
cFORTY,cFIFTY,cSIXTY,cSEVENTY,cEIGHTY,cNINETY,cONE HUNDRED,cTWOb,cTHREEb,cFOURb,cFIVEb,cSIXb,cSEVENb
cEIGHTb,cNINEb,cONE THOUSAND,cTWOb,cTHREEb,cFOURb,cFIVEb,cSIXb,cSEVENb,cEIGHTb,cNINEb,cTENb,cTWENTYb
cTHIRTYb,cFORTYb,cFIFTYb,cSIXTYb,cSEVENTYb,cEIGHTYb,cNINETYb,3,bWEIGHT BASE UNIT,cFIRST SUBUNIT
cSECONDb,cTHIRDb,cFOURTHb,bDRY MEASURE FIRSTb,bLIQUIDd,bMEASURE SECONDb,cTHIRDb
aGREEK ACROPHONIC ATTIC ONE QUARTER,eHALF,eDRACHMA,dFIVE,dFIFTY,dFIVE HUNDRED,eTHOUSAND,dFIFTYb
dFIVE TALENTS,dTENb,dFIFTYb,dONE HUNDREDb,dFIVEc,dONE THOUSANDb,dFIVEc,eSTATERS,dTENb,dFIFTYb
dONE HUNDREDb,dFIVEc,dONE THOUSANDb,dTENc,dFIFTYc,dTEN MNAS,cHERAEUM ONE PLETHRON,cTHESPIAN ONE
cHERMIONIANb,cEPIDAUREAN TWO,cTHESPIANb,cCYRENAIC TWO DRACHMAS,cEPIDAUREANc,cTROEZENIAN FIVE,dTEN
eALTERNATE FORM,cHERMIONIAN TEN,cMESSENIANb,cTHESPIANb,dTHIRTY,cTROEZENIAN FIFTY,eALTERNATE FORM
cHERMIONIAN FIFTY,cTHESPIANb,dONE HUNDRED,dTHREEb,cEPIDAUREAN FIVEb,cTROEZENIANc,cTHESPIANc
cCARYSTIANc,cNAXIANc,cTHESPIAN ONE THOUSAND,dFIVEb,cDELPHIC FIVE MNAS,cSTRATIAN FIFTYb
bONE HALF SIGN,eALTERNATE FORM,bTWO THIRDS SIGN,bTHREE QUARTERSb,bYEARb,bTALENTb,bDRACHMAb,bOBOLb
bTWO OBOLSb,bTHREEc,bFOURc,bFIVEc,bMETRETESb,bKYATHOS BASEb,bLITRAb,bOUNKIAb,bXESTESb,bARTABEb
bAROURAb,bGRAMMAb,bTRYBLION BASEb,bZEROb,bONE QUARTERb,bSINUSOIDb,bINDICTIONb,aNOMISMAb,1
aROMAN SEXTANSb,bUNCIAb,bSEMUNCIAb,bSEXTULAb,bDIMIDIAc,bSILIQUAb,bDENARIUSb,bQUINARIUSb,bSESTERTIUSb
bDUPONDIUSb,bASb,bCENTURIALb,aASCIA SYMBOL,3,aGREEK SYMBOL TAU RHO,47,aPHAISTOS DISC SIGN PEDESTRIAN
dPLUMED HEAD,dTATTOOEDb,dCAPTIVE,dCHILD,dWOMAN,dHELMET,dGAUNTLET,dTIARA,dARROW,dBOW,dSHIELD,dCLUB
dMANACLES,dMATTOCK,dSAW,dLID,dBOOMERANG,dCARPENTRY PLANE,dDOLIUM,dCOMB,dSLING,dCOLUMN,dBEEHIVE,dSHIP
dHORN,dHIDE,dBULLS LEG,dCAT,dRAM,dEAGLE,dDOVE,dTUNNY,dBEE,dPLANE TREE,dVINE,dPAPYRUS,dROSETTE,dLILY
dOX BACK,dFLUTE,dGRATER,dSTRAINER,dSMALL AXE,dWAVY BAND,dCOMBINING OBLIQUE STROKE,130
aLYCIAN LETTER A,cE,cB,cBH,cG,cD,cI,cW,cZ,cTH,cJ,cK,cQ,cL,cM,cN,cMM,cNN,cU,cP,cKK,cR,cS,cT,cTT,cAN
cEN,cH,cX,3,aCARIAN LETTER A,cP2,cD,cL,cUUU,cR,cLD,cA2,cQ,cB,cM,cO,cD2,cT,cSH,cSH2,cS,cC-18,cU,cNN
cX,cN,cTT2,cP,cSS,cI,cE,cUUUU,cK,cK2,cND,cUU,cG,cG2,cST,cST2,cNG,cII,cC-39,cTT,cUUU2,cRR,cMB,cMB2
cMB3,cMB4,cLD2,cE2,cUUU3,15,aCOPTIC EPACT THOUSANDS MARK,cDIGIT ONE,dTWO,dTHREE,dFOUR,dFIVE,dSIX
dSEVEN,dEIGHT,dNINE,cNUMBER TEN,dTWENTY,dTHIRTY,dFORTY,dFIFTY,dSIXTY,dSEVENTY,dEIGHTY,dNINETY
dONE HUNDRED,dTWOb,dTHREEb,dFOURb,dFIVEb,dSIXb,dSEVENb,dEIGHTb,dNINEb,4,aOLD ITALIC LETTER A,dBE,dKE
dDE,dE,dVE,dZE,dHE,dTHE,dI,dKA,dEL,dEM,dEN,dESH,dO,dPE,dSHE,dKU,dER,dES,dTE,dU,dEKS,dPHE,dKHE,dEF
dERS,dCHE,dII,dUU,dESS,cNUMERAL ONE,dFIVE,dTEN,dFIFTY,9,cLETTER YE,dNORTHERN TSE,dSOUTHERNb
aGOTHIC LETTER AHSA,cBAIRKAN,cGIBA,cDAGS,cAIHVUS,cQAIRTHRA,cIUJA,cHAGL,cTHIUTH,cEIS,cKUSMA,cLAGUS
cMANNA,cNAUTHS,cJER,cURUS,cPAIRTHRA,cNINETY,cRAIDA,cSAUIL,cTEIWS,cWINJA,cFAIHU,cIGGWS,cHWAIR,cOTHAL
cNINE HUNDRED,5,aOLD PERMIC LETTER AN,dBUR,dGAI,dDOI,dE,dZHOI,dDZHOI,dZATA,dDZITA,dI,dKOKE,dLEI
dMENOE,dNENOE,dVOOI,dPEEI,dREI,dSII,dTAI,dU,dCHERY,dSHOOI,dSHCHOOI,dYRY,dYERU,dO,dOO,dEF,dHA,dTSIU
dVER,dYER,dYERI,dYAT,dIE,dYU,dYA,dIA,aCOMBINING OLD PERMIC LETTER AN,eDOI,eZATA,eNENOE,eSII,5
aUGARITIC LETTER ALPA,cBETA,cGAMLA,cKHA,cDELTA,cHO,cWO,cZETA,cHOTA,cTET,cYOD,cKAF,cSHIN,cLAMDA,cMEM
cDHAL,cNUN,cZU,cSAMKA,cAIN,cPU,cSADE,cQOPA,cRASHA,cTHANNA,cGHAIN,cTO,cI,cU,cSSU,1,bWORD DIVIDER
aOLD PERSIAN SIGN A,dI,dU,dKA,dKU,dGA,dGU,dXA,dCA,dJA,dJI,dTA,dTU,dDA,dDI,dDU,dTHA,dPA,dBA,dFA,dNA
dNU,dMA,dMI,dMU,dYA,dVA,dVI,dRA,dRU,dLA,dSA,dZA,dSHA,dSSA,dHA,4,dAURAMAZDAA,dAURAMAZDAA-2
dAURAMAZDAAHA,dXSHAAYATHIYA,dDAHYAAUSH,dDAHYAAUSH-2,dBAGA,dBUUMISH,cWORD DIVIDER,cNUMBER ONE,dTWO
dTEN,dTWENTY,dHUNDRED,42,aDESERET CAPITAL LETTER LONG I,eE,eA,eAH,eO,eOO,dSHORT I,eE,eA,eAH,eO,eOO
dAY,dOW,dWU,dYEE,dH,dPEE,dBEE,dTEE,dDEE,dCHEE,dJEE,dKAY,dGAY,dEF,dVEE,dETH,dTHEE,dES,dZEE,dESH,dZHEE
dER,dEL,dEM,dEN,dENG,dOI,dEW,bSMALL LETTER LONG I,eE,eA,eAH,eO,eOO,dSHORT I,eE,eA,eAH,eO,eOO,dAY,dOW
dWU,dYEE,dH,dPEE,dBEE,dTEE,dDEE,dCHEE,dJEE,dKAY,dGAY,dEF,dVEE,dETH,dTHEE,dES,dZEE,dESH,dZHEE,dER,dEL
dEM,dEN,dENG,dOI,dEW,aSHAVIAN LETTER PEEP,cTOT,cKICK,cFEE,cTHIGH,cSO,cSURE,cCHURCH,cYEA,cHUNG,cBIB
cDEAD,cGAG,cVOW,cTHEY,cZOO,cMEASURE,cJUDGE,cWOE,cHA-HA,cLOLL,cMIME,cIF,cEGG,cASH,cADO,cON,cWOOL,cOUT
cAH,cROAR,cNUN,cEAT,cAGE,cICE,cUP,cOAK,cOOZE,cOIL,cAWE,cARE,cOR,cAIR,cERR,cARRAY,cEAR,cIAN,cYEW
aOSMANYA LETTER ALEF,cBA,cTA,cJA,cXA,cKHA,cDEEL,cRA,cSA,cSHIIN,cDHA,cCAYN,cGA,cFA,cQAAF,cKAAF,cLAAN
cMIIN,cNUUN,cWAW,cHA,cYA,cA,cE,cI,cO,cU,cAA,cEE,cOO,2,bDIGIT ZERO,cONE,cTWO,cTHREE,cFOUR,cFIVE,cSIX
cSEVEN,cEIGHT,cNINE,6,aOSAGE CAPITAL LETTER A,dAI,dAIN,dAH,dBRA,dCHA,dEHCHA,dE,dEIN,dHA,dHYA,dI,dKA
dEHKA,dKYA,dLA,dMA,dNA,dO,dOIN,dPA,dEHPA,dSA,dSHA,dTA,dEHTA,dTSA,dEHTSA,dTSHA,dDHA,dU,dWA,dKHA,dGHA
dZA,dZHA,4,bSMALL LETTER A,dAI,dAIN,dAH,dBRA,dCHA,dEHCHA,dE,dEIN,dHA,dHYA,dI,dKA,dEHKA,dKYA,dLA,dMA
dNA,dO,dOIN,dPA,dEHPA,dSA,dSHA,dTA,dEHTA,dTSA,dEHTSA,dTSHA,dDHA,dU,dWA,dKHA,dGHA,dZA,dZHA,4
aELBASAN LETTER A,cBE,cCE,cCHE,cDE,cNDE,cDHE,cEI,cE,cFE,cGE,cGJE,cHE,cI,cJE,cKE,cLE,cLLE,cME,cNE,cNA
cNJE,cO,cPE,cQE,cRE,cRRE,cSE,cSHE,cTE,cTHE,cU,cVE,cXE,cY,cZE,cZHE,cGHE,cGHAMMA,cKHE,8
aCAUCASIAN ALBANIAN LETTER ALT,dBET,dGIM,dDAT,dEB,dZARL,dEYN,dZHIL,dTAS,dCHA,dYOWD,dZHA,dIRB,dSHA
dLAN,dINYA,dXEYN,dDYAN,dCAR,dJHOX,dKAR,dLYIT,dHEYT,dQAY,dAOR,dCHOY,dCHI,dCYAY,dMAQ,dQAR,dNOWC,dDZYAY
dSHAK,dJAYN,dON,dTYAY,dFAM,dDZAY,dCHAT,dPEN,dGHEYS,dRAT,dSEYK,dVEYZ,dTIWR,dSHOY,dIWN,dCYAW,dCAYN
dYAYD,dPIWR,dKIW,11,cCITATION MARK,aVITHKUQI CAPITAL LETTER A,dBBE,dBE,dCE,dCHE,dDE,dDHE,dEI,dE,dFE
dGA,1,dHA,dHHA,dI,dIJE,dJE,dKA,dLA,dLLA,dME,dNE,dNJE,dO,dPE,dQA,dRE,1,dSE,dSHE,dTE,dTHE,dU,dVE,dXE,1
dY,dZE,1,bSMALL LETTER A,dBBE,dBE,dCE,dCHE,dDE,dDHE,dEI,dE,dFE,dGA,1,dHA,dHHA,dI,dIJE,dJE,dKA,dLA
dLLA,dME,dNE,dNJE,dO,dPE,dQA,dRE,1,dSE,dSHE,dTE,dTHE,dU,dVE,dXE,1,dY,dZE,67,aLINEAR A SIGN AB001
dAB002,dAB003,dAB004,dAB005,dAB006,dAB007,dAB008,dAB009,dAB010,dAB011,dAB013,dAB016,dAB017,dAB020
dAB021,dAB021F,dAB021M,dAB022,dAB022F,dAB022M,dAB023,dAB023M,dAB024,dAB026,dAB027,dAB028,dA028B
dAB029,dAB030,dAB031,dAB034,dAB037,dAB038,dAB039,dAB040,dAB041,dAB044,dAB045,dAB046,dAB047,dAB048
dAB049,dAB050,dAB051,dAB053,dAB054,dAB055,dAB056,dAB057,dAB058,dAB059,dAB060,dAB061,dAB065,dAB066
dAB067,dAB069,dAB070,dAB073,dAB074,dAB076,dAB077,dAB078,dAB079,dAB080,dAB081,dAB082,dAB085,dAB086
dAB087,dA100-102,dAB118,dAB120,dA120B,dAB122,dAB123,dAB131A,dAB131B,dA131C,dAB164,dAB171,dAB180
dAB188,dAB191,dA301,dA302,dA303,dA304,dA305,dA306,dA307,dA308,dA309A,dA309B,dA309C,dA310,dA311,dA312
dA313A,dA313B,dA313C,dA314,dA315,dA316,dA317,dA318,dA319,dA320,dA321,dA322,dA323,dA324,dA325,dA326
dA327,dA328,dA329,dA330,dA331,dA332,dA333,dA334,dA335,dA336,dA337,dA338,dA339,dA340,dA341,dA342
dA343,dA344,dA345,dA346,dA347,dA348,dA349,dA350,dA351,dA352,dA353,dA354,dA355,dA356,dA357,dA358
dA359,dA360,dA361,dA362,dA363,dA364,dA365,dA366,dA367,dA368,dA369,dA370,dA371,dA400-VAS,dA401-VAS
dA402-VAS,dA403-VAS,dA404-VAS,dA405-VAS,dA406-VAS,dA407-VAS,dA408-VAS,dA409-VAS,dA410-VAS,dA411-VAS
dA412-VAS,dA413-VAS,dA414-VAS,dA415-VAS,dA416-VAS,dA417-VAS,dA418-VAS,dA501,dA502,dA503,dA504,dA505
dA506,dA508,dA509,dA510,dA511,dA512,dA513,dA515,dA516,dA520,dA521,dA523,dA524,dA525,dA526,dA527
dA528,dA529,dA530,dA531,dA532,dA534,dA535,dA536,dA537,dA538,dA539,dA540,dA541,dA542,dA545,dA547
dA548,dA549,dA550,dA551,dA552,dA553,dA554,dA555,dA556,dA557,dA559,dA563,dA564,dA565,dA566,dA568
dA569,dA570,dA571,dA572,dA573,dA574,dA575,dA576,dA577,dA578,dA579,dA580,dA581,dA582,dA583,dA584
dA585,dA586,dA587,dA588,dA589,dA591,dA592,dA594,dA595,dA596,dA598,dA600,dA601,dA602,dA603,dA604
dA606,dA608,dA609,dA610,dA611,dA612,dA613,dA614,dA615,dA616,dA617,dA618,dA619,dA620,dA621,dA622
dA623,dA624,dA626,dA627,dA628,dA629,dA634,dA637,dA638,dA640,dA642,dA643,dA644,dA645,dA646,dA648
dA649,dA651,dA652,dA653,dA654,dA655,dA656,dA657,dA658,dA659,dA660,dA661,dA662,dA663,dA664,9,dA701 A
dA702 B,dA703 D,dA704 E,dA705 F,dA706 H,dA707 J,dA708 K,dA709 L,dA709-2 L2,dA709-3 L3,dA709-4 L4
dA709-6 L6,dA710 W,dA711 X,dA712 Y,dA713 OMEGA,dA714 ABB,dA715 BB,dA717 DD,dA726 EYYY,dA732 JE,10
dA800,dA801,dA802,dA803,dA804,dA805,dA806,dA807,24,aMODIFIER LETTER SMALL CAPITAL AA
cSUPERSCRIPT TRIANGULAR COLON,dHALFc,cSMALL AE,dCAPITAL B,dB WITH HOOK,1,dDZ DIGRAPH
fWITH RETROFLEX HOOK,gCURL,dDEZH DIGRAPH,dD WITH TAIL,fHOOK,gAND TAIL,dREVERSED E
dCLOSED REVERSED OPENb,dFENG DIGRAPH,dRAMS HORN,dCAPITAL G,dG WITH HOOK,dCAPITALd,dH WITH STROKE
dCAPITAL H,dHENG WITH HOOK,dDOTLESS J WITH STROKE ANDb,dLS DIGRAPH,dLZb,dL WITH BELT,dCAPITALd
dL WITH RETROFLEX HOOK ANDb,dLEZH,eWITH RETROFLEX HOOK,dTURNED Y,fWITH BELT,dO WITH STROKE
dCAPITAL OE,dCLOSED OMEGA,dQ,dTURNED R WITH LONG LEG,iAND RETROFLEX HOOK,dR WITH TAIL,fFISHHOOK
dCAPITAL R,dTC DIGRAPH WITH CURL,dTS DIGRAPH,fWITH RETROFLEX HOOK,dTESH DIGRAPH
dT WITH RETROFLEX HOOK,dV WITH RIGHTb,1,dCAPITAL Y,cGLOTTAL STOP WITH STROKE,cREVERSEDe
cBILABIAL CLICK,cDENTALb,cLATERALb,cALVEOLARb,cRETROFLEX CLICK WITH RETROFLEX HOOK
cSMALL S WITH CURL,69,aCYPRIOT SYLLABLE A,cE,cI,cO,cU,cJA,2,cJO,1,cKA,cKE,cKI,cKO,cKU,cLA,cLE,cLI
cLO,cLU,cMA,cME,cMI,cMO,cMU,cNA,cNE,cNI,cNO,cNU,cPA,cPE,cPI,cPO,cPU,cRA,cRE,cRI,cRO,cRU,cSA,cSE,cSI
cSO,cSU,cTA,cTE,cTI,cTO,cTU,cWA,cWE,cWI,cWO,1,cXA,cXE,3,cZA,2,cZO,aIMPERIAL ARAMAIC LETTER ALEPH
dBETH,dGIMEL,dDALETH,dHE,dWAW,dZAYIN,dHETH,dTETH,dYODH,dKAPH,dLAMEDH,dMEM,dNUN,dSAMEKH,dAYIN,dPE
dSADHE,dQOPH,dRESH,dSHIN,dTAW,1,cSECTION SIGN,cNUMBER ONE,dTWO,dTHREE,dTEN,dTWENTY,dONE HUNDRED
eTHOUSAND,dTENb,aPALMYRENE LETTER ALEPH,cBETH,cGIMEL,cDALETH,cHE,cWAW,cZAYIN,cHETH,cTETH,cYODH,cKAPH
cLAMEDH,cMEM,cFINAL NUN,cb,cSAMEKH,cAYIN,cPE,cSADHE,cQOPH,cRESH,cSHIN,cTAW,bLEFT-POINTING FLEURON
bRIGHT-POINTINGb,bNUMBER ONE,cTWO,cTHREE,cFOUR,cFIVE,cTEN,cTWENTY,aNABATAEAN LETTER FINAL ALEPH,cb
cFINAL BETH,cb,cGIMEL,cDALETH,cFINAL HE,cb,cWAW,cZAYIN,cHETH,cTETH,cFINAL YODH,cb,cFINAL KAPH,cb
cFINAL LAMEDH,cb,cFINAL MEM,cb,cFINAL NUN,cb,cSAMEKH,cAYIN,cPE,cSADHE,cQOPH,cRESH,cFINAL SHIN,cb
cTAW,8,bNUMBER ONE,cTWO,cTHREE,cFOUR,bCRUCIFORMc,bNUMBER FIVE,cTEN,cTWENTY,cONE HUNDRED,48
aHATRAN LETTER ALEPH,cBETH,cGIMEL,cDALETH-RESH,cHE,cWAW,cZAYN,cHETH,cTETH,cYODH,cKAPH,cLAMEDH,cMEM
cNUN,cSAMEKH,cAYN,cPE,cSADHE,cQOPH,1,cSHIN,cTAW,5,bNUMBER ONE,cFIVE,cTEN,cTWENTY,cONE HUNDRED
aPHOENICIAN LETTER ALF,cBET,cGAML,cDELT,cHE,cWAU,cZAI,cHET,cTET,cYOD,cKAF,cLAMD,cMEM,cNUN,cSEMK,cAIN
cPE,cSADE,cQOF,cROSH,cSHIN,cTAU,bNUMBER ONE,cTEN,cTWENTY,cONE HUNDRED,cTWO,cTHREE,3,bWORD SEPARATOR
aLYDIAN LETTER A,cB,cG,cD,cE,cV,cI,cY,cK,cL,cM,cN,cO,cR,cSS,cT,cU,cF,cQ,cS,cTT,cAN,cEN,cLY,cNN,cC,5
bTRIANGULAR MARK,64,aMEROITIC HIEROGLYPHIC LETTER A,dE,dI,dO,dYA,dWA,dBA,dBA-2,dPA,dMA,dNA,dNA-2,dNE
dNE-2,dRA,dRA-2,dLA,dKHA,dHHA,dSA,dSA-2,dSE,dKA,dQA,dTA,dTA-2,dTE,dTE-2,dTO,dDA,cSYMBOL VIDJ,dVIDJ-2
bCURSIVE LETTER A,dE,dI,dO,dYA,dWA,dBA,dPA,dMA,dNA,dNE,dRA,dLA,dKHA,dHHA,dSA,dARCHAICb,dSE,dKA,dQA
dTA,dTE,dTO,dDA,4,cFRACTION ELEVEN TWELFTHS,dONE HALF,cLOGOGRAM RMT,dIMN,cNUMBER ONE,dTWO,dTHREE
dFOUR,dFIVE,dSIX,dSEVEN,dEIGHT,dNINE,dTEN,dTWENTY,dTHIRTY,dFORTY,dFIFTY,dSIXTY,dSEVENTY,2
dONE HUNDRED,dTWOb,dTHREEb,dFOURb,dFIVEb,dSIXb,dSEVENb,dEIGHTb,dNINEb,dONE THOUSAND,dTWOb,dTHREEb
dFOURb,dFIVEb,dSIXb,dSEVENb,dEIGHTb,dNINEb,dTENb,dTWENTYb,dTHIRTYb,dFORTYb,dFIFTYb,dSIXTYb,dSEVENTYb
dEIGHTYb,dNINETYb,dONE HUNDREDb,dTWOc,dTHREEc,dFOURc,dFIVEc,dSIXc,dSEVENc,dEIGHTc,dNINEc
cFRACTION ONE TWELFTH,dTWO TWELFTHS,dTHREEb,dFOURb,dFIVEb,dSIXb,dSEVENb,dEIGHTb,dNINEb,dTENb
aKHAROSHTHI LETTER A,bVOWEL SIGN I,dU,dVOCALIC R,1,dE,dO,5,cLENGTH MARK,bSIGN DOUBLE RING BELOW
cANUSVARA,cVISARGA,bLETTER KA,cKHA,cGA,cGHA,1,cCA,cCHA,cJA,1,cNYA,cTTA,cTTHA,cDDA,cDDHA,cNNA,cTA
cTHA,cDA,cDHA,cNA,cPA,cPHA,cBA,cBHA,cMA,cYA,cRA,cLA,cVA,cSHA,cSSA,cSA,cZA,cHA,cKKA,cTTTHA,cTTTA,cVHA
2,bSIGN BAR ABOVE,cCAUDA,cDOT BELOW,4,bVIRAMA,bDIGIT ONE,cTWO,cTHREE,cFOUR,bNUMBER TEN,cTWENTY
cONE HUNDRED,dTHOUSAND,bFRACTION ONE HALF,7,bPUNCTUATION DOT,cSMALL CIRCLE,cb,cCRESCENT BAR
cMANGALAM,cLOTUS,cDANDA,cDOUBLEb,cLINES,7,aOLD SOUTH ARABIAN LETTER HE,eLAMEDH,eHETH,eMEM,eQOPH,eWAW
eSHIN,eRESH,eBETH,eTAW,eSAT,eKAPH,eNUN,eKHETH,eSADHE,eSAMEKH,eFE,eALEF,eAYN,eDHADHE,eGIMEL,eDALETH
eGHAYN,eTETH,eZAYN,eDHALETH,eYODH,eTHAW,eTHETH,dNUMBER ONE,eFIFTY,dNUMERIC INDICATOR
bNORTH ARABIAN LETTER HEH,eLAM,eHAH,eMEEM,eQAF,eWAW,eES-2,eREH,eBEH,eTEH,eES-1,eKAF,eNOON,eKHAH,eSAD
eES-3,eFEH,eALEF,eAIN,eDAD,eGEEM,eDAL,eGHAIN,eTAH,eZAIN,eTHAL,eYEH,eTHEH,eZAH,dNUMBER ONE,eTEN
eTWENTY,32,aMANICHAEAN LETTER ALEPH,cBETH,cBHETH,cGIMEL,cGHIMEL,cDALETH,cHE,cWAW,bSIGN UD
bLETTER ZAYIN,cZHAYIN,cJAYIN,cJHAYIN,cHETH,cTETH,cYODH,cKAPH,cXAPH,cKHAPH,cLAMEDH,cDHAMEDH,cTHAMEDH
cMEM,cNUN,cSAMEKH,cAYIN,cAAYIN,cPE,cFE,cSADHE,cQOPH,cXOPH,cQHOPH,cRESH,cSHIN,cSSHIN,cTAW
bABBREVIATION MARK ABOVE,dBELOW,4,bNUMBER ONE,cFIVE,cTEN,cTWENTY,cONE HUNDRED,bPUNCTUATION STAR
cFLEURON,cDOUBLE DOT WITHIN DOT,cd,d,cTWO DOTS,cLINE FILLER,9,aAVESTAN LETTER A,cAA,cAO,cAAO,cAN
cAAN,cAE,cAEE,cE,cEE,cO,cOO,cI,cII,cU,cUU,cKE,cXE,cXYE,cXVE,cGE,cGGE,cGHE,cCE,cJE,cTE,cTHE,cDE,cDHE
cTTE,cPE,cFE,cBE,cBHE,cNGE,cNGYE,cNGVE,cNE,cNYE,cNNE,cME,cHME,cYYE,cYE,cVE,cRE,cLE,cSE,cZE,cSHE,cZHE
cSHYE,cSSHE,cHE,3,bABBREVIATION MARK,aTINY TWO DOTS OVER ONE DOT PUNCTUATION,aSMALLg,aLARGEg
bONE DOT OVER TWO DOTSb,bTWO RINGS OVER ONE RINGb,bONE RING OVER TWO RINGSb
aINSCRIPTIONAL PARTHIAN LETTER ALEPH,dBETH,dGIMEL,dDALETH,dHE,dWAW,dZAYIN,dHETH,dTETH,dYODH,dKAPH
dLAMEDH,dMEM,dNUN,dSAMEKH,dAYIN,dPE,dSADHE,dQOPH,dRESH,dSHIN,dTAW,2,cNUMBER ONE,dTWO,dTHREE,dFOUR
dTEN,dTWENTY,dONE HUNDRED,eTHOUSAND,bPAHLAVI LETTER ALEPH,dBETH,dGIMEL,dDALETH,dHE,dWAW-AYIN-RESH
dZAYIN,dHETH,dTETH,dYODH,dKAPH,dLAMEDH,dMEM-QOPH,dNUN,dSAMEKH,dPE,dSADHE,dSHIN,dTAW,5,cNUMBER ONE
dTWO,dTHREE,dFOUR,dTEN,dTWENTY,dONE HUNDRED,eTHOUSAND,aPSALTER PAHLAVI LETTER ALEPH,dBETH,dGIMEL
dDALETH,dHE,dWAW-AYIN-RESH,dZAYIN,dHETH,dYODH,dKAPH,dLAMEDH,dMEM-QOPH,dNUN,dSAMEKH,dPE,dSADHE,dSHIN
dTAW,7,cSECTION MARK,cTURNEDc,cFOUR DOTS WITH CROSS,fDOT,12,cNUMBER ONE,dTWO,dTHREE,dFOUR,dTEN
dTWENTY,dONE HUNDRED,80,aOLD TURKIC LETTER ORKHON A,dYENISEIb,eAE,dORKHON I,dYENISEIb,eE,dORKHON O
eOE,dYENISEIb,dORKHON AB,dYENISEIb,dORKHON AEB,dYENISEIb,dORKHON AG,dYENISEIb,dORKHON AEG,dYENISEIb
dORKHON AD,dYENISEIb,dORKHON AED,eEZ,dYENISEIb,dORKHON AY,dYENISEIb,dORKHON AEY,dYENISEIb
dORKHON AEK,dYENISEIb,dORKHON OEK,dYENISEIb,dORKHON AL,dYENISEIb,dORKHON AEL,eELT,eEM,eAN,eAEN
dYENISEIb,dORKHON ENT,dYENISEIb,dORKHON ENC,dYENISEIb,dORKHON ENY,dYENISEIb,eANG,dORKHON ENG
dYENISEI AENG,dORKHON EP,eOP,eIC,eEC,dYENISEIb,dORKHON AQ,dYENISEIb,dORKHON IQ,dYENISEIb,dORKHON OQ
dYENISEIb,dORKHON AR,dYENISEIb,dORKHON AER,eAS,eAES,eASH,dYENISEIb,dORKHON ESH,dYENISEIb,dORKHON AT
dYENISEIb,dORKHON AET,dYENISEIb,dORKHON OT,eBASH,55,bHUNGARIAN CAPITAL LETTER A,eAA,eEB,eAMB,eEC
eENC,eECS,eED,eAND,eE,eCLOSEb,eEE,eEF,eEG,eEGY,eEH,eI,eII,eEJ,eEK,eAK,eUNK,eEL,eELY,eEM,eEN,eENY,eO
eOO,eNIKOLSBURG OE,eRUDIMENTAb,eOEE,eEP,eEMP,eER,eSHORTb,eES,eESZ,eET,eENT,eETY,eECH,eU,eUU
eNIKOLSBURG UE,eRUDIMENTAb,eEV,eEZ,eEZS,eENT-SHAPED SIGN,eUS,13,cSMALL LETTER A,eAA,eEB,eAMB,eEC
eENC,eECS,eED,eAND,eE,eCLOSEb,eEE,eEF,eEG,eEGY,eEH,eI,eII,eEJ,eEK,eAK,eUNK,eEL,eELY,eEM,eEN,eENY,eO
eOO,eNIKOLSBURG OE,eRUDIMENTAb,eOEE,eEP,eEMP,eER,eSHORTb,eES,eESZ,eET,eENT,eETY,eECH,eU,eUU
eNIKOLSBURG UE,eRUDIMENTAb,eEV,eEZ,eEZS,eENT-SHAPED SIGN,eUS,7,cNUMBER ONE,dFIVE,dTEN,dFIFTY
dONE HUNDRED,eTHOUSAND,aHANIFI ROHINGYA LETTER A,dBA,dPA,dTA,dTTA,dJA,dCA,dHA,dKHA,dFA,dDA,dDDA,dRA
dRRA,dZA,dSA,dSHA,dKA,dGA,dLA,dMA,dNA,dWA,dKINNAb,dYA,dKINNAb,dNGA,dNYA,dVA,cVOWEL A,dI,dU,dE,dO
cMARK SAKIN,dNA KHONNA,cSIGN HARBAHAY,dTAHALA,dTANA,dTASSI,8,cDIGIT ZERO,dONE,dTWO,dTHREE,dFOUR
dFIVE,dSIX,dSEVEN,dEIGHT,dNINE,294,aRUMI DIGIT ONE,cTWO,cTHREE,cFOUR,cFIVE,cSIX,cSEVEN,cEIGHT,cNINE
bNUMBER TEN,cTWENTY,cTHIRTY,cFORTY,cFIFTY,cSIXTY,cSEVENTY,cEIGHTY,cNINETY,cONE HUNDRED,cTWOb,cTHREEb
cFOURb,cFIVEb,cSIXb,cSEVENb,cEIGHTb,cNINEb,bFRACTION ONE HALF,dQUARTER,dTHIRD,cTWO THIRDS,1
aYEZIDI LETTER ELIF,cBE,cPE,cPHE,cTHE,cSE,cCIM,cCHIM,cCHHIM,cHHA,cXA,cDAL,cZAL,cRA,cRHA,cZA,cJA,cSIN
cSHIN,cSAD,cDAD,cTA,cZE,cEYN,cXHEYN,cFA,cVA,dALTERNATE FORM,cQAF,cKAF,cKHAF,cGAF,cLAM,cMIM,cNUN,cUM
cWAW,cOW,cEW,cHAY,cYOT,cET,1,bCOMBINING HAMZA MARK,cMADDAb,bHYPHENATIONb,2
bLETTER LAM WITH DOT ABOVE,cYOT WITH CIRCUMFLEXb,78,aOLD SOGDIAN LETTER ALEPH,dFINALb,dBETH,dFINALb
dGIMEL,dHE,dFINALb,dWAW,dZAYIN,dHETH,dYODH,dKAPH,dLAMEDH,dMEM,dNUN,dFINALb,fWITH VERTICAL TAIL
dSAMEKH,dAYIN,dALTERNATEb,dPE,dSADHE,dFINALb,fWITH VERTICAL TAIL,dRESH-AYIN-DALETH,dSHIN,dTAW
dFINALb,fWITH VERTICAL TAIL,cNUMBER ONE,dTWO,dTHREE,dFOUR,dFIVE,dTEN,dTWENTY,dTHIRTY,dONE HUNDRED
cFRACTION ONE HALF,cLIGATURE AYIN-DALETH,8,aSOGDIAN LETTER ALEPH,cBETH,cGIMEL,cHE,cWAW,cZAYIN,cHETH
cYODH,cKAPH,cLAMEDH,cMEM,cNUN,cSAMEKH,cAYIN,cPE,cSADHE,cRESH-AYIN,cSHIN,cTAW,cFETH,cLESH
bINDEPENDENT SHIN,bCOMBINING DOT BELOW,cTWO DOTSb,cDOT ABOVE,cTWO DOTSb,cCURVEb,dBELOW,cHOOK ABOVE
dBELOW,cLONGc,cRESHb,cSTROKEb,bNUMBER ONE,cTEN,cTWENTY,cONE HUNDRED,bPUNCTUATION TWO VERTICAL BARS
fWITH DOTS,cCIRCLE WITH DOT,cTWO CIRCLES WITH DOTS,cHALF CIRCLE WITH DOT,22,aOLD UYGHUR LETTER ALEPH
dBETH,dGIMEL-HETH,dWAW,dZAYIN,dFINAL HETH,dYODH,dKAPH,dLAMEDH,dMEM,dNUN,dSAMEKH,dPE,dSADHE,dRESH
dSHIN,dTAW,dLESH,cCOMBINING DOT ABOVE,eBELOW,dTWO DOTS ABOVE,fBELOW,cPUNCTUATION BAR,dTWO BARS,eDOTS
dFOURb,38,aCHORASMIAN LETTER ALEPH,cSMALLb,cBETH,cGIMEL,cDALETH,cHE,cWAW,cCURLEDb,cZAYIN,cHETH,cYODH
cKAPH,cLAMEDH,cMEM,cNUN,cSAMEKH,cAYIN,cPE,cRESH,cSHIN,cTAW,bNUMBER ONE,cTWO,cTHREE,cFOUR,cTEN
cTWENTY,cONE HUNDRED,20,aELYMAIC LETTER ALEPH,cBETH,cGIMEL,cDALETH,cHE,cWAW,cZAYIN,cHETH,cTETH,cYODH
cKAPH,cLAMEDH,cMEM,cNUN,cSAMEKH,cAYIN,cPE,cSADHE,cQOPH,cRESH,cSHIN,cTAW,bLIGATURE ZAYIN-YODH,9
aBRAHMI SIGN CANDRABINDU,cANUSVARA,cVISARGA,cJIHVAMULIYA,cUPADHMANIYA,bLETTER A,cAA,cI,cII,cU,cUU
cVOCALIC R,dRR,dL,dLL,cE,cAI,cO,cAU,cKA,cKHA,cGA,cGHA,cNGA,cCA,cCHA,cJA,cJHA,cNYA,cTTA,cTTHA,cDDA
cDDHA,cNNA,cTA,cTHA,cDA,cDHA,cNA,cPA,cPHA,cBA,cBHA,cMA,cYA,cRA,cLA,cVA,cSHA,cSSA,cSA,cHA,cLLA
cOLD TAMIL LLLA,eRRA,eNNNA,bVOWEL SIGN AA,dBHATTIPROLUb,dI,dII,dU,dUU,dVOCALIC R,eRR,eL,eLL,dE,dAI
dO,dAU,bVIRAMA,bDANDA,bDOUBLEb,bPUNCTUATION DOT,cDOUBLEb,cLINE,cCRESCENT BAR,cLOTUS,4,bNUMBER ONE
cTWO,cTHREE,cFOUR,cFIVE,cSIX,cSEVEN,cEIGHT,cNINE,cTEN,cTWENTY,cTHIRTY,cFORTY,cFIFTY,cSIXTY,cSEVENTY
cEIGHTY,cNINETY,cONE HUNDRED,dTHOUSAND,bDIGIT ZERO,cONE,cTWO,cTHREE,cFOUR,cFIVE,cSIX,cSEVEN,cEIGHT
cNINE,bSIGN OLD TAMIL VIRAMA,bLETTER OLD TAMIL SHORT E,fO,bVOWEL SIGN OLD TAMIL SHORT E,gO
bLETTER OLD TAMIL LLA,9,bNUMBER JOINER,aKAITHI SIGN CANDRABINDU,cANUSVARA,cVISARGA,bLETTER A,cAA,cI
cII,cU,cUU,cE,cAI,cO,cAU,cKA,cKHA,cGA,cGHA,cNGA,cCA,cCHA,cJA,cJHA,cNYA,cTTA,cTTHA,cDDA,cDDDHA,cDDHA
cRHA,cNNA,cTA,cTHA,cDA,cDHA,cNA,cPA,cPHA,cBA,cBHA,cMA,cYA,cRA,cLA,cVA,cSHA,cSSA,cSA,cHA
bVOWEL SIGN AA,dI,dII,dU,dUU,dE,dAI,dO,dAU,bSIGN VIRAMA,cNUKTA,bABBREVIATION SIGN,bENUMERATIONb
bNUMBERb,bSECTION MARK,bDOUBLEc,bDANDA,bDOUBLEb,bVOWEL SIGN VOCALIC R,10,bNUMBER SIGN ABOVE,2
aSORA SOMPENG LETTER SAH,dTAH,dBAH,dCAH,dDAH,dGAH,dMAH,dNGAH,dLAH,dNAH,dVAH,dPAH,dYAH,dRAH,dHAH,dKAH
dJAH,dNYAH,dAH,dEEH,dIH,dUH,dOH,dEH,dMAE,7,cDIGIT ZERO,dONE,dTWO,dTHREE,dFOUR,dFIVE,dSIX,dSEVEN
dEIGHT,dNINE,6,aCHAKMA SIGN CANDRABINDU,cANUSVARA,cVISARGA,bLETTER AA,cI,cU,cE,cKAA,cKHAA,cGAA,cGHAA
cNGAA,cCAA,cCHAA,cJAA,cJHAA,cNYAA,cTTAA,cTTHAA,cDDAA,cDDHAA,cNNAA,cTAA,cTHAA,cDAA,cDHAA,cNAA,cPAA
cPHAA,cBAA,cBHAA,cMAA,cYYAA,cYAA,cRAA,cLAA,cWAA,cSAA,cHAA,bVOWEL SIGN A,dI,dII,dU,dUU,dE,dAI,dO,dAU
dOI,bO MARK,bAUb,bVIRAMA,bMAAYYAA,1,bDIGIT ZERO,cONE,cTWO,cTHREE,cFOUR,cFIVE,cSIX,cSEVEN,cEIGHT
cNINE,bSECTION MARK,bDANDA,bDOUBLEb,bQUESTION MARK,bLETTER LHAA,bVOWEL SIGN AA,dEI,bLETTER VAA,8
aMAHAJANI LETTER A,cI,cU,cE,cO,cKA,cKHA,cGA,cGHA,cCA,cCHA,cJA,cJHA,cNYA,cTTA,cTTHA,cDDA,cDDHA,cNNA
cTA,cTHA,cDA,cDHA,cNA,cPA,cPHA,cBA,cBHA,cMA,cRA,cLA,cVA,cSA,cHA,cRRA,bSIGN NUKTA,bABBREVIATION SIGN
bSECTION MARK,bLIGATURE SHRI,9,aSHARADA SIGN CANDRABINDU,cANUSVARA,cVISARGA,bLETTER A,cAA,cI,cII,cU
cUU,cVOCALIC R,dRR,dL,dLL,cE,cAI,cO,cAU,cKA,cKHA,cGA,cGHA,cNGA,cCA,cCHA,cJA,cJHA,cNYA,cTTA,cTTHA
cDDA,cDDHA,cNNA,cTA,cTHA,cDA,cDHA,cNA,cPA,cPHA,cBA,cBHA,cMA,cYA,cRA,cLA,cLLA,cVA,cSHA,cSSA,cSA,cHA
bVOWEL SIGN AA,dI,dII,dU,dUU,dVOCALIC R,eRR,eL,eLL,dE,dAI,dO,dAU,bSIGN VIRAMA,cAVAGRAHA,cJIHVAMULIYA
cUPADHMANIYA,bOM,bDANDA,bDOUBLEb,bABBREVIATION SIGN,bSEPARATOR,bSANDHI MARK,bSIGN NUKTA
bVOWEL MODIFIER MARK,bEXTRA SHORT VOWELb,bSUTRAb,bVOWEL SIGN PRISHTHAMATRA E
bSIGN INVERTED CANDRABINDU,bDIGIT ZERO,cONE,cTWO,cTHREE,cFOUR,cFIVE,cSIX,cSEVEN,cEIGHT,cNINE,bEKAM
bSIGN SIDDHAM,bHEADSTROKE,bCONTINUATION SIGN,bSECTION MARK-1,cMARK-2,1,aSINHALA ARCHAIC DIGIT ONE
dTWO,dTHREE,dFOUR,dFIVE,dSIX,dSEVEN,dEIGHT,dNINE,cNUMBER TEN,dTWENTY,dTHIRTY,dFORTY,dFIFTY,dSIXTY
dSEVENTY,dEIGHTY,dNINETY,dONE HUNDRED,eTHOUSAND,11,aKHOJKI LETTER A,cAA,cI,cU,cE,cAI,cO,cAU,cKA,cKHA
cGA,cGGA,cGHA,cNGA,cCA,cCHA,cJA,cJJA,1,cNYA,cTTA,cTTHA,cDDA,cDDHA,cNNA,cTA,cTHA,cDA,cDDDA,cDHA,cNA
cPA,cPHA,cBA,cBBA,cBHA,cMA,cYA,cRA,cLA,cVA,cSA,cHA,cLLA,bVOWEL SIGN AA,dI,dII,dU,dE,dAI,dO,dAU
bSIGN ANUSVARA,cVIRAMA,cNUKTA,cSHADDA,bDANDA,bDOUBLEb,bWORD SEPARATOR,bSECTION MARK,bDOUBLEc
bABBREVIATION SIGN,bSIGN SUKUN,65,aMULTANI LETTER A,cI,cU,cE,cKA,cKHA,cGA,1,cGHA,1,cCA,cCHA,cJA,cJJA
1,cNYA,cTTA,cTTHA,cDDA,cDDDA,cDDHA,cNNA,cTA,cTHA,cDA,cDHA,cNA,cPA,cPHA,cBA,1,cBHA,cMA,cYA,cRA,cLA
cVA,cSA,cHA,cRRA,cRHA,bSECTION MARK,6,aKHUDAWADI LETTER A,cAA,cI,cII,cU,cUU,cE,cAI,cO,cAU,cKA,cKHA
cGA,cGGA,cGHA,cNGA,cCA,cCHA,cJA,cJJA,cJHA,cNYA,cTTA,cTTHA,cDDA,cDDDA,cRRA,cDDHA,cNNA,cTA,cTHA,cDA
cDHA,cNA,cPA,cPHA,cBA,cBBA,cBHA,cMA,cYA,cRA,cLA,cVA,cSHA,cSA,cHA,bSIGN ANUSVARA,bVOWEL SIGN AA,dI
dII,dU,dUU,dE,dAI,dO,dAU,bSIGN NUKTA,cVIRAMA,5,bDIGIT ZERO,cONE,cTWO,cTHREE,cFOUR,cFIVE,cSIX,cSEVEN
cEIGHT,cNINE,6,aGRANTHA SIGN COMBINING ANUSVARA ABOVE,cCANDRABINDU,cANUSVARA,cVISARGA,1,bLETTER A
cAA,cI,cII,cU,cUU,cVOCALIC R,dL,2,cEE,cAI,2,cOO,cAU,cKA,cKHA,cGA,cGHA,cNGA,cCA,cCHA,cJA,cJHA,cNYA
cTTA,cTTHA,cDDA,cDDHA,cNNA,cTA,cTHA,cDA,cDHA,cNA,1,cPA,cPHA,cBA,cBHA,cMA,cYA,cRA,1,cLA,cLLA,1,cVA
cSHA,cSSA,cSA,cHA,1,aCOMBINING BINDU BELOW,aGRANTHA SIGN NUKTA,cAVAGRAHA,bVOWEL SIGN AA,dI,dII,dU
dUU,dVOCALIC R,eRR,2,dEE,dAI,2,dOO,dAU,bSIGN VIRAMA,2,bOM,6,bAU LENGTH MARK,5,bSIGN PLUTA
bLETTER VEDIC ANUSVARA,dDOUBLEb,cVOCALIC RR,dLL,bVOWEL SIGN VOCALIC L,eLL,2
aCOMBINING GRANTHA DIGIT ZERO,dONE,dTWO,dTHREE,dFOUR,dFIVE,dSIX,3,cLETTER A,dKA,dNA,dVI,dPA,139
aNEWA LETTER A,cAA,cI,cII,cU,cUU,cVOCALIC R,dRR,dL,dLL,cE,cAI,cO,cAU,cKA,cKHA,cGA,cGHA,cNGA,cNGHA
cCA,cCHA,cJA,cJHA,cNYA,cNYHA,cTTA,cTTHA,cDDA,cDDHA,cNNA,cTA,cTHA,cDA,cDHA,cNA,cNHA,cPA,cPHA,cBA,cBHA
cMA,cMHA,cYA,cRA,cRHA,cLA,cLHA,cWA,cSHA,cSSA,cSA,cHA,bVOWEL SIGN AA,dI,dII,dU,dUU,dVOCALIC R,eRR,eL
eLL,dE,dAI,dO,dAU,bSIGN VIRAMA,cCANDRABINDU,cANUSVARA,cVISARGA,cNUKTA,cAVAGRAHA,cFINAL ANUSVARA,bOM
bSIDDHI,bDANDA,bDOUBLEb,bCOMMA,bGAP FILLER,bABBREVIATION SIGN,bDIGIT ZERO,cONE,cTWO,cTHREE,cFOUR
cFIVE,cSIX,cSEVEN,cEIGHT,cNINE,bDOUBLE COMMA,bPLACEHOLDER MARK,1,bINSERTION SIGN,bSANDHI MARK
bLETTER VEDIC ANUSVARA,bSIGN JIHVAMULIYA,cUPADHMANIYA,30,aTIRHUTA ANJI,bLETTER A,cAA,cI,cII,cU,cUU
cVOCALIC R,dRR,dL,dLL,cE,cAI,cO,cAU,cKA,cKHA,cGA,cGHA,cNGA,cCA,cCHA,cJA,cJHA,cNYA,cTTA,cTTHA,cDDA
cDDHA,cNNA,cTA,cTHA,cDA,cDHA,cNA,cPA,cPHA,cBA,cBHA,cMA,cYA,cRA,cLA,cVA,cSHA,cSSA,cSA,cHA
bVOWEL SIGN AA,dI,dII,dU,dUU,dVOCALIC R,eRR,eL,eLL,dE,dSHORTb,dAI,dO,dSHORTb,dAU,bSIGN CANDRABINDU
cANUSVARA,cVISARGA,cVIRAMA,cNUKTA,cAVAGRAHA,bGVANG,bABBREVIATION SIGN,bOM,8,bDIGIT ZERO,cONE,cTWO
cTHREE,cFOUR,cFIVE,cSIX,cSEVEN,cEIGHT,cNINE,166,aSIDDHAM LETTER A,cAA,cI,cII,cU,cUU,cVOCALIC R,dRR
dL,dLL,cE,cAI,cO,cAU,cKA,cKHA,cGA,cGHA,cNGA,cCA,cCHA,cJA,cJHA,cNYA,cTTA,cTTHA,cDDA,cDDHA,cNNA,cTA
cTHA,cDA,cDHA,cNA,cPA,cPHA,cBA,cBHA,cMA,cYA,cRA,cLA,cVA,cSHA,cSSA,cSA,cHA,bVOWEL SIGN AA,dI,dII,dU
dUU,dVOCALIC R,eRR,2,dE,dAI,dO,dAU,bSIGN CANDRABINDU,cANUSVARA,cVISARGA,cVIRAMA,cNUKTA,cSIDDHAM
bDANDA,bDOUBLEb,bSEPARATOR DOT,cBAR,bREPETITION MARK-1,cMARK-2,cMARK-3,bEND OF TEXT MARK
bSECTION MARK WITH TRIDENT AND U-SHAPED ORNAMENTS,gDOTTED CRESCENTS,eRAYSd,hDOUBLEb,hTRIPLEb
dDOUBLE RING,fWITH RAYS,dWITH DOUBLE CRESCENTS,eTRIPLEb,eQUADRUPLEb,eSEPTUPLEb,eCIRCLES AND RAYS
gTWO ENCLOSURES,gFOURb,bLETTER THREE-CIRCLE ALTERNATE I,cTWO-CIRCLEc,eII,cALTERNATE U,bVOWEL SIGNc
eUU,34,aMODI LETTER A,cAA,cI,cII,cU,cUU,cVOCALIC R,dRR,dL,dLL,cE,cAI,cO,cAU,cKA,cKHA,cGA,cGHA,cNGA
cCA,cCHA,cJA,cJHA,cNYA,cTTA,cTTHA,cDDA,cDDHA,cNNA,cTA,cTHA,cDA,cDHA,cNA,cPA,cPHA,cBA,cBHA,cMA,cYA
cRA,cLA,cVA,cSHA,cSSA,cSA,cHA,cLLA,bVOWEL SIGN AA,dI,dII,dU,dUU,dVOCALIC R,eRR,eL,eLL,dE,dAI,dO,dAU
bSIGN ANUSVARA,cVISARGA,cVIRAMA,cARDHACANDRA,bDANDA,bDOUBLEb,bABBREVIATION SIGN,bSIGN HUVA,11
bDIGIT ZERO,cONE,cTWO,cTHREE,cFOUR,cFIVE,cSIX,cSEVEN,cEIGHT,cNINE,6,aMONGOLIAN BIRGA WITH ORNAMENT
bROTATED BIRGA,bDOUBLE BIRGA WITH ORNAMENT,bTRIPLEd,bBIRGA WITH DOUBLEb,bROTATED BIRGA WITHb
eDOUBLEb,bINVERTED BIRGA,dWITH DOUBLE ORNAMENT,bSWIRL BIRGA,dWITH ORNAMENT,eDOUBLEb,bTURNEDf,19
aTAKRI LETTER A,cAA,cI,cII,cU,cUU,cE,cAI,cO,cAU,cKA,cKHA,cGA,cGHA,cNGA,cCA,cCHA,cJA,cJHA,cNYA,cTTA
cTTHA,cDDA,cDDHA,cNNA,cTA,cTHA,cDA,cDHA,cNA,cPA,cPHA,cBA,cBHA,cMA,cYA,cRA,cLA,cVA,cSHA,cSA,cHA,cRRA
bSIGN ANUSVARA,cVISARGA,bVOWEL SIGN AA,dI,dII,dU,dUU,dE,dAI,dO,dAU,bSIGN VIRAMA,cNUKTA
bLETTER ARCHAIC KHA,bABBREVIATION SIGN,6,bDIGIT ZERO,cONE,cTWO,cTHREE,cFOUR,cFIVE,cSIX,cSEVEN,cEIGHT
cNINE,54,aAHOM LETTER KA,cKHA,cNGA,cNA,cTA,cALTERNATEb,cPA,cPHA,cBA,cMA,cJA,cCHA,cTHA,cRA,cLA,cSA
cNYA,cHA,cA,cDA,cDHA,cGA,cALTERNATEb,cGHA,cBHA,cJHA,cALTERNATE BA,2,bCONSONANT SIGN MEDIAL LA,eRA
eLIGATINGb,bVOWEL SIGN A,dAA,dI,dII,dU,dUU,dE,dAW,dO,dAI,dAM,bSIGN KILLER,4,bDIGIT ZERO,cONE,cTWO
cTHREE,cFOUR,cFIVE,cSIX,cSEVEN,cEIGHT,cNINE,bNUMBER TEN,cTWENTY,bSIGN SMALL SECTION,cb,cRULAI
bSYMBOL VI,bLETTER CA,cTTA,cTTHA,cDDA,cDDHA,cNNA,cLLA,185,aDOGRA LETTER A,cAA,cI,cII,cU,cUU,cE,cAI
cO,cAU,cKA,cKHA,cGA,cGHA,cNGA,cCA,cCHA,cJA,cJHA,cNYA,cTTA,cTTHA,cDDA,cDDHA,cNNA,cTA,cTHA,cDA,cDHA
cNA,cPA,cPHA,cBA,cBHA,cMA,cYA,cRA,cLA,cVA,cSHA,cSSA,cSA,cHA,cRRA,bVOWEL SIGN AA,dI,dII,dU,dUU
dVOCALIC R,eRR,dE,dAI,dO,dAU,bSIGN ANUSVARA,cVISARGA,cVIRAMA,cNUKTA,bABBREVIATION SIGN,100
aWARANG CITI CAPITAL LETTER NGAA,eA,eWI,eYU,eYA,eYO,eII,eUU,eE,eO,eANG,eGA,eKO,eENY,eYUJ,eUC,eENN
eODD,eTTE,eNUNG,eDA,eAT,eAM,eBU,ePU,eHIYO,eHOLO,eHORR,eHAR,eSSUU,eSII,eVIYO,cSMALL LETTER NGAA,eA
eWI,eYU,eYA,eYO,eII,eUU,eE,eO,eANG,eGA,eKO,eENY,eYUJ,eUC,eENN,eODD,eTTE,eNUNG,eDA,eAT,eAM,eBU,ePU
eHIYO,eHOLO,eHORR,eHAR,eSSUU,eSII,eVIYO,cDIGIT ZERO,dONE,dTWO,dTHREE,dFOUR,dFIVE,dSIX,dSEVEN,dEIGHT
dNINE,cNUMBER TEN,dTWENTY,dTHIRTY,dFORTY,dFIFTY,dSIXTY,dSEVENTY,dEIGHTY,dNINETY,12,cOM
aDIVES AKURU LETTER A,dAA,dI,dII,dU,dUU,dE,2,dO,2,dKA,dKHA,dGA,dGHA,dNGA,dCA,dCHA,dJA,1,dNYA,dTTA,1
dDDA,dDDHA,dNNA,dTA,dTHA,dDA,dDHA,dNA,dPA,dPHA,dBA,dBHA,dMA,dYA,dYYA,dRA,dLA,dVA,dSHA,dSSA,dSA,dHA
dLLA,dZA,cVOWEL SIGN AA,eI,eII,eU,eUU,eE,1,eAI,eO,2,cSIGN ANUSVARA,dCANDRABINDU,dHALANTA,cVIRAMA
cPREFIXED NASAL SIGN,cMEDIAL YA,cINITIAL RA,cMEDIALb,cSIGN NUKTA,cDOUBLE DANDA,cGAP FILLER
cEND OF TEXT MARK,9,cDIGIT ZERO,dONE,dTWO,dTHREE,dFOUR,dFIVE,dSIX,dSEVEN,dEIGHT,dNINE,70
aNANDINAGARI LETTER A,cAA,cI,cII,cU,cUU,cVOCALIC R,dRR,2,cE,cAI,cO,cAU,cKA,cKHA,cGA,cGHA,cNGA,cCA
cCHA,cJA,cJHA,cNYA,cTTA,cTTHA,cDDA,cDDHA,cNNA,cTA,cTHA,cDA,cDHA,cNA,cPA,cPHA,cBA,cBHA,cMA,cYA,cRA
cLA,cVA,cSHA,cSSA,cSA,cHA,cLLA,cRRA,bVOWEL SIGN AA,dI,dII,dU,dUU,dVOCALIC R,eRR,2,dE,dAI,dO,dAU
bSIGN ANUSVARA,cVISARGA,cVIRAMA,cAVAGRAHA,cSIDDHAM,bHEADSTROKE,bVOWEL SIGN PRISHTHAMATRA E,27
aZANABAZAR SQUARE LETTER A,cVOWEL SIGN I,eUE,eU,eE,eOE,eO,eAI,eAU,eREVERSED I,dLENGTH MARK
cLETTER KA,dKHA,dGA,dGHA,dNGA,dCA,dCHA,dJA,dNYA,dTTA,dTTHA,dDDA,dDDHA,dNNA,dTA,dTHA,dDA,dDHA,dNA,dPA
dPHA,dBA,dBHA,dMA,dTSA,dTSHA,dDZA,dDZHA,dZHA,dZA,d-A,dYA,dRA,dLA,dVA,dSHA,dSSA,dSA,dHA,dKSSA
cFINAL CONSONANT MARK,cSIGN VIRAMA,dCANDRABINDU,eWITH ORNAMENT,dCANDRAc,dANUSVARA,dVISARGA
cCLUSTER-INITIAL LETTER RA,cCLUSTER-FINAL LETTER YA,eRA,eLA,eVA,cINITIAL HEAD MARK,cCLOSINGc
cMARK TSHEG,dSHAD,dDOUBLEb,dLONG TSHEG,cINITIAL DOUBLE-LINED HEAD MARK,cCLOSINGd,cSUBJOINER,8
aSOYOMBO LETTER A,bVOWEL SIGN I,dUE,dU,dE,dO,dOE,dAI,dAU,dVOCALIC R,eL,cLENGTH MARK,bLETTER KA,cKHA
cGA,cGHA,cNGA,cCA,cCHA,cJA,cJHA,cNYA,cTTA,cTTHA,cDDA,cDDHA,cNNA,cTA,cTHA,cDA,cDHA,cNA,cPA,cPHA,cBA
cBHA,cMA,cTSA,cTSHA,cDZA,cZHA,cZA,c-A,cYA,cRA,cLA,cVA,cSHA,cSSA,cSA,cHA,cKSSA,bSIGN JIHVAMULIYA
cUPADHMANIYA,bCLUSTER-INITIAL LETTER RA,dLA,dSHA,dSA,bFINAL CONSONANT SIGN G,eK,eNG,eD,eN,eB,eM,eR
eL,eSH,eS,e-A,bSIGN ANUSVARA,cVISARGA,bGEMINATION MARK,bSUBJOINER,bMARK TSHEG,cSHAD,cDOUBLEb,cPLUTA
bHEAD MARK WITH MOON AND SUN AND TRIPLE FLAME,ib,h,bTERMINAL MARK-1,cMARK-2,13
aCANADIAN SYLLABICS NATTILIK HI,dHII,dHO,dHOO,dHA,dHAA,dSHRI,dSHRII,dSHRO,dSHROO,dSHRA,dSHRAA,cSPE
cSPI,cSPO,cSPA,aPAU CIN HAU LETTER PA,eKA,eLA,eMA,eDA,eZA,eVA,eNGA,eHA,eGA,eKHA,eSA,eBA,eCA,eTA,eTHA
eNA,ePHA,eRA,eFA,eCHA,eA,eE,eI,eO,eU,eUA,eIA,eFINAL P,fK,fT,fM,fN,fL,fW,fNG,fY,dRISING TONE LONG,f
dSANDHI GLOTTAL STOP,dRISING TONE LONG FINAL,fb,dSANDHI GLOTTAL STOPb,eTONE LONG,f,fLONG FINAL,fb
dMID-LEVEL TONE,dGLOTTAL STOP VARIANT,dMID-LEVEL TONE LONG FINAL,fb,dLOW-FALLING TONE LONG,f
dGLOTTAL STOP,dLOW-FALLING TONE LONG FINAL,fb,dGLOTTAL STOPb,263,aBHAIKSUKI LETTER A,cAA,cI,cII,cU
cUU,cVOCALIC R,dRR,dL,1,cE,cAI,cO,cAU,cKA,cKHA,cGA,cGHA,cNGA,cCA,cCHA,cJA,cJHA,cNYA,cTTA,cTTHA,cDDA
cDDHA,cNNA,cTA,cTHA,cDA,cDHA,cNA,cPA,cPHA,cBA,cBHA,cMA,cYA,cRA,cLA,cVA,cSHA,cSSA,cSA,cHA
bVOWEL SIGN AA,dI,dII,dU,dUU,dVOCALIC R,eRR,eL,1,dE,dAI,dO,dAU,bSIGN CANDRABINDU,cANUSVARA,cVISARGA
cVIRAMA,cAVAGRAHA,bDANDA,bDOUBLEb,bWORD SEPARATOR,bGAP FILLER-1,cFILLER-2,10,bDIGIT ZERO,cONE,cTWO
cTHREE,cFOUR,cFIVE,cSIX,cSEVEN,cEIGHT,cNINE,bNUMBER ONE,cTWO,cTHREE,cFOUR,cFIVE,cSIX,cSEVEN,cEIGHT
cNINE,cTEN,cTWENTY,cTHIRTY,cFORTY,cFIFTY,cSIXTY,cSEVENTY,cEIGHTY,cNINETY,bHUNDREDS UNIT MARK,3
aMARCHEN HEADb,bMARK SHAD,bLETTER KA,cKHA,cGA,cNGA,cCA,cCHA,cJA,cNYA,cTA,cTHA,cDA,cNA,cPA,cPHA,cBA
cMA,cTSA,cTSHA,cDZA,cWA,cZHA,cZA,c-A,cYA,cRA,cLA,cSHA,cSA,cHA,cA,2,bSUBJOINED LETTER KA,dKHA,dGA
dNGA,dCA,dCHA,dJA,dNYA,dTA,dTHA,dDA,dNA,dPA,dPHA,dBA,dMA,dTSA,dTSHA,dDZA,dWA,dZHA,dZA,1,dYA,dRA,dLA
dSHA,dSA,dHA,dA,bVOWEL SIGN AA,dI,dU,dE,dO,bSIGN ANUSVARA,cCANDRABINDU,73,aMASARAM GONDI LETTER A
dAA,dI,dII,dU,dUU,dE,1,dAI,dO,1,dAU,dKA,dKHA,dGA,dGHA,dNGA,dCA,dCHA,dJA,dJHA,dNYA,dTTA,dTTHA,dDDA
dDDHA,dNNA,dTA,dTHA,dDA,dDHA,dNA,dPA,dPHA,dBA,dBHA,dMA,dYA,dRA,dLA,dVA,dSHA,dSSA,dSA,dHA,dLLA,dKSSA
dJNYA,dTRA,cVOWEL SIGN AA,eI,eII,eU,eUU,eVOCALIC R,3,eE,1,eAI,eO,1,eAU,cSIGN ANUSVARA,dVISARGA
dNUKTA,dCANDRA,dHALANTA,cVIRAMA,cREPHA,cRA-KARA,8,cDIGIT ZERO,dONE,dTWO,dTHREE,dFOUR,dFIVE,dSIX
dSEVEN,dEIGHT,dNINE,6,aGUNJALA GONDI LETTER A,dAA,dI,dII,dU,dUU,1,dEE,dAI,1,dOO,dAU,dYA,dVA,dBA,dBHA
dMA,dKA,dKHA,dTA,dTHA,dLA,dGA,dGHA,dDA,dDHA,dNA,dCA,dCHA,dTTA,dTTHA,dLLA,dJA,dJHA,dDDA,dDDHA,dNGA
dPA,dPHA,dHA,dRA,dSA,cVOWEL SIGN AA,eI,eII,eU,eUU,1,eEE,eAI,1,eOO,eAU,cSIGN ANUSVARA,dVISARGA
cVIRAMA,cOM,7,cDIGIT ZERO,dONE,dTWO,dTHREE,dFOUR,dFIVE,dSIX,dSEVEN,dEIGHT,dNINE,310
aMAKASAR LETTER KA,cGA,cNGA,cPA,cBA,cMA,cTA,cDA,cNA,cCA,cJA,cNYA,cYA,cRA,cLA,cVA,cSA,cA,bANGKA
bVOWEL SIGN I,dU,dE,dO,bPASSIMBANG,bEND OF SECTION,183,aLISU LETTER YHA,15
aTAMIL FRACTION ONE THREE-HUNDRED-AND-TWENTIETH,dONE-HUNDRED-AND-SIXTIETH,dEIGHTIETH,dSIXTY-FOURTH
dFORTIETH,dTHIRTY-SECOND,cTHREE EIGHTIETHS,dSIXTY-FOURTHS,cONE TWENTIETH,dSIXTEENTH-1,dSIXTEENTH-2
dTENTH,dEIGHTH,cTHREE TWENTIETHS,dSIXTEENTHS,cONE FIFTH,dQUARTER,dHALF-1,dHALF-2,cTHREE QUARTERS
cDOWNSCALING FACTOR KIIZH,bSIGN NEL,cCEVITU,cAAZHAAKKU,cUZHAKKU,cMUUVUZHAKKU,cKURUNI,cPATHAKKU
cMUKKURUNI,cKAACU,cPANAM,cPON,cVARAAKAN,cPAARAM,cKUZHI,cVELI,bWET CULTIVATION SIGN,bDRYc,bLANDb
bSALT PANb,bTRADITIONAL CREDITb,cNUMBERb,bCURRENTb,bAND ODDb,bSPENTb,bTOTALb,bIN POSSESSIONb
bSTARTING FROMb,bSIGN MUTHALIYA,cVAKAIYARAA,13,bPUNCTUATION END OF TEXT,aCUNEIFORM SIGN A,dTIMESb
eBAD,eGAN2 TENU,eHA,eIGI,eLAGAR GUNU,eMUSH,eSAG,cA2,cAB,dTIMES ASH2,eDUN3 GUNU,eGAL,eGAN2 TENU,eHA
eIGI GUNU,eIMIN,eLAGAB,eSHESH,eU PLUS U PLUS U,dGUNU,cAB2,dTIMES BALAG,eGAN2 TENU,eME PLUS EN,eSHA3
eTAK4,cAD,cAK,dTIMES ERIN2,eSHITA PLUS GISH,cAL,dTIMESb,eDIM2,eGISH,eHA,eKAD3,eKI,eSHE,eUSH,cALAN
cALEPH,cAMAR,dTIMES SHE,cAN,dOVERb,dTHREE TIMES,dPLUS NAGA OPPOSING AN PLUS NAGA,fSQUARED,cANSHE
cAPIN,cARAD,dTIMES KUR,cARKAB,cASAL2,cASH,dZIDA TENU,dKABAb
dOVER ASH TUG2 OVER TUG2 TUG2 OVER TUG2 PAP,fOVER ASH,hCROSSINGf,cASH2,cASHGAB,cBA,cBAD,cBAG3
cBAHAR2,cBAL,dOVERb,cBALAG,cBAR,cBARA2,cBI,dTIMES A,eGAR,eIGI GUNU,cBU,dOVER BU AB,fUN,dCROSSING BU
cBULUG,dOVERb,cBUR,cBUR2,cDA,cDAG,dKISIM5 TIMES A PLUS MASH,fAMAR,fBALAG,fBI,fGA,gPLUS MASH,fGI
fGIR2,fGUD,fHA,fIR,gPLUS LU,fKAK,fLA,fLU,gPLUS MASH2,fLUM,fNE,fPAP PLUS PAP,fSI,fTAK4,fU2 PLUS GIR2
fUSH,cDAM,cDAR,cDARA3,cDARA4,cDI,cDIB,cDIM,dTIMES SHE,cDIM2,cDIN,dKASKAL U GUNU DISH,cb,cDU,dOVERb
dGUNU,dSHESHIG,cDUB,dTIMES ESH2,cDUB2,cDUG,cDUGUD,cDUH,cDUN,cDUN3,dGUNU,eb,cDUN4,cDUR2,cE,dTIMES PAP
dOVER E NUN OVER NUN,cE2,dTIMES A PLUS HA PLUS DA,eGAR,eMI,eSAL,eSHE,eU,cEDIN,cEGIR,cEL,cEN
dTIMES GAN2,fTENU,eME,dCROSSING EN,dOPPOSINGb,dSQUARED,cEREN,cERIN2,cESH2,cEZEN,dTIMES A,fPLUS LAL
hTIMESb,eAN,eBAD,eDUN3 GUNU,gb,eHA,fGUNU,eIGIb,eKASKAL,fSQUARED,eKU3,eLA,eLAL TIMES LAL,eLI,eLU,eU2
eUD,cGA,dGUNU,cGA2,dTIMES A PLUS DA PLUS HA,gb,gIGI,eAB2 TENU PLUS TAB,eAN,eASH,eASH2 PLUS GAL,eBAD
eBAR PLUS RA,eBUR,fPLUS RA,eDA,eDI,eDIM TIMES SHE,eDUB,eEL,fPLUS LA,eEN,fTIMES GAN2 TENU,ec,eGAR,eGI
eGI4,fPLUS A,eGIR2 PLUS SU,eHA PLUS LU PLUS ESH2,eHAL,fPLUS LA,eHI PLUS LI,eHUB2,eIGI GUNU
eISH PLUS HU PLUS ASH,eKAK,eKASKAL,eKID,fPLUS LAL,eKU3 PLUS AN,eLA,eME PLUS EN,eMI,eNUN,fOVERb,ePA
eSAL,eSAR,eSHE,fPLUS TUR,eSHID,eSUM,eTAK4,eU,eUD,fPLUS DU,dOVER GA2,cGABA,dCROSSINGb,cGAD
dOVER GAD GAR OVER GAR,cGAL,dGAD OVER GAD GAR OVER GAR,cGALAM,cGAM,cGAN,cGAN2,dTENU,dOVER GAN2
dCROSSINGb,cGAR,cGAR3,cGASHAN,cGESHTIN,dTIMES KUR,cGI,dTIMES E,eU,dCROSSING GI,cGI4,dOVERb
dCROSSINGb,cGIDIM,cGIR2,dGUNU,cGIR3,dTIMES A PLUS IGI,eGAN2 TENU,eIGI,eLU PLUSb,ePA,cGISAL,cGISH
dCROSSINGb,dTIMES BAD,eTAK4,dTENU,cGU,dCROSSINGb,cGU2,dTIMES KAK,fTIMES IGI GUNU,eNUN,eSAL PLUS TUG2
dGUNU,cGUD,dTIMES A PLUS KUR,eb,dOVER GUD LUGAL,cGUL,cGUM,dTIMES SHE,cGUR,cGUR7,cGURUN,cGURUSH,cHA
dTENU,dGUNU,cHAL,cHI,dTIMES ASH,eASH2,eBAD,eDISH,eGAD,eKIN,eNUN,eSHE,eU,cHU,cHUB2,dTIMES AN,eHAL
eKASKAL,eLISH,eUD,cHUL2,cI,dA,cIB,cIDIM,dOVER IDIM BUR,fSQUARED,cIG,cIGI,dDIB,dRI
dOVER IGI SHIR OVER SHIR UD OVER UD,dGUNU,cIL,dTIMES GAN2 TENU,cIL2,cIM,dTIMES TAK4,dCROSSING IM
dOPPOSINGb,dSQUARED,cIMIN,cIN,cIR,cISH,cKA,dTIMES A,eAD,fPLUS KU3,eASH2,eBAD,eBALAG,eBAR,eBI,eERIN2
eESH2,eGA,eGAL,eGAN2 TENU,eGAR,fPLUS SHA3 PLUS A,eGI,eGIR2,eGISH PLUS SAR,fCROSSING GISH,eGU,eGUR7
eIGI,eIM,eKAK,eKI,eKID,eLI,eLU,eME,fPLUS DU,gGI,gTE,eMI,fPLUS NUNUZ,eNE,eNUN,ePI,eRU,eSA,eSAR,eSHA
eSHE,eSHID,eSHU,eSIG,eSUHUR,eTAR,eU,eU2,eUD,eUMUM TIMES PA,eUSH,eZI,cKA2,dCROSSINGb,cKAB,cKAD2,cKAD3
cKAD4,cKAD5,dOVERb,cKAK,dTIMES IGI GUNU,cKAL,dTIMES BAD,dCROSSING KAL,cKAM2,cKAM4,cKASKAL
dLAGAB TIMES U OVER LAGAB TIMES U,dOVERi,cKESH2,cKI,dTIMES BAD,eU,eUD,cKID,cKIN,cKISAL,cKISH,cKISIM5
dOVERb,cKU,dOVER HI TIMES ASH2 KU OVER HI TIMES ASH2,cKU3,cKU4,dVARIANT FORM,cKU7,cKUL,dGUNU,cKUN
cKUR,dOPPOSINGb,cKUSHU2,cKWU318,cLA,cLAGAB,dTIMES A,fPLUS DA PLUS HA,gGAR,gLAL,eAL,eAN
eASH ZIDA TENU,eBAD,eBI,eDAR,eEN,eGA,eGAR,eGUD,fPLUSb,eHA,eHAL,eHI TIMES NUN,eIGI GUNU,eIM,fPLUS HA
gLU,eKI,eKIN,eKU3,eKUL,fPLUS HI PLUS A,eLAGAB,eLISH,eLU,eLUL,eME,fPLUS EN,eMUSH,eNE,eSHE PLUS SUM
eSHITA PLUS GISH PLUS ERIN2,hTENU,eSHU2,fPLUSb,eSUM,eTAG,eTAK4,eTE PLUS A PLUS SU PLUS NA,eU,fPLUS A
gU PLUS U,eU2 PLUS ASH,eUD,eUSH,dSQUARED,cLAGAR,dTIMES SHE,fPLUS SUM,dGUNU,eOVER LAGAR GUNU SHE
cLAHSHU,cLAL,dTIMESb,cLAM,dTIMES KUR,fPLUS RU,cLI,cLIL,cLIMMU2,cLISH,cLU,dTIMES BAD,cLU2,dTIMES AL
eBAD,eESH2,fTENU,eGAN2b,eHI TIMES BAD,eIM,eKAD2,eKAD3,fPLUS ASH,eKI,eLA PLUS ASH,eLAGAB,eME PLUS EN
eNE,eNU,eSI PLUS ASH,eSIK2 PLUS BU,eTUG2,dTENU,dCROSSING LU2,dOPPOSINGb,dSQUARED,dSHESHIG,cLU3
cLUGAL,dOVERb,dOPPOSINGb,dSHESHIG,cLUH,cLUL,cLUM,dOVERb,fGAR OVER GAR,cMA,dTIMES TAK4,dGUNU,cMA2
cMAH,cMAR,cMASH,cMASH2,cME,cMES,cMI,cMIN,cMU,dOVERb,cMUG,dGUNU,cMUNSUB,cMURGU2,cMUSH,dTIMES A,eKUR
eZA,dOVER MUSH,fTIMES A PLUS NA,dCROSSING MUSH,cMUSH3,dTIMES A,fPLUS DI,eb,dGUNU,cNA,cNA2,cNAGA
dINVERTED,dTIMES SHU TENU,dOPPOSING NAGA,cNAGAR,cNAM NUTILLU,d,cNAM2,cNE,dTIMES A,eUD,dSHESHIG,cNI
dTIMES E,cNI2,cNIM,dTIMES GAN2 TENU,eGAR PLUSc,cNINDA2,dTIMES AN,eASH,fPLUSb,eGUD,eME PLUS GAN2 TENU
eNE,eNUN,eSHE,fPLUS A AN,gASH,hc,eU2c,eUSH,cNISAG,cNU,cNU11,cNUN,dLAGAR TIMES GAR,fMASH,fSAL,gOVERe
fUSH,dTENU,dOVER NUN,dCROSSINGb,fLAGAR OVER LAGAR,cNUNUZ,dAB2 TIMES ASHGAB,fBI,fDUG,fGUD,fIGI GUNU
fKAD3,fLA,fNE,fSILA3,fU2,dKISIM5 TIMES BI,gU,cPA,cPAD,cPAN,cPAP,cPESH2,cPI,dTIMES A,eAB,eBI,eBU,eE
eI,eIB,eU,eU2,dCROSSING PI,cPIRIG,dTIMES KAL,eUD,eZA,dOPPOSING PIRIG,cRA,cRAB,cRI,cRU,cSA
cSAG NUTILLU,d,dTIMES A,eDU,eDUB,eHA,eKAK,eKUR,eLUM,eMI,eNUN,eSAL,eSHID,eTAB,eU2,eUB,eUM,eUR,eUSH
dOVER SAG,dGUNU,cSAL,dLAGAB TIMES ASH2,cSANGA2,cSAR,cSHA,cSHA3,dTIMES A,eBAD,eGISH,eNE,eSHU2,eTUR,eU
fPLUS A,cSHA6,cSHAB6,cSHAR2,cSHE,dHU,dOVER SHE GAD OVER GAD GAR OVER GAR,fTAB OVER TABd,cSHEG9,cSHEN
cSHESH,cSHESH2,cSHESHLAM,cSHID,dTIMES A,eIM,cSHIM,dTIMES A,eBAL,eBULUG,eDIN,eGAR,eIGI,fGUNU,eKUSHU2
eLUL,eMUG,eSAL,cSHINIG,cSHIR,dTENU|cNU11b,cSHIR OVER SHIR BUR OVER BUR|cNU11 OVER NU11d,cSHITA,cSHU
dOVER INVERTEDb,cSHU2,cSHUBUR,cSI,dGUNU,cSIG,cSIG4,dOVER SIG4 SHU2,cSIK2,cSILA3,cSU,dOVERb,cSUD
cSUD2,cSUHUR,cSUM,cSUMASH,cSUR,cSUR9,cTA,dASTERISK,dTIMES HI,eMI,dGUNU,cTAB
dOVER TAB NI OVER NI DISH OVER DISH,dSQUARED,cTAG,dTIMES BI,eGUD,eSHE,eSHU,eTUG2,eUD,cTAK4,cTAR,cTE
dGUNU,cTI,dTENU,cTIL,cTIR,dTIMES TAK4,dOVER TIR,fGAD OVER GAD GAR OVER GAR,cTU,cTUG2,cTUK,cTUM,cTUR
dOVER TUR ZA OVER ZA,cU,dGUD,dU U,dOVER U PA OVER PA GAR OVER GAR,fSUR OVER SUR
fU REVERSED OVER U REVERSED,cU2,cUB,cUD,dKUSHU2,dTIMES BAD,eMI,eU PLUS U PLUS U,jGUNU,db,dSHESHIG
eTIMES BAD,cUDUG,cUM,dTIMES LAGAB,eME PLUS DA,eSHA3,eU,cUMBIN,cUMUM,dTIMES KASKAL,ePA,cUN,dGUNU,cUR
dCROSSINGb,dSHESHIG,cUR2,dTIMES A PLUS HA,gNA,eAL,eHA,eNUN,eU2,fPLUS ASH,gBI,cUR4,cURI,cURI3,cURU
dTIMES A,eASHGAB,eBAR,eDUN,eGA,eGAL,eGAN2 TENU,eGAR,eGU,eHA,eIGI,eIM,eISH,eKI,eLUM,eMIN,ePA,eSHE
eSIG4,eTU,eU PLUS GUD,eUD,eURUDA,cb,dTIMES U,cUSH,dTIMES A,eKU,eKUR,eTAK4,cUSHX,cUSH2,cUSHUMX,cUTUKI
cUZ3,dTIMES KASKAL,cUZU,cZA,dTENU,dSQUARED TIMES KUR,cZAG,cZAMX,cZE2,cZI,dOVERb,cZI3,cZIB,dKABA TENU
cZIG,cZIZ2,cZU,cZU5,dTIMES A,cZUBUR,cZUM,cKAP ELAMITE,cAB TIMES NUN,cAB2 TIMES A,cAMAR TIMES KUG
cDAG KISIM5 TIMES U2 PLUS MASH,cDAG3,cDISH PLUS SHU,cDUB TIMES SHE,cEZEN TIMES GUD,eSHE
cGA2 TIMES AN PLUS KAK PLUS A,eASH2,cGE22,cGIG,cHUSH,cKA TIMES ANSHE,eASH3,eGISH,eGUD,eHI TIMES ASH2
eLUM,ePA,eSHUL,eTU,eUR2,cLAGAB TIMES GI,cLU2 SHESHIG TIMES BAD,dTIMES ESH2 PLUS LAL,eSHU,cMESH
cMUSH3 TIMES ZA,cNA4,cNIN,cNIN9,cNINDA2 TIMES BAL,eGI,cNU11 ROTATED NINETY DEGREES,cPESH2 ASTERISK
cPIR2,cSAG TIMES IGI GUNU,cTI2,cUM TIMES ME,cU U,102,bNUMERIC SIGN TWO ASH,dTHREEb,dFOURb,dFIVEb
dSIXb,dSEVENb,dEIGHTb,dNINEb,dTHREE DISH,dFOURb,dFIVEb,dSIXb,dSEVENb,dEIGHTb,dNINEb,dFOUR U,dFIVEb
dSIXb,dSEVENb,dEIGHTb,dNINEb,dONE GESH2,dTWOb,dTHREEb,dFOURb,dFIVEb,dSIXb,dSEVENb,dEIGHTb,dNINEb
dONE GESHU,dTWOb,dTHREEb,dFOURb,dFIVEb,dTWO SHAR2,dTHREEb,fVARIANT FORM,dFOUR SHAR2,dFIVEb,dSIXb
dSEVENb,dEIGHTb,dNINEb,dONE SHARU,dTWOb,dTHREEb,fVARIANT FORM,dFOUR SHARU,dFIVEb
dSHAR2 TIMES GAL PLUS DISH,hMIN,dONE BURU,dTWOb,dTHREEb,fVARIANT FORM,dFOUR BURU,dFIVEb
dTHREE VARIANT FORM ESH16,gESH21,dFOUR VARIANT FORM LIMMU,gLIMMU4,gLIMMU A,hB,dSIX VARIANT FORM ASH9
dSEVEN VARIANT FORM IMIN3,gIMIN A,hB,dEIGHT VARIANT FORM USSU,gUSSU3,dNINE VARIANT FORM ILIMMU
gILIMMU3,gILIMMU4,gILIMMU A,dTWO ASH TENU,dTHREEc,dFOURc,dFIVEc,dSIXc,dONE BAN2,dTWOb,dTHREEb,dFOURb
fVARIANT FORM,dFIVE BAN2,fVARIANT FORM,dNIGIDAMIN,dNIGIDAESH,dONE ESHE3,dTWOb,dONE THIRD DISH
dTWO THIRDSb,dFIVE SIXTHSb,dONE THIRD VARIANT FORM A,dTWO THIRDSd,dONE EIGHTH ASH,eQUARTERb
dOLD ASSYRIAN ONE SIXTH,gQUARTER,dONE QUARTER GUR,eHALFb,dELAMITE ONE THIRD,eTWO THIRDS,eFORTY
eFIFTY,dFOUR U VARIANT FORM,dFIVEd,dSIXd,dSEVENd,dEIGHTd,dNINEd,1
bPUNCTUATION SIGN OLD ASSYRIAN WORD DIVIDER,dVERTICAL COLON,dDIAGONALb,eTRICOLON,eQUADCOLON,11
bSIGN AB TIMES NUN TENU,eSHU2,cAD TIMES ESH2,cBAD TIMES DISH TENU,cBAHAR2 TIMES AB2,eNI,eZA
cBU OVER BU TIMES NA2,cDA TIMES TAK4,cDAG TIMES KUR,cDIM TIMES IGI,eU U U,cDIM2 TIMES UD
cDUG TIMES ANSHE,eASH,fAT LEFT,eDIN,eDUN,eERIN2,eGA,eGI,eGIR2 GUNU,eGISH,eHA,eHI,eIGI GUNU,eKASKAL
eKUR,eKUSHU2,fPLUS KASKAL,eLAK-020,eLAM,fTIMES KUR,eLUH PLUS GISH,eMASH,eMES,eMI,eNI,ePI,eSHE
eSI GUNU,cE2 TIMES KUR,ePAP,cERIN2 X,cESH2 CROSSING ESH2,cEZEN SHESHIG TIMES ASH,fHI,fIGI GUNU,fLA
fLAL,fME,fMES,fSU,dc,cGA2 TIMES BAHAR2,eDIM GUNU,eDUG TIMES IGIb,gKASKAL,eEREN,eGA,eGAR PLUS DI,gNE
eHA PLUS A,eKUSHU2 PLUS KASKAL,eLAM,fTIMES KUR,eLUH,eMUSH,eNE,fPLUS E2,gGI,eSHIM,eZIZ2
cGABA ROTATED NINETY DEGREES,cGESHTIN TIMES U,cGISH TIMES GISH CROSSING GISH,cGU2 TIMES IGI GUNU
cGUD PLUS GISH TIMES TAK4,cHA TENU GUNU,cHI TIMES ASH OVER HI TIMES ASH,cKA TIMES BU,eKA,eU U U,eUR
cLAGAB TIMES ZU OVER ZU,cLAK-003,cLAK-021,cLAK-025,cLAK-030,cLAK-050,cLAK-051,cLAK-062
cLAK-079 OVER LAK-079 GUNU,cLAK-080,cLAK-081 OVER LAK-081,cLAK-092,cLAK-130,cLAK-142,cLAK-210
cLAK-219,cLAK-220,cLAK-225,cLAK-228,cLAK-238,cLAK-265,cLAK-266,cLAK-343,cLAK-347,cLAK-348,cLAK-383
cLAK-384,cLAK-390,cLAK-441,cLAK-449,dTIMES GU,eIGI,ePAP PLUS LU3,gd,eU2 PLUS BA,cLAK-450,cLAK-457
cLAK-470,cLAK-483,cLAK-490,cLAK-492,cLAK-493,cLAK-495,cLAK-550,cLAK-608,cLAK-617,dTIMES ASH,eBAD
eDUN3 GUNU GUNU,eKU3,eLA,eTAR,eTE,eU2,eUD,eURUDA,cLAK-636,cLAK-648,dTIMES DUB,eGA,eIGI,fGUNU,eNI
ePAP PLUS PAP PLUS LU3,eSHESH PLUS KI,eUD,eURUDA,cLAK-724,cLAK-749,cLU2 GUNU TIMES ASH,dTIMES DISH
eHAL,ePAP,fPLUS PAP PLUS LU3,eTAK4,cMI PLUS ZA7,cMUSH OVER MUSH TIMES GA,gKAK,cNINDA2 TIMES DIM GUNU
eGISH,eGUL,eHI,eKESH2,eLAK-050,eMASH,ePAP PLUS PAP,eU,fPLUSb,eURUDA,cSAG GUNU TIMES HA,dTIMES EN
eSHE AT LEFT,eTAK4,cSHA6 TENU,cSHE OVER SHE,dPLUS HUB2,eNAM2,eSAR,cSHU2 PLUS DUG TIMES NI
eE2 TIMES AN,cSI TIMES TAK4,cTAK4 PLUS SAG,cTUM TIMES GAN2 TENU,eTHREE DISH,cUR2 INVERTED,dTIMES UD
cURU TIMES DARA3,eLAK-668,eLU3,cZA7,cZU OVER ZU PLUS SAR,cZU5 TIMES THREE DISH TENU,2636
aCYPRO-MINOAN SIGN CM001,cCM002,cCM004,cCM005,cCM006,cCM007,cCM008,cCM009,cCM010,cCM011,cCM012
cCM012B,cCM013,cCM015,cCM017,cCM019,cCM021,cCM023,cCM024,cCM025,cCM026,cCM027,cCM028,cCM029,cCM030
cCM033,cCM034,cCM035,cCM036,cCM037,cCM038,cCM039,cCM040,cCM041,cCM044,cCM046,cCM047,cCM049,cCM050
cCM051,cCM052,cCM053,cCM054,cCM055,cCM056,cCM058,cCM059,cCM060,cCM061,cCM062,cCM063,cCM064,cCM066
cCM067,cCM068,cCM069,cCM070,cCM071,cCM072,cCM073,cCM074,cCM075,cCM075B,cCM076,cCM078,cCM079,cCM080
cCM081,cCM082,cCM083,cCM084,cCM085,cCM086,cCM087,cCM088,cCM089,cCM090,cCM091,cCM092,cCM094,cCM095
cCM096,cCM097,cCM098,cCM099,cCM100,cCM101,cCM102,cCM103,cCM104,cCM105,cCM107,cCM108,cCM109,cCM110
cCM112,cCM114,cCM301,cCM302,13,aEGYPTIAN HIEROGLYPH A001,cA002,cA003,cA004,cA005,cA005A,cA006,cA006A
cA006B,cA007,cA008,cA009,cA010,cA011,cA012,cA013,cA014,cA014A,cA015,cA016,cA017,cA017A,cA018,cA019
cA020,cA021,cA022,cA023,cA024,cA025,cA026,cA027,cA028,cA029,cA030,cA031,cA032,cA032A,cA033,cA034
cA035,cA036,cA037,cA038,cA039,cA040,cA040A,cA041,cA042,cA042A,cA043,cA043A,cA044,cA045,cA045A,cA046
cA047,cA048,cA049,cA050,cA051,cA052,cA053,cA054,cA055,cA056,cA057,cA058,cA059,cA060,cA061,cA062
cA063,cA064,cA065,cA066,cA067,cA068,cA069,cA070,cB001,cB002,cB003,cB004,cB005,cB005A,cB006,cB007
cB008,cB009,cC001,cC002,cC002A,cC002B,cC002C,cC003,cC004,cC005,cC006,cC007,cC008,cC009,cC010,cC010A
cC011,cC012,cC013,cC014,cC015,cC016,cC017,cC018,cC019,cC020,cC021,cC022,cC023,cC024,cD001,cD002
cD003,cD004,cD005,cD006,cD007,cD008,cD008A,cD009,cD010,cD011,cD012,cD013,cD014,cD015,cD016,cD017
cD018,cD019,cD020,cD021,cD022,cD023,cD024,cD025,cD026,cD027,cD027A,cD028,cD029,cD030,cD031,cD031A
cD032,cD033,cD034,cD034A,cD035,cD036,cD037,cD038,cD039,cD040,cD041,cD042,cD043,cD044,cD045,cD046
cD046A,cD047,cD048,cD048A,cD049,cD050,cD050A,cD050B,cD050C,cD050D,cD050E,cD050F,cD050G,cD050H,cD050I
cD051,cD052,cD052A,cD053,cD054,cD054A,cD055,cD056,cD057,cD058,cD059,cD060,cD061,cD062,cD063,cD064
cD065,cD066,cD067,cD067A,cD067B,cD067C,cD067D,cD067E,cD067F,cD067G,cD067H,cE001,cE002,cE003,cE004
cE005,cE006,cE007,cE008,cE008A,cE009,cE009A,cE010,cE011,cE012,cE013,cE014,cE015,cE016,cE016A,cE017
cE017A,cE018,cE019,cE020,cE020A,cE021,cE022,cE023,cE024,cE025,cE026,cE027,cE028,cE028A,cE029,cE030
cE031,cE032,cE033,cE034,cE034A,cE036,cE037,cE038,cF001,cF001A,cF002,cF003,cF004,cF005,cF006,cF007
cF008,cF009,cF010,cF011,cF012,cF013,cF013A,cF014,cF015,cF016,cF017,cF018,cF019,cF020,cF021,cF021A
cF022,cF023,cF024,cF025,cF026,cF027,cF028,cF029,cF030,cF031,cF031A,cF032,cF033,cF034,cF035,cF036
cF037,cF037A,cF038,cF038A,cF039,cF040,cF041,cF042,cF043,cF044,cF045,cF045A,cF046,cF046A,cF047,cF047A
cF048,cF049,cF050,cF051,cF051A,cF051B,cF051C,cF052,cF053,cG001,cG002,cG003,cG004,cG005,cG006,cG006A
cG007,cG007A,cG007B,cG008,cG009,cG010,cG011,cG011A,cG012,cG013,cG014,cG015,cG016,cG017,cG018,cG019
cG020,cG020A,cG021,cG022,cG023,cG024,cG025,cG026,cG026A,cG027,cG028,cG029,cG030,cG031,cG032,cG033
cG034,cG035,cG036,cG036A,cG037,cG037A,cG038,cG039,cG040,cG041,cG042,cG043,cG043A,cG044,cG045,cG045A
cG046,cG047,cG048,cG049,cG050,cG051,cG052,cG053,cG054,cH001,cH002,cH003,cH004,cH005,cH006,cH006A
cH007,cH008,cI001,cI002,cI003,cI004,cI005,cI005A,cI006,cI007,cI008,cI009,cI009A,cI010,cI010A,cI011
cI011A,cI012,cI013,cI014,cI015,cK001,cK002,cK003,cK004,cK005,cK006,cK007,cK008,cL001,cL002,cL002A
cL003,cL004,cL005,cL006,cL006A,cL007,cL008,cM001,cM001A,cM001B,cM002,cM003,cM003A,cM004,cM005,cM006
cM007,cM008,cM009,cM010,cM010A,cM011,cM012,cM012A,cM012B,cM012C,cM012D,cM012E,cM012F,cM012G,cM012H
cM013,cM014,cM015,cM015A,cM016,cM016A,cM017,cM017A,cM018,cM019,cM020,cM021,cM022,cM022A,cM023,cM024
cM024A,cM025,cM026,cM027,cM028,cM028A,cM029,cM030,cM031,cM031A,cM032,cM033,cM033A,cM033B,cM034,cM035
cM036,cM037,cM038,cM039,cM040,cM040A,cM041,cM042,cM043,cM044,cN001,cN002,cN003,cN004,cN005,cN006
cN007,cN008,cN009,cN010,cN011,cN012,cN013,cN014,cN015,cN016,cN017,cN018,cN018A,cN018B,cN019,cN020
cN021,cN022,cN023,cN024,cN025,cN025A,cN026,cN027,cN028,cN029,cN030,cN031,cN032,cN033,cN033A,cN034
cN034A,cN035,cN035A,cN036,cN037,cN037A,cN038,cN039,cN040,cN041,cN042,cNL001,cNL002,cNL003,cNL004
cNL005,cNL005A,cNL006,cNL007,cNL008,cNL009,cNL010,cNL011,cNL012,cNL013,cNL014,cNL015,cNL016,cNL017
cNL017A,cNL018,cNL019,cNL020,cNU001,cNU002,cNU003,cNU004,cNU005,cNU006,cNU007,cNU008,cNU009,cNU010
cNU010A,cNU011,cNU011A,cNU012,cNU013,cNU014,cNU015,cNU016,cNU017,cNU018,cNU018A,cNU019,cNU020,cNU021
cNU022,cNU022A,cO001,cO001A,cO002,cO003,cO004,cO005,cO005A,cO006,cO006A,cO006B,cO006C,cO006D,cO006E
cO006F,cO007,cO008,cO009,cO010,cO010A,cO010B,cO010C,cO011,cO012,cO013,cO014,cO015,cO016,cO017,cO018
cO019,cO019A,cO020,cO020A,cO021,cO022,cO023,cO024,cO024A,cO025,cO025A,cO026,cO027,cO028,cO029,cO029A
cO030,cO030A,cO031,cO032,cO033,cO033A,cO034,cO035,cO036,cO036A,cO036B,cO036C,cO036D,cO037,cO038
cO039,cO040,cO041,cO042,cO043,cO044,cO045,cO046,cO047,cO048,cO049,cO050,cO050A,cO050B,cO051,cP001
cP001A,cP002,cP003,cP003A,cP004,cP005,cP006,cP007,cP008,cP009,cP010,cP011,cQ001,cQ002,cQ003,cQ004
cQ005,cQ006,cQ007,cR001,cR002,cR002A,cR003,cR003A,cR003B,cR004,cR005,cR006,cR007,cR008,cR009,cR010
cR010A,cR011,cR012,cR013,cR014,cR015,cR016,cR016A,cR017,cR018,cR019,cR020,cR021,cR022,cR023,cR024
cR025,cR026,cR027,cR028,cR029,cS001,cS002,cS002A,cS003,cS004,cS005,cS006,cS006A,cS007,cS008,cS009
cS010,cS011,cS012,cS013,cS014,cS014A,cS014B,cS015,cS016,cS017,cS017A,cS018,cS019,cS020,cS021,cS022
cS023,cS024,cS025,cS026,cS026A,cS026B,cS027,cS028,cS029,cS030,cS031,cS032,cS033,cS034,cS035,cS035A
cS036,cS037,cS038,cS039,cS040,cS041,cS042,cS043,cS044,cS045,cS046,cT001,cT002,cT003,cT003A,cT004
cT005,cT006,cT007,cT007A,cT008,cT008A,cT009,cT009A,cT010,cT011,cT011A,cT012,cT013,cT014,cT015,cT016
cT016A,cT017,cT018,cT019,cT020,cT021,cT022,cT023,cT024,cT025,cT026,cT027,cT028,cT029,cT030,cT031
cT032,cT032A,cT033,cT033A,cT034,cT035,cT036,cU001,cU002,cU003,cU004,cU005,cU006,cU006A,cU006B,cU007
cU008,cU009,cU010,cU011,cU012,cU013,cU014,cU015,cU016,cU017,cU018,cU019,cU020,cU021,cU022,cU023
cU023A,cU024,cU025,cU026,cU027,cU028,cU029,cU029A,cU030,cU031,cU032,cU032A,cU033,cU034,cU035,cU036
cU037,cU038,cU039,cU040,cU041,cU042,cV001,cV001A,cV001B,cV001C,cV001D,cV001E,cV001F,cV001G,cV001H
cV001I,cV002,cV002A,cV003,cV004,cV005,cV006,cV007,cV007A,cV007B,cV008,cV009,cV010,cV011,cV011A
cV011B,cV011C,cV012,cV012A,cV012B,cV013,cV014,cV015,cV016,cV017,cV018,cV019,cV020,cV020A,cV020B
cV020C,cV020D,cV020E,cV020F,cV020G,cV020H,cV020I,cV020J,cV020K,cV020L,cV021,cV022,cV023,cV023A,cV024
cV025,cV026,cV027,cV028,cV028A,cV029,cV029A,cV030,cV030A,cV031,cV031A,cV032,cV033,cV033A,cV034,cV035
cV036,cV037,cV037A,cV038,cV039,cV040,cV040A,cW001,cW002,cW003,cW003A,cW004,cW005,cW006,cW007,cW008
cW009,cW009A,cW010,cW010A,cW011,cW012,cW013,cW014,cW014A,cW015,cW016,cW017,cW017A,cW018,cW018A,cW019
cW020,cW021,cW022,cW023,cW024,cW024A,cW025,cX001,cX002,cX003,cX004,cX004A,cX004B,cX005,cX006,cX006A
cX007,cX008,cX008A,cY001,cY001A,cY002,cY003,cY004,cY005,cY006,cY007,cY008,cZ001,cZ002,cZ002A,cZ002B
cZ002C,cZ002D,cZ003,cZ003A,cZ003B,cZ004,cZ004A,cZ005,cZ005A,cZ006,cZ007,cZ008,cZ009,cZ010,cZ011
cZ012,cZ013,cZ014,cZ015,cZ015A,cZ015B,cZ015C,cZ015D,cZ015E,cZ015F,cZ015G,cZ015H,cZ015I,cZ016,cZ016A
cZ016B,cZ016C,cZ016D,cZ016E,cZ016F,cZ016G,cZ016H,cAA001,cAA002,cAA003,cAA004,cAA005,cAA006,cAA007
cAA007A,cAA007B,cAA008,cAA009,cAA010,cAA011,cAA012,cAA013,cAA014,cAA015,cAA016,cAA017,cAA018,cAA019
cAA020,cAA021,cAA022,cAA023,cAA024,cAA025,cAA026,cAA027,cAA028,cAA029,cAA030,cAA031,cAA032,1
cVERTICAL JOINER,cHORIZONTALb,cINSERT AT TOP START,eBOTTOMb,eTOP END,eBOTTOMb,cOVERLAY MIDDLE
cBEGIN SEGMENT,cENDb,4039,aANATOLIAN HIEROGLYPH A001,cA002,cA003,cA004,cA005,cA006,cA007,cA008,cA009
cA010,cA010A,cA011,cA012,cA013,cA014,cA015,cA016,cA017,cA018,cA019,cA020,cA021,cA022,cA023,cA024
cA025,cA026,cA026A,cA027,cA028,cA029,cA030,cA031,cA032,cA033,cA034,cA035,cA036,cA037,cA038,cA039
cA039A,cA040,cA041,cA041A,cA042,cA043,cA044,cA045,cA045A,cA046,cA046A,cA046B,cA047,cA048,cA049,cA050
cA051,cA052,cA053,cA054,cA055,cA056,cA057,cA058,cA059,cA060,cA061,cA062,cA063,cA064,cA065,cA066
cA066A,cA066B,cA066C,cA067,cA068,cA069,cA070,cA071,cA072,cA073,cA074,cA075,cA076,cA077,cA078,cA079
cA080,cA081,cA082,cA083,cA084,cA085,cA086,cA087,cA088,cA089,cA090,cA091,cA092,cA093,cA094,cA095
cA096,cA097,cA097A,cA098,cA098A,cA099,cA100,cA100A,cA101,cA101A,cA102,cA102A,cA103,cA104,cA104A
cA104B,cA104C,cA105,cA105A,cA105B,cA106,cA107,cA107A,cA107B,cA107C,cA108,cA109,cA110,cA110A,cA110B
cA111,cA112,cA113,cA114,cA115,cA115A,cA116,cA117,cA118,cA119,cA120,cA121,cA122,cA123,cA124,cA125
cA125A,cA126,cA127,cA128,cA129,cA130,cA131,cA132,cA133,cA134,cA135,cA135A,cA136,cA137,cA138,cA139
cA140,cA141,cA142,cA143,cA144,cA145,cA146,cA147,cA148,cA149,cA150,cA151,cA152,cA153,cA154,cA155
cA156,cA157,cA158,cA159,cA160,cA161,cA162,cA163,cA164,cA165,cA166,cA167,cA168,cA169,cA170,cA171
cA172,cA173,cA174,cA175,cA176,cA177,cA178,cA179,cA180,cA181,cA182,cA183,cA184,cA185,cA186,cA187
cA188,cA189,cA190,cA191,cA192,cA193,cA194,cA195,cA196,cA197,cA198,cA199,cA200,cA201,cA202,cA202A
cA202B,cA203,cA204,cA205,cA206,cA207,cA207A,cA208,cA209,cA209A,cA210,cA211,cA212,cA213,cA214,cA215
cA215A,cA216,cA216A,cA217,cA218,cA219,cA220,cA221,cA222,cA223,cA224,cA225,cA226,cA227,cA227A,cA228
cA229,cA230,cA231,cA232,cA233,cA234,cA235,cA236,cA237,cA238,cA239,cA240,cA241,cA242,cA243,cA244
cA245,cA246,cA247,cA248,cA249,cA250,cA251,cA252,cA253,cA254,cA255,cA256,cA257,cA258,cA259,cA260
cA261,cA262,cA263,cA264,cA265,cA266,cA267,cA267A,cA268,cA269,cA270,cA271,cA272,cA273,cA274,cA275
cA276,cA277,cA278,cA279,cA280,cA281,cA282,cA283,cA284,cA285,cA286,cA287,cA288,cA289,cA289A,cA290
cA291,cA292,cA293,cA294,cA294A,cA295,cA296,cA297,cA298,cA299,cA299A,cA300,cA301,cA302,cA303,cA304
cA305,cA306,cA307,cA308,cA309,cA309A,cA310,cA311,cA312,cA313,cA314,cA315,cA316,cA317,cA318,cA319
cA320,cA321,cA322,cA323,cA324,cA325,cA326,cA327,cA328,cA329,cA329A,cA330,cA331,cA332A,cA332B,cA332C
cA333,cA334,cA335,cA336,cA336A,cA336B,cA336C,cA337,cA338,cA339,cA340,cA341,cA342,cA343,cA344,cA345
cA346,cA347,cA348,cA349,cA350,cA351,cA352,cA353,cA354,cA355,cA356,cA357,cA358,cA359,cA359A,cA360
cA361,cA362,cA363,cA364,cA364A,cA365,cA366,cA367,cA368,cA368A,cA369,cA370,cA371,cA371A,cA372,cA373
cA374,cA375,cA376,cA377,cA378,cA379,cA380,cA381,cA381A,cA382,cA383 RA OR RI,cA383A,cA384,cA385,cA386
cA386A,cA387,cA388,cA389,cA390,cA391,cA392,cA393 EIGHT,cA394,cA395,cA396,cA397,cA398,cA399,cA400
cA401,cA402,cA403,cA404,cA405,cA406,cA407,cA408,cA409,cA410 BEGIN LOGOGRAM MARK,cA410A ENDc,cA411
cA412,cA413,cA414,cA415,cA416,cA417,cA418,cA419,cA420,cA421,cA422,cA423,cA424,cA425,cA426,cA427
cA428,cA429,cA430,cA431,cA432,cA433,cA434,cA435,cA436,cA437,cA438,cA439,cA440,cA441,cA442,cA443
cA444,cA445,cA446,cA447,cA448,cA449,cA450,cA450A,cA451,cA452,cA453,cA454,cA455,cA456,cA457,cA457A
cA458,cA459,cA460,cA461,cA462,cA463,cA464,cA465,cA466,cA467,cA468,cA469,cA470,cA471,cA472,cA473
cA474,cA475,cA476,cA477,cA478,cA479,cA480,cA481,cA482,cA483,cA484,cA485,cA486,cA487,cA488,cA489
cA490,cA491,cA492,cA493,cA494,cA495,cA496,cA497,cA501,cA502,cA503,cA504,cA505,cA506,cA507,cA508
cA509,cA510,cA511,cA512,cA513,cA514,cA515,cA516,cA517,cA518,cA519,cA520,cA521,cA522,cA523,cA524
cA525,cA526,cA527,cA528,cA529,cA530,8633,aBAMUM LETTER PHASE-A NGKUE MFON,dGBIEE FON
dPON MFON PIPAEMGBIEE,fPIPAEMBA,dNAA MFON,dSHUENSHUET,dTITA MFON,dNZAb,dSHINDA PA NJI
dPON PA NJI PIPAEMGBIEE,gPIPAEMBA,dMAEMBGBIEE,dTU MAEMBA,dNGANGU,dMAEMVEUX,dMANSUAE,dMVEUAENGAM
dSEUNYAM,dNTOQPEN,dKEUKEUTNDA,dNKINDI,dSUU,dNGKUENZEUM,dLAPAQ,dLET KUT,dNTAP MFAA,dMAEKEUP,dPASHAE
dGHEUAERAE,dPAMSHAE,dMON NGGEUAET,dNZUN MEUT,dU YUQ NAE,dGHEUAEGHEUAE,dNTAP NTAA,dSISA,dMGBASA
dMEUNJOMNDEUQ,dMOOMPUQ,dKAFA,dPA LEERAEWA,dNDAb,dPET,dMAEMKPEN,dNIKA,dPUP,dTUAEP,dLUAEP,dSONJAM
dTEUTEUWEN,dMAENYI,dKET,dNDAANGGEUAET,dKUOQ,dMOOMEUT,dSHUM,dLOMMAE,dFIRI,dROM,dKPOQ,dSOQ,dMAP PIEET
dSHIRAE,dNTAP,dSHOQ NSHUT YUM,dNYIT MONGKEUAEQ,dPAARAE,dNKAARAE,dUNKNOWN,dNGGEN,dMAESI,dNJAM,dMBANYI
dNYET,dTEUAEN,dSOT,dPAAM,dNSHIEE,dMAEM,dNYI,dKAQ,dNSHA,dVEE,dLU,dNEN,dNAQ,dMBAQ,cPHASE-B NSHUET
dTU MAEMGBIEE,dSIEE,dSET TU,dLOM NTEUM,dMBA MAELEE,dKIEEM,dYEURAE,dMBAARAE,dKAM,dPEESHI
dYAFU LEERAEWA,dLAM NSHUT NYAM,dNTIEE SHEUOQ,dNDU NJAA,dGHEUGHEUAEM,dPIT,dTU NSIEE,dSHET NJAQ
dSHEUAEQTU,dMFON TEUAEQ,dMBIT MBAAKET,dNYI NTEUM,dKEUPUQ,dGHEUGHEN,dKEUYEUX,dLAANAE,dPARUM,dVEUM
dNGKINDI MVOP,dNGGEU MBU,dWUAET,dSAKEUAE,dTAAM,dMEUQ,dNGGUOQ,eLARGE,dMFIYAQ,dSUE,dMBEURI,dMONTIEEN
dNYAEMAE,dPUNGAAM,dMEUT NGGEET,dFEUX,dMBUOQ,dFEE,dKEUAEM,dMA NJEUAENA,eNJUQA,dLET,dNGGAAM,dNSEN,dMA
dKIQ,dNGOM,cPHASE-C NGKUE MAEMBA,dNZA,dYUM,dWANGKUOQ,dNGGEN,dNDEUAEREE,dNGKAQ,dGHARAE,dMBEEKEET
dGBAYI,dNYIR MKPARAQ MEUN,dNTU MBIT,dMBEUM,dPIRIEEN,dNDOMBU,dMBAA CABBAGE-TREE,dKEUSHEUAEP,dGHAP
dKEUKAQ,dYU MUOMAE,dNZEUM,dMBUE,dNSEUAEN,dMBIT,dYEUQ,dKPARAQ,dKAA,dSEUX,dNDIDA,dTAASHAE,dNJUEQ
dTITA YUE,dSUAET,dNGGUAEN NYAM,dVEUX,dNANSANAQ,dMA KEUAERI,dNTAA,dNGGUON,dLAP,dMBIRIEEN,dMGBASAQ
dNTEUNGBA,dTEUTEUX,dNGGUM,dFUE,dNDEUT,dNSA,dNSHAQ,dBUNG,dVEUAEPEN,dMBERAE,dRU,dNJAEM,dLAM,dTITUAEP
dNSUOT NGOM,dNJEEEE,dKET,dNGGU,dMAESI,dMBUAEM,dLU,dKUT,dNJAM,dNGOM,dWUP,dNGGUEET,dNSOM,dNTEN
dKUOP NKAARAE,dNSUN,dNDAM,dMA NSIEE,dYAA,dNDAP,dSHUEQ,dSETFON,dMBI,dMAEMBA,dMBANYI,dKEUSEUX,dMBEUX
dKEUM,dMBAA PICKET,dYUWOQ,dNJEUX,dMIEE,dMUAE,dSHIQ,dKEN LAW,eFATIGUE,dNGAQ,dNAQ,dLIQ,dPIN,dPEN,dTET
cPHASE-D MBUO,dWAP,dNJI,dMFON,dNJIEE,dLIEE,dNJEUT,dNSHEE,dNGGAAMAE,dNYAM,dWUAEN,dNGKUN,dSHEE,dNGKAP
dKEUAETMEUN,dTEUT,dSHEUAE,dNJAP,dSUE,dKET,dYAEMMAE,dKUOM,dSAP,dMFEUT,dNDEUX,dMALEERI,dMEUT,dSEUAEQ
dYEN,dNJEUAEM,dKEUOT MBUAE,dNGKEURI,dTU,dGHAA,dNGKYEE,dFEUFEUAET,dNDEE,dMGBOFUM,dLEUAEP,dNDON,dMONI
dMGBEUN,dPUUT,dMGBIEE,dMFO,dLUM,dNSIEEP,dMBAA,dKWAET,dNYET,dTEUAEN,dSOT,dYUWOQ,dKEUM,dRAEM,dTEEEE
dNGKEUAEQ,dMFEUAE,dNSIEET,dKEUP,dPIP,dPEUTAE,dNYUE,dLET,dNGGAAM,dMFIEE,dNGGWAEN,dYUOM,dPAP,dYUOP
dNDAM,dNTEUM,dSUAE,dKUN,dNGGEUX,dNGKIEE,dTUOT,dMEUN,dKUQ,dNSUM,dTEUN,dMAENJET,dNGGAP,dLEUM,dNGGUOM
dNSHUT,dNJUEQ,dGHEUAE,dKU,dREN OLD,dTAE,dTOQ,dNYI,dRII,dLEEEE,dMEEEE,dM,dSUU,dMU,dSHII,dSHEUX,dKYEE
dNU,dSHU,dNTEE,dPEE,dNI,dSHOQ,dPUQ,dMVOP,dLOQ,dREN MUCH,dTI,dNTUU,dMBAA SEVEN,dSAQ,dFAA
cPHASE-E NDAP,dTOON,dMBEUM,dLAP,dVOM,dLOON,dPAA,dSOM,dRAQ,dNSHUOP,dNDUN,dPUAE,dTAM,dNGKA,dKPEUX,dWUO
dSEE,dNGGEUAET,dPAAM,dTOO,dKUOP,dLOM,dNSHIEE,dNGOP,dMAEM,dNGKEUX,dNGOQ,dNSHUE,dRIMGBA,dNJEUX,dPEEM
dSAA,dNGGURAE,dMGBA,dGHEUX,dNGKEUAEM,dNJAEMLI,dMAP,dLOOT,dNGGEEEE,dNDIQ,dTAEN NTEUM,dSET,dPUM
dNDAA SOFTNESS,dNGGUAESHAE NYAM,dYIEE,dGHEUN,dTUAE,dYEUAE,dPO,dTUMAE,dKEUAE,dSUAEN,dTEUAEQ,dVEUAE
dWEUX,dLAAM,dPU,dTAAQ,dGHAAMAE,dNGEUREUT,dSHEUAEQ,dMGBEN,dMBEE,dNZAQ,dNKOM,dGBET,dTUM,dKUET,dYAP
dNYI CLEAVER,dYIT,dMFEUQ,dNDIAQ,dPIEEQ,dYUEQ,dLEUAEM,dFUE,dGBEUX,dNGKUP,dKET,dMAE,dNGKAAMI,dGHET,dFA
dNTUM,dPEUT,dYEUM,dNGGEUAE,dNYI BETWEEN,dNZUQ,dPOON,dMIEE,dFUET,dNAE,dMUAE,dGHEUAE,dFU I,dMVI,dPUAQ
dNGKUM,dKUT,dPIET,dNTAP,dYEUAET,dNGGUP,dPA PEOPLE,dFU CALL,dFOM,dNJEE,dA,dTOQ,dO,dI,dLAQ,dPA PLURAL
dTAA,dTAQ,dNDAA MY HOUSE,dSHIQ,dYEUX,dNGUAE,dYUAEN,dYOQ SWIMMING,eCOVER,dYUQ,dYUN,dKEUX,dPEUX
dNJEE EPOCH,dPUE,dWUE,dFEE,dVEE,dLU,dMI,dREUX,dRAE,dNGUAET,dNGA,dSHO,dSHOQ,dFU REMEDY,dNA,dPI,dLOQ
dKO,dMEN,dMA,dMAQ,dTEU,dKI,dMON,dTEN,dFAQ,dGHOM,cPHASE-F KA,dU,dKU,dEE,dREE,dTAE,dNYI,dLA,dRII,dRIEE
dMEEEE,dTAA,dNDAA,dNJAEM,dM,dSUU,dSHII,dSI,dSEUX,dKYEE,dKET,dNUAE,dNU,dNJUAE,dYOQ,dSHU,dYA,dNSHA
dPEUX,dNTEE,dWUE,dPEE,dRU,dNI,dREUX,dKEN,dNGKWAEN,dNGGA,dSHO,dPUAE,dFOM,dWA,dLI,dLOQ,dKO,dMBEN,dREN
dMA,dMO,dMBAA,dTET,dKPA,dSAMBA,dVUEQ,7,aMRO LETTER TA,cNGI,cYO,cMIM,cBA,cDA,cA,cPHI,cKHAI,cHAO,cDAI
cCHU,cKEAAE,cOL,cMAEM,cNIN,cPA,cOO,cO,cRO,cSHI,cTHEA,cEA,cWA,cE,cKO,cLAN,cLA,cHAI,cRI,cTEK,1
bDIGIT ZERO,cONE,cTWO,cTHREE,cFOUR,cFIVE,cSIX,cSEVEN,cEIGHT,cNINE,4,bDANDA,bDOUBLEb
aTANGSA LETTER OZ,cOC,cOQ,cOX,cAZ,cAC,cAQ,cAX,cVZ,cVC,cVQ,cVX,cEZ,cEC,cEQ,cEX,cIZ,cIC,cIQ,cIX,cUZ
cUC,cUQ,cUX,cAWZ,cAWC,cAWQ,cAWX,cUIZ,cUIC,cUIQ,cUIX,cFINAL NG,cLONG UEX,cSHORT UEZ,dAWX,cUEC,cUEZ
cUEQ,cUEX,cUIUZ,cUIUC,cUIUQ,cUIUX,cMZ,cMC,cMQ,cMX,cKA,cKHA,cGA,cNGA,cSA,cYA,cWA,cPA,cNYA,cPHA,cBA
cMA,cNA,cHA,cLA,cHTA,cTA,cDA,cRA,cNHA,cSHA,cCA,cTSA,cGHA,cHTTA,cTHA,cXA,cFA,cDHA,cCHA,cZA,1
bDIGIT ZERO,cONE,cTWO,cTHREE,cFOUR,cFIVE,cSIX,cSEVEN,cEIGHT,cNINE,6,aBASSA VAH LETTER ENNI,dKA,dSE
dFA,dMBE,dYIE,dGAH,dDHII,dKPAH,dJO,dHWAH,dWA,dZO,dGBU,dDO,dCE,dUWU,dTO,dBA,dVU,dYEIN,dPA,dWADDA,dA
dO,dOO,dU,dEE,dE,dI,2,cCOMBINING HIGH TONE,dLOWb,dMIDb,dLOW-MIDb,dHIGH-LOWb,cFULL STOP,10
aPAHAWH HMONG VOWEL KEEB,dKEEV,dKIB,dKIV,dKAUB,dKAUV,dKUB,dKUV,dKEB,dKEV,dKAIB,dKAIV,dKOOB,dKOOV
dKAWB,dKAWV,dKUAB,dKUAV,dKOB,dKOV,dKIAB,dKIAV,dKAB,dKAV,dKWB,dKWV,dKAAB,dKAAV,cCONSONANT VAU,dNTSAU
dLAU,dHAU,dNLAU,dRAU,dNKAU,dQHAU,dYAU,dHLAU,dMAU,dCHAU,dNCHAU,dHNAU,dPLHAU,dNTHAU,dNAU,dAU,dXAU,dCAU
cMARK CIM TUB,eSO,eKES,eKHAV,eSUAM,eHOM,eTAUM,cSIGN VOS THOM,eTSHAB CEEB,dCIM CHEEM,dVOS THIAB,eFEEM
dXYEEM NTXIV,eRHO,eTOV,eFAIB,dVOS SEEV,dMEEJ SUAB,dVOS NRUA,dIB YAM,dXAUS,dCIM TSOV ROG,10
cDIGIT ZERO,dONE,dTWO,dTHREE,dFOUR,dFIVE,dSIX,dSEVEN,dEIGHT,dNINE,1,cNUMBER TENS,dHUNDREDS
dTEN THOUSANDS,dMILLIONS,dHUNDREDb,dTEN BILLIONS,dTRILLIONS,1,cSIGN VOS LUB,dXYOO,dHLI,dTHIRD-STAGEb
dZWJ THAJ,dHNUB,dNQIG,dXIAB,dNTUJ,dAV,dTXHEEJ CEEV,dMEEJ TSEEB,dTAU,dLOS,dMUS
dCIM HAIS LUS NTOG NTOG,eCUAM TSHOOJ,eTXWV,fCHWV,ePUB DAWB,eNRES TOS,5,cCLAN SIGN TSHEEJ,eYEEG,eLIS
eLAUJ,eXYOOJ,eKOO,eHAWJ,eMUAS,eTHOJ,eTSAB,ePHAB,eKHAB,eHAM,eVAJ,eFAJ,eYAJ,eTSWB,eKWM,eVWJ,688
aMEDEFAIDRIN CAPITAL LETTER M,dS,dV,dW,dATIU,dZ,dKP,dP,dT,dG,dF,dI,dK,dA,dJ,dE,dB,dC,dU,dYU,dL,dQ
dHP|dH,dNY|dNG,dX,dD,dOE,dN,dR,dO,dAI,dY,bSMALL LETTER M,dS,dV,dW,dATIU,dZ,dKP,dP,dT,dG,dF,dI,dK,dA
dJ,dE,dB,dC,dU,dYU,dL,dQ,dHP|dH,dNY|dNG,dX,dD,dOE,dN,dR,dO,dAI,dY,bDIGIT ZERO,cONE,cTWO,cTHREE,cFOUR
cFIVE,cSIX,cSEVEN,cEIGHT,cNINE,bNUMBER TEN,cELEVEN,cTWELVE,cTHIRTEEN,cFOURTEEN,cFIFTEEN,cSIXTEEN
cSEVENTEEN,cEIGHTEEN,cNINETEEN,bDIGIT ONE ALTERNATE FORM,cTWOc,cTHREEc,bCOMMA,bFULL STOP
bSYMBOL AIVA,bEXCLAMATION OH,101,aMIAO LETTER PA,cBA,cYI PA,cPLA,cMA,cMHA,cARCHAIC MA,cFA,cVA,cVFA
cTA,cDA,cYI TTA,dTA,cTTA,cDDA,cNA,cNHA,cYI NNA,cARCHAIC NA,cNNA,cNNHA,cLA,cLYA,cLHA,cLHYA,cTLHA
cDLHA,cTLHYA,cDLHYA,cKA,cGA,cYI KA,cQA,cQGA,cNGA,cNGHA,cARCHAIC NGA,cHA,cXA,cGHA,cGHHA,cTSSA,cDZZA
cNYA,cNYHA,cTSHA,cDZHA,cYI TSHA,dDZHA,cREFORMED TSHA,cSHA,cSSA,cZHA,cZSHA,cTSA,cDZA,cYI TSA,cSA,cZA
cZSA,cZZA,cZZSA,cARCHAIC ZZA,cZZYA,cZZSYA,cWA,cAH,cHHA,cBRI,cSYI,cDZYI,cTE,cTSE,cRTE,4
bSIGN CONSONANT MODIFIER BAR,bLETTER NASALIZATION,bSIGN ASPIRATION,cREFORMED VOICING,dASPIRATION
bVOWEL SIGN A,dAA,dAHH,dAN,dANG,dO,dOO,dWO,dW,dE,dEN,dENG,dOEY,dI,dIA,dIAN,dIANG,dIO,dIE,dII,dIU
dING,dU,dUA,dUAN,dUANG,dUU,dUEI,dUNG,dY,dYI,dAE,dAEE,dERR,dROUNDEDb,dER,dROUNDEDb,dAI,dEI,dAU,dOU,dN
dNG,dUOG,dYUI,dOG,dOER,dVW,dIG,dEA,dIONG,dUI,7,bTONE RIGHT,cTOPb,cABOVE,cBELOW,bLETTER TONE-2
cTONE-3,cTONE-4,cTONE-5,cTONE-6,cTONE-7,cTONE-8,cREFORMED TONE-1,dTONE-2,dTONE-4,dTONE-5,dTONE-6
dTONE-8,64,aTANGUT ITERATION MARK,aNUSHUc,aOLD CHINESE HOOKb,cITERATIONb,aKHITAN SMALL SCRIPT FILLER
11,aVIETNAMESE ALTERNATE READING MARK CA,eNHAY,6158,aTANGUT COMPONENT-001,bCOMPONENT-002
bCOMPONENT-003,bCOMPONENT-004,bCOMPONENT-005,bCOMPONENT-006,bCOMPONENT-007,bCOMPONENT-008
bCOMPONENT-009,bCOMPONENT-010,bCOMPONENT-011,bCOMPONENT-012,bCOMPONENT-013,bCOMPONENT-014
bCOMPONENT-015,bCOMPONENT-016,bCOMPONENT-017,bCOMPONENT-018,bCOMPONENT-019,bCOMPONENT-020
bCOMPONENT-021,bCOMPONENT-022,bCOMPONENT-023,bCOMPONENT-024,bCOMPONENT-025,bCOMPONENT-026
bCOMPONENT-027,bCOMPONENT-028,bCOMPONENT-029,bCOMPONENT-030,bCOMPONENT-031,bCOMPONENT-032
bCOMPONENT-033,bCOMPONENT-034,bCOMPONENT-035,bCOMPONENT-036,bCOMPONENT-037,bCOMPONENT-038
bCOMPONENT-039,bCOMPONENT-040,bCOMPONENT-041,bCOMPONENT-042,bCOMPONENT-043,bCOMPONENT-044
bCOMPONENT-045,bCOMPONENT-046,bCOMPONENT-047,bCOMPONENT-048,bCOMPONENT-049,bCOMPONENT-050
bCOMPONENT-051,bCOMPONENT-052,bCOMPONENT-053,bCOMPONENT-054,bCOMPONENT-055,bCOMPONENT-056
bCOMPONENT-057,bCOMPONENT-058,bCOMPONENT-059,bCOMPONENT-060,bCOMPONENT-061,bCOMPONENT-062
bCOMPONENT-063,bCOMPONENT-064,bCOMPONENT-065,bCOMPONENT-066,bCOMPONENT-067,bCOMPONENT-068
bCOMPONENT-069,bCOMPONENT-070,bCOMPONENT-071,bCOMPONENT-072,bCOMPONENT-073,bCOMPONENT-074
bCOMPONENT-075,bCOMPONENT-076,bCOMPONENT-077,bCOMPONENT-078,bCOMPONENT-079,bCOMPONENT-080
bCOMPONENT-081,bCOMPONENT-082,bCOMPONENT-083,bCOMPONENT-084,bCOMPONENT-085,bCOMPONENT-086
bCOMPONENT-087,bCOMPONENT-088,bCOMPONENT-089,bCOMPONENT-090,bCOMPONENT-091,bCOMPONENT-092
bCOMPONENT-093,bCOMPONENT-094,bCOMPONENT-095,bCOMPONENT-096,bCOMPONENT-097,bCOMPONENT-098
bCOMPONENT-099,bCOMPONENT-100,bCOMPONENT-101,bCOMPONENT-102,bCOMPONENT-103,bCOMPONENT-104
bCOMPONENT-105,bCOMPONENT-106,bCOMPONENT-107,bCOMPONENT-108,bCOMPONENT-109,bCOMPONENT-110
bCOMPONENT-111,bCOMPONENT-112,bCOMPONENT-113,bCOMPONENT-114,bCOMPONENT-115,bCOMPONENT-116
bCOMPONENT-117,bCOMPONENT-118,bCOMPONENT-119,bCOMPONENT-120,bCOMPONENT-121,bCOMPONENT-122
bCOMPONENT-123,bCOMPONENT-124,bCOMPONENT-125,bCOMPONENT-126,bCOMPONENT-127,bCOMPONENT-128
bCOMPONENT-129,bCOMPONENT-130,bCOMPONENT-131,bCOMPONENT-132,bCOMPONENT-133,bCOMPONENT-134
bCOMPONENT-135,bCOMPONENT-136,bCOMPONENT-137,bCOMPONENT-138,bCOMPONENT-139,bCOMPONENT-140
bCOMPONENT-141,bCOMPONENT-142,bCOMPONENT-143,bCOMPONENT-144,bCOMPONENT-145,bCOMPONENT-146
bCOMPONENT-147,bCOMPONENT-148,bCOMPONENT-149,bCOMPONENT-150,bCOMPONENT-151,bCOMPONENT-152
bCOMPONENT-153,bCOMPONENT-154,bCOMPONENT-155,bCOMPONENT-156,bCOMPONENT-157,bCOMPONENT-158
bCOMPONENT-159,bCOMPONENT-160,bCOMPONENT-161,bCOMPONENT-162,bCOMPONENT-163,bCOMPONENT-164
bCOMPONENT-165,bCOMPONENT-166,bCOMPONENT-167,bCOMPONENT-168,bCOMPONENT-169,bCOMPONENT-170
bCOMPONENT-171,bCOMPONENT-172,bCOMPONENT-173,bCOMPONENT-174,bCOMPONENT-175,bCOMPONENT-176
bCOMPONENT-177,bCOMPONENT-178,bCOMPONENT-179,bCOMPONENT-180,bCOMPONENT-181,bCOMPONENT-182
bCOMPONENT-183,bCOMPONENT-184,bCOMPONENT-185,bCOMPONENT-186,bCOMPONENT-187,bCOMPONENT-188
bCOMPONENT-189,bCOMPONENT-190,bCOMPONENT-191,bCOMPONENT-192,bCOMPONENT-193,bCOMPONENT-194
bCOMPONENT-195,bCOMPONENT-196,bCOMPONENT-197,bCOMPONENT-198,bCOMPONENT-199,bCOMPONENT-200
bCOMPONENT-201,bCOMPONENT-202,bCOMPONENT-203,bCOMPONENT-204,bCOMPONENT-205,bCOMPONENT-206
bCOMPONENT-207,bCOMPONENT-208,bCOMPONENT-209,bCOMPONENT-210,bCOMPONENT-211,bCOMPONENT-212
bCOMPONENT-213,bCOMPONENT-214,bCOMPONENT-215,bCOMPONENT-216,bCOMPONENT-217,bCOMPONENT-218
bCOMPONENT-219,bCOMPONENT-220,bCOMPONENT-221,bCOMPONENT-222,bCOMPONENT-223,bCOMPONENT-224
bCOMPONENT-225,bCOMPONENT-226,bCOMPONENT-227,bCOMPONENT-228,bCOMPONENT-229,bCOMPONENT-230
bCOMPONENT-231,bCOMPONENT-232,bCOMPONENT-233,bCOMPONENT-234,bCOMPONENT-235,bCOMPONENT-236
bCOMPONENT-237,bCOMPONENT-238,bCOMPONENT-239,bCOMPONENT-240,bCOMPONENT-241,bCOMPONENT-242
bCOMPONENT-243,bCOMPONENT-244,bCOMPONENT-245,bCOMPONENT-246,bCOMPONENT-247,bCOMPONENT-248
bCOMPONENT-249,bCOMPONENT-250,bCOMPONENT-251,bCOMPONENT-252,bCOMPONENT-253,bCOMPONENT-254
bCOMPONENT-255,bCOMPONENT-256,bCOMPONENT-257,bCOMPONENT-258,bCOMPONENT-259,bCOMPONENT-260
bCOMPONENT-261,bCOMPONENT-262,bCOMPONENT-263,bCOMPONENT-264,bCOMPONENT-265,bCOMPONENT-266
bCOMPONENT-267,bCOMPONENT-268,bCOMPONENT-269,bCOMPONENT-270,bCOMPONENT-271,bCOMPONENT-272
bCOMPONENT-273,bCOMPONENT-274,bCOMPONENT-275,bCOMPONENT-276,bCOMPONENT-277,bCOMPONENT-278
bCOMPONENT-279,bCOMPONENT-280,bCOMPONENT-281,bCOMPONENT-282,bCOMPONENT-283,bCOMPONENT-284
bCOMPONENT-285,bCOMPONENT-286,bCOMPONENT-287,bCOMPONENT-288,bCOMPONENT-289,bCOMPONENT-290
bCOMPONENT-291,bCOMPONENT-292,bCOMPONENT-293,bCOMPONENT-294,bCOMPONENT-295,bCOMPONENT-296
bCOMPONENT-297,bCOMPONENT-298,bCOMPONENT-299,bCOMPONENT-300,bCOMPONENT-301,bCOMPONENT-302
bCOMPONENT-303,bCOMPONENT-304,bCOMPONENT-305,bCOMPONENT-306,bCOMPONENT-307,bCOMPONENT-308
bCOMPONENT-309,bCOMPONENT-310,bCOMPONENT-311,bCOMPONENT-312,bCOMPONENT-313,bCOMPONENT-314
bCOMPONENT-315,bCOMPONENT-316,bCOMPONENT-317,bCOMPONENT-318,bCOMPONENT-319,bCOMPONENT-320
bCOMPONENT-321,bCOMPONENT-322,bCOMPONENT-323,bCOMPONENT-324,bCOMPONENT-325,bCOMPONENT-326
bCOMPONENT-327,bCOMPONENT-328,bCOMPONENT-329,bCOMPONENT-330,bCOMPONENT-331,bCOMPONENT-332
bCOMPONENT-333,bCOMPONENT-334,bCOMPONENT-335,bCOMPONENT-336,bCOMPONENT-337,bCOMPONENT-338
bCOMPONENT-339,bCOMPONENT-340,bCOMPONENT-341,bCOMPONENT-342,bCOMPONENT-343,bCOMPONENT-344
bCOMPONENT-345,bCOMPONENT-346,bCOMPONENT-347,bCOMPONENT-348,bCOMPONENT-349,bCOMPONENT-350
bCOMPONENT-351,bCOMPONENT-352,bCOMPONENT-353,bCOMPONENT-354,bCOMPONENT-355,bCOMPONENT-356
bCOMPONENT-357,bCOMPONENT-358,bCOMPONENT-359,bCOMPONENT-360,bCOMPONENT-361,bCOMPONENT-362
bCOMPONENT-363,bCOMPONENT-364,bCOMPONENT-365,bCOMPONENT-366,bCOMPONENT-367,bCOMPONENT-368
bCOMPONENT-369,bCOMPONENT-370,bCOMPONENT-371,bCOMPONENT-372,bCOMPONENT-373,bCOMPONENT-374
bCOMPONENT-375,bCOMPONENT-376,bCOMPONENT-377,bCOMPONENT-378,bCOMPONENT-379,bCOMPONENT-380
bCOMPONENT-381,bCOMPONENT-382,bCOMPONENT-383,bCOMPONENT-384,bCOMPONENT-385,bCOMPONENT-386
bCOMPONENT-387,bCOMPONENT-388,bCOMPONENT-389,bCOMPONENT-390,bCOMPONENT-391,bCOMPONENT-392
bCOMPONENT-393,bCOMPONENT-394,bCOMPONENT-395,bCOMPONENT-396,bCOMPONENT-397,bCOMPONENT-398
bCOMPONENT-399,bCOMPONENT-400,bCOMPONENT-401,bCOMPONENT-402,bCOMPONENT-403,bCOMPONENT-404
bCOMPONENT-405,bCOMPONENT-406,bCOMPONENT-407,bCOMPONENT-408,bCOMPONENT-409,bCOMPONENT-410
bCOMPONENT-411,bCOMPONENT-412,bCOMPONENT-413,bCOMPONENT-414,bCOMPONENT-415,bCOMPONENT-416
bCOMPONENT-417,bCOMPONENT-418,bCOMPONENT-419,bCOMPONENT-420,bCOMPONENT-421,bCOMPONENT-422
bCOMPONENT-423,bCOMPONENT-424,bCOMPONENT-425,bCOMPONENT-426,bCOMPONENT-427,bCOMPONENT-428
bCOMPONENT-429,bCOMPONENT-430,bCOMPONENT-431,bCOMPONENT-432,bCOMPONENT-433,bCOMPONENT-434
bCOMPONENT-435,bCOMPONENT-436,bCOMPONENT-437,bCOMPONENT-438,bCOMPONENT-439,bCOMPONENT-440
bCOMPONENT-441,bCOMPONENT-442,bCOMPONENT-443,bCOMPONENT-444,bCOMPONENT-445,bCOMPONENT-446
bCOMPONENT-447,bCOMPONENT-448,bCOMPONENT-449,bCOMPONENT-450,bCOMPONENT-451,bCOMPONENT-452
bCOMPONENT-453,bCOMPONENT-454,bCOMPONENT-455,bCOMPONENT-456,bCOMPONENT-457,bCOMPONENT-458
bCOMPONENT-459,bCOMPONENT-460,bCOMPONENT-461,bCOMPONENT-462,bCOMPONENT-463,bCOMPONENT-464
bCOMPONENT-465,bCOMPONENT-466,bCOMPONENT-467,bCOMPONENT-468,bCOMPONENT-469,bCOMPONENT-470
bCOMPONENT-471,bCOMPONENT-472,bCOMPONENT-473,bCOMPONENT-474,bCOMPONENT-475,bCOMPONENT-476
bCOMPONENT-477,bCOMPONENT-478,bCOMPONENT-479,bCOMPONENT-480,bCOMPONENT-481,bCOMPONENT-482
bCOMPONENT-483,bCOMPONENT-484,bCOMPONENT-485,bCOMPONENT-486,bCOMPONENT-487,bCOMPONENT-488
bCOMPONENT-489,bCOMPONENT-490,bCOMPONENT-491,bCOMPONENT-492,bCOMPONENT-493,bCOMPONENT-494
bCOMPONENT-495,bCOMPONENT-496,bCOMPONENT-497,bCOMPONENT-498,bCOMPONENT-499,bCOMPONENT-500
bCOMPONENT-501,bCOMPONENT-502,bCOMPONENT-503,bCOMPONENT-504,bCOMPONENT-505,bCOMPONENT-506
bCOMPONENT-507,bCOMPONENT-508,bCOMPONENT-509,bCOMPONENT-510,bCOMPONENT-511,bCOMPONENT-512
bCOMPONENT-513,bCOMPONENT-514,bCOMPONENT-515,bCOMPONENT-516,bCOMPONENT-517,bCOMPONENT-518
bCOMPONENT-519,bCOMPONENT-520,bCOMPONENT-521,bCOMPONENT-522,bCOMPONENT-523,bCOMPONENT-524
bCOMPONENT-525,bCOMPONENT-526,bCOMPONENT-527,bCOMPONENT-528,bCOMPONENT-529,bCOMPONENT-530
bCOMPONENT-531,bCOMPONENT-532,bCOMPONENT-533,bCOMPONENT-534,bCOMPONENT-535,bCOMPONENT-536
bCOMPONENT-537,bCOMPONENT-538,bCOMPONENT-539,bCOMPONENT-540,bCOMPONENT-541,bCOMPONENT-542
bCOMPONENT-543,bCOMPONENT-544,bCOMPONENT-545,bCOMPONENT-546,bCOMPONENT-547,bCOMPONENT-548
bCOMPONENT-549,bCOMPONENT-550,bCOMPONENT-551,bCOMPONENT-552,bCOMPONENT-553,bCOMPONENT-554
bCOMPONENT-555,bCOMPONENT-556,bCOMPONENT-557,bCOMPONENT-558,bCOMPONENT-559,bCOMPONENT-560
bCOMPONENT-561,bCOMPONENT-562,bCOMPONENT-563,bCOMPONENT-564,bCOMPONENT-565,bCOMPONENT-566
bCOMPONENT-567,bCOMPONENT-568,bCOMPONENT-569,bCOMPONENT-570,bCOMPONENT-571,bCOMPONENT-572
bCOMPONENT-573,bCOMPONENT-574,bCOMPONENT-575,bCOMPONENT-576,bCOMPONENT-577,bCOMPONENT-578
bCOMPONENT-579,bCOMPONENT-580,bCOMPONENT-581,bCOMPONENT-582,bCOMPONENT-583,bCOMPONENT-584
bCOMPONENT-585,bCOMPONENT-586,bCOMPONENT-587,bCOMPONENT-588,bCOMPONENT-589,bCOMPONENT-590
bCOMPONENT-591,bCOMPONENT-592,bCOMPONENT-593,bCOMPONENT-594,bCOMPONENT-595,bCOMPONENT-596
bCOMPONENT-597,bCOMPONENT-598,bCOMPONENT-599,bCOMPONENT-600,bCOMPONENT-601,bCOMPONENT-602
bCOMPONENT-603,bCOMPONENT-604,bCOMPONENT-605,bCOMPONENT-606,bCOMPONENT-607,bCOMPONENT-608
bCOMPONENT-609,bCOMPONENT-610,bCOMPONENT-611,bCOMPONENT-612,bCOMPONENT-613,bCOMPONENT-614
bCOMPONENT-615,bCOMPONENT-616,bCOMPONENT-617,bCOMPONENT-618,bCOMPONENT-619,bCOMPONENT-620
bCOMPONENT-621,bCOMPONENT-622,bCOMPONENT-623,bCOMPONENT-624,bCOMPONENT-625,bCOMPONENT-626
bCOMPONENT-627,bCOMPONENT-628,bCOMPONENT-629,bCOMPONENT-630,bCOMPONENT-631,bCOMPONENT-632
bCOMPONENT-633,bCOMPONENT-634,bCOMPONENT-635,bCOMPONENT-636,bCOMPONENT-637,bCOMPONENT-638
bCOMPONENT-639,bCOMPONENT-640,bCOMPONENT-641,bCOMPONENT-642,bCOMPONENT-643,bCOMPONENT-644
bCOMPONENT-645,bCOMPONENT-646,bCOMPONENT-647,bCOMPONENT-648,bCOMPONENT-649,bCOMPONENT-650
bCOMPONENT-651,bCOMPONENT-652,bCOMPONENT-653,bCOMPONENT-654,bCOMPONENT-655,bCOMPONENT-656
bCOMPONENT-657,bCOMPONENT-658,bCOMPONENT-659,bCOMPONENT-660,bCOMPONENT-661,bCOMPONENT-662
bCOMPONENT-663,bCOMPONENT-664,bCOMPONENT-665,bCOMPONENT-666,bCOMPONENT-667,bCOMPONENT-668
bCOMPONENT-669,bCOMPONENT-670,bCOMPONENT-671,bCOMPONENT-672,bCOMPONENT-673,bCOMPONENT-674
bCOMPONENT-675,bCOMPONENT-676,bCOMPONENT-677,bCOMPONENT-678,bCOMPONENT-679,bCOMPONENT-680
bCOMPONENT-681,bCOMPONENT-682,bCOMPONENT-683,bCOMPONENT-684,bCOMPONENT-685,bCOMPONENT-686
bCOMPONENT-687,bCOMPONENT-688,bCOMPONENT-689,bCOMPONENT-690,bCOMPONENT-691,bCOMPONENT-692
bCOMPONENT-693,bCOMPONENT-694,bCOMPONENT-695,bCOMPONENT-696,bCOMPONENT-697,bCOMPONENT-698
bCOMPONENT-699,bCOMPONENT-700,bCOMPONENT-701,bCOMPONENT-702,bCOMPONENT-703,bCOMPONENT-704
bCOMPONENT-705,bCOMPONENT-706,bCOMPONENT-707,bCOMPONENT-708,bCOMPONENT-709,bCOMPONENT-710
bCOMPONENT-711,bCOMPONENT-712,bCOMPONENT-713,bCOMPONENT-714,bCOMPONENT-715,bCOMPONENT-716
bCOMPONENT-717,bCOMPONENT-718,bCOMPONENT-719,bCOMPONENT-720,bCOMPONENT-721,bCOMPONENT-722
bCOMPONENT-723,bCOMPONENT-724,bCOMPONENT-725,bCOMPONENT-726,bCOMPONENT-727,bCOMPONENT-728
bCOMPONENT-729,bCOMPONENT-730,bCOMPONENT-731,bCOMPONENT-732,bCOMPONENT-733,bCOMPONENT-734
bCOMPONENT-735,bCOMPONENT-736,bCOMPONENT-737,bCOMPONENT-738,bCOMPONENT-739,bCOMPONENT-740
bCOMPONENT-741,bCOMPONENT-742,bCOMPONENT-743,bCOMPONENT-744,bCOMPONENT-745,bCOMPONENT-746
bCOMPONENT-747,bCOMPONENT-748,bCOMPONENT-749,bCOMPONENT-750,bCOMPONENT-751,bCOMPONENT-752
bCOMPONENT-753,bCOMPONENT-754,bCOMPONENT-755,bCOMPONENT-756,bCOMPONENT-757,bCOMPONENT-758
bCOMPONENT-759,bCOMPONENT-760,bCOMPONENT-761,bCOMPONENT-762,bCOMPONENT-763,bCOMPONENT-764
bCOMPONENT-765,bCOMPONENT-766,bCOMPONENT-767,bCOMPONENT-768,9456,aKATAKANA LETTER MINNAN TONE-2
dTONE-3,dTONE-4,dTONE-5,1,dTONE-7,dTONE-8,dNASALIZED TONE-1,eTONE-2,eTONE-3,eTONE-4,eTONE-5,1
eTONE-7,eTONE-8,1,cARCHAIC E,aHIRAGANA LETTER ARCHAIC YE|aHENTAIGANA LETTER E-1,cA-1,cA-2,cA-3,cA-WO
cI-1,cI-2,cI-3,cI-4,cU-1,cU-2,cU-3,cU-4,cU-5,cE-2,cE-3,cE-4,cE-5,cE-6,cO-1,cO-2,cO-3,cKA-1,cKA-2
cKA-3,cKA-4,cKA-5,cKA-6,cKA-7,cKA-8,cKA-9,cKA-10,cKA-11,cKA-KE,cKI-1,cKI-2,cKI-3,cKI-4,cKI-5,cKI-6
cKI-7,cKI-8,cKU-1,cKU-2,cKU-3,cKU-4,cKU-5,cKU-6,cKU-7,cKE-1,cKE-2,cKE-3,cKE-4,cKE-5,cKE-6,cKO-1
cKO-2,cKO-3,cKO-KI,cSA-1,cSA-2,cSA-3,cSA-4,cSA-5,cSA-6,cSA-7,cSA-8,cSI-1,cSI-2,cSI-3,cSI-4,cSI-5
cSI-6,cSU-1,cSU-2,cSU-3,cSU-4,cSU-5,cSU-6,cSU-7,cSU-8,cSE-1,cSE-2,cSE-3,cSE-4,cSE-5,cSO-1,cSO-2
cSO-3,cSO-4,cSO-5,cSO-6,cSO-7,cTA-1,cTA-2,cTA-3,cTA-4,cTI-1,cTI-2,cTI-3,cTI-4,cTI-5,cTI-6,cTI-7
cTU-1,cTU-2,cTU-3,cTU-4,cTU-TO,cTE-1,cTE-2,cTE-3,cTE-4,cTE-5,cTE-6,cTE-7,cTE-8,cTE-9,cTO-1,cTO-2
cTO-3,cTO-4,cTO-5,cTO-6,cTO-RA,cNA-1,cNA-2,cNA-3,cNA-4,cNA-5,cNA-6,cNA-7,cNA-8,cNA-9,cNI-1,cNI-2
cNI-3,cNI-4,cNI-5,cNI-6,cNI-7,cNI-TE,cNU-1,cNU-2,cNU-3,cNE-1,cNE-2,cNE-3,cNE-4,cNE-5,cNE-6,cNE-KO
cNO-1,cNO-2,cNO-3,cNO-4,cNO-5,cHA-1,cHA-2,cHA-3,cHA-4,cHA-5,cHA-6,cHA-7,cHA-8,cHA-9,cHA-10,cHA-11
cHI-1,cHI-2,cHI-3,cHI-4,cHI-5,cHI-6,cHI-7,cHU-1,cHU-2,cHU-3,cHE-1,cHE-2,cHE-3,cHE-4,cHE-5,cHE-6
cHE-7,cHO-1,cHO-2,cHO-3,cHO-4,cHO-5,cHO-6,cHO-7,cHO-8,cMA-1,cMA-2,cMA-3,cMA-4,cMA-5,cMA-6,cMA-7
cMI-1,cMI-2,cMI-3,cMI-4,cMI-5,cMI-6,cMI-7,cMU-1,cMU-2,cMU-3,cMU-4,cME-1,cME-2,cME-MA,cMO-1,cMO-2
cMO-3,cMO-4,cMO-5,cMO-6,cYA-1,cYA-2,cYA-3,cYA-4,cYA-5,cYA-YO,cYU-1,cYU-2,cYU-3,cYU-4,cYO-1,cYO-2
cYO-3,cYO-4,cYO-5,cYO-6,cRA-1,cRA-2,cRA-3,cRA-4,cRI-1,cRI-2,cRI-3,cRI-4,cRI-5,cRI-6,cRI-7,cRU-1
cRU-2,cRU-3,cRU-4,cRU-5,cRU-6,cRE-1,cRE-2,cRE-3,cRE-4,cRO-1,cRO-2,cRO-3,cRO-4,cRO-5,cRO-6,cWA-1
cWA-2,cWA-3,cWA-4,cWA-5,cWI-1,cWI-2,cWI-3,cWI-4,cWI-5,cWE-1,cWE-2,cWE-3,cWE-4,cWO-1,cWO-2,cWO-3
cWO-4,cWO-5,cWO-6,cWO-7,cN-MU-MO-1,cN-MU-MO-2,aHIRAGANA LETTER ARCHAIC WU
aKATAKANA LETTER ARCHAIC YI,dYE,dWU,45,aHIRAGANA LETTER SMALL WI,dWE,dWO,17
aKATAKANA LETTER SMALL WI,dWE,dWO,dN,2712,aDUPLOYAN LETTER H,cX,cP,cT,cF,cK,cL,cB,cD,cV,cG,cR,cP N
cD S,cF N,cK M,cR S,cTH,cSLOAN DH,cb,cKK,cSLOAN J,cHL,cLH,cRH,cM,cN,cJ,cS,cM N,cN M,cJb,cS J
cM WITH DOT,cNc,cJc,eDOTS INSIDE AND ABOVE,cS WITH DOT,fBELOW,cM S,cNb,cJb,cSb,cM Nb,cN Mb,cJc,cS Jb
cJ S WITH DOT,dN,eS,cS T,eR,dP,eR,cT S,dRb,cW,cWH,cW R,cS N,dM,cK R S,cGc,cS K,eR,cA,cSLOAN OW,cOA
cO,cAOU,cI,cE,cIE,cSHORT I,cUI,cEE,cSLOAN EH,cROMANIAN I,cSLOAN EE,cLONG I,cYE,cU,cEU,cXW,cU N
cLONG U,cROMANIANb,cUH,cSLOAN U,cOOH,cOW,cOU,cWA,cWO,cWI,cWEI,cWOW,cNASAL U,dO,dI,dA,cPERNIN AN,dAM
cSLOAN EN,dAN,dON,cVOCALIC M,5,bAFFIX LEFT HORIZONTAL SECANT,cMIDc,cRIGHTc,cLOW VERTICALb,cMIDc
cHIGHc,cATTACHEDb,dLEFT-TO-RIGHTb,dTANGENT,dTAIL,dE HOOK,dIb,dTANGENTb,3,cHIGH ACUTE,dTIGHTb,dGRAVE
dLONGb,dDOT,dCIRCLE,dLINE,dWAVE,dVERTICAL,7,cLOW ACUTE,dTIGHTb,dGRAVE,dLONGb,dDOT,dCIRCLE,dLINE
dWAVE,dVERTICAL,dARROW,2,bSIGN O WITH CROSS,bTHICK LETTER SELECTOR,bDOUBLE MARK
bPUNCTUATION CHINOOK FULL STOP,aSHORTHAND FORMAT LETTER OVERLAP,cCONTINUINGb,cDOWN STEP,cUPb,4700
aZNAMENNY COMBINING MARK GORAZDO NIZKO S KRYZHEM ON LEFT,df,dTSATAc,dGORAZDO NIZKOc,dd,dSREDNEc
dMALO POVYSHEc,dd,dVYSOKOc,dMALO POVYSHE S KHOKHLOMc,df,dVYSOKOe,dGORAZDO NIZKO S KRYZHEM ON RIGHT
df,dTSATAc,dGORAZDO NIZKOc,dd,dSREDNEc,dMALO POVYSHEc,dd,dVYSOKOc,dMALO POVYSHE S KHOKHLOMc,df
dVYSOKOe,dTSATA S KRYZHEM,dMALO POVYSHEc,dSTRANNO MALO POVYSHE,dPOVYSHE S KRYZHEM,eSTRANNO
dVYSOKO S KRYZHEM,dMALO POVYSHE STRANNO,dGORAZDO VYSOKO,dZELO,dON,dRAVNO,dTIKHAYA,dBORZAYA,dUDARKA
dPODVERTKA,dLOMKA,dKUPNAYA,dKACHKA,dZEVOK,dSKOBA,dRAZSEKA,dKRYZH ON LEFT,2,cTONAL RANGE MARK MRACHNO
fSVETLO,fTRESVETLO,cMARK ZADERZHKA,dDEMESTVENNYb,dOTSECHKA,dPODCHASHIE,eWITH VERTICAL STROKE
dCHASHKA,ePOLNAYA,dOBLACHKO,dSOROCHYA NOZHKA,dTOCHKA,dDVOETOCHIE,cATTACHING VERTICAL OMET
cMARK CURVEDb,dKRYZH,cLOWER TONAL RANGE INDICATOR,bPRIZNAK MODIFIER LEVEL-2,dLEVEL-3,dDIRECTION FLIP
dKRYZH,dROG,9,bNEUME KRYUK,dTIKHY,cPARAKLIT,cDVA V CHELNU,cKLYUCH,cZANOZHEK,cSTOPITSA,dS OCHKOM
cPEREVODKA,dNEPOSTOYANNAYA,cSTOPITSA WITH SOROCHYA NOZHKA,cCHELYUSTKA,cPALKA,cZAPYATAYA
cGOLUBCHIK BORZY,dTIKHY,dMRACHNY,dSVETLY,dTRESVETLY,cVRAKHIYA PROSTAYA,dMRACHNAYA,dSVETLAYA
dTRESVETLAYA,dKLYUCHEVAYA PROSTAYA,eMRACHNAYA,eSVETLAYA,eTRESVETLAYA,cDOUBLE ZAPYATAYA
cREVERSED CHELYUSTKA,cDERBITSA,cKHAMILO,cCHASHKA,cPODCHASHIE,cSKAMEYTSA MRACHNAYA,dSVETLAYA
dTRESVETLAYA,dTIKHAYA,cDEMESTVENNY KLYUCH,cSKAMEYTSA KLYUCHEVAYA SVETLAYA,dKLYUCHENEPOSTOYANNAYA
dKLYUCHEVAYA TIKHAYA,dDVOECHELNAYA PROSTAYA,eSVETLAYA,eNEPOSTOYANNAYA,eKLYUCHEVAYA,cSLOZHITIE
dS ZAPYATOY,dZAKRYTOE,dS KRYZHEM,cKRYZH,cROG,cFITA,cKOBYLA,cZMEYTSA,cSTATYA,dS ZAPYATOY,eKRYZHEM
eZAPYATOY Ib,eKRYZHEM I ZAPYATOY,dZAKRYTAYA,eS ZAPYATOY,dS ROGOM,eDVUMYA ZAPYATYMI
eZAPYATOY I PODCHASHIEM,cPOLKULIZMY,cSTATYA NEPOSTOYANNAYA,cSTRELA PROSTAYA,dMRACHNOTIKHAYA
dKRYZHEVAYA,dPOLUPOVODNAYA,dPOVODNAYA,dNEPOSTOYANNAYA,dKLYUCHEPOVODNAYA,dKLYUCHENEPOSTOYANNAYA
dTIKHAYA PUTNAYA,dDVOECHELNAYA,dDVOECHELNOKRYZHEVAYA,dDVOECHELNOPOVODNAYA,dDVOECHELNAYA KLYUCHEVAYA
dDVOECHELNOPOVODNAYAb,dGROMNAYA WITH SINGLE ZAPYATAYA,dGROMOPOVODNAYAd,dGROMNAYA,dGROMOPOVODNAYA
eWITH DOUBLE ZAPYATAYA,dGROMOKRYZHEVAYA,ePOVODNAYA,cMECHIK,dPOVODNY,dKLYUCHEVOY,dKLYUCHEPOVODNY
dKLYUCHENEPOSTOYANNY,cSTRELA TRYASOGLASNAYA,dTRYASOPOVODNAYA,dTRYASOSTRELNAYA,cOSOKA,dSVETLAYA
dTRESVETLAYA,dKRYUKOVAYA SVETLAYA,dKLYUCHEVAYAb,eNEPOSTOYANNAYA,cSTRELA KRYUKOVAYA,ePOVODNAYA
eGROMNAYA WITH SINGLE ZAPYATAYA,eGROMOPOVODNAYAd,eGROMNAYA,eGROMOPOVODNAYA,fWITH DOUBLE ZAPYATAYA
eGROMOKRYZHEVAYA,fPOVODNAYA,eTRYASKA,cKUFISMA,cOBLAKO,cDUDA,cNEMKA,cPAUK,60
aBYZANTINE MUSICAL SYMBOL PSILI,dDASEIA,dPERISPOMENI,dOXEIA EKFONITIKON,eDIPLI,dVAREIA EKFONITIKON
eDIPLI,dKATHISTI,dSYRMATIKI,dPARAKLITIKI,dYPOKRISIS,eDIPLI,dKREMASTI,dAPESO EKFONITIKON,dEXOb
dTELEIA,dKENTIMATA,dAPOSTROFOS,eDIPLI,dSYNEVMA,dTHITA,dOLIGON ARCHAION,dGORGONb,dPSILON,dCHAMILON
dVATHY,dISON ARCHAION,dKENTIMAb,dKENTIMATAb,dSAXIMATA,dPARICHON,dSTAVROS APODEXIA,dOXEIAI ARCHAION
dVAREIAIb,dAPODERMAb,dAPOTHEMA,dKLASMA,dREVMA,dPIASMA ARCHAION,dTINAGMA,dANATRICHISMA,dSEISMA
dSYNAGMA ARCHAION,eMETA STAVROU,dOYRANISMA ARCHAION,dTHEMA,dLEMOI,dDYO,dTRIA,dTESSERA,dKRATIMATA
dAPESO EXO NEO,dFTHORA ARCHAION,dIMIFTHORA,dTROMIKON ARCHAION,dKATAVA TROMIKON,dPELASTON,dPSIFISTON
dKONTEVMA,dCHOREVMA ARCHAION,dRAPISMA,dPARAKALESMA ARCHAION,dPARAKLITIKIb,dICHADIN,dNANA,dPETASMA
dKONTEVMA ALLO,dTROMIKONb,dSTRAGGISMATA,dGRONTHISMATA,dISON NEO,dOLIGONb,dOXEIAb,dPETASTI,dKOUFISMA
dPETASTOKOUFISMA,dKRATIMOKOUFISMA,dPELASTON NEO,dKENTIMATA NEO ANO,dKENTIMAc,dYPSILI,dAPOSTROFOS NEO
dAPOSTROFOI SYNDESMOSb,dYPORROI,dKRATIMOYPORROON,dELAFRON,dCHAMILI,dMIKRON ISON,dVAREIA NEO,dPIASMAb
dPSIFISTONb,dOMALON,dANTIKENOMA,dLYGISMA,dPARAKLITIKI NEO,dPARAKALESMAb,dETERON PARAKALESMA,dKYLISMA
dANTIKENOKYLISMA,dTROMIKON NEO,dEKSTREPTON,dSYNAGMA NEO,dSYRMA,dCHOREVMA NEO,dEPEGERMA,dSEISMA NEO
dXIRON KLASMA,dTROMIKOPSIFISTON,dPSIFISTOLYGISMA,dTROMIKOLYGISMA,dTROMIKOPARAKALESMA
dPSIFISTOPARAKALESMA,dTROMIKOSYNAGMA,dPSIFISTOSYNAGMA,dGORGOSYNTHETON,dARGOSYNTHETON,dETERONb
dOYRANISMA NEO,dTHEMATISMOS ESO,eEXO,dTHEMA APLOUN,dTHES KAI APOTHES,dKATAVASMA,dENDOFONON
dYFEN KATO,eANO,dSTAVROS,dKLASMA ANO,dDIPLI ARCHAION,dKRATIMAb,eALLO,eNEO,dAPODERMAb,dAPLI,dDIPLI
dTRIPLI,dTETRAPLI,dKORONIS,dLEIMMA ENOS CHRONOU,eDYO CHRONON,eTRIONb,eTESSARONb,eIMISEOS CHRONOU
dGORGON NEO ANO,ePARESTIGMENON ARISTERA,fDEXIA,dDIGORGON,ePARESTIGMENON ARISTERA KATO,gANO,fDEXIA
dTRIGORGON,dARGON,dIMIDIARGON,dDIARGON,dAGOGI POLI ARGI,eARGOTERI,eARGI,eMETRIA,eMESI,eGORGI
eGORGOTERI,ePOLI GORGI,dMARTYRIA PROTOS ICHOS,eALLIc,eDEYTEROSb,eALLIc,eTRITOSb,eTRIFONIAS
eTETARTOS ICHOS,fLEGETOSb,ec,ePLAGIOSb,dISAKIA TELOUS ICHIMATOS,dAPOSTROFOIc,dFANEROSIS TETRAFONIAS
eMONOFONIAS,eDIFONIAS,dMARTYRIA VARYS ICHOS,ePROTOVARYSb,ePLAGIOS TETARTOSb,dGORTHMIKON N APLOUN
fDIPLOUN,dENARXIS KAI FTHORA VOU,dIMIFONON,dIMIFTHORON,dFTHORA ARCHAION DEYTEROU ICHOU,eDIATONIKI PA
fNANA,eNAOS ICHOS,eDIATONIKI DI,eSKLIRON DIATONONb,eDIATONIKI KE,fZO,fNI KATO,gANO
eMALAKON CHROMA DIFONIAS,gMONOFONIAS,dFHTORA SKLIRON CHROMA VASIS|dFTHORAd,gSYNAFI,eNENANO
dCHROA ZYGOS,eKLITON,eSPATHI,dFTHORA I YFESIS TETARTIMORION,eENARMONIOS ANTIFONIA
dYFESIS TRITIMORION,dDIESISb,eTETARTIMORION,eAPLI DYO DODEKATA,eMONOGRAMMOS TESSERAb,eDIGRAMMOS EXb
eTRIGRAMMOS OKTOb,dYFESIS APLI DYOb,eMONOGRAMMOS TESSERAb,eDIGRAMMOS EXb,eTRIGRAMMOS OKTOb
dGENIKI DIESIS,eYFESIS,dDIASTOLI APLI MIKRI,fMEGALI,eDIPLI,eTHESEOS,dSIMANSISb,fDISIMOU,fTRISIMOU
fTETRASIMOU,eARSEOS,fDISIMOU,fTRISIMOU,fTETRASIMOU,dDIGRAMMA GG,dDIFTOGGOS OU,dSTIGMA,dARKTIKO PA
eVOU,eGA,eDI,eKE,eZO,eNI,dKENTIMATA NEO MESO,dKENTIMAc,dKENTIMATA NEO KATO,dKENTIMAc,dKLASMAb
dGORGON NEOb,10,aMUSICAL SYMBOL SINGLE BARLINE,cDOUBLEb,cFINALb,cREVERSEc,cDASHEDb,cSHORTb
cLEFT REPEAT SIGN,cRIGHTc,cREPEAT DOTS,cDAL SEGNO,cDA CAPO,cSEGNO,cCODA,cREPEATED FIGURE-1,dFIGURE-2
dFIGURE-3,cFERMATA,dBELOW,cBREATH MARK,cCAESURA,cBRACE,cBRACKET,cONE-LINE STAFF,cTWO-LINEb
cTHREE-LINEb,cFOUR-LINEb,cFIVE-LINEb,cSIX-LINEb,cSIX-STRING FRETBOARD,cFOUR-STRINGb,cG CLEF
eOTTAVA ALTA,fBASSA,cC CLEF,cFb,eOTTAVA ALTA,fBASSA,cDRUM CLEF-1,dCLEF-2,2,cMULTIPLE MEASURE REST
cDOUBLE SHARP,dFLAT,cFLAT UP,dDOWN,cNATURAL UP,dDOWN,cSHARP UP,dDOWN,cQUARTER TONE SHARP,eFLAT
cCOMMON TIME,cCUTb,cOTTAVA ALTA,dBASSA,cQUINDICESIMA ALTA,dBASSA,cMULTI REST,cWHOLEb,cHALFb
cQUARTERb,cEIGHTHb,cSIXTEENTHb,cTHIRTY-SECONDb,cSIXTY-FOURTHb,cONE HUNDRED TWENTY-EIGHTHb
cX NOTEHEAD,cPLUSb,cCIRCLE Xb,cSQUARE NOTEHEAD WHITE,eBLACK,cTRIANGLE NOTEHEAD UP WHITE,fBLACK
eLEFT WHITE,fBLACK,eRIGHT WHITE,fBLACK,eDOWN WHITE,fBLACK,eUP RIGHT WHITE,gBLACK
cMOON NOTEHEAD WHITE,eBLACK,cTRIANGLE-ROUND NOTEHEAD DOWN WHITE,fBLACK,cPARENTHESIS NOTEHEAD,cVOIDb
cNOTEHEAD BLACK,cNULL NOTEHEAD,cCLUSTER NOTEHEAD WHITE,eBLACK,cBREVE,cWHOLE NOTE,cHALFb,cQUARTERb
cEIGHTHb,cSIXTEENTHb,cTHIRTY-SECONDb,cSIXTY-FOURTHb,cONE HUNDRED TWENTY-EIGHTHb,cCOMBINING STEM
dSPRECHGESANGb,dTREMOLO-1,dTREMOLO-2,dTREMOLO-3,cFINGERED TREMOLO-1,dTREMOLO-2,dTREMOLO-3
cCOMBINING AUGMENTATION DOT,dFLAG-1,dFLAG-2,dFLAG-3,dFLAG-4,dFLAG-5,cBEGIN BEAM,cENDb,cBEGIN TIE
cENDb,cBEGIN SLUR,cENDb,cBEGIN PHRASE,cENDb,cCOMBINING ACCENT,dSTACCATO,dTENUTO,dSTACCATISSIMO
dMARCATO,dMARCATO-STACCATO,dACCENT-STACCATO,dLOURE,cARPEGGIATO UP,dDOWN,cCOMBINING DOIT,dRIP,dFLIP
dSMEAR,dBEND,dDOUBLE TONGUE,dTRIPLEb,cRINFORZANDO,cSUBITO,cZ,cPIANO,cMEZZO,cFORTE,cCRESCENDO
cDECRESCENDO,cGRACE NOTE SLASH,eNOb,cTR,cTURN,cINVERTEDb,cTURN SLASH,dUP,cORNAMENT STROKE-1
dSTROKE-2,dSTROKE-3,dSTROKE-4,dSTROKE-5,dSTROKE-6,dSTROKE-7,dSTROKE-8,dSTROKE-9,dSTROKE-10
dSTROKE-11,cHAUPTSTIMME,cNEBENSTIMME,cEND OF STIMME,cDEGREE SLASH,cCOMBINING DOWN BOW,dUPb,dHARMONIC
dSNAP PIZZICATO,cPEDAL MARK,dUPb,cHALF PEDALb,cGLISSANDO UP,dDOWN,cWITH FINGERNAILS,cDAMP,dALL
cMAXIMA,cLONGA,cBREVIS,cSEMIBREVIS WHITE,dBLACK,cMINIMA,dBLACK,cSEMIMINIMA WHITE,dBLACK,cFUSA WHITE
dBLACK,cLONGA PERFECTA REST,dIMPERFECTAb,cBREVISb,cSEMIBREVISb,cMINIMAb,cSEMIMINIMAb
cTEMPUS PERFECTUM CUM PROLATIONE PERFECTA,gIMPERFECTA,gPERFECTA DIMINUTION-1
dIMPERFECTUM CUM PROLATIONE PERFECTA,gIMPERFECTA,hDIMINUTION-1,hDIMINUTION-2,hDIMINUTION-3,cCROIX
cGREGORIAN C CLEF,dFb,cSQUARE B,cVIRGA,cPODATUS,cCLIVIS,cSCANDICUS,cCLIMACUS,cTORCULUS,cPORRECTUS
dFLEXUS,cSCANDICUSb,cTORCULUS RESUPINUS,cPES SUBPUNCTIS,cKIEVAN C CLEF,dEND OF PIECE,dFINAL NOTE
dRECITATIVE MARK,dWHOLE NOTE,dHALFb,dQUARTER NOTE STEM DOWN,gUP,dEIGHTH NOTE STEM DOWN,gUP
dFLAT SIGN,cSORI,cKORON,21,aGREEK VOCAL NOTATION SYMBOL-1,dSYMBOL-2,dSYMBOL-3,dSYMBOL-4,dSYMBOL-5
dSYMBOL-6,dSYMBOL-7,dSYMBOL-8,dSYMBOL-9,dSYMBOL-10,dSYMBOL-11,dSYMBOL-12,dSYMBOL-13,dSYMBOL-14
dSYMBOL-15,dSYMBOL-16,dSYMBOL-17,dSYMBOL-18,dSYMBOL-19,dSYMBOL-20,dSYMBOL-21,dSYMBOL-22,dSYMBOL-23
dSYMBOL-24,dSYMBOL-50,dSYMBOL-51,dSYMBOL-52,dSYMBOL-53,dSYMBOL-54,bINSTRUMENTAL NOTATION SYMBOL-1
dSYMBOL-2,dSYMBOL-4,dSYMBOL-5,dSYMBOL-7,dSYMBOL-8,dSYMBOL-11,dSYMBOL-12,dSYMBOL-13,dSYMBOL-14
dSYMBOL-17,dSYMBOL-18,dSYMBOL-19,dSYMBOL-23,dSYMBOL-24,dSYMBOL-25,dSYMBOL-26,dSYMBOL-27,dSYMBOL-29
dSYMBOL-30,dSYMBOL-32,dSYMBOL-36,dSYMBOL-37,dSYMBOL-38,dSYMBOL-39,dSYMBOL-40,dSYMBOL-42,dSYMBOL-43
dSYMBOL-45,dSYMBOL-47,dSYMBOL-48,dSYMBOL-49,dSYMBOL-50,dSYMBOL-51,dSYMBOL-52,dSYMBOL-53,dSYMBOL-54
aCOMBINING GREEK MUSICAL TRISEME,dTETRASEME,dPENTASEME,aGREEK MUSICAL LEIMMA,154,aMAYAN NUMERAL ZERO
cONE,cTWO,cTHREE,cFOUR,cFIVE,cSIX,cSEVEN,cEIGHT,cNINE,cTEN,cELEVEN,cTWELVE,cTHIRTEEN,cFOURTEEN
cFIFTEEN,cSIXTEEN,cSEVENTEEN,cEIGHTEEN,cNINETEEN,12,aMONOGRAM FOR EARTH,aDIGRAM FOR HEAVENLYb
cHUMANb,cEARTHLY HEAVEN,dHUMAN,cEARTH,aTETRAGRAM FOR CENTRE,cFULL CIRCLE,cMIRED,cBARRIER
cKEEPING SMALL,cCONTRARIETY,cASCENT,cOPPOSITION,cBRANCHING OUT,cDEFECTIVENESS OR DISTORTION
cDIVERGENCE,cYOUTHFULNESS,cINCREASE,cPENETRATION,cREACH,cCONTACT,cHOLDING BACK,cWAITING,cFOLLOWING
cADVANCE,cRELEASE,cRESISTANCE,cEASE,cJOY,cCONTENTION,cENDEAVOUR,cDUTIES,cCHANGE,cDECISIVENESS
cBOLD RESOLUTION,cPACKING,cLEGION,cCLOSENESS,cKINSHIP,cGATHERING,cSTRENGTH,cPURITY,cFULLNESS
cRESIDENCE,cLAW OR MODEL,cRESPONSE,cGOING TO MEET,cENCOUNTERS,cSTOVE,cGREATNESS,cENLARGEMENT
cPATTERN,cRITUAL,cFLIGHT,cVASTNESS OR WASTING,cCONSTANCY,cMEASURE,cETERNITY,cUNITY,cDIMINISHMENT
cCLOSED MOUTH,cGUARDEDNESS,cGATHERING IN,cMASSING,cACCUMULATION,cEMBELLISHMENT,cDOUBT,cWATCH
cSINKING,cINNER,cDEPARTURE,cDARKENING,cDIMMING,cEXHAUSTION,cSEVERANCE,cSTOPPAGE,cHARDNESS
cCOMPLETION,cCLOSURE,cFAILURE,cAGGRAVATION,cCOMPLIANCE,cON THE VERGE,cDIFFICULTIES,cLABOURING
cFOSTERING,9,aCOUNTING ROD UNIT DIGIT ONE,eTWO,eTHREE,eFOUR,eFIVE,eSIX,eSEVEN,eEIGHT,eNINE
cTENS DIGIT ONE,eTWO,eTHREE,eFOUR,eFIVE,eSIX,eSEVEN,eEIGHT,eNINE,aIDEOGRAPHIC TALLY MARK ONE,dTWO
dTHREE,dFOUR,dFIVE,aTALLY MARK ONE,cFIVE,135,aMATHEMATICAL BOLD CAPITAL A,dB,dC,dD,dE,dF,dG,dH,dI,dJ
dK,dL,dM,dN,dO,dP,dQ,dR,dS,dT,dU,dV,dW,dX,dY,dZ,cSMALL A,dB,dC,dD,dE,dF,dG,dH,dI,dJ,dK,dL,dM,dN,dO
dP,dQ,dR,dS,dT,dU,dV,dW,dX,dY,dZ,bITALIC CAPITAL A,dB,dC,dD,dE,dF,dG,dH,dI,dJ,dK,dL,dM,dN,dO,dP,dQ
dR,dS,dT,dU,dV,dW,dX,dY,dZ,cSMALL A,dB,dC,dD,dE,dF,dG,1,dI,dJ,dK,dL,dM,dN,dO,dP,dQ,dR,dS,dT,dU,dV,dW
dX,dY,dZ,bBOLD ITALIC CAPITAL A,eB,eC,eD,eE,eF,eG,eH,eI,eJ,eK,eL,eM,eN,eO,eP,eQ,eR,eS,eT,eU,eV,eW,eX
eY,eZ,dSMALL A,eB,eC,eD,eE,eF,eG,eH,eI,eJ,eK,eL,eM,eN,eO,eP,eQ,eR,eS,eT,eU,eV,eW,eX,eY,eZ
bSCRIPT CAPITAL A,1,dC,dD,2,dG,2,dJ,dK,2,dN,dO,dP,dQ,1,dS,dT,dU,dV,dW,dX,dY,dZ,cSMALL A,dB,dC,dD,1
dF,1,dH,dI,dJ,dK,dL,dM,dN,1,dP,dQ,dR,dS,dT,dU,dV,dW,dX,dY,dZ,bBOLD SCRIPT CAPITAL A,eB,eC,eD,eE,eF
eG,eH,eI,eJ,eK,eL,eM,eN,eO,eP,eQ,eR,eS,eT,eU,eV,eW,eX,eY,eZ,dSMALL A,eB,eC,eD,eE,eF,eG,eH,eI,eJ,eK
eL,eM,eN,eO,eP,eQ,eR,eS,eT,eU,eV,eW,eX,eY,eZ,bFRAKTUR CAPITAL A,dB,1,dD,dE,dF,dG,2,dJ,dK,dL,dM,dN,dO
dP,dQ,1,dS,dT,dU,dV,dW,dX,dY,1,cSMALL A,dB,dC,dD,dE,dF,dG,dH,dI,dJ,dK,dL,dM,dN,dO,dP,dQ,dR,dS,dT,dU
dV,dW,dX,dY,dZ,bDOUBLE-STRUCK CAPITAL A,dB,1,dD,dE,dF,dG,1,dI,dJ,dK,dL,dM,1,dO,3,dS,dT,dU,dV,dW,dX
dY,1,cSMALL A,dB,dC,dD,dE,dF,dG,dH,dI,dJ,dK,dL,dM,dN,dO,dP,dQ,dR,dS,dT,dU,dV,dW,dX,dY,dZ
bBOLD FRAKTUR CAPITAL A,eB,eC,eD,eE,eF,eG,eH,eI,eJ,eK,eL,eM,eN,eO,eP,eQ,eR,eS,eT,eU,eV,eW,eX,eY,eZ
dSMALL A,eB,eC,eD,eE,eF,eG,eH,eI,eJ,eK,eL,eM,eN,eO,eP,eQ,eR,eS,eT,eU,eV,eW,eX,eY,eZ
bSANS-SERIF CAPITAL A,dB,dC,dD,dE,dF,dG,dH,dI,dJ,dK,dL,dM,dN,dO,dP,dQ,dR,dS,dT,dU,dV,dW,dX,dY,dZ
cSMALL A,dB,dC,dD,dE,dF,dG,dH,dI,dJ,dK,dL,dM,dN,dO,dP,dQ,dR,dS,dT,dU,dV,dW,dX,dY,dZ,cBOLD CAPITAL A
eB,eC,eD,eE,eF,eG,eH,eI,eJ,eK,eL,eM,eN,eO,eP,eQ,eR,eS,eT,eU,eV,eW,eX,eY,eZ,dSMALL A,eB,eC,eD,eE,eF
eG,eH,eI,eJ,eK,eL,eM,eN,eO,eP,eQ,eR,eS,eT,eU,eV,eW,eX,eY,eZ,cITALIC CAPITAL A,eB,eC,eD,eE,eF,eG,eH
eI,eJ,eK,eL,eM,eN,eO,eP,eQ,eR,eS,eT,eU,eV,eW,eX,eY,eZ,dSMALL A,eB,eC,eD,eE,eF,eG,eH,eI,eJ,eK,eL,eM
eN,eO,eP,eQ,eR,eS,eT,eU,eV,eW,eX,eY,eZ,cBOLD ITALIC CAPITAL A,fB,fC,fD,fE,fF,fG,fH,fI,fJ,fK,fL,fM,fN
fO,fP,fQ,fR,fS,fT,fU,fV,fW,fX,fY,fZ,eSMALL A,fB,fC,fD,fE,fF,fG,fH,fI,fJ,fK,fL,fM,fN,fO,fP,fQ,fR,fS
fT,fU,fV,fW,fX,fY,fZ,bMONOSPACE CAPITAL A,dB,dC,dD,dE,dF,dG,dH,dI,dJ,dK,dL,dM,dN,dO,dP,dQ,dR,dS,dT
dU,dV,dW,dX,dY,dZ,cSMALL A,dB,dC,dD,dE,dF,dG,dH,dI,dJ,dK,dL,dM,dN,dO,dP,dQ,dR,dS,dT,dU,dV,dW,dX,dY
dZ,bITALIC SMALL DOTLESS I,eJ,2,bBOLD CAPITAL ALPHA,dBETA,dGAMMA,dDELTA,dEPSILON,dZETA,dETA,dTHETA
dIOTA,dKAPPA,dLAMDA,dMU,dNU,dXI,dOMICRON,dPI,dRHO,dTHETA SYMBOL,dSIGMA,dTAU,dUPSILON,dPHI,dCHI,dPSI
dOMEGA,cNABLA,cSMALL ALPHA,dBETA,dGAMMA,dDELTA,dEPSILON,dZETA,dETA,dTHETA,dIOTA,dKAPPA,dLAMDA,dMU
dNU,dXI,dOMICRON,dPI,dRHO,dFINAL SIGMA,db,dTAU,dUPSILON,dPHI,dCHI,dPSI,dOMEGA,cPARTIAL DIFFERENTIAL
cEPSILON SYMBOL,cTHETAb,cKAPPAb,cPHIb,cRHOb,cPIb,bITALIC CAPITAL ALPHA,dBETA,dGAMMA,dDELTA,dEPSILON
dZETA,dETA,dTHETA,dIOTA,dKAPPA,dLAMDA,dMU,dNU,dXI,dOMICRON,dPI,dRHO,dTHETA SYMBOL,dSIGMA,dTAU
dUPSILON,dPHI,dCHI,dPSI,dOMEGA,cNABLA,cSMALL ALPHA,dBETA,dGAMMA,dDELTA,dEPSILON,dZETA,dETA,dTHETA
dIOTA,dKAPPA,dLAMDA,dMU,dNU,dXI,dOMICRON,dPI,dRHO,dFINAL SIGMA,db,dTAU,dUPSILON,dPHI,dCHI,dPSI
dOMEGA,cPARTIAL DIFFERENTIAL,cEPSILON SYMBOL,cTHETAb,cKAPPAb,cPHIb,cRHOb,cPIb
bBOLD ITALIC CAPITAL ALPHA,eBETA,eGAMMA,eDELTA,eEPSILON,eZETA,eETA,eTHETA,eIOTA,eKAPPA,eLAMDA,eMU
eNU,eXI,eOMICRON,ePI,eRHO,eTHETA SYMBOL,eSIGMA,eTAU,eUPSILON,ePHI,eCHI,ePSI,eOMEGA,dNABLA
dSMALL ALPHA,eBETA,eGAMMA,eDELTA,eEPSILON,eZETA,eETA,eTHETA,eIOTA,eKAPPA,eLAMDA,eMU,eNU,eXI,eOMICRON
ePI,eRHO,eFINAL SIGMA,eb,eTAU,eUPSILON,ePHI,eCHI,ePSI,eOMEGA,dPARTIAL DIFFERENTIAL,dEPSILON SYMBOL
dTHETAb,dKAPPAb,dPHIb,dRHOb,dPIb,bSANS-SERIF BOLD CAPITAL ALPHA,eBETA,eGAMMA,eDELTA,eEPSILON,eZETA
eETA,eTHETA,eIOTA,eKAPPA,eLAMDA,eMU,eNU,eXI,eOMICRON,ePI,eRHO,eTHETA SYMBOL,eSIGMA,eTAU,eUPSILON
ePHI,eCHI,ePSI,eOMEGA,dNABLA,dSMALL ALPHA,eBETA,eGAMMA,eDELTA,eEPSILON,eZETA,eETA,eTHETA,eIOTA
eKAPPA,eLAMDA,eMU,eNU,eXI,eOMICRON,ePI,eRHO,eFINAL SIGMA,eb,eTAU,eUPSILON,ePHI,eCHI,ePSI,eOMEGA
dPARTIAL DIFFERENTIAL,dEPSILON SYMBOL,dTHETAb,dKAPPAb,dPHIb,dRHOb,dPIb,dITALIC CAPITAL ALPHA,fBETA
fGAMMA,fDELTA,fEPSILON,fZETA,fETA,fTHETA,fIOTA,fKAPPA,fLAMDA,fMU,fNU,fXI,fOMICRON,fPI,fRHO
fTHETA SYMBOL,fSIGMA,fTAU,fUPSILON,fPHI,fCHI,fPSI,fOMEGA,eNABLA,eSMALL ALPHA,fBETA,fGAMMA,fDELTA
fEPSILON,fZETA,fETA,fTHETA,fIOTA,fKAPPA,fLAMDA,fMU,fNU,fXI,fOMICRON,fPI,fRHO,fFINAL SIGMA,fb,fTAU
fUPSILON,fPHI,fCHI,fPSI,fOMEGA,ePARTIAL DIFFERENTIAL,eEPSILON SYMBOL,eTHETAb,eKAPPAb,ePHIb,eRHOb
ePIb,bBOLD CAPITAL DIGAMMA,cSMALLb,2,cDIGIT ZERO,dONE,dTWO,dTHREE,dFOUR,dFIVE,dSIX,dSEVEN,dEIGHT
dNINE,bDOUBLE-STRUCK DIGIT ZERO,dONE,dTWO,dTHREE,dFOUR,dFIVE,dSIX,dSEVEN,dEIGHT,dNINE
bSANS-SERIF DIGIT ZERO,dONE,dTWO,dTHREE,dFOUR,dFIVE,dSIX,dSEVEN,dEIGHT,dNINE,cBOLD DIGIT ZERO,eONE
eTWO,eTHREE,eFOUR,eFIVE,eSIX,eSEVEN,eEIGHT,eNINE,bMONOSPACE DIGIT ZERO,dONE,dTWO,dTHREE,dFOUR,dFIVE
dSIX,dSEVEN,dEIGHT,dNINE,aSIGNWRITING HAND-FIST INDEX,bHAND-CIRCLEb,bHAND-CUPb,bHAND-OVALb
bHAND-HINGEb,bHAND-ANGLEb,bHAND-FIST INDEX BENT,bHAND-CIRCLEc,bHAND-FIST THUMB UNDERc
cINDEX RAISED KNUCKLE,dCUPPED,dHINGED,eLOW,bHAND-CIRCLE INDEX HINGE,bHAND-FIST INDEX MIDDLE
bHAND-CIRCLEc,bHAND-FIST INDEX MIDDLE BENT,eRAISED KNUCKLES,eHINGED,dUPc,dHINGED MIDDLE UP
dMIDDLE CONJOINED,fINDEX BENT,fMIDDLEb,fCUPPED,fHINGED,eCROSSED,bHAND-CIRCLEd
bHAND-FIST MIDDLE BENT OVER INDEX,cINDEX BENT OVER MIDDLE,dMIDDLE THUMB,bHAND-CIRCLEd
bHAND-FIST INDEX MIDDLE STRAIGHT THUMB BENT,eBENT THUMB STRAIGHT,eTHUMB BENT
eHINGED SPREAD THUMB SIDE,dUP MIDDLE HINGEDc,hCONJOINED,dHINGED MIDDLE UP THUMB SIDE
dMIDDLE UP SPREAD THUMB FORWARD,eTHUMB CUPPED,fCIRCLED,fHOOKED,fHINGED
cTHUMB BETWEEN INDEX MIDDLE STRAIGHT,cINDEX MIDDLE CONJOINED THUMB SIDE,hCONJOINED,hBENT
cMIDDLE THUMB HOOKED INDEX UP,cINDEX THUMB HOOKED MIDDLEb,dMIDDLE CONJOINED HINGED THUMB SIDE
eCROSSEDc,eCONJOINED THUMB FORWARD,fCUPPEDc,cMIDDLE THUMB CUPPED INDEX UP
cINDEX THUMB CUPPED MIDDLEb,cMIDDLE THUMB CIRCLED INDEXb,gHINGED,cINDEX THUMB ANGLED OUT MIDDLE UP
fINc,eCIRCLEDc,dMIDDLE THUMB CONJOINED HINGED,fANGLED OUT,g,cMIDDLE THUMB ANGLED OUT INDEX UP
hCROSSED,fINDEX UP,cINDEX THUMB HOOKED MIDDLE HINGED,bHAND-FLAT FOUR FINGERS,eBENT,eHINGED
eCONJOINED,fSPLIT,bHAND-CLAW FOUR FINGERS CONJOINED,bHAND-FIST FOUR FINGERS CONJOINED BENT
bHAND-HINGE FOUR FINGERS CONJOINED,bHAND-FLAT FIVE FINGERS SPREAD,cHEELd
cFIVE FINGERS SPREAD FOUR BENT,cHEELf,cFIVE FINGERS SPREADb,cHEELe
cFIVE FINGERS SPREAD THUMB FORWARD,bHAND-CUP FIVE FINGERS SPREAD,fOPEN,bHAND-HINGEe
bHAND-OVAL FIVE FINGERS SPREAD,bHAND-FLAT FIVE FINGERS SPREAD HINGED,gTHUMB SIDE,gNO THUMB,c
cBETWEEN PALM FACINGS,cHEEL,cTHUMB SIDE,cHEELc,cTHUMB BENT,dFORWARD,cSPLIT INDEX THUMB SIDE,dCENTRE
eTHUMB SIDE,gBENT,dLITTLE,bHAND-CLAW,cTHUMB SIDE,cNO THUMB,cTHUMB FORWARD,bHAND-HOOK CURLICUE,c
bHAND-CUP OPEN,c,cOPEN THUMB SIDE,cc,cOPEN NO THUMB,cc,cOPEN THUMB FORWARD,cc,bHAND-CURLICUE OPEN,c
bHAND-CIRCLE,bHAND-OVAL,cTHUMB SIDE,cNO THUMB,cTHUMB FORWARD,bHAND-HINGE OPEN,dTHUMB FORWARD,c
cSMALL,cOPEN THUMB SIDE,cc,cOPEN NO THUMB,cc,cTHUMB SIDE TOUCHING INDEX,dBETWEEN MIDDLE RING
bHAND-ANGLE,bHAND-FIST INDEX MIDDLE RING,bHAND-CIRCLEd,bHAND-HINGEd,bHAND-ANGLEd,bHAND-HINGE LITTLE
bHAND-FIST INDEX MIDDLE RING BENT,fCONJOINED,bHAND-HINGEe,bHAND-FIST LITTLE DOWN,eRIPPLE STRAIGHT
fCURVED,eOTHERS CIRCLED,dUP,cTHUMB UNDERc,bHAND-CIRCLEc,bHAND-OVALc,bHAND-ANGLEc
bHAND-FIST LITTLE RAISED KNUCKLE,dBENT,dTOUCHES THUMB,db,bHAND-HINGEc,bHAND-FIST LITTLE INDEXb
bHAND-HINGEd,bHAND-ANGLE LITTLE INDEX THUMB INDEX THUMB OUT,h,bHAND-FIST LITTLE INDEX,bHAND-CIRCLEc
bHAND-HINGEc,bHAND-ANGLEc,bHAND-FIST INDEX MIDDLE LITTLE,bHAND-CIRCLEd,bHAND-HINGEd,cRING
bHAND-ANGLE INDEX MIDDLE LITTLE,bHAND-FIST INDEX MIDDLE CROSSb,bHAND-CIRCLEe,bHAND-FIST RING DOWN
bHAND-HINGE RING DOWN INDEX THUMB HOOK MIDDLE,bHAND-ANGLE RING DOWN MIDDLE THUMB INDEX CROSS
bHAND-FIST RING UP,dRAISED KNUCKLE,dLITTLE,bHAND-CIRCLEc,bHAND-OVALc,bHAND-ANGLEc
bHAND-FIST RING MIDDLE,eCONJOINED,eRAISED KNUCKLES,dINDEX,dTHUMB,bHAND-HOOKc
bHAND-FIST INDEX RING LITTLE,bHAND-CIRCLEd,bHAND-CURLICUE INDEX RING LITTLE ON
bHAND-HOOK INDEX RING LITTLE OUT,fIN,fUNDER,bHAND-CUP INDEX RING LITTLE,bHAND-HINGEd
bHAND-ANGLE INDEX RING LITTLE OUT,f,bHAND-FIST MIDDLE DOWN,bHAND-HINGE MIDDLE,bHAND-FIST MIDDLE UP
bHAND-CIRCLEc,bHAND-FIST MIDDLE RAISED KNUCKLE,dUP THUMB SIDE,bHAND-HOOK MIDDLE THUMB
bHAND-FIST MIDDLE THUMB LITTLE,db,dRINGb,bHAND-CIRCLEd,bHAND-CURLICUE MIDDLE RING LITTLE ON
bHAND-CUP MIDDLE RING LITTLE,bHAND-HINGEd,bHAND-ANGLE MIDDLE RING LITTLE OUT,fIN,f
bHAND-CIRCLE MIDDLE RING LITTLE BENT,bHAND-CLAW MIDDLE RING LITTLE CONJOINED,gSIDE
bHAND-HOOK MIDDLE RING LITTLE CONJOINED OUT,gIN,g,bHAND-HINGE INDEX HINGED
bHAND-FIST INDEX THUMB SIDE,bHAND-HINGEd,bHAND-FIST INDEX THUMB SIDE THUMB DIAGONAL,gCONJOINED,gBENT
fINDEXb,fBOTHb,fINDEX HINGE,eFORWARD INDEX STRAIGHT,gBENT,eHOOK,eCURLICUE,eCURVE THUMB INSIDE
bHAND-CLAWf,bHAND-FIST INDEX THUMB CURVE THUMB UNDER,eCIRCLE,bHAND-CUP INDEX THUMB,eOPEN
bHAND-HINGEd,eLARGE,e,eSMALL,bHAND-ANGLE INDEX THUMB OUT,eIN,e,bHAND-FISTb,dHEEL,dSIDE DIAGONAL
eCONJOINED,eBENT,dFORWARD,dBETWEEN INDEX MIDDLE,eMIDDLE RING,eRING LITTLE,dUNDER TWO FINGERS,dOVERc
dUNDER THREEb,eFOURb,dOVER FOUR RAISED KNUCKLES,c,cHEEL,bTOUCH SINGLE,cMULTIPLE,cBETWEEN
bGRASP SINGLE,cMULTIPLE,cBETWEEN,bSTRIKE SINGLE,cMULTIPLE,cBETWEEN,bBRUSH SINGLE,cMULTIPLE,cBETWEEN
bRUB SINGLE,cMULTIPLE,cBETWEEN,bSURFACE SYMBOLS,cBETWEEN,bSQUEEZE LARGE SINGLE,cSMALLb
cLARGE MULTIPLE,cSMALLb,cSEQUENTIAL,bFLICK LARGE SINGLE,cSMALLb,cLARGE MULTIPLE,cSMALLb,cSEQUENTIAL
bSQUEEZE FLICK ALTERNATING,bMOVEMENT-HINGE UP DOWN LARGE,eSMALL,dSEQUENTIAL,cDOWNb
cUP DOWN ALTERNATING LARGE,fSMALL,cSIDE TO SIDE SCISSORS,bMOVEMENT-WALLPLANE FINGER CONTACT
bMOVEMENT-FLOORPLANEc,bMOVEMENT-WALLPLANE SINGLE STRAIGHT SMALL,eMEDIUM,eLARGE,eLARGEST,dWRIST FLEX
cDOUBLE STRAIGHT,dWRIST FLEX,dALTERNATING,eWRIST FLEX,cCROSS,cTRIPLE STRAIGHT MOVEMENT,dWRIST FLEX
dALTERNATING,eWRIST FLEX,cBEND SMALL,dMEDIUM,dLARGE,cCORNER SMALL,dMEDIUM,dLARGE,dROTATION
cCHECK SMALL,dMEDIUM,dLARGE,cBOX SMALL,dMEDIUM,dLARGE,cZIGZAG SMALL,dMEDIUM,dLARGE,cPEAKS SMALL
dMEDIUM,dLARGE,bTRAVEL-WALLPLANE ROTATION-WALLPLANE SINGLE,dDOUBLE,dALTERNATING
cROTATION-FLOORPLANE SINGLE,dDOUBLE,dALTERNATING,cSHAKING,cARM SPIRAL SINGLE,eDOUBLE,eTRIPLE
bMOVEMENT-DIAGONAL AWAY SMALL,dMEDIUM,dLARGE,dLARGEST,cTOWARDS SMALL,dMEDIUM,dLARGE,dLARGEST
cBETWEEN AWAY SMALL,eMEDIUM,eLARGE,eLARGEST,dTOWARDS SMALL,eMEDIUM,eLARGE,eLARGEST
bMOVEMENT-FLOORPLANE SINGLE STRAIGHT SMALL,eMEDIUM,eLARGE,eLARGEST,dWRIST FLEX,cDOUBLE STRAIGHT
dWRIST FLEX,dALTERNATING,eWRIST FLEX,cCROSS,cTRIPLE STRAIGHT MOVEMENT,dWRIST FLEX
dALTERNATING MOVEMENT,eWRIST FLEX,cBEND,cCORNER SMALL,dMEDIUM,dLARGE,cCHECK,cBOX SMALL,dMEDIUM
dLARGE,cZIGZAG SMALL,dMEDIUM,dLARGE,cPEAKS SMALL,dMEDIUM,dLARGE
bTRAVEL-FLOORPLANE ROTATION-FLOORPLANE SINGLE,dDOUBLE,dALTERNATING,cROTATION-WALLPLANE SINGLE
dDOUBLE,dALTERNATING,cSHAKING,bMOVEMENT-WALLPLANE CURVE QUARTER SMALL,eMEDIUM,eLARGE,eLARGEST
dHALF-CIRCLE SMALL,eMEDIUM,eLARGE,eLARGEST,dTHREE-QUARTER CIRCLE SMALL,fMEDIUM,cHUMP SMALL,dMEDIUM
dLARGE,cLOOP SMALL,dMEDIUM,dLARGE,dSMALL DOUBLE,cWAVE CURVE DOUBLE SMALL,fMEDIUM,fLARGE
eTRIPLE SMALL,fMEDIUM,fLARGE,cCURVE THEN STRAIGHT,cCURVED CROSS SMALL,eMEDIUM
bROTATION-WALLPLANE SINGLE,cDOUBLE,cALTERNATE,bMOVEMENT-WALLPLANE SHAKING,cCURVE HITTING FRONT WALL
cHUMPd,cLOOPd,cWAVEd,bROTATION-WALLPLANE SINGLEd,cDOUBLEd,cALTERNATINGd
bMOVEMENT-WALLPLANE CURVE HITTING CHEST,cHUMPc,cLOOPc,cWAVEc,bROTATION-WALLPLANE SINGLEc,cDOUBLEc
cALTERNATINGc,bMOVEMENT-WALLPLANE WAVE DIAGONAL PATH SMALL,fMEDIUM,fLARGE
bMOVEMENT-FLOORPLANE CURVE HITTING CEILING SMALL,fLARGE,cHUMP HITTING CEILING SMALL DOUBLE,fLARGEb
fSMALL TRIPLE,fLARGEb,cLOOP HITTING CEILING SMALL SINGLE,fLARGEb,fSMALL DOUBLE,fLARGEb
cWAVE HITTING CEILING SMALL,fLARGE,bROTATION-FLOORPLANE SINGLE HITTING CEILING,cDOUBLEc
cALTERNATINGc,bMOVEMENT-FLOORPLANE CURVE HITTING FLOOR SMALL,fLARGE,cHUMP HITTING FLOOR SMALL DOUBLE
fLARGEb,fTRIPLE SMALL TRIPLE,gLARGEb,cLOOP HITTING FLOOR SMALL SINGLE,fLARGEb,fSMALL DOUBLE,fLARGEb
cWAVE HITTING FLOOR SMALL,fLARGE,bROTATION-FLOORPLANE SINGLE HITTING FLOOR,cDOUBLEc,cALTERNATINGc
bMOVEMENT-FLOORPLANE CURVE SMALL,dMEDIUM,dLARGE,dLARGEST,dCOMBINED,cHUMP SMALL,cLOOPb,cWAVE SNAKE
dSMALL,dLARGE,bROTATION-FLOORPLANE SINGLE,cDOUBLE,cALTERNATING,bMOVEMENT-FLOORPLANE SHAKING PARALLEL
bMOVEMENT-WALLPLANE ARM CIRCLE SMALL SINGLE,eMEDIUMb,eSMALL DOUBLE,eMEDIUMb
bMOVEMENT-FLOORPLANE ARM CIRCLE HITTING WALL SMALL SINGLE,gMEDIUMb,gLARGEb,gSMALL DOUBLE,gMEDIUMb
gLARGEb,bMOVEMENT-WALLPLANE WRIST CIRCLE FRONT SINGLE,fDOUBLE
bMOVEMENT-FLOORPLANE WRIST CIRCLE HITTING WALL SINGLE,gDOUBLE
bMOVEMENT-WALLPLANE FINGER CIRCLES SINGLE,eDOUBLE
bMOVEMENT-FLOORPLANE FINGER CIRCLES HITTING WALL SINGLE,gDOUBLE,bDYNAMIC ARROWHEAD SMALL,dLARGE
cFAST,cSLOW,cTENSE,cRELAXED,cSIMULTANEOUS,dALTERNATING,cEVERY OTHER TIME,cGRADUAL,bHEAD,cRIM
cMOVEMENT-WALLPLANE STRAIGHT,dTILT,cMOVEMENT-FLOORPLANE STRAIGHT,cMOVEMENT-WALLPLANE CURVE
cMOVEMENT-FLOORPLANEb,cMOVEMENT CIRCLE,bFACE DIRECTION POSITION NOSE FORWARD TILTING,fUP OR DOWN
iTILTING,bEYEBROWS STRAIGHT UP,dNEUTRAL,dDOWN,bDREAMY EYEBROWS NEUTRALb,dDOWN NEUTRAL,dUPb
dNEUTRAL UP,bFOREHEAD NEUTRAL,cCONTACT,cWRINKLED,bEYES OPEN,cSQUEEZED,cCLOSED,bEYE BLINK SINGLE
dMULTIPLE,bEYES HALF OPEN,cWIDEb,cHALF CLOSED,cWIDENING MOVEMENT,bEYE WINK,bEYELASHES UP,cDOWN
cFLUTTERING,bEYEGAZE-WALLPLANE STRAIGHT,dDOUBLE,dALTERNATING,bEYEGAZE-FLOORPLANE STRAIGHT,dDOUBLE
dALTERNATING,bEYEGAZE-WALLPLANE CURVED,bEYEGAZE-FLOORPLANEb,bEYEGAZE-WALLPLANE CIRCLING
bCHEEKS PUFFED,cNEUTRAL,cSUCKED,bTENSE CHEEKS HIGH,dMIDDLE,dLOW,bEARS,bNOSE NEUTRAL,cCONTACT
cWRINKLES,cWIGGLES,bAIR BLOWING OUT,cSUCKING IN,cBLOW SMALL ROTATIONS,cSUCKc,bBREATH INHALE,cEXHALE
bMOUTH CLOSED NEUTRAL,dFORWARD,dCONTACT,cSMILE,dWRINKLED,dOPEN,cFROWN,dWRINKLED,dOPEN,cOPEN CIRCLE
dFORWARD,dWRINKLED,dOVAL,eWRINKLED,eYAWN,dRECTANGLE,eWRINKLED,eYAWN,cKISS,dFORWARD,dWRINKLED,cTENSE
dFORWARD,dSUCKED,bLIPS PRESSED TOGETHER,bLIP LOWER OVER UPPER,cUPPER OVER LOWER,bMOUTH CORNERS
cWRINKLES SINGLE,dDOUBLE,bTONGUE STICKING OUT FAR,cLICKING LIPS,cTIP BETWEENb,dTOUCHING INSIDE MOUTH
cINSIDE MOUTH RELAXED,cMOVES AGAINST CHEEK,cCENTRE STICKING OUT,dINSIDE MOUTH,bTEETH,cMOVEMENT
cON TONGUE,eMOVEMENT,dLIPS,eMOVEMENT,cBITE LIPS,bMOVEMENT-WALLPLANE JAW,bMOVEMENT-FLOORPLANEb,bNECK
bHAIR,bEXCITEMENT,bSHOULDER HIP SPINE,dPOSITIONS,bWALLPLANE SHOULDER HIP MOVE,bFLOORPLANEd
bSHOULDER TILTING FROM WAIST,bTORSO-WALLPLANE STRAIGHT STRETCH,cCURVED BEND
bTORSO-FLOORPLANE TWISTING,bUPPER BODY TILTING FROM HIP JOINTS,bLIMB COMBINATION,cLENGTH-1,cLENGTH-2
cLENGTH-3,cLENGTH-4,cLENGTH-5,cLENGTH-6,cLENGTH-7,bFINGER,bLOCATION-WALLPLANE SPACE
bLOCATION-FLOORPLANEb,bLOCATION HEIGHT,cWIDTH,cDEPTH,cHEAD NECK,cTORSO,cLIMBS DIGITS,bCOMMA
bFULL STOP,bSEMICOLON,bCOLON,bPARENTHESIS,15,bFILL MODIFIER-2,cMODIFIER-3,cMODIFIER-4,cMODIFIER-5
cMODIFIER-6,1,bROTATION MODIFIER-2,cMODIFIER-3,cMODIFIER-4,cMODIFIER-5,cMODIFIER-6,cMODIFIER-7
cMODIFIER-8,cMODIFIER-9,cMODIFIER-10,cMODIFIER-11,cMODIFIER-12,cMODIFIER-13,cMODIFIER-14
cMODIFIER-15,cMODIFIER-16,1104,aLATIN SMALL LETTER FENG DIGRAPH WITH TRILL,dREVERSED SCRIPT G
bLETTER SMALL CAPITAL TURNEDb,bSMALL LETTER REVERSED K,bLETTER SMALL CAPITAL L WITH BELT
bSMALL LETTER LEZH WITH RETROFLEX HOOK,dTURNED Y WITH BELT,dREVERSED ENG
dTURNED R WITH LONG LEG AND RETROFLEX HOOK,dT WITH HOOKd,bLETTER RETROFLEX CLICK WITHc
bSMALL LETTER ESH WITH DOUBLE BAR,hAND CURL,dTURNED T WITHb,bLETTER INVERTED GLOTTAL STOPc
cSTRETCHED Cc,cSMALL CAPITAL TURNED K,bSMALL LETTER L WITH FISHHOOK,dDEZH DIGRAPH WITH PALATAL HOOK
dL WITH BELT ANDc,dENG WITHc,dTURNED Rd,dR WITH FISHHOOK ANDc,dTESH DIGRAPH WITHc,dEZHd
dDEZH DIGRAPH WITH RETROFLEXb,dI WITH STROKE ANDc,dO WITHc,dTESH DIGRAPHd,dCd,dS WITH CURL,225
aCOMBINING GLAGOLITIC LETTER AZU,dBUKY,dVEDE,dGLAGOLI,dDOBRO,dYESTU,dZHIVETE,1,dZEMLJA,dIZHE
dINITIALb,dI,dDJERVI,dKAKO,dLJUDIJE,dMYSLITE,dNASHI,dONU,dPOKOJI,dRITSI,dSLOVO,dTVRIDO,dUKU,dFRITU
dHERU,2,dSHTA,dTSI,dCHRIVI,dSHA,dYERU,dYERI,dYATI,1,dYU,dSMALL YUS,1,dYO,dIOTATED SMALL YUS,dBIGb
dIOTATEDc,dFITA,213,aNYIAKENG PUACHUE HMONG LETTER MA,eTSA,eNTA,eTA,eHA,eNA,eXA,eNKA,eCA,eLA,eSA,eZA
eNCA,eNTSA,eKA,eDA,eNYA,eNRA,eVA,eNTXA,eTXA,eFA,eRA,eQA,eYA,eNQA,ePA,eXYA,eNPA,eDLA,eNPLA,eHAH,eMLA
ePLA,eGA,eRRA,eA,eAA,eI,eU,eO,eOO,eE,eEE,eW,3,dTONE-B,dTONE-M,dTONE-J,dTONE-V,dTONE-S,dTONE-G
dTONE-D,dSIGN FOR PERSON,fTHING,fLOCATION,fANIMAL,fINVERTEBRATE,eXW XW,dSYLLABLE LENGTHENER,2
dDIGIT ZERO,eONE,eTWO,eTHREE,eFOUR,eFIVE,eSIX,eSEVEN,eEIGHT,eNINE,4,dLOGOGRAM NYAJ,dCIRCLED CA,320
aTOTO LETTER PA,cBA,cTA,cDA,cKA,cGA,cMA,cNA,cNGA,cSA,cCHA,cYA,cWA,cJA,cHA,cRA,cLA,cI,cBREATHYb,cIU
cBREATHYb,cU,cE,cBREATHYb,cEO,cBREATHYb,cO,cAE,cBREATHYb,cA,bSIGN RISING TONE,17,aWANCHO LETTER AA
cA,cBA,cCA,cDA,cGA,cYA,cPHA,cLA,cNA,cPA,cTA,cTHA,cFA,cSA,cSHA,cJA,cZA,cWA,cVA,cKA,cO,cAU,cRA,cMA
cKHA,cHA,cE,cI,cNGA,cU,cLLHA,cTSA,cTRA,cONG,cAANG,cANG,cING,cON,cEN,cAAN,cNYA,cUEN,cYIH,bTONE TUP
cTUPNI,cKOI,cKOINI,bDIGIT ZERO,cONE,cTWO,cTHREE,cFOUR,cFIVE,cSIX,cSEVEN,cEIGHT,cNINE,5,bNGUN SIGN
1248,aETHIOPIC SYLLABLE HHYA,cHHYU,cHHYI,cHHYAA,cHHYEE,cHHYE,cHHYO,1,cGURAGE HHWA,cHHWI,cHHWEE,cHHWE
1,cGURAGE MWI,dMWEE,1,dQWI,dQWEE,dQWE,dBWI,dBWEE,dKWI,dKWEE,dKWE,dGWI,dGWEE,dGWE,dFWI,dFWEE,dPWI
dPWEE,1,aMENDE KIKAKUI SYLLABLE M001 KI,dM002 KA,dM003 KU,dM065 KEE,dM095 KE,dM076 KOO,dM048 KO
dM179 KUA,dM004 WI,dM005 WA,dM006 WU,dM126 WEE,dM118 WE,dM114 WOO,dM045 WO,dM194 WUI,dM143 WEI
dM061 WVI,dM049 WVA,dM139 WVE,dM007 MIN,dM008 MAN,dM009 MUN,dM059 MEN,dM094 MON,dM154 MUAN
dM189 MUEN,dM010 BI,dM011 BA,dM012 BU,dM150 BEE,dM097 BE,dM103 BOO,dM138 BO,dM013 I,dM014 A,dM015 U
dM163 EE,dM100 E,dM165 OO,dM147 O,dM137 EI,dM131 IN,dM135b,dM195 AN,dM178 EN,dM019 SI,dM020 SA
dM021 SU,dM162 SEE,dM116 SE,dM136 SOO,dM079 SO,dM196 SIA,dM025 LI,dM026 LA,dM027 LU,dM084 LEE
dM073 LE,dM054 LOO,dM153 LO,dM110 LONG LE,dM016 DI,dM017 DA,dM018 DU,dM089 DEE,dM180 DOO,dM181 DO
dM022 TI,dM023 TA,dM024 TU,dM091 TEE,dM055 TE,dM104 TOO,dM069 TO,dM028 JI,dM029 JA,dM030 JU
dM157 JEE,dM113 JE,dM160 JOO,dM063 JO,dM175 LONGb,dM031 YI,dM032 YA,dM033 YU,dM109 YEE,dM080 YE
dM141 YOO,dM121 YO,dM034 FI,dM035 FA,dM036 FU,dM078 FEE,dM075 FE,dM133 FOO,dM088 FO,dM197 FUA
dM101 FAN,dM037 NIN,dM038 NAN,dM039 NUN,dM117 NEN,dM169 NON,dM176 HI,dM041 HA,dM186 HU,dM040 HEE
dM096 HE,dM042 HOO,dM140 HO,dM083 HEEI,dM128 HOOU,dM053 HIN,dM130 HAN,dM087 HUN,dM052 HEN,dM193 HON
dM046 HUAN,dM090 NGGI,dM043 NGGA,dM082 NGGU,dM115 NGGEE,dM146 NGGE,dM156 NGGOO,dM120 NGGO
dM159 NGGAA,dM127 NGGUA,dM086 LONG NGGE,dM106 LONG NGGOO,dM183 LONG NGGO,dM155 GI,dM111 GA,dM168 GU
dM190 GEE,dM166 GUEI,dM167 GUAN,dM184 NGEN,dM057 NGON,dM177 NGUAN,dM068 PI,dM099 PA,dM050 PU
dM081 PEE,dM051 PE,dM102 POO,dM066 PO,dM145 MBI,dM062 MBA,dM122 MBU,dM047 MBEE,dM188b,dM072 MBE
dM172 MBOO,dM174 MBO,dM187 MBUU,dM161 LONG MBE,dM105 LONG MBOO,dM142 LONG MBO,dM132 KPI,dM092 KPA
dM074 KPU,dM044 KPEE,dM108 KPE,dM112 KPOO,dM158 KPO,dM124 GBI,dM056 GBA,dM148 GBU,dM093 GBEE
dM107 GBE,dM071 GBOO,dM070 GBO,dM171 RA,dM123 NDI,dM129 NDA,dM125 NDU,dM191 NDEE,dM119 NDE
dM067 NDOO,dM064 NDO,dM152 NJA,dM192 NJU,dM149 NJEE,dM134 NJOO,dM182 VI,dM185 VA,dM151 VU,dM173 VEE
dM085 VE,dM144 VOO,dM077 VO,dM164 NYIN,dM058 NYAN,dM170 NYUN,dM098 NYEN,dM060 NYON,2,cDIGIT ONE,dTWO
dTHREE,dFOUR,dFIVE,dSIX,dSEVEN,dEIGHT,dNINE,cCOMBINING NUMBER TEENS,eTENS,eHUNDREDS,eTHOUSANDS,eTENb
eHUNDREDb,eMILLIONS,41,aADLAM CAPITAL LETTER ALIF,dDAALI,dLAAM,dMIIM,dBA,dSINNYIIYHE,dPE,dBHE,dRA,dE
dFA,dI,dO,dDHA,dYHE,dWAW,dNUN,dKAF,dYA,dU,dJIIM,dCHI,dHA,dQAAF,dGA,dNYA,dTU,dNHA,dVA,dKHA,dGBE,dZAL
dKPO,dSHA,bSMALL LETTER ALIF,dDAALI,dLAAM,dMIIM,dBA,dSINNYIIYHE,dPE,dBHE,dRA,dE,dFA,dI,dO,dDHA,dYHE
dWAW,dNUN,dKAF,dYA,dU,dJIIM,dCHI,dHA,dQAAF,dGA,dNYA,dTU,dNHA,dVA,dKHA,dGBE,dZAL,dKPO,dSHA
bALIF LENGTHENER,bVOWELb,bGEMINATION MARK,bHAMZA,bCONSONANT MODIFIER,bGEMINATEc,bNUKTA
bNASALIZATION MARK,4,bDIGIT ZERO,cONE,cTWO,cTHREE,cFOUR,cFIVE,cSIX,cSEVEN,cEIGHT,cNINE,4
bINITIAL EXCLAMATION MARK,cQUESTIONb,785,aINDIC SIYAQ NUMBER ONE,dTWO,dTHREE,dFOUR,dFIVE,dSIX,dSEVEN
dEIGHT,dNINE,dTEN,dTWENTY,dTHIRTY,dFORTY,dFIFTY,dSIXTY,dSEVENTY,dEIGHTY,dNINETY,dONE HUNDRED,dTWOb
dTHREEb,dFOURb,dFIVEb,dSIXb,dSEVENb,dEIGHTb,dNINEb,dONE THOUSAND,dTWOb,dTHREEb,dFOURb,dFIVEb,dSIXb
dSEVENb,dEIGHTb,dNINEb,dTENb,dTWENTYb,dTHIRTYb,dFORTYb,dFIFTYb,dSIXTYb,dSEVENTYb,dEIGHTYb,dNINETYb
dLAKH,dLAKHAN,cLAKH MARK,cNUMBER KAROR,dKARORAN,dPREFIXED ONE,eTWO,eTHREE,eFOUR,eFIVE,eSIX,eSEVEN
eEIGHT,eNINE,cPLACEHOLDER,cFRACTION ONE QUARTER,eHALF,dTHREE QUARTERS,cRUPEE MARK
cNUMBER ALTERNATE ONE,eTWO,eTEN THOUSAND,cALTERNATE LAKH MARK,76,aOTTOMAN SIYAQ NUMBER ONE,dTWO
dTHREE,dFOUR,dFIVE,dSIX,dSEVEN,dEIGHT,dNINE,dTEN,dTWENTY,dTHIRTY,dFORTY,dFIFTY,dSIXTY,dSEVENTY
dEIGHTY,dNINETY,dONE HUNDRED,dTWOb,dTHREEb,dFOURb,dFIVEb,dSIXb,dSEVENb,dEIGHTb,dNINEb,dONE THOUSAND
dTWOb,dTHREEb,dFOURb,dFIVEb,dSIXb,dSEVENb,dEIGHTb,dNINEb,dTENb,dTWENTYb,dTHIRTYb,dFORTYb,dFIFTYb
dSIXTYb,dSEVENTYb,dEIGHTYb,dNINETYb,cMARRATAN,cALTERNATE NUMBER TWO,eTHREE,eFOUR,eFIVE,eSIX,eSEVEN
eEIGHT,eNINE,eTEN,eFOUR HUNDRED,eSIXb,eTWO THOUSAND,eTENb,cFRACTION ONE HALF,eSIXTH,194
aARABIC MATHEMATICAL ALEF,cBEH,cJEEM,cDAL,1,cWAW,cZAIN,cHAH,cTAH,cYEH,cKAF,cLAM,cMEEM,cNOON,cSEEN
cAIN,cFEH,cSAD,cQAF,cREH,cSHEEN,cTEH,cTHEH,cKHAH,cTHAL,cDAD,cZAH,cGHAIN,cDOTLESS BEH,dNOON,dFEH,dQAF
1,cINITIAL BEH,dJEEM,1,dHEH,2,dHAH,1,dYEH,dKAF,dLAM,dMEEM,dNOON,dSEEN,dAIN,dFEH,dSAD,dQAF,1,dSHEEN
dTEH,dTHEH,dKHAH,1,dDAD,1,dGHAIN,6,cTAILED JEEM,4,dHAH,1,dYEH,1,dLAM,1,dNOON,dSEEN,dAIN,1,dSAD,dQAF
1,dSHEEN,2,dKHAH,1,dDAD,1,dGHAIN,1,dDOTLESS NOON,1,eQAF,1,cSTRETCHED BEH,dJEEM,1,dHEH,2,dHAH,dTAH
dYEH,dKAF,1,dMEEM,dNOON,dSEEN,dAIN,dFEH,dSAD,dQAF,1,dSHEEN,dTEH,dTHEH,dKHAH,1,dDAD,dZAH,dGHAIN
dDOTLESS BEH,1,eFEH,1,cLOOPED ALEF,dBEH,dJEEM,dDAL,dHEH,dWAW,dZAIN,dHAH,dTAH,dYEH,1,dLAM,dMEEM,dNOON
dSEEN,dAIN,dFEH,dSAD,dQAF,dREH,dSHEEN,dTEH,dTHEH,dKHAH,dTHAL,dDAD,dZAH,dGHAIN,5,cDOUBLE-STRUCK BEH
dJEEM,dDAL,1,dWAW,dZAIN,dHAH,dTAH,dYEH,1,dLAM,dMEEM,dNOON,dSEEN,dAIN,dFEH,dSAD,dQAF,dREH,dSHEEN,dTEH
dTHEH,dKHAH,dTHAL,dDAD,dZAH,dGHAIN,52,cOPERATOR MEEM WITH HAH WITH TATWEEL,dHAH WITH DAL,270
aMAHJONG TILE EAST WIND,cSOUTHb,cWESTb,cNORTHb,cRED DRAGON,cGREENb,cWHITEb,cONE OF CHARACTERS,cTWOc
cTHREEc,cFOURc,cFIVEc,cSIXc,cSEVENc,cEIGHTc,cNINEc,cONE OF BAMBOOS,cTWOc,cTHREEc,cFOURc,cFIVEc,cSIXc
cSEVENc,cEIGHTc,cNINEc,cONE OF CIRCLES,cTWOc,cTHREEc,cFOURc,cFIVEc,cSIXc,cSEVENc,cEIGHTc,cNINEc
cPLUM,cORCHID,cBAMBOO,cCHRYSANTHEMUM,cSPRING,cSUMMER,cAUTUMN,cWINTER,cJOKER,cBACK,4
aDOMINO TILE HORIZONTALb,cHORIZONTAL-00-00,cHORIZONTAL-00-01,cHORIZONTAL-00-02,cHORIZONTAL-00-03
cHORIZONTAL-00-04,cHORIZONTAL-00-05,cHORIZONTAL-00-06,cHORIZONTAL-01-00,cHORIZONTAL-01-01
cHORIZONTAL-01-02,cHORIZONTAL-01-03,cHORIZONTAL-01-04,cHORIZONTAL-01-05,cHORIZONTAL-01-06
cHORIZONTAL-02-00,cHORIZONTAL-02-01,cHORIZONTAL-02-02,cHORIZONTAL-02-03,cHORIZONTAL-02-04
cHORIZONTAL-02-05,cHORIZONTAL-02-06,cHORIZONTAL-03-00,cHORIZONTAL-03-01,cHORIZONTAL-03-02
cHORIZONTAL-03-03,cHORIZONTAL-03-04,cHORIZONTAL-03-05,cHORIZONTAL-03-06,cHORIZONTAL-04-00
cHORIZONTAL-04-01,cHORIZONTAL-04-02,cHORIZONTAL-04-03,cHORIZONTAL-04-04,cHORIZONTAL-04-05
cHORIZONTAL-04-06,cHORIZONTAL-05-00,cHORIZONTAL-05-01,cHORIZONTAL-05-02,cHORIZONTAL-05-03
cHORIZONTAL-05-04,cHORIZONTAL-05-05,cHORIZONTAL-05-06,cHORIZONTAL-06-00,cHORIZONTAL-06-01
cHORIZONTAL-06-02,cHORIZONTAL-06-03,cHORIZONTAL-06-04,cHORIZONTAL-06-05,cHORIZONTAL-06-06
cVERTICAL BACK,cVERTICAL-00-00,cVERTICAL-00-01,cVERTICAL-00-02,cVERTICAL-00-03,cVERTICAL-00-04
cVERTICAL-00-05,cVERTICAL-00-06,cVERTICAL-01-00,cVERTICAL-01-01,cVERTICAL-01-02,cVERTICAL-01-03
cVERTICAL-01-04,cVERTICAL-01-05,cVERTICAL-01-06,cVERTICAL-02-00,cVERTICAL-02-01,cVERTICAL-02-02
cVERTICAL-02-03,cVERTICAL-02-04,cVERTICAL-02-05,cVERTICAL-02-06,cVERTICAL-03-00,cVERTICAL-03-01
cVERTICAL-03-02,cVERTICAL-03-03,cVERTICAL-03-04,cVERTICAL-03-05,cVERTICAL-03-06,cVERTICAL-04-00
cVERTICAL-04-01,cVERTICAL-04-02,cVERTICAL-04-03,cVERTICAL-04-04,cVERTICAL-04-05,cVERTICAL-04-06
cVERTICAL-05-00,cVERTICAL-05-01,cVERTICAL-05-02,cVERTICAL-05-03,cVERTICAL-05-04,cVERTICAL-05-05
cVERTICAL-05-06,cVERTICAL-06-00,cVERTICAL-06-01,cVERTICAL-06-02,cVERTICAL-06-03,cVERTICAL-06-04
cVERTICAL-06-05,cVERTICAL-06-06,12,aPLAYING CARD BACK,cACE OF SPADES,cTWOc,cTHREEc,cFOURc,cFIVEc
cSIXc,cSEVENc,cEIGHTc,cNINEc,cTENc,cJACKc,cKNIGHTc,cQUEENc,cKINGc,2,cACE OF HEARTS,cTWOc,cTHREEc
cFOURc,cFIVEc,cSIXc,cSEVENc,cEIGHTc,cNINEc,cTENc,cJACKc,cKNIGHTc,cQUEENc,cKINGc,cRED JOKER,1
cACE OF DIAMONDS,cTWOc,cTHREEc,cFOURc,cFIVEc,cSIXc,cSEVENc,cEIGHTc,cNINEc,cTENc,cJACKc,cKNIGHTc
cQUEENc,cKINGc,cBLACK JOKER,1,cACE OF CLUBS,cTWOc,cTHREEc,cFOURc,cFIVEc,cSIXc,cSEVENc,cEIGHTc,cNINEc
cTENc,cJACKc,cKNIGHTc,cQUEENc,cKINGc,cWHITE JOKER,cFOOL,cTRUMP-1,cTRUMP-2,cTRUMP-3,cTRUMP-4,cTRUMP-5
cTRUMP-6,cTRUMP-7,cTRUMP-8,cTRUMP-9,cTRUMP-10,cTRUMP-11,cTRUMP-12,cTRUMP-13,cTRUMP-14,cTRUMP-15
cTRUMP-16,cTRUMP-17,cTRUMP-18,cTRUMP-19,cTRUMP-20,cTRUMP-21,10,aDIGIT ZERO FULL STOP,cCOMMA,bONEb
bTWOb,bTHREEb,bFOURb,bFIVEb,bSIXb,bSEVENb,bEIGHTb,bNINEb,aDINGBAT CIRCLED SANS-SERIF DIGIT ZERO
bNEGATIVEe,aCIRCLED ZERO WITH SLASH,bANTICLOCKWISE ARROW,bDOLLAR SIGN WITH OVERLAID BACKSLASH
aPARENTHESIZED LATIN CAPITAL LETTER A,eB,eC,eD,eE,eF,eG,eH,eI,eJ,eK,eL,eM,eN,eO,eP,eQ,eR,eS,eT,eU,eV
eW,eX,eY,eZ,aTORTOISE SHELL BRACKETED LATIN CAPITAL LETTER S,aCIRCLED ITALIC LATIN CAPITAL LETTER C
fR,bCD,bWZ,aCOPYLEFT SYMBOL,aSQUARED LATIN CAPITAL LETTER A,eB,eC,eD,eE,eF,eG,eH,eI,eJ,eK,eL,eM,eN
eO,eP,eQ,eR,eS,eT,eU,eV,eW,eX,eY,eZ,bHV,bMV,bSD,bSS,bPPV,bWC
aNEGATIVE CIRCLED LATIN CAPITAL LETTER A,fB,fC,fD,fE,fF,fG,fH,fI,fJ,fK,fL,fM,fN,fO,fP,fQ,fR,fS,fT,fU
fV,fW,fX,fY,fZ,aRAISED MC SIGN,bMDb,bMRb,aCIRCLED CC,bC WITH OVERLAID BACKSLASH,bHUMAN FIGURE
aNEGATIVE SQUARED LATIN CAPITAL LETTER A,fB,fC,fD,fE,fF,fG,fH,fI,fJ,fK,fL,fM,fN,fO,fP,fQ,fR,fS,fT,fU
fV,fW,fX,fY,fZ,aCROSSED NEGATIVE SQUARED LATIN CAPITAL LETTER P,aNEGATIVE SQUARED IC,cPA,cSA,cAB,cWC
aSQUARE DJ,aSQUARED CL,bCOOL,bFREE,bID,bNEW,bNG,bOK,bSOS,bUP WITH EXCLAMATION MARK,bVS,bTHREE D
bSECOND SCREEN,bTWO K,bFOURb,bEIGHTb,bFIVE POINT ONE,bSEVENc,bTWENTY-TWO POINT TWO,bSIXTY P
bONE HUNDRED TWENTYb,bLATIN SMALL LETTER D,bHC,bHDR,bHI-RES,bLOSSLESS,bSHV,bUHD,bVOD
aMASK WORK SYMBOL,56,aREGIONAL INDICATOR SYMBOL LETTER A,eB,eC,eD,eE,eF,eG,eH,eI,eJ,eK,eL,eM,eN,eO
eP,eQ,eR,eS,eT,eU,eV,eW,eX,eY,eZ,aSQUARE HIRAGANA HOKA,aSQUARED KATAKANA KOKO,cSA,13
bCJK UNIFIED IDEOGRAPH-624B,dIDEOGRAPH-5B57,dIDEOGRAPH-53CC,bKATAKANA DE,bCJK UNIFIED IDEOGRAPH-4E8C
dIDEOGRAPH-591A,dIDEOGRAPH-89E3,dIDEOGRAPH-5929,dIDEOGRAPH-4EA4,dIDEOGRAPH-6620,dIDEOGRAPH-7121
dIDEOGRAPH-6599,dIDEOGRAPH-524D,dIDEOGRAPH-5F8C,dIDEOGRAPH-518D,dIDEOGRAPH-65B0,dIDEOGRAPH-521D
dIDEOGRAPH-7D42,dIDEOGRAPH-751F,dIDEOGRAPH-8CA9,dIDEOGRAPH-58F0,dIDEOGRAPH-5439,dIDEOGRAPH-6F14
dIDEOGRAPH-6295,dIDEOGRAPH-6355,dIDEOGRAPH-4E00,dIDEOGRAPH-4E09,dIDEOGRAPH-904A,dIDEOGRAPH-5DE6
dIDEOGRAPH-4E2D,dIDEOGRAPH-53F3,dIDEOGRAPH-6307,dIDEOGRAPH-8D70,dIDEOGRAPH-6253,dIDEOGRAPH-7981
dIDEOGRAPH-7A7A,dIDEOGRAPH-5408,dIDEOGRAPH-6E80,dIDEOGRAPH-6709,dIDEOGRAPH-6708,dIDEOGRAPH-7533
dIDEOGRAPH-5272,dIDEOGRAPH-55B6,dIDEOGRAPH-914D,4
aTORTOISE SHELL BRACKETED CJK UNIFIED IDEOGRAPH-672C,fIDEOGRAPH-4E09,fIDEOGRAPH-4E8C,fIDEOGRAPH-5B89
fIDEOGRAPH-70B9,fIDEOGRAPH-6253,fIDEOGRAPH-76D7,fIDEOGRAPH-52DD,fIDEOGRAPH-6557,7
aCIRCLED IDEOGRAPH ADVANTAGE,cACCEPT,14,aROUNDED SYMBOL FOR FU,dLU,dSHOU,dXI,dSHUANGXI,dCAI,154
aCYCLONE,aFOGGY,aCLOSED UMBRELLA,aNIGHT WITH STARS,aSUNRISE OVER MOUNTAINS,b,aCITYSCAPE AT DUSK
aSUNSET OVER BUILDINGS,aRAINBOW,aBRIDGE AT NIGHT,aWATER WAVE,aVOLCANO,aMILKY WAY
aEARTH GLOBE EUROPE-AFRICA,cAMERICAS,cASIA-AUSTRALIA,aGLOBE WITH MERIDIANS,aNEW MOON SYMBOL
aWAXING CRESCENTc,aFIRST QUARTERc,aWAXING GIBBOUSc,aFULLc,aWANING GIBBOUSc,aLAST QUARTERc
aWANING CRESCENTc,aCRESCENT MOON,aNEW MOON WITH FACE,aFIRST QUARTERd,aLASTe,aFULLd,aSUNc
aGLOWING STAR,aSHOOTINGb,aTHERMOMETER,aBLACK DROPLET,aWHITE SUN,cWITH SMALL CLOUD,cBEHINDb
eWITH RAIN,ad,cSNOW,cLIGHTNING,cTORNADO,aFOG,aWIND BLOWING FACE,aHOT DOG,aTACO,aBURRITO,aCHESTNUT
aSEEDLING,aEVERGREEN TREE,aDECIDUOUSb,aPALMb,aCACTUS,aHOT PEPPER,aTULIP,aCHERRY BLOSSOM,aROSE
aHIBISCUS,aSUNFLOWER,aBLOSSOM,aEAR OF MAIZE,cRICE,aHERB,aFOUR LEAF CLOVER,aMAPLE LEAF,aFALLENb
aLEAF FLUTTERING IN WIND,aMUSHROOM,aTOMATO,aAUBERGINE,aGRAPES,aMELON,aWATERMELON,aTANGERINE,aLEMON
aBANANA,aPINEAPPLE,aRED APPLE,aGREENb,aPEAR,aPEACH,aCHERRIES,aSTRAWBERRY,aHAMBURGER,aSLICE OF PIZZA
aMEAT ON BONE,aPOULTRY LEG,aRICE CRACKER,bBALL,aCOOKED RICE,aCURRY ANDb,aSTEAMING BOWL,aSPAGHETTI
aBREAD,aFRENCH FRIES,aROASTED SWEET POTATO,aDANGO,aODEN,aSUSHI,aFRIED SHRIMP
aFISH CAKE WITH SWIRL DESIGN,aSOFT ICE CREAM,aSHAVED ICE,aICE CREAM,aDOUGHNUT,aCOOKIE,aCHOCOLATE BAR
aCANDY,aLOLLIPOP,aCUSTARD,aHONEY POT,aSHORTCAKE,aBENTO BOX,aPOT OF FOOD,aCOOKING,aFORK AND KNIFE
aTEACUP WITHOUT HANDLE,aSAKE BOTTLE AND CUP,aWINE GLASS,aCOCKTAILb,aTROPICAL DRINK,aBEER MUG
aCLINKING BEER MUGS,aBABY BOTTLE,aFORK AND KNIFE WITH PLATE,aBOTTLE WITH POPPING CORK,aPOPCORN
aRIBBON,aWRAPPED PRESENT,aBIRTHDAY CAKE,aJACK-O-LANTERN,aCHRISTMAS TREE,aFATHER CHRISTMAS,aFIREWORKS
aFIREWORK SPARKLER,aBALLOON,aPARTY POPPER,aCONFETTI BALL,aTANABATA TREE,aCROSSED FLAGS
aPINE DECORATION,aJAPANESE DOLLS,aCARP STREAMER,aWIND CHIME,aMOON VIEWING CEREMONY,aSCHOOL SATCHEL
aGRADUATION CAP,aHEART WITH TIP ON THE LEFT,aBOUQUET OF FLOWERS,aMILITARY MEDAL,aREMINDER RIBBON
aMUSICAL KEYBOARD WITH JACKS,aSTUDIO MICROPHONE,aLEVEL SLIDER,aCONTROL KNOBS
aBEAMED ASCENDING MUSICAL NOTES,bDESCENDINGc,aFILM FRAMES,aADMISSION TICKETS,aCAROUSEL HORSE
aFERRIS WHEEL,aROLLER COASTER,aFISHING POLE AND FISH,aMICROPHONE,aMOVIE CAMERA,aCINEMA,aHEADPHONE
aARTIST PALETTE,aTOP HAT,aCIRCUS TENT,aTICKET,aCLAPPER BOARD,aPERFORMING ARTS,aVIDEO GAME
aDIRECT HIT,aSLOT MACHINE,aBILLIARDS,aGAME DIE,aBOWLING,aFLOWER PLAYING CARDS,aMUSICAL NOTE
aMULTIPLE MUSICAL NOTES,aSAXOPHONE,aGUITAR,aMUSICAL KEYBOARD,aTRUMPET,aVIOLIN,aMUSICAL SCORE
aRUNNING SHIRT WITH SASH,aTENNIS RACQUET AND BALL,aSKI AND SKI BOOT,aBASKETBALL AND HOOP
aCHEQUERED FLAG,aSNOWBOARDER,aRUNNER,aSURFER,aSPORTS MEDAL,aTROPHY,aHORSE RACING,aAMERICAN FOOTBALL
aRUGBYb,aSWIMMER,aWEIGHT LIFTER,aGOLFER,aRACING MOTORCYCLE,bCAR,aCRICKET BAT AND BALL,aVOLLEYBALL
aFIELD HOCKEY STICK AND BALL,aICE HOCKEY STICK AND PUCK,aTABLE TENNIS PADDLE AND BALL
aSNOW CAPPED MOUNTAIN,aCAMPING,aBEACH WITH UMBRELLA,aBUILDING CONSTRUCTION,aHOUSE BUILDINGS
aCITYSCAPE,aDERELICT HOUSE BUILDING,aCLASSICALb,aDESERT,bISLAND,aNATIONAL PARK,aSTADIUM
aHOUSE BUILDING,bWITH GARDEN,aOFFICE BUILDING,aJAPANESE POST OFFICE,aEUROPEANc,aHOSPITAL,aBANK
aAUTOMATED TELLER MACHINE,aHOTEL,aLOVEb,aCONVENIENCE STORE,aSCHOOL,aDEPARTMENT STORE,aFACTORY
aIZAKAYA LANTERN,aJAPANESE CASTLE,aEUROPEANb,aWHITE PENNANT,aBLACKb,aWAVING WHITE FLAG,bBLACKb
aROSETTE,aBLACKb,aLABEL,aBADMINTON RACQUET AND SHUTTLECOCK,aBOW AND ARROW,aAMPHORA
aEMOJI MODIFIER FITZPATRICK TYPE-1-2,dTYPE-3,dTYPE-4,dTYPE-5,dTYPE-6,aRAT,aMOUSE,aOX,aWATER BUFFALO
aCOW,aTIGER,aLEOPARD,aRABBIT,aCAT,aDRAGON,aCROCODILE,aWHALE,aSNAIL,aSNAKE,aHORSE,aRAM,aGOAT,aSHEEP
aMONKEY,aROOSTER,aCHICKEN,aDOG,aPIG,aBOAR,aELEPHANT,aOCTOPUS,aSPIRAL SHELL,aBUG,aANT,aHONEYBEE
aLADY BEETLE,aFISH,aTROPICALb,aBLOWFISH,aTURTLE,aHATCHING CHICK,aBABYb,aFRONT-FACINGc,aBIRD,aPENGUIN
aKOALA,aPOODLE,aDROMEDARY CAMEL,aBACTRIANb,aDOLPHIN,aMOUSE FACE,aCOWb,aTIGERb,aRABBITb,aCATb
aDRAGONb,aSPOUTING WHALE,aHORSE FACE,aMONKEYb,aDOGb,aPIGb,aFROGb,aHAMSTERb,aWOLFb,aBEARb,aPANDAb
aPIG NOSE,aPAW PRINTS,aCHIPMUNK,aEYES,aEYE,aEAR,aNOSE,aMOUTH,aTONGUE
aWHITE UP POINTING BACKHAND INDEX,bDOWNd,bLEFTd,bRIGHTd,aFISTED HAND SIGN,aWAVINGc,aOKc,aTHUMBS UPb
bDOWNb,aCLAPPING HANDSb,aOPENc,aCROWN,aWOMANS HAT,aEYEGLASSES,aNECKTIE,aT-SHIRT,aJEANS,aDRESS
aKIMONO,aBIKINI,aWOMANS CLOTHES,aPURSE,aHANDBAG,aPOUCH,aMANS SHOE,aATHLETICb,aHIGH-HEELEDb
aWOMANS SANDAL,bBOOTS,aFOOTPRINTS,aBUST IN SILHOUETTE,aBUSTSc,aBOY,aGIRL,aMAN,aWOMAN,aFAMILY
aMAN AND WOMAN HOLDING HANDS,aTWO MENc,bWOMENc,aPOLICE OFFICER,aWOMAN WITH BUNNY EARS
aBRIDE WITH VEIL,aPERSON WITH BLOND HAIR,aMAN WITH GUA PI MAO,cTURBAN,aOLDER MAN,bWOMAN,aBABY
aCONSTRUCTION WORKER,aPRINCESS,aJAPANESE OGRE,bGOBLIN,aGHOST,aBABY ANGEL,aEXTRATERRESTRIAL ALIEN
aALIEN MONSTER,aIMP,aSKULL,aINFORMATION DESK PERSON,aGUARDSMAN,aDANCER,aLIPSTICK,aNAIL POLISH
aFACE MASSAGE,aHAIRCUT,aBARBER POLE,aSYRINGE,aPILL,aKISS MARK,aLOVE LETTER,aRING,aGEM STONE,aKISS
aBOUQUET,aCOUPLE WITH HEART,aWEDDING,aBEATING HEART,aBROKENb,aTWO HEARTS,aSPARKLING HEART,aGROWINGb
aHEART WITH ARROW,aBLUE HEART,aGREENb,aYELLOWb,aPURPLEb,aHEART WITH RIBBON,aREVOLVING HEARTS
aHEART DECORATION,aDIAMOND SHAPE WITH A DOT INSIDE,aELECTRIC LIGHT BULB,aANGER SYMBOL,aBOMB
aSLEEPING SYMBOL,aCOLLISIONb,aSPLASHING SWEATb,aDROPLET,aDASH SYMBOL,aPILE OF POO,aFLEXED BICEPS
aDIZZY SYMBOL,aSPEECH BALLOON,aTHOUGHTb,aWHITE FLOWER,aHUNDRED POINTS SYMBOL,aMONEY BAG
aCURRENCY EXCHANGE,aHEAVY DOLLAR SIGN,aCREDIT CARD,aBANKNOTE WITH YEN SIGN,cDOLLARb,cEUROb,cPOUNDb
aMONEY WITH WINGS,aCHART WITH UPWARDS TREND AND YEN SIGN,aSEAT,aPERSONAL COMPUTER,aBRIEFCASE
aMINIDISC,aFLOPPY DISK,aOPTICAL DISC,aDVD,aFILE FOLDER,aOPENc,aPAGE WITH CURL,bFACING UP,aCALENDAR
aTEAR-OFFb,aCARD INDEX,aCHART WITH UPWARDS TREND,cDOWNWARDSb,aBAR CHART,aCLIPBOARD,aPUSHPIN,aROUNDb
aPAPERCLIP,aSTRAIGHT RULER,aTRIANGULARb,aBOOKMARK TABS,aLEDGER,aNOTEBOOK,bWITH DECORATIVE COVER
aCLOSED BOOK,aOPENb,aGREENb,aBLUEb,aORANGEb,aBOOKS,aNAME BADGE,aSCROLL,aMEMO,aTELEPHONE RECEIVER
aPAGER,aFAX MACHINE,aSATELLITE ANTENNA,aPUBLIC ADDRESS LOUDSPEAKER,aCHEERING MEGAPHONE,aOUTBOX TRAY
aINBOXb,aPACKAGE,aE-MAIL SYMBOL,aINCOMING ENVELOPE,aENVELOPE WITH DOWNWARDS ARROW ABOVE
aCLOSED MAILBOX WITH LOWERED FLAG,dRAISEDb,aOPENe,dLOWEREDb,aPOSTBOX,aPOSTAL HORN,aNEWSPAPER
aMOBILE PHONE,cWITH RIGHTWARDS ARROW AT LEFT,aVIBRATION MODE,aMOBILE PHONE OFF,aNO MOBILE PHONES
aANTENNA WITH BARS,aCAMERA,bWITH FLASH,aVIDEO CAMERA,aTELEVISION,aRADIO,aVIDEOCASSETTE
aFILM PROJECTOR,aPORTABLE STEREO,aPRAYER BEADS,aTWISTED RIGHTWARDS ARROWS
aCLOCKWISE RIGHTWARDS AND LEFTWARDS OPEN CIRCLEb,hWITH CIRCLED ONE OVERLAY
bDOWNWARDS AND UPWARDS OPEN CIRCLE ARROWS,aANTICLOCKWISEg,aLOW BRIGHTNESS SYMBOL,aHIGHc
aSPEAKER WITH CANCELLATION STROKE,b,bWITH ONE SOUND WAVE,cTHREE SOUND WAVES,aBATTERY,aELECTRIC PLUG
aLEFT-POINTING MAGNIFYING GLASS,aRIGHT-POINTINGc,aLOCK WITH INK PEN,aCLOSED LOCK WITH KEY,ab,aLOCK
aOPENb,aBELL,bWITH CANCELLATION STROKE,aBOOKMARK,aLINK SYMBOL,aRADIO BUTTON
aBACK WITH LEFTWARDS ARROW ABOVE,aENDe,aON WITH EXCLAMATION MARK WITH LEFT RIGHTc
aSOON WITH RIGHTWARDSc,aTOP WITH UPWARDSc,aNO ONE UNDER EIGHTEEN SYMBOL,aKEYCAP TEN
aINPUT SYMBOL FOR LATIN CAPITAL LETTERS,eSMALLb,dNUMBERS,dSYMBOLS,dLATIN LETTERS,aFIRE
aELECTRIC TORCH,aWRENCH,aHAMMER,aNUT AND BOLT,aHOCHO,aPISTOL,aMICROSCOPE,aTELESCOPE,aCRYSTAL BALL
aSIX POINTED STAR WITH MIDDLE DOT,aJAPANESE SYMBOL FOR BEGINNER,aTRIDENT EMBLEM,aBLACK SQUARE BUTTON
aWHITEc,aLARGE RED CIRCLE,bBLUEb,bORANGE DIAMOND,bBLUEb,aSMALL ORANGEb,bBLUEb
aUP-POINTING RED TRIANGLE,aDOWN-POINTINGc,aUP-POINTING SMALLc,aDOWN-POINTINGd
aLOWER RIGHT SHADOWED WHITE CIRCLE,aUPPERe,aCIRCLED CROSS POMMEE
aCROSS POMMEE WITH HALF-CIRCLE BELOW,c,aNOTCHED LEFT SEMICIRCLE WITH THREE DOTS,bRIGHTe
aSYMBOL FOR MARKS CHAPTER,aWHITE LATIN CROSS,aHEAVYc,aCELTICb,aOM SYMBOL,aDOVE OF PEACE,aKAABA
aMOSQUE,aSYNAGOGUE,aMENORAH WITH NINE BRANCHES,aBOWL OF HYGIEIA,aCLOCK FACE ONE OCLOCK,cTWOb,cTHREEb
cFOURb,cFIVEb,cSIXb,cSEVENb,cEIGHTb,cNINEb,cTENb,cELEVENb,cTWELVEb,cONE-THIRTY,cTWO-THIRTY
cTHREE-THIRTY,cFOUR-THIRTY,cFIVE-THIRTY,cSIX-THIRTY,cSEVEN-THIRTY,cEIGHT-THIRTY,cNINE-THIRTY
cTEN-THIRTY,cELEVEN-THIRTY,cTWELVE-THIRTY,aRIGHT SPEAKER,cWITH ONE SOUND WAVE,dTHREE SOUND WAVES
aBULLHORN,bWITH SOUND WAVES,aRINGING BELL,aBOOK,aCANDLE,aMANTELPIECE CLOCK
aBLACK SKULL AND CROSSBONES,aNO PIRACY,aHOLE,aMAN IN BUSINESS SUIT LEVITATING,aSLEUTH OR SPY
aDARK SUNGLASSES,aSPIDER,bWEB,aJOYSTICK,aMAN DANCING,aLEFT HAND TELEPHONE RECEIVER
aTELEPHONE RECEIVER WITH PAGE,aRIGHT HAND TELEPHONE RECEIVER,aWHITE TOUCHTONE TELEPHONE,aBLACKc
aTELEPHONE ON TOP OF MODEM,aCLAMSHELL MOBILE PHONE,aBACK OF ENVELOPE,aSTAMPEDb
aENVELOPE WITH LIGHTNING,aFLYING ENVELOPE,aPEN OVER STAMPEDb,aLINKED PAPERCLIPS,aBLACK PUSHPIN
aLOWER LEFT PENCIL,cBALLPOINT PEN,cFOUNTAINb,cPAINTBRUSH,cCRAYON,aLEFT WRITING HAND
aTURNED OK HAND SIGN,aRAISED HAND WITH FINGERS SPLAYED,aREVERSEDf,bTHUMBS UP SIGN,cDOWNb
bVICTORY HAND,bHAND WITH MIDDLE FINGER EXTENDED
aRAISED HAND WITH PART BETWEEN MIDDLE AND RING FINGERS,aWHITE DOWN POINTING LEFT HAND INDEX
aSIDEWAYS WHITE LEFT POINTINGb,cRIGHTc,bBLACK LEFTc,cRIGHTc,aBLACK LEFT POINTING BACKHANDb,bRIGHTd
aSIDEWAYS WHITE UP POINTINGb,cDOWNc,bBLACK UPc,cDOWNc,aBLACK UP POINTING BACKHANDb,bDOWNd,bHEART
aDESKTOP COMPUTER,aKEYBOARD AND MOUSE,aTHREE NETWORKED COMPUTERS,aPRINTER,aPOCKET CALCULATOR
aBLACK HARD SHELL FLOPPY DISK,aWHITEe,aSOFTd,aTAPE CARTRIDGE,aWIRED KEYBOARD,aONE BUTTON MOUSE,aTWOc
aTHREEc,aTRACKBALL,aOLD PERSONAL COMPUTER,aHARD DISK,aSCREEN,aPRINTER ICON,aFAXb,aOPTICAL DISCb
aDOCUMENT WITH TEXT,dAND PICTURE,cb,aFRAMEc,cTILES,cAN X,aBLACK FOLDER,ab,aOPENb
aCARD INDEX DIVIDERS,bFILE BOX,aFILE CABINET,aEMPTY NOTE,cPAGE,cPAD,aNOTE,bPAGE,bPAD,aEMPTY DOCUMENT
bPAGE,bPAGES,aDOCUMENT,aPAGE,aPAGES,aWASTEBASKET,aSPIRAL NOTE PAD,bCALENDARb,aDESKTOP WINDOW
aMINIMIZE,aMAXIMIZE,aOVERLAP,aCLOCKWISE RIGHT AND LEFT SEMICIRCLE ARROWS,aCANCELLATION X
aINCREASE FONT SIZE SYMBOL,aDECREASEd,aCOMPRESSION,aOLD KEY,aROLLED-UP NEWSPAPER
aPAGE WITH CIRCLED TEXT,aSTOCK CHART,aDAGGER KNIFE,aLIPS,aSPEAKING HEAD IN SILHOUETTE
aTHREE RAYS ABOVE,cBELOW,cLEFT,cRIGHT,aLEFT SPEECH BUBBLE,aRIGHTc,aTWO SPEECH BUBBLES,aTHREEc
aLEFT THOUGHT BUBBLE,aRIGHTc,aLEFT ANGERb,aRIGHTc,aMOODb,aLIGHTNINGc,c,aBALLOT BOX WITH BALLOT
bSCRIPT X,bBOX WITHc,bBOLDc,bBOX WITHd,aLIGHT CHECK MARK,aBALLOT BOX WITH BOLD CHECK,aWORLD MAP
aMOUNT FUJI,aTOKYO TOWER,aSTATUE OF LIBERTY,aSILHOUETTE OF JAPAN,aMOYAI,aGRINNING FACE
cWITH SMILING EYES,aFACE WITH TEARS OF JOY,aSMILING FACE WITH OPEN MOUTH,fAND SMILING EYES
gCOLD SWEAT,gTIGHTLY-CLOSED EYES,dHALO,dHORNS,aWINKING FACE,aSMILING FACE WITH SMILING EYES
aFACE SAVOURING DELICIOUS FOOD,aRELIEVED FACE,aSMILING FACE WITH HEART-SHAPED EYES,dSUNGLASSES
aSMIRKING FACE,aNEUTRALb,aEXPRESSIONLESSb,aUNAMUSEDb,aFACE WITH COLD SWEAT,aPENSIVE FACE,aCONFUSEDb
aCONFOUNDEDb,aKISSINGb,aFACE THROWING A KISS,aKISSING FACE WITH SMILING EYES,dCLOSEDb
aFACE WITH STUCK-OUT TONGUE,eAND WINKING EYE,fTIGHTLY-CLOSED EYES,aDISAPPOINTED FACE,aWORRIEDb
aANGRYb,aPOUTINGb,aCRYINGb,aPERSEVERINGb,aFACE WITH LOOK OF TRIUMPH,aDISAPPOINTED BUT RELIEVED FACE
aFROWNING FACE WITH OPEN MOUTH,aANGUISHED FACE,aFEARFULb,aWEARYb,aSLEEPYb,aTIREDb,aGRIMACINGb
aLOUDLY CRYINGb,aFACE WITH OPEN MOUTH,aHUSHED FACE,aFACE WITH OPEN MOUTH AND COLD SWEAT
bSCREAMING IN FEAR,aASTONISHED FACE,aFLUSHEDb,aSLEEPINGb,aDIZZYb,aFACE WITHOUT MOUTH
bWITH MEDICAL MASK,aGRINNING CAT FACE WITH SMILING EYES,aCAT FACE WITH TEARS OF JOY
aSMILING CAT FACE WITH OPEN MOUTH,eHEART-SHAPED EYES,aCAT FACE WITH WRY SMILE
aKISSING CAT FACE WITH CLOSED EYES,aPOUTING CAT FACE,aCRYINGc,aWEARYc,aSLIGHTLY FROWNINGb,bSMILINGb
aUPSIDE-DOWNb,aFACE WITH ROLLING EYES,cNO GOOD GESTURE,cOKb,aPERSON BOWING DEEPLY
aSEE-NO-EVIL MONKEY,aHEAR-NO-EVILb,aSPEAK-NO-EVILb,aHAPPY PERSON RAISING ONE HAND
aPERSON RAISING BOTH HANDS IN CELEBRATION,bFROWNING,bWITH POUTING FACE,cFOLDED HANDS
aNORTH WEST POINTING LEAF,aSOUTHd,aNORTH EASTc,aSOUTHd,aTURNED NORTH WESTc,bSOUTHd,bNORTH EASTc
bSOUTHd,aNORTH WEST POINTING VINEb,aSOUTHe,aNORTH EASTd,aSOUTHe,aHEAVY NORTH WESTd,bSOUTHe
bNORTH EASTd,bSOUTHe,aNORTH WEST POINTING BUD,aSOUTHd,aNORTH EASTc,aSOUTHd,aHEAVY NORTH WESTc
bSOUTHd,bNORTH EASTc,bSOUTHd,aHOLLOW QUILT SQUARE ORNAMENT,eIN BLACK SQUARE
aSOLID QUILT SQUARE ORNAMENT,eIN BLACK SQUARE,aLEFTWARDS ROCKET,aUPWARDSb,aRIGHTWARDSb,aDOWNWARDSb
aSCRIPT LIGATURE ET ORNAMENT,aHEAVYe,aLIGATURE OPENc,aHEAVYe,bAMPERSANDb,aSWASHc
aSANS-SERIF HEAVY DOUBLE TURNED COMMA QUOTATION MARKb,de,cLOWf,aHEAVY INTERROBANGb,aSANS-SERIFc
aHEAVYd,aVERY HEAVY SOLIDUS,cREVERSEb,aCHECKER BOARD,aREVERSEc,aROCKET,aHELICOPTER,aSTEAM LOCOMOTIVE
aRAILWAY CAR,aHIGH-SPEED TRAIN,cWITH BULLET NOSE,aTRAIN,aMETRO,aLIGHT RAIL,aSTATION,aTRAM,bCAR,aBUS
aONCOMINGb,aTROLLEYBUS,aBUS STOP,aMINIBUS,aAMBULANCE,aFIRE ENGINE,aPOLICE CAR,aONCOMINGc,aTAXI
aONCOMINGb,aAUTOMOBILE,aONCOMINGb,aRECREATIONAL VEHICLE,aDELIVERY TRUCK,aARTICULATED LORRY,aTRACTOR
aMONORAIL,aMOUNTAIN RAILWAY,aSUSPENSIONb,aMOUNTAIN CABLEWAY,aAERIAL TRAMWAY,aSHIP,aROWBOAT
aSPEEDBOAT,aHORIZONTAL TRAFFIC LIGHT,aVERTICALc,aCONSTRUCTION SIGN,aPOLICE CARS REVOLVING LIGHT
aTRIANGULAR FLAG ON POST,aDOOR,aNO ENTRY SIGN,aSMOKING SYMBOL,aNOc,aPUT LITTER IN ITS PLACEb
aDO NOT LITTERb,aPOTABLE WATERb,aNON-POTABLEc,aBICYCLE,aNO BICYCLES,aBICYCLIST,aMOUNTAINb
aPEDESTRIAN,aNO PEDESTRIANS,aCHILDREN CROSSING,aMENS SYMBOL,aWOMENSb,aRESTROOM,aBABY SYMBOL,aTOILET
aWATER CLOSET,aSHOWER,aBATH,aBATHTUB,aPASSPORT CONTROL,aCUSTOMS,aBAGGAGE CLAIM,aLEFT LUGGAGE
aTRIANGLE WITH ROUNDED CORNERS,aPROHIBITED SIGN,aCIRCLED INFORMATION SOURCE,aBOYS SYMBOL,aGIRLSb
aCOUCH AND LAMP,aSLEEPING ACCOMMODATION,aSHOPPING BAGS,aBELLHOP BELL,aBED,aPLACE OF WORSHIP
aOCTAGONAL SIGN,aSHOPPING TROLLEY,aSTUPA,aPAGODA,aHINDU TEMPLE,aHUT,aELEVATOR,5,aPLAYGROUND SLIDE
aWHEEL,aRING BUOY,aHAMMER AND WRENCH,aSHIELD,aOIL DRUM,aMOTORWAY,aRAILWAY TRACK,aMOTOR BOAT
aUP-POINTING MILITARY AIRPLANE,bb,bSMALLb,ac,aNORTHEAST-POINTINGb,aAIRPLANE DEPARTURE,bARRIVING,3
aSATELLITE,aONCOMING FIRE ENGINE,aDIESEL LOCOMOTIVE,aPASSENGER SHIP,aSCOOTER,aMOTORb,aCANOE,aSLED
aFLYING SAUCER,aSKATEBOARD,aAUTO RICKSHAW,aPICKUP TRUCK,aROLLER SKATE,3
aALCHEMICAL SYMBOL FOR QUINTESSENCE,dAIR,dFIRE,dEARTH,dWATER,dAQUAFORTIS,dAQUA REGIA,eREGIA-2,eVITAE
eVITAE-2,dVINEGAR,dVINEGAR-2,dVINEGAR-3,dSULFUR,dPHILOSOPHERSb,dBLACKb,dMERCURY SUBLIMATE
eSUBLIMATE-2,eSUBLIMATE-3,dCINNABAR,dSALT,dNITRE,dVITRIOL,dVITRIOL-2,dROCK SALT,eSALT-2,dGOLD
dSILVER,dIRON ORE,eORE-2,dCROCUS OF IRON,dREGULUSc,dCOPPER ORE,dIRON-COPPERb,dSUBLIMATE OF COPPER
dCROCUSc,fCOPPER-2,dCOPPER ANTIMONIATE,dSALT OFc,dSUBLIMATE OF SALT OF COPPER,dVERDIGRIS,dTIN ORE
dLEADb,dANTIMONYb,dSUBLIMATE OF ANTIMONY,dSALTc,dSUBLIMATE OFd,dVINEGARc,dREGULUSc,fANTIMONY-2,e
dREGULUS-2,dREGULUS-3,dREGULUS-4,dALKALI,dALKALI-2,dMARCASITE,dSAL-AMMONIAC,dARSENIC,dREALGAR
dREALGAR-2,dAURIPIGMENT,dBISMUTH ORE,dTARTAR,dTARTAR-2,dQUICK LIME,dBORAX,dBORAX-2,dBORAX-3,dALUM
dOIL,dSPIRIT,dTINCTURE,dGUM,dWAX,dPOWDER,dCALX,dTUTTY,dCAPUT MORTUUM,dSCEPTER OF JOVE,dCADUCEUS
dTRIDENT,dSTARREDb,dLODESTONE,dSOAP,dURINE,dHORSE DUNG,dASHES,dPOTb,dBRICK,dPOWDEREDb,dAMALGAM
dSTRATUM SUPER STRATUM,fSTRATUM-2,dSUBLIMATION,dPRECIPITATE,dDISTILL,dDISSOLVE,dDISSOLVE-2,dPURIFY
dPUTREFACTION,dCRUCIBLE,dCRUCIBLE-2,dCRUCIBLE-3,dCRUCIBLE-4,dCRUCIBLE-5,dALEMBIC,dBATH OF MARY
fVAPOURS,dRETORT,dHOUR,dNIGHT,dDAY-NIGHT,dMONTH,dHALF DRAM,eOUNCE,12
aBLACK LEFT-POINTING ISOSCELES RIGHT TRIANGLE,bUP-POINTINGd,bRIGHT-POINTINGd,bDOWN-POINTINGd
bSLIGHTLY SMALL CIRCLE,aMEDIUM BOLD WHITEb,ad,aHEAVYc,aVERYd,aEXTREMELYd
aWHITE CIRCLE CONTAINING BLACK SMALLb,aROUND TARGET,aBLACK TINY SQUARE,bSLIGHTLY SMALLb
aLIGHT WHITEb,aMEDIUMc,aBOLDc,aHEAVYc,aVERYd,aEXTREMELYd,aWHITE SQUARE CONTAINING BLACK VERY SMALLb
eMEDIUMb,aSQUARE TARGET,aBLACK TINY DIAMOND,bVERY SMALLb,bMEDIUMc
aWHITE DIAMOND CONTAINING BLACK VERYc,eMEDIUMb,aDIAMOND TARGET,aBLACK TINY LOZENGE,bVERY SMALLb
bMEDIUMc,aWHITE LOZENGE CONTAINING BLACKc,aTHIN GREEK CROSS,aLIGHTc,aMEDIUMc,aBOLDc,aVERYd,bHEAVYc
aEXTREMELYd,aTHIN SALTIRE,aLIGHTb,aMEDIUMb,aBOLDb,aHEAVYb,aVERYc,aEXTREMELYc
aLIGHT FIVE SPOKED ASTERISK,aMEDIUMd,aBOLDd,aHEAVYd,aVERYe,aEXTREMELYe,aLIGHT SIXc,aMEDIUMd,aBOLDd
aHEAVYd,aVERYe,aEXTREMELYe,aLIGHT EIGHTc,aMEDIUMd,aBOLDd,aHEAVYd,aVERYe
aLIGHT THREE POINTED BLACK STAR,aMEDIUMe,ae,aMEDIUM THREE POINTED PINWHEELb
aLIGHT FOUR POINTED BLACKb,aMEDIUMe,ae,aMEDIUM FOUR POINTED PINWHEELb,aREVERSE LIGHTe
aLIGHT FIVE POINTED BLACKb,aHEAVYe,aMEDIUM SIXd,aHEAVYe,aSIX POINTED PINWHEELb
aMEDIUM EIGHT POINTED BLACKb,aHEAVYe,aVERYf,aHEAVY EIGHT POINTED PINWHEELb
aLIGHT TWELVE POINTED BLACKb,aHEAVYe,dPINWHEELb,aCIRCLED TRIANGLE,aNEGATIVEc,aCIRCLED SQUARE
aNEGATIVEc,7,aLARGE ORANGE CIRCLE,bYELLOWb,bGREENb,bPURPLEb,bBROWNb,bRED SQUARE,bBLUEb,bORANGEb
bYELLOWb,bGREENb,bPURPLEb,bBROWNb,4,aHEAVY EQUALS SIGN,15
aLEFTWARDS ARROW WITH SMALL TRIANGLE ARROWHEAD,aUPWARDSf,aRIGHTWARDSf,aDOWNWARDSf
aLEFTWARDS ARROW WITH MEDIUMc,aUPWARDSf,aRIGHTWARDSf,aDOWNWARDSf,aLEFTWARDS ARROW WITH LARGEc
aUPWARDSf,aRIGHTWARDSf,aDOWNWARDSf,4,aLEFTWARDS ARROW WITH SMALL EQUILATERALb,aUPWARDSf,aRIGHTWARDSf
aDOWNWARDSf,aLEFTWARDS ARROW WITHc,aUPWARDSe,aRIGHTWARDSe,aDOWNWARDSe,aHEAVY LEFTWARDSe,bUPWARDSe
bRIGHTWARDSe,bDOWNWARDSe,bLEFTWARDS ARROW WITH LARGEc,bUPWARDSf,bRIGHTWARDSf,bDOWNWARDSf
aLEFTWARDS TRIANGLE-HEADED ARROW WITH NARROW SHAFT,aUPWARDSf,aRIGHTWARDSf,aDOWNWARDSf
aLEFTWARDS TRIANGLE-HEADED ARROW WITH MEDIUMb,aUPWARDSf,aRIGHTWARDSf,aDOWNWARDSf
aLEFTWARDS TRIANGLE-HEADED ARROW WITH BOLDb,aUPWARDSf,aRIGHTWARDSf,aDOWNWARDSf
aLEFTWARDS TRIANGLE-HEADED ARROW WITH HEAVYb,aUPWARDSf,aRIGHTWARDSf,aDOWNWARDSf
aLEFTWARDS TRIANGLE-HEADED ARROW WITH VERYc,aUPWARDSg,aRIGHTWARDSg,aDOWNWARDSg
aLEFTWARDS FINGER-POST ARROW,aUPWARDSc,aRIGHTWARDSc,aDOWNWARDSc,aLEFTWARDS SQUAREDb,aUPWARDSc
aRIGHTWARDSc,aDOWNWARDSc,aLEFTWARDS COMPRESSEDb,aUPWARDSc,aRIGHTWARDSc,aDOWNWARDSc,aLEFTWARDS HEAVYc
aUPWARDSd,aRIGHTWARDSd,aDOWNWARDSd,aLEFTWARDS HEAVYb,aUPWARDSc,aRIGHTWARDSc,aDOWNWARDSc,8
aLEFTWARDS SANS-SERIFb,aUPWARDSc,aRIGHTWARDSc,aDOWNWARDSc,aNORTH WESTc,bEASTc,aSOUTHd,bWESTc
aLEFT RIGHTc,aUP DOWNc,6,aWIDE-HEADED LEFTWARDS LIGHT BARBb,bUPWARDSd,bRIGHTWARDSd,bDOWNWARDSd
bNORTH WESTd,cEASTd,bSOUTHe,cWESTd,bLEFTWARDSc,bUPWARDSc,bRIGHTWARDSc,bDOWNWARDSc,bNORTH WESTc
cEASTc,bSOUTHd,cWESTc,bLEFTWARDS MEDIUMc,bUPWARDSd,bRIGHTWARDSd,bDOWNWARDSd,bNORTH WESTd,cEASTd
bSOUTHe,cWESTd,bLEFTWARDS HEAVYc,bUPWARDSd,bRIGHTWARDSd,bDOWNWARDSd,bNORTH WESTd,cEASTd,bSOUTHe
cWESTd,bLEFTWARDS VERYd,bUPWARDSe,bRIGHTWARDSe,bDOWNWARDSe,bNORTH WESTe,cEASTe,bSOUTHf,cWESTe,8
aLEFTWARDS TRIANGLE ARROWHEAD,aUPWARDSc,aRIGHTWARDSc,aDOWNWARDSc,aLEFTWARDS WHITE ARROW WITHINc
aUPWARDSf,aRIGHTWARDSf,aDOWNWARDSf,aLEFTWARDS ARROW WITH NOTCHED TAIL,aUPWARDSe,aRIGHTWARDSe
aDOWNWARDSe,aHEAVY ARROW SHAFT WIDTH ONE,eTWO THIRDS,eONE HALF,fTHIRD
aLEFTWARDS BOTTOM-SHADED WHITE ARROW,aRIGHTWARDS BOTTOM SHADEDc,aLEFTWARDS TOPd,aRIGHTWARDSe
aLEFTWARDS LEFT-SHADEDc,aRIGHTWARDS RIGHT-SHADEDc,aLEFTWARDSd,aRIGHTWARDS LEFT-SHADEDc
aLEFTWARDS BACK-TILTED SHADOWEDc,aRIGHTWARDSe,aLEFTWARDS FRONT-TILTEDd,aRIGHTWARDSe
aWHITE ARROW SHAFT WIDTH ONE,eTWO THIRDS,2,aARROW POINTING UPWARDS THEN NORTH WEST
cRIGHTWARDS THEN CURVING SOUTHb,78,aCIRCLED CROSS FORMEE WITH FOUR DOTS,eTWOb,d
aLEFT HALF CIRCLE WITH FOUR DOTS,eTHREEb,eTWOb,eDOT,d,aDOWNWARD FACING HOOK,cNOTCHEDb,cHOOK WITH DOT
cNOTCHEDd,aPINCHED FINGERS,aWHITE HEART,aBROWNb,aPINCHING HAND,aZIPPER-MOUTH FACE,aMONEY-MOUTHb
aFACE WITH THERMOMETER,aNERD FACE,aTHINKINGb,aFACE WITH HEAD-BANDAGE,aROBOT FACE,aHUGGINGb
aSIGN OF THE HORNS,aCALL ME HAND,aRAISED BACK OFb,aLEFT-FACING FIST,aRIGHT-FACINGb,aHANDSHAKE
aHAND WITH INDEX AND MIDDLE FINGERS CROSSED,aI LOVE YOU HAND SIGN,aFACE WITH COWBOY HAT,aCLOWN FACE
aNAUSEATEDb,aROLLING ON THE FLOOR LAUGHING,aDROOLING FACE,aLYINGb,aFACE PALM,aSNEEZING FACE
aFACE WITH ONE EYEBROW RAISED,aGRINNING FACE WITH STAR EYES,dONE LARGE AND ONE SMALL EYE
aFACE WITH FINGER COVERING CLOSED LIPS,aSERIOUS FACE WITH SYMBOLS COVERING MOUTH
aSMILING FACE WITH SMILING EYES AND HANDc,aFACE WITH OPEN MOUTH VOMITING
aSHOCKED FACE WITH EXPLODING HEAD,aPREGNANT WOMAN,aBREAST-FEEDING,aPALMS UP TOGETHER,aSELFIE,aPRINCE
aMAN IN TUXEDO,aMOTHER CHRISTMAS,aSHRUG,aPERSON DOING CARTWHEEL,aJUGGLING,aFENCER,aMODERN PENTATHLON
aWRESTLERS,aWATER POLO,aHANDBALL,aDIVING MASK,aWILTED FLOWER,aDRUM WITH DRUMSTICKS,aCLINKING GLASSES
aTUMBLER GLASS,aSPOON,aGOAL NET,aRIFLE,aFIRST PLACE MEDAL,aSECONDc,aTHIRDc,aBOXING GLOVE
aMARTIAL ARTS UNIFORM,aCURLING STONE,aLACROSSE STICK AND BALL,aSOFTBALL,aFLYING DISC,aCROISSANT
aAVOCADO,aCUCUMBER,aBACON,aPOTATO,aCARROT,aBAGUETTE BREAD,aGREEN SALAD,aSHALLOW PAN OF FOOD
aSTUFFED FLATBREAD,aEGG,aGLASS OF MILK,aPEANUTS,aKIWIFRUIT,aPANCAKES,aDUMPLING,aFORTUNE COOKIE
aTAKEOUT BOX,aCHOPSTICKS,aBOWL WITH SPOON,aCUP WITH STRAW,aCOCONUT,aBROCCOLI,aPIE,aPRETZEL
aCUT OF MEAT,aSANDWICH,aCANNED FOOD,aLEAFY GREEN,aMANGO,aMOON CAKE,aBAGEL
aSMILING FACE WITH SMILING EYES AND THREE HEARTS,aYAWNING FACE,aSMILING FACE WITH TEAR
aFACE WITH PARTY HORN AND PARTY HAT,cUNEVEN EYES AND WAVY MOUTH,aOVERHEATED FACE,aFREEZINGb,aNINJA
aDISGUISED FACE,aFACE HOLDING BACK TEARS,bWITH PLEADING EYES,aSARI,aLAB COAT,aGOGGLES,aHIKING BOOT
aFLAT SHOE,aCRAB,aLION FACE,aSCORPION,aTURKEY,aUNICORN FACE,aEAGLE,aDUCK,aBAT,aSHARK,aOWL,aFOX FACE
aBUTTERFLY,aDEER,aGORILLA,aLIZARD,aRHINOCEROS,aSHRIMP,aSQUID,aGIRAFFE FACE,aZEBRAb,aHEDGEHOG
aSAUROPOD,aT-REX,aCRICKET,aKANGAROO,aLLAMA,aPEACOCK,aHIPPOPOTAMUS,aPARROT,aRACCOON,aLOBSTER
aMOSQUITO,aMICROBE,aBADGER,aSWAN,aMAMMOTH,aDODO,aSLOTH,aOTTER,aORANGUTAN,aSKUNK,aFLAMINGO,aOYSTER
aBEAVER,aBISON,aSEAL,aGUIDE DOG,aPROBING CANE,aEMOJI COMPONENT RED HAIR,cCURLYb,cBALD,cWHITE HAIR
aBONE,aLEG,aFOOT,aTOOTH,aSUPERHERO,aSUPERVILLAIN,aSAFETY VEST,aEAR WITH HEARING AID
aMOTORIZED WHEELCHAIR,aMANUALb,aMECHANICAL ARM,bLEG,aCHEESE WEDGE,aCUPCAKE,aSALT SHAKER
aBEVERAGE BOX,aGARLIC,aONION,aFALAFEL,aWAFFLE,aBUTTER,aMATE DRINK,aICE CUBE,aBUBBLE TEA,aTROLL
aSTANDING PERSON,aKNEELINGb,aDEAFb,aFACE WITH MONOCLE,aADULT,aCHILD,aOLDER ADULT,aBEARDED PERSON
aPERSON WITH HEADSCARF,bIN STEAMY ROOM,bCLIMBING,bIN LOTUS POSITION,aMAGE,aFAIRY,aVAMPIRE,aMERPERSON
aELF,aGENIE,aZOMBIE,aBRAIN,aORANGE HEART,aBILLED CAP,aSCARF,aGLOVES,aCOAT,aSOCKS,aRED GIFT ENVELOPE
aFIRECRACKER,aJIGSAW PUZZLE PIECE,aTEST TUBE,aPETRI DISH,aDNA DOUBLE HELIX,aCOMPASS,aABACUS
aFIRE EXTINGUISHER,aTOOLBOX,aBRICK,aMAGNET,aLUGGAGE,aLOTION BOTTLE,aSPOOL OF THREAD,aBALL OF YARN
aSAFETY PIN,aTEDDY BEAR,aBROOM,aBASKET,aROLL OF PAPER,aBAR OF SOAP,aSPONGE,aRECEIPT,aNAZAR AMULET
aNEUTRAL CHESS KING,cQUEEN,cROOK,cBISHOP,cKNIGHT,cPAWN
aWHITE CHESS KNIGHT ROTATED FORTY-FIVE DEGREES,aBLACKf,aNEUTRALf,aWHITE CHESS KING ROTATED NINETYb
cQUEENd,cROOKd,cBISHOPd,cKNIGHTd,cPAWNd,aBLACK CHESS KINGd,cQUEENd,cROOKd,cBISHOPd,cKNIGHTd,cPAWNd
aNEUTRAL CHESS KINGd,cQUEENd,cROOKd,cBISHOPd,cKNIGHTd,cPAWNd
aWHITE CHESS KNIGHT ROTATED ONE HUNDRED THIRTY-FIVEb,aBLACKh,aNEUTRALh,aWHITE CHESS TURNED KING
dQUEEN,dROOK,dBISHOP,dKNIGHT,dPAWN,aBLACK CHESS TURNED KING,dQUEEN,dROOK,dBISHOP,dKNIGHT,dPAWN
aNEUTRAL CHESS TURNED KING,dQUEEN,dROOK,dBISHOP,dKNIGHT,dPAWN
aWHITE CHESS KNIGHT ROTATED TWO HUNDRED TWENTY-FIVE DEGREES,aBLACKh,aNEUTRALh
aWHITE CHESS KING ROTATED TWO HUNDRED SEVENTYb,cQUEENf,cROOKf,cBISHOPf,cKNIGHTf,cPAWNf
aBLACK CHESS KINGf,cQUEENf,cROOKf,cBISHOPf,cKNIGHTf,cPAWNf,aNEUTRAL CHESS KINGf,cQUEENf,cROOKf
cBISHOPf,cKNIGHTf,cPAWNf,aWHITE CHESS KNIGHT ROTATED THREE HUNDRED FIFTEENb,aBLACKh,aNEUTRALh
aWHITE CHESS EQUIHOPPER,aBLACKc,aNEUTRALc,aWHITE CHESS EQUIHOPPER ROTATED NINETY DEGREES,aBLACKf
aNEUTRALf,aWHITE CHESS KNIGHT-QUEEN,cKNIGHT-ROOK,cKNIGHT-BISHOP,aBLACK CHESS KNIGHT-QUEEN
cKNIGHT-ROOK,cKNIGHT-BISHOP,12,aXIANGQI RED GENERAL,cMANDARIN,cELEPHANT,cHORSE,cCHARIOT,cCANNON
cSOLDIER,bBLACK GENERAL,cMANDARIN,cELEPHANT,cHORSE,cCHARIOT,cCANNON,cSOLDIER,2,aBALLET SHOES
aONE-PIECE SWIMSUIT,aBRIEFS,aSHORTS,aTHONG SANDAL,3,aDROP OF BLOOD,aADHESIVE BANDAGE,aSTETHOSCOPE
aX-RAY,aCRUTCH,3,aYO-YO,aKITE,aPARACHUTE,aBOOMERANG,aMAGIC WAND,aPINATA,aNESTING DOLLS,9
aRINGED PLANET,aCHAIR,aRAZOR,aAXE,aDIYA LAMP,aBANJO,aMILITARY HELMET,aACCORDION,aLONG DRUM,aCOIN
aCARPENTRY SAW,aSCREWDRIVER,aLADDER,aHOOK,aMIRROR,aWINDOW,aPLUNGER,aSEWING NEEDLE,aKNOT,aBUCKET
aMOUSE TRAP,aTOOTHBRUSH,aHEADSTONE,aPLACARD,aROCK,aMIRROR BALL,aIDENTIFICATION CARD,aLOW BATTERY
aHAMSA,3,aFLY,aWORM,aBEETLE,aCOCKROACH,aPOTTED PLANT,aWOOD,aFEATHER,aLOTUS,aCORAL,aEMPTY NEST
aNEST WITH EGGS,5,aANATOMICAL HEART,aLUNGS,aPEOPLE HUGGING,aPREGNANT MAN,bPERSON,aPERSON WITH CROWN
10,aBLUEBERRIES,aBELL PEPPER,aOLIVE,aFLATBREAD,aTAMALE,aFONDUE,aTEAPOT,aPOURING LIQUID,aBEANS,aJAR,6
aMELTING FACE,aSALUTINGb,aFACE WITH OPEN EYES AND HAND OVER MOUTH,cPEEKING EYE,cDIAGONAL MOUTH
aDOTTED LINE FACE,aBITING LIP,aBUBBLES,8,aHAND WITH INDEX FINGER AND THUMB CROSSED,aRIGHTWARDS HAND
aLEFTWARDSb,aPALM DOWNb,bUPb,aINDEX POINTING AT THE VIEWER,aHEART HANDS,9,aBLOCK SEXTANT-1
bSEXTANT-2,bSEXTANT-12,bSEXTANT-3,bSEXTANT-13,bSEXTANT-23,bSEXTANT-123,bSEXTANT-4,bSEXTANT-14
bSEXTANT-24,bSEXTANT-124,bSEXTANT-34,bSEXTANT-134,bSEXTANT-234,bSEXTANT-1234,bSEXTANT-5,bSEXTANT-15
bSEXTANT-25,bSEXTANT-125,bSEXTANT-35,bSEXTANT-235,bSEXTANT-1235,bSEXTANT-45,bSEXTANT-145
bSEXTANT-245,bSEXTANT-1245,bSEXTANT-345,bSEXTANT-1345,bSEXTANT-2345,bSEXTANT-12345,bSEXTANT-6
bSEXTANT-16,bSEXTANT-26,bSEXTANT-126,bSEXTANT-36,bSEXTANT-136,bSEXTANT-236,bSEXTANT-1236,bSEXTANT-46
bSEXTANT-146,bSEXTANT-1246,bSEXTANT-346,bSEXTANT-1346,bSEXTANT-2346,bSEXTANT-12346,bSEXTANT-56
bSEXTANT-156,bSEXTANT-256,bSEXTANT-1256,bSEXTANT-356,bSEXTANT-1356,bSEXTANT-2356,bSEXTANT-12356
bSEXTANT-456,bSEXTANT-1456,bSEXTANT-2456,bSEXTANT-12456,bSEXTANT-3456,bSEXTANT-13456,bSEXTANT-23456
aLOWER LEFT BLOCK DIAGONAL LOWER MIDDLE LEFT TO LOWER CENTRE,jRIGHT
eUPPER MIDDLE LEFT TO LOWER CENTRE,jRIGHT,fLEFT TO LOWER CENTRE
bRIGHT BLOCK DIAGONAL UPPER MIDDLE LEFT TO UPPERb,jRIGHT,eLOWER MIDDLE LEFT TO UPPER CENTRE,jRIGHT
fLEFT TO UPPER CENTRE,fMIDDLE LEFT TO UPPER MIDDLE RIGHT,fCENTRE TO LOWERc,fLEFTe,fCENTRE TO UPPERc
fLEFTe,fCENTRE TO UPPERb,bLEFT BLOCK DIAGONAL UPPER CENTRE TO UPPER MIDDLEb,fLEFTe,fCENTRE TO LOWERc
fLEFTe,fCENTRE TO LOWERb,fMIDDLE LEFT TO LOWER MIDDLEb
aUPPER RIGHT BLOCK DIAGONAL LOWER MIDDLE LEFT TO LOWER CENTRE,jRIGHT
eUPPER MIDDLE LEFT TO LOWER CENTRE,jRIGHT,fLEFT TO LOWER CENTRE
bLEFT BLOCK DIAGONAL UPPER MIDDLE LEFT TO UPPERb,jRIGHT,eLOWER MIDDLE LEFT TO UPPER CENTRE,jRIGHT
fLEFT TO UPPER CENTRE,fMIDDLE LEFT TO UPPER MIDDLE RIGHT,fCENTRE TO LOWERc,fLEFTe,fCENTRE TO UPPERc
fLEFTe,fCENTRE TO UPPERb,bRIGHT BLOCK DIAGONAL UPPER CENTRE TO UPPER MIDDLEb,fLEFTe
fCENTRE TO LOWERc,fLEFTe,fCENTRE TO LOWERb,fMIDDLE LEFT TO LOWER MIDDLEb
bAND RIGHT AND LOWER TRIANGULAR THREE QUARTERS BLOCK,aLEFT AND LOWER AND RIGHTe
aUPPER AND LEFT AND LOWERe,aLEFT AND UPPER AND RIGHTe,bTRIANGULAR ONE QUARTERb,aUPPERe,aRIGHTe
aLOWERe,aVERTICAL ONE EIGHTH BLOCK-2,dBLOCK-3,dBLOCK-4,dBLOCK-5,dBLOCK-6,dBLOCK-7
aHORIZONTAL ONE EIGHTH BLOCK-2,dBLOCK-3,dBLOCK-4,dBLOCK-5,dBLOCK-6,dBLOCK-7
aLEFT AND LOWER ONE EIGHTH BLOCK,cUPPERd,aRIGHTf,cLOWERd,aUPPERf,aHORIZONTAL ONE EIGHTH BLOCK-1358
aUPPER ONE QUARTER BLOCK,bTHREE EIGHTHSb,bFIVEc,bTHREE QUARTERSb,bSEVEN EIGHTHSb,aRIGHT ONE QUARTERb
bTHREE EIGHTHSb,bFIVEc,bTHREE QUARTERSb,bSEVEN EIGHTHSb,aLEFT HALF MEDIUM SHADE,aRIGHTd,aUPPERd
aLOWERd,aINVERSEc,aUPPER HALF BLOCK AND LOWER HALFd,cINVERSE MEDIUM SHADE AND LOWER HALF BLOCK,1
aLEFT HALF INVERSE MEDIUM SHADE AND RIGHTc,aCHECKER BOARD FILL,aINVERSEd,aHEAVY HORIZONTALb
aUPPER LEFT TO LOWER RIGHTb,bRIGHT TO LOWER LEFTb,bAND LOWER TRIANGULAR HALF BLOCK,aLEFT AND RIGHTd
aUPPER LEFT TRIANGULAR MEDIUM SHADE,bRIGHTd,aLOWERe,bLEFTd
aBOX DRAWINGS LIGHT DIAGONAL UPPER CENTRE TO MIDDLE LEFT,iRIGHT,eMIDDLE LEFT TO LOWER CENTRE,fRIGHTd
eUPPER CENTRE TO MIDDLE LEFTd,iRIGHTd,eMIDDLE LEFT TO LOWER CENTRE TO MIDDLE RIGHT,hUPPERe
eUPPER CENTRE TO MIDDLE LEFT AND MIDDLE RIGHT TO LOWER CENTRE,iRIGHT AND MIDDLE LEFTd
jTO LOWER CENTRE TO MIDDLE LEFT,iLEFT TO LOWER CENTRE TO MIDDLE RIGHT
eMIDDLE LEFT TO UPPER CENTRE TO MIDDLE RIGHT TO LOWER CENTRE,fRIGHT TO UPPER CENTRE TO MIDDLE LEFTd
eDIAMOND,dHORIZONTAL WITH VERTICAL STROKE,aARROWHEAD-SHAPED POINTER,aINVERSE CHECK MARK
aLEFT HALF RUNNING MAN,aRIGHTd,aINVERSE DOWNWARDS ARROW WITH TIP LEFTWARDS
aLEFTWARDS ARROW AND UPPER AND LOWER ONE EIGHTH BLOCK,aRIGHTWARDSi,aDOWNWARDS ARROW AND RIGHTd
aUPWARDSg,aLEFT HALF FOLDER,aRIGHTc,aVOIDED GREEK CROSS,aRIGHT OPEN SQUARED DOT
aNEGATIVE DIAGONAL CROSS,cMIDDLE RIGHT TO LOWER CENTRE,cDIAMOND
aWHITE HEAVY SALTIRE WITH ROUNDED CORNERS,aLEFT THIRD WHITE RIGHT POINTING INDEX,aMIDDLEf,aRIGHTf
aNEGATIVE SQUARED QUESTION MARK,aSTICK FIGURE,cWITH ARMS RAISED,cLEANING LEFT,dRIGHT,cWITH DRESS
aWHITE UP-POINTING CHEVRON,37,aSEGMENTED DIGIT ZERO,cONE,cTWO,cTHREE,cFOUR,cFIVE,cSIX,cSEVEN,cEIGHT
cNINE,787463,aLANGUAGE TAG,30,aTAG SPACE,bEXCLAMATION MARK,bQUOTATIONb,bNUMBER SIGN,bDOLLARb
bPERCENTb,bAMPERSAND,bAPOSTROPHE,bLEFT PARENTHESIS,bRIGHTb,bASTERISK,bPLUS SIGN,bCOMMA,bHYPHEN-MINUS
bFULL STOP,bSOLIDUS,bDIGIT ZERO,cONE,cTWO,cTHREE,cFOUR,cFIVE,cSIX,cSEVEN,cEIGHT,cNINE,bCOLON
bSEMICOLON,bLESS-THAN SIGN,bEQUALSb,bGREATER-THANb,bQUESTION MARK,bCOMMERCIAL AT
bLATIN CAPITAL LETTER A,eB,eC,eD,eE,eF,eG,eH,eI,eJ,eK,eL,eM,eN,eO,eP,eQ,eR,eS,eT,eU,eV,eW,eX,eY,eZ
bLEFT SQUARE BRACKET,bREVERSE SOLIDUS,bRIGHT SQUARE BRACKET,bCIRCUMFLEX ACCENT,bLOW LINE
bGRAVE ACCENT,bLATIN SMALL LETTER A,eB,eC,eD,eE,eF,eG,eH,eI,eJ,eK,eL,eM,eN,eO,eP,eQ,eR,eS,eT,eU,eV
eW,eX,eY,eZ,bLEFT CURLY BRACKET,bVERTICAL LINE,bRIGHT CURLY BRACKET,bTILDE,aCANCEL TAG,128
aVARIATION SELECTOR-17|aVS17,aVARIATION SELECTOR-18|aVS18,aVARIATION SELECTOR-19|aVS19
aVARIATION SELECTOR-20|aVS20,aVARIATION SELECTOR-21|aVS21,aVARIATION SELECTOR-22|aVS22
aVARIATION SELECTOR-23|aVS23,aVARIATION SELECTOR-24|aVS24,aVARIATION SELECTOR-25|aVS25
aVARIATION SELECTOR-26|aVS26,aVARIATION SELECTOR-27|aVS27,aVARIATION SELECTOR-28|aVS28
aVARIATION SELECTOR-29|aVS29,aVARIATION SELECTOR-30|aVS30,aVARIATION SELECTOR-31|aVS31
aVARIATION SELECTOR-32|aVS32,aVARIATION SELECTOR-33|aVS33,aVARIATION SELECTOR-34|aVS34
aVARIATION SELECTOR-35|aVS35,aVARIATION SELECTOR-36|aVS36,aVARIATION SELECTOR-37|aVS37
aVARIATION SELECTOR-38|aVS38,aVARIATION SELECTOR-39|aVS39,aVARIATION SELECTOR-40|aVS40
aVARIATION SELECTOR-41|aVS41,aVARIATION SELECTOR-42|aVS42,aVARIATION SELECTOR-43|aVS43
aVARIATION SELECTOR-44|aVS44,aVARIATION SELECTOR-45|aVS45,aVARIATION SELECTOR-46|aVS46
aVARIATION SELECTOR-47|aVS47,aVARIATION SELECTOR-48|aVS48,aVARIATION SELECTOR-49|aVS49
aVARIATION SELECTOR-50|aVS50,aVARIATION SELECTOR-51|aVS51,aVARIATION SELECTOR-52|aVS52
aVARIATION SELECTOR-53|aVS53,aVARIATION SELECTOR-54|aVS54,aVARIATION SELECTOR-55|aVS55
aVARIATION SELECTOR-56|aVS56,aVARIATION SELECTOR-57|aVS57,aVARIATION SELECTOR-58|aVS58
aVARIATION SELECTOR-59|aVS59,aVARIATION SELECTOR-60|aVS60,aVARIATION SELECTOR-61|aVS61
aVARIATION SELECTOR-62|aVS62,aVARIATION SELECTOR-63|aVS63,aVARIATION SELECTOR-64|aVS64
aVARIATION SELECTOR-65|aVS65,aVARIATION SELECTOR-66|aVS66,aVARIATION SELECTOR-67|aVS67
aVARIATION SELECTOR-68|aVS68,aVARIATION SELECTOR-69|aVS69,aVARIATION SELECTOR-70|aVS70
aVARIATION SELECTOR-71|aVS71,aVARIATION SELECTOR-72|aVS72,aVARIATION SELECTOR-73|aVS73
aVARIATION SELECTOR-74|aVS74,aVARIATION SELECTOR-75|aVS75,aVARIATION SELECTOR-76|aVS76
aVARIATION SELECTOR-77|aVS77,aVARIATION SELECTOR-78|aVS78,aVARIATION SELECTOR-79|aVS79
aVARIATION SELECTOR-80|aVS80,aVARIATION SELECTOR-81|aVS81,aVARIATION SELECTOR-82|aVS82
aVARIATION SELECTOR-83|aVS83,aVARIATION SELECTOR-84|aVS84,aVARIATION SELECTOR-85|aVS85
aVARIATION SELECTOR-86|aVS86,aVARIATION SELECTOR-87|aVS87,aVARIATION SELECTOR-88|aVS88
aVARIATION SELECTOR-89|aVS89,aVARIATION SELECTOR-90|aVS90,aVARIATION SELECTOR-91|aVS91
aVARIATION SELECTOR-92|aVS92,aVARIATION SELECTOR-93|aVS93,aVARIATION SELECTOR-94|aVS94
aVARIATION SELECTOR-95|aVS95,aVARIATION SELECTOR-96|aVS96,aVARIATION SELECTOR-97|aVS97
aVARIATION SELECTOR-98|aVS98,aVARIATION SELECTOR-99|aVS99,aVARIATION SELECTOR-100|aVS100
aVARIATION SELECTOR-101|aVS101,aVARIATION SELECTOR-102|aVS102,aVARIATION SELECTOR-103|aVS103
aVARIATION SELECTOR-104|aVS104,aVARIATION SELECTOR-105|aVS105,aVARIATION SELECTOR-106|aVS106
aVARIATION SELECTOR-107|aVS107,aVARIATION SELECTOR-108|aVS108,aVARIATION SELECTOR-109|aVS109
aVARIATION SELECTOR-110|aVS110,aVARIATION SELECTOR-111|aVS111,aVARIATION SELECTOR-112|aVS112
aVARIATION SELECTOR-113|aVS113,aVARIATION SELECTOR-114|aVS114,aVARIATION SELECTOR-115|aVS115
aVARIATION SELECTOR-116|aVS116,aVARIATION SELECTOR-117|aVS117,aVARIATION SELECTOR-118|aVS118
aVARIATION SELECTOR-119|aVS119,aVARIATION SELECTOR-120|aVS120,aVARIATION SELECTOR-121|aVS121
aVARIATION SELECTOR-122|aVS122,aVARIATION SELECTOR-123|aVS123,aVARIATION SELECTOR-124|aVS124
aVARIATION SELECTOR-125|aVS125,aVARIATION SELECTOR-126|aVS126,aVARIATION SELECTOR-127|aVS127
aVARIATION SELECTOR-128|aVS128,aVARIATION SELECTOR-129|aVS129,aVARIATION SELECTOR-130|aVS130
aVARIATION SELECTOR-131|aVS131,aVARIATION SELECTOR-132|aVS132,aVARIATION SELECTOR-133|aVS133
aVARIATION SELECTOR-134|aVS134,aVARIATION SELECTOR-135|aVS135,aVARIATION SELECTOR-136|aVS136
aVARIATION SELECTOR-137|aVS137,aVARIATION SELECTOR-138|aVS138,aVARIATION SELECTOR-139|aVS139
aVARIATION SELECTOR-140|aVS140,aVARIATION SELECTOR-141|aVS141,aVARIATION SELECTOR-142|aVS142
aVARIATION SELECTOR-143|aVS143,aVARIATION SELECTOR-144|aVS144,aVARIATION SELECTOR-145|aVS145
aVARIATION SELECTOR-146|aVS146,aVARIATION SELECTOR-147|aVS147,aVARIATION SELECTOR-148|aVS148
aVARIATION SELECTOR-149|aVS149,aVARIATION SELECTOR-150|aVS150,aVARIATION SELECTOR-151|aVS151
aVARIATION SELECTOR-152|aVS152,aVARIATION SELECTOR-153|aVS153,aVARIATION SELECTOR-154|aVS154
aVARIATION SELECTOR-155|aVS155,aVARIATION SELECTOR-156|aVS156,aVARIATION SELECTOR-157|aVS157
aVARIATION SELECTOR-158|aVS158,aVARIATION SELECTOR-159|aVS159,aVARIATION SELECTOR-160|aVS160
aVARIATION SELECTOR-161|aVS161,aVARIATION SELECTOR-162|aVS162,aVARIATION SELECTOR-163|aVS163
aVARIATION SELECTOR-164|aVS164,aVARIATION SELECTOR-165|aVS165,aVARIATION SELECTOR-166|aVS166
aVARIATION SELECTOR-167|aVS167,aVARIATION SELECTOR-168|aVS168,aVARIATION SELECTOR-169|aVS169
aVARIATION SELECTOR-170|aVS170,aVARIATION SELECTOR-171|aVS171,aVARIATION SELECTOR-172|aVS172
aVARIATION SELECTOR-173|aVS173,aVARIATION SELECTOR-174|aVS174,aVARIATION SELECTOR-175|aVS175
aVARIATION SELECTOR-176|aVS176,aVARIATION SELECTOR-177|aVS177,aVARIATION SELECTOR-178|aVS178
aVARIATION SELECTOR-179|aVS179,aVARIATION SELECTOR-180|aVS180,aVARIATION SELECTOR-181|aVS181
aVARIATION SELECTOR-182|aVS182,aVARIATION SELECTOR-183|aVS183,aVARIATION SELECTOR-184|aVS184
aVARIATION SELECTOR-185|aVS185,aVARIATION SELECTOR-186|aVS186,aVARIATION SELECTOR-187|aVS187
aVARIATION SELECTOR-188|aVS188,aVARIATION SELECTOR-189|aVS189,aVARIATION SELECTOR-190|aVS190
aVARIATION SELECTOR-191|aVS191,aVARIATION SELECTOR-192|aVS192,aVARIATION SELECTOR-193|aVS193
aVARIATION SELECTOR-194|aVS194,aVARIATION SELECTOR-195|aVS195,aVARIATION SELECTOR-196|aVS196
aVARIATION SELECTOR-197|aVS197,aVARIATION SELECTOR-198|aVS198,aVARIATION SELECTOR-199|aVS199
aVARIATION SELECTOR-200|aVS200,aVARIATION SELECTOR-201|aVS201,aVARIATION SELECTOR-202|aVS202
aVARIATION SELECTOR-203|aVS203,aVARIATION SELECTOR-204|aVS204,aVARIATION SELECTOR-205|aVS205
aVARIATION SELECTOR-206|aVS206,aVARIATION SELECTOR-207|aVS207,aVARIATION SELECTOR-208|aVS208
aVARIATION SELECTOR-209|aVS209,aVARIATION SELECTOR-210|aVS210,aVARIATION SELECTOR-211|aVS211
aVARIATION SELECTOR-212|aVS212,aVARIATION SELECTOR-213|aVS213,aVARIATION SELECTOR-214|aVS214
aVARIATION SELECTOR-215|aVS215,aVARIATION SELECTOR-216|aVS216,aVARIATION SELECTOR-217|aVS217
aVARIATION SELECTOR-218|aVS218,aVARIATION SELECTOR-219|aVS219,aVARIATION SELECTOR-220|aVS220
aVARIATION SELECTOR-221|aVS221,aVARIATION SELECTOR-222|aVS222,aVARIATION SELECTOR-223|aVS223
aVARIATION SELECTOR-224|aVS224,aVARIATION SELECTOR-225|aVS225,aVARIATION SELECTOR-226|aVS226
aVARIATION SELECTOR-227|aVS227,aVARIATION SELECTOR-228|aVS228,aVARIATION SELECTOR-229|aVS229
aVARIATION SELECTOR-230|aVS230,aVARIATION SELECTOR-231|aVS231,aVARIATION SELECTOR-232|aVS232
aVARIATION SELECTOR-233|aVS233,aVARIATION SELECTOR-234|aVS234,aVARIATION SELECTOR-235|aVS235
aVARIATION SELECTOR-236|aVS236,aVARIATION SELECTOR-237|aVS237,aVARIATION SELECTOR-238|aVS238
aVARIATION SELECTOR-239|aVS239,aVARIATION SELECTOR-240|aVS240,aVARIATION SELECTOR-241|aVS241
aVARIATION SELECTOR-242|aVS242,aVARIATION SELECTOR-243|aVS243,aVARIATION SELECTOR-244|aVS244
aVARIATION SELECTOR-245|aVS245,aVARIATION SELECTOR-246|aVS246,aVARIATION SELECTOR-247|aVS247
aVARIATION SELECTOR-248|aVS248,aVARIATION SELECTOR-249|aVS249,aVARIATION SELECTOR-250|aVS250
aVARIATION SELECTOR-251|aVS251,aVARIATION SELECTOR-252|aVS252,aVARIATION SELECTOR-253|aVS253
aVARIATION SELECTOR-254|aVS254,aVARIATION SELECTOR-255|aVS255,aVARIATION SELECTOR-256|aVS256"

end JsonSchema.Text
