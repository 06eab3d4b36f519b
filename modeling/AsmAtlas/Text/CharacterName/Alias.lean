import AsmAtlas.Text.CharacterName.Basic

/-!
# Other names

Further names of characters: of control characters, which have no name of their own, corrections
of misspelt names, and abbreviations.
-/

namespace AsmAtlas
namespace CharacterName

/-- The other names of characters. -/
def aliases : List NameRun :=
  [(0x0000, ["aNULL"]),
   (0x0000, ["aNULaSTART OF HEADING"]),
   (0x0001, ["aSOHaSTART OF TEXT"]),
   (0x0002, ["aSTXaEND OF TEXT"]),
   (0x0003, ["aETXaEND OF TRANSMISSION"]),
   (0x0004, ["aEOTaENQUIRY"]),
   (0x0005, ["aENQaACKNOWLEDGE"]),
   (0x0006, ["aACKaALERT"]),
   (0x0007, ["aBELaBACKSPACE"]),
   (0x0008, ["aBSaCHARACTER TABULATION"]),
   (0x0009, ["aHORIZONTAL TABULATION"]),
   (0x0009, ["aHT"]),
   (0x0009, ["aTABaLINE FEED"]),
   (0x000A, ["aNEW LINE"]),
   (0x000A, ["aEND OF LINE"]),
   (0x000A, ["aEOL"]),
   (0x000A, ["aLF"]),
   (0x000A, ["aNLaLINE TABULATION"]),
   (0x000B, ["aVERTICAL TABULATION"]),
   (0x000B, ["aVTaFORM FEED"]),
   (0x000C, ["aFFaCARRIAGE RETURN"]),
   (0x000D, ["aCRaSHIFT OUT"]),
   (0x000E, ["aLOCKING-SHIFT ONE"]),
   (0x000E, ["aSOaSHIFT IN"]),
   (0x000F, ["aLOCKING-SHIFT ZERO"]),
   (0x000F, ["aSIaDATA LINK ESCAPE"]),
   (0x0010, ["aDLEaDEVICE CONTROL ONE"]),
   (0x0011, ["aDC1aDEVICE CONTROL TWO"]),
   (0x0012, ["aDC2aDEVICE CONTROL THREE"]),
   (0x0013, ["aDC3aDEVICE CONTROL FOUR"]),
   (0x0014, ["aDC4aNEGATIVE ACKNOWLEDGE"]),
   (0x0015, ["aNAKaSYNCHRONOUS IDLE"]),
   (0x0016, ["aSYNaEND OF TRANSMISSION BLOCK"]),
   (0x0017, ["aETBaCANCEL"]),
   (0x0018, ["aCANaEND OF MEDIUM"]),
   (0x0019, ["aEOMaSUBSTITUTE"]),
   (0x001A, ["aSUBaESCAPE"]),
   (0x001B, ["aESCaINFORMATION SEPARATOR FOUR"]),
   (0x001C, ["aFILE SEPARATOR"]),
   (0x001C, ["aFSaINFORMATION SEPARATOR THREE"]),
   (0x001D, ["aGROUP SEPARATOR"]),
   (0x001D, ["aGSaINFORMATION SEPARATOR TWO"]),
   (0x001E, ["aRECORD SEPARATOR"]),
   (0x001E, ["aRSaINFORMATION SEPARATOR ONE"]),
   (0x001F, ["aUNIT SEPARATOR"]),
   (0x001F, ["aUSaSP"]),
   (0x007F, ["aDELETE"]),
   (0x007F, ["aDELaPADDING CHARACTER"]),
   (0x0080, ["aPADaHIGH OCTET PRESET"]),
   (0x0081, ["aHOPaBREAK PERMITTED HERE"]),
   (0x0082, ["aBPHaNO BREAK HERE"]),
   (0x0083, ["aNBHaINDEX"]),
   (0x0084, ["aINDaNEXT LINE"]),
   (0x0085, ["aNELaSTART OF SELECTED AREA"]),
   (0x0086, ["aSSAaEND OF SELECTED AREA"]),
   (0x0087, ["aESAaCHARACTER TABULATION SET"]),
   (0x0088, ["aHORIZONTAL TABULATION SET"]),
   (0x0088, ["aHTSaCHARACTER TABULATION WITH JUSTIFICATION"]),
   (0x0089, ["aHORIZONTAL TABULATION WITH JUSTIFICATION"]),
   (0x0089, ["aHTJaLINE TABULATION SET"]),
   (0x008A, ["aVERTICAL TABULATION SET"]),
   (0x008A, ["aVTSaPARTIAL LINE FORWARD"]),
   (0x008B, ["aPARTIAL LINE DOWN"]),
   (0x008B, ["aPLDaPARTIAL LINE BACKWARD"]),
   (0x008C, ["aPARTIAL LINE UP"]),
   (0x008C, ["aPLUaREVERSE LINE FEED"]),
   (0x008D, ["aREVERSE INDEX"]),
   (0x008D, ["aRIaSINGLE SHIFT TWO"]),
   (0x008E, ["aSINGLE-SHIFT-2"]),
   (0x008E, ["aSS2aSINGLE SHIFT THREE"]),
   (0x008F, ["aSINGLE-SHIFT-3"]),
   (0x008F, ["aSS3aDEVICE CONTROL STRING"]),
   (0x0090, ["aDCSaPRIVATE USE ONE"]),
   (0x0091, ["aPRIVATE USE-1"]),
   (0x0091, ["aPU1aPRIVATE USE TWO"]),
   (0x0092, ["aPRIVATE USE-2"]),
   (0x0092, ["aPU2aSET TRANSMIT STATE"]),
   (0x0093, ["aSTSaCANCEL CHARACTER"]),
   (0x0094, ["aCCHaMESSAGE WAITING"]),
   (0x0095, ["aMWaSTART OF GUARDED AREA"]),
   (0x0096, ["aSTART OF PROTECTED AREA"]),
   (0x0096, ["aSPAaEND OF GUARDED AREA"]),
   (0x0097, ["aEND OF PROTECTED AREA"]),
   (0x0097, ["aEPAaSTART OF STRING"]),
   (0x0098, ["aSOSaSINGLE GRAPHIC CHARACTER INTRODUCER"]),
   (0x0099, ["aSGCaSINGLE CHARACTER INTRODUCER"]),
   (0x009A, ["aSCIaCONTROL SEQUENCE INTRODUCER"]),
   (0x009B, ["aCSIaSTRING TERMINATOR"]),
   (0x009C, ["aSTaOPERATING SYSTEM COMMAND"]),
   (0x009D, ["aOSCaPRIVACY MESSAGE"]),
   (0x009E, ["aPMaAPPLICATION PROGRAM COMMAND"]),
   (0x009F, ["aAPCaNBSP"]),
   (0x00AD, ["aSHY"]),
   (0x01A2, ["aLATIN CAPITAL LETTER GHAbSMALL LETTER GHA"]),
   (0x034F, ["aCGJ"]),
   (0x061C, ["aALM"]),
   (0x0709, ["aSYRIAC SUBLINEAR COLON SKEWED LEFT"]),
   (0x0CDE, ["aKANNADA LETTER LLLA"]),
   (0x0E9D, ["aLAO LETTER FO FON"]),
   (0x0E9F, ["aLAO LETTER FO FAY"]),
   (0x0EA3, ["aLAO LETTER RO"]),
   (0x0EA5, ["aLAO LETTER LO"]),
   (0x0FD0, ["aTIBETAN MARK BKA- SHOG GI MGO RGYAN"]),
   (0x11EC, [
    "aHANGUL JONGSEONG YESIEUNG-KIYEOKcYESIEUNG-SSANGKIYEOKcSSANGYESIEUNGcYESIEUNG-KHIEUKH"]),
   (0x180B, ["aFVS1aFVS2aFVS3aMVSaFVS4"]),
   (0x200B, ["aZWSPaZWNJaZWJaLRMaRLM"]),
   (0x202A, ["aLREaRLEaPDFaLROaRLOaNNBSP"]),
   (0x205F, ["aMMSPaWJ"]),
   (0x2066, ["aLRIaRLIaFSIaPDI"]),
   (0x2118, ["aWEIERSTRASS ELLIPTIC FUNCTION"]),
   (0x2448, ["aMICR ON US SYMBOLbDASH SYMBOL"]),
   (0x2B7A, ["aLEFTWARDS TRIANGLE-HEADED ARROW WITH DOUBLE VERTICAL STROKE"]),
   (0x2B7C, ["aRIGHTWARDS TRIANGLE-HEADED ARROW WITH DOUBLE VERTICAL STROKE"]),
   (0xA015, ["aYI SYLLABLE ITERATION MARK"]),
   (0xAA6E, ["aMYANMAR LETTER KHAMTI LLA"]),
   (0xFE00, ["aVS1aVS2aVS3aVS4aVS5aVS6aVS7aVS8aVS9aVS10aVS11aVS12aVS13aVS14aVS15aVS16"]),
   (0xFE18, ["aPRESENTATION FORM FOR VERTICAL RIGHT WHITE LENTICULAR BRACKET"]),
   (0xFEFF, ["aBYTE ORDER MARK"]),
   (0xFEFF, ["aBOM"]),
   (0xFEFF, ["aZWNBSP"]),
   (0x122D4, ["aCUNEIFORM SIGN NU11 TENUdOVER NU11 BUR OVER BUR"]),
   (0x16E56, ["aMEDEFAIDRIN CAPITAL LETTER HdNG"]),
   (0x16E76, ["aMEDEFAIDRIN SMALL LETTER HdNG"]),
   (0x1B001, ["aHENTAIGANA LETTER E-1"]),
   (0x1D0C5, ["aBYZANTINE MUSICAL SYMBOL FTHORA SKLIRON CHROMA VASIS"]),
   (0xE0100, [
    "aVS17aVS18aVS19aVS20aVS21aVS22aVS23aVS24aVS25aVS26aVS27aVS28aVS29aVS30aVS31aVS32aVS33",
    "aVS34aVS35aVS36aVS37aVS38aVS39aVS40aVS41aVS42aVS43aVS44aVS45aVS46aVS47aVS48aVS49aVS50",
    "aVS51aVS52aVS53aVS54aVS55aVS56aVS57aVS58aVS59aVS60aVS61aVS62aVS63aVS64aVS65aVS66aVS67",
    "aVS68aVS69aVS70aVS71aVS72aVS73aVS74aVS75aVS76aVS77aVS78aVS79aVS80aVS81aVS82aVS83aVS84",
    "aVS85aVS86aVS87aVS88aVS89aVS90aVS91aVS92aVS93aVS94aVS95aVS96aVS97aVS98aVS99aVS100aVS101",
    "aVS102aVS103aVS104aVS105aVS106aVS107aVS108aVS109aVS110aVS111aVS112aVS113aVS114aVS115",
    "aVS116aVS117aVS118aVS119aVS120aVS121aVS122aVS123aVS124aVS125aVS126aVS127aVS128aVS129",
    "aVS130aVS131aVS132aVS133aVS134aVS135aVS136aVS137aVS138aVS139aVS140aVS141aVS142aVS143",
    "aVS144aVS145aVS146aVS147aVS148aVS149aVS150aVS151aVS152aVS153aVS154aVS155aVS156aVS157",
    "aVS158aVS159aVS160aVS161aVS162aVS163aVS164aVS165aVS166aVS167aVS168aVS169aVS170aVS171",
    "aVS172aVS173aVS174aVS175aVS176aVS177aVS178aVS179aVS180aVS181aVS182aVS183aVS184aVS185",
    "aVS186aVS187aVS188aVS189aVS190aVS191aVS192aVS193aVS194aVS195aVS196aVS197aVS198aVS199",
    "aVS200aVS201aVS202aVS203aVS204aVS205aVS206aVS207aVS208aVS209aVS210aVS211aVS212aVS213",
    "aVS214aVS215aVS216aVS217aVS218aVS219aVS220aVS221aVS222aVS223aVS224aVS225aVS226aVS227",
    "aVS228aVS229aVS230aVS231aVS232aVS233aVS234aVS235aVS236aVS237aVS238aVS239aVS240aVS241",
    "aVS242aVS243aVS244aVS245aVS246aVS247aVS248aVS249aVS250aVS251aVS252aVS253aVS254aVS255",
    "aVS256"])]

end CharacterName
end AsmAtlas
