import ResidencePortal.Text.Packed

/-!
# Code pages

Character sets of one byte for each character: the bytes below 128 are ASCII, and a table says what the
others stand for.
-/

namespace ResidencePortal.Charset

open Text

/-- A code page. -/
inductive CodePage where
  | ibm866
  | latin2
  | latin3
  | latin4
  | isoCyrillic
  | isoArabic
  | isoGreek
  | isoHebrew
  | latin6
  | latin7
  | latin8
  | latin9
  | latin10
  | koi8R
  | koi8U
  | macintosh
  | thai
  | windows1250
  | windows1251
  | windows1252
  | windows1253
  | windows1254
  | windows1255
  | windows1256
  | windows1257
  | windows1258
  | macCyrillic
deriving Repr, DecidableEq

namespace CodePage

/-- The characters of the bytes from 128 on, packed. -/
def packed : CodePage → List String
  | .ibm866 =>
    ["0GG0GH0GI0GJ0GK0GL0GM0GN0GO0GP0GQ0GR0GS0GT0GU0GV0GW0GX0GY0GZ0Ga0Gb0Gc0Gd0Ge0Gf0Gg0Gh",
      "0Gi0Gj0Gk0Gl0Gm0Gn0Go0Gp0Gq0Gr0Gs0Gt0Gu0Gv0Gw0Gx0Gy0Gz0G.0G_2MH2MI2MJ2K22Ka2LX2LY2LM",
      "2LL2LZ2LH2LN2LT2LS2LR2KG2KK2Kq2Ki2KS2K02Ky2LU2LV2LQ2LK2Lf2Lc2LW2LG2Li2Ld2Le2La2Lb2LP",
      "2LO2LI2LJ2Lh2Lg2KO2KC2M82M42MC2MG2M00H00H10H20H30H40H50H60H70H80H90HA0HB0HC0HD0HE0HF",
      "0G10HH0G40HK0G70HN0GE0HU02m28P02t28Q24M02a2MW02W"]
  | .latin2 =>
    ["02002102202302402502602702802902A02B02C02D02E02F02G02H02I02J02K02L02M02N02O02P02Q02R",
      "02S02T02U02V02W0440BO05102a04z05Q02d02e05W05U05a05v02j05z05x02m0450BR05202q04.05R0B7",
      "02u05X05V05b05w0BT05.05y05K03103204203404v04603704C03904O03B04Q03D03E04E04G05305703J",
      "03K05G03M03N05O05k03Q05m03S03T05Y03V05L03X03Y04303a04w04703d04D03f04P03h04R03j03k04F",
      "04H05405803p03q05H03s03t05P05l03w05n03y03z05Z0BP"]
  | .latin3 =>
    ["02002102202302402502602702802902A02B02C02D02E02F02G02H02I02J02K02L02M02N02O02P02Q02R",
      "02S02T02U02V02W04c0BO02Z02a00004a02d02e04m05U04U04q02j00005x02m04d02o02p02q02r04b02t",
      "02u04n05V04V04r02z00005y03003103200003404A04803703803903A03B03C03D03E03F00003H03I03J",
      "03K04W03M03N04S03P03Q03R03S05i05S03V03W03X03Y00003a04B04903d03e03f03g03h03i03j03k03l",
      "00003n03o03p03q04X03s03t04T03v03w03x03y05j05T0BP"]
  | .latin4 =>
    ["02002102202302402502602702802902A02B02C02D02E02F02G02H02I02J02K02L02M02N02O02P02Q02R",
      "02S02T02U02V02W04404u05M02a04e04x02d02e05W04I04Y05c02j05z02l02m0450BR05N02q04f04y0B7",
      "02u05X04J04Z05d05A05.05B04003103203303403503604k04C03904O03B04M03D03E04g04G05505C04s",
      "03K03L03M03N03O05o03Q03R03S05e05g03V04103X03Y03Z03a03b03c04l04D03f04P03h04N03j03k04h",
      "04H05605D04t03q03r03s03t03u05p03w03x03y05f05h0BP"]
  | .isoCyrillic =>
    ["02002102202302402502602702802902A02B02C02D02E02F02G02H02I02J02K02L02M02N02O02P02Q02R",
      "02S02T02U02V02W0G10G20G30G40G50G60G70G80G90GA0GB0GC02j0GE0GF0GG0GH0GI0GJ0GK0GL0GM0GN",
      "0GO0GP0GQ0GR0GS0GT0GU0GV0GW0GX0GY0GZ0Ga0Gb0Gc0Gd0Ge0Gf0Gg0Gh0Gi0Gj0Gk0Gl0Gm0Gn0Go0Gp",
      "0Gq0Gr0Gs0Gt0Gu0Gv0Gw0Gx0Gy0Gz0G.0G_0H00H10H20H30H40H50H60H70H80H90HA0HB0HC0HD0HE0HF",
      "24M0HH0HI0HJ0HK0HL0HM0HN0HO0HP0HQ0HR0HS02d0HU0HV"]
  | .isoArabic =>
    ["02002102202302402502602702802902A02B02C02D02E02F02G02H02I02J02K02L02M02N02O02P02Q02R",
      "02S02T02U02V02W00000000002a0000000000000000000000OC02j000000000000000000000000000000",
      "0000000000OR0000000000OV0000OX0OY0OZ0Oa0Ob0Oc0Od0Oe0Of0Og0Oh0Oi0Oj0Ok0Ol0Om0On0Oo0Op",
      "0Oq0Or0Os0Ot0Ou0Ov0Ow0000000000000000P00P10P20P30P40P50P60P70P80P90PA0PB0PC0PD0PE0PF",
      "0PG0PH0PI000000000000000000000000000000000000000"]
  | .isoGreek =>
    ["02002102202302402502602702802902A02B02C02D02E02F02G02H02I02J02K02L02M02N02O02P02Q02R",
      "02S02T02U02V02W20O20P02Z22i22l02c02d02e02f0Dw02h02i02j00020L02m02n02o02p0E40E50E602t",
      "0E80E90EA02x0EC02z0EE0EF0EG0EH0EI0EJ0EK0EL0EM0EN0EO0EP0EQ0ER0ES0ET0EU0EV0EW0EX0000EZ",
      "0Ea0Eb0Ec0Ed0Ee0Ef0Eg0Eh0Ei0Ej0Ek0El0Em0En0Eo0Ep0Eq0Er0Es0Et0Eu0Ev0Ew0Ex0Ey0Ez0E.0E_",
      "0F00F10F20F30F40F50F60F70F80F90FA0FB0FC0FD0FE000"]
  | .isoHebrew =>
    ["02002102202302402502602702802902A02B02C02D02E02F02G02H02I02J02K02L02M02N02O02P02Q02R",
      "02S02T02U02V02W00002Y02Z02a02b02c02d02e02f03N02h02i02j02k02l02m02n02o02p02q02r02s02t",
      "02u02v03t02x02y02z02.000000000000000000000000000000000000000000000000000000000000000",
      "00000000000000000000000000000000020N0NG0NH0NI0NJ0NK0NL0NM0NN0NO0NP0NQ0NR0NS0NT0NU0NV",
      "0NW0NX0NY0NZ0Na0Nb0Nc0Nd0Ne0Nf0Ng00000020E20F000"]
  | .latin6 =>
    ["02002102202302402502602702802902A02B02C02D02E02F02G02H02I02J02K02L02M02N02O02P02Q02R",
      "02S02T02U02V02W04404I04Y04g04e04s02d04x04G05W05c05z02j05g05A02m04504J04Z04h04f04t02t",
      "04y04H05X05d05.20L05h05B04003103203303403503604k04C03904O03B04M03D03E03F03G05505C03J",
      "03K03L03M05e03O05o03Q03R03S03T03U03V04103X03Y03Z03a03b03c04l04D03f04P03h04N03j03k03l",
      "03m05605D03p03q03r03s05f03u05p03w03x03y03z03.04u"]
  | .latin7 =>
    ["02002102202302402502602702802902A02B02C02D02E02F02G02H02I02J02K02L02M02N02O02P02Q02R",
      "02S02T02U02V02W20T02Y02Z02a20U02c02d03O02f05M02h02i02j02k03602m02n02o02p20S02r02s02t",
      "03u02v05N02x02y02z02.03c04404k04004603403504O04I04C03905v04M04Y04s04g04x05W05305503J",
      "05C03L03M03N05o05105Q05g03S05x05z03V04504l04104703a03b04P04J04D03f05w04N04Z04t04h04y",
      "05X05405603p05D03r03s03t05p05205R05h03y05y05.20P"]
  | .latin8 =>
    ["02002102202302402502602702802902A02B02C02D02E02F02G02H02I02J02K02L02M02N02O02P02Q02R",
      "02S02T02U02V02W1u21u302Z04A04B1uA02d1w002f1w21uB1xo02j02k05u1uU1uV04W04X1v01v102s1vM",
      "1w11vN1w31vW1xp1w41w51vX03003103203303403503603703803903A03B03C03D03E03F05q03H03I03J",
      "03K03L03M1vg03O03P03Q03R03S03T05s03V03W03X03Y03Z03a03b03c03d03e03f03g03h03i03j03k03l",
      "05r03n03o03p03q03r03s1vh03u03v03w03x03y03z05t03_"]
  | .latin9 =>
    ["02002102202302402502602702802902A02B02C02D02E02F02G02H02I02J02K02L02M02N02O02P02Q02R",
      "02S02T02U02V02W02X02Y02Z22i02b05W02d05X02f02g02h02i02j02k02l02m02n02o02p05z02r02s02t",
      "05.02v02w02x05I05J05u02_03003103203303403503603703803903A03B03C03D03E03F03G03H03I03J",
      "03K03L03M03N03O03P03Q03R03S03T03U03V03W03X03Y03Z03a03b03c03d03e03f03g03h03i03j03k03l",
      "03m03n03o03p03q03r03s03t03u03v03w03x03y03z03.03_"]
  | .latin10 =>
    ["02002102202302402502602702802902A02B02C02D02E02F02G02H02I02J02K02L02M02N02O02P02Q02R",
      "02S02T02U02V02W04404505122i20U05W02d05X02f08O02h05v02j05w05x02m02n04C05205z20T02s02t",
      "05.04D08P02x05I05J05u05y03003103204203404603603703803903A03B03C03D03E03F04G05303I03J",
      "03K05G03M05Q05m03P03Q03R03S04O08Q03V03W03X03Y04303a04703c03d03e03f03g03h03i03j03k03l",
      "04H05403o03p03q05H03s05R05n03v03w03x03y04P08R03_"]
  | .koi8R =>
    ["2K02K22KC2KG2KK2KO2KS2Ka2Ki2Kq2Ky2M02M42M82MC2MG2MH2MI2MJ2CW2MW28P28Q29829a29b02W2CX",
      "02m02o02t03t2LG2LH2LI0HH2LJ2LK2LL2LM2LN2LO2LP2LQ2LR2LS2LT2LU2LV2LW2LX0G12LY2LZ2La2Lb",
      "2Lc2Ld2Le2Lf2Lg2Lh2Li02f0HE0Gm0Gn0H60Gq0Gr0H40Gp0H50Gu0Gv0Gw0Gx0Gy0Gz0G.0G_0HF0H00H1",
      "0H20H30Gs0Go0HC0HB0Gt0H80HD0H90H70HA0Gk0GG0GH0Gc0GK0GL0Ga0GJ0Gb0GO0GP0GQ0GR0GS0GT0GU",
      "0GV0Gl0GW0GX0GY0GZ0GM0GI0Gi0Gh0GN0Ge0Gj0Gf0Gd0Gg"]
  | .koi8U =>
    ["2K02K22KC2KG2KK2KO2KS2Ka2Ki2Kq2Ky2M02M42M82MC2MG2MH2MI2MJ2CW2MW28P28Q29829a29b02W2CX",
      "02m02o02t03t2LG2LH2LI0HH0HK2LK0HM0HN2LN2LO2LP2LQ2LR0IH0HU2LU2LV2LW2LX0G10G42LZ0G60G7",
      "2Lc2Ld2Le2Lf2Lg0IG0GE02f0HE0Gm0Gn0H60Gq0Gr0H40Gp0H50Gu0Gv0Gw0Gx0Gy0Gz0G.0G_0HF0H00H1",
      "0H20H30Gs0Go0HC0HB0Gt0H80HD0H90H70HA0Gk0GG0GH0Gc0GK0GL0Ga0GJ0Gb0GO0GP0GQ0GR0GS0GT0GU",
      "0GV0Gl0GW0GX0GY0GZ0GM0GI0Gi0Gh0GN0Ge0Gj0Gf0Gd0Gg"]
  | .macintosh =>
    ["03403503703903H03M03S03X03W03Y03a03Z03b03d03f03e03g03h03j03i03k03l03n03p03o03q03s03r",
      "03w03v03x03y20W02m02Y02Z02d20Y02s03V02k02f24Y02q02e29W03603O28U02n29a29b02b02r28228H",
      "28F0F028h02g02w0Ef03c03u02_02X02i28Q06I29828602h02x20c02W03003303L05I05J20J20K20S20T",
      "20O20P03t2NA03_05u21422i20v20wFi1Fi220X02t20Q20U20m03203A03103B03803D03E03F03C03J03K",
      "FZ_03I03Q03R03P04n0B60BS02l0BO0BP0BQ02u0BT0BR0B7"]
  | .thai =>
    ["22i02102202302420c02602702802902A02B02C02D02E02F02G20O20P20S20T20Y20J20K02O02P02Q02R",
      "02S02T02U02V02W0u10u20u30u40u50u60u70u80u90uA0uB0uC0uD0uE0uF0uG0uH0uI0uJ0uK0uL0uM0uN",
      "0uO0uP0uQ0uR0uS0uT0uU0uV0uW0uX0uY0uZ0ua0ub0uc0ud0ue0uf0ug0uh0ui0uj0uk0ul0um0un0uo0up",
      "0uq0ur0us0ut0uu0uv0uw0000000000000u_0v00v10v20v30v40v50v60v70v80v90vA0vB0vC0vD0vE0vF",
      "0vG0vH0vI0vJ0vK0vL0vM0vN0vO0vP0vQ0vR000000000000"]
  | .windows1250 =>
    ["22i02120Q02320U20c20W20X02820m05W20v05Q05a05z05v02G20O20P20S20T20Y20J20K02O24Y05X20w",
      "05R05b05.05w02W0B70BO05102a04402c02d02e02f05U02h02i02j02k05x02m02n0BR05202q02r02s02t",
      "02u04505V02x04z0BT04.05y05K03103204203404v04603704C03904O03B04Q03D03E04E04G05305703J",
      "03K05G03M03N05O05k03Q05m03S03T05Y03V05L03X03Y04303a04w04703d04D03f04P03h04R03j03k04F",
      "04H05405803p03q05H03s03t05P05l03w05n03y03z05Z0BP"]
  | .windows1251 =>
    ["0G20G320Q0HJ20U20c20W20X22i20m0G920v0GA0GC0GB0GF0HI20O20P20S20T20Y20J20K02O24Y0HP20w",
      "0HQ0HS0HR0HV02W0GE0HU0G802a0IG02c02d0G102f0G402h02i02j02k0G702m02n0G60HM0IH02r02s02t",
      "0HH24M0HK02x0HO0G50HL0HN0GG0GH0GI0GJ0GK0GL0GM0GN0GO0GP0GQ0GR0GS0GT0GU0GV0GW0GX0GY0GZ",
      "0Ga0Gb0Gc0Gd0Ge0Gf0Gg0Gh0Gi0Gj0Gk0Gl0Gm0Gn0Go0Gp0Gq0Gr0Gs0Gt0Gu0Gv0Gw0Gx0Gy0Gz0G.0G_",
      "0H00H10H20H30H40H50H60H70H80H90HA0HB0HC0HD0HE0HF"]
  | .windows1252 =>
    ["22i02120Q06I20U20c20W20X0B620m05W20v05I02D05z02F02G20O20P20S20T20Y20J20K0BS24Y05X20w",
      "05J02T05.05u02W02X02Y02Z02a02b02c02d02e02f02g02h02i02j02k02l02m02n02o02p02q02r02s02t",
      "02u02v02w02x02y02z02.02_03003103203303403503603703803903A03B03C03D03E03F03G03H03I03J",
      "03K03L03M03N03O03P03Q03R03S03T03U03V03W03X03Y03Z03a03b03c03d03e03f03g03h03i03j03k03l",
      "03m03n03o03p03q03r03s03t03u03v03w03x03y03z03.03_"]
  | .windows1253 =>
    ["22i02120Q06I20U20c20W20X02820m02A20v02C02D02E02F02G20O20P20S20T20Y20J20K02O24Y02Q20w",
      "02S02T02U02V02W0E50E602Z02a02b02c02d02e02f00002h02i02j02k20L02m02n02o02p0E402r02s02t",
      "0E80E90EA02x0EC02z0EE0EF0EG0EH0EI0EJ0EK0EL0EM0EN0EO0EP0EQ0ER0ES0ET0EU0EV0EW0EX0000EZ",
      "0Ea0Eb0Ec0Ed0Ee0Ef0Eg0Eh0Ei0Ej0Ek0El0Em0En0Eo0Ep0Eq0Er0Es0Et0Eu0Ev0Ew0Ex0Ey0Ez0E.0E_",
      "0F00F10F20F30F40F50F60F70F80F90FA0FB0FC0FD0FE000"]
  | .windows1254 =>
    ["22i02120Q06I20U20c20W20X0B620m05W20v05I02D02E02F02G20O20P20S20T20Y20J20K0BS24Y05X20w",
      "05J02T02U05u02W02X02Y02Z02a02b02c02d02e02f02g02h02i02j02k02l02m02n02o02p02q02r02s02t",
      "02u02v02w02x02y02z02.02_03003103203303403503603703803903A03B03C03D03E03F04U03H03I03J",
      "03K03L03M03N03O03P03Q03R03S04m05U03V03W03X03Y03Z03a03b03c03d03e03f03g03h03i03j03k03l",
      "04V03n03o03p03q03r03s03t03u03v03w03x03y04n05V03_"]
  | .windows1255 =>
    ["22i02120Q06I20U20c20W20X0B620m02A20v02C02D02E02F02G20O20P20S20T20Y20J20K0BS24Y02Q20w",
      "02S02T02U02V02W02X02Y02Z22g02b02c02d02e02f03N02h02i02j02k02l02m02n02o02p02q02r02s02t",
      "02u02v03t02x02y02z02.02_0Mm0Mn0Mo0Mp0Mq0Mr0Ms0Mt0Mu0Mv0Mw0Mx0My0Mz0M.0M_0N00N10N20N3",
      "0Nm0Nn0No0Np0Nq0000000000000000000000NG0NH0NI0NJ0NK0NL0NM0NN0NO0NP0NQ0NR0NS0NT0NU0NV",
      "0NW0NX0NY0NZ0Na0Nb0Nc0Nd0Ne0Nf0Ng00000020E20F000"]
  | .windows1256 =>
    ["22i0P.20Q06I20U20c20W20X0B620m0Pv20v05I0Q60QO0Q80Ql20O20P20S20T20Y20J20K0Qf24Y0QH20w",
      "05J20C20D0Qw02W0OC02Y02Z02a02b02c02d02e02f0Q.02h02i02j02k02l02m02n02o02p02q02r02s02t",
      "02u02v0OR02x02y02z02.0OV0R10OX0OY0OZ0Oa0Ob0Oc0Od0Oe0Of0Og0Oh0Oi0Oj0Ok0Ol0Om0On0Oo0Op",
      "0Oq0Or0Os03N0Ot0Ou0Ov0Ow0P00P10P20P303W0P403Y0P50P60P70P803d03e03f03g03h0P90PA03k03l",
      "0PB0PC0PD0PE03q0PF0PG03t0PH03v0PI03x03y20E20F0RI"]
  | .windows1257 =>
    ["22i02120Q02320U20c20W20X02820m02A20v02C02e0B702u02G20O20P20S20T20Y20J20K02O24Y02Q20w",
      "02S02l0BR02V02W00002Y02Z02a00002c02d03O02f05M02h02i02j02k03602m02n02o02p02q02r02s02t",
      "03u02v05N02x02y02z02.03c04404k04004603403504O04I04C03905v04M04Y04s04g04x05W05305503J",
      "05C03L03M03N05o05105Q05g03S05x05z03V04504l04104703a03b04P04J04D03f05w04N04Z04t04h04y",
      "05X05405603p05D03r03s03t05p05205R05h03y05y05.0BP"]
  | .windows1258 =>
    ["22i02120Q06I20U20c20W20X0B620m02A20v05I02D02E02F02G20O20P20S20T20Y20J20K0BS24Y02Q20w",
      "05J02T02U05u02W02X02Y02Z02a02b02c02d02e02f02g02h02i02j02k02l02m02n02o02p02q02r02s02t",
      "02u02v02w02x02y02z02.02_03003103204203403503603703803903A03B0C003D03E03F04G03H0C903J",
      "03K06W03M03N03O03P03Q03R03S06l0C303V03W03X03Y04303a03b03c03d03e03f03g03h0C103j03k03l",
      "04H03n0CZ03p03q06X03s03t03u03v03w03x03y06m22h03_"]
  | .macCyrillic =>
    ["0GG0GH0GI0GJ0GK0GL0GM0GN0GO0GP0GQ0GR0GS0GT0GU0GV0GW0GX0GY0GZ0Ga0Gb0Gc0Gd0Ge0Gf0Gg0Gh",
      "0Gi0Gj0Gk0Gl20W02m0IG02Z02d20Y02s0G602k02f24Y0G20HI29W0G30HJ28U02n29a29b0HM02r0IH0G8",
      "0G40HK0G70HN0G90HP0GA0HQ0HO0G502i28Q06I29828602h02x20c02W0GB0HR0GC0HS0HL20J20K20S20T",
      "20O20P03t20U0GE0HU0GF0HV24M0G10HH0HF0Gm0Gn0Go0Gp0Gq0Gr0Gs0Gt0Gu0Gv0Gw0Gx0Gy0Gz0G.0G_",
      "0H00H10H20H30H40H50H60H70H80H90HA0HB0HC0HD0HE22i"]

/-- The character of a byte, given those of the bytes from 128 on. -/
def char? (upper : Array Nat) (b : UInt8) : Option Char :=
  if b < 128 then some (Char.ofNat b.toNat) else Packed.char? upper (b.toNat - 128)

/-- The characters of bytes, if each byte has one. -/
def decode? (page : CodePage) (bytes : List UInt8) : Option (List Char) :=
  bytes.mapM (char? (Packed.unpack 3 page.packed))

end CodePage

end ResidencePortal.Charset
