import ResidencePortal.Text.Packed

/-!
# What domain names do with characters

A character of a domain name is kept, dropped, refused, or replaced by others before the name is
composed.
-/

namespace ResidencePortal.Domain

open Text

/-- Runs of code points that are refused (0), kept (1) or dropped (2). Replaced characters may have
any of these. -/
def statusRuns : Array Nat := Packed.unpack 5
  ["000010080000A4100Aq200Au100qy200r0100tW000ti100u0000uS100ui000v0100w8000wm101J0001La101Oi0",
    "01Oq101P0001P4101SW001T0101Ui001Uy101VK001WO101Xm001Xq101jq001ju101mu001n0101qi001qq101x80",
    "01y0101_i001_q1022u002301023y002401025m0025u1025y002601026i00270102900029S102E8002EC102OG0",
    "02OK102Oq002Oy102P4002PC102Qa002Qe102R4002R8102RC002RO102Re002Rm102SK002SS102Sa002Si102Sy0",
    "02TS102TW002U0102UG002UO102Vy002W4102WG002WK102Wi002Wy102X4002XC102Ya002Ye102Z4002Z8102ZG0",
    "02ZK102ZS002ZW102Ze002Zm102Zq002Zu102aC002aS102aa002ai102au002b4102b8002bm102bq002cO102dS0",
    "02e4102eG002eK102eu002ey102f8002fC102ga002ge102h4002h8102hG002hK102he002hm102iO002iS102ie0",
    "02ii102iu002j0102j4002k0102kG002kO102l8002la102m0002m4102mG002mK102mq002my102n4002nC102oa0",
    "02oe102p4002p8102pG002pK102pe002pm102qK002qS102qa002qi102qu002rK102rW002ry102sG002sO102tW0",
    "02u8102uG002uK102ui002uu102v4002v8102vO002va102vi002vm102vq002vu102w0002wC102wK002wW102wi0",
    "02wu102xe002xu102yC002yO102ya002ye102yu002z0102z4002zS102zW002.O102_i003001030q0030u103140",
    "03181032a0032e1033e0033m1034K0034O1034a0034e1034u0035K1035S0035W1035i0035m1035u003601036G0",
    "036O103700037S1038q0038u1039400398103Aa003Ae103BG003BK103Be003Bm103CK003CO103Ca003Ce103Cu0",
    "03DK103DS003Dm103Dy003E0103EG003EO103F0003F4103FG003G0103Gq003Gu103H4003H8103KK003KO103Ka0",
    "03Ke103L0003LG103MG003MO103O0003O4103OG003OK103PS003Pe103R8003RC103Rm003Rq103Ru003S0103SS0",
    "03Se103Si003Sy103TK003TO103TS003TW103U0003UO103V0003V8103VK003W4103Zi003Zy103bm003e4103eC0",
    "03eG103eK003eO103ei003em103gG003gK103gO003gS103hu003i0103iK003iO103iS003iW103iy003j0103je0",
    "03ju103k0003m0103qW003qa103sq003t4103vW003va103xq003xu103yq003yu103zi00400104CO004D0104Ly2",
    "04M4104aa004ae104au004b0104bS004bW104ba004be104bu004c0104ea004ee104eu004f0104h4004h8104hO0",
    "04hW104hy004i0104i4004i8104iO004iW104jS004jW104n4004n8104nO004nW104ri004rq104tq004u0104ve0",
    "04w0104_O00500105e0005e4105fq005g0105la005m0105nO005ny105pS005q0105rG005s0105sq005su105t40",
    "05t8105tG005u0105xG205xO105zu005.0105.e005_0105_e006001060i206101061e006201067a00680106Ai0",
    "06B0106FO006G0106Hy006I0106Im006J0106Jm006K0106K4006KG106Mu006N0106NK006O0106Qm006R0106Se0",
    "06T0106Ti006Tu106Xm006Xu106by006c0106dq006dy106ee006f0106fe006g0106gu006h0106ju006k0106km0",
    "06m0106qq006qu106_G006_m1073W0073i1074e0074q1078i007C0107CW007D0107Fi007G0107nO007o0107qO0",
    "07r0107rW007s0107tu007x0107xK007xO107yK007yO107zG007zO107zm007.0107_0007_O107_y0080i2080m1",
    "080u008101082G0082S1082W00830108602086K0086e20878008A0108C8008D0108F4008GG108Om008P01092e0",
    "09401094i009Ei10AtG00AtO10BFG00BFa10BIO00BIS10BIW00BIq10BIu00BJ010BMW00BN010BN400BNy10BPS0",
    "0BQ010BQS00BQW10BQy00BR010BRS00BRW10BRy00BS010BSS00BSW10BSy00BT010BTS00BTW10BTy00BU010Bbu0",
    "0Be010Bfe00Bfi10BlG00C0410C4000C4410C9S00C9a10CG000CGK10CJ000CMG20COy00CP010CUO00CV010CXy0",
    "0CaW10Cy800D0010f8q00f9010fCS00fD010fYm00fa410flW00fm010fzq00f_O10g2q00g3010g3e00g4010g7W0",
    "0g8010gCO00gCu10gDe00gE010gLG00gLy10gNq00gO010gSu00gSy10gTe00gTu10gVy00gW010gZS00ga010gau0",
    "0gb010gbe00gbm10giC00gji10glS00gm410gmS00gma10gmy00gn410gnS00go010goS00goW10goy00gp010gsm0",
    "0gy010g.u00g_010g_e00h0010rwG00rx010ryS00ryi10r_m00.G010.cu00.d010.je00.nu10.pS00.x810_T00",
    "0_Vq10_W020_X800_Y010_Z000_aK10_b800_dC10_dK00_ly20_m000_w020_xy010001100m0100q1102S0102W1",
    "103i0103m1103u0103y1104u010501105u01080110Fi010G0110GC010GS110JG010JS110Oy010P0110Pq010Q01",
    "10Q4010T0110Vu010e0110fq010g0110j4010k0110lm010m0110oG010oq110qi010r0110ti010u0110vu010vy1",
    "10yG010yW110zO0112W1119u011A0111Ae011DW111Fm011G0111IW011J0111MG011My111Ni011PS111Q8011QC1",
    "11R8011RC111Re011Ri111Rq011S0111VG011W0111pS011q0111rO011s0111sW011u0111uO012001120O0120W1",
    "120a0120e1123O0123S1123a0123m1123q0123y1125O0125S1129y012AS112B0012E0112FC012FG112FO012Fi1",
    "12Hm012Hy112Je012Jy112Le012O0112RW012Rm112T0012T8112WG012WK112WS012Wm112XG012XK112XW012Xa1",
    "12ZO012ZW112Zi012Zy112aa012b0112ba012c0112g0012i0112kS012ki112lS012m0112pO012pa112rO012rW1",
    "12tC012tW112v8012va112vq012wa112x0013001134a013C0113FC013Fe113IW013J0113Je013K0113MO013Ma1",
    "13OO013Ou113P0013c0113dy013e0113ge013gi113gu013h0113h8013i8113iW013j0113ja013le113oW013p01",
    "13re013t0113ue013x0113ym013.0113_S014001144u014581147O0147y114Bq014Bu114CC014D0114Ea014F01",
    "14Fe014G0114JK014JO114KW014L0114NS014O0114U0014U4114VK014W0114X8014XC114a8014e0114eS014eW1",
    "14ea014ee114eu014ey114fu014fy114ge014h0114ki014l0114le014m0114mG014mK114mq014my114n4014nC1",
    "14oa014oe114p4014p8114pG014pK114pe014pi114qK014qS114qa014qi114qu014r0114r4014rS114rW014rq1",
    "14sG014sO114sq014t0114tK014u0114ue014ui114um014uu114uy014v0114xO014xS114y4014y8114yC014yK1",
    "14yO014yS114yi014ym114zO014zS114za014.4114.C015001155m0155q1156801580115CW015D0115De015O01",
    "15RO015RW115Tu015W0115aK015b0115be015c0115cq015e0115he015i0115ie015j0115kG015m0115ni015nq1",
    "15om015p0115qS016001163m016C0116FC016Fy116GS016Ga116Ge016Gm116HG016HK116HS016HW116JO016JS1",
    "16Ja016Ji116KS016L0116Le016Q0116QW016Qe116TW016Te116UK016W0116aW016b0116gC016h0116la016m01",
    "16me016s0116sW016y0116.8016_0116_e017001170a0170e1173S0173W1174O017501176q0177011790017981",
    "17AW017Aa117BS017G0117GS017GW117Ge017Gi117JS017Je117Ji017Jm117Ju017Jy117KW017L0117Le017M01",
    "17MO017MS117Ma017Me117Oy017P0117P8017PC117Pa017Q0117Qe017R0117Tm017U0117Ue017k0117la017m01",
    "17n4017n8117pi017pu117ri017x0117x4017y0117_8017_y118ve019001196y019701197K01980119KG01Bv01",
    "1B_C01C0011D3001D4011D5O01D6011G_i01H0011HaS01OG011OJe01Q0011QZa01Qa011Qby01Qc011Qce01Qcu1",
    "1Qhy01Qi011Qie01Qj011Qku01Ql011QlO01Qm011QqO01Qr011Qre01Qri11Qs801QsC11QtW01Qtq11Qv001RK01",
    "1RNe01Rc011Rfi01Rhi11RjG01Rm011Rqi01Rqy11RuW01Ruy11Rw001R.011R.K01R_011R_S01S0011ZDO01ZFy1",
    "1ZHy01ZO011ZVC01h_011h_G01h_K11h_m01h_q11h_y01i0011iIC01iJ811iJC01iL011iLC01iLK11iLO01iMG1",
    "1iMW01iN011ilm01l0011l6i01l7011l7q01l8011l8a01l9011l9e01l9m11lA021lAG01p0011pFq01pG011phG0",
    "1phe11pj401pk011pl401pm011pou01pp011pqS01pr011pyG01q0011qFO01qG011qIS01qIa11qNC21qNi11qUi0",
    "1qW011qaO01qi011qjG01qk011qlG01qm011qrS01qs011qta01s0011sem01sfi11sg001sg411sh001tm011tny0",
    "1toK11toi01u0011u0S01u0W11u1a01u1i11u2801u2C11u2K01u2O11u2i01u8y11u9001uG011uIq01uJ011uJu0",
    "1uK011uKe01uKu11uL001uf011ugy01ui011ule01uly11um001vD011vFe01vT011vVi01vVy11vW001vi011vjy0",
    "1vk011vlO01vlu11vm001v.011v.S01v.W11v.m01v.q11v.y01v_011v_y01w0011wCK01wCS11wDS01wI811wKm0",
    "1wL011wLe01wLu11wM001x7411xBK01xG411xJu01xl011xl801y0011y2m01y3011y9G01yA011yAy01yB411yC00",
    "1yC411yD001yD411yFO01yGi11yQu01yUO11yWC01yc011ycO01ym011zja01zjm11zkq01zl011zlq01zm011zze0",
    "1z.011z.m01z_011z_401.0011.0m01.1011.4W01.5011.5e01.6011.8W01.9011.Au01.B011.Bm01.C011.C80",
    "1.D011.Da01.G011.bW01.c011.cu01.d011.dq01.e011.ei01.eu11.iS01.iW11.ia01.iq11.jq01.jy11.ki0",
    "1.ky11.la01.m011.vC01.vG11._i0200012fk002fm012k1u02k2012pgu02ph012w.402w_012xbu02.0012.Xu0",
    "3000134qi034r013D7e0E0G02E0V00"]

/-- For each character replaced by one other, its code point times 2^18 plus that of the other. -/
def replacementEntries : Array Nat := Packed.unpack 6
  ["01101X01201Y01301Z01401a01501b01601c01701d01801e01901f01A01g01B01h01C01i01D01j01E01k01F01l",
    "01G01m01H01n01I01o01J01p01K01q01L01r01M01s01N01t01O01u01P01v01Q01w02W00W02g01X02o00o02p00p",
    "02r0Ey02v00n02w01l03003W03103X03203Y03303Z03403a03503b03603c03703d03803e03903f03A03g03B03h",
    "03C03i03D03j03E03k03F03l03G03m03H03n03I03o03J03p03K03q03L03r03M03s03O03u03P03v03Q03w03R03x",
    "03S03y03T03z03U03.04004104204304404504604704804904A04B04C04D04E04F04G04H04I04J04K04L04M04N",
    "04O04P04Q04R04S04T04U04V04W04X04Y04Z04a04b04c04d04e04f04g04h04i04j04k04l04q04r04s04t04v04w",
    "04x04y04z04.05105205305405505605705805A05B05C05D05E05F05G05H05I05J05K05L05M05N05O05P05Q05R",
    "05S05T05U05V05W05X05Y05Z05a05b05c05d05e05f05g05h05i05j05k05l05m05n05o05p05q05r05s05t05u03_",
    "05v05w05x05y05z05.05_01p06109J06206306406506609K06706806909M06A09N06B06C06E07T06F09P06G09R",
    "06H06I06J09W06K09Z06M09f06N09e06O06P06S09l06T09o06V09r06W06X06Y06Z06a06b06c0A006d06e06f0A3",
    "06i06j06k0A806l06m06n0AA06o0AB06p06q06r06s06t0AI06u06v06y06z07D07E07F07G07H07I07J07K07L07M",
    "07N07O07P07Q07R07S07U07V07W07X07Y07Z07a07b07c07d07e07f07g07h07i07j07k07l07q07r07s06L07t06_",
    "07u07v07w07x07y07z07.07_08008108208308408508608708808908A08B08C08D08E08F08G08H08I08J08K08L",
    "08M08N08O08P08Q08R08S08T08U08V08W06U08Y08Z08a08b08c08d08e08f08g08h08i08j08k08l08m08n08o08p",
    "08w2nb08x08y08z06Q08.2nc0910920930600940A90950AC09609709809909A09B09C09D09E09F0Am01e0An09c",
    "0Ao01g0Ap01o0Aq09v0Ar09x0As0A10At01t0Au01v0BW09Z0BX01i0BY01p0BZ01u0Ba0AL0D50Ev0Dm0Dn0Do0Dp",
    "0Ds0Dt0D_0Fp0E60Ei0E80Ej0E90Ek0EA0El0EC0FC0EE0FD0EF0FE0EH0En0EI0Eo0EJ0Ep0EK0Eq0EL0Er0EM0Es",
    "0EN0Et0EO0Eu0EP0Ev0EQ0Ew0ER0Ex0ES0Ey0ET0Ez0EU0E.0EV0E_0EW0F00EX0F10EZ0F30Ea0F40Eb0F50Ec0F6",
    "0Ed0F70Ee0F80Ef0F90Eg0FA0Eh0FB0FF0FN0FG0Eo0FH0Eu0FI0F50FJ0FD0FK0FB0FL0F60FM0F00FO0FP0FQ0FR",
    "0FS0FT0FU0FV0FW0FX0FY0FZ0Fa0Fb0Fc0Fd0Fe0Ff0Fg0Fh0Fi0Fj0Fk0Fl0Fm0Ew0Fn0F10Fo0F30Fq0Eu0Fr0Er",
    "0Ft0Fu0Fv0F30Fw0Fx0Fz0Dx0F.0Dy0F_0Dz0G00HG0G10HH0G20HI0G30HJ0G40HK0G50HL0G60HM0G70HN0G80HO",
    "0G90HP0GA0HQ0GB0HR0GC0HS0GD0HT0GE0HU0GF0HV0GG0Gm0GH0Gn0GI0Go0GJ0Gp0GK0Gq0GL0Gr0GM0Gs0GN0Gt",
    "0GO0Gu0GP0Gv0GQ0Gw0GR0Gx0GS0Gy0GT0Gz0GU0G.0GV0G_0GW0H00GX0H10GY0H20GZ0H30Ga0H40Gb0H50Gc0H6",
    "0Gd0H70Ge0H80Gf0H90Gg0HA0Gh0HB0Gi0HC0Gj0HD0Gk0HE0Gl0HF0HW0HX0HY0HZ0Ha0Hb0Hc0Hd0He0Hf0Hg0Hh",
    "0Hi0Hj0Hk0Hl0Hm0Hn0Ho0Hp0Hq0Hr0Hs0Ht0Hu0Hv0Hw0Hx0Hy0Hz0H.0H_0I00I10IA0IB0IC0ID0IE0IF0IG0IH",
    "0II0IJ0IK0IL0IM0IN0IO0IP0IQ0IR0IS0IT0IU0IV0IW0IX0IY0IZ0Ia0Ib0Ic0Id0Ie0If0Ig0Ih0Ii0Ij0Ik0Il",
    "0Im0In0Io0Ip0Iq0Ir0Is0It0Iu0Iv0Iw0Ix0Iy0Iz0I.0I_0J00JF0J10J20J30J40J50J60J70J80J90JA0JB0JC",
    "0JD0JE0JG0JH0JI0JJ0JK0JL0JM0JN0JO0JP0JQ0JR0JS0JT0JU0JV0JW0JX0JY0JZ0Ja0Jb0Jc0Jd0Je0Jf0Jg0Jh",
    "0Ji0Jj0Jk0Jl0Jm0Jn0Jo0Jp0Jq0Jr0Js0Jt0Ju0Jv0Jw0Jx0Jy0Jz0J.0J_0K00K10K20K30K40K50K60K70K80K9",
    "0KA0KB0KC0KD0KE0KF0KG0KH0KI0KJ0KK0KL0KM0KN0KO0KP0KQ0KR0KS0KT0KU0KV0KW0KX0KY0KZ0Ka0Kb0Kc0Kd",
    "0Ke0Kf0Kg0Kh0Ki0Kj0Kk0Kl0Kn0LX0Ko0LY0Kp0LZ0Kq0La0Kr0Lb0Ks0Lc0Kt0Ld0Ku0Le0Kv0Lf0Kw0Lg0Kx0Lh",
    "0Ky0Li0Kz0Lj0K.0Lk0K_0Ll0L00Lm0L10Ln0L20Lo0L30Lp0L40Lq0L50Lr0L60Ls0L70Lt0L80Lu0L90Lv0LA0Lw",
    "0LB0Lx0LC0Ly0LD0Lz0LE0L.0LF0L_0LG0M00LH0M10LI0M20LJ0M30LK0M40LL0M50LM0M60yC0yB12W2q012X2q1",
    "12Y2q212Z2q312a2q412b2q512c2q612d2q712e2q812f2q912g2qA12h2qB12i2qC12j2qD12k2qE12l2qF12m2qG",
    "12n2qH12o2qI12p2qJ12q2qK12r2qL12s2qM12t2qN12u2qO12v2qP12w2qQ12x2qR12y2qS12z2qT12.2qU12_2qV",
    "1302qW1312qX1322qY1332qZ1342qa1352qb1372qd13D2qj13y13S1Fu1Fm1Fv1Fn1Fw1Fo1Fx1Fp1Fy1Fq1Fz1Fr",
    "1o00Go1o10Gq1o20G.1o30H11o40H21o50H21o60HA1o70HZ1o8APB1o91oA1oG13G1oH13H1oI13I1oJ13J1oK13K",
    "1oL13L1oM13M1oN13N1oO13O1oP13P1oQ13Q1oR13R1oS13S1oT13T1oU13U1oV13V1oW13W1oX13X1oY13Y1oZ13Z",
    "1oa13a1ob13b1oc13c1od13d1oe13e1of13f1og13g1oh13h1oi13i1oj13j1ok13k1ol13l1om13m1on13n1oo13o",
    "1op13p1oq13q1or13r1os13s1ot13t1ou13u1ov13v1ow13w1oz13z1o.13.1o_13_1qi01X1qj03c1qk01Y1qm01a",
    "1qn01b1qo07T1qp01d1qq01e1qr01f1qs01g1qt01h1qu01i1qv01j1qw01k1qy01l1qz08Z1q.01m1q_01o1r001q",
    "1r101r1r201t1r301X1r409G1r509H1r61q21r701Y1r801a1r901b1rA09P1rB09R1rC09S1rD01d1rF01h1rG01j",
    "1rH05B1rI01l1rJ09K1rK1qM1rL1qN1rM01m1rN01q1rO01r1rP1qT1rQ09l1rR01s1rS1qb1rT0Eo1rU0Ep1rV0Eq",
    "1rW0F61rX0F71rY01f1rZ01o1ra01r1rb01s1rc0Eo1rd0Ep1re0F11rf0F61rg0F71ru0Gz1sR09I1sS01Z1sT09L",
    "1sU03m1sV09S1sW01c1sX09V1sY09X1sZ09b1sa09e1sb09f1sc09g1sd1rx1se0AT1sf09j1sg1s51sh0AV1si09n",
    "1sj09m1sk09o1sl09p1sm09q1sn09r1so09u1sp0A21sq0A31sr06h1ss0A91st0AA1su1qS1sv0AB1sw0AC1sx01w",
    "1sy0AG1sz0AH1s.0AI1s_0Eu1u01u11u21u31u41u51u61u71u81u91uA1uB1uC1uD1uE1uF1uG1uH1uI1uJ1uK1uL",
    "1uM1uN1uO1uP1uQ1uR1uS1uT1uU1uV1uW1uX1uY1uZ1ua1ub1uc1ud1ue1uf1ug1uh1ui1uj1uk1ul1um1un1uo1up",
    "1uq1ur1us1ut1uu1uv1uw1ux1uy1uz1u.1u_1v01v11v21v31v41v51v61v71v81v91vA1vB1vC1vD1vE1vF1vG1vH",
    "1vI1vJ1vK1vL1vM1vN1vO1vP1vQ1vR1vS1vT1vU1vV1vW1vX1vY1vZ1va1vb1vc1vd1ve1vf1vg1vh1vi1vj1vk1vl",
    "1vm1vn1vo1vp1vq1vr1vs1vt1vu1vv1vw1vx1vy1vz1v.1v_1w01w11w21w31w41w51w61w71w81w91wA1wB1wC1wD",
    "1wE1wF1wG1wH1wI1wJ1wK1wL1wR1vX1wU03V1wW1wX1wY1wZ1wa1wb1wc1wd1we1wf1wg1wh1wi1wj1wk1wl1wm1wn",
    "1wo1wp1wq1wr1ws1wt1wu1wv1ww1wx1wy1wz1w.1w_1x01x11x21x31x41x51x61x71x81x91xA1xB1xC1xD1xE1xF",
    "1xG1xH1xI1xJ1xK1xL1xM1xN1xO1xP1xQ1xR1xS1xT1xU1xV1xW1xX1xY1xZ1xa1xb1xc1xd1xe1xf1xg1xh1xi1xj",
    "1xk1xl1xm1xn1xo1xp1xq1xr1xs1xt1xu1xv1xw1xx1xy1xz1x.1x_1y81y01y91y11yA1y21yB1y31yC1y41yD1y5",
    "1yE1y61yF1y71yO1yG1yP1yH1yQ1yI1yR1yJ1yS1yK1yT1yL1ye1yW1yf1yX1yg1yY1yh1yZ1yi1ya1yj1yb1yk1yc",
    "1yl1yd1yu1ym1yv1yn1yw1yo1yx1yp1yy1yq1yz1yr1y.1ys1y_1yt1z81z01z91z11zA1z21zB1z31zC1z41zD1z5",
    "1zP1zH1zR1zJ1zT1zL1zV1zN1ze1zW1zf1zX1zg1zY1zh1zZ1zi1za1zj1zb1zk1zc1zl1zd1zn0Ei1zp0Ej1zr0Ek",
    "1zt0El1zv0FC1zx0FD1zz0FE1.u1.m1.v1.n1.w1zm1.x0Ei1_81zo1_90Ej1_A1zq1_B0Ek1_J0EG1_O1_G1_P1_H",
    "1_Q1zs1_R0El1_Z0Em1_e1_W1_f1_X1_g1zw1_h0FD1_i1_b1_u1zu1_v0FC1_w1zy1_x0FE20000W20100W20200W",
    "20300W20400W20500W20600W20700W20800W20900W20A00W20H20G20l00W21V00W21m00m21n01f21q00q21r00r",
    "21s00s21t00t21u00u21v00v21w00h21x28I21y00z21z00e21.00f21_01k22000m22100n22200o22300p22400q",
    "22500r22600s22700t22800u22900v22A00h22B28I22C00z22D00e22E00f22G01X22H01b22I01l22J01u22K09P",
    "22L01e22M01h22N01i22O01j22P01k22Q01m22R01p22S01q24201Z24709R24A01d24B01e24C01e24D01e24E01e",
    "24F04d24G01f24H01f24I01i24J01i24L01k24P01m24Q01n24R01o24S01o24T01o24a01w24c0F924e01w24g01h",
    "24h03b24i01Y24j01Z24l01b24m01b24n01c24o25E24p01j24q01l24r0NG24s0NH24t0NI24u0NJ24v01f24y0F0",
    "24z0Ep24.0Ep24_0F025028H25501a25601a25701b25801f25901g25W01f25a01s25f01u25i01i25j01Z25k01a",
    "25l01j25m01f25q01s25v01u25y01i25z01Z25.01a25_01j2632642HW00n2HX00o2HY00p2HZ00q2Ha00r2Hb00s",
    "2Hc00t2Hd00u2He00v2Is01X2It01Y2Iu01Z2Iv01a2Iw01b2Ix01c2Iy01d2Iz01e2I.01f2I_01g2J001h2J101i",
    "2J201j2J301k2J401l2J501m2J601n2J701o2J801p2J901q2JA01r2JB01s2JC01t2JD01u2JE01v2JF01w2JG01X",
    "2JH01Y2JI01Z2JJ01a2JK01b2JL01c2JM01d2JN01e2JO01f2JP01g2JQ01h2JR01i2JS01j2JT01k2JU01l2JV01m",
    "2JW01n2JX01o2JY01p2JZ01q2Ja01r2Jb01s2Jc01t2Jd01u2Je01v2Jf01w2Jg00m2m02mm2m12mn2m22mo2m32mp",
    "2m42mq2m52mr2m62ms2m72mt2m82mu2m92mv2mA2mw2mB2mx2mC2my2mD2mz2mE2m.2mF2m_2mG2n02mH2n12mI2n2",
    "2mJ2n32mK2n42mL2n52mM2n62mN2n72mO2n82mP2n92mQ2nA2mR2nB2mS2nC2mT2nD2mU2nE2mV2nF2mW2nG2mX2nH",
    "2mY2nI2mZ2nJ2ma2nK2mb2nL2mc2nM2md2nN2me2nO2mf2nP2mg2nQ2mh2nR2mi2nS2mj2nT2mk2nU2ml2nV2nW2nX",
    "2nY09h2nZ1rz2na09z2nd2ne2nf2ng2nh2ni2nj09H2nk09n2nl09G2nm09I2no2np2nr2ns2ny01g2nz01s2n.08_",
    "2n_0902o02o12o22o32o42o52o62o72o82o92oA2oB2oC2oD2oE2oF2oG2oH2oI2oJ2oK2oL2oM2oN2oO2oP2oQ2oR",
    "2oS2oT2oU2oV2oW2oX2oY2oZ2oa2ob2oc2od2oe2of2og2oh2oi2oj2ok2ol2om2on2oo2op2oq2or2os2ot2ou2ov",
    "2ow2ox2oy2oz2o.2o_2p02p12p22p32p42p52p62p72p82p92pA2pB2pC2pD2pE2pF2pG2pH2pI2pJ2pK2pL2pM2pN",
    "2pO2pP2pQ2pR2pS2pT2pU2pV2pW2pX2pY2pZ2ph2pi2pj2pk2po2pp2rl2rX2wV6lD2xp9.V2y04u02y14ue2y24us",
    "2y34u_2y44vP2y54w52y64wC2y74wW2y84ww2y954_2yA55b2yB55h2yC5622yD56M2yE56h2yF57W2yG57r2yH580",
    "2yI5AR2yJ5Bv2yK5CL2yL5CQ2yM5Cu2yN5D12yO5DS2yP5Df2yQ5E22yR5Es2yS5F82yT5FZ2yU5RN2yV5SV2yW5Zh",
    "2yX5a22yY5aA2yZ5aL2ya5ad2yb5bp2yc5jG2yd5k02ye5lu2yf5mF2yg5mY2yh5mu2yi5nk2yj5nn2yk5tR2yl5tb",
    "2ym5tn2yn5t.2yo5vo2yp5vw2yq5v_2yr5xq2ys5x.2yt5yB2yu5yJ2yv5zG2yw5zX2yx5zp2yy5_32yz6882y.68s",
    "2y_69B2z06Kl2z16Kq2z26M72z36MN2z46Ma2z56Mv2z66NW2z76Nb2z86Rm2z96S82zA6Se2zB6iW2zC6jY2zD6jv",
    "2zE6kp2zF6lB2zG6lK2zH6lR2zI6mF2zJ6mK2zK6mq2zL71h2zM78g2zN78s2zO78x2zP78_2zQ7972zR79P2zS79R",
    "2zT7Ai2zU7E42zV7E92zW7JS2zX7Jc2zY7KO2zZ7KV2za7Ke2zb7Km2zc7MB2zd7MI2ze7Ps2zf7Pz2zg7Qk2zh7Q_",
    "2zi7Rk2zj7VR2zk7VY2zl7Vp2zm7aw2zn7cu2zo7c.2zp7fq2zq7hB2zr7hv2zs7np2zt7pu2zu7ys2zv7zH2zw7.A",
    "2zx7.z2zy8012zz80C2z.80I2z_80p2.081_2.18292.287Z2.387g2.487p2.587y2.688C2.788R2.888V2.989k",
    "2.A89o2.B89u2.C8PD2.D8Ph2.E8X02.F8XC2.G8XZ2.H8b.2.I8cB2.J8dI2.K8e02.L8mt2.M8n62.N8nL2.O8nu",
    "2.P8oT2.Q8ra2.R8rm2.S8sp2.T8wh2.U8xA2.V8.R2.W8.m2.X8.r2.Y92H2.Z9592.a9762.b97C2.c97H2.d9Lt",
    "2.e9M02.f9OS2.g9Qs2.h9Qv2.i9Re2.j9TH2.k9TU2.l9TY2.m9Tf2.n9VB2.o9Vj2.p9Vp2.q9W12.r9Ye2.s9ZR",
    "2.t9ZV2.u9cM2.v9cP2.w9ci2.x9ge2.y9hO2.z9hV2..9ib2._9il2_09io2_19iy2_29jQ2_39pb2_49vr2_59v_",
    "2_69wb2_79wx2_89x32_99xD2_A9xH2_B9xv2_C9xz2_D9yE2_E9yJ2_F9yW2_G9yx2_H9zA2_I9zI2_J9.D2_K9.S",
    "2_L9.W30000W30200k30s30I30u5D130v5D430w5D534n14034o14134p16g34q14234r16i34s16j34t14334u144",
    "34v14534w16m34x16n34y16o34z16p34.16q34_16r35014Q35114635214735314835414X35514935614A35714B",
    "35814C35914D35A14E35B14F35C14G35D14H35E14I35F15X35G15Y35H15Z35I15a35J15b35K15c35L15d35M15e",
    "35N15f35O15g35P15h35Q15i35R15j35S15k35T15l35U15m35V15n35W15o35X15p35Y15q35Z15r35b14K35c14L",
    "35d17735e17835f17C35g17E35h17J35i17N35j17P35k14S35l17T35m17V35n14T35o14U35p14W35q14Y35r14Z",
    "35s14d35t14f35u14h35v14i35w14j35x14k35y14l35z14o35.14s35_15036015736115C36217n36317o36415N",
    "36515O36615P36716436816536916836A16H36B16I36C16K36D16U36E16X36I4u036J4wC36K4u936L5RR36M4uA",
    "36N4uj36O4uB36P7Ko36Q4vP36R4uP36S4u136T5af36U5Sm36V4ww3945LF3955vy3966M73977kF39W14039X142",
    "39Y14339Z14539a14639b14739c14939d14B39e14C39f14E39g14F39h14G39i14H39j14I39kAm039lB2O39mBBa",
    "39nBTy39oBd839pBmK39qC2i39rCL439sCUG39tCme39uCvq39vD3039wDCC39xDLO39.CQm3A04u03A14wC3A24u9",
    "3A35RR3A44wK3A555j3A64u33A755h3A84vT3A95D13AA6S83AB71h3AC6mq3AD6Se3AE97H3AF5SV3AG6Nb3AH6Wg",
    "3AI6S93AJ7a.3AK5GD3AL79v3AM8oX3AN7bT3AO5Aq3AP7dO3AQ7Kt3AR5bp3AS91f3AT54g3AU5Dm3AV6pe3AW9W5",
    "3AX4yH3AY56P3AZ6jZ3Aa4uA3Ab4uj3Ac4uB3Ad5tc3Ae5Fp3Af5Cx3Ag5kN3Ah5jc3Ai7RZ3Aj4y13Ak8p73Al5DK",
    "3Am5aS3BG32Y3BH32a3BI32c3BJ32e3BK32g3BL32h3BM32j3BN32l3BO32n3BP32p3BQ32r3BR32t3BS32v3BT32x",
    "3BU32z3BV32_3BW3313BX3343BY3363BZ3383Ba33A3Bb33B3Bc33C3Bd33D3Be33E3Bf33F3Bg33I3Bh33L3Bi33O",
    "3Bj33R3Bk33U3Bl33V3Bm33W3Bn33X3Bo33Y3Bp33a3Bq33c3Br33e3Bs33f3Bt33g3Bu33h3Bv33i3Bw33j3Bx33l",
    "3By33m3Bz33n3B.33oAP0AP1AP2AP3AP4AP5AP6AP7AP8AP9APAAPBAPCAPDAPEAPFAPGAPHAPIAPJAPKAPLAPMAPN",
    "APOAPPAPQAPRAPSAPTAPUAPVAPWAPXAPYAPZAPaAPbAPcAPdAPeAPfAPgAPhAPiAPjAQ0AQ1AQ2AQ3AQ4AQ5AQ6AQ7",
    "AQ8AQ9AQAAQBAQCAQDAQEAQFAQGAQHAQIAQJAQKAQLAQMAQNAQOAQPAQQAQRAQS0HAAQT0HCASYASZASaASbAScASd",
    "ASeASfASgAShASiASjASkASlASoASpASqASrASsAStASuASvASwASxASyASzAS.AS_AT0AT1AT2AT3AT4AT5AT6AT7",
    "AT8AT9ATAATBATCATDATEATFATGATHATIATJATKATLATMATNATOATPATQATRATSATTATUATVATWATXATYATZATaATb",
    "ATcATdATeATfATgAThATiATjATkATlATmATlATvATwATxATyATz1rvAT.AT_AU0AU1AU2AU3AU4AU5AU6AU7AUBAUC",
    "AUD09bAUGAUHAUIAUJAUMAUNAUOAUPAUQAURAUSAUTAUUAUVAUWAUXAUYAUZAUaAUbAUcAUdAUeAUfAUg09cAUh09S",
    "AUi09XAUj09iAUk09gAUm0AUAUn0A7AUo0ATAUpAjJAUqAUrAUsAUtAUuAUvAUwAUxAUyAUzAU.AU_AV0AV1AV2AV3",
    "AV4AUKAV50A2AV61sEAV7AV8AV9AVAAVB09aAVCAVDAVEAVFAVGAVHAVIAVJAVKAVLAVMAVNAVOAVPAVQAVRAVS06R",
    "AVn01pAVo01ZAVp01cAVq01nAVrAVsAVu04dAVv05JAjSASdAjTAitAjU09hAjVAjIAjf0ADAjm1EWAjn1EXAjo1EY",
    "Ajp1EZAjq1EaAjr1EbAjs1EcAjt1EdAju1EeAjv1EfAjw1EgAjx1EhAjy1EiAjz1EjAj.1EkAj_1ElAk01EmAk11En",
    "Ak21EoAk31EpAk41EqAk51ErAk61EsAk71EtAk81EuAk91EvAkA1EwAkB1ExAkC1EyAkD1EzAkE1E.AkF1E_AkG1F0",
    "AkH1F1AkI1F2AkJ1F3AkK1F4AkL1F5AkM1F6AkN1F7AkO1F8AkP1F9AkQ1FAAkR1FBAkS1FCAkT1FDAkU1FEAkV1FF",
    "AkW1FGAkX1FHAkY1FIAkZ1FJAka1FKAkb1FLAkc1FMAkd1FNAke1FOAkf1FPAkg1FQAkh1FRAki1FSAkj1FTAkk1FU",
    "Akl1FVAkm1FWAkn1FXAko1FYAkp1FZAkq1FaAkr1FbAks1FcAkt1FdAku1FeAkv1FfAkw1FgAkx1FhAky1FiAkz1Fj",
    "Ak.1FkAk_1FlFiW0NYFiX0NGFiY0NJFiZ0NKFia0NRFib0NSFic0NTFid0NeFie0NgFif00hFjG0PnFjH0PnFjI0Px",
    "FjJ0PxFjK0PxFjL0PxFjM0P.FjN0P.FjO0P.FjP0P.FjQ0Q0FjR0Q0FjS0Q0FjT0Q0FjU0PwFjV0PwFjW0PwFjX0Pw",
    "FjY0P_FjZ0P_Fja0P_Fjb0P_Fjc0PvFjd0PvFje0PvFjf0PvFjg0QaFjh0QaFji0QaFjj0QaFjk0QcFjl0QcFjm0Qc",
    "Fjn0QcFjo0Q4Fjp0Q4Fjq0Q4Fjr0Q4Fjs0Q3Fjt0Q3Fju0Q3Fjv0Q3Fjw0Q6Fjx0Q6Fjy0Q6Fjz0Q6Fj.0Q7Fj_0Q7",
    "Fk00Q7Fk10Q7Fk20QDFk30QDFk40QCFk50QCFk60QEFk70QEFk80Q8Fk90Q8FkA0QOFkB0QOFkC0QHFkD0QHFkE0Qf",
    "FkF0QfFkG0QfFkH0QfFkI0QlFkJ0QlFkK0QlFkL0QlFkM0QpFkN0QpFkO0QpFkP0QpFkQ0QnFkR0QnFkS0QnFkT0Qn",
    "FkU0QwFkV0QwFkW0QxFkX0QxFkY0QxFkZ0QxFka0R0Fkb0R0Fkc0R1Fkd0R1Fke0R1Fkf0R1Fkg0Q.Fkh0Q.Fki0Q.",
    "Fkj0Q.Fkk0RIFkl0RIFkm0RJFkn0RJFlJ0QjFlK0QjFlL0QjFlM0QjFlN0R7FlO0R7FlP0R6FlQ0R6FlR0R8FlS0R8",
    "FlU0RBFlV0RBFlW0R5FlX0R5FlY0R9FlZ0R9Fla0RGFlb0RGFlc0RGFld0RGFle0P9Flf0P9Fly0RCFlz0RCFl.0RC",
    "Fl_0RCFuG00iFuH301FuJ00wFuK00xFuL00XFuM00_FuN30MFuO30NFun20KFuo20JFup01VFuq01VFur00eFus00f",
    "Fut01xFuu01zFuv30KFuw30LFux30GFuy30HFuz30AFu.30BFu_308Fv0309Fv130CFv230DFv330EFv430FFv701R",
    "Fv801TFvD01VFvE01VFvF01VFvG00iFvH301FvK00xFvL00wFvM00_FvN00XFvO20KFvP00eFvQ00fFvR01xFvS01z",
    "FvT30KFvU30LFvV00ZFvW00cFvX00gFvY00hFvZ00jFva00yFvb00.Fvc00zFve01SFvf00aFvg00bFvh010Fw00OX",
    "Fw10OYFw20OYFw30OZFw40OZFw50OaFw60OaFw70ObFw80ObFw90OcFwA0OcFwB0OcFwC0OcFwD0OdFwE0OdFwF0Oe",
    "FwG0OeFwH0OeFwI0OeFwJ0OfFwK0OfFwL0OgFwM0OgFwN0OgFwO0OgFwP0OhFwQ0OhFwR0OhFwS0OhFwT0OiFwU0Oi",
    "FwV0OiFwW0OiFwX0OjFwY0OjFwZ0OjFwa0OjFwb0OkFwc0OkFwd0OkFwe0OkFwf0OlFwg0OlFwh0OmFwi0OmFwj0On",
    "Fwk0OnFwl0OoFwm0OoFwn0OpFwo0OpFwp0OpFwq0OpFwr0OqFws0OqFwt0OqFwu0OqFwv0OrFww0OrFwx0OrFwy0Or",
    "Fwz0OsFw.0OsFw_0OsFx00OsFx10OtFx20OtFx30OtFx40OtFx50OuFx60OuFx70OuFx80OuFx90OvFxA0OvFxB0Ov",
    "FxC0OvFxD0OwFxE0OwFxF0OwFxG0OwFxH0P1FxI0P1FxJ0P1FxK0P1FxL0P2FxM0P2FxN0P2FxO0P2FxP0P3FxQ0P3",
    "FxR0P3FxS0P3FxT0P4FxU0P4FxV0P4FxW0P4FxX0P5FxY0P5FxZ0P5Fxa0P5Fxb0P6Fxc0P6Fxd0P6Fxe0P6Fxf0P7",
    "Fxg0P7Fxh0P7Fxi0P7Fxj0P8Fxk0P8Fxl0P9Fxm0P9Fxn0PAFxo0PAFxp0PAFxq0PAFy100XFy200YFy300ZFy400a",
    "Fy500bFy600cFy700dFy800eFy900fFyA00gFyB00hFyC00iFyD00jFyE00kFyF00lFyG00mFyH00nFyI00oFyJ00p",
    "FyK00qFyL00rFyM00sFyN00tFyO00uFyP00vFyQ00wFyR00xFyS00yFyT00zFyU00.FyV00_FyW010FyX01XFyY01Y",
    "FyZ01ZFya01aFyb01bFyc01cFyd01dFye01eFyf01fFyg01gFyh01hFyi01iFyj01jFyk01kFyl01lFym01mFyn01n",
    "Fyo01oFyp01pFyq01qFyr01rFys01sFyt01tFyu01uFyv01vFyw01wFyx01RFyy01SFyz01TFy.01UFy_01VFz001W",
    "Fz101XFz201YFz301ZFz401aFz501bFz601cFz701dFz801eFz901fFzA01gFzB01hFzC01iFzD01jFzE01kFzF01l",
    "FzG01mFzH01nFzI01oFzJ01pFzK01qFzL01rFzM01sFzN01tFzO01uFzP01vFzQ01wFzR01xFzS01yFzT01zFzU01.",
    "FzV2c5FzW2c6FzX00kFzY30CFzZ30DFza301Fzb33xFzc33oFzd32XFze32ZFzf32bFzg32dFzh32fFzi33ZFzj33b",
    "Fzk33dFzl333Fzm33yFzn32YFzo32aFzp32cFzq32eFzr32gFzs32hFzt32jFzu32lFzv32nFzw32pFzx32rFzy32t",
    "Fzz32vFz.32xFz_32zF.032_F.1331F.2334F.3336F.4338F.533AF.633BF.733CF.833DF.933EF.A33FF.B33I",
    "F.C33LF.D33OF.E33RF.F33UF.G33VF.H33WF.I33XF.J33YF.K33aF.L33cF.M33eF.N33fF.O33gF.P33hF.Q33i",
    "F.R33jF.S33lF.T33pF.U32PF.V32QF.X140F.Y141F.Z16gF.a142F.b16iF.c16jF.d143F.e144F.f145F.g16m",
    "F.h16nF.i16oF.j16pF.k16qF.l16rF.m14QF.n146F.o147F.p148F.q14XF.r149F.s14AF.t14BF.u14CF.v14D",
    "F.w14EF.x14FF.y14GF.z14HF..14IF_215XF_315YF_415ZF_515aF_615bF_715cF_A15dF_B15eF_C15fF_D15g",
    "F_E15hF_F15iF_I15jF_J15kF_K15lF_L15mF_M15nF_N15oF_Q15pF_R15qF_S15rF_W02YF_X02ZF_Y02iF_a02c",
    "F_b02bF_c22fF_e2K2F_f26GF_g26HF_h26IF_i26JF_j2MWF_k2NBGG0GGeGG1GGfGG2GGgGG3GGhGG4GGiGG5GGj",
    "GG6GGkGG7GGlGG8GGmGG9GGnGGAGGoGGBGGpGGCGGqGGDGGrGGEGGsGGFGGtGGGGGuGGHGGvGGIGGwGGJGGxGGKGGy",
    "GGLGGzGGMGG.GGNGG_GGOGH0GGPGH1GGQGH2GGRGH3GGSGH4GGTGH5GGUGH6GGVGH7GGWGH8GGXGH9GGYGHAGGZGHB",
    "GGaGHCGGbGHDGGcGHEGGdGHFGImGJOGInGJPGIoGJQGIpGJRGIqGJSGIrGJTGIsGJUGItGJVGIuGJWGIvGJXGIwGJY",
    "GIxGJZGIyGJaGIzGJbGI.GJcGI_GJdGJ0GJeGJ1GJfGJ2GJgGJ3GJhGJ4GJiGJ5GJjGJ6GJkGJ7GJlGJ8GJmGJ9GJn",
    "GJAGJoGJBGJpGJCGJqGJDGJrGJEGJsGJFGJtGJGGJuGJHGJvGJIGJwGJJGJxGLmGMNGLnGMOGLoGMPGLpGMQGLqGMR",
    "GLrGMSGLsGMTGLtGMUGLuGMVGLvGMWGLwGMXGLyGMZGLzGMaGL.GMbGL_GMcGM0GMdGM1GMeGM2GMfGM3GMgGM4GMh",
    "GM5GMiGM6GMjGM7GMkGM8GMlGM9GMmGMAGMnGMCGMpGMDGMqGMEGMrGMFGMsGMGGMtGMHGMuGMIGMvGMKGMxGMLGMy",
    "GU10BGGU20BHGU303cGU40APGU509JGU70AZGU8AjcGU90AbGUA0AaGUB09MGUC09NGUD1sHGUE09OGUF09UGUG0Af",
    "GUH09aGUI09YGUJ09WGUK0ARGUL04dGUM0ASGUN09dGUO0A4GUP0AgGUQ0AhGUR09iGUSTy4GUTAUEGUU09kGUVTy5",
    "GUW0AEGUXTy6GUY03uGUZ09sGUa09tGUb01nGUc09wGUdTy8GUe09zGUf09.GUg0A0GUh0AeGUi0AcGUjAjdGUk0Ad",
    "GUl0A8GUm2nnGUo0AFGUp0AXGUq0AYGUr0AOGUs070GUt071GUu072GUvTyAGUwTyUGo0Gp0Go1Gp1Go2Gp2Go3Gp3",
    "Go4Gp4Go5Gp5Go6Gp6Go7Gp7Go8Gp8Go9Gp9GoAGpAGoBGpBGoCGpCGoDGpDGoEGpEGoFGpFGoGGpGGoHGpHGoIGpI",
    "GoJGpJGoKGpKGoLGpLGoMGpMGoNGpNGoOGpOGoPGpPGoQGpQGoRGpRGoSGpSGoTGpTGoUGpUGoVGpVGoWGpWGoXGpX",
    "GoYGpYGoZGpZGoaGpaGobGpbGocGpcGodGpdGoeGpeGofGpfGogGpgGohGphGoiGpiGojGpjGokGpkGolGplGomGpm",
    "GonGpnGooGpoGrGGrmGrHGrnGrIGroGrJGrpGrKGrqGrLGrrGrMGrsGrNGrtGrOGruGrPGrvGrQGrwGrRGrxGrSGry",
    "GrTGrzGrUGr.GrVGr_GrWGs0GrXGs1GrYGs2GrZGs3GraGs4GrbGs5HYWHZ0HYXHZ1HYYHZ2HYZHZ3HYaHZ4HYbHZ5",
    "HYcHZ6HYdHZ7HYeHZ8HYfHZ9HYgHZAHYhHZBHYiHZCHYjHZDHYkHZEHYlHZFHYmHZGHYnHZHHYoHZIHYpHZJHYqHZK",
    "HYrHZLHYsHZMHYtHZNHYuHZOHYvHZPHYwHZQHYxHZRHYyHZSHYzHZTHY.HZUHY_HZVMv0MvWMv1MvXMv2MvYMv3MvZ",
    "Mv4MvaMv5MvbMv6MvcMv7MvdMv8MveMv9MvfMvAMvgMvBMvhMvCMviMvDMvjMvEMvkMvFMvlMvGMvmMvHMvnMvIMvo",
    "MvJMvpMvKMvqMvLMvrMvMMvsMvNMvtMvOMvuMvPMvvMvQMvwMvRMvxMvSMvyMvTMvzMvUMv.MvVMv_MwWMwxMwXMwy",
    "MwYMwzMwZMw.MwaMw_MwbMx0MwcMx1MwdMx2MweMx3MwfMx4MwgMx5MwhMx6MwiMx7MwjMx8MwkMx9MwlMxAMwmMxB",
    "MwnMxCMwoMxDMwpMxEMwqMxFMwrMxGMwsMxHMwtMxIMwuMxJSpM01XSpN01YSpO01ZSpP01aSpQ01bSpR01cSpS01d",
    "SpT01eSpU01fSpV01gSpW01hSpX01iSpY01jSpZ01kSpa01lSpb01mSpc01nSpd01oSpe01pSpf01qSpg01rSph01s",
    "Spi01tSpj01uSpk01vSpl01wSpm00mSpn00nSpo00oSpp00pSpq00qSpr00rSps00sSpt00tSpu00uSpv00vTG001X",
    "TG101YTG201ZTG301aTG401bTG501cTG601dTG701eTG801fTG901gTGA01hTGB01iTGC01jTGD01kTGE01lTGF01m",
    "TGG01nTGH01oTGI01pTGJ01qTGK01rTGL01sTGM01tTGN01uTGO01vTGP01wTGQ01XTGR01YTGS01ZTGT01aTGU01b",
    "TGV01cTGW01dTGX01eTGY01fTGZ01gTGa01hTGb01iTGc01jTGd01kTGe01lTGf01mTGg01nTGh01oTGi01pTGj01q",
    "TGk01rTGl01sTGm01tTGn01uTGo01vTGp01wTGq01XTGr01YTGs01ZTGt01aTGu01bTGv01cTGw01dTGx01eTGy01f",
    "TGz01gTG.01hTG_01iTH001jTH101kTH201lTH301mTH401nTH501oTH601pTH701qTH801rTH901sTHA01tTHB01u",
    "THC01vTHD01wTHE01XTHF01YTHG01ZTHH01aTHI01bTHJ01cTHK01dTHM01fTHN01gTHO01hTHP01iTHQ01jTHR01k",
    "THS01lTHT01mTHU01nTHV01oTHW01pTHX01qTHY01rTHZ01sTHa01tTHb01uTHc01vTHd01wTHe01XTHf01YTHg01Z",
    "THh01aTHi01bTHj01cTHk01dTHl01eTHm01fTHn01gTHo01hTHp01iTHq01jTHr01kTHs01lTHt01mTHu01nTHv01o",
    "THw01pTHx01qTHy01rTHz01sTH.01tTH_01uTI001vTI101wTI201XTI301YTI401ZTI501aTI601bTI701cTI801d",
    "TI901eTIA01fTIB01gTIC01hTID01iTIE01jTIF01kTIG01lTIH01mTII01nTIJ01oTIK01pTIL01qTIM01rTIN01s",
    "TIO01tTIP01uTIQ01vTIR01wTIS01XTIU01ZTIV01aTIY01dTIb01gTIc01hTIf01kTIg01lTIh01mTIi01nTIk01p",
    "TIl01qTIm01rTIn01sTIo01tTIp01uTIq01vTIr01wTIs01XTIt01YTIu01ZTIv01aTIx01cTIz01eTI.01fTI_01g",
    "TJ001hTJ101iTJ201jTJ301kTJ501mTJ601nTJ701oTJ801pTJ901qTJA01rTJB01sTJC01tTJD01uTJE01vTJF01w",
    "TJG01XTJH01YTJI01ZTJJ01aTJK01bTJL01cTJM01dTJN01eTJO01fTJP01gTJQ01hTJR01iTJS01jTJT01kTJU01l",
    "TJV01mTJW01nTJX01oTJY01pTJZ01qTJa01rTJb01sTJc01tTJd01uTJe01vTJf01wTJg01XTJh01YTJi01ZTJj01a",
    "TJk01bTJl01cTJm01dTJn01eTJo01fTJp01gTJq01hTJr01iTJs01jTJt01kTJu01lTJv01mTJw01nTJx01oTJy01p",
    "TJz01qTJ.01rTJ_01sTK001tTK101uTK201vTK301wTK401XTK501YTK701aTK801bTK901cTKA01dTKD01gTKE01h",
    "TKF01iTKG01jTKH01kTKI01lTKJ01mTKK01nTKM01pTKN01qTKO01rTKP01sTKQ01tTKR01uTKS01vTKU01XTKV01Y",
    "TKW01ZTKX01aTKY01bTKZ01cTKa01dTKb01eTKc01fTKd01gTKe01hTKf01iTKg01jTKh01kTKi01lTKj01mTKk01n",
    "TKl01oTKm01pTKn01qTKo01rTKp01sTKq01tTKr01uTKs01vTKt01wTKu01XTKv01YTKx01aTKy01bTKz01cTK.01d",
    "TL001fTL101gTL201hTL301iTL401jTL601lTLA01pTLB01qTLC01rTLD01sTLE01tTLF01uTLG01vTLI01XTLJ01Y",
    "TLK01ZTLL01aTLM01bTLN01cTLO01dTLP01eTLQ01fTLR01gTLS01hTLT01iTLU01jTLV01kTLW01lTLX01mTLY01n",
    "TLZ01oTLa01pTLb01qTLc01rTLd01sTLe01tTLf01uTLg01vTLh01wTLi01XTLj01YTLk01ZTLl01aTLm01bTLn01c",
    "TLo01dTLp01eTLq01fTLr01gTLs01hTLt01iTLu01jTLv01kTLw01lTLx01mTLy01nTLz01oTL.01pTL_01qTM001r",
    "TM101sTM201tTM301uTM401vTM501wTM601XTM701YTM801ZTM901aTMA01bTMB01cTMC01dTMD01eTME01fTMF01g",
    "TMG01hTMH01iTMI01jTMJ01kTMK01lTML01mTMM01nTMN01oTMO01pTMP01qTMQ01rTMR01sTMS01tTMT01uTMU01v",
    "TMV01wTMW01XTMX01YTMY01ZTMZ01aTMa01bTMb01cTMc01dTMd01eTMe01fTMf01gTMg01hTMh01iTMi01jTMj01k",
    "TMk01lTMl01mTMm01nTMn01oTMo01pTMp01qTMq01rTMr01sTMs01tTMt01uTMu01vTMv01wTMw01XTMx01YTMy01Z",
    "TMz01aTM.01bTM_01cTN001dTN101eTN201fTN301gTN401hTN501iTN601jTN701kTN801lTN901mTNA01nTNB01o",
    "TNC01pTND01qTNE01rTNF01sTNG01tTNH01uTNI01vTNJ01wTNK01XTNL01YTNM01ZTNN01aTNO01bTNP01cTNQ01d",
    "TNR01eTNS01fTNT01gTNU01hTNV01iTNW01jTNX01kTNY01lTNZ01mTNa01nTNb01oTNc01pTNd01qTNe01rTNf01s",
    "TNg01tTNh01uTNi01vTNj01wTNk01XTNl01YTNm01ZTNn01aTNo01bTNp01cTNq01dTNr01eTNs01fTNt01gTNu01h",
    "TNv01iTNw01jTNx01kTNy01lTNz01mTN.01nTN_01oTO001pTO101qTO201rTO301sTO401tTO501uTO601vTO701w",
    "TO801XTO901YTOA01ZTOB01aTOC01bTOD01cTOE01dTOF01eTOG01fTOH01gTOI01hTOJ01iTOK01jTOL01kTOM01l",
    "TON01mTOO01nTOP01oTOQ01pTOR01qTOS01rTOT01sTOU01tTOV01uTOW01vTOX01wTOY01XTOZ01YTOa01ZTOb01a",
    "TOc01bTOd01cTOe01dTOf01eTOg01fTOh01gTOi01hTOj01iTOk01jTOl01kTOm01lTOn01mTOo01nTOp01oTOq01p",
    "TOr01qTOs01rTOt01sTOu01tTOv01uTOw01vTOx01wTOy01XTOz01YTO.01ZTO_01aTP001bTP101cTP201dTP301e",
    "TP401fTP501gTP601hTP701iTP801jTP901kTPA01lTPB01mTPC01nTPD01oTPE01pTPF01qTPG01rTPH01sTPI01t",
    "TPJ01uTPK01vTPL01wTPM01XTPN01YTPO01ZTPP01aTPQ01bTPR01cTPS01dTPT01eTPU01fTPV01gTPW01hTPX01i",
    "TPY01jTPZ01kTPa01lTPb01mTPc01nTPd01oTPe01pTPf01qTPg01rTPh01sTPi01tTPj01uTPk01vTPl01wTPm01X",
    "TPn01YTPo01ZTPp01aTPq01bTPr01cTPs01dTPt01eTPu01fTPv01gTPw01hTPx01iTPy01jTPz01kTP.01lTP_01m",
    "TQ001nTQ101oTQ201pTQ301qTQ401rTQ501sTQ601tTQ701uTQ801vTQ901wTQA01XTQB01YTQC01ZTQD01aTQE01b",
    "TQF01cTQG01dTQH01eTQI01fTQJ01gTQK01hTQL01iTQM01jTQN01kTQO01lTQP01mTQQ01nTQR01oTQS01pTQT01q",
    "TQU01rTQV01sTQW01tTQX01uTQY01vTQZ01wTQa04nTQb08tTQe0EnTQf0EoTQg0EpTQh0EqTQi0ErTQj0EsTQk0Et",
    "TQl0EuTQm0EvTQn0EwTQo0ExTQp0EyTQq0EzTQr0E.TQs0E_TQt0F0TQu0F1TQv0EuTQw0F3TQx0F4TQy0F5TQz0F6",
    "TQ.0F7TQ_0F8TR00F9TR1287TR20EnTR30EoTR40EpTR50EqTR60ErTR70EsTR80EtTR90EuTRA0EvTRB0EwTRC0Ex",
    "TRD0EyTRE0EzTRF0E.TRG0E_TRH0F0TRI0F1TRJ0F3TRK0F3TRL0F4TRM0F5TRN0F6TRO0F7TRP0F8TRQ0F9TRR282",
    "TRS0ErTRT0EuTRU0EwTRV0F6TRW0F1TRX0F0TRY0EnTRZ0EoTRa0EpTRb0EqTRc0ErTRd0EsTRe0EtTRf0EuTRg0Ev",
    "TRh0EwTRi0ExTRj0EyTRk0EzTRl0E.TRm0E_TRn0F0TRo0F1TRp0EuTRq0F3TRr0F4TRs0F5TRt0F6TRu0F7TRv0F8",
    "TRw0F9TRx287TRy0EnTRz0EoTR.0EpTR_0EqTS00ErTS10EsTS20EtTS30EuTS40EvTS50EwTS60ExTS70EyTS80Ez",
    "TS90E.TSA0E_TSB0F0TSC0F1TSD0F3TSE0F3TSF0F4TSG0F5TSH0F6TSI0F7TSJ0F8TSK0F9TSL282TSM0ErTSN0Eu",
    "TSO0EwTSP0F6TSQ0F1TSR0F0TSS0EnTST0EoTSU0EpTSV0EqTSW0ErTSX0EsTSY0EtTSZ0EuTSa0EvTSb0EwTSc0Ex",
    "TSd0EyTSe0EzTSf0E.TSg0E_TSh0F0TSi0F1TSj0EuTSk0F3TSl0F4TSm0F5TSn0F6TSo0F7TSp0F8TSq0F9TSr287",
    "TSs0EnTSt0EoTSu0EpTSv0EqTSw0ErTSx0EsTSy0EtTSz0EuTS.0EvTS_0EwTT00ExTT10EyTT20EzTT30E.TT40E_",
    "TT50F0TT60F1TT70F3TT80F3TT90F4TTA0F5TTB0F6TTC0F7TTD0F8TTE0F9TTF282TTG0ErTTH0EuTTI0EwTTJ0F6",
    "TTK0F1TTL0F0TTM0EnTTN0EoTTO0EpTTP0EqTTQ0ErTTR0EsTTS0EtTTT0EuTTU0EvTTV0EwTTW0ExTTX0EyTTY0Ez",
    "TTZ0E.TTa0E_TTb0F0TTc0F1TTd0EuTTe0F3TTf0F4TTg0F5TTh0F6TTi0F7TTj0F8TTk0F9TTl287TTm0EnTTn0Eo",
    "TTo0EpTTp0EqTTq0ErTTr0EsTTs0EtTTt0EuTTu0EvTTv0EwTTw0ExTTx0EyTTy0EzTTz0E.TT.0E_TT_0F0TU00F1",
    "TU10F3TU20F3TU30F4TU40F5TU50F6TU60F7TU70F8TU80F9TU9282TUA0ErTUB0EuTUC0EwTUD0F6TUE0F1TUF0F0",
    "TUG0EnTUH0EoTUI0EpTUJ0EqTUK0ErTUL0EsTUM0EtTUN0EuTUO0EvTUP0EwTUQ0ExTUR0EyTUS0EzTUT0E.TUU0E_",
    "TUV0F0TUW0F1TUX0EuTUY0F3TUZ0F4TUa0F5TUb0F6TUc0F7TUd0F8TUe0F9TUf287TUg0EnTUh0EoTUi0EpTUj0Eq",
    "TUk0ErTUl0EsTUm0EtTUn0EuTUo0EvTUp0EwTUq0ExTUr0EyTUs0EzTUt0E.TUu0E_TUv0F0TUw0F1TUx0F3TUy0F3",
    "TUz0F4TU.0F5TU_0F6TV00F7TV10F8TV20F9TV3282TV40ErTV50EuTV60EwTV70F6TV80F1TV90F0TVA0FTTVB0FT",
    "TVE00mTVF00nTVG00oTVH00pTVI00qTVJ00rTVK00sTVL00tTVM00uTVN00vTVO00mTVP00nTVQ00oTVR00pTVS00q",
    "TVT00rTVU00sTVV00tTVW00uTVX00vTVY00mTVZ00nTVa00oTVb00pTVc00qTVd00rTVe00sTVf00tTVg00uTVh00v",
    "TVi00mTVj00nTVk00oTVl00pTVm00qTVn00rTVo00sTVp00tTVq00uTVr00vTVs00mTVt00nTVu00oTVv00pTVw00q",
    "TVx00rTVy00sTVz00tTV.00uTV_00vU0m0GmU0n0GnU0o0GoU0p0GpU0q0GqU0r0GrU0s0GsU0t0GtU0u0GuU0v0Gw",
    "U0w0GxU0x0GyU0y0G.U0z0G_U0.0H0U0_0H1U100H2U110H3U120H4U130H5U140H6U150H7U160H8U170HBU180HD",
    "U190HEU1AAQ9U1B0JPU1C0HMU1D0HOU1E0JfU1F0IlU1G0JFU1H0GmU1I0GnU1J0GoU1K0GpU1L0GqU1M0GrU1N0Gs",
    "U1O0GtU1P0GuU1Q0GwU1R0GxU1S0G.U1T0G_U1U0H1U1V0H3U1W0H4U1X0H5U1Y0H6U1Z0H7U1a0H8U1b0HAU1c0HB",
    "U1d0IHU1e0HMU1f0HLU1g0HVU1h0IhU1iAPHU1j0InUa0UaYUa1UaZUa2UaaUa3UabUa4UacUa5UadUa6UaeUa7Uaf",
    "Ua8UagUa9UahUaAUaiUaBUajUaCUakUaDUalUaEUamUaFUanUaGUaoUaHUapUaIUaqUaJUarUaKUasUaLUatUaMUau",
    "UaNUavUaOUawUaPUaxUaQUayUaRUazUaSUa.UaTUa_UaUUb0UaVUb1UaWUb2UaXUb3Uu00OdUu10OeUu20OiUu30Ol",
    "Uu50P8Uu60OoUu70OjUu80OtUu90PAUuA0P3UuB0P4UuC0P5UuD0P6UuE0OpUuF0OvUuG0P1UuH0OrUuI0P2UuJ0On",
    "UuK0OqUuL0OgUuM0OhUuN0OkUuO0OmUuP0OsUuQ0OuUuR0OwUuS0PkUuT0QwUuU0QXUuV0PlUuX0OeUuY0OiUua0P7",
    "Uud0OjUuf0PAUug0P3Uuh0P4Uui0P5Uuj0P6Uuk0OpUul0OvUum0P1Uun0OrUuo0P2Uuq0OqUur0OgUus0OhUut0Ok",
    "Uuv0OsUux0OwUv20OiUv70OjUv90PAUvB0P4UvD0P6UvE0OpUvF0OvUvH0OrUvI0P2UvK0OqUvN0OkUvP0OsUvR0Ow",
    "UvT0QwUvV0PlUvX0OeUvY0OiUva0P7Uvd0OjUve0OtUvf0PAUvg0P3Uvi0P5Uvj0P6Uvk0OpUvl0OvUvm0P1Uvn0Or",
    "Uvo0P2Uvq0OqUvr0OgUvs0OhUvt0OkUvv0OsUvw0OuUvx0OwUvy0PkUv.0QXUw00OdUw10OeUw20OiUw30OlUw40P7",
    "Uw50P8Uw60OoUw70OjUw80OtUw90PAUwB0P4UwC0P5UwD0P6UwE0OpUwF0OvUwG0P1UwH0OrUwI0P2UwJ0OnUwK0Oq",
    "UwL0OgUwM0OhUwN0OkUwO0OmUwP0OsUwQ0OuUwR0OwUwX0OeUwY0OiUwZ0OlUwb0P8Uwc0OoUwd0OjUwe0OtUwf0PA",
    "Uwh0P4Uwi0P5Uwj0P6Uwk0OpUwl0OvUwm0P1Uwn0OrUwo0P2Uwp0OnUwq0OqUwr0OgUws0OhUwt0OkUwu0OmUwv0Os",
    "Uww0OuUwx0OwV4h01ZV4i01oV4m01XV4n01YV4o01ZV4p01aV4q01bV4r01cV4s01dV4t01eV4u01fV4v01gV4w01h",
    "V4x01iV4y01jV4z01kV4.01lV4_01mV5001nV5101oV5201pV5301qV5401rV5501sV5601tV5701uV5801vV5901w",
    "V8232rV8G69BV8H5jNV8I5FCV8J337V8K4wCV8L5aQV8M8dZV8N5afV8O4waV8P6OWV8Q74XV8R6MPV8S59DV8T5.C",
    "V8U56DV8V6MmV8W58TV8X7r2V8Y7KVV8Z8ofV8a5ZmV8b5GvV8c6yKV8d6ALV8e6DLV8f4u0V8g4u9V8h91AV8i5tc",
    "V8j4ujV8k5FpV8l6C7V8m8rmV8n69JV8o7c1V8p7fwV8q5G8V8r6w0V8s6S9V8t6S8V8u7KpV8v59oV8w5MsV8x95D",
    "V9G5.NV9H5FlVlm00mVln00nVlo00oVlp00pVlq00qVlr00rVls00sVlt00tVlu00uVlv00v"]

/-- For each character replaced by several, its code point times 2^18, plus 32 times the place of
the others in `expansionPoints`, plus their number. -/
def expansionEntries : Array Nat := Packed.unpack 6
  ["02e00202l01202q02202u03202y04302z05Z02.07304m08Y04o09Y04p0AY04_0BY0500CY0590DY0740EY0750FY",
    "0760GY0770HY0780IY0790JY07A0KY07B0LY07C0MY07n0NY07o0OY07p0PY0BO0QY0BP0RY0BQ0SY0BR0TY0BS0UY",
    "0BT0VY0D40WY0Dw0XY0E40YY0E50ZZ0M70b20Pr0c20Ps0d20Pt0e20Pu0f20bO0g20bP0h20bQ0i20bR0j20bS0k2",
    "0bT0l20bU0m20bV0n20dS0o20dT0p20dV0q20ep0r20es0s20fP0t20fQ0u20fR0v20fU0w20jS0x20jT0y20up0z2",
    "0wp0.20xS0_20xT1020z31120zD1220zI1320zN1420zS1520zf1620zp1720zr1820zs1920zt1A30zu1BY0zv1CZ",
    "0.11E20.J1F20.T1G20.Y1H20.d1I20.i1J20.v1K21wQ1L21.01M21.11N21.21O21.31P21.41Q21.51R21.61S2",
    "1.71T21.81U21.91V21.A1W21.B1X21.C1Y21.D1Z21.E1a21.F1b21.G1c21.H1d21.I1e21.J1f21.K1g21.L1h2",
    "1.M1i21.N1j21.O1k21.P1l21.Q1m21.R1n21.S1o21.T1p21.U1q21.V1r21.W1s21.X1t21.Y1u21.Z1v21.a1w2",
    "1.b1x21.c1y21.d1z21.e1.21.f1_21.g2021.h2121.i2221.j2321.k2421.l2521.o2621.p2721.q2821.t292",
    "1.y2A21.z2B21._2C21_02D21_12E31_22FY1_32GY1_42HY1_72IY1_C2JY1_D2KZ1_E2M31_F2NZ1_T2P31_U2QZ",
    "1_V2S31_j2TZ1_k2V31_o2WY1_p2XY1_q2YY1_t2ZY1_y2aY1_z2bY1_.2cY20N2dY20p2eY20q2fZ20s2h220t2i3",
    "20y2jY20.2kY2172lY2182mY2192nY21N2oa22e2qY2402rZ2412t32432uY2452vZ2462x32492yY24M2zY24W2.Y",
    "24X2_Z24Y31224x32325G33Z25H35325I36a25J38Z25K3A325L3BZ25M3D325N3EZ25O3G325P3HZ25Q3J325R3KZ",
    "25S3M325T3NZ25U3P325V3QY25X3RY25Y3SZ25Z3U225b3V225c3W325d3Xa25e3ZY25g3aY25h3bZ25n3d225o3e3",
    "25p3fY25r3gY25s3hZ25t3j425u3l225w3m225x3n32693oZ28i3q228j3r328l3sY28m3tZ2Hf3v22Hg3w22Hh3x2",
    "2Hi3y22Hj3z22Hk3.22Hl3_22Hm4022Hn4122Ho4222Hp4322Hq4432Hr45Z2Hs4732Ht48Z2Hu4A32Hv4BZ2Hw4D3",
    "2Hx4EZ2Hy4G32Hz4Ha2H.4Ja2H_4La2I04Na2I14Pa2I24Ra2I34Ta2I44Va2I54Xa2I64Za2I74ba2IS4dZ2IT4f3",
    "2IU4gZ2IV4i32IW4jZ2IX4l32IY4mZ2IZ4o32Ia4pZ2Ib4r32Ic4sZ2Id4u32Ie4vZ2If4x32Ig4yZ2Ih4.32Ii4_Z",
    "2Ij5132Ik52Z2Il5432Im55Z2In5732Io58Z2Ip5A32Iq5BZ2Ir5D32eC5Ea2fq5GZ2fr5I22fs5J32hS5KY32R5LY",
    "32S5MY32V5NY33_5OY3805PZ3815R33825SZ3835U33845VZ3855X33865YZ3875a33885bZ3895d338A5eZ38B5g3",
    "38C5hZ38D5j338E5kZ38F5m338G5nZ38H5p338I5qZ38J5s338K5tZ38L5v338M5wZ38N5y338O5zZ38P5_338Q60Z",
    "38R62338S63Z38T65438U67438W69338X6AZ38Y6C338Z6DZ38a6F338b6GZ38c6I338d6JZ38e6L338f6MZ38g6O3",
    "38h6PZ38i6R338j6SZ38k6U338l6VZ38m6X338n6YZ38o6a338p6bZ38q6d338r6eZ38s6g338t6hZ38u6j338v6kZ",
    "38w6m338x6nZ38y6p338z6qZ38.6s338_6tZ3906v33916wZ3926y33936zZ39G6_339H70Y39I71Y39J72Y39K73Y",
    "39L74Y39M75Y39N76Y39O77Y39P78Y39Q79Y39R7AY39S7BY39T7CY39U7DY39V7EY39y7FY39z7GY3An7HY3Ao7IY",
    "3Ap7JY3Aq7KY3Ar7LY3As7MY3At7NY3Au7OY3Av7PY3Aw7QY3Ax7RY3Ay7SY3Az7TY3A.7UY3A_7VY3B07WY3B17XY",
    "3B27YY3B37ZY3B47aY3B57bY3B67cY3B77dY3B87eY3B97fZ3BA7h33BB7iZ3BC7k23BD7l33BE7mY3BF7nZ3B_7p2",
    "3C07q43C17s43C27u43C37w33C47xa3C57zZ3C67_33C780b3C88343C98533CA86Z3CB8833CC89a3CD8Ba3CE8DZ",
    "3CF8F33CG8GY3CH8HZ3CI8J43CJ8L43CK8N23CL8O53CM8Qc3CN8Tb3CO8W33CP8Xb3CQ8a53CR8ca3CS8eZ3CT8g3",
    "3CU8hZ3CV8j43CW8l53CX8na3CY8pZ3CZ8r33Ca8sZ3Cb8u23Cc8v23Cd8w23Ce8x23Cf8y33Cg8zZ3Ch8_53Ci91Z",
    "3Cj9343Ck9553Cl97Z3Cm9923Cn9A23Co9B53Cp9Da3Cq9Fb3Cr9I33Cs9Jb3Ct9M23Cu9N33Cv9OZ3Cw9Q33Cx9RZ",
    "3Cy9T33Cz9Ua3C.9WZ3C_9Y23D09Z33D19aZ3D29c33D39da3D49fZ3D59h33D69iZ3D79k53D89ma3D99oY3DA9pb",
    "3DB9s23DC9t43DD9v43DE9x33DF9yZ3DG9.33DH9_a3DIA1Y3DJA2Z3DKA443DLA623DMA753DNA9Z3DOAB23DPAC2",
    "3DQAD23DRAE23DSAF23DTAG23DUAH23DVAI23DWAJ23DXAK23DYAL33DZAMZ3DaAO33DbAPZ3DcAR33DdASZ3DeAU3",
    "3DfAVZ3DgAX33DhAYZ3DiAa33DjAbZ3DkAd33DlAeZ3DmAg33DnAhZ3DoAj23DpAk23DqAl33DrAmY3DsAnY3DtAoY",
    "3DuApZ3DvAr33DwAsY3DxAtY3DyAuY3DzAvY3D.AwY3D_Axa3E0AzY3E1A.Y3E2A_Y3E3B0Y3E4B1Y3E5B2Y3E6B3Y",
    "3E7B4Y3E8B5Z3E9B743EAB923EBBA23ECBB23EDBC23EEBD23EFBE23EGBF23EHBG33EIBHZ3EJBJ33EKBKZ3ELBM2",
    "3EMBN23ENBO23EOBP23EPBQ23EQBR23ERBS23ESBT23ETBU23EUBV23EVBW33EWBXZ3EXBZ23EYBa33EZBbZ3EaBd3",
    "3EbBeY3EcBfZ3EdBh33EeBia3EfBkY3EgBlZ3EhBn33EiBoZ3EjBq33EkBrb3ElBu63EmBx23EnBy23EoBz23EpB.2",
    "3EqB_23ErC023EsC123EtC223EuC323EvC423EwC523ExC623EyC723EzC823E.C923E_CA23F0CB23F1CC23F3CD2",
    "3F4CE23F5CF23F6CG43F8CI23F9CJ23FACK23FBCL23FCCM23FDCN23FECO23FFCP23FGCQ23FHCR23FICS33FJCTY",
    "3FKCUY3FLCVZ3FMCX33FNCYY3FPCZZ3FQCb23FRCc23FSCd23FTCe23FUCf33FVCgZ3FWCi23FXCj23FYCk23FZCl2",
    "3FaCm23FbCn23FcCo23FdCp23FeCq23FfCr33FgCsZ3FhCu33FiCvZ3FjCx33FkCyZ3FlC.33FmC_Z3FnD133FoD2Z",
    "3FpD433FqD5Z3FrD733FsD8Z3FtDA33FuDBZ3FvDD33FwDEZ3FxDG33FyDHZ3FzDJ33F.DKZ3F_DM3Fi0DNYFi1DOY",
    "Fi2DPYFi3DQZFi4DS3Fi5DTYFi6DUYFiJDVYFiKDWYFiLDXYFiMDYYFiNDZYFiTDaYFiVDbYFigDcYFihDdYFiiDeZ",
    "FijDg3FikDhYFilDiYFimDjYFinDkYFioDlYFipDmYFiqDnYFirDoYFisDpYFiuDqYFivDrYFiwDsYFixDtYFiyDuY",
    "Fi.DvYFj0DwYFj1DxYFj3DyYFj4DzYFj6D.YFj7D_YFj8E0YFj9E1YFjAE2YFjBE3YFjCE4YFjDE5YFjEE6YFjFE7Y",
    "FlTE8YFlgE9YFlhEAYFliEBYFljECYFlkEDYFllEEYFlmEFYFlnEGYFloEHYFlpEIYFlqEJYFlrEKYFlsELYFltEMY",
    "FluENYFlvEOYFlwEPYFlxEQYFm0ERYFm1ESYFm2ETYFm3EUYFm4EVYFm5EWYFm6EXYFm7EYYFm8EZYFm9EaYFmAEbY",
    "FmBEcYFmCEdYFmDEeYFmEEfYFmFEgYFmGEhYFmHEiYFmIEjYFmJEkYFmKElYFmLEmYFmMEnYFmNEoYFmOEpYFmPEqY",
    "FmQErYFmREsYFmSEtYFmTEuYFmUEvYFmVEwYFmWExYFmXEyYFmYEzYFmZE.YFmaE_YFmbF0YFmcF1YFmdF2YFmeF3Y",
    "FmfF4YFmgF5YFmhF6YFmiF7YFmjF8YFmkF9YFmlFAYFmmFBYFmnFCYFmoFDYFmpFEYFmqFFYFmrFGYFmsFHYFmtFIY",
    "FmuFJYFmvFKYFmwFLYFmxFMYFmyFNYFmzFOYFm.FPYFm_FQYFn0FRYFn1FSYFn2FTYFn3FUYFn4FVYFn5FWYFn6FXY",
    "Fn7FYYFn8FZYFn9FaYFnAFbYFnBFcYFnCFdYFnDFeYFnEFfYFnFFgYFnGFhYFnHFiYFnIFjYFnJFkYFnKFlYFnLFmY",
    "FnMFnYFnNFoYFnOFpYFnPFqYFnQFrYFnRFsYFnSFtYFnTFuYFnUFvZFnVFx3FnWFyZFnXF.3FnYF_ZFnZG13FnaG2Y",
    "FnbG3YFncG4YFndG5YFneG6YFnfG7YFngG8YFnhG9YFniGAYFnjGBYFnkGCYFnlGDYFnmGEYFnnGFYFnoGGYFnpGHY",
    "FnqGIYFnrGJYFnsGKYFntGLYFnuGMYFnvGNYFnwGOYFnxGPYFnyGQYFnzGRYFn.GSYFn_GTYFo0GUYFo1GVYFo2GWY",
    "Fo3GXYFo4GYYFo5GZYFo6GaYFo7GbYFo8GcYFo9GdYFoAGeYFoBGfYFoCGgYFoDGhYFoEGiYFoFGjYFoGGkYFoHGlY",
    "FoIGmYFoJGnYFoKGoYFoLGpYFoMGqYFoNGrYFoOGsYFoPGtYFoQGuYFoRGvYFoSGwYFoTGxYFoUGyYFoVGzYFoWG.Y",
    "FoXG_YFoYH0YFoZH1YFoaH2YFobH3YFocH4YFodH5YFoeH6YFofH7YFogH8YFohH9YFoiHAYFojHBYFokHCYFolHDY",
    "FomHEYFonHFYFooHGYFopHHYFoqHIYForHJYFosHKYFotHLYFouHMYFovHNYFowHOYFoxHPYFoyHQYFozHRYFo.HSY",
    "Fo_HTYFp0HUYFp1HVYFp2HWYFp3HXYFp4HYYFp5HZYFp6HaYFp7HbYFp8HcYFp9HdYFpAHeYFpBHfYFpCHgYFpDHhY",
    "FpEHiYFpFHjYFpGHkYFpHHlYFpIHmYFpJHnYFpKHoYFpLHpYFpMHqYFpNHrYFpOHsYFpPHtYFpQHuYFpRHvYFpSHwY",
    "FpTHxYFpUHyYFpVHzYFpWH.YFpXH_YFpYI0YFpZI1YFpaI2YFpbI3YFpcI4YFpdI5YFpeI6YFpfI7YFpgI8YFphI9Y",
    "FpiIAYFpjIBYFpkICYFplIDYFpmIEYFpnIFYFpoIGZFppII3FpqIJZFprIL2FpsIM2FptIN2FpuIO2FpvIP2FpwIQ2",
    "FpxIR2FpyIS2FpzIT2Fp.IU2Fp_IV2Fq0IW2Fq1IX2Fq2IY2Fq3IZ2Fq4Ia2Fq5Ib2Fq6Ic2Fq7Id2Fq8Ie2Fq9If2",
    "FqAIg2FqBIh2FqCIi2FqDIj2FqEIk2FqFIl2FqGIm2FqHIn2FqIIo2FqJIp2FqKIq2FqLIr2FqMIs2FqNIt2FqOIu2",
    "FqPIv2FqQIw2FqRIx2FqSIy2FqTIz2FqUI.2FqVI_2FqWJ02FqXJ12FqYJ22FqZJ32FqaJ42FqbJ52FqcJ62FqdJ72",
    "FqeJ82FqfJ92FqgJA2FqhJB2FqiJC2FqjJD2FqkJE2FqlJF2FqmJG2FqnJH2FqoJI2FqpJJ2FqqJK2FqrJL2FqsJM2",
    "FqtJN2FquJO2FqvJP2FqwJQ2FqxJR2FqyJS2FqzJT2FrGJU3FrHJVZFrIJX3FrJJYZFrKJa3FrLJbZFrMJd3FrNJeZ",
    "FrOJg3FrPJhZFrQJj3FrRJkZFrSJm3FrTJnZFrUJp3FrVJqZFrWJs3FrXJtZFrYJv3FrZJwZFraJy3FrbJzZFrcJ_3",
    "FrdK0ZFreK23FrfK3ZFrgK53FrhK6ZFriK83FrjK9ZFrkKB3FrlKCZFrmKE3FrnKFZFroKH3FrpKIZFrqKK3FrrKLZ",
    "FrsKN3FrtKOZFruKQ3FrvKRZFrwKT3FrxKUZFryKW3FrzKXZFr.KZ3Fr_KaZFs0Kc3Fs1KdZFs2Kf3Fs3KgZFs4Ki3",
    "Fs5KjZFs6Kl3Fs7KmZFs8Ko3Fs9KpZFsAKr3FsBKsZFsCKu3FsDKvZFsEKx3FsFKyZFsIK.3FsJK_ZFsKL13FsLL2Z",
    "FsML43FsNL5ZFsOL73FsPL8ZFsQLA3FsRLBZFsSLD3FsTLEZFsULG3FsVLHZFsWLJ3FsXLKZFsYLM3FsZLNZFsaLP3",
    "FsbLQZFscLS3FsdLTZFseLV3FsfLWZFsgLY3FshLZZFsiLb3FsjLcZFskLe3FslLfZFsmLh3FsnLiZFsoLk3FspLlZ",
    "FsqLn3FsrLoZFssLq3FstLrZFsuLt3FsvLuZFswLw3FsxLxZFsyLz3FszL.ZFs.M03Fs_M1ZFt0M33Ft1M4ZFt2M63",
    "Ft3M7ZFt4M93Ft5MAZFt6MC3Ft7MDZFtmMF3FtnMGZFtoMI4FtpMK4FtqMM4FtrMO4FtsMQ4FttMS4FtuMU4FtvMW3",
    "FtwMXoFtxMgeFtyMkaFv9MmYFvAMnYFvBMoYFvCMpYFvmMqYFvnMrYFvoMsYFvqMtYFvsMuYFvtMvYFvuMwYFvvMxY",
    "FvwMyYFvxMzYFvyM.YFvzM_YFv.N0YFv_N1YFxrN2YFxsN3YFxtN4YFxuN5YFxvN6YFxwN7YFxxN8YFxyN9YF_ZNAY",
    "T5UNBYT5VNCYT5WNDZT5XNF3T5YNGZT5ZNI3T5aNJZT6xNL2T6yNM2T6zNN3T6.NOZT6_NQ3T70NRZV41NT2V42NU2",
    "V43NV2V44NW2V45NX2V46NY2V47NZ2V48Na2V49Nb2V4ANc2V4GNd3V4HNeZV4INg3V4JNhZV4KNj3V4LNkZV4MNm3",
    "V4NNnZV4ONp3V4PNqZV4QNs3V4RNtZV4SNv3V4TNwZV4UNy3V4VNzZV4WN_3V4XO0ZV4YO23V4ZO3ZV4aO53V4bO6Z",
    "V4cO83V4dO9ZV4eOB3V4fOCZV4gOE3V4jOFYV4kOGYV5AOHYV5BOIYV5COJYV5DOKYV5EOLZV5FON2V5gOO2V5hOP2",
    "V5iOQ2V6GOR2V80OS2V81OT2V90OU3V91OVZV92OX3V93OYZV94Oa3V95ObZV96Od3V97OeZV98Og3"]

/-- The characters that replace one. -/
def expansionPoints : Array Nat := Packed.unpack 3
  ["00W0C800W0C400W0C100W0Cd00n21400q00n21400o00p21400q01f0C701f01g01f01g01i02t01i02t0Ay01k01a",
    "05.01a05.01a05.01i01g01i01g01i01g01k01g01k01g01k01g01a01w01a01w01a01w00W0C600W0C700W0CA00W",
    "0Ce00W0C300W0CB0C80C100W0Ev00W0C100W0C80C10Lb0M20Od0Pq0P80Pq0R70Pq0PA0Pq0aL0ay0aM0ay0aN0ay",
    "0aS0ay0aX0ay0aY0ay0ah0ay0al0ay0cX0cy0cY0cy0cl0cy0eo0ey0eu0ey0eM0ey0eN0ey0eS0ey0eh0ey0iX0iy",
    "0iY0iy0vD0uo0xD0wo0wh0wP0wh0wX0z20.t0zC0.t0zH0.t0zM0.t0zR0.t0z00.r0zn0zo0zn0zq0.o0.00.o0zn",
    "0.00.p0.00.p0zn0.00zn0.00.I0.t0.S0.t0.X0.t0.c0.t0.h0.t0.G0.r01X0A.1y00Ev1y10Ev1y20Ev1y30Ev",
    "1y40Ev1y50Ev1y60Ev1y70Ev1y00Ev1y10Ev1y20Ev1y30Ev1y40Ev1y50Ev1y60Ev1y70Ev1yW0Ev1yX0Ev1yY0Ev",
    "1yZ0Ev1ya0Ev1yb0Ev1yc0Ev1yd0Ev1yW0Ev1yX0Ev1yY0Ev1yZ0Ev1ya0Ev1yb0Ev1yc0Ev1yd0Ev1zW0Ev1zX0Ev",
    "1zY0Ev1zZ0Ev1za0Ev1zb0Ev1zc0Ev1zd0Ev1zW0Ev1zX0Ev1zY0Ev1zZ0Ev1za0Ev1zb0Ev1zc0Ev1zd0Ev1zm0Ev",
    "0En0Ev0Ei0Ev1.s0Ev0En0Ev00W0CJ00W0CJ00W0D200W0C80D21zq0Ev0Et0Ev0Ek0Ev1_60Ev0Et0Ev00W0CJ0C0",
    "00W0CJ0C100W0CJ0D200W0CK0C000W0CK0C100W0CK0D200W0C80C000W0C80C11zy0Ev0F90Ev0FE0Ev1_s0Ev0F9",
    "0Ev00W0C100W0CK00W0Cp20o20o20o20o20o20r20r20r20r20r00X00X00W0C500_00_00_00X00X00_20o20o20o",
    "20o01o01p01X00l01Z01X00l01p02m01Z01Z00l01l01Z00l01r02m01c01k01l01p01j01q01b01i01q01j01c01X",
    "01u00n21400t00n21400v00n21400n00m00n21400p00o21400p00n21400r00o21400r00p21400r00q21400r00n",
    "21400s00r21400s00n21400u00p21400u00r21400u00t21400u00n21401f01f01f01f01f01f01s01s01f01s01f",
    "01f01s01f01f01f01f01u01u01f01u01f01f01f01f01f01f01f01f01s01s01f01s01f01f01s01f01f01f01f01u",
    "01u01f01u01f01f00m21400p28h28h28h28h28h28k28k28k28k28k00n00m00n00n00n00o00n00p00n00q00n00r",
    "00n00s00n00t00n00u00n00v00o00m00e00n00f00e00o00f00e00p00f00e00q00f00e00r00f00e00s00f00e00t",
    "00f00e00u00f00e00v00f00e00n00m00f00e00n00n00f00e00n00o00f00e00n00p00f00e00n00q00f00e00n00r",
    "00f00e00n00s00f00e00n00t00f00e00n00u00f00e00n00v00f00e00o00m00f00e01X00f00e01Y00f00e01Z00f",
    "00e01a00f00e01b00f00e01c00f00e01d00f00e01e00f00e01f00f00e01g00f00e01h00f00e01i00f00e01j00f",
    "00e01k00f00e01l00f00e01m00f00e01n00f00e01o00f00e01p00f00e01q00f00e01r00f00e01s00f00e01t00f",
    "00e01u00f00e01v00f00e01w00f28h28h28h28h00w00w00z00z00z00z00z00z2hT0Cu00W32P00W32Q32832A32p",
    "33800e14000f00e14200f00e14300f00e14500f00e14600f00e14700f00e14900f00e14B00f00e14C00f00e14E",
    "00f00e14F00f00e14G00f00e14H00f00e14I00f00eAm000f00eB2O00f00eBBa00f00eBTy00f00eBd800f00eBmK",
    "00f00eC2i00f00eCL400f00eCUG00f00eCme00f00eCvq00f00eD3000f00eDCC00f00eDLO00f00eCZy00f00eCOa",
    "CW400f00eCOaDR400f00e4u000f00e4wC00f00e4u900f00e5RR00f00e4wK00f00e55j00f00e4u300f00e55h00f",
    "00e4vT00f00e5D100f00e6S800f00e71h00f00e6mq00f00e6Se00f00e97H00f00e5SV00f00e6Nb00f00e6Wg00f",
    "00e6S900f00e7a.00f00e5GD00f00e79v00f00e8oX00f00e7bT00f00e5Aq00f00e4xZ00f00e5Hy00f00e5jc00f",
    "00e7RZ00f00e4y100f00e8p700f00e5DK00f00e7bj00f00e4yH00f00e87g00f00e87p00f01m01q01b00o00n00o",
    "00o00o00p00o00q00o00r00o00s00o00t00o00u00o00v00p00m00p00n00p00o00p00p00p00q00p00rCmuApWCZy",
    "CTO00p00s00p00t00p00u00p00v00q00m00q00n00q00o00q00p00q00q00q00r00q00s00q00t00q00u00q00v00r",
    "00m00n6S800o6S800p6S800q6S800r6S800s6S800t6S800u6S800v6S800n00m6S800n00n6S800n00o6S801e01d",
    "01b01o01d01b01s01i01q01a4xa5IC32Y33H33y33832Y33h33L32X32Y33p33Q32Y32Y33y33h32a33B33p32m32a",
    "33p33132c32f33p32e32v32l33y33932e33y32h33y32g33p32v32g33y33W32h32a33g32h33f33333832h33j33g",
    "33y32i33j33p32i33p33U32k32i32k33B33y32j33b33g33y32k33h33033y32j33j32j33j32m33f33W32j33j33X",
    "33y33833h32j33j33l33333832m33f33W32m33f33W33833p32l33h32y32a33j32l33j33y33D32n33y32v32p33h",
    "33A32p33y33T32r32a32l33h32r33p33133y33W32t33g33p32m32x33p33132x33p33833033y32v33732t33933h",
    "33833p33A33E33E33333833F32a33433H33y32x33p33833H33y33433G33y33i33h33K32Y32v33833h33K32l33h",
    "33K32p33J33h33L32X33f33333933L32Z33y33833M33332t32d33h33L33f33p33O32l32_33y33h33Q32z33Q33B",
    "33I33O33h33433Q33p32v33Q33y32u33P33y32_33T32a33p33833S33h33833R33p33T33p33933R33y33h33R33y",
    "33p33U32a32l33j33U32a33h33U33333F33U33h32l33U33p32t33d33p33V32l33j33p33V33g33V33g33G33y33h",
    "33X32i33X32i33833p33X33y33833h33a33y33933a33y33h33c32Y33p33g33333833h33g33f33h33K33y33h33y",
    "33M33h33i33W33i33p33832o33p33l33333800m72v00n72v00o72v00p72v00q72v00r72v00s72v00t72v00u72v",
    "00v72v00n00m72v00n00n72v00n00o72v00n00p72v00n00q72v00n00r72v00n00s72v00n00t72v00n00u72v00n",
    "00v72v00o00m72v00o00n72v00o00o72v00o00p72v00o00q72v01e01m01X01a01X01X01r01Y01X01o01l01s01m",
    "01Z01a01j01a01j00o01a01j00p01f01r5vp68G6Oj5IC5ad6jZ6OE6ox6Wg5yF4yQ7a.01m01X01k01X0Ey01X01j",
    "01X01h01X01h01Y01j01Y01d01Y01Z01X01i01h01Z01X01i01m01c01k01c0Ey01c0Ey01d01j01d01h01d01e01w",
    "01h01e01w01j01e01w01d01e01w01q01e01w0Ey01i01j01i01a01i01h01i01c01j01k01j0Ey01j01j01j01Z01j",
    "01h01j01j01j00o01Z01j00o01j00o01h01j00o01j01j00p01Z01j00p01j00p01h01j00p01j28L01p01j28L01p",
    "00o01m01X01h01m01X01j01m01X01d01m01X01o01X01a01o01X01a28L01p01o01X01a28L01p00o01m01p01k01p",
    "0Ey01p01j01p01m01s01k01s0Ey01s01j01s01h01s01j01s01m01t01k01t0Ey01t01j01t01h01t01j01t01h0F9",
    "01j0F901Y01n01Z01Z01Z01a01Z28L01h01d01a01Y01d01v01e01X01e01m01f01k01h01h01h01j01h01q01i01j",
    "01i01k01i01l01d01i01u01j01Y01j01f01i01j01l01i01m01e01m01m01j01m01o01p01o01p01s01t01Y01s28L",
    "01j01X28L01j00n6Nb00o6Nb00p6Nb00q6Nb00r6Nb00s6Nb00t6Nb00u6Nb00v6Nb00n00m6Nb00n00n6Nb00n00o",
    "6Nb00n00p6Nb00n00q6Nb00n00r6Nb00n00s6Nb00n00t6Nb00n00u6Nb00n00v6Nb00o00m6Nb00o00n6Nb00o00o",
    "6Nb00o00p6Nb00o00q6Nb00o00r6Nb00o00s6Nb00o00t6Nb00o00u6Nb00o00v6Nb00p00m6Nb00p00n6Nb01d01X",
    "01i01c01c01c01f01c01i01c01c01f01c01c01i01p01q01p01q0Lq0Ls0Lq0Lb0Lq0Lh0L.0Ls0Lq0Lj0NP0Mq0No",
    "0Mt0Nf0N10Nf0N20Nf0My0N10Nf0My0N20NG0Mt0NG0Mu0NG0My0NH0My0NI0My0NJ0My0NK0My0NL0My0NM0My0NO",
    "0My0NP0My0NQ0My0NR0My0NS0My0NU0My0NW0My0NX0My0NZ0My0Na0My0Nc0My0Nd0My0Ne0My0Nf0My0Ng0My0NL",
    "0Mv0NH0M_0NR0M_0Na0M_0NG0NS0R70Pq0Oc0Od0Oc0Od0Oc0RL0Oc0RL0Oc0P80Oc0P80Oc0R70Oc0R70Oc0R60Oc",
    "0R60Oc0R80Oc0R80Oc0RG0Oc0RG0Oc0RG0Oc0P90Oc0P90Oc0P90Oc0Oi0Oc0Oj0Oc0P50Oc0P90Oc0PA0Oe0Oi0Oe",
    "0Oj0Oe0Ok0Oe0P50Oe0P90Oe0PA0Og0Oi0Og0Oj0Og0Ok0Og0P50Og0P90Og0PA0Oh0Oi0Oh0P50Oh0P90Oh0PA0Oi",
    "0Oj0Oi0P50Oj0Oi0Oj0P50Ok0Oi0Ok0Oj0Ok0P50Op0Oi0Op0Oj0Op0Ok0Op0P50Or0Oj0Or0P50Os0Oi0Os0Oj0Os",
    "0Ok0Os0P50Ot0Oj0Ot0P50Ou0P50Ov0Oi0Ov0P50Ow0Oi0Ow0P50P10Oi0P10Oj0P10Ok0P10P50P10P90P10PA0P2",
    "0Oj0P20P50P20P90P20PA0P30Od0P30Oi0P30Oj0P30Ok0P30P40P30P50P30P90P30PA0P40Oi0P40Oj0P40Ok0P4",
    "0P50P40P90P40PA0P50Oi0P50Oj0P50Ok0P50P50P50P90P50PA0P60Oi0P60Oj0P60Ok0P60P50P60P90P60PA0P7",
    "0Oi0P70P50P70P90P70PA0PA0Oi0PA0Oj0PA0Ok0PA0P50PA0P90PA0PA0Om0Pm0On0Pm0P90Pm00W0PC0PH00W0PD",
    "0PH00W0PE0PH00W0PF0PH00W0PG0PH00W0PH0Pm0Oc0On0Oc0Oo0Oc0P50Oc0P60Oc0P90Oc0PA0Oe0On0Oe0Oo0Oe",
    "0P50Oe0P60Oe0P90Oe0PA0Og0On0Og0Oo0Og0P50Og0P60Og0P90Og0PA0Oh0On0Oh0Oo0Oh0P50Oh0P60Oh0P90Oh",
    "0PA0P10P90P10PA0P20P90P20PA0P30Od0P30P40P30P50P30P90P30PA0P40P50P40P90P40PA0P50Od0P50P50P6",
    "0On0P60Oo0P60P50P60P60P60P90P60PA0P90Pm0PA0On0PA0Oo0PA0P50PA0P60PA0P90PA0PA0Oc0Oi0Oc0Oj0Oc",
    "0Ok0Oc0P50Oc0P70Oe0Oi0Oe0Oj0Oe0Ok0Oe0P50Oe0P70Og0Oi0Og0Oj0Og0Ok0Og0P50Og0P70Oh0P50Oi0Oj0Oi",
    "0P50Oj0Oi0Oj0P50Ok0Oi0Ok0P50Op0Oi0Op0Oj0Op0Ok0Op0P50Or0Oj0Or0Ok0Or0P50Os0Oi0Os0Oj0Os0Ok0Os",
    "0P50Ot0Oj0Ou0P50Ov0Oi0Ov0P50Ow0Oi0Ow0P50P10Oi0P10Oj0P10Ok0P10P50P20Oj0P20P50P30Oi0P30Oj0P3",
    "0Ok0P30P40P30P50P40Oi0P40Oj0P40Ok0P40P50P40P70P50Oi0P50Oj0P50Ok0P50P50P60Oi0P60Oj0P60Ok0P6",
    "0P50P60P70P70Oi0P70P50P70Pm0PA0Oi0PA0Oj0PA0Ok0PA0P50PA0P70Oc0P50Oc0P70Oe0P50Oe0P70Og0P50Og",
    "0P70Oh0P50Oh0P70Op0P50Op0P70Oq0P50Oq0P70P30P40P30P50P40P50P60P50P60P70PA0P50PA0P70P00PE0PH",
    "0P00PF0PH0P00PG0PH0Ot0P90Ot0PA0Ov0P90Ov0PA0Ow0P90Ow0PA0Op0P90Op0PA0Oq0P90Oq0PA0Oj0P90Oj0PA",
    "0Oi0P90Oi0PA0Ok0P90Ok0PA0Or0P90Or0PA0Os0P90Os0PA0Oq0Oi0Oq0Oj0Oq0Ok0Oq0P50Oq0On0Op0On0Or0On",
    "0Os0On0Ot0P90Ot0PA0Ov0P90Ov0PA0Ow0P90Ow0PA0Op0P90Op0PA0Oq0P90Oq0PA0Oj0P90Oj0PA0Oi0P90Oi0PA",
    "0Ok0P90Ok0PA0Or0P90Or0PA0Os0P90Os0PA0Oq0Oi0Oq0Oj0Oq0Ok0Oq0P50Oq0On0Op0On0Or0On0Os0On0Oq0Oi",
    "0Oq0Oj0Oq0Ok0Oq0P50Op0P70Oq0P70Ot0P50Op0Oi0Op0Oj0Op0Ok0Oq0Oi0Oq0Oj0Oq0Ok0Ot0P50Ou0P50Od0PB",
    "0Od0PB0Og0Oi0P50Og0Oj0Oi0Og0Oj0Oi0Og0Oj0P50Og0Ok0P50Og0P50Oi0Og0P50Oj0Og0P50Ok0Oi0P50Oj0Oi",
    "0P50Oj0Oj0P50PA0Oj0P50P90Op0Oj0Oi0Op0Oi0Oj0Op0Oi0P90Op0P50Oj0Op0P50Oj0Op0P50Oi0Op0P50P50Op",
    "0P50P50Or0Oj0Oj0Or0Oj0Oj0Or0P50P50Oq0Oj0P50Oq0Oj0P50Oq0Oi0PA0Oq0P50Ok0Oq0P50Ok0Oq0P50P50Oq",
    "0P50P50Os0Oj0P90Os0Ok0P50Os0Ok0P50Ot0P50Oj0Ot0P50Oj0Ot0P50P50Ot0P50PA0Ov0Oi0P50Ov0P50P50Ov",
    "0P50P50Ov0P50P90Ow0P50P50Ow0P50PA0Ow0P50P90P10Ok0P50P10Ok0P50P20P50Oj0P20P50P50P40Oj0P50P4",
    "0Oj0PA0P40Oj0P90P40Oi0Oi0P40Oi0Oi0P40Ok0P50P40Ok0P50P40P50Oj0P40P50Oj0P50Oj0Oi0P50Oj0P50P5",
    "0Oj0PA0P50Oi0Oj0P50Oi0P50P50Ok0Oi0P50Ok0P50P50Oi0Ok0P70P50Oi0P70P50P50P60Oj0P50P60Oj0P90P6",
    "0Oi0P50P60Oi0P50P60Oi0P90P60P50PA0P60P50P90PA0P50P50PA0P50P50Oe0Ok0PA0Og0Oi0PA0Og0Oi0P90Og",
    "0Ok0PA0Og0Ok0P90Og0P50PA0Og0P50P90Oi0P50PA0Oi0Oj0P90Oi0P50P90Op0Ok0P90Or0Oj0PA0Oq0Oj0PA0Os",
    "0Oj0PA0P40Oi0PA0P40P50PA0PA0Oj0PA0PA0Oi0PA0PA0P50PA0P50P50PA0P20P50PA0P60Oj0PA0P20P50Oj0P4",
    "0Oj0P50Ov0P50PA0P30P50PA0P60Oi0Oj0P50Ok0PA0P40Oi0P50P30P50P50P40Oi0P50P60Oi0Oj0Oi0Oj0PA0Oj",
    "0Oi0PA0P50Oi0PA0P10P50PA0Oe0Oj0PA0P30P50P50Ov0Oi0P50Or0P50P50Op0Ok0PA0P60Oi0PA0Or0P40RI0P2",
    "0P40RI0Od0P40P40P70Od0P30Oe0On0P50Oj0P50Ol0Or0P40Ov0P50On0Op0P80P40Ov0P40PA0P70P80Op0P40P5",
    "0Or0P40P90Or0P40P900W0Od0P40P40P700W0Ov0P40PA0P700W0P80Op0P40P50Oi0P400W0Oi0P40Od0P40P70On",
    "0RC0Od0P400W0C500W0C500W0C500W0C500W0PB0P00PB00W0PC00W0PD00W0PE0P00PE00W0PF0P00PF00W0PG0P0",
    "0PG00W0PH0P00PH00W0PI0P00PI0P40OY0P40OY0P40OZ0P40OZ0P40Ob0P40Ob0P40Od0P40Od00W0C4T5NT5bT5O",
    "T5bT5OT5bT5kT5OT5bT5lT5OT5bT5mT5OT5bT5nT5OT5bT5oT6vT5bT6wT5bT6vT5bT5kT6wT5bT5kT6vT5bT5lT6w",
    "T5bT5l00m00i00n00i00o00i00p00i00q00i00r00i00s00i00t00i00u00i00v00i00e01X00f00e01Y00f00e01Z",
    "00f00e01a00f00e01b00f00e01c00f00e01d00f00e01e00f00e01f00f00e01g00f00e01h00f00e01i00f00e01j",
    "00f00e01k00f00e01l00f00e01m00f00e01n00f00e01o00f00e01p00f00e01q00f00e01r00f00e01s00f00e01t",
    "00f00e01u00f00e01v00f00e01w00f30K01p30L01Z01a01t01w01e01s01j01s01p01a01p01p01m01m01s01t01Z",
    "01j01Z01j01a01j01o01a01g31x31B32p32p30K6Si30L30K4u930L30K4wC30L30K5k930L30K72v30L30K69J30L",
    "30K7RN30L30K5BT30L30K6LN30L"]

end ResidencePortal.Domain
