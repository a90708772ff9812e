import ResidencePortal.Text.Packed

/-!
# Letters and words in the Unicode standard

Runs of code points with the value one where a property holds and zero where it does not.
-/

namespace ResidencePortal.Unicode

open Text

/-- Characters of words: alphabetic characters, marks, decimal digits, connecting punctuation, joiners. -/
def wordRuns : Array Nat := Packed.unpack 5
  ["00301003e000441005i0005y10060000641007i000Ae100Ai000BK100BO000Be100Bi000C0100DS000DW100FS0",
    "00FW100i8000iO100j8000k0100kK000km100kq000ku100ky000m0100tK000tO100tW000te100tu000ty100u00",
    "00uO100uS000uW100ui000um100uq000uu100w8000wC100_O000_S101880018C101J0001J4101LS001La101Le0",
    "01M0101Oa001P4101Ru001Ry101S0001S4101SC001SG101SO001SS101SW001T0101Ui001Uy101VC001X0101Xi0",
    "01Y0101ce001cu101jG001jK101jq001jy101ka001ke101lq001ly101m0001n0101qi001qq101x8001y0101_O0",
    "01_e101_i001_q101_u002001022u002401025m002601026i002701028W0028a102900029S102E8002EC102MG0",
    "02MO102N0002N4102OG002OK102Oq002Oy102P4002PC102Qa002Qe102R4002R8102RC002RO102Re002Rm102SK0",
    "02SS102Sa002Si102Sy002TS102TW002Tm102Tu002Ty102UG002UO102V8002Vm102Vq002Vu102Vy002W4102WG0",
    "02WK102Wi002Wy102X4002XC102Ya002Ye102Z4002Z8102ZG002ZK102ZS002ZW102Ze002Zm102Zq002Zu102aC0",
    "02aS102aa002ai102au002b4102b8002ba102bq002bu102by002cO102dO002e4102eG002eK102eu002ey102f80",
    "02fC102ga002ge102h4002h8102hG002hK102he002hm102iO002iS102ie002ii102iu002j0102j4002k0102kG0",
    "02kO102l0002la102m0002m4102mG002mK102mq002my102n4002nC102oa002oe102p4002p8102pG002pK102pe0",
    "02pm102qK002qS102qa002qi102qu002rK102rW002rm102ru002ry102sG002sO102t0002t4102t8002u8102uG0",
    "02uK102ui002uu102v4002v8102vO002va102vi002vm102vq002vu102w0002wC102wK002wW102wi002wu102xe0",
    "02xu102yC002yO102ya002ye102yu002z0102z4002zS102zW002.O102_0003001030q0030u10314003181032a0",
    "032e1033e0033m1034K0034O1034a0034e1034u0035K1035S0035W1035i0035m1035u003601036G0036O103700",
    "03801038G0038K1038q0038u1039400398103Aa003Ae103BG003BK103Be003Bm103CK003CO103Ca003Ce103Cu0",
    "03DK103DS003Dm103Dy003E0103EG003EO103F0003F4103FG003G0103Gq003Gu103H4003H8103KK003KO103Ka0",
    "03Ke103Ky003LG103LW003Ly103MG003MO103N0003Ne103O0003O4103OG003OK103PS003Pe103R8003RC103Rm0",
    "03Rq103Ru003S0103SS003Se103Si003Sy103TK003TO103TS003TW103U0003UO103V0003V8103VG003W4103Zi0",
    "03a0103ay003b0103be003e4103eC003eG103eK003eO103ei003em103gG003gK103gO003gS103hu003i0103iK0",
    "03iO103iS003iW103iy003j0103je003jm103k0003m0103m4003nW103ne003o0103oe003pK103pO003pS103pW0",
    "03pa103pe003pu103qW003qa103sq003t4103uK003uO103vW003va103xq003yO103yS004001044e004501049u0",
    "04A0104CO004CS104CW004Cq104Cu004D0104Fi004Fm104aa004ae104au004b0104bS004bW104ba004be104bu0",
    "04c0104ea004ee104eu004f0104h4004h8104hO004hW104hy004i0104i4004i8104iO004iW104jS004jW104n40",
    "04n8104nO004nW104ri004rq104s0004u0104v0004w0104_O004_W104_u00504105cq005cy105e0005e4105fi0",
    "05g0105ki005ku105la005m0105nO005ny105pK005q0105rG005s0105sq005su105t4005t8105tG005u0105zG0",
    "05zS105zW005zm105zu005.0105.e0060i1060u0060y1061e006201067a00680106Ai006B0106FO006G0106Hy0",
    "06I0106Im006J0106Jm006KO106Mu006N0106NK006O0106Qm006R0106Se006T0106Te006W0106Xm006Y0106by0",
    "06c0106dq006dy106ee006f0106fe006gS106gW006h0106ju006k0106km006m0106qq006r0106re006si106tG0",
    "06u0106_G007001073W007401074e0074q1077u007801078i00790107Bi007Bq107C0007D0107DC007DG107Fi0",
    "07G0107nO007nW107nu007o0107qO007qW107qu007r0107rW007ra107re007ri107rm007rq107ru007ry107tu0",
    "07u0107xK007xO107xq007xu107xy007y8107yK007yO107yq007z0107zG007zO107zm007.0107.q007_8107_K0",
    "07_O107_q0080m1080u0083y108440085G1085K00874108780087y10880008901089q008D0108F4008G8108GC0",
    "08GS108GW008Ge108HG008HK108HO008Ha108Hu008IG108IK008IO108IS008IW108Ia008Ie108Iu008Iy108Je0",
    "08Jm108K0008KK108Ke008Ku108Ky008M0108Oa009BO109Ee00B0010BEK00BEi10BFG00BG010BIO00BIS10BIW0",
    "0BIq10BIu00BJ010BMW00BMy10BN000BNy10BPS00BQ010BQS00BQW10BQy00BR010BRS00BRW10BRy00BS010BSS0",
    "0BSW10BSy00BT010BTS00BTW10BTy00BU010BW000BYy10BZ000C0K10C0W00C2410C3000C3410C3O00C3W10C3q0",
    "0C4410C9S00C9a10C9i00C9q10CA000CA410CFi00CFm10CG000CGK10CJ000CJ410COy00CQ010CS000CV010CW00",
    "0D0010JS000JW010f8q00fD010fFu00fG010fWq00fX010fYm00fa010fdC00fdG10fdu00fdy10fl800fnS10fo00",
    "0fo810fua00fui10fzq00f_410g2W00g2m10g2q00g4010g7G00g8010gCO00gD010gDe00gE010gFW00gFi10gFm0",
    "0gFq10gIu00gJ010gLG00gM010gNq00gO010gS400gSy10gTe00gU010gVy00gW010gZS00ga010gau00gb010gbe0",
    "0gc010gdS00gde10giC00gji10gju00gk010gl000gl810glS00gm410gmS00gma10gmy00gn410gnS00go010goS0",
    "0goW10goy00gp010gri00grm10gse00gt010g.i00g.m10g.u00g_010g_e00h0010rwG00rx010ryS00ryi10r_m0",
    "0.G010.cu00.d010.je00.m010.mS00.nC10.nW00.nq10.oa00.oe10.pS00.pW10.pq00.pu10.py00.q010.q80",
    "0.qC10.qK00.qO10.x800.zC10_Ju00_L010_P000_P810_SW00_V010_Vm00_W010_X000_Y010_Z000_ZC10_ZK0",
    "0_aq10_b000_d010_dK00_dO10_lq00_n010_ne00_o410_pi00_py10_q000_q410_ri00_sO10_xy00_y810_yW0",
    "0_ye10_z000_z810_zW00_ze10_zq010001100m0100q1102S0102W1103i0103m1103u0103y1104u010501105u0",
    "1080110Fi010K0110NK010Vq110Vu010e0110fq010g0110j4010k0110k4010m0110o0010oq110qi010r0110ti0",
    "10u0110vu010w0110yG010yW110z0010z4110zO011001119u011A0111Ae011B0111DG011DW111Fm011G0111IW0",
    "11J0111MG011N0111Ni011Nm111Oi011Om111PC011PG111PO011PS111Q8011QC111R8011RC111Re011Ri111Rq0",
    "11S0111VG011W0111pS011q0111rO011s0111sW011u0111uO011uS111x4011x8111xi012001120O0120W1120a0",
    "120e1123O0123S1123a0123m1123q0123y1125O012601127S012801129y012E0112FC012FG112FO012G0112HO0",
    "12I0112Je012K0112Le012O0112RW012Ru112S0012W0112WG012WK112WS012Wm112XG012XK112XW012Xa112ZO0",
    "12ZW112Zi012Zy112a0012c0112dq012e0112fq012i0112iW012ia112kS012m0112pO012q0112rO012s0112tC0",
    "12u0112v8013001134a01380113BC013C0113FC013G0113IW013J0113Je013K0113MO013Ma113Mu013My113OO0",
    "13e0113ge013gi113gq013h0113h8013i8113iW013le113nq013oS113oW013p0113r4013t0113uO013x0113yK0",
    "13.0113_S014001144S0146O1147O0147y114Bi014C8114CC014D0114Ea014F0114Fe014G0114JK014JO114K00",
    "14KG114KW014L0114NG014NO114NS014O0114SK014Sa114Sq014Su114Ti014Tm114Tq014W0114X8014XC114ZW0",
    "14Zu114a8014e0114eS014eW114ea014ee114eu014ey114fu014fy114ga014h0114ki014l0114le014m0114mG0",
    "14mK114mq014my114n4014nC114oa014oe114p4014p8114pG014pK114pe014pi114qK014qS114qa014qi114qu0",
    "14r0114r4014rS114rW014rq114sG014sO114sq014t0114tK014u0114ue014ui114um014uu114uy014v0114xO0",
    "14xS114y4014y8114yC014yK114yO014yS114yi014ym114zG014.4114.C015001154i015501155e0155u115680",
    "1580115CO015CS115CW015D0115De015O0115RO015RW115S4015TW115Tu015W0115a4015aG115aK015b0115be0",
    "15e0115ha015i0115ie015j0115kG015m0115ni015nq115om015p0115pe015q0115qS016001163i016A0116Ee0",
    "16Fy116GS016Ga116Ge016Gm116HG016HK116HS016HW116JO016JS116Ja016Ji116KG016L0116Le016Q0116QW0",
    "16Qe116TW016Te116U8016UC116UK016W0116Zy016aS116aW016b0116fe016fq116fu016h0116la016s0116sW0",
    "16y0116.4016_0116_e017001170a0170e1173S0173W11744017501175e017781179001798117AW017Aa117BS0",
    "17G0117GS017GW117Ge017Gi117JS017Je117Ji017Jm117Ju017Jy117KW017L0117Le017M0117MO017MS117Ma0",
    "17Me117Oy017P0117P8017PC117Pa017Q0117Qe017R0117Tm017U0117Ue017k0117lS017m0117n4017n8117pi0",
    "17pu117qC017r0117ri017x0117x401800118ve019001196y01980119KG01Bv011B_401C0011D3001D4011D5O0",
    "1D6011G_i01H0011HaS01OG011OJe01Q0011QZa01Qa011Qby01Qc011Qce01Qd011Qhy01Qi011Qie01Qj011Qku0",
    "1Ql011QlK01Qm011QpS01Qq011QqG01Qr011Qre01QsC11QtW01Qtq11Qv001RK011RMq01RN011RNe01Ra011Re00",
    "1Rg011Rha01Rhi11RjG01Rm011Rqi01Rqy11RuW01Ruy11Rw001R.011R.801R.C11R.K01R_011R_S01S0011ZDO0",
    "1ZFy11ZHy01ZO011ZVC01h_011h_G01h_K11h_m01h_q11h_y01i0011iIC01iJ811iJC01iL011iLC01iLK11iLO0",
    "1iMG11iMW01iN011ilm01l0011l6i01l7011l7q01l8011l8a01l9011l9e01l9q11l9y01pF011pFe01pm011pou0",
    "1pp011pqS01qMK11qMe01qMq11qNC01qNi11qOC01qOK11qOm01qQe11qQu01qa811qaK01r0011r5K01r5O11r9q0",
    "1r9u11rA001rA811rAC01rAK11rAS01rAa11rAq01rAu11rBe01rBi11rBm01rBq11rCG01rCK11rGO01rGS11rGi0",
    "1rGq11rHK01rHO11rHq01rHu11rJe01rJi11rJy01rK011rKK01rKO11rKS01rKe11rL401rL811rgO01rgW11ri40",
    "1ri811rji01rjm11rli01rlm11rnK01rnO11rpK01rpO11rqy01rr011rsy01rt011rua01rue11rwa01rwe11ryC0",
    "1ryG11rym01ryu11s0001sW011sZS01sZi11scq01sdK11sdO01seG11seK01sfi11sg001sg411sh001tm011tny0",
    "1toK11toi01u0011u0S01u0W11u1a01u1i11u2801u2C11u2K01u2O11u2i01u3011u6u01u8y11u9001uG011uIq0",
    "1uJ011uJu01uK011uKe01uKu11uKy01uf011ugy01ui011ule01vD011vFe01vT011vVi01vi011vjy01vk011vlO0",
    "1vlu11vm001v.011v.S01v.W11v.m01v.q11v.y01v_011v_y01w0011wCK01wD011wDS01wG011wKm01wL011wLe0",
    "1xW011xWG01xWK11xY001xY411xYC01xYG11xYK01xYS11xYW01xYa11xZC01xZG11xZW01xZa11xZe01xZi11xZm0",
    "1xa811xaC01xaS11xaW01xaa11xae01xai11xam01xaq11xb001xb411xbC01xbG11xbK01xbS11xbW01xba11xbe0",
    "1xbi11xbm01xbq11xbu01xby11xc001xc411xcC01xcG11xcK01xcS11xci01xcm11xdC01xdG11xdW01xda11xdq0",
    "1xdu11xdy01xe011xee01xei11xfm01xg411xgG01xgK11xge01xgi11xhm01yJ011yKe01yL011yMe01yN011yOe0",
    "1._011._e0200012fk002fm012k1u02k2012pgu02ph012w.402w_012xbu02.0012.Xu03000134qi034r013D7e0",
    "E0G01E0V00"]

/-- Alphabetic characters. -/
def alphabeticRuns : Array Nat := Packed.unpack 5
  ["00441005i000641007i000Ae100Ai000BK100BO000Be100Bi000C0100DS000DW100FS000FW100i8000iO100j80",
    "00k0100kK000km100kq000ku100ky000qK100qO000sC100tK000tO100tW000te100tu000ty100u0000uO100uS0",
    "00uW100ui000um100uq000uu100w8000wC100_O000_S101880018e101J0001J4101LS001La101Le001M0101Oa0",
    "01R0101Ru001Ry101S0001S4101SC001SG101SO001SS101SW001T0101Ui001Uy101VC001X0101Xi001Y0101bW0",
    "01ba101c0001cu101jG001jK101jq001k4101ka001kq101l0001le101lq001ly101m0001n0101q0001qq101x80",
    "01ye101.i001_G101_O001_e101_i002001021W0021e1022q002401025a002601026i002701028W0028a102900",
    "029S1029W002A0102Ce002DG102E0002EC102Ee002F0102Jm002Jq102Kq002Ku102L4002LK102MG002N4102OG0",
    "02OK102Oq002Oy102P4002PC102Qa002Qe102R4002R8102RC002RO102Re002Rq102SK002SS102Sa002Si102Sq0",
    "02Su102Sy002TS102TW002Tm102Tu002Ty102UG002V0102V8002Vm102Vq002W4102WG002WK102Wi002Wy102X40",
    "02XC102Ya002Ye102Z4002Z8102ZG002ZK102ZS002ZW102Ze002Zu102aC002aS102aa002ai102aq002b4102b80",
    "02ba102bq002bu102by002d0102dO002e4102eG002eK102eu002ey102f8002fC102ga002ge102h4002h8102hG0",
    "02hK102he002hq102iO002iS102ie002ii102iq002j0102j4002k0102kG002la102lq002m4102mG002mK102mq0",
    "02my102n4002nC102oa002oe102p4002p8102pG002pK102pe002pq102qK002qS102qa002qi102qq002rO102rW0",
    "02rm102ru002ry102sG002t4102t8002u8102uG002uK102ui002uu102v4002v8102vO002va102vi002vm102vq0",
    "02vu102w0002wC102wK002wW102wi002wu102xe002xu102yC002yO102ya002ye102yq002z0102z4002zS102zW0",
    "03001030q0030u10314003181032a0032e1033e0033q1034K0034O1034a0034e1034q0035K1035S0035W1035i0",
    "035m1035u003601036G003801038G0038K1038q0038u1039400398103Aa003Ae103BG003BK103Be003Bq103CK0",
    "03CO103Ca003Ce103Cq003DK103DS003Dm103Dy003E0103EG003F4103FG003G0103Gq003Gu103H4003H8103Ji0",
    "03Jq103KK003KO103Ka003Ke103Kq003Ku103Ky003LG103LW003Ly103MG003Ne103O0003O4103OG003OK103PS0",
    "03Pe103R8003RC103Rm003Rq103Ru003S0103SS003Sy103TK003TO103TS003TW103U0003V8103VG003W4103Zi0",
    "03a0103aS003aq103au003e4103eC003eG103eK003eO103ei003em103gG003gK103gO003gS103he003hi103hu0",
    "03i0103iK003iO103iS003iq103iu003jm103k0003m0103m4003q0103qW003qa103sq003t4103uG003uW103vW0",
    "03va103xq004001043S0043W1043a0043i1044000450104900049e1049u004A0104CO004CS104CW004Cq104Cu0",
    "04D0104Fi004Fm104aa004ae104au004b0104bS004bW104ba004be104bu004c0104ea004ee104eu004f0104h40",
    "04h8104hO004hW104hy004i0104i4004i8104iO004iW104jS004jW104n4004n8104nO004nW104ri004u0104v00",
    "04w0104_O004_W104_u00504105cq005cy105e0005e4105fi005g0105ki005ku105la005m0105nG005ny105pG0",
    "05q0105rG005s0105sq005su105t4005t8105tG005u0105xG005xO105ya005zS105zW005zm105zq006201067a0",
    "0680106Ai006B0106FO006G0106Hy006I0106Im006J0106Ja006L0106Mu006N0106NK006O0106Qm006R0106Se0",
    "06W0106Xm006Y0106by006c4106dK006gS106gW006hy106i4006im106iy006m0106pG006pK106qG006qK106qq0",
    "06u0106we006wm106x0006xe106.O006.S106_8007001073S0074q107500075e1077u007801078i00790107Bi0",
    "07Bq107C0007Ea107Eq007Eu107FG007FK107FS007Fe107Fi007G0107S0007TC107VK007W0107nO007nW107nu0",
    "07o0107qO007qW107qu007r0107rW007ra107re007ri107rm007rq107ru007ry107tu007u0107xK007xO107xq0",
    "07xu107xy007y8107yK007yO107yq007z0107zG007zO107zm007.0107.q007_8107_K007_O107_q00874108780",
    "087y10880008901089q008G8108GC008GS108GW008Ge108HG008HK108HO008Ha108Hu008IG108IK008IO108IS0",
    "08IW108Ia008Ie108Iu008Iy108Je008Jm108K0008KK108Ke008Ku108Ky008M0108Oa009BO109Ee00B0010BEK0",
    "0BEi10BEy00BF810BFG00BG010BIO00BIS10BIW00BIq10BIu00BJ010BMW00BMy10BN000BO010BPS00BQ010BQS0",
    "0BQW10BQy00BR010BRS00BRW10BRy00BS010BSS00BSW10BSy00BT010BTS00BTW10BTy00BU010BW000BYy10BZ00",
    "0C0K10C0W00C2410C2e00C3410C3O00C3W10C3q00C4410C9S00C9q10CA000CA410CFi00CFm10CG000CGK10CJ00",
    "0CJ410COy00CQ010CS000CV010CW000D0010JS000JW010f8q00fD010fFu00fG010fWq00fX010fY000fYe10fYm0",
    "0fa010fcy00fdG10fdm00fdy10fl000fnS10fo000fo810fua00fui10fzq00f_410g0O00g0S10g2W00g4010g7G0",
    "0g8010gCG00gCK10gCO00gF810gFW00gFi10gFm00gFq10gG000gGe10gIi00gJ010gLC00gM010gNq00gO010gRC0",
    "0gRG10gS000gSy10gT000gU010gV000gVe10gVy00gW010gZS00ga010gau00gc010gdS00gde10ghy00gi010gi40",
    "0gi810giC00gji10gju00gk010gl000gl810glO00gm410gmS00gma10gmy00gn410gnS00go010goS00goW10goy0",
    "0gp010gri00grm10gse00gt010g.i00h0010rwG00rx010ryS00ryi10r_m00.G010.cu00.d010.je00.m010.mS0",
    "0.nC10.nW00.nq10.oa00.oe10.pS00.pW10.pq00.pu10.py00.q010.q800.qC10.qK00.qO10.x800.zC10_Ju0",
    "0_L010_P000_P810_SW00_V010_Vm00_d010_dK00_dO10_lq00_o410_pi00_q410_ri00_sO10_xy00_y810_yW0",
    "0_ye10_z000_z810_zW00_ze10_zq010001100m0100q1102S0102W1103i0103m1103u0103y1104u010501105u0",
    "1080110Fi010K0110NK010e0110fq010g0110j4010m0110o0010oq110qi010r0110ti010u0110vu010w0110yG0",
    "10yW110z0010z4110zO011001119u011B0111DG011DW111Fm011G0111IW011J0111MG011N0111Ni011Nm111Oi0",
    "11Om111PC011PG111PO011PS111Q8011QC111R8011RC111Re011Ri111Rq011S0111VG011W0111pS011q0111rO0",
    "11s0111sW011u0111uO011uS111x4011x8111xi012001120O0120W1120a0120e1123O0123S1123a0123m1123q0",
    "123y1125O012601127S012801129y012E0112FC012FG112FO012G0112HO012I0112Je012K0112Le012O0112RW0",
    "12Ru112S0012W0112WG012WK112WS012Wm112XG012XK112XW012Xa112ZO012c0112dq012e0112fq012i0112iW0",
    "12ia112kK012m0112pO012q0112rO012s0112tC012u0112v8013001134a01380113BC013C0113FC013G0113IW0",
    "13Ke113MO013Ma113Me013My113OO013e0113ge013gi113gq013h0113h8013i8113iW013le113lq013m0113nq0",
    "13oS113oW013p0113qO013t0113u8013x0113yK013.0113_S014001144O014741147O01480114Ba014C8114CC0",
    "14D0114Ea014G0114JC014KG114KW014L0114NC014NO114NS014O0114S0014S4114SK014Su114T0014Te114Ti0",
    "14Tm114Tq014W0114X8014XC114ZK014ZS114ZW014Zu114a8014e0114eS014eW114ea014ee114eu014ey114fu0",
    "14fy114ga014h0114ka014m0114mG014mK114mq014my114n4014nC114oa014oe114p4014p8114pG014pK114pe0",
    "14pq114qK014qS114qa014qi114qq014r0114r4014rS114rW014rq114sG014u0114ue014ui114um014uu114uy0",
    "14v0114xO014xS114y4014y8114yC014yK114yO014yS114yi014ym114yu014z4114z8014zC114zG01500115480",
    "154C1154O0154S1154i0155y1156801580115C8015CG115CO015CS115CW015O0115RO015RW115Ry015TW115Tu0",
    "15W0115Zy015a0115a4015aG115aK015e0115hO015hW115ha015m0115ni015nq115oi015q0115qS016001163a0",
    "16A0116E0016Fy116GS016Ga116Ge016Gm116HG016HK116HS016HW116JO016JS116Ja016Ji116Jq016Jy116KC0",
    "16Q0116QW016Qe116TW016Te116U0016U4116U8016UC116UK016W0116ZC016ZK116Zy016b0116fW016fq116fu0",
    "16h0116la016s0116sW016y0116.4017001170a0170e1173S0173W1173y0174011744017781179001798117AW0",
    "17Aa117BS017G0117GS017GW117Ge017Gi117JS017Je117Ji017Jm117Ju017Jy117K8017KC117KG017KO117KW0",
    "17M0117MO017MS117Ma017Me117Oy017P0117P8017PC117PS017PW117Pa017R0117Tm017k0117lS017m0117n40",
    "17n8117pi017pu117q4017x0117x401800118ve019001196y01980119KG01Bv011B_401C0011D3001D4411D4S0",
    "1D6011G_i01H0011HaS01OG011OIy01Q0011QZa01Qa011Qby01Qd011Qhy01Qj011Qku01Qm011Qp001Qq011QqG0",
    "1QsC11QtW01Qtq11Qv001RK011RMq01Ra011Re001Rg011Rha01Rhi11RjG01Rm011Rqi01Rqy11RuW01Ruy11Rw00",
    "1R.011R.801R.C11R.G01R_011R_S01S0011ZDO01ZFy11ZHy01ZO011ZVC01h_011h_G01h_K11h_m01h_q11h_y0",
    "1i0011iIC01iJ811iJC01iL011iLC01iLK11iLO01iMG11iMW01iN011ilm01l0011l6i01l7011l7q01l8011l8a0",
    "1l9011l9e01l9u11l9y01r0011r5K01r5O11r9q01r9u11rA001rA811rAC01rAK11rAS01rAa11rAq01rAu11rBe0",
    "1rBi11rBm01rBq11rCG01rCK11rGO01rGS11rGi01rGq11rHK01rHO11rHq01rHu11rJe01rJi11rJy01rK011rKK0",
    "1rKO11rKS01rKe11rL401rL811rgO01rgW11ri401ri811rji01rjm11rli01rlm11rnK01rnO11rpK01rpO11rqy0",
    "1rr011rsy01rt011rua01rue11rwa01rwe11ryC01ryG11rym01tm011tny01toK11toi01u0011u0S01u0W11u1a0",
    "1u1i11u2801u2C11u2K01u2O11u2i01u3011u6u01u8y11u9001uG011uIq01uJS11uJu01uKu11uKy01uf011ugu0",
    "1ui011ukm01vD011vEm01vT011vUu01vV011vV401vi011vjy01vk011vlO01vlu11vm001v.011v.S01v.W11v.m0",
    "1v.q11v.y01v_011v_y01w0011wCK01wG011wKG01wKS11wKW01wKi11wKm01xW011xWG01xWK11xY001xY411xYC0",
    "1xYG11xYK01xYS11xYW01xYa11xZC01xZG11xZW01xZa11xZe01xZi11xZm01xa811xaC01xaS11xaW01xaa11xae0",
    "1xai11xam01xaq11xb001xb411xbC01xbG11xbK01xbS11xbW01xba11xbe01xbi11xbm01xbq11xbu01xby11xc00",
    "1xc411xcC01xcG11xcK01xcS11xci01xcm11xdC01xdG11xdW01xda11xdq01xdu11xdy01xe011xee01xei11xfm0",
    "1xg411xgG01xgK11xge01xgi11xhm01yJ011yKe01yL011yMe01yN011yOe0200012fk002fm012k1u02k2012pgu0",
    "2ph012w.402w_012xbu02.0012.Xu03000134qi034r013D7e0"]

/-- Upper-case characters. -/
def uppercaseRuns : Array Nat := Packed.unpack 5
  ["00441005i000C0100DS000DW100Dy000G0100G4000G8100GC000GG100GK000GO100GS000GW100Ga000Ge100Gi0",
    "00Gm100Gq000Gu100Gy000H0100H4000H8100HC000HG100HK000HO100HS000HW100Ha000He100Hi000Hm100Hq0",
    "00Hu100Hy000I0100I4000I8100IC000IG100IK000IO100IS000IW100Ia000Ie100Ii000Im100Iq000Iu100Iy0",
    "00J0100J4000J8100JC000JG100JK000JO100JS000Ja100Je000Ji100Jm000Jq100Ju000Jy100K0000K4100K80",
    "00KC100KG000KK100KO000KS100KW000Ke100Ki000Km100Kq000Ku100Ky000L0100L4000L8100LC000LG100LK0",
    "00LO100LS000LW100La000Le100Li000Lm100Lq000Lu100Ly000M0100M4000M8100MC000MG100MK000MO100MS0",
    "00MW100Ma000Me100Mi000Mm100Mq000Mu100My000N0100N4000N8100NC000NG100NK000NO100NS000NW100Ne0",
    "00Ni100Nm000Nq100Nu000O4100OC000OG100OK000OO100OW000Oa100Om000Ou100P8000PC100PK000PO100Pa0",
    "00Pm100Pu000Py100Q4000Q8100QC000QG100QK000QO100QW000Qa100Qe000Qm100Qq000Qu100R0000R4100RG0",
    "00RK100RO000RS100Ra000Rm100Rq000SG100SK000SS100SW000Se100Si000Sq100Su000Sy100T0000T4100T80",
    "00TC100TG000TK100TO000TS100TW000Ta100Te000Ti100Tm000Tu100Ty000U0100U4000U8100UC000UG100UK0",
    "00UO100US000UW100Ua000Ue100Ui000Um100Uq000Uu100Uy000V4100V8000VG100VK000VO100Va000Ve100Vi0",
    "00Vm100Vq000Vu100Vy000W0100W4000W8100WC000WG100WK000WO100WS000WW100Wa000We100Wi000Wm100Wq0",
    "00Wu100Wy000X0100X4000X8100XC000XG100XK000XO100XS000XW100Xa000Xe100Xi000Xm100Xq000Xu100Xy0",
    "00Y0100Y4000Y8100YC000YG100YK000YO100YS000YW100Ya000Ye100Yi000Ym100Yq000Yu100Yy000Z0100Z40",
    "00Z8100ZC000Ze100Zm000Zq100Zy000a4100a8000aC100aS000aW100aa000ae100ai000am100aq000au100ay0",
    "00t0100t4000t8100tC000tO100tS000ty100u0000uO100uS000uW100ui000um100uq000uu100v0000v4100w80",
    "00wC100wm000yy100z0000z8100zK000zW100za000ze100zi000zm100zq000zu100zy000.0100.4000.8100.C0",
    "00.G100.K000.O100.S000.W100.a000.e100.i000.m100.q000.u100.y000_G100_K000_S100_W000_a100_i0",
    "00_q101300016010164001681016C0016G1016K0016O1016S0016W1016a0016e1016i0016m1016q0016u1016y0",
    "017010174001781017C0017G1017K0017O1017S0017W1017a0017e1017i0017m1017q0017u1017y00180101840",
    "018e1018i0018m1018q0018u1018y0019010194001981019C0019G1019K0019O1019S0019W1019a0019e1019i0",
    "019m1019q0019u1019y001A0101A4001A8101AC001AG101AK001AO101AS001AW101Aa001Ae101Ai001Am101Aq0",
    "01Au101Ay001B0101B4001B8101BC001BG101BK001BO101BS001BW101Ba001Be101Bi001Bm101Bq001Bu101By0",
    "01C0101C8001CC101CG001CK101CO001CS101CW001Ca101Ce001Ci101Cm001Cq101Cu001D0101D4001D8101DC0",
    "01DG101DK001DO101DS001DW101Da001De101Di001Dm101Dq001Du101Dy001E0101E4001E8101EC001EG101EK0",
    "01EO101ES001EW101Ea001Ee101Ei001Em101Eq001Eu101Ey001F0101F4001F8101FC001FG101FK001FO101FS0",
    "01FW101Fa001Fe101Fi001Fm101Fq001Fu101Fy001G0101G4001G8101GC001GG101GK001GO101GS001GW101Ga0",
    "01Ge101Gi001Gm101Gq001Gu101Gy001H0101H4001H8101HC001HG101HK001HO101HS001HW101Ha001He101Hi0",
    "01Hm101Hq001Hu101Hy001I0101I4001I8101IC001IG101IK001IO101IS001IW101Ia001Ie101Ii001Im101Iq0",
    "01Iu101Iy001J4101LS004A0104CO004CS104CW004Cq104Cu004w0104_O0078a1078e00790107Bi007Bq107C00",
    "07W0107W4007W8107WC007WG107WK007WO107WS007WW107Wa007We107Wi007Wm107Wq007Wu107Wy007X0107X40",
    "07X8107XC007XG107XK007XO107XS007XW107Xa007Xe107Xi007Xm107Xq007Xu107Xy007Y0107Y4007Y8107YC0",
    "07YG107YK007YO107YS007YW107Ya007Ye107Yi007Ym107Yq007Yu107Yy007Z0107Z4007Z8107ZC007ZG107ZK0",
    "07ZO107ZS007ZW107Za007Ze107Zi007Zm107Zq007Zu107Zy007a0107a4007a8107aC007aG107aK007aO107aS0",
    "07aW107aa007ae107ai007am107aq007au107ay007b0107b4007b8107bC007bG107bK007bO107bS007bW107ba0",
    "07be107bi007bm107bq007bu107by007c0107c4007c8107cC007cG107cK007cO107cS007cW107ca007ce107ci0",
    "07cm107cq007cu107cy007d0107d4007d8107dC007dG107dK007dO107dS007dW107da007de107di007dm107dq0",
    "07du107dy007e0107e4007e8107eC007eG107eK007eO107eS007eW107ea007ee107ei007em107eq007eu107ey0",
    "07f0107f4007f8107fC007fG107fK007fu107fy007g0107g4007g8107gC007gG107gK007gO107gS007gW107ga0",
    "07ge107gi007gm107gq007gu107gy007h0107h4007h8107hC007hG107hK007hO107hS007hW107ha007he107hi0",
    "07hm107hq007hu107hy007i0107i4007i8107iC007iG107iK007iO107iS007iW107ia007ie107ii007im107iq0",
    "07iu107iy007j0107j4007j8107jC007jG107jK007jO107jS007jW107ja007je107ji007jm107jq007ju107jy0",
    "07k0107k4007k8107kC007kG107kK007kO107kS007kW107ka007ke107ki007km107kq007ku107ky007l0107l40",
    "07l8107lC007lG107lK007lO107lS007lW107la007le107li007lm107lq007lu107ly007mW107n0007nW107nu0",
    "07oW107p0007pW107q0007qW107qu007ra107re007ri107rm007rq107ru007ry107s0007sW107t0007xW107xm0",
    "07yW107ym007zW107zm007.W107.q007_W107_m008G8108GC008GS108GW008Gi108Gu008H0108HC008HK108HO0",
    "08Ha108Hu008IG108IK008IO108IS008IW108Ia008Ie108Iu008J0108JG008Ju108K0008KK108KO008M0108N00",
    "08OC108OG009BO109D000B0010B3000B6010B6400B6810B6K00B6S10B6W00B6a10B6e00B6i10B6m00B6q10B740",
    "0B7810B7C00B7K10B7O00B7u10B8400B8810B8C00B8G10B8K00B8O10B8S00B8W10B8a00B8e10B8i00B8m10B8q0",
    "0B8u10B8y00B9010B9400B9810B9C00B9G10B9K00B9O10B9S00B9W10B9a00B9e10B9i00B9m10B9q00B9u10B9y0",
    "0BA010BA400BA810BAC00BAG10BAK00BAO10BAS00BAW10BAa00BAe10BAi00BAm10BAq00BAu10BAy00BB010BB40",
    "0BB810BBC00BBG10BBK00BBO10BBS00BBW10BBa00BBe10BBi00BBm10BBq00BBu10BBy00BC010BC400BC810BCC0",
    "0BCG10BCK00BCO10BCS00BCW10BCa00BCe10BCi00BCm10BCq00BCu10BCy00BD010BD400BD810BDC00BDG10BDK0",
    "0BDO10BDS00BDW10BDa00BDe10BDi00BDm10BDq00BDu10BDy00BE010BE400BE810BEC00BEi10BEm00BEq10BEu0",
    "0BF810BFC00fa010fa400fa810faC00faG10faK00faO10faS00faW10faa00fae10fai00fam10faq00fau10fay0",
    "0fb010fb400fb810fbC00fbG10fbK00fbO10fbS00fbW10fba00fbe10fbi00fbm10fbq00fbu10fby00fc010fc40",
    "0fc810fcC00fcG10fcK00fcO10fcS00fcW10fca00fce10fci00fcm10fcq00fe010fe400fe810feC00feG10feK0",
    "0feO10feS00feW10fea00fee10fei00fem10feq00feu10fey00ff010ff400ff810ffC00ffG10ffK00ffO10ffS0",
    "0ffW10ffa00ffe10ffi00fo810foC00foG10foK00foO10foS00foW10foa00foe10foi00fom10foq00fou10foy0",
    "0fp810fpC00fpG10fpK00fpO10fpS00fpW10fpa00fpe10fpi00fpm10fpq00fpu10fpy00fq010fq400fq810fqC0",
    "0fqG10fqK00fqO10fqS00fqW10fqa00fqe10fqi00fqm10fqq00fqu10fqy00fr010fr400fr810frC00frG10frK0",
    "0frO10frS00frW10fra00fre10fri00frm10frq00fru10fry00fs010fs400fs810fsC00fsG10fsK00fsO10fsS0",
    "0fsW10fsa00fse10fsi00fsm10fsq00fsu10fsy00fta10fte00fti10ftm00ftq10fty00fu010fu400fu810fuC0",
    "0fuG10fuK00fuO10fuS00fui10fum00fuq10fuu00fv010fv400fv810fvC00fvO10fvS00fvW10fva00fve10fvi0",
    "0fvm10fvq00fvu10fvy00fw010fw400fw810fwC00fwG10fwK00fwO10fwS00fwW10fwa00fwe10fwy00fx010fxK0",
    "0fxO10fxS00fxW10fxa00fxe10fxi00fxm10fxq00fxu10fxy00fy010fy400fy810fyC00fyG10fyW00fya10fye0",
    "0fyi10fyq00fyu10fyy00fz010fz400fz810fzC00fzG10fzK00fzO10fzS00fzW10fza00fze10fzi00fzm10fzq0",
    "0f_K10f_O00_o410_pi011001112W011B0111DG011N0111Ni011Nm111Oi011Om111PC011PG111PO01380113BC0",
    "13L0113MO016A0116C001Ra011Rc001Rg011Rha01r0011r1e01r3G11r4u01r6W11r8801r9m11r9q01r9u11rA00",
    "1rA811rAC01rAK11rAS01rAa11rAq01rAu11rBO01rD011rEe01rGG11rGO01rGS11rGi01rGq11rHK01rHO11rHq0",
    "1rJW11rJe01rJi11rJy01rK011rKK01rKO11rKS01rKe11rL401rMm11rOO01rQ011rRe01rTG11rUu01rWW11rY80",
    "1rZm11rbO01rd011ree01rgW11ri401rk811rli01rnm11rpK01rrO11rsy01rv011rwa01rye11ryi01wG011wI80",
    "1yJ011yKe01yL011yMe01yN011yOe0"]

/-- Lower-case characters. -/
def lowercaseRuns : Array Nat := Packed.unpack 5
  ["00641007i000Ae100Ai000BK100BO000Be100Bi000Dy100FS000FW100G0000G4100G8000GC100GG000GK100GO0",
    "00GS100GW000Ga100Ge000Gi100Gm000Gq100Gu000Gy100H0000H4100H8000HC100HG000HK100HO000HS100HW0",
    "00Ha100He000Hi100Hm000Hq100Hu000Hy100I0000I4100I8000IC100IG000IK100IO000IS100IW000Ia100Ie0",
    "00Ii100Im000Iq100Iu000Iy100J0000J4100J8000JC100JG000JK100JO000JS100Ja000Je100Ji000Jm100Jq0",
    "00Ju100Jy000K0100K4000K8100KC000KG100KK000KO100KS000KW100Ke000Ki100Km000Kq100Ku000Ky100L00",
    "00L4100L8000LC100LG000LK100LO000LS100LW000La100Le000Li100Lm000Lq100Lu000Ly100M0000M4100M80",
    "00MC100MG000MK100MO000MS100MW000Ma100Me000Mi100Mm000Mq100Mu000My100N0000N4100N8000NC100NG0",
    "00NK100NO000NS100NW000Ne100Ni000Nm100Nq000Nu100O4000OC100OG000OK100OO000OW100Oa000Om100Ou0",
    "00P8100PC000PK100PO000Pa100Pm000Pu100Py000Q4100Q8000QC100QG000QK100QO000QW100Qa000Qe100Qm0",
    "00Qq100Qu000R0100R4000RG100RK000RO100RS000Ra100Ri000Rq100S0000SO100SS000Sa100Se000Sm100Sq0",
    "00Su100Sy000T0100T4000T8100TC000TG100TK000TO100TS000TW100Ta000Te100Ti000Tm100Tu000Ty100U00",
    "00U4100U8000UC100UG000UK100UO000US100UW000Ua100Ue000Ui100Um000Uq100Uu000Uy100V4000VC100VG0",
    "00VK100VO000Va100Ve000Vi100Vm000Vq100Vu000Vy100W0000W4100W8000WC100WG000WK100WO000WS100WW0",
    "00Wa100We000Wi100Wm000Wq100Wu000Wy100X0000X4100X8000XC100XG000XK100XO000XS100XW000Xa100Xe0",
    "00Xi100Xm000Xq100Xu000Xy100Y0000Y4100Y8000YC100YG000YK100YO000YS100YW000Ya100Ye000Yi100Ym0",
    "00Yq100Yu000Yy100Z0000Z4100Z8000ZC100Ze000Zm100Zq000Zy100a4000a8100aC000aS100aW000aa100ae0",
    "00ai100am000aq100au000ay100fG000fO100ha000i0100i8000k0100kK000qK100qO000t4100t8000tC100tG0",
    "00tS100tW000te100tu000v0100v4000wm100yy000z0100z8000zK100zW000za100ze000zi100zm000zq100zu0",
    "00zy100.0000.4100.8000.C100.G000.K100.O000.S100.W000.a100.e000.i100.m000.q100.u000.y100_G0",
    "00_K100_O000_W100_a000_i100_q001301016000164101680016C1016G0016K1016O0016S1016W0016a1016e0",
    "016i1016m0016q1016u0016y1017000174101780017C1017G0017K1017O0017S1017W0017a1017e0017i1017m0",
    "017q1017u0017y1018000184101880018i1018m0018q1018u0018y1019000194101980019C1019G0019K1019O0",
    "019S1019W0019a1019e0019i1019m0019q1019u0019y101A0001A4101A8001AC101AG001AK101AO001AS101AW0",
    "01Aa101Ae001Ai101Am001Aq101Au001Ay101B0001B4101B8001BC101BG001BK101BO001BS101BW001Ba101Be0",
    "01Bi101Bm001Bq101Bu001By101C0001C8101CC001CG101CK001CO101CS001CW101Ca001Ce101Ci001Cm101Cq0",
    "01Cu101D0001D4101D8001DC101DG001DK101DO001DS101DW001Da101De001Di101Dm001Dq101Du001Dy101E00",
    "01E4101E8001EC101EG001EK101EO001ES101EW001Ea101Ee001Ei101Em001Eq101Eu001Ey101F0001F4101F80",
    "01FC101FG001FK101FO001FS101FW001Fa101Fe001Fi101Fm001Fq101Fu001Fy101G0001G4101G8001GC101GG0",
    "01GK101GO001GS101GW001Ga101Ge001Gi101Gm001Gq101Gu001Gy101H0001H4101H8001HC101HG001HK101HO0",
    "01HS101HW001Ha101He001Hi101Hm001Hq101Hu001Hy101I0001I4101I8001IC101IG001IK101IO001IS101IW0",
    "01Ia101Ie001Ii101Im001Iq101Iu001Iy101J0001M0101Oa004D0104Fi004Fm104G0004_W104_u007801078a0",
    "078e1078i007G0107S0007W4107W8007WC107WG007WK107WO007WS107WW007Wa107We007Wi107Wm007Wq107Wu0",
    "07Wy107X0007X4107X8007XC107XG007XK107XO007XS107XW007Xa107Xe007Xi107Xm007Xq107Xu007Xy107Y00",
    "07Y4107Y8007YC107YG007YK107YO007YS107YW007Ya107Ye007Yi107Ym007Yq107Yu007Yy107Z0007Z4107Z80",
    "07ZC107ZG007ZK107ZO007ZS107ZW007Za107Ze007Zi107Zm007Zq107Zu007Zy107a0007a4107a8007aC107aG0",
    "07aK107aO007aS107aW007aa107ae007ai107am007aq107au007ay107b0007b4107b8007bC107bG007bK107bO0",
    "07bS107bW007ba107be007bi107bm007bq107bu007by107c0007c4107c8007cC107cG007cK107cO007cS107cW0",
    "07ca107ce007ci107cm007cq107cu007cy107d0007d4107d8007dC107dG007dK107dO007dS107dW007da107de0",
    "07di107dm007dq107du007dy107e0007e4107e8007eC107eG007eK107eO007eS107eW007ea107ee007ei107em0",
    "07eq107eu007ey107f0007f4107f8007fC107fG007fK107fu007fy107g0007g4107g8007gC107gG007gK107gO0",
    "07gS107gW007ga107ge007gi107gm007gq107gu007gy107h0007h4107h8007hC107hG007hK107hO007hS107hW0",
    "07ha107he007hi107hm007hq107hu007hy107i0007i4107i8007iC107iG007iK107iO007iS107iW007ia107ie0",
    "07ii107im007iq107iu007iy107j0007j4107j8007jC107jG007jK107jO007jS107jW007ja107je007ji107jm0",
    "07jq107ju007jy107k0007k4107k8007kC107kG007kK107kO007kS107kW007ka107ke007ki107km007kq107ku0",
    "07ky107l0007l4107l8007lC107lG007lK107lO007lS107lW007la107le007li107lm007lq107lu007ly107mW0",
    "07n0107nO007o0107oW007p0107pW007q0107qO007r0107rW007s0107sW007t0107tu007u0107uW007v0107vW0",
    "07w0107wW007x0107xK007xO107xW007xu107xy007y8107yK007yO107yW007z0107zG007zO107zW007.0107.W0",
    "07_8107_K007_O107_W00874108780087y10880008901089q008Ge108Gi008Gu108H0008HC108HG008Iy108J00",
    "08JG108JK008Ja108Je008Jm108Ju008KO108Ke008Ku108Ky008N0108O0008OG108OK009D0109Ee00B3010B600",
    "0B6410B6800B6K10B6S00B6W10B6a00B6e10B6i00B6m10B6q00B7410B7800B7C10B7K00B7O10B7u00B8410B880",
    "0B8C10B8G00B8K10B8O00B8S10B8W00B8a10B8e00B8i10B8m00B8q10B8u00B8y10B9000B9410B9800B9C10B9G0",
    "0B9K10B9O00B9S10B9W00B9a10B9e00B9i10B9m00B9q10B9u00B9y10BA000BA410BA800BAC10BAG00BAK10BAO0",
    "0BAS10BAW00BAa10BAe00BAi10BAm00BAq10BAu00BAy10BB000BB410BB800BBC10BBG00BBK10BBO00BBS10BBW0",
    "0BBa10BBe00BBi10BBm00BBq10BBu00BBy10BC000BC410BC800BCC10BCG00BCK10BCO00BCS10BCW00BCa10BCe0",
    "0BCi10BCm00BCq10BCu00BCy10BD000BD410BD800BDC10BDG00BDK10BDO00BDS10BDW00BDa10BDe00BDi10BDm0",
    "0BDq10BDu00BDy10BE000BE410BE800BEC10BEK00BEm10BEq00BEu10BEy00BFC10BFG00BG010BIO00BIS10BIW0",
    "0BIq10BIu00fa410fa800faC10faG00faK10faO00faS10faW00faa10fae00fai10fam00faq10fau00fay10fb00",
    "0fb410fb800fbC10fbG00fbK10fbO00fbS10fbW00fba10fbe00fbi10fbm00fbq10fbu00fby10fc000fc410fc80",
    "0fcC10fcG00fcK10fcO00fcS10fcW00fca10fce00fci10fcm00fcq10fcu00fe410fe800feC10feG00feK10feO0",
    "0feS10feW00fea10fee00fei10fem00feq10feu00fey10ff000ff410ff800ffC10ffG00ffK10ffO00ffS10ffW0",
    "0ffa10ffe00ffi10ffu00foC10foG00foK10foO00foS10foW00foa10foe00foi10fom00foq10fou00foy10fp80",
    "0fpC10fpG00fpK10fpO00fpS10fpW00fpa10fpe00fpi10fpm00fpq10fpu00fpy10fq000fq410fq800fqC10fqG0",
    "0fqK10fqO00fqS10fqW00fqa10fqe00fqi10fqm00fqq10fqu00fqy10fr000fr410fr800frC10frG00frK10frO0",
    "0frS10frW00fra10fre00fri10frm00frq10fru00fry10fs000fs410fs800fsC10fsG00fsK10fsO00fsS10fsW0",
    "0fsa10fse00fsi10fsm00fsq10fsu00fsy10fta00fte10fti00ftm10ftq00fty10fu000fu410fu800fuC10fuG0",
    "0fuK10fuO00fuS10fuW00fum10fuq00fuu10fuy00fv410fv800fvC10fvO00fvS10fvW00fva10fve00fvi10fvm0",
    "0fvq10fvu00fvy10fw000fw410fw800fwC10fwG00fwK10fwO00fwS10fwW00fwa10fwe00fwy10fx000fxK10fxO0",
    "0fxS10fxW00fxa10fxe00fxi10fxm00fxq10fxu00fxy10fy000fy410fy800fyC10fyG00fyW10fya00fye10fyi0",
    "0fyq10fyu00fyy10fz000fz410fz800fzC10fzG00fzK10fzO00fzS10fzW00fza10fze00fzi10fzm00f_410f_K0",
    "0f_O10f_S00f_W10f_i00gp010gri00grm10gse00gt010gy000.m010.mS00.nC10.nW00_q410_ri0112W111500",
    "11DW111Fm011PS111Q8011QC111R8011RC111Re011Ri111Rq011u0111u4011uC111uO011uS111x4011x8111xi0",
    "13C0113FC013N0113OO016C0116E001Rc011Re001Rhi11RjG01r1e11r3G01r4u11r5K01r5O11r6W01r8811r9m0",
    "1rBO11rBe01rBi11rBm01rBq11rCG01rCK11rD001rEe11rGG01rHu11rJW01rL811rMm01rOO11rQ001rRe11rTG0",
    "1rUu11rWW01rY811rZm01rbO11rd001ree11rgO01ri811rji01rjm11rk801rlm11rnK01rnO11rnm01rpO11rqy0",
    "1rr011rrO01rt011rua01rue11rv001rwe11ryC01ryG11rye01ryi11rym01tm011tme01tmi11tny01toK11toi0",
    "1u3011u6u01wI811wKG0"]

end ResidencePortal.Unicode
