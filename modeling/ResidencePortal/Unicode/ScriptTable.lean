import ResidencePortal.Text.Packed

/-!
# Scripts of the Unicode standard

Runs of code points with the number of their script; zero stands for none.
-/

namespace ResidencePortal.Unicode

open Text

/-- The scripts by long and short name, in lower case and without underscores. The first has number one. -/
def scriptNames : List (String × String) :=
  [("adlam", "adlm"), ("ahom", "ahom"), ("anatolianhieroglyphs", "hluw"), ("arabic", "arab"),
    ("armenian", "armn"), ("avestan", "avst"), ("balinese", "bali"), ("bamum", "bamu"),
    ("bassavah", "bass"), ("batak", "batk"), ("bengali", "beng"), ("beriaerfe", "berf"),
    ("bhaiksuki", "bhks"), ("bopomofo", "bopo"), ("brahmi", "brah"), ("braille", "brai"),
    ("buginese", "bugi"), ("buhid", "buhd"), ("canadianaboriginal", "cans"),
    ("carian", "cari"), ("caucasianalbanian", "aghb"), ("chakma", "cakm"), ("cham", "cham"),
    ("cherokee", "cher"), ("chorasmian", "chrs"), ("common", "zyyy"), ("coptic", "copt"),
    ("cuneiform", "xsux"), ("cypriot", "cprt"), ("cyprominoan", "cpmn"), ("cyrillic", "cyrl"),
    ("deseret", "dsrt"), ("devanagari", "deva"), ("divesakuru", "diak"), ("dogra", "dogr"),
    ("duployan", "dupl"), ("egyptianhieroglyphs", "egyp"), ("elbasan", "elba"),
    ("elymaic", "elym"), ("ethiopic", "ethi"), ("garay", "gara"), ("georgian", "geor"),
    ("glagolitic", "glag"), ("gothic", "goth"), ("grantha", "gran"), ("greek", "grek"),
    ("gujarati", "gujr"), ("gunjalagondi", "gong"), ("gurmukhi", "guru"),
    ("gurungkhema", "gukh"), ("han", "hani"), ("hangul", "hang"), ("hanifirohingya", "rohg"),
    ("hanunoo", "hano"), ("hatran", "hatr"), ("hebrew", "hebr"), ("hiragana", "hira"),
    ("imperialaramaic", "armi"), ("inherited", "zinh"), ("inscriptionalpahlavi", "phli"),
    ("inscriptionalparthian", "prti"), ("javanese", "java"), ("kaithi", "kthi"),
    ("kannada", "knda"), ("katakana", "kana"), ("kawi", "kawi"), ("kayahli", "kali"),
    ("kharoshthi", "khar"), ("khitansmallscript", "kits"), ("khmer", "khmr"),
    ("khojki", "khoj"), ("khudawadi", "sind"), ("kiratrai", "krai"), ("lao", "laoo"),
    ("latin", "latn"), ("lepcha", "lepc"), ("limbu", "limb"), ("lineara", "lina"),
    ("linearb", "linb"), ("lisu", "lisu"), ("lycian", "lyci"), ("lydian", "lydi"),
    ("mahajani", "mahj"), ("makasar", "maka"), ("malayalam", "mlym"), ("mandaic", "mand"),
    ("manichaean", "mani"), ("marchen", "marc"), ("masaramgondi", "gonm"),
    ("medefaidrin", "medf"), ("meeteimayek", "mtei"), ("mendekikakui", "mend"),
    ("meroiticcursive", "merc"), ("meroitichieroglyphs", "mero"), ("miao", "plrd"),
    ("modi", "modi"), ("mongolian", "mong"), ("mro", "mroo"), ("multani", "mult"),
    ("myanmar", "mymr"), ("nabataean", "nbat"), ("nagmundari", "nagm"),
    ("nandinagari", "nand"), ("newtailue", "talu"), ("newa", "newa"), ("nko", "nkoo"),
    ("nushu", "nshu"), ("nyiakengpuachuehmong", "hmnp"), ("ogham", "ogam"),
    ("olchiki", "olck"), ("olonal", "onao"), ("oldhungarian", "hung"), ("olditalic", "ital"),
    ("oldnortharabian", "narb"), ("oldpermic", "perm"), ("oldpersian", "xpeo"),
    ("oldsogdian", "sogo"), ("oldsoutharabian", "sarb"), ("oldturkic", "orkh"),
    ("olduyghur", "ougr"), ("oriya", "orya"), ("osage", "osge"), ("osmanya", "osma"),
    ("pahawhhmong", "hmng"), ("palmyrene", "palm"), ("paucinhau", "pauc"), ("phagspa", "phag"),
    ("phoenician", "phnx"), ("psalterpahlavi", "phlp"), ("rejang", "rjng"), ("runic", "runr"),
    ("samaritan", "samr"), ("saurashtra", "saur"), ("sharada", "shrd"), ("shavian", "shaw"),
    ("siddham", "sidd"), ("sidetic", "sidt"), ("signwriting", "sgnw"), ("sinhala", "sinh"),
    ("sogdian", "sogd"), ("sorasompeng", "sora"), ("soyombo", "soyo"), ("sundanese", "sund"),
    ("sunuwar", "sunu"), ("sylotinagri", "sylo"), ("syriac", "syrc"), ("tagalog", "tglg"),
    ("tagbanwa", "tagb"), ("taile", "tale"), ("taitham", "lana"), ("taiviet", "tavt"),
    ("taiyo", "tayo"), ("takri", "takr"), ("tamil", "taml"), ("tangsa", "tnsa"),
    ("tangut", "tang"), ("telugu", "telu"), ("thaana", "thaa"), ("thai", "thai"),
    ("tibetan", "tibt"), ("tifinagh", "tfng"), ("tirhuta", "tirh"), ("todhri", "todr"),
    ("tolongsiki", "tols"), ("toto", "toto"), ("tulutigalari", "tutg"), ("ugaritic", "ugar"),
    ("vai", "vaii"), ("vithkuqi", "vith"), ("wancho", "wcho"), ("warangciti", "wara"),
    ("yezidi", "yezi"), ("yi", "yiii"), ("zanabazarsquare", "zanb")]

/-- The scripts, run by run. -/
def scriptRuns : Array Nat := Packed.unpack 5
  ["0000Q0045B005iQ0065B007iQ00AfB00AiQ00BfB00BiQ00C1B00DSQ00DXB00FSQ00FXB00haQ00k1B00kKQ00keE",
    "00kmQ00m0x00t0k00tGQ00tKk00tW000tek00tuQ00tyk00u0000uGk00uKQ00uOk00uSQ00uWk00ui000umk00uq0",
    "00uuk00w8000wCk00.8R00_0k0100V018Kx018SV01J0001J4501LS001La501Oi001Oq501P0001P4u01SW001T0u",
    "01Ui001Uyu01VK001W0401WKQ01WO401WmQ01Wq401XiQ01Xm401XyQ01Y0401a0Q01a4401aix01bO401d0x01d44",
    "01jqQ01ju401m2I01mu001m.I01qi001qsI01r0401u2U01x8001y1g01_i001_rg02024022u002324023y00241M",
    "025m0025vM025y00262I026i00270402980029S402E8Q02EC402G0X02L4x02LKX02MGQ02MOX02O0B02OG002OKB",
    "02Oq002OyB02P4002PCB02Qa002QeB02R4002R8B02RC002ROB02Re002RmB02SK002SSB02Sa002SiB02Sy002TSB",
    "02TW002TmB02Tu002TyB02UG002UOB02Vy002W4n02WG002WKn02Wi002Wyn02X4002XCn02Ya002Yen02Z4002Z8n",
    "02ZG002ZKn02ZS002ZWn02Ze002Zmn02Zq002Zun02aC002aSn02aa002ain02au002b4n02b8002ban02bq002bun",
    "02by002cOn02dS002e4l02eG002eKl02eu002eyl02f8002fCl02ga002gel02h4002h8l02hG002hKl02he002hml",
    "02iO002iSl02ie002iil02iu002j0l02j4002k0l02kG002kOl02l8002lal02m0002m5v02mG002mLv02mq002mzv",
    "02n4002nDv02oa002ofv02p4002p9v02pG002pLv02pe002pnv02qK002qTv02qa002qjv02qu002rLv02rW002rnv",
    "02ru002rzv02sG002sPv02tW002uAQ02uG002uMQ02ui002uwQ02v4002vAQ02vO002vcQ02vi002voQ02vq002vwQ",
    "02w0002wEQ02wK002wYQ02wi002wwQ02xe002xwQ02yC002yQQ02ya002ygQ02yu002z2Q02z4002zUQ02zW002.QQ",
    "02_i00302T030q0030wT03140031AT032a0032gT033e0033oT034K0034QT034a0034gT034u0035MT035S0035YT",
    "035i0035oT035u00362T036G0036QT03700037UT03810038q0038v0039400399003Aa003Af003BG003BL003Be0",
    "03Bn003CK003CP003Ca003Cf003Cu003DL003DS003Dn003Dy003E1003EG003EP003F0003F5003FG003G1L03Gq0",
    "03GvL03H4003H9L03KK003KPL03Ka003KfL03L0003LHL03MG003MPL03O0003O6B03OG003OMB03PS003PgB03R80",
    "03REB03Rm003RsB03Ru003S2B03SS003SgB03Si003S.B03TK003TQB03TS003TYB03U0003UQB03V0003VAB03VK0",
    "03W6V03Zi003ZyQ03a2V03bm003e5A03eC003eHA03eK003ePA03ei003enA03gG003gLA03gO003gTA03hu003i1A",
    "03iK003iPA03iS003iXA03iy003j1A03je003jnA03k0003m2W03qW003qcW03sq003t6W03vW003vcW03xq003xwW",
    "03yq003ywW03zKQ03zcW03zi00401a04A0g04CO004CSg04CW004Cqg04Cu004D0g04FiQ04Fmg04G0q04W0e04aa0",
    "04aee04au004b0e04bS004bWe04ba004bee04bu004c0e04ea004eee04eu004f0e04h4004h8e04hO004hWe04hy0",
    "04i0e04i4004i8e04iO004iWe04jS004jWe04n4004n8e04nO004nWe04ri004rqe04tq004u0e04ve004w0O04_O0",
    "04_WO04_u00500J05e1j05fq005g2305kiQ05kw305la005m2J05nO005n.J05o0s05pKQ05pS005q0I05rG005s2K",
    "05sq005swK05t4005tAK05tG005u1605zu005.1605.e005_1605_e00601X0608Q060HX060KQ060PX061e00621X",
    "067a00681X06Ai006B0J06FO006G1D06Hy006I1D06Im006J1D06Jm006K1D06K4006KHD06L2L06Mu006N2L06NK0",
    "06O1e06Qm006R1e06Se006T1e06Ti006Tve06U1606W0H06Xm006XuH06Y2M06by006c2M06dq006d.M06ee006f2M",
    "06fe006g2M06gu006h0x06ju006k0x06km006m0706qq006qu706u2F06y0A06_G006_mA0701C073W0073jC074e0",
    "074rC0751k0780V078i00790g07Bi007Bqg07C2F07CW007D0x07DCQ07DGx07E4Q07E8x07EaQ07Eqx07EuQ07FGx",
    "07FKQ07FWx07FeQ07Fi007G1B07IOk07IiV07InB07Lqk07M9B07MOk07MjB07NWV07NbB07Ryk07S0x07W1B07m0k",
    "07nO007nWk07nu007o0k07qO007qWk07qu007r0k07rW007rak07re007rik07rm007rqk07ru007ryk07tu007u0k",
    "07xK007xOk07yK007yOk07zG007zOk07zm007zqk07_0007_8k07_K007_Ok07_y00800Q080mx080uQ086K0086OQ",
    "0875B08780087GQ087zB0880Q088y00891B089q008A0Q08C8008D0x08F4008G0Q08IOk08ISQ08IfB08ImQ08J9B",
    "08JCQ08KvB08KyQ08M1B08OaQ08Om008P0Q092e00940Q094i00960Q0A00G0AG0Q0AtG00AtOQ0B00h0B61B0B80R",
    "0BFG00BFaR0BG0g0BIO00BISg0BIW00BIqg0BIu00BJ2X0BMW00BM.X0BN400BN.X0BO0e0BPS00BQ0e0BQS00BQWe",
    "0BQy00BR0e0BRS00BRWe0BRy00BS0e0BSS00BSWe0BSy00BT0e0BTS00BTWe0BTy00BU0V0BW0Q0Bbu00Be0p0Bfe0",
    "0Bfip0BlG00Bm0p0BzO00B_0Q0C0Kp0C0OQ0C0Sp0C0WQ0C24p0C2ex0C2uq0C30Q0C3Wp0C3mQ0C4000C44v0C9S0",
    "0C9ax0C9iQ0C9qv0CA0Q0CA510CFiQ0CFr10CG000CGKE0CJ000CJ4q0COy00CP0Q0CQ0E0CS0Q0CUO00CUyQ0CV11",
    "0CW0q0CXy00CY0Q0Cc0q0CdyQ0Cj110ClyQ0Cm110CrWQ0D00p0JS0Q0JW0p0e02j0f8q00f92j0fCS00fD1G0fG2e",
    "0fYm00fa0V0fg080flW00fm0Q0fo9B0fuWQ0fujB0fzq00f_5B0g02H0g2q00g30Q0g3e00g41_0g7W00g8250gCO0",
    "0gCw50gDe00gE0X0gG130gIuQ0gIz30gJ220gLG00gL.20gM0q0gNq00gO0.0gSu00gSyQ0gT0.0gTe00gTu.0gU1a",
    "0gVy00gW0N0gZS00ga0N0gau00gb0N0gbe00gbmN0gc1a0ge2N0giC00gjkN0gk1R0glS00gm4e0gmS00gmae0gmy0",
    "0gn4e0gnS00go0e0goS00goWe0goy00gp1B0griQ0grnB0gsKk0gsPB0gseQ0gsm00gt0O0gy1R0g.u00g_1R0g_e0",
    "0h00q0rwG00rx0q0ryS00ryiq0r_m00.G0p0.cu00.d0p0.je00.m1B0.mS00.nC50.nW00.nqu0.pS00.pWu0.pq0",
    "0.puu0.py00.q0u0.q800.qCu0.qK00.qOu0.r040_JuQ0_K040_T000_V040_W0x0_X0Q0_Xe00_Y0x0_YuV0_Z0Q",
    "0_bC00_bGQ0_cS00_cWQ0_cm00_d040_dK00_dO40_lq00_lyQ0_m000_m4Q0_o5B0_piQ0_q5B0_riQ0_sP10_t0Q",
    "0_t510_vuQ0_w0q0_xy00_y8q0_yW00_yeq0_z000_z8q0_zW00_zeq0_zq00_.0Q0_.S00_.WQ0_.y00__aQ0__u0",
    "1001F100m0100rF102S0102XF103i0103nF103u0103zF104u01051F105u01081F10Fi010G0Q10GC010GSQ10JG0",
    "10JSQ10K0k10Oy010P0Q10Pq010Q0k10Q4010T0Q10Vqx10Vu010e1H10fq010g0K10j4010k0x10k4Q10lm010m1n",
    "10oG010orn10p0i10qi010r1p10ti010u2d10vu010v.d10w1q10yG010yXq10zO01100W115271181x119u011A1x",
    "11Ae011B1w11DG011DXw11Fm011G0c11IW011J0L11MG011MyL11N2f11Ni011Nof11Oi011Oof11PC011PIf11PO0",
    "11PUf11Q8011QEf11R8011REf11Re011Rkf11Rq011S2Z11VG011W1E11pS011q1E11rO011s1E11sW011u1B11uO0",
    "11uTB11x4011x9B11xi01200T120O0120WT120a0120eT123O0123ST123a0123mT123q0123yT1240w125O0125Sw",
    "1261z1281b129y012ATb12B0012E0t12FC012FGt12FO012Fit12G2012Hm012H.012I1I12Je012JzI12K2912Le0",
    "12O1U12Q1T12RW012RnT12T0012T9T12W1412WG012WL412WS012Wn412XG012XL412XW012Xb412ZO012ZX412Zi0",
    "12Zz412aa012b1412ba012c1s12e1o12g0012i1N12kS012kjN12lS012m0612pO012pa612q0z12rO012rWz12s0y",
    "12tC012tWy12u2112v8012vc112vq012wc112x001301t134a01381m13BC013C1m13FC013Ffm13G0r13IW013J0r",
    "13Je013K0f13MO013Maf13OO013Ouf13P0013c0413dy013e2i13ge013gki13gu013h2i13h8013i8413iW013j04",
    "13ja013le413m1r13oW013p2C13re013t1u13ue013x0P13ym013.0d13_S01400F144u01458F147O0147yF1480_",
    "14CC014Cq_14Cu014D2D14Ea014F2D14Fe014G0M14JK014JOM14KW014L1J14NS014O2614U0014U6B14VK014W17",
    "14X8014XD714a8014e1Z14eS014eXZ14ea014efZ14eu014ezZ14fu014fzZ14ge014h1814ki014l1814le014m0j",
    "14mG014mKj14mq014myj14n4014nCj14oa014oej14p4014p8j14pG014pKj14pe014pix14pmj14qK014qSj14qa0",
    "14qij14qu014r0j14r4014rSj14rW014rqj14sG014sOj14sq014t0j14tK014u2c14ue014ukc14um014uwc14uy0",
    "14v2c14xO014xUc14y4014yAc14yC014yMc14yO014yUc14yi014yoc14zO014zUc14za014.6c14.C01501f155m0",
    "155rf156801582Y15CW015D2Y15De015O2815RO015RY815Tu015W1W15aK015b1W15be015c1X15cq015e2P15he0",
    "15i2P15ie015j1a15kG015m0215ni015nq215om015p0215qS01600Z163m016A2h16FC016F.h16G0Y16GS016GaY",
    "16Ge016GmY16HG016HKY16HS016HWY16JO016JSY16Ja016JiY16KS016L0Y16Le016Q1d16QW016Qfd16TW016Tfd",
    "16UK016W2k16aW016b2E16gC016h0J16i1.16la016m0X16me016s2616sW016y2G16.8016_2G16_e01700D170a0",
    "170eD173S0173WD174O01750D176q01771O179001799O17AW017AbO17BS017G1P17GS017GXP17Ge017GjP17JS0",
    "17JfP17Ji017JnP17Ju017JzP17KW017L1P17Le017M0m17MO017MSm17Ma017Mem17Oy017P0m17P8017PCm17Pa0",
    "17Q0m17Qe017R2a17Tm017U2a17Ue017k1K17la017m1217n4017n9217pi017pv217ri017x1G17x4017y2Q17_80",
    "17_.Q1800S18ve01900S196y01970S197K01980S19KG01Bv0U1B_C01C00b1D5O01D60b1G_i01H0031HaS01OG0o",
    "1OJe01Q0081QZa01Qa1Y1Qby01Qc1Y1Qce01QcvY1Qd2R1Qhy01Qi2R1Qie01Qj091Qku01Ql091QlO01Qm1y1QqO0",
    "1Qr1y1Qre01Qrjy1Qs801QsDy1QtW01Qtry1Qv001RK191RNe01Ra1Q1Rfi01Rg0C1Rha01RhiC1RjG01Rm1V1Rqi0",
    "1RqzV1RuW01RuzV1Rw001R.2S1R.5h1R.8p1R.H51R.K01R_0p1R_S01S02S1Ym151ZDO01ZFz51ZG2S1ZHy01ZO2S",
    "1ZVC01h_111h_G01h_L11h_m01h_r11h_y01i0111i04v1iI111iIC01iJ8v1iJC01iL0v1iLC01iLL11iLO01iMH1",
    "1iMW01iN1h1ilm01l00a1l6i01l70a1l7q01l80a1l8a01l90a1l9e01l9ma1lA0Q1lAG01p00Q1pFq01pG0Q1phG0",
    "1pheQ1pj401pk0Q1pl401pm0x1pou01pp0x1pqS01pr0Q1pyG01q00Q1qFO01qG0Q1qIS01qIaQ1qMSx1qMeQ1qNix",
    "1qOCQ1qOKx1qOmQ1qQex1qQuQ1qUi01qW0k1qaO01qi0Q1qjG01qk0Q1qlG01qm0Q1qrS01qs0Q1qta01r00Q1r5K0",
    "1r5OQ1r9q01r9uQ1rA001rA8Q1rAC01rAKQ1rAS01rAaQ1rAq01rAuQ1rBe01rBiQ1rBm01rBqQ1rCG01rCKQ1rGO0",
    "1rGSQ1rGi01rGqQ1rHK01rHOQ1rHq01rHuQ1rJe01rJiQ1rJy01rK0Q1rKK01rKOQ1rKS01rKeQ1rL401rL8Q1rgO0",
    "1rgWQ1rym01ryuQ1s02A1sem01sfkA1sg001sg6A1sh001tm1B1tny01toLB1toi01u00h1u0S01u0Wh1u1a01u1ih",
    "1u2801u2Ch1u2K01u2Oh1u2i01u30V1u6u01u8yV1u9001uG1i1uIq01uJ1i1uJu01uK1i1uKe01uKvi1uL001uf2b",
    "1ugy01ui2g1ule01ul.g1um001vD1c1vFe01vT1l1vVi01vVzl1vW001vi2O1vjy01vk2O1vlO01vlwO1vm001v.0e",
    "1v.S01v.We1v.m01v.qe1v.y01v_0e1v_y01w01S1wCK01wCTS1wDS01wG011wKm01wL011wLe01wLu11wM001x74Q",
    "1xBK01xG4Q1xJu01xW041xWG01xWK41xY001xY441xYC01xYG41xYK01xYS41xYW01xYa41xZC01xZG41xZW01xZa4",
    "1xZe01xZi41xZm01xa841xaC01xaS41xaW01xaa41xae01xai41xam01xaq41xb001xb441xbC01xbG41xbK01xbS4",
    "1xbW01xba41xbe01xbi41xbm01xbq41xbu01xby41xc001xc441xcC01xcG41xcK01xcS41xci01xcm41xdC01xdG4",
    "1xdW01xda41xdq01xdu41xdy01xe041xee01xei41xfm01xg441xgG01xgK41xge01xgi41xhm01xl041xl801y00Q",
    "1y2m01y30Q1y9G01yA0Q1yAy01yB4Q1yC001yC4Q1yD001yD4Q1yFO01yG0Q1yQu01yUOQ1yW0v1yW4Q1yWC01yX0Q",
    "1yZm01ya0Q1yaa01yb0Q1yb801yc0Q1ycO01ym0Q1zja01zjmQ1zkq01zl0Q1zlq01zm0Q1zze01z.0Q1z.m01z_0Q",
    "1z_401.00Q1.0m01.10Q1.4W01.50Q1.5e01.60Q1.8W01.90Q1.Au01.B0Q1.Bm01.C0Q1.C801.D0Q1.Da01.G0Q",
    "1.bW01.c0Q1.cu01.d0Q1.dq01.e0Q1.ei01.euQ1.iS01.iWQ1.ia01.iqQ1.jq01.jyQ1.ki01.kyQ1.la01.m0Q",
    "1.vC01.vGQ1._i02000p2fk002fm0p2k1u02k20p2pgu02ph0p2w.402w_0p2xbu02.00p2.Xu03000p34qi034r0p",
    "3D7e0E004QE0080E020QE0800E0G0xE0V00"]

end ResidencePortal.Unicode
