import ResidencePortal.Text.Packed

/-!
# Joining types of the Unicode standard

Runs of code points with the number of their joining type: zero for none, then `C D L R T`.
-/

namespace ResidencePortal.Unicode

open Text

/-- The types, run by run. -/
def joiningRuns : Array Nat := Packed.unpack 5
  ["00Aq500Au000m0500t00018C5018e001P4501Ru001Ry501S0001S4501SC001SG501SO001SS501SW001X0501Xi0",
    "01Xm501Xq001Y0201Y4001Y8401YO201YS401YW201Ya401Ye201Yy401ZC201a0101a4201aW401aa201ai501c00",
    "01cu201d0501d4401dG001dK401dW201eW401fe201i0401i4201iC401im201iq401iu201iy401j0201j8401jG0",
    "01jK401jO501jq001jy501kK001kS501ka001ke501ku401l0001le201lq001ly201m0001my501n0401n4501n82",
    "01nK401ne201nu401ny201oW401oa201oe401oi201om401oq201oy401p0501qi001qq401qu201ra401rm201si4",
    "01sq201t4401t8201tC401tK201tW401te201u0001wO501x4001ye201.i501_G001_e101_i001_q501_u0021O5",
    "021e0021i5022G0022K5022W0022a5022u00240402442024O4024W2024a4024e2025G4025K2025O4025a5025m0",
    "026020264002682026O0026S4026W2026a4026i002704028C1028O2028S0028a2028u4028y202900029S502A02",
    "02Ae402Aq002Au402Ay202B4402BC202Ba402Be202Ca002Ce502E8002EC502GC002Je502Ji002Jm502Jq002K45",
    "02Ka002Kq502Ku002L4502LW002M8502MG002O4502O8002Rm502Rq002S4502SK002Sq502Su002U8502UG002Vu5",
    "02Vy002W4502WC002Zm502Zq002a4502aC002aS502aa002ai502au002b4502b8002d0502d8002dK502dO002e45",
    "02eC002hm502hq002i4502iO002iS502ia002iq502iu002k8502kG002le502m0002m4502m8002pm502pq002py5",
    "02q0002q4502qK002qq502qu002rK502rS002s8502sG002u8502uC002y0502y4002yq502yu00300503040030G5",
    "030K0033m5033q0033u503440034O5034a0034e5034u0035K5035S003685036G0038450388003Bm503Bq003By5",
    "03C0003CO503CS003Cm503Cu003E8503EG003G0503G8003Ji503Jq003K4503KK003Kq503Ku003M8503MG003O45",
    "03O8003Se503Si003T8503TK003TO503TS003Z4503Z8003ZG503Zi003aS503ay003h4503h8003hG503hq003iW5",
    "03iy003nW503ne003pK503pO003pS503pW003pa503pe003t4503ty003u0503uK003uO503uW003uq503vW003va5",
    "03xq003yO503yS0042q50434004385043W0043a5043i0043q5043y0045W5045e0045u50464004745047K004885",
    "048C0048K5048S0048q5048u0049q5049u004rq504s0005n8505nK005p8505pG005r8505rG005t8505tG005xG5",
    "05xO005xS505xu005yO505yS005ya505zG005zq505zu0060S2060W0060e1060i5060u0060y50610006202067a0",
    "068K5068S206Aa506Ae206Ai006I0506IC006IS506Ia006J8506JC006Ja506Jm006XS506Xa006Xi506Xm006bO5",
    "06bS006bW506by006c0506c4006c8506cC006cK506cq006dC506dq006dy506e0006h0506ju006k0506km006m05",
    "06mG006pG506pK006pO506pi006pm506pq006q8506qC006si506tG006u0506u8006w8506wO006wW506we006wi5",
    "06wu006.O506.S006.W506.e006.q506.u006.y506_80072m5073G0073O5073W007D0507DC007DG507E4007E85",
    "07Ea007Eq507Eu007FG507FK007FW507Fe007S0507W00080i5080m0080q1080u508100082e5082y008605086K0",
    "086e50870008D0508F400BEy50BF800BNy50BO000BU050BW000C2e50C2u00C9a50C9i00fcy50fdC00fdG50fdu0",
    "0ffu50fg000fl050fl800g0850g0C00g0O50g0S00g0i50g0m00g2K50g2S00g2m50g2q00g4020g7830g7C00gCG5",
    "0gCO00gE050gF800gFy50gG000gIO50gIu00gKS50gL800gO050gOC00gRC50gRG00gRO50gRe00gRm50gRu00gUK5",
    "0gUO00gYa50gYy00gZ450gZC00gZK50gZS00gaC50gaG00gam50gaq00gdm50gdq00gh050gh400gh850ghK00ghS5",
    "0gha00ghu50gi000gi450gi800gkm50gku00glO50glS00g.K50g.O00g.W50g.a00g.q50g.u00.nu50.ny00_W05",
    "0_X000_Y050_Z000_ly50_m000__a50__m010Vq510Vu010k0510k4010tO510ti012W4512WG012WK512WS012Wm5",
    "12X0012ZW512Zi012Zy512a0012i0212iK412iO012iS412iW012ia412ii012iq312iu412jC212jS312jW212jq4",
    "12ju212k4412k8012kG412kK512kS012ki212ky412l0012u0212u4412u8212uC412uO212ua412ue212um412uq2",
    "12uu412v0212v4412v8012wa412wq212wy013G0313G4213I8413IC213IG513IW013Ma513Mu013gi513gq013i84",
    "13iC213iK013iO213iW013le513m0013p0213pC413pG213qK013qO513r4213rG413rK013t0213tG413tO213u85",
    "13uO013x0213x4013x8213xG413xS013xW213xa413xi213xq413xu213y0013y4213y8413yG213yK013ya413ye2",
    "13yi313ym01404514080143W5144S01470514740147C5147K0147y51488014BC514BS014Ba514Bi014C8514CC0",
    "14G0514GC014IS514Im014Iq514JK014NC514NG014O0514O8014RO514Ry014Sa514Sq014Sy514T0014Yy514Z80",
    "14ZG514ZK014ZO514ZW014Zu514Zy014a4514a8014jy514k0014kC514ki014m0514m8014pi514pq014q0514q40",
    "14sO514sq014t0514tK014xi514y4014yu514yy014z0514z4014z8514zC014.4514.C0153W51540015485154K0",
    "154O5154S0155u5155y015BC515Ba015Be515Bi015By515C4015C8515CG015R8515RO015Rm515Ru015Ry515S40",
    "15Tm515Tu015ZC515Zi015Zq515Zu015Zy515a4015gi515gm015gq515gu015h0515hO015hS515hW015nq515nu0",
    "15ny515o0015o8515oO015oS515om0162y5163W0163a5163i016Ji516Jq016Ju516Jy016KC516KG016TG516TW0",
    "16Te516Tm016U0516U4016W4516Wi016ZC516Za016Zi516Zy016aS516aW016b4516bS016ba516bm016ee516fS0",
    "16fW516fe016s0516s4016s8516sK016sO516sS017305173S0173W5173u0173y5174001798517AW017Ae517B40",
    "17B8517BG017BK517BS017J4517JS017Je517Ji017Jm517Ju017Jy517KO017KS517KW017P0517P8017PK517PO0",
    "17PS517PW017lC517lK017m0517m8017pO517pi017q0517q4017q8517qC017re517ri01D3051D4401D4S51D5O0",
    "1OHu51OIe01OIq51OJ001Ql051QlK01Qp051QpS01Rqy51Rr001Ruy51RvC01R.G51R.K01l9q51l9y01lA051lAG0",
    "1pm051pou01pp051pqS01qMS51qMe01qNC51qOC01qOK51qOm01qQe51qQu01qa851qaK01sW051sZS01sZi51scq0",
    "1sdK51sdO01seG51seK01sfi51sg001sg451sh001u0051u0S01u0W51u1a01u1i51u2801u2C51u2K01u2O51u2i0",
    "1u8y51u9001uJ051uJS01ugu51ugy01ukm51ul001vEm51vF001vUu51vV001vkC51vkG01vkO51vkS01vku51vl00",
    "1vlK51vlO01wD051wDS01wG021wKG51wKm0E0045E0080E0205E0800E0G05E0V00"]

end ResidencePortal.Unicode
