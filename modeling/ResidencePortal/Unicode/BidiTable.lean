import ResidencePortal.Text.Packed

/-!
# Directions of the Unicode standard

Runs of code points with the number of their class of direction, in the order of `Direction.all`. Only the
characters that domain names may hold are told apart.
-/

namespace ResidencePortal.Unicode

open Text

/-- The classes, run by run. -/
def directionRuns : Array Nat := Packed.unpack 5
  ["00009000aB000u9001mB00248002C7002O8002i5002m6002q5002u600304003e6003i800440005i800640007i8",
    "007y900A4800A8700AO800B0700BO800Dy000FS800FW000ha800hi000i8800j0000j8800ku000ky800m0A00t40",
    "00tK800tS000_O800_W0018CA018i001Oe801Oy701P4A01Ru101RyA01S0101S4A01SC101SGA01SO101SSA01T01",
    "01WO801WW201Wa701Wi201Wm601Wq201Wu801X0A01Xi201aiA01c0301ce701ci301cq201d0A01d4201jOA01ju8",
    "01jyA01kK201kSA01ka801keA01ku201l0401le201n4A01n8201p0A01qq201wOA01x4201y0101.iA01_G101_O8",
    "01_e101_qA01_u1021OA021e1021iA022G1022KA022W1022aA02301025aA025u102602029SA02A0202CeA02GC0",
    "02JeA02Ji002JmA02Jq002K4A02Ka002KqA02Ku002L4A02M0002M8A02MG002O4A02O8002RmA02Rq002S4A02SS0",
    "02SqA02Su002U8A02UO002V8702VG002Vi702Vm002VuA02WC002ZmA02Zu002a4A02bm002d0A02d8002dKA02dO0",
    "02e4A02eC002hmA02hq002i4A02ia002iqA02j0002k8A02kO002l4702la002leA02m8002pmA02pq002pyA02q00",
    "02q4A02qS002qqA02rS002s8A02sO002u8A02uC002y0A02y4002yqA02z0002_C802_a702_e80300A03040030GA",
    "030K0033mA033q0033uA03440034OA035W00368A036O0037W8037y00384A0388003BmA03Bq003CmA03DK003E8A",
    "03EO003G0A03G8003JiA03Jq003K4A03KO003KqA03Ku003M8A03MO003O4A03O8003SeA03Sy003T8A03TW003Z4A",
    "03Z8003ZGA03Zy703a0003aSA03ay003h4A03h8003hGA03hq003iWA03j0003nWA03ne003pKA03pO003pSA03pW0",
    "03paA03pe803pu003t4A03ty003u0A03uK003uOA03uW003uqA03xu003yOA03yS0042qA043400438A043W0043aA",
    "043i0043qA043y0045WA045e0045uA046400474A047K00488A048C0048KA048S0048qA048u0049qA049u004rqA",
    "04s0004v0804w00050080504005fi805g0005n8A05nK005p8A05pG005r8A05s0005t8A05u0005xSA05xu005yOA",
    "05yS005yaA05zG005zi705zm005zqA05.0005_0806100068KA068S006AaA06Ae006I0A06IC006ISA06Ia006J8A",
    "06JC006JaA06K0806KO006Tu806W0006XSA06Xa006XiA06Xu006bOA06bS006bWA06c4006c8A06cC006cKA06cq0",
    "06dCA06e0006h0A06mG006pGA06pK006pOA06pi006pmA06pq006q8A06qC006qu806r0006siA06tG006ty806u0A",
    "06u8006w8A06wO006wWA06we006wiA06wu006.OA06.S006.WA06.e006.qA06.u006.yA06_80072mA073G0073OA",
    "073i007D0A07DC007DGA07E4007E8A07Ea007EqA07Eu007FGA07FK007FWA07Fe007S0A07W40080m90810808307",
    "083K8084G6084K808A0708D0A08GG808Iu708Je808Ku008Oe808X8508XC708XG808pO008ti808vK008vO809gm0",
    "09gq80A0000AG080B3000BEK80BEm00BEyA0BFC00BFa80BG000BNyA0BO000BU0A0BW080C0K00C0W80C2400C2eA",
    "0C2u00C3080C3400C3S80C3i00C3q80C4400C9aA0C9q00CA080CA400CFi80CFm00CS080CV000JS080JW000f908",
    "0fD000fWq80fX000fcyA0fdC80fdGA0fdu80fe400ffuA0fg000fl0A0fl800fm080foC00fuW80fua00g08A0g0C0",
    "0g0OA0g0S00g0iA0g0m00g2KA0g2S00g2W80g2mA0g3000g3W70g4000g7G80g8000gCGA0gCu00gE0A0gF800gFyA",
    "0gG000gIOA0gIu00gKSA0gL800gO0A0gOC00gRCA0gRG00gROA0gRe00gRmA0gRu00gUKA0gUO00gYaA0gYy00gZ4A",
    "0gZC00gZKA0ga000gaCA0gaG00gamA0gaq00gdmA0gdq00gh0A0gh400gh8A0ghK00ghSA0gha00ghuA0gi000gi4A",
    "0gi800gkmA0gku00glOA0gm400gse80gy000g.KA0g.O00g.WA0g.a00g.qA0g_000.nuA0.x820.yC80_Y0A0_aK8",
    "0_dC21000010G4810G8010K0810Oq010P0810T0010VqA10e0010k0A10k4410m0010tOA10u001200112Hy812I01",
    "12W4A12X0112ZWA12a0112kKA12ki112pa812q0113G0213IGA13J0313K0113MaA13Mu813My113c0313e0113giA",
    "13gq113i8213j0813leA13m0113p0213qOA13r4213t0113u8A13uO1140001404A14080143WA144S014588146O0",
    "1470A14740147CA147K0147yA1488014BCA14BS014BaA14Bi014C8A14D0014G0A14GC014ISA14Im014IqA14JO0",
    "14NCA14NG014O0A14O8014ROA14Ry014SaA14Sq014SyA14T0014YyA14Z8014ZGA14ZK014ZOA14ZW014ZuA14Zy0",
    "14a4A14e0014jyA14k0014kCA14l0014m0A14m8014piA14pq014q0A14q4014sOA14u0014xiA14y8014yuA14yy0",
    "14z0A14z4014z8A14zC014zG814.4A15000153WA154001548A154K0154OA154S0155uA155y015BCA15Ba015BeA",
    "15Bi015ByA15C4015C8A15CG015R8A15RW015RmA15Ru015RyA15S4015TmA15W0015ZCA15Zi015ZqA15Zu015ZyA",
    "15a4015c0815e0015giA15gm015gqA15gu015h0A15hO015hSA15hW015nqA15o0015o8A15oO015oSA15p00162yA",
    "163W0163aA163i016JiA16Jq016JuA16Jy016KCA16KG016TGA16Tm016U0A16U4016W4A16WS016WaA16Wi016ZCA",
    "16Za016ZiA16Zy016aSA16b0016b4A16bS016baA16bm016eeA16fS016fWA16fe016s0A16s4016s8A16sK016sOA",
    "16sS016.4816_001730A173u01798A17Aa017AeA17B4017B8A17BG017BKA17G0017J4A17KO017KSA17L0017P0A",
    "17PC017PKA17PO017PSA17PW017lCA17lK017m0A17m8017pOA17pu017q0A17q4017q8A17qC017reA17x0017zK8",
    "17zq717.4817_y01D40A1D4401D4SA1D6001OHuA1OIe01OIqA1OJ001Ql0A1QlK01Qp0A1QpS01RMq81RN001RqyA",
    "1Rr001RuyA1RvC01R.881R.C01R.GA1R_001l9qA1l9y01p0081pm0A1pr001qMSA1qMe01qNiA1qOC01qOKA1qOm0",
    "1qQeA1qQu01qUa81qa8A1qaK81qi001qm081qs001sW0A1sZS01sZiA1scq01sdKA1sdO01seGA1seK01sfiA1tm00",
    "1u00A1uG001uJ0A1uJS01uguA1ui001ukmA1ul001uly71vD001vEmA1vF001vUuA1vV001vVy81vi001vkCA1vkG0",
    "1vkOA1vkS01vkuA1vl001vlKA1vlu01w0011wD0A1wI811wKGA1wKi11x7421xl081yL001yMq81yN001yQq81yUO0",
    "1yc0820000"]

end ResidencePortal.Unicode
