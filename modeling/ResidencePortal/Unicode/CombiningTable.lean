import ResidencePortal.Text.Packed

/-!
# Combining classes of the Unicode standard

Runs of code points with their canonical combining class, zero for characters that combine with nothing.
-/

namespace ResidencePortal.Unicode

open Text

/-- The classes, run by run. -/
def combiningRuns : Array Nat := Packed.unpack 5
  ["00m3c00nNe00nRS00nhe00nlO00npS00o7A00oFS00oVA00odS00pG100pdS00ptc00q0000qBc00qC000qNm00qRc",
    "00qVS00qhc00qtS00qy000r3c00rFS00rVc00rZe00rdS00rlc00rpf00rtg00r_f00s3g00sBf00sFc00t00018Fc",
    "018W001P7S01PBc01PRS01PVc01PhU01PlS01Ppc01QBS01QZc01QhS01Qlc01QtU01Qxa01Q_c01R0A01R4B01R8C",
    "01RCD01RGE01RKF01ROG01RSH01RWI01RaJ01RiK01RmL01RqM01Ru001RyN01S0001S4O01S8P01SC001SJc01SNS",
    "01SO001SSI01SW001X3c01XWU01XaV01XeW01Xi001aiR01amS01aqT01auU01ayV01b0W01b4X01b8Y01bFc01bNS",
    "01bVc01bpS01btc01b_S01c0001d0Z01d4001jRc01jq001j_c01kFS01kJc01kK001kVc01ka001khS01klc01ktS",
    "01ku001n4a01n8001p3c01p7S01pBc01pJS01pNc01pVS01phc01plS01ptc01pxS01p_c01qBS01qFc01qJS01qNc",
    "01qRS01qVc01qZS01qdc01qi001.lc01_BS01_Fc01_G001_tS01_u0021Rc021e0021lc022G0022Nc022W0022dc",
    "022u0025dS025m0029Vc029dS029pc02A0002Chc02C_S02DJc02E8002EFS02EJc02ERS02EVc02EdS02Ehc02EtS",
    "02F0R02F4S02F8T02FFc02FRS02FVc02FdS02Flc02G0002Jm702Jq002Kq902Ku002L7c02LBS02LFc02LK002Rm7",
    "02Rq002Sq902Su002Vxc02Vy002Zm702Zq002aq902au002hm702hq002iq902iu002pm702pq002qq902qu002yq9",
    "02yu0033m7033q0034q9034u0035LK035PR035S003Bm703Bq003Cq903Cu003Ji903Jq003Kq903Ku003Se903Si0",
    "03ZXd03Ze903Zi003aXh03am003hXs03he903hi003iXw03im003nZS03ne003pNS03pO003pVS03pW003pdO03pe0",
    "03t6103tA203tC003tI403tK003tg203tu003u2203u4003uBc03uG903uK003uRc03uW003yRS03yS0043S7043W0",
    "043a9043i0048tS048u004rtc04s0005nG905nO005pG905pK005z8905zC005ztc05zu006Ada06Ae006JdU06Jhc",
    "06JlS06Jm006XVc06XZS06Xa006c0906c4006dNc06dq006d_S06e0006h3c06hNS06hlc06htS06hu006h_S06i7c",
    "06iFS06iNc06ihS06ilc06jtS06ju006k3c06kRS06kVc06klg06km006pG706pK006qG906qK006slc06spS06stc",
    "06tG006we906wm006.O706.S006_8906_G0073S7073W007D3c07DC007DG107DNS07Dhc07DpS07E3c07E4007E81",
    "07Ea007EtS07Eu007FJc07FK007FZc07Fe007S3c07SBS07SFc07ShS07Slc07Stg07SxM07S_S07T3A07T7c07VRe",
    "07VVa07VdS07VhQ07Vlc07Vpf07VtS07Vxc07V_S07W0008D3c08D8108DJc08DW108Dlc08Dq008E7c08E8008EK1",
    "08EVc08EZS08Edc08Ee108EpS08F3c08F400BE_c0BF800BNy90BO000BU3c0BW000C2hQ0C2la0C2pe0C2tU0C2xW",
    "0C3000C9a80C9i00fc_c0fd000fdJc0fdu00ffxc0fg000fl3c0fl800g0O90g0S00g2m90g2q00gCG90gCK00gE3c",
    "0gF800gIlS0gIu00gLC90gLG00gRC70gRG00gS090gS400gh3c0gh400ghBc0ghJS0ghK00ghVc0gha00ghxc0gi00",
    "0gi7c0gi800glO90glS00g.q90g.u00.nuQ0.ny00_Y3c0_YVS0_Yxc0_Z0010VtS10Vu010k3S10k4010tRc10ti0",
    "12WtS12Wu012W_c12X0012ZZc12Za112ZhS12Zi012Zy912a0012kNc12kRS12kS013IJc13IW013Mdc13Mu013glc",
    "13gq013lhS13lm013ltS13m0013qRS13qZc13qlS13qpc13qtS13r4013uBc13uFS13uJc13uNS13uO0144O9144S0",
    "1470914740147y91480014Ba914Be714Bi014G3c14GC014JC914JK014NC714NG014S0914S4014Se714Si014ZK9",
    "14ZO714ZS014ka714ke914ki014pi714pq014qq914qu014sRc14sq014t3c14tK014yu914z4015489154C0154O7",
    "154S0155xc155y015C8915CC715CG015Ry915S0715S4015Zy915a0015hO915hS715hW015oi915om0163a9163e7",
    "163i016Jq916Jy016KC716KG016U0916U4016ZG916ZK016aS916aW016fa916fe0173y91740017K8717KC017KG9",
    "17KO017PS917PW017q4917qC01OIy91OJ001Ql011QlK01Qp3c1QpS01R_061R_801l9u11l9y01qMNO1qMS11qMe0",
    "1qMtY1qMxO1qNC01qNlS1qOC01qONc1qOhS1qOm01qQhc1qQu01qaBc1qaK01u03c1u0S01u0Zc1u1a01u1lc1u280",
    "1u2Fc1u2K01u2Rc1u2i01u8_c1u9001uJ3c1uJS01ugxc1ugy01ukpc1ul001vEpe1vExS1vE_c1vF001vUxc1vU_S",
    "1vV001vkFc1vkG01vkRc1vkS01vkxc1vl001vlNc1vlO01wD3S1wDS01wKJc1wKe71wKi0"]

end ResidencePortal.Unicode
