import ResidencePortal.Text.Packed

/-!
# General categories of the Unicode standard

Runs of code points with the number of their general category, in the order of `Category.all`.
-/

namespace ResidencePortal.Unicode

open Text

/-- The categories, run by run. -/
def categoryRuns : Array Nat := Packed.unpack 5
  ["0000Q0020N0024I002GK002KI002WE002aF002eI002iJ002mI002qD002uI00309003eI003mJ003yI00441005iE",
    "005mI005qF005uL005yC0060L00642007iE007mJ007qF007uJ007yQ00A0N00A4I00A8K00AOM00ASI00AWL00AaM",
    "00Ae500AiG00AmJ00AqR00AuM00AyL00B0M00B4J00B8B00BGL00BK200BOI00BWL00BaB00Be500BiH00BmB00ByI",
    "00C0100DSJ00DW100Dy200FSJ00FW200G0100G4200G8100GC200GG100GK200GO100GS200GW100Ga200Ge100Gi2",
    "00Gm100Gq200Gu100Gy200H0100H4200H8100HC200HG100HK200HO100HS200HW100Ha200He100Hi200Hm100Hq2",
    "00Hu100Hy200I0100I4200I8100IC200IG100IK200IO100IS200IW100Ia200Ie100Ii200Im100Iq200Iu100Iy2",
    "00J0100J4200J8100JC200JG100JK200JO100JS200Ja100Je200Ji100Jm200Jq100Ju200Jy100K0200K4100K82",
    "00KC100KG200KK100KO200KS100KW200Ke100Ki200Km100Kq200Ku100Ky200L0100L4200L8100LC200LG100LK2",
    "00LO100LS200LW100La200Le100Li200Lm100Lq200Lu100Ly200M0100M4200M8100MC200MG100MK200MO100MS2",
    "00MW100Ma200Me100Mi200Mm100Mq200Mu100My200N0100N4200N8100NC200NG100NK200NO100NS200NW100Ne2",
    "00Ni100Nm200Nq100Nu200O4100OC200OG100OK200OO100OW200Oa100Om200Ou100P8200PC100PK200PO100Pa2",
    "00Pm100Pu200Py100Q4200Q8100QC200QG100QK200QO100QW200Qa100Qe200Qm100Qq200Qu100R0200R4100RG2",
    "00RK100RO200RS100Ra200Ri500Rm100Rq200S0500SG100SK300SO200SS100SW300Sa200Se100Si300Sm200Sq1",
    "00Su200Sy100T0200T4100T8200TC100TG200TK100TO200TS100TW200Ta100Te200Ti100Tm200Tu100Ty200U01",
    "00U4200U8100UC200UG100UK200UO100US200UW100Ua200Ue100Ui200Um100Uq200Uu100Uy200V4100V8300VC2",
    "00VG100VK200VO100Va200Ve100Vi200Vm100Vq200Vu100Vy200W0100W4200W8100WC200WG100WK200WO100WS2",
    "00WW100Wa200We100Wi200Wm100Wq200Wu100Wy200X0100X4200X8100XC200XG100XK200XO100XS200XW100Xa2",
    "00Xe100Xi200Xm100Xq200Xu100Xy200Y0100Y4200Y8100YC200YG100YK200YO100YS200YW100Ya200Ye100Yi2",
    "00Ym100Yq200Yu100Yy200Z0100Z4200Z8100ZC200Ze100Zm200Zq100Zy200a4100a8200aC100aS200aW100aa2",
    "00ae100ai200am100aq200au100ay200fG500fO200h0400i8L00iO400j8L00k0400kKL00km400kqL00ku400kyL",
    "00m0600t0100t4200t8100tC200tG400tKL00tO100tS200tW000te400ti200tuI00ty100u0000uGL00uO100uSI",
    "00uW100ui000um100uq000uu100v0200v4100w8000wC100wm200yy100z0200z8100zK200zW100za200ze100zi2",
    "00zm100zq200zu100zy200.0100.4200.8100.C200.G100.K200.O100.S200.W100.a200.e100.i200.m100.q2",
    "00.u100.y200_G100_K200_OJ00_S100_W200_a100_i200_q101302016010164201681016C2016G1016K2016O1",
    "016S2016W1016a2016e1016i2016m1016q2016u1016y2017010174201781017C2017G1017K2017O1017S2017W1",
    "017a2017e1017i2017m1017q2017u1017y201801018420188M018C6018W8018e1018i2018m1018q2018u1018y2",
    "019010194201981019C2019G1019K2019O1019S2019W1019a2019e1019i2019m1019q2019u1019y201A0101A42",
    "01A8101AC201AG101AK201AO101AS201AW101Aa201Ae101Ai201Am101Aq201Au101Ay201B0101B4201B8101BC2",
    "01BG101BK201BO101BS201BW101Ba201Be101Bi201Bm101Bq201Bu101By201C0101C8201CC101CG201CK101CO2",
    "01CS101CW201Ca101Ce201Ci101Cm201Cq101Cu201D0101D4201D8101DC201DG101DK201DO101DS201DW101Da2",
    "01De101Di201Dm101Dq201Du101Dy201E0101E4201E8101EC201EG101EK201EO101ES201EW101Ea201Ee101Ei2",
    "01Em101Eq201Eu101Ey201F0101F4201F8101FC201FG101FK201FO101FS201FW101Fa201Fe101Fi201Fm101Fq2",
    "01Fu101Fy201G0101G4201G8101GC201GG101GK201GO101GS201GW101Ga201Ge101Gi201Gm101Gq201Gu101Gy2",
    "01H0101H4201H8101HC201HG101HK201HO101HS201HW101Ha201He101Hi201Hm101Hq201Hu101Hy201I0101I42",
    "01I8101IC201IG101IK201IO101IS201IW101Ia201Ie101Ii201Im101Iq201Iu101Iy201J0001J4101LS001La4",
    "01LeI01M0201OaI01OeD01Oi001OqM01OyK01P0001P4601RuD01Ry601S0I01S4601SCI01SG601SOI01SS601SW0",
    "01T0501Ui001Uy501VCI01VK001W0R01WOJ01WaI01WiK01WmI01WuM01X0601XiI01XmR01XqI01Y0501a0401a45",
    "01ai601c0901ceI01cu501d0601d4501jGI01jK501jO601jqR01juM01jy601kK401kS601kaM01ke601ku501l09",
    "01le501lqM01ly501m0I01mu001myR01n0501n4601n8501p0601qi001qq501wO601x4501x8001y0901ye501.i6",
    "01_G401_OM01_SI01_e401_i001_q601_uK02005021O6021e4021i6022G4022K6022W4022a6022u00230I023y0",
    "02405025a6025m0025uI025y002605026i002705028WL028a50290R02980029S602A0502Ca402Ce602E8R02EC6",
    "02GC702GG502Je602Ji702Jm602Jq502Ju702K4602Ka702Kq602Ku702L0502L4602LW502M8602MGI02MO902N0I",
    "02N4402N8502O4602O8702OG002OK502Oq002Oy502P4002PC502Qa002Qe502R4002R8502RC002RO502Re002Rm6",
    "02Rq502Ru702S4602SK002SS702Sa002Si702Sq602Su502Sy002TS702TW002Tm502Tu002Ty502U8602UG002UO9",
    "02V0502V8K02VGB02VeM02ViK02Vm502VqI02Vu602Vy002W4602WC702WG002WK502Wi002Wy502X4002XC502Ya0",
    "02Ye502Z4002Z8502ZG002ZK502ZS002ZW502Ze002Zm602Zq002Zu702a4602aC002aS602aa002ai602au002b46",
    "02b8002ba502bq002bu502by002cO902d0602d8502dK602dOI02dS002e4602eC702eG002eK502eu002ey502f80",
    "02fC502ga002ge502h4002h8502hG002hK502he002hm602hq502hu702i4602iO002iS602ia702ie002ii702iq6",
    "02iu002j0502j4002k0502k8602kG002kO902l0I02l4K02l8002la502le602m0002m4602m8702mG002mK502mq0",
    "02my502n4002nC502oa002oe502p4002p8502pG002pK502pe002pm602pq502pu702py602q0702q4602qK002qS7",
    "02qa002qi702qq602qu002rK602rS702rW002rm502ru002ry502s8602sG002sO902t0M02t4502t8B02tW002u86",
    "02uC502uG002uK502ui002uu502v4002v8502vO002va502vi002vm502vq002vu502w0002wC502wK002wW502wi0",
    "02wu502xe002xu702y0602y4702yC002yO702ya002ye702yq602yu002z0502z4002zS702zW002.O902_0B02_CM",
    "02_aK02_eM02_i00300603047030G6030K5030q0030u50314003185032a0032e5033e0033m6033q5033u603447",
    "034K0034O6034a0034e6034u0035K6035S0035W5035i0035m5035u00360503686036G0036O903700037SI037WB",
    "037yM038050384603887038GI038K5038q0038u5039400398503Aa003Ae503BG003BK503Be003Bm603Bq503Bu7",
    "03By603C0703CK003CO603CS703Ca003Ce703Cm603Cu003DK703DS003Dm503Dy003E0503E8603EG003EO903F00",
    "03F4503FC703FG003G0603G8703GG503Gq003Gu503H4003H8503Ji603Jq503Ju703K4603KK003KO703Ka003Ke7",
    "03Kq603Ku503KyM03L0003LG503LS703LWB03Ly503M8603MG003MO903N0B03NaM03Ne503O0003O4603O8703OG0",
    "03OK503PS003Pe503R8003RC503Rm003Rq503Ru003S0503SS003Se603Si003Sy703T8603TK003TO603TS003TW7",
    "03U0003UO903V0003V8703VGI03VK003W4503Z4603Z8503ZG603Zi003ZyK03a0503aO403aS603ayI03b0903beI",
    "03bm003e4503eC003eG503eK003eO503ei003em503gG003gK503gO003gS503h4603h8503hG603hq503hu003i05",
    "03iK003iO403iS003iW603iy003j0903je003jm503k0003m0503m4M03mGI03nCM03nGI03nKM03nW603neM03o09",
    "03oeB03pGM03pK603pOM03pS603pWM03pa603peE03piF03pmE03pqF03pu703q0503qW003qa503sq003t4603ty7",
    "03u0603uKI03uO603uW503uq603vW003va603xq003xuM03yO603ySM03yq003yuM03z0I03zKM03zaI03zi004005",
    "042i7042q60434704386043W7043a6043i7043q6043y504409044eI04505045O7045W6045e5045u60464504687",
    "046K5046S7046u504746047K504886048C7048K6048S7048q6048u5048y704909049e7049q6049uM04A0104CO0",
    "04CS104CW004Cq104Cu004D0204FiI04Fm404Fq204G0504aa004ae504au004b0504bS004bW504ba004be504bu0",
    "04c0504ea004ee504eu004f0504h4004h8504hO004hW504hy004i0504i4004i8504iO004iW504jS004jW504n40",
    "04n8504nO004nW504ri004rq604s0I04saB04tq004u0504v0M04ve004w0104_O004_W204_u00500D0504505cqM",
    "05cuI05cy505e0N05e4505fiE05fmF05fq005g0505kiI05kuA05l4505la005m0505n8605nK705nO005ny505p86",
    "05pG705pKI05pS005q0505r8605rG005s0505sq005su505t4005t8605tG005u0505xG605xO705xS605xu705yO6",
    "05yS705ya605zGI05zS405zWI05ziK05zm505zq605zu005.0905.e005_0B05_e00600I060OD060SI060i6060uR",
    "060y606109061e006205064C4064G5067a006805068K6068S506Aa606Ae506Ai006B0506FO006G0506Hy006I06",
    "06IC706IS606Ia706Im006J0706J8606JC706Ja606Jm006K0M06K4006KGI06KO906L0506Mu006N0506NK006O05",
    "06Qm006R0506Se006T0906TeB06Ti006TuM06W0506XS606Xa706Xi606Xm006XuI06Y0506bK706bO606bS706bW6",
    "06by006c0606c4706c8606cC706cK606cq706dC606dq006dy606e0906ee006f0906fe006g0I06gS406gWI06gu0",
    "06h0606hu806hy606ju006k0606km006m0606mG706mK506pG606pK706pO606pi706pm606pq706q8606qC706qK5",
    "06qq006quI06r0906reI06s4M06si606tGM06tqI06u0606u8706uC506w4706w8606wO706wW606we706wi606wu5",
    "06x0906xe506.O606.S706.W606.e706.q606.u706.y606_8706_G006_mI07005072G7072m6073G7073O6073W0",
    "073iI07409074e0074q507509075e5077W4077uI07802078a1078e2078i00790107Bi007Bq107C0I07CW007D06",
    "07DCI07DG607E4707E8607Ea507Eq607Eu507FG607FK507FS707FW607Fe507Fi007G0207Im407Mi207NW407Na2",
    "07Pi407S0607W0107W4207W8107WC207WG107WK207WO107WS207WW107Wa207We107Wi207Wm107Wq207Wu107Wy2",
    "07X0107X4207X8107XC207XG107XK207XO107XS207XW107Xa207Xe107Xi207Xm107Xq207Xu107Xy207Y0107Y42",
    "07Y8107YC207YG107YK207YO107YS207YW107Ya207Ye107Yi207Ym107Yq207Yu107Yy207Z0107Z4207Z8107ZC2",
    "07ZG107ZK207ZO107ZS207ZW107Za207Ze107Zi207Zm107Zq207Zu107Zy207a0107a4207a8107aC207aG107aK2",
    "07aO107aS207aW107aa207ae107ai207am107aq207au107ay207b0107b4207b8107bC207bG107bK207bO107bS2",
    "07bW107ba207be107bi207bm107bq207bu107by207c0107c4207c8107cC207cG107cK207cO107cS207cW107ca2",
    "07ce107ci207cm107cq207cu107cy207d0107d4207d8107dC207dG107dK207dO107dS207dW107da207de107di2",
    "07dm107dq207du107dy207e0107e4207e8107eC207eG107eK207eO107eS207eW107ea207ee107ei207em107eq2",
    "07eu107ey207f0107f4207f8107fC207fG107fK207fu107fy207g0107g4207g8107gC207gG107gK207gO107gS2",
    "07gW107ga207ge107gi207gm107gq207gu107gy207h0107h4207h8107hC207hG107hK207hO107hS207hW107ha2",
    "07he107hi207hm107hq207hu107hy207i0107i4207i8107iC207iG107iK207iO107iS207iW107ia207ie107ii2",
    "07im107iq207iu107iy207j0107j4207j8107jC207jG107jK207jO107jS207jW107ja207je107ji207jm107jq2",
    "07ju107jy207k0107k4207k8107kC207kG107kK207kO107kS207kW107ka207ke107ki207km107kq207ku107ky2",
    "07l0107l4207l8107lC207lG107lK207lO107lS207lW107la207le107li207lm107lq207lu107ly207mW107n02",
    "07nO007nW107nu007o0207oW107p0207pW107q0207qO007qW107qu007r0207rW007ra107re007ri107rm007rq1",
    "07ru007ry107s0207sW107t0207tu007u0207uW307v0207vW307w0207wW307x0207xK007xO207xW107xm307xqL",
    "07xu207xyL07y8207yK007yO207yW107ym307yqL07z0207zG007zO207zW107zm007zqL07.0207.W107.qL07_00",
    "07_8207_K007_O207_W107_m307_qL07_y00800N080iR0810D081OI081WG081aH081eE081iG081qH081uE081yG",
    "0820I082WO082aP082eR082yN0830I083aG083eH083iI083yC0844I084GJ084KE084OF084SI0858J085CI085GC",
    "085KI085yN0860R086K0086OR0870B0874408780087GB087eJ087qE087uF087y40880B088eJ088qE088uF088y0",
    "08904089q008A0K08C8008D0608Dq808E4608E8808EK608F4008G0M08G8108GCM08GS108GWM08Ge208Gi108Gu2",
    "08H0108HC208HGM08HK108HOM08HWJ08Ha108HuM08IG108IKM08IO108ISM08IW108IaM08Ie108IuM08Iy208J01",
    "08JG208JK508Ja208JeM08Jm208Ju108K0J08KK108KO208KeM08KiJ08KmM08Ku208KyM08L0B08M0A08OC108OG2",
    "08OKA08OaB08OeM08Om008P0J08PKM08PeJ08PmM08Q0J08Q4M08QCJ08QGM08QOJ08QSM08QuJ08QyM08SuJ08T0M",
    "08T8J08TCM08TGJ08TKM08VGJ08m0M08mWE08maF08meE08miF08mmM08o0J08o8M08oaE08oeF08oiM08tmJ08tqM",
    "08viJ08xGM08zmJ08.8M092e00940M094i00960B099mM09EeB09G0M09RSJ09RWM09S4J09S8M09VWJ09W0M09cyJ",
    "09d0M09sWE09saF09seE09siF09smE09sqF09suE09syF09t0E09t4F09t8E09tCF09tGE09tKF09tOB09vGM09y0J",
    "09yKE09yOF09ySJ09.OE09.SF09.WE09.aF09.eE09.iF09.mE09.qF09.uE09.yF09_0J0A00M0AG0J0AOCE0AOGF",
    "0AOKE0AOOF0AOSE0AOWF0AOaE0AOeF0AOiE0AOmF0AOqE0AOuF0AOyE0AP0F0AP4E0AP8F0APCE0APGF0APKE0APOF",
    "0APSE0APWF0APaJ0ATWE0ATaF0ATeE0ATiF0ATmJ0AVmE0AVqF0AVuJ0Am0M0Ap0J0AqKM0AqSJ0AqqM0AtG00AtOM",
    "0B0010B3020B6010B6420B6810B6K20B6S10B6W20B6a10B6e20B6i10B6m20B6q10B7420B7810B7C20B7K10B7O2",
    "0B7m40B7u10B8420B8810B8C20B8G10B8K20B8O10B8S20B8W10B8a20B8e10B8i20B8m10B8q20B8u10B8y20B901",
    "0B9420B9810B9C20B9G10B9K20B9O10B9S20B9W10B9a20B9e10B9i20B9m10B9q20B9u10B9y20BA010BA420BA81",
    "0BAC20BAG10BAK20BAO10BAS20BAW10BAa20BAe10BAi20BAm10BAq20BAu10BAy20BB010BB420BB810BBC20BBG1",
    "0BBK20BBO10BBS20BBW10BBa20BBe10BBi20BBm10BBq20BBu10BBy20BC010BC420BC810BCC20BCG10BCK20BCO1",
    "0BCS20BCW10BCa20BCe10BCi20BCm10BCq20BCu10BCy20BD010BD420BD810BDC20BDG10BDK20BDO10BDS20BDW1",
    "0BDa20BDe10BDi20BDm10BDq20BDu10BDy20BE010BE420BE810BEC20BEKM0BEi10BEm20BEq10BEu20BEy60BF81",
    "0BFC20BFG00BFaI0BFqB0BFuI0BG020BIO00BIS20BIW00BIq20BIu00BJ050BMW00BMy40BN0I0BN400BNy60BO05",
    "0BPS00BQ050BQS00BQW50BQy00BR050BRS00BRW50BRy00BS050BSS00BSW50BSy00BT050BTS00BTW50BTy00BU06",
    "0BW0I0BW8G0BWCH0BWGG0BWKH0BWOI0BWaG0BWeH0BWiI0BWmG0BWqH0BWuI0BXSD0BXWI0BXeD0BXiI0BXmG0BXqH",
    "0BXuI0BY0G0BY4H0BY8E0BYCF0BYGE0BYKF0BYOE0BYSF0BYWE0BYaF0BYeI0BYy40BZ0I0BZeD0BZmI0Ba0D0Ba4I",
    "0Ba8E0BaCI0Bb0M0Bb8I0BbKE0BbOF0BbSE0BbWF0BbaE0BbeF0BbiE0BbmF0BbqD0Bbu00Be0M0Bfe00BfiM0BlG0",
    "0Bm0M0BzO00B_0M0C00N0C04I0C0GM0C0K40C0O50C0SA0C0WE0C0aF0C0eE0C0iF0C0mE0C0qF0C0uE0C0yF0C10E",
    "0C14F0C18M0C1GE0C1KF0C1OE0C1SF0C1WE0C1aF0C1eE0C1iF0C1mD0C1qE0C1uF0C20M0C24A0C2e60C2u70C30D",
    "0C3440C3OM0C3WA0C3i40C3m50C3qI0C3uM0C4000C4450C9S00C9a60C9iL0C9q40C9y50CA0D0CA450CFiI0CFm4",
    "0CFy50CG000CGK50CJ000CJ450COy00CP0M0CP8B0CPOM0CQ050CS0M0CUO00CUyM0CV050CW0M0CXy00CY0B0CYeM",
    "0CaWB0Cb0M0Cb4B0Cc0M0Ce0B0CeeM0Ch4B0Ci0M0D0050JS0M0JW050e1K40e1O50f8q00f90M0fCS00fD050fFW4",
    "0fFuI0fG050fWm40fWqI0fX050fY090fYe50fYm00fa010fa420fa810faC20faG10faK20faO10faS20faW10faa2",
    "0fae10fai20fam10faq20fau10fay20fb010fb420fb810fbC20fbG10fbK20fbO10fbS20fbW10fba20fbe10fbi2",
    "0fbm10fbq20fbu10fby20fc010fc420fc810fcC20fcG10fcK20fcO10fcS20fcW10fca20fce10fci20fcm10fcq2",
    "0fcu50fcy60fd080fdCI0fdG60fduI0fdy40fe010fe420fe810feC20feG10feK20feO10feS20feW10fea20fee1",
    "0fei20fem10feq20feu10fey20ff010ff420ff810ffC20ffG10ffK20ffO10ffS20ffW10ffa20ffe10ffi20ffm4",
    "0ffu60fg050fkOA0fl060fl8I0flW00fm0L0fnS40fo0L0fo810foC20foG10foK20foO10foS20foW10foa20foe1",
    "0foi20fom10foq20fou10foy20fp810fpC20fpG10fpK20fpO10fpS20fpW10fpa20fpe10fpi20fpm10fpq20fpu1",
    "0fpy20fq010fq420fq810fqC20fqG10fqK20fqO10fqS20fqW10fqa20fqe10fqi20fqm10fqq20fqu10fqy20fr01",
    "0fr420fr810frC20frG10frK20frO10frS20frW10fra20fre10fri20frm10frq20fru10fry20fs010fs420fs81",
    "0fsC20fsG10fsK20fsO10fsS20fsW10fsa20fse10fsi20fsm10fsq20fsu10fsy20ft040ft420fta10fte20fti1",
    "0ftm20ftq10fty20fu010fu420fu810fuC20fuG10fuK20fuO10fuS20fuW40fuaL0fui10fum20fuq10fuu20fuy5",
    "0fv010fv420fv810fvC20fvO10fvS20fvW10fva20fve10fvi20fvm10fvq20fvu10fvy20fw010fw420fw810fwC2",
    "0fwG10fwK20fwO10fwS20fwW10fwa20fwe10fwy20fx010fxK20fxO10fxS20fxW10fxa20fxe10fxi20fxm10fxq2",
    "0fxu10fxy20fy010fy420fy810fyC20fyG10fyW20fya10fye20fyi10fyq20fyu10fyy20fz010fz420fz810fzC2",
    "0fzG10fzK20fzO10fzS20fzW10fza20fze10fzi20fzm10fzq00f_440f_K10f_O20f_S50f_W40f_e20f_i50g086",
    "0g0C50g0O60g0S50g0i60g0m50g2C70g2K60g2S70g2WM0g2m60g2q00g30B0g3OM0g3WK0g3aM0g3e00g4050g7GI",
    "0g7W00g8070g8850gBG70gCG60gCO00gCuI0gD090gDe00gE060gF850gFWI0gFi50gFmI0gFq50gFy60gG090gGe5",
    "0gIO60gIuI0gJ050gKS60gL870gLG00gLyI0gM050gNq00gO060gOC70gOG50gRC60gRG70gRO60gRe70gRm60gRu7",
    "0gS4I0gSu00gSy40gT090gTe00gTuI0gU050gUK60gUO40gUS50gV090gVe50gVy00gW050gYa60gYy70gZ460gZC7",
    "0gZK60gZS00ga050gaC60gaG50gam60gaq70gau00gb090gbe00gbmI0gc050gd040gd450gdSM0gde50gdi70gdm6",
    "0gdq70gdu50gh060gh450gh860ghK50ghS60gha50ghu60gi050gi460gi850giC00gji50gjq40gjuI0gk050gki7",
    "0gkm60gku70gl0I0gl850glC40glK70glO60glS00gm450gmS00gma50gmy00gn450gnS00go050goS00goW50goy0",
    "0gp020griL0grm40gs020gsa40gseL0gsm00gt020gy050g.C70g.K60g.O70g.W60g.a70g.iI0g.m70g.q60g.u0",
    "0g_090g_e00h0050rwG00rx050ryS00ryi50r_m00s00S0u00T0.G050.cu00.d050.je00.m020.mS00.nC20.nW0",
    "0.nq50.nu60.ny50.oaJ0.oe50.pS00.pW50.pq00.pu50.py00.q050.q800.qC50.qK00.qO50.x8L0.yCM0.zC5",
    "0_JuF0_JyE0_K0M0_L050_P0M0_P850_SWM0_T000_V050_VmK0_VqM0_W060_X0I0_XSE0_XWF0_XaI0_Xe00_Y06",
    "0_Z0I0_Z4D0_ZCC0_ZKE0_ZOF0_ZSE0_ZWF0_ZaE0_ZeF0_ZiE0_ZmF0_ZqE0_ZuF0_ZyE0_a0F0_a4E0_a8F0_aCE",
    "0_aGF0_aKI0_aSE0_aWF0_aaI0_aqC0_b0I0_bC00_bGI0_bWD0_baE0_beF0_biE0_bmF0_bqE0_buF0_byI0_c8J",
    "0_cCD0_cGJ0_cS00_cWI0_caK0_ceI0_cm00_d050_dK00_dO50_lq00_lyR0_m000_m4I0_mGK0_mKI0_mWE0_maF",
    "0_meI0_miJ0_mmI0_mqD0_muI0_n090_neI0_nmJ0_nyI0_o410_piE0_pmI0_pqF0_puL0_pyC0_q0L0_q420_riE",
    "0_rmJ0_rqF0_ruJ0_ryE0_s0F0_s4I0_s8E0_sCF0_sGI0_sO50_t040_t450_vu40_w050_xy00_y850_yW00_ye5",
    "0_z000_z850_zW00_ze50_zq00_.0K0_.8J0_.CL0_.GM0_.KK0_.S00_.WM0_.aJ0_.qM0_.y00__aR0__mM0__u0",
    "10005100m0100q5102S0102W5103i0103m5103u0103y5104u010505105u01080510Fi010G0I10GC010GSB10JG0",
    "10JSM10K0A10NKB10NaM10OeB10OmM10Oy010P0M10Pq010Q0M10Q4010T0M10Vq610Vu010e0510fq010g0510j40",
    "10k0610k4B10lm010m0510o0B10oG010oq510q4A10q8510qeA10qi010r0510tO610ti010u0510vu010vyI10w05",
    "10yG010yW510z0I10z4A10zO011001112W211505119u011A0911Ae011B0111DG011DW211Fm011G0511IW011J05",
    "11MG011MyI11N0111Ni011Nm111Oi011Om111PC011PG111PO011PS211Q8011QC211R8011RC211Re011Ri211Rq0",
    "11S0511VG011W0511pS011q0511rO011s0511sW011u0411uO011uS411x4011x8411xi012005120O0120W5120a0",
    "120e5123O0123S5123a0123m5123q0123y5125O0125SI125WB12605127SM127aB12805129y012ASB12B0012E05",
    "12FC012FG512FO012FiB12G0512HOB12Hm012HyI12I0512Je012JyI12K0512Le012O0512RW012RmB12Ru512S0B",
    "12T0012T8B12W0512W4612WG012WK612WS012Wm612X0512XG012XK512XW012Xa512ZO012ZW612Zi012Zy612a0B",
    "12aa012b0I12ba012c0512dqB12dyI12e0512fqB12g0012i0512iWM12ia512kK612kS012kiB12l0I12lS012m05",
    "12pO012paI12q0512rO012rWB12s0512tC012tWB12u0512v8012vaI12vq012waB12x0013005134a01380113BC0",
    "13C0213FC013FeB13G0513IG613IW013J0913Je013K0913Ke513Ku413Ky513L0113MO013Ma613MuD13My413N02",
    "13OO013OuJ13P0013c0B13dy013e0513ge013gi613gqD13gu013h0513h8013i8513iK413iO513iW013j0I13j4M",
    "13ja013le613m0513nqB13oS513oW013p0513qO613r4B13rKI13re013t0513u8613uOI13ue013x0513yKB13ym0",
    "13.0513_S0140071404614087140C5143W6144SI144u01458B146O91470614745147C6147K5147O0147y614887",
    "148C514B0714BC614BS714Ba614BiI14BqR14BuI14C8614CC014CqR14Cu014D0514Ea014F0914Fe014G0614GC5",
    "14IS614Im714Iq614JK014JO914K0I14KG514KK714KS514KW014L0514NC614NGI14NO514NS014O0614O8714OC5",
    "14RC714RO614Ry714S4514SKI14Sa614SqI14Su714Sy614T0914Te514TiI14Tm514TqI14U0014U4B14VK014W05",
    "14X8014XC514Ym714Yy614Z8714ZG614ZK714ZO614ZWI14Zu614Zy514a4614a8014e0514eS014eW514ea014ee5",
    "14eu014ey514fu014fy514gaI14ge014h0514jy614k0714kC614ki014l0914le014m0614m8714mG014mK514mq0",
    "14my514n4014nC514oa014oe514p4014p8514pG014pK514pe014pi614pq514pu714q0614q4714qK014qS714qa0",
    "14qi714qu014r0514r4014rS714rW014rq514s8714sG014sO614sq014t0614tK014u0514ue014ui514um014uu5",
    "14uy014v0514xO014xS514xW714xi614y4014y8714yC014yK714yO014yS714yi014ym714yu614yy714z0614z45",
    "14z8614zC514zGI14zO014zSI14za014.4614.C015005153K7153W61540715486154K7154O6154S5154iI15509",
    "155eI155m0155qI155u6155y5156801580515B0715BC615Ba715Be615Bi715By615C4715C8615CG515COI15CS5",
    "15CW015D0915De015O0515Qy715R8615RO015RW715Rm615Ru715Ry615S4I15TW515Tm615Tu015W0515Z0715ZC6",
    "15Zi715Zq615Zu715Zy615a4I15aG515aK015b0915be015c0I15cq015e0515gi615gm715gq615gu715h0615hO7",
    "15hS615hW515haI15he015i0915ie015j0915kG015m0515ni015nq615nu715ny615o0715o8615oO715oS615om0",
    "15p0915peB15pmI15pyM15q0515qS016005162m7162y6163W7163a6163iI163m016A0116C0216E0916EeB16FC0",
    "16Fy516GS016Ga516Ge016Gm516HG016HK516HS016HW516J0716JO016JS716Ja016Ji616Jq716Ju616Jy516K07",
    "16K4516K8716KC616KGI16KS016L0916Le016Q0516QW016Qe516T4716TG616TW016Te616Tm716U0616U4516U8I",
    "16UC516UG716UK016W0516W4616Wi516ZC616Za716Ze516Zi616ZyI16aS616aW016b0516b4616bS716ba616bm5",
    "16ee616fS716fW616feI16fq516fuI16gC016h0516la016m0I16me016s0616s4716s8616sK716sO616sS716sW0",
    "16y0516.4I16.8016_0916_e017005170a0170e5172y717306173S0173W6173u7173y6174051744I174O017509",
    "175eB176q01770I17785179001798617AW017Aa717Ae617B4717B8617BG717BK617BS017G0517GS017GW517Ge0",
    "17Gi517J4617JS017Je617Ji017Jm617Ju017Jy617KO517KS617KW017L0917Le017M0517MO017MS517Ma017Me5",
    "17Oe717Oy017P0617P8017PC717PK617PO717PS617PW517Pa017Q0917Qe017R0517Ta417Te517Tm017U0917Ue0",
    "17k0517lC617lK717lSI17la017m0617m8517mC717mG517n4017n8517pG717pO617pi017pu717q0617q4717q86",
    "17qCI17r0917re617ri017x0517x4017y0B17zKM17zqK17.4M17_8017_yI1800518ve01900A196y01970I197K0",
    "1980519KG01Bv051B_4I1B_C01C0051D30R1D4061D4451D4S61D5O01D6051G_i01H0051HaS01OG051OHu61OIe7",
    "1OIq61OJ091OJe01Q0051QZa01Qa051Qby01Qc091Qce01QcuI1Qd051Qhy01Qi091Qie01Qj051Qku01Ql061QlKI",
    "1QlO01Qm051Qp061QpSI1QpmM1Qq041QqGI1QqKM1QqO01Qr091Qre01QriB1Qs801QsC51QtW01Qtq51Qv001RK04",
    "1RKC51RMi41RMqI1RN091RNe01Ra011Rc021Re0B1RfSI1Rfi01Rg011Rha01Rhi21RjG01Rm051Rqi01Rqy61Rr05",
    "1Rr471RuW01Ruy61RvC41Rw001R.041R.8I1R.C41R.G61R.K01R_071R_841R_GA1R_S01S0051ZDO01ZFy51ZHy0",
    "1ZO051ZVC01h_041h_G01h_K41h_m01h_q41h_y01i0051iIC01iJ851iJC01iL051iLC01iLK51iLO01iMG51iMW0",
    "1iN051ilm01l0051l6i01l7051l7q01l8051l8a01l9051l9e01l9mM1l9q61l9yI1lA0R1lAG01p00M1pF091pFeM",
    "1pFq01pG0M1phG01pheM1pj401pk0M1pl0J1pl401pm061pou01pp061pqS01pr0M1pyG01q00M1qFO01qG0M1qIS0",
    "1qIaM1qMK71qMS61qMeM1qMq71qNCR1qNi61qOCM1qOK61qOmM1qQe61qQuM1qUi01qW0M1qa861qaKM1qaO01qi0B",
    "1qjG01qk0B1qlG01qm0M1qrS01qs0B1qta01r0011r1e21r3G11r4u21r5K01r5O21r6W11r8821r9m11r9q01r9u1",
    "1rA001rA811rAC01rAK11rAS01rAa11rAq01rAu11rBO21rBe01rBi21rBm01rBq21rCG01rCK21rD011rEe21rGG1",
    "1rGO01rGS11rGi01rGq11rHK01rHO11rHq01rHu21rJW11rJe01rJi11rJy01rK011rKK01rKO11rKS01rKe11rL40",
    "1rL821rMm11rOO21rQ011rRe21rTG11rUu21rWW11rY821rZm11rbO21rd011ree21rgO01rgW11ri4J1ri821rjiJ",
    "1rjm21rk811rliJ1rlm21rnKJ1rnO21rnm11rpKJ1rpO21rqyJ1rr021rrO11rsyJ1rt021ruaJ1rue21rv011rwaJ",
    "1rwe21ryCJ1ryG21rye11ryi21rym01ryu91s00M1sW061sZSM1sZi61scqM1sdK61sdOM1seG61seKM1seSI1sem0",
    "1sfi61sg001sg461sh001tm021tme51tmi21tny01toK21toi01u0061u0S01u0W61u1a01u1i61u2801u2C61u2K0",
    "1u2O61u2i01u3041u6u01u8y61u9001uG051uIq01uJ061uJS41uJu01uK091uKe01uKu51uKyM1uL001uf051ugu6",
    "1ugy01ui051ukm61ul091ule01ulyK1um001vD051vEi41vEm61vF091vFe01vT051vUu61vV051vV491vVi01vVyI",
    "1vW001vi051vjy01vk051vkC61vkG51vkO61vkS51vku61vl051vlK61vlO01vlu51vly41vm001v.051v.S01v.W5",
    "1v.m01v.q51v.y01v_051v_y01w0051wCK01wCSB1wD061wDS01wG011wI821wKG61wKi41wKm01wL091wLe01wLuI",
    "1wM001x74B1xAmM1xAqB1xB0K1xB4B1xBK01xG4B1xIuM1xIyB1xJu01xW051xWG01xWK51xY001xY451xYC01xYG5",
    "1xYK01xYS51xYW01xYa51xZC01xZG51xZW01xZa51xZe01xZi51xZm01xa851xaC01xaS51xaW01xaa51xae01xai5",
    "1xam01xaq51xb001xb451xbC01xbG51xbK01xbS51xbW01xba51xbe01xbi51xbm01xbq51xbu01xby51xc001xc45",
    "1xcC01xcG51xcK01xcS51xci01xcm51xdC01xdG51xdW01xda51xdq01xdu51xdy01xe051xee01xei51xfm01xg45",
    "1xgG01xgK51xge01xgi51xhm01xl0J1xl801y00M1y2m01y30M1y9G01yA0M1yAy01yB4M1yC001yC4M1yD001yD4M",
    "1yFO01yG0B1yGqM1yQu01yUOM1yWC01yX0M1yZm01ya0M1yaa01yb0M1yb801yc0M1ycO01ym0M1y_iL1z00M1zja0",
    "1zjmM1zkq01zl0M1zlq01zm0M1zze01z.0M1z.m01z_0M1z_401.00M1.0m01.10M1.4W01.50M1.5e01.60M1.8W0",
    "1.90M1.Au01.B0M1.Bm01.C0M1.C801.D0J1.Da01.G0M1.bW01.c0M1.cu01.d0M1.dq01.e0M1.ei01.euM1.iS0",
    "1.iWM1.ia01.iqM1.jq01.jyM1.ki01.kyM1.la01.m0M1.vC01.vGM1._091._eM1._i0200052fk002fm052k1u0",
    "2k2052pgu02ph052w.402w_052xbu02.0052.Xu03000534qi034r053D7e0E004RE0080E020RE0800E0G06E0V00",
    "F000TF__u0G000TG__u0"]

end ResidencePortal.Unicode
