import ResidencePortal.Text.Packed

/-!
# The characters of JIS X 0212

The supplementary cells in rows of 94.
-/

namespace ResidencePortal.Charset

open Text

/-- The cells, row by row. -/
def jis0212Cells : Array Nat := Packed.unpack 3
  ["000000000000000000000000000000000000000000000000000000000000000000000000000000000000000000",
    "000000000000000000000000000000000000000000000000000000000000000000000000000000000000000000",
    "000000000000000000000000000000000000000000000000000000000000000000000000000000000000000000",
    "0000000000000000000000000000000000000000000000000000000BO0B702u0BP0BT02l0BR0BQFzU0E40E5000",
    "00000000000000000000002X02c02_000000000000000000000000000000000000000000000000000000000000",
    "00000000000000000000000000000000000000000000000000000002w02g02f02k24Y02a24M000000000000000",
    "000000000000000000000000000000000000000000000000000000000000000000000000000000000000000000",
    "000000000000000000000000000000000000000000000000000000000000000000000000000000000000000000",
    "000000000000000000000000000000000000000000000000000000000000000000000000000000000000000000",
    "000000000000000000000000000000000000000000000000000000000000000000000000000000000000000000",
    "000000000000000000000000000000000000000000000000000000000000000000000000000000000000000000",
    "000000000000000000000000000000000000000000000000000000000000000000000000000000000000000000",
    "000000000000000000000000000000000000000000000000000000000000000000000000000000000000000000",
    "000000000000000000000000000000000000000000000000000000000000000000000000000000000000000000",
    "000000000000000000000000000000000000000000000000000000000000000000000000000000000000000000",
    "000000000000000000000000000000000000000000000000000000000000000000000000000000000000000000",
    "000000000000000000000000000000000000000000000000000000000000000000000000000000000000000000",
    "0000000000000000000000000000000000000000000000000000000000000000000000000E60E80E90EA0Eg000",
    "0EC0000EE0Eh0000EF0000000000000Ei0Ej0Ek0El0FA0EG0FC0F20FD0FB0Em0FE000000000000000000000000",
    "0000000000000000000000000000000000000000000000000000000000000000000000000000000000G20G30G4",
    "0G50G60G70G80G90GA0GB0GC0GE0GF000000000000000000000000000000000000000000000000000000000000",
    "0000000000000000000000000000000000000000000000HI0HJ0HK0HL0HM0HN0HO0HP0HQ0HR0HS0HU0HV000000",
    "000000000000000000000000000000000000000000000000000000000000000000000000000000000000000000",
    "000000000000000000000000000000000000000000000000000000000000000000000000000000000000000000",
    "000000000000000000000000000000000000000000000000000000000000000000000000000000000000000000",
    "00000003604G00004c00004o00005104_00005A03O05I00005c03U000000000000000000000000000000000000",
    "00000000000003c04H03m04d04n04p04u05205005905B03u05J03V05d03.000000000000000000000000000000",
    "000000000000000000000000000000000000000000000000000000000000000000000000000000000000000000",
    "00000000000000000003103003403204207D04004403503304604804C03704A04E03903803B03A04Q04M04I04O",
    "00004S04U04Y04W04a03D03C03F03E07F04m04g04k04e04q04s04v04z04x05305705503H03J03I03M03K07H05G",
    "05C03L05K05O05M05Q05S05W05U05a05Y03Q03P03S03R05i07J05m05g05o05k05e07N07R07P07L05q03T05u05s",
    "05v05z05x00000000000000000000003X03W03a03Y04307E04104503b03Z04704904D03d04B04F03f03e03h03g",
    "04R04N04J04P07r04T04V00004X04b03j03i03l03k07G00004h04l04f04r04t04w04.04y05405805603n03p03o",
    "03s03q07I05H05D03r05L05P05N05R05T05X05V05b05Z03w03v03y03x05j07K05n05h05p05l05f07O07S07Q07M",
    "05r03z03_05t05w05.05y000000000000000000000000000000000000000000000000000000000000000000000",
    "000000000000000000000000000000000000000000000000000000000000000000000000000000000000000000",
    "000000000000000000000000000000000000000000000000000000000000000000000000000000000000000000",
    "000000000000000000000000000000000000000000000000000000000000000000000000000000000000000000",
    "000000000000000000000000000000000000000000000000000000000000000000000000000000000000000000",
    "000000000000000000000000000000000000000000000000000000000000000000000000000000000000000000",
    "000000000000000000000000000000000000000000000000000000000000000000000000000000000000000000",
    "000000000000000000000000000000000000000000000000000000000000000000000000000000000000000000",
    "000000000000000000000000000000000000000000000000000000000000000000000000000000000000000000",
    "000000000000000000000000000000000000000000000000000000000000000000000000000000000000000000",
    "000000000000000000000000000000000000000000000000000000000000000000000000000000000000000000",
    "000000000000000000000000000000000000000000000000000000000000000000000000000000000000000000",
    "000000000000000000000000000000000000000000000000000000000000000000000000000000000000000000",
    "4u24u44u54uC4uI4uV4uZ4ua4ue4uh4uk4ul4um4ur4v04v14v44v74vH4vQ4vS4vZ4ve4vf4vq4vr4vv4v_4wD4wM",
    "4wN4wT4wl4wv4x34xG4xQ4xR4xW4xX4xY4xe4xl4xn4xp4xr4xz4x.4x_4y04y24y34y84yB4yC4yI4yL4yM4yN4yP",
    "4yk4yn4zW4yp4yr4yt4yv4yx4y.4z04z24z84z94zB4zC4zI4zK4zM4zO4zV4zZ4zg4zi4zk4zn4zt4zu4zv4zw4zz",
    "4z.4.14.24.44.54.94.A4.C4.E4.G4.I4.J4.K4.N4.P4.Q4.U4.V4.o4.t4.v4.x4.y4.z4..4_04_14_54_64_8",
    "4_94_B4_C4_D4_F4_I4_S4_W4_Y4_m4_o4_y4_z4__50050150450750A50C50E50G50J50N50O50R50S50T50U50Y",
    "50d50k50m50o50p50r51051151251551651A51C51E51H51I51J51N51P51V51W51Y51Z51c51d51g51j51m51n50x",
    "52152352452652A52E52F52G52I52J52K52M52R52S52U52V52W52X52Y52g52l52m52v52w52z53053353453753C",
    "53E53G53J53K53O53S53T53V53Y53a53c53e53f53l53n53s53w53.54354654754854B54C54D54E53o54G54N54P",
    "54R54S54T54U54Z54d54e54i54j54l54n54p54q54r54u54v55255A55F55J55L55N55O55V55a55c55.56356456B",
    "56E56O56T56X56Z56j56u56w56y56.56_57257857F57H57I57J57L57O57U57Y57b57k57o57p57q57t581582585",
    "58I58J58L58M58O58Y58e58n58o58r58y59559959L59N59O59Q59S59V59W59X59c59k59t59u59v5A05A25A55AA",
    "5AC5AJ5AL5AM5AN5AO5AQ5AS5Aa5Ab5Ac5Ad5Al5Am5As5At5Au5Aw5Ax5Az5B05B45B65B85BC5BF5BH5BK5BM5BR",
    "5BS5BX5Bb5Be5Bf5Bg5Bi5Bm5Bn5Bq5Bs5Bt5C05C35CA5CB5CC5CH5CJ5CO5CR5CS5CU5CV5Cb5Cd5Ce5Cf5Ch5Ci",
    "5Cj5Cm5Co5Cr5Cy5Cz5C.5D25DC5DB5DP5DR5DX5DZ5Db5Di5Dj5Do5Dv5D.5E35E75E85EE5EJ5EK5EP5ET5EX5Ea",
    "5Eg5Eh5El5Eo5Eq5Er5Et5Eu5Ew5Ez5F05F55FF5FI5FJ5FL5FQ5FT5FU5FW5Fc5Fd5Fr5G25GJ5GQ5GX5Gd5Ge5Gg",
    "5Gl5Gn5Gq5Gr5H35H45H75HD5HF5HU5HY5Ha5Hc5Hd5Hf5Hh5Hj5Hk5Hq5H_5I15I35I55I85I95ID5IH5IL5IM5IS",
    "5IV5IX5Ic5Id5If5Ig5Ij5Ik5In5It5Iv5Iw5Ix5I_5J65JA5JD5JE5JW5Jg5Ji5Jl5Js5Jy5J.5J_5K05K15K55K8",
    "5K95KC5KD5KE5KL5Kg5Kh5Ko5Kr5Ks5Kx5Ky5Kz5L15L75L95LA5LD5LG5LH5LO5LQ5LR5LU5LW5LX5La5Lc5L_5M1",
    "5M25M65M85ME5MF5MH5MI5MJ5MK5MN5MZ5Ma5Mj5Mo5M_5N15N35N65N95NB5NC5NE5NH5NI5NJ5NN5NO5NR5NU5NY",
    "5Nf5Ns5N_5O55O85OA5OD5OE5OF5OG5OH5OI5OP5Oi5Om5Op5Or5Ot5Ov5Ox5Oy5Oz5O_5P05P15P35P45P65P95PB",
    "5PD5PF5PK5PU5PW5PX5PY5PZ5Pc5Pf5Pj5Pl5Pn5Po5Pr5Q45Q55Q85QB5QC5QL5QP5QQ5QT5QU5QV5Qc5Qd5Qe5Qf",
    "5Qh5Qi5Qj5Qn5Qp5Qt5Q.5R55R95RA5RB5RF5RG5RC5RD5RP5RS5RT5RV5RX5Ra5Rb5Rc5Rd5Re5Rn5Rh5Rj5Rs5Rt",
    "5S15S25S75SA5SC5SH5SL5SQ5SR5ST5SW5SY5SZ5Sa5Sb5Sf5Sg5Si5Sk5Sl5Sp5Sq5Sz5S.5S_5T55T65TC5TD5TI",
    "5TY5Tb5Td5Te5Th5Tj5Tk5Tl5Tm5Tn5Tp5Tq5Tr5Tt5Tv5Tw5Tx5Ty5T.5U15U35UC5UK5UN5UP5UQ5US5UT5UU5UV",
    "5UX5UL5Ud5Ue5Uf5Ui5Uu5Uz5V75V85VC5VF5VL5VT5VU5Va5Vc5Vd5Vf5Vj5Vm5Vr5Vs5Vu5Vz5V.5V_5W35W45W8",
    "5W95VX5WC5WD5WR5WU5WV5WW5Wc5Wd5Wj5Wo5Wv5W_5X95XC5XD5XF5XG5XL5XV5XX5Xa5Xd5Xe5Xu5Xy5X_5Y05Y1",
    "5Y75Y85Y95YA5YC5YD5YF5YG5YK5YM5YT5YW5YX5YY5Yc5Yf5Yn5Yo5Z45Yy5Z25Z85ZD5ZE5ZG5ZI5ZK5ZM5ZQ5ZT",
    "5ZX5ZY5Zf5Zp5a55a65aB5aC5aI5aJ5aK8P15aT5aX5aZ5aa5ae5al5am5ap5ar5as5a_5b35b65bI5bJ5bP5bR5bT",
    "5bU5bV5bX5bZ5bh5bj5bl5bo5br5bs5bv5bx5by5cB5cC5cE5cI5cL5cN5cV5ca5cd5cj5ck5cl5cm5cp5ct5cw5cy",
    "5d15d35d45d85dA5dD5dI5dT5dU5dV5dZ5da5dd5dk5dl5dn5do5dq5dt5e05e45eC5eD5eE5eI5eJ5eU5eZ5ea5ed",
    "5ee5eg5ej5em5f45f55f75f85fC5fG5fL5fU5fZ5fb5fd5fj5ft5fw5fx5f.5gB5gG5gJ5gM5gP5gS5gU5gV5gW5gY",
    "5gd5gi5gn5go5gp5gr5gu5gw5gx5g_5h45h65h85hF5hQ5hS5hW5hb5hg5hk5hr5hs5hz5i05i15i85iN5iq5iP5iR",
    "5iT5iX5ib5ij5iu5j15jB5jC5jI5jM5jU5je5jk5jl5jy5jz5j.5j_5k15k45k65kA5kE5kG5kH5kJ5kK5kM5ke5kf",
    "5ki5kj5kl5kn5ko5kt5kw5ky5l05l15lD5lF5lM5lN5lO5lP5lQ5lW5ll5ln5lq5lz5mC5mN5mU5mV5mZ5mc5mf5mh",
    "5mi5mk5mm5mo5mr5ms5nP5nQ5nS5nY5nZ5nd5ne5nf5nj5nm5nq5nr5nw5nx5ny5nz5o75o85oA5oF5oI5oT5oV5oW",
    "5oY5oZ5oc5og5oo5oq5or5ow5p95pB5pI5pT5pN5pk5pn5po5pq5q15q65qD5qI5qh5qZ5qa5qc5qd5qn5qq5qv5qz",
    "5q_5r25r35r65r85rL5rH5rP5rA5rV5rW5rX5rY5ra5rg5rj5rm5rv5rw5r.5r_5s15s35s85sA5sI5sJ5sK5sL5sP",
    "5sR5sV5sW5sd5sh5sm5sq5su5sv5t35t75tB5tG5tE5tO5tP5tW5ta5tf5tu5tv5u05u75uD5uI5uK5uL5uO5uV5uW",
    "5uk5ue5uo5ur5u.5vB5vG5v95vH5vM5vO5vR5vS5vU5ve5vg5vh5vi5vj5vk5vm5w05wB5wE5wY5wa5wb5we5wg5wi",
    "5wn5wp5wz5w.5w_5x65xC5xB5xE5xH5xI5xK5xL5xS5xU5xb5xh5y25y65y75y85yE5yP5yS5yT5yX5yY5yZ5ya5ye",
    "5yh5yi5yk5ym5yq5ys5yx5yz5y_5z05z45z55z75zD5zG5zK5zO5zR5zW5zZ5za5zd5zl5zo5zq5zr5zu5zw5zz5z.",
    "5.95.D5.F5.M5.S5.T5.Y5.d5.h5.a5.i5.l5.m5.n5.u5_45_75_85_95_B5_G5_H5_I5_J5_K5_U5_X5_Y5_e5_f",
    "5_g5_i5_j5_k5_l5_o5_p5_s5_w5_y60760A60D60J60K60N60O60Q60V60a60j60p60r61061761861961C61H61K",
    "61M61N61T61X61d61n61.61_62262662862A62E62H62J62L62O62T62U62Y62a62b62e62m62n62t62x62.632634",
    "63863963A63B63E63F63K63L63P63R63T63U63Y63b63o63r63u63y63z64264764A64C64G64H64I64J64K64M64N",
    "64P64S64U64Y64g64h64m64n64r64s64t64v65165565665965U65W65i65o65u65x65y65_66066166366466B66D",
    "66I66J66N66O66S66T66V66W66b66e66g66j66u66v66y67067167267E67F67L67S67T67U67V67X67Y67d67f67b",
    "67i67j67l68168368468768J68L68S68W68Y68Z68d68f68h68v68z69269369469669C69G69H69I69K69M69Q69S",
    "69a69j69l69p69w69z6AD6AE6AF6AG6Ac6Ae6Ap6As6At6Aw6A.6A_6B46BE6BL6BM6BQ6Bg6Bo6Bq6By6Bz6C36C4",
    "6CA6CB6CD6CG6CJ6CM6CO6Cf6Cg6Cj6Cr6Cs6Cv6Cy6D16D26D36D46D66DA6DB6DE6DI6DJ6DK6DO6DR6Db6Dc6Di",
    "6Dj6Dn6Dq6Dr6Du6Dy6Dz6D_6E26E46E76EA6EG6EK6EL6EP6EQ6EU6Ea6Ec6Ej6Ek6El6Ez6F16F56F86FE6FH6FJ",
    "6FK6FL6FS6FW6Fb6Fg6Fi6Fo6Fp6Fr6Fu6Fv6G96GA6GG6GI6GK6GO6GU6GW6GY6Ga6Gb6Gf6Gg6Gl6Gm6Gr6Gz6G_",
    "6HB6HF6HH6HI6HJ6HK6HQ6HR6HS6HT6HV6HW6HX6HZ6Hj6Hp6Hq6Hx6Hz6I56I76IF6IG6IH6IO6IP6IR6IT6IV6IX",
    "6IZ6Ic6Ie6Ii6Ip6Iz6I.6I_6J46J96JA6JB6JC6JE6JG6JH6JL6JN6Ja6Jb6Jf6Jg6Jj6Jm6Jr6Jt6Jx6J_6K16K4",
    "6K86K96KA6KF6KJ6KK6KM6KP6KR6KU6KV6KY6Kc6Kf6Kk6Kn6Kw6Ky6Kz6L36L76L96LG6LI6LK6LV6LW6Ld6Lh6Lw",
    "6Lz6M16M56MA6MI6ML6MO6MT6MW6MZ6Mc6Mk6Mo6Mp6Mq6M_6N26N86N96NE6NG6NK6NM6NO6NV6Nm6No6Nq6Nr6Nv",
    "6N.6N_6O06O46O86O96OD6OH6OI6OL6OM6OT6OU6OX6OY6OZ6Oa6Oc6Of6Og6Oh6Oi6Ok6Om6On6Op6Ov6Ot6P06P5",
    "6P66PA6PC6PH6PE6PN6PO6PP6PR6PS6PW6PX6Rx6Pg6Ph6Pi6P.6Pp6Pr6P_6Pt6Pu6Pv6Px6Q06Py6QB6QC6QD6QG",
    "6QI6QP6QQ6QR6QS6QV6QW6Qa6Qj6Qn6Qo6Qr6Qx6Q_6R06R26R36R86RC6RE6RF6RK6RR6RV6Re6Rh6Ri6Rk6Rw6S5",
    "6S76SE6SJ6SP6SS6SW6SY6Sp6S.6T56T76T86TC6TK6TL6TT6Tc6Ti6Tk6Tq6Ts6Tx6U16U46UE6UF6UH6UJ6UM6UO",
    "6UP6UR6Um6Un6Uo6Ur6Ux6Uy6Uz6Vv6V06V26V36V56V86V96VI6VN6VP6VS6VX6Vc6Vm6Vo6Vs6Vt6XI6WK6WP6WT",
    "6WV6We6Wd6Wi6Wj6Wl6Wm6Wn6Wp6Wx6W_6X46X56XA6XC6XL6XN6XO6XR6Xh6Xk6Xl6Xm6Xn6Xo6Xr6Xv6Xw6Xx6Xy",
    "6Y26Y46Y66Y86YM6YO6YQ6YS6YX6YZ6Yb6Yf6Yg6Yk6Yo6Yx6Z56Z86ZC6ZF6ZG6ZH6ZJ6ZM6ZP6ZS6ZT6Zb6Ze6Zg",
    "6Zh6Zi6Zj6Zm6Zn6Zr6Zs6Zx6Zy6Zz6a66a96aA6aG6aH6aJ6aM6aN6an6ap6ar6au6ax6b26b56b96bE6bN6bR6bZ",
    "6ba6bb6bc6be6bf6bi6bm6bn6bo6bw6bx6b_6c06cD6cI6cM6cO6cX6cb6cc6ce6ch6cj6cl6ct6cu6cw6cy6d56d8",
    "6dH6dM6dN6dY6db6dk6dl6dn6dp6dr6d.6e06e16e36eF6eH6eL6eQ6eT6eW6ea6ee6em6eo6eq6et6ex6e.6e_6f5",
    "6f66f96fA6fE6fG6fH6fI6fL6fM6fR6fa6fd6fg6fn6fp6f.6g16g36g66g76g96gB6gH6gR6gT6gU6gV6gb6gh6gl",
    "6gm6gn6gq6gz6g.6g_6h66h96h86hC6hG6hK6hL6hM6hS6hT6ha6hd6hi6hm6hn6ho6hy6hz6i26i36i66i76i96iF",
    "6iG6iH6iN6iR6iU6ia6ie6ih6ii6il6ir6is6ix6i_6j66jA6jD6jI6jM6jO6jT6jW6jd6jh6jk6jm6jr6jz6j.6k2",
    "6k56kN6kR6kV6kW6kY6kZ6ke6kf6ki6kj6kk6km6ku6kv6kz6k.6l36l46l96lC6lM6lQ6lX6lZ6lc6ld6lk6ln6lt",
    "6lv6l_6m26m46m56m96mD6mE6mG6mI6mP6mV6mc6md6me6mi6mk6mp6mr6ms6mw6mx6m_6nA6nB6nD6nF6nI6nK6nP",
    "6nR6nS6nh6nj6nl6nq6ns6nu6nv6nx6o56o66o76o96oK6oL6oN6oO6oS6oV6om6oo6oq6p26p66pD6pF6pG6pH6pI",
    "6pK6pM6pQ6pS6pW6pd6pf6ph6pi6pk6po6pq6q46q76qA6qE6qF6qH6qJ6qQ6qc6qd6qe6nd6qk6ql6qn6qv6qy6q_",
    "6rN6rU6rV6rX6rb6rd6rl6rm6ry6s26s76sH6sI6sK6sM6sN6sO6sg6si6sq6st6sv6sz6s_6t46t86tA6tE6tF6tM",
    "6tR6tT6tV6tW6tY6tb6tf6tl6tm6tq6ts6ty6u06u46uU6uY6ud6uo6us6uv6ux6uy6v46v56v86v96vB6vF6vH6vI",
    "6vJ6vK6vN6vS6vT6vU6vY6vZ6ve6vp6vx6vz6wD6wJ6wP6wW6wd6wj6wk6wn6wp6wx6w_6x06x16x36x76x86xA6xD",
    "6xE6xF6xh6xj6xk6xv6xx6xz6y46y86yA6yC6yD6yM6yO6yQ6yR6yc6yf6yg6yl6ym6yp6ys6yx6yy6yj6zF6zH6zI",
    "6zJ6zN6zP6zQ6zT6zU6zX6zY6ze6zi6zz6z.6.36.76.86.B6.C6.D6.G6.I6.J6.K6.M6.Q6.V6.W6.b6.c6.d6.e",
    "6.k6.l6.m6.r6.s6.y6_56_76_86_A6_Q6_U6_e6_f6_m6_r6_v6_y6_z70070570670770D70N70W70Z70l70q70t",
    "70v70y71371471871971A71B71K71L71T71U71E71a71b71i71k71r71s71.72172572672K72L72M72N72O72R72a",
    "72h72m72n72q72t73A73H73J73K73L73M73O73S73a73w74374474574674774B74C74F74U74W74h74j74l74m74n",
    "74u75175575675775A75B75G75I75N75Q75S75U75W75e75v76076576776C76I76Q76R76W76Y76l76m76o76p76w",
    "76_77077177477B77C77J77M77P77Q77S77u77.78078778878978J78N78Q78T78V78a78h78l78q78u78v791792",
    "79379579E79F79G79J79L79M79Q79S79U79W79Z79e79h79k79l79n79t79u79x79y79_7A47A97AD7AE7AJ7AR7Ae",
    "7Aj7Ak7An7Aq7A.7B17B77B97BC7BL7BM7BO7BV7Bb7Bp7Bq7Bw7Bx7B.7C27C47C57C77CB7CD7CI7CJ7CO7CP7CU",
    "7CY7Ca7Cd7Ce7Ci7Cn7Co7Cr7Cw7Cx7Cz7D37DD7DG7DI7DM7DO7DT7DU7DV7DW7Dc7Dd7Df7Dh7Di7Dk7Dl7Dn7Dt",
    "7Dv7Dy7E07E17E37E57E67EE7EG7EJ7EL7EN7EO7ES7EU7EV7EW7EY7Eb7Ec7Eg7Eh7Ej7Er7Et7Ev7Ey7Ez7E_7F5",
    "7F67F97FB7FC7FF7FI7FJ7FM7FP7FT7FX7FZ7Fc7Fd7Ff7Fq7Fr7Ft7Fv7Fw7Fx7Fz7F_7G07G17G47G77GA7GH7GQ",
    "7GR7Ga7Gc7Ge7Gf7Gg7Gh7Gi7Gj7Gk7Gl7Gm7Gn7Gv7H07H37H47H67H77HB7HD7HH7HI7HN7HT7HY7Hc7Hd7He7Hh",
    "7Hj7Hk7Hn7Ho7I07I17I57I67I77I97IF7IG7IH7II7IO7IP7IQ7IS7IV7IW7IX7IZ7Ic7Ie7If7Ig7Ih7Ik7Il7In",
    "7Io7Ir7Iv7Ix7I_7J87J97JC7JG7JJ7JO7JQ7JR7JU7JV7Ja7Je7Jg7Jh7Jl7Jq7Jw7Jx7Jy7J_7K67KI7KM7KN7KW",
    "7KX7Ka7Kd7Kf7Kg7Kl7Ks7Kv7Kz7K.7K_7L07L37L77L87LE7LG7LI7LN7LU7LV7LX7Ll7Ln7Lv7Lw7Lx7Ly7Lz7L.",
    "7M17M57MG7MI7MJ7ML7MP7MS7MY7Ma7Mq7Mw7M_7N07N17N47N67NC7NE7NF7NN7NS7NV7NW7NX7Na7Nd7Ni7Nk7Nl",
    "7Nn7Nv7O07O27O37O47O77O87OA7OC7OF7OI7OJ7OL7OM7OP7OR7OS7OT7OU7OZ7Ob7Oc7Of7Oj7Oo7Op7Or7Ou7Ov",
    "7Ow7Oy7PA7P07P17P37P47P57P97PB7PL7PP7PV7Pa7Pb7Pj7Pk7Pl7Pn7Pq7Q17Q57QC7QD7QL7QR7QS7QT7QV7QW",
    "7QY7QZ7Qa7Qb7Qc7Qd7Qe7Qg7Qj7Qz7R17R57R97RB7RC7RE7RK7RP7RW7Rc7Re7Ri7Rm7Rn7Rs7Rv7Ry7S07S67SA",
    "7SE7SI7SK7SL7SN7SP7SQ7SS7SY7Se7Sj7Sk7Sl7Sq7Sr7Ss7Sv7Sz7S.7T27T57T67TA7TD7TE7TF7TI7TM7TN7TS",
    "7TU7TV7TW7TY7Ta7Td7Tg7Ti7Tm7To7Tp7Tq7Tw7Tz7U07U47UC7UD7UK7UL7UM7UQ7UV7UY7Ud7Ug7Uk7Ul7Un7Ur",
    "7U.7V37V97VH7VI7VL7VP7VU7VV7VW7Va7Vc7Vg7Vi7Vm7Vn7Vq7Vu7Vx7W57W67W97WD7WE7WH7WT7WX7WY7WZ7Wj",
    "7Wk7Wm7Wr7Wt7X37X47X77X87XC7XE7XI7XS7XU7XW7XX7XZ7Xa7Xe7Xg7Xk7Xw7X.7YA7YF7YK7YO7YX7YT7YU7YV",
    "7Ya7Ye7Yi7Yj7Ym7Yn7Yo7Yp7Yx7Yz7Y_7Z77Z87Z97ZC7ZE7ZI7ZJ7ZL7ZM7Za7ZR7ZV7ZW7ZX7Zc7Zg7Zo7Zp7a0",
    "7Zs7Zt7Zw7Zx7Z_7a67aC7aG7aQ7aS7aU7aV7aW7ab7ad7af7aj7an7aq7ar7ax7az7a_7b47b57b67bA7bB7bF7bH",
    "7bK7bO7bR7bS7bd7bf7bh7bo7bv7bx7by7b.7cB7cC7cH7cJ7cK7cL7cM7cO7cR7cS7cX7ce7cf7ch7cl7cn7cq7cu",
    "7cx7d27d47d77d87dA7dF7dK7dM7dQ7dT7dU7dW7dY7db7dg7dh7dj7dn7du7dy7e27e37e77e97eA7eC7eH7eL7eR",
    "7eU7eX7ed7eh7ej7el7em7eq7er7eu7ev7ew7f47f57f77f87fC7fL7fM7fP7fS7fT7fV7fW7fb7fd7fg7fj7fr7fu",
    "7f.7g07g27g57g67gA7gB7gG7gH7gK7gU7gW7gZ7gi7gp7gr7gv7gx7gy7h67h97hC7hE7hH7hR7he7hf7hh7hi7hn",
    "7hq7hx7hz7h.7i77iK7iV7iZ7id7if7ig7ih7ij7ik7il7im7in7iq7iz7i_7j07j17j77jE7jL7jW7ja7jc7jf7jg",
    "7jj7jl7jo7jp7jt7k47k97kE7kG7kH7kM7kR7kU7kW7kb7ki7kl7km7ko7kr7ks7kw7kx7ky7kz7l27l57l87lA7lK",
    "7lM7lN7lP7lQ7lR7le7lg7lo7lq7lr7lu7lv7lw7ly7l.7m17m27m37m47m67m97mB7mC7mE7mF7mP7mR7mW7mb7mc",
    "7me7mi7mn7mp7mq7ms7mv7mw7n67nA7nL7nH7nI7nJ7nP7nQ7nR7nS7nT7nU7nX7nZ7nd7nf7nj7nk7nm7no7nv7ny",
    "7nz7o67o77oF7oK7oU7oW7oc7om7os7ot7ow7ox7oy7o_7p47p77p87p97pD7pF7pJ7pK7pL7pN7pP7pQ7pT7pc7pf",
    "7ph7pr7q37q77q87q97qF7qH7qI7qJ7qM7qT7qU7qZ7qc7qg7qj7qn7qy7qz7q.7r07r17r77r87rD7rH7rJ7rN7rP",
    "7rQ7rS7rT7rb7rd7rg7rm7ru7rw7rx7r_7s17s27s37s57s67s87sB7sC7sD7sH7sM7sN7sT7sU7sc7sd7sg7sp7ss",
    "7st7sv7t27t37t47t57t67tC7tD7tE7tN7tP7u07tY7tb7tc7tg7th7tj7tn7tr7ts7tv7tw7u87uG7uH7uL7uN7uS",
    "7uT7uW7ud7ue7ui7uj7ul7up7us7u_7v47v57v77vE7vG7vI7vO7vV7vX7vY7vb7vh7vk7vl7vp7vu7v.7w17w67w7",
    "7wA7wD7wH7wL7wO7wQ7wT7wU7yy7yx7yz7y.7y_7z37z47z77zF7zI7zJ7zR7zS7zT7zX7zZ7za7zb7zc7zj7zn7zz",
    "7z.7z_7.07.B7.D7.F7.G7.H7.M7.N7.S7.X7.Y7.c7.g7.j7.q7.y7._7_07_37_87_E7_F7_R7_V7_Z7_b7_e7_i",
    "7_k7_l7_o7_w7_z7_.7__80780880A80D80E80F80H80J80K80M80T80U80V80W80a80c80i80k80m80q80r80t80v",
    "80w80y80.81081481W81a81c81j81n81r82182882E82S82U82c82d82h82u82v83883D83F83I83K83L83N83O83W",
    "83j83k83m83o83p83s83v83w83.84384B84M84N84O84S84U84W84a84d84i84m84r84w84y85585785A85C85I85N",
    "85W85X85d85e85f85j85l85t86186G86486586686B86E86M86O86R86U86Y86k86o86q86x87B87387587A87E87F",
    "87L87N87R87T87U87X87a87h87i87m87n87o87r87s87u87v87z87_88088388F88J88K88P88Q88T88X88Y88e88o",
    "88q88w89389489589689B89E89F89H89M89S89W89Z89d89j89q89x89z89_8A08A18A38A48A78A98AA8AE8AH8AK",
    "8AM8AO8AQ8AR8AW8AX8AZ8Aa8Ad8Ae8Af8Ag8Ak8Am8Ao8Aq8At8Aw8Ay8A.8A_8B68BG8BL8BQ8BW8BY8Ba8Be8Bg",
    "8Bj8Bl8Bs8Bt8Bz8B.8C08C18C78C88CA8CB8DK8CR8CT8CU8CV8CX8CY8Ci8Cj8Ck8Cm8Cp8Ct8Cw8Cy8Cz8D28D3",
    "8D48D78DD8DE8DH8DL8DM8DN8Dm8Du8Dz8D_8E08E28E48E68ED8EI8EK8EL8EO8EP8ER8ES8ET8Ec8Ed8Ef8Ei8E.",
    "8E_8F08F78F98FF8FG8FH8FK8FT8DJ8Fe8Fg8Fs8Fu8Fv8Fy8G18G68GA8GF8GH8GL8GP8Ej8Gl8Gv8H58H78H88HA",
    "8HD8HF8HH8HI8HM8HO8HP8HQ8HS8HW8Ha8Hb8Hd8Hg8Hm8Hp8Hq8Hs8Hu8Hy8Hz8I18I58II8IJ8IL8IU8Ic8Ie8If",
    "8Ig8Il8In8Iq8Iw8Iz8I.8J08J28J78J88JC8JF8JJ8JS8Jd8Jg8Jl8Jm8Jn8Jo8Jt8Ko8Jw8Jx8Jz8K28K38K78KC",
    "8KE8KG8KS8KU8KY8KZ8Ka8Kb8Kd8Kg8Kh8Kl8Kp8Kq8Ks8K_8L68LF8LG8LH8LI8LJ8LM8LP8LS8LT8LU8LV8LW8LX",
    "8LY8La8Lh8Ll8Lv8Lw8Lx8Lz8L_8M18M58M68M98MB8MC8MF8MJ8MO8MT8MV8MW8MY8Mb8Md8Mq8Ms8Mt8Mu8My8Mz",
    "8M.8M_8N28N78NA8NB8NE8Mj8NO8NQ8NV8NW8Nc8Ne8Nj8Np8Ns8Ny8N_8O08O48O58OD8OE8OG8OH8OI8OO8OP8OR",
    "8OU8OX8Od8Of8Os8Ou8Ow8Oy8Oz8P08P28P68PI8PJ8PM8PN8PO8PP8PT8PW8PX8PY8PZ8Pa8Pf8Pi8Pl8Pr8Ps8Pt",
    "8Pw8QD8QH8QM8QO8QQ8QS8QX8Qc8Qd8Qe8Qj8Qn8Qp8Qq8Qr8Qt8Qu8Qv8Q_8R08R18R38R58RH8RI8RL8RN8RQ8RS",
    "8RW8RZ8Rb8Rd8Q88Rw8Ry8Rz8S48S58S78SB8SE8SF8SG8SJ8SK8SP8SU8SV8SX8SZ8Se8Sk8Sl8Sn8So8Sv8Sw8Sy",
    "8Sz8S.8T08T38T58TD8TO8TT8TX8Ta8Tb8Tl8Tn8To8Tx8U38U48U58U68U78U88U98UB8UC8UG8UJ8UL8UN8UO8UP",
    "8UU8UW8UZ8Ud8Ui8Uj8Uk8Un8Ur8U.8U_8V18V88V98VA8VE8VL8VM8VP8VQ8VS8VV8VY8VZ8Va8Vg8Vh8Vj8Vn8Vp",
    "8Vu8Vw8V_8W18W38W68W98WA8WB8WG8WP8WI8WJ8WK8WO8WQ8WR8WS8WU8WV8We8Wj8Wk8Wm8Wo8Wr8Ww8Wy8X18X3",
    "8X58X88X98XA8XB8XE8XH8XL8XM8XO8XQ8XS8XV8XW8Xa8Xf8Xn8Xv8Xx8Y08YO8YQ8YR8YS8YV8YW8Ye8Yg8Yw8Yz",
    "8Y.8Z08ZA8ZB8ZC8ZD8ZE8ZH8ZI8ZJ8ZR8ZU8Zd8Zl8Zm8Zn8Zr8Zt8a18a68aD8aE8aF8aL8aM8aO8aP8aQ8aS8aW",
    "8ac8ad8ae8am8an8ao8ar8av8aw8a.8b08b28b58b68b98bF8bI8bN8bQ8bR8bS8bX8bY8bZ8bh8bk8bm8bp8br8bw",
    "8bx8by8bz8c98cD8cG8cK8cL8cR8cS8cV8cW8cb8cm8cq8cr8cs8ct8cy8dK8dL8dM8dN8dO8db8df8dh8dj8dn8dp",
    "8ds8dv8dz8d_8e48e58e78eF8eH8eI8eK8eL8eU8eW8eY8ea8ec8eh8ei8el8er8et8ez8e.8f08f38f58f78f98fD",
    "8fE8fJ8fM8fN8fO8fS8fT8fX8fb8fd8fr8fs8ft8fv8fw8fx8f.8f_8g08g38g68gB8gF8gG8gI8gM8gN8gP8gV8gd",
    "8gf8gk8gl8gp8gs8gt8gx8g.8h38h68h88h98hA8hH8hJ8hK8hL8hN8hT8hV8hi8hm8hq8hr8hs8hy8h_8i58i68iB",
    "8iH8iS8iU8iV8iA8ij8im8it8iy8j28j38j48j58j68j88jI8jJ8jK8jP8jD8jU8jZ8jj8js8ju8jv8jy8j.8k18k4",
    "8k58kB8kD8kF8kK8kL8kS8kU8kV8mu8mv8mz8m.8n58n78n98nB8nF8nH8nJ8nK8nN8nO8nR8nT8nP8nZ8na8nc8ne",
    "8nf8nj8np8nr8ns8nx8n.8o68o78oB8oG8oI8oJ8oP8oR8oS8oa8ov8ow8p58p68p98pB8pF8pM8pL8pP8pT8pX8pe",
    "8pi8pl8pm8po8pr8pt8pu8p.8p_8q18q38q98qI8qN8qR8rb8rf8ri8rk8r_8s28s48s88sD8sG8sH8sL8sU8sV8sW",
    "8sc8sh8si8sl8so8sr8st8sv8sx8t08t58t68t78t88tA8tE8tH8tK8tL8tN8tP8ta8tb8td8ti8tm8sy8tn8to8tq",
    "8tz8u18u48u58u68uB8uH8uK8uM8uW8uX8uY8uZ8uc8ud8un8up8us8ut8uu8uv8uz8v08v18vB8vD8vE8vF8vK8vR",
    "8vS8vT8vU8vX8vY8vf8vi8vj8vl8vm8vn8vv8vw8vx8w28w38w98wG8wI8wL8wQ8wR8wT8wU8wY8wd8wf8wj8wk8wp",
    "8wr8ww8wx8x08x18x38x48x78xF8xH8xK8xS8xe8xk8xm8xn8xt8xv8xw8xj8y08y28y78y88yF8yG8yM8yN8yO8yU",
    "8yW8yX8yZ8yb8yd8ye8yi8yj8yk8yq8yr8ys8yt8yw8z08z18z38z78zF8zH8zI8zJ8zK8zL8zO8zT8zU8zb8.T8.W",
    "8.X8.a8.b8.c8.r8.s8.u8..8_08_18_68_A8_B8_D8_G8_I8_J8_L8_W8_Z8_a8_e8_k8_n8_r8_s8_x8_.902904",
    "90890C90O90R90e90f90l90g90i90j90p90q90t90_91391491C91R91T91Y91c91d91i91m91q91v92592892B92C",
    "92E92G92L92N92O92P92R92W92X92Y92b92m92o92p92q92s92z93C92.93393493593793893L93N93O93P93S93T",
    "93V93b93I93s93h93l93m93q93.93_94094494594694894D94G94K94M94N94O94Q94S94U94W94b94Y94Z94d94f",
    "94k94l94n94q94s94t94v94w94y94z95395795895F95J95N95P95Q95R95X95a95d95j95q95v95w95x961963965",
    "96696A96E96H96J96K96L96O96U96X96c96e96i96j96k96m96n96o96p96s96x96y96z96_97297397597J97K97N",
    "97P97Q97U97a97b97f97g97i97j97k97l97m97n97t97v97x97z98098198498598698798998A98C98G98I98J98M",
    "98O98S98T98Z98a98b98c98e98k98l98m98p98r98s98u98v98w98y98.99099299399699799A99D99E99F99H99O",
    "99P99S99T99W99X99b99d99e99f99k99l99m99r99s99t99u99v99x99y99z99_9A89A99AA9AD9AE9AI9AN9AP9AV",
    "9AW9Aa9Ab9Ad9Ae9Ah9Al9Ao9As9Au9Aw9Ax9Ay9Az9A_9B09B19B29B39B59B69B79B89BB9BC9BD9BE9BG9BJ9BL",
    "9BN9BO9BP9BS9BT9BV9BW9BX9BZ9Bb9Bd9Be9Bi9Bk9Bm9Bv9Bx9B_9C09C29C89CD9CH9CK9CL9CS9CT9CU9CV9CX",
    "9Ca9Cb9Cd9Cf9Cg9Cp9Cq9Cs9Ct9D79D89D99DG9DH9DI9DL9DN9DO9DQ9DU9Da9Db9Dd9Df9Dg9Dj9Dl9Dm9Dn9Dp",
    "9Dq9Ds9Dw9Dz9D_9E09E19E29E89EA9EB9ED9EF9EI9EL9EO9ER9EU9EX9EZ9Ea9Ec9Ee9Eh9Eq9Er9Es9Ew9Ef9F1",
    "9F49F59F69F79F99FA9FB9FC9FD9FJ9FP9FS9FU9FV9FY9Fc9Fd9Fv9Ft9Fu9Fw9Fx9Fz9G19G29G49G89G99GD9GE",
    "9GF9GL9GM9GN9GV9Gk9Gl9Gn9Go9Gp9Gq9Gx9G_9Gz9H39H59H89HA9HC9HL9HP9HS9HV9HX9HZ9He9Hh9Hj9Hk9Hl",
    "9Hn9Ho9I49I39Lu9Lv9L.9M49M89MC9MD9ME9MT9MU9MV9MX9Mc9Mf9Mh9Mi9Mq9Ms9Mw9Mz9M_9N69N89N99NB9NG",
    "9NH9NI9NJ9NP9NQ9NT9NU9NV9NW9Na9Nc9OT9OU9OY9Oa9Ob9Oc9Oi9On9Op9Ot9Ou9Ov9Ow9Oy9Oz9P19PI9PK9PM",
    "9PN9PO9PX9Pk9Pq9Px9Py9P.9P_9Q19Q29Q39Q49Q99QH9QM9QQ9QT9QV9Qa9Qb9Qc9Qf9Qk9Ql9Qp9Qw9RA9RI5so",
    "9RO9RQ9RT9RU9RV9Rf9Rl9Rn9Rw9S29S39S59S99SQ9SR9ST9SX9SY9SZ9Se9Sn9Sp9T19T39TA9TE9TF9TL9TN9TO",
    "9TQ9TR9TZ9Td9Tg9Tk9Tp9Ts9Tt9Tu9Tx9Tz9T_9U09U99UL9UM9UN9UP9UQ9UU9UV9UY9Ui9Uk9Un9Uo9Ur9Us9Uu",
    "9Uv9Uw9Uy9U.9U_9V19V49V59V79V99VA9VC9VD9VE9VG9VH9VK9VN9VO9VP9VT9VU9VW9VR9VX9Va9Vl9Vn9Vq9Vt",
    "9Vu9Vw9W79WA9WP9WD9WE9WK9WM9WS9WU9WW9WZ9Wc9Wh9Wk9Wl9Wm9Wo9Wp9Wr9Wb9W.9X49X79XA9XH9XI9XJ9XM",
    "9XN9XP9XQ9XY9XZ9Xb9Xc9Xg9Xi9Yh9Yj9Yk9Ym9Yq9Yt9Yu9Yw9Yx9Y_9Z29Z59Z89ZC9ZX9ZZ9Zb9Zc9Zd9Zg9Zp",
    "9Zs9a29a79a89aH9aL9aM9aN9aQ9aR9aS9aV9aY9ac9ad9ah9an9ao9ap9aq9ar9av9aw9ax9ay9b09b19b69b79b8",
    "9bD9bE9bK9bO9bP9bR9bS9bU9bV9bW9cR9cT9cV9cc9cm9cn9co9cr9cv9cw9cz9c_9d39d99dJ9dK9dP9dQ9dS9dU",
    "9dd9dg9dh9di9dm9dq9dr9dv9dz9d.9e29e39e49eB9eC9eG9eH9eM9eU9eW9eY9eZ9ea9ed9ej9ek9ep9er9es9eu",
    "9f79f19f49fA9fB9fC9fE9fH9fK9fM9fT9gg9gi9gk9gl9go9gq9gr9gs9gv9gx9g.9g_9h19h39h69h89hE9hG9hI",
    "9hL9hM9hN9hR9hS9hW9ha9hb9hd9hf9hi9ho9hp9hr9hv9hw9hz9h_9i09i19i29i39i49i59i89i99iB9iC9iD9iE",
    "9iG9iI9iM9iP9iR9iS9iW9ic9ih9ij9ip9iq9ir9it9iv9iw9iz9j89jB9jC9jL9jM9jN9jR9jU9jX9jZ9jb9jc9je",
    "9jg9jh9ji9jj9jk9jp9jr9jt9ju9jv9j_9k09k49k59k69k79k99kA9kB9kD9kF9kG9kK9kQ9kT9kU9kc9kd9kf9ki",
    "9km9kn9ko9kt9ku9kx9ky9k.9k_9l19l79l89lE9lG9lN9lO9lT9lV9lb9ld9lg9lh9ll9lp9lt9lu9lv9lw9lz9l_",
    "9m09m29mB9mF9mH9mM9mO9mP9mQ9mS9mU9mY9mZ9mc9md9me9mf9mg9mn9mr9ms9mt9mz9n19n39n49n59n99nA9nE",
    "9nF9nG9nJ9nK9nM9nO9nR9nT9nU9nV9nZ9nf9ng9nS9nh9ne9nk9nm9no9nr9nt9nx9pc9po9pt9pv9qB9q29qH9qN",
    "9qO9qS9qT9qU9ql9qm9qo9qp9qq9qw9qy9r59qz9r29r39r79rA9rJ9rK9rV9rZ9rY9rb9rf9rg9rh9rm9rs9rt9rx",
    "9ry9r.9s39s49s69sA9sD9sE9sI9sJ9sL9sM9sN9sO9sX9sg9si9sk9sn9sr9sv9sy9s_9t39t79t99tA9tK9tL9tM",
    "9tN9tQ9tU9tV9tW9tb9td9tf9th9tk9tm9tp9tq9t.9uA9u29u79uE9uG9uH9uI9uL9uM9uP9uS9uT9vw9vx9vy9w0",
    "9w29w39w49w59w79wE9wF9wM9wO9wR9wU9wa9we9wi9wk9wl9wm9wp9wq9wr9x69x89xB9xL9xV9xa9xd9xi9xj9xk",
    "9xm9xn9xo9xr9xu9x_9y29y39y99yF9yG9yH9yI9yK9yM9yN9yP9yQ9yR9yV9yY9yc9yg9yh9yl9yn9yo9yq9yt9yv",
    "9yw9yy9yz9y_9z19z39z49z59z69z79zJ9zL9zM9zN9zO9zQ9zT9zU9ze9zf9zj9zk9zl9zm9zn9zp9zr9zw9zz9.F",
    "9.G9.H9.I9.K9.M9.N9.U9.X9.Y9.Z9.b"]

end ResidencePortal.Charset
