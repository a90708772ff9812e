import ResidencePortal.Text.Packed

/-!
# The characters of GB 18030

The double-byte cells, 190 to a lead byte, and the stretches of code points that the four-byte codes
run through.
-/

namespace ResidencePortal.Charset

open Text

/-- The double-byte cells, by lead and trail byte. -/
def gb18030Cells : Array Nat := Packed.unpack 3
  ["4u24u44u54u64uF4uI4uN4uV4uW4uX4uZ4uc4uf4uk4ul4un4up4ur4ut4uy4v04v14v24v44v64vA4vH4vL4vN4vQ",
    "4vR4vY4vZ4va4vb4vd4ve4vg4vh4vi4vj4vk4vl4vo4vq4vr4vs4vt4vu4vv4vw4vx4vy4vz4v_4w04w14w24w34w4",
    "4w54w74wA4wG4wM4wN4wP4wS4wT4wU4wZ4wg4wl4wm4wn4wq4ws4wt4wu4wv4wy4wz4w.4x84xC4xF4xG4xI4xQ4xR",
    "4xS4xW4xY4xc4xd4xf4xj4xk4xl4xn4xq4xu4xv4xw4xy4x.4y04y24y34y44y54y64y74y84yB4yC4yI4yJ4yK4yL",
    "4yM4yS4yT4yX4yZ4ye4yf4yi4yj4yk4yn4yp4yr4yt4yv4yx4y.4y_4z04z14z24z44z54z74z84z94zA4zB4zC4zI",
    "4zK4zM4zX4zY4zc4ze4zg4zh4zj4zk4zn4zo4zr4zt4zu4zv4zw4zz4.04.14.24.54.64.74.A4.C4.E4.G4.I4.J",
    "4.L4.M4.O4.P4.Q4.S4.U4.V4.X4.Y4.a4.h4.j4.m4.n4.o4.p4.q4.s4.t4.u4.v4.w4.x4.y4.z4..4_04_14_2",
    "4_64_74_84_94_B4_C4_D4_I4_J4_K4_L4_M4_P4_R4_W4_Y4_a4_b4_d4_h4_i4_m4_o4_q4_r4_s4_t4_v4_x4_y",
    "4_z4__50050150250350450550650750850950A50B50E50G50H50J50L50M50N50R50T50U50W50Y50Z50a50d50h",
    "50l50m50n50o50p50q50r50s50t50u50v50x50z50_51051151251451551651951A51B51D51G51H51I51J51K51M",
    "51N51O51P51R51T51U51V51W51X51Y51Z51a51c51d51e51f51g51h51j51k51l51m51n51o51p51q51r51u51v51w",
    "51y51z52152252352452652752952A52B52C52E52F52G52H52I52J52K52L52M52N52O52P52Q52R52S52T52U52V",
    "52W52X52Y52a52c52g52h52j52k52l52m52n52p52q52r52s52t52u52v52y52z52.52_530531532533534535536",
    "53753853953A53B53C53D53E53G53H53I53J53K53L53N53O53P53R53S53T53U53V53W53X53Y53Z53a53b53e53f",
    "53g53h53l53m53n53o53q53s53t53u53v53w53y53z53.53_54054154254354454554854954A54C54D54E54F54G",
    "54H54J54K54L54M54N54O54P54Q54R54S54T54U54V54W54Y54Z54a54b54c54d54e54f54g54h54i54j54k54l54m",
    "54n54o54p54q54r54s54t54u54v54w54x54y54z54.55255755A55C55E55F55G55I55J55N55O55P55R55T55U55V",
    "55W55X55Z55a55c55d55f55g55l55o55w55.55_56356456656756A56B56E56F56G56H56J56K56O56Q56T56U56V",
    "56X56Z56c56d56e56f56g56j56k56q56u56v56w56.56_57157257357557857A57D57E57G57I57J57K57L57M57N",
    "57O57P57Q57S57U57V57Y57Z57b57c57d57e57f57g57i57k57n57o57q57t57.58458558958B58C58F58G58J58K",
    "58L58S58U58V58X58Y58Z58b58c58d58g58i58l58n58o58q58r58y58.59459559659759859959B59E59F59I59J",
    "59L59N59O59P59Q59R59T59V59W59Y59Z59a59c59e59h59i59j59k59m59n59p59q59r59s59t59u59v59w59x59y",
    "59.5A05A35A45A55A65A75A95AA5AB5AC5AD5AE5AF5AH5AI5AK5AL5AM5AN5AO5AP5AQ5AS5Aa5Ab5Ac5Ad5Ak5Al",
    "5Am5Aq5Ar5As5At5Au5Av5Aw5Ax5Ay5Az5B05B15B25B45B55B65B85BA5BC5BD5BE5BF5BH5BJ5BK5BL5BN5BP5BQ",
    "5BR5BS5BT5BU5BW5BX5BY5BZ5Bb5Bc5Bd5Be5Bf5Bg5Bh5Bi5Bj5Bk5Bl5Bn5Bo5Bp5Bq5Br5Bs5Bt5Bu5Bx5By5Bz",
    "5C15C25C35C45C75C95CA5CB5CC5CE5CH5CI5CJ5CK5CO5CR5CS5CU5CV5CY5Ca5Cb5Cd5Ce5Cf5Ch5Ci5Cj5Cl5Cm",
    "5Cn5Co5Cp5Cq5Cr5Cs5Ct5Cu5Cy5Cz5D05D25D45D65DB5DC5DD5DG5DK5DO5DP5DR5DT5Db5De5Dg5Di5Dj5Do5Ds",
    "5Dv5Dx5Dy5Dz5D.5E05E15E35E75E85EA5EE5EF5EG5EH5EI5EJ5EK5EM5EN5EP5ER5ES5EU5EW5EX5Ea5Ed5Eg5Eh",
    "5Ei5Ej5El5Em5En5Eo5Ep5Eq5Er5Et5Eu5Ev5Ew5Ey5Ez5E.5F05F35F45F55F65F75FE5FF5FG5FI5FJ5FL5FQ5FS",
    "5FT5FU5FX5FY5Fd5Fq5Fw5F.5F_5G05G25G55G75GB5GK5GO5GP5GQ5GS5GY5Ga5Gb5Gg5Gm5Gp5Gs5Gt5Gw5Gz5G_",
    "5H15H25H45H55H75H95HC5HD5HE5HF5HH5HQ5HT5HU5HV5HW5HX5HZ5Hb5Hd5Hf5Hg5Hh5Hi5Hj5Hk5Hl5Hm5Hq5Hv",
    "5Hw5H.5H_5I15I35I55I75I85I95IA5ID5IH5IJ5IN5IO5IS5IU5IV5IW5IX5IY5Ib5Ik5Im5Io5Ir5Is5It5Iv5Iw",
    "5Iy5I.5J35J55JA5JB5JM5JO5JR5JW5JX5JY5JZ5Ja5Jh5Ji5Jl5Jm5Jn5Jq5Jr5Js5Jt5Ju5Jv5Jx5J.5K05K25K3",
    "5K45K55K85KA5KB5KC5KD5KE5KI5KJ5KL5KM5KN5KO5KP5KQ5KS5KT5KU5KV5KX5Kb5Kc5Ke5Kf5Kh5Kj5Ko5Kq5Kr",
    "5Ks5Ku5Kv5Kw5Kx5Kz5L05L25L55L75L85LB5LC5LD5LE5LF5LH5LI5LJ5LK5LN5LO5LP5LQ5LR5LT5LU5LV5LW5LY",
    "5LZ5Le5Lf5Lh5Ll5Lm5Ln5Lo5Lp5Lq5Lv5Lw5Lz5L_5M55M65MC5MD5ME5MG5MI5MJ5ML5MM5MN5MQ5MR5MU5MW5MX",
    "5MY5MZ5Ma5Mb5Mc5Me5Mf5Mg5Mh5Mi5Mj5Mk5Ml5Mm5Mo5Mq5Ms5Mu5Mw5My5M_5N05N15N25N35N65N75N85NA5NB",
    "5NE5NF5NG5NL5NN5NO5NP5NQ5NR5NU5NW5NY5Nd5Nf5Nj5Nk5Nm5Nn5Nq5Ns5Nu5Nv5Nw5Nx5Ny5N_5O25O35O45O5",
    "5O65O75OA5OB5OD5OG5OH5OI5OJ5OK5OL5OM5ON5OP5OQ5OS5OT5OW5OX5OY5Ob5Oc5Oe5Of5Og5Oh5Ok5Ol5Om5Op",
    "5Or5Ot5Ou5Ow5Oy5Oz5O.5P05P15P25P35P45P55P65P75P85P95PA5PB5PF5PG5PH5PI5PJ5PL5PM5PQ5PR5PT5PU",
    "5PV5PW5PX5PZ5Pb5Pc5Pd5Pj5Pk5Pl5Pm5Po5Pp5Pq5Pr5Pt5Pu5Pv5Pw5Pz5P.5P_5Q05Q15Q25Q35Q45Q75Q85Q9",
    "5QA5QB5QC5QD5QG5QH5QI5QK5QL5QM5QN5QO5QP5QQ5QR5QS5QT5QU5QV5QW5QX5QY5Qa5Qb5Qc5Qd5Qe5Qf5Qg5Qh",
    "5Qi5Qj5Qk5Qm5Qn5Qo5Qp5Qq5Qr5Qs5Qu5Qv5Qw5Qx5Qz5Q.5Q_5R05R15R25R35R45R55R65R75R85R95RB5RC5RD",
    "5RE5RF5RG5RH5RI5RJ5RL5RM5RO5RP5RS5RZ5Rb5Rc5Rd5Re5Rf5Rg5Ri5Rk5Rl5Ro5Rp5Rs5Rt5Ru5Rx5Ry5S05S1",
    "5S25S55S75SB5SC5SD5SE5SF5SG5SH5SI5SJ5SK5SL5SM5SN5SO5SP5SQ5SR5ST5SU5SW5SX5SY5Sa5Sb5Sc5Sd5Sh",
    "5Sn5So5Sq5Sr5Ss5St5Su5Sy5Sz5S_5T15T35T45T55T65T85T95TB5TI5TJ5TK5TL5TM5TO5TP5TY5TZ5Tb5Td5Ti",
    "5Tk5Tm5Tn5To5Tq5Tr5Tu5Tv5Tw5Tz5T.5T_5U05U15U75U85U95UA5UD5UE5UF5UG5UH5UK5UL5UM5UN5UO5UP5UQ",
    "5US5UT5UU5UV5Ub5Ue5Ug5Ui5Ul5Um5Un5Up5Ur5Us5Ut5Uv5Uw5Ux5Uy5Uz5U.5U_5V05V15V45V55V65V75V85V9",
    "5VA5VC5VD5VG5VH5VJ5VM5VN5VR5VS5VU5VX5VY5VZ5Vb5Vc5Vd5Ve5Vf5Vg5Vh5Vi5Vk5Vm5Vn5Vo5Vp5Vr5Vs5Vt",
    "5Vx5Vy5V.5V_5W15W35W45W55W85W95WA5WC5WE5WF5WG5WI5WJ5WK5WM5WN5WO5WQ5WR5WS5WT5WV5WY5WZ5Wb5Wc",
    "5Wd5We5Wf5Wh5Wi5Wj5Wk5Wl5Wn5Wo5Wp5Wq5Ws5Wt5Wu5Wv5Ww5Wx5Wy5Wz5W.5W_5X05X15X25X35X55X65X75X8",
    "5X95XA5XB5XE5XF5XG5XI5XJ5XL5XM5XN5XP5XQ5XR5XS5XT5XV5XW5XX5XY5XZ5Xa5Xc5Xd5Xe5Xf5Xg5Xj5Xk5Xl",
    "5Xm5Xn5Xo5Xp5Xq5Xr5Xs5Xt5Xu5Xv5Xw5Xx5Xy5Xz5X_5Y25Y45Y65Y75Y85YA5YB5YC5YD5YE5YF5YG5YH5YK5YL",
    "5YM5YN5YO5YR5YS5YT5YW5YX5YY5YZ5Ya5Yb5Yc5Yd5Yg5Yh5Yi5Yj5Yk5Yl5Ym5Yn5Yo5Yp5Yq5Yr5Ys5Yt5Yu5Yv",
    "5Yw5Yx5Yz5Y.5Y_5Z05Z25Z35Z45Z65Z75Z85Z95ZA5ZB5ZC5ZD5ZE5ZF5ZG5ZI5ZJ5ZK5ZM5ZN5ZO5ZP5ZQ5ZR5ZS",
    "5ZT5ZU5ZV5ZW5ZX5ZY5ZZ5Zb5Zc5Zd5Ze5Zf5Zg5Zj5Zl5Zn5Zo5Zq5Zr5Zt5Zu5Zw5Zx5Zy5Zz5Z.5Z_5a05a15a3",
    "5a55a65a85a95aA5aB5aC5aE5aG5aH5aI5aJ5aN5aO5aR5aT5aU5aW5aX5aY5aZ5ac5ae5ai5am5ao5ap5ar5as5ax",
    "5az5a.5a_5b05b35b55b65bA5bC5bD5bG5bI5bJ5bP5bR5bS5bT5bU5bV5bX5bZ5ba5bc5bd5be5bf5bg5bh5bi5bj",
    "5bk5bl5bm5bn5bo5br5bt5bw5bx5by5b.5b_5c05c55c95cB5cC5cE5cF5cG5cH5cK5cL5cO5cQ5cR5cS5cT5cV5cW",
    "5cX5cY5cc5cd5ci5cj5cm5cn5cp5cq5cr5cs5ct5cu5cw5cy5cz5c_5d05d15d25d35d45d55d75d85d95dC5dD5dE",
    "5dF5dL5dM5dP5dR5dU5dV5dW5dX5dY5da5dc5dd5df5dg5dh5dj5dk5dl5dm5dn5do5dp5dq5dr5ds5dt5du5dw5dy",
    "5dz5d.5e05e25eA5eB5eD5eE5eF5eG5eI5eK5eL5eM5eN5eP5eQ5eR5eT5eU5eX5eY5ea5ec5ed5ee5eg5eh5ei5ej",
    "5ek5el5em5ep5er5et5eu5ev5ew5ex5ez5e.5e_5f15f25f35f45f55f75f85fB5fC5fD5fE5fF5fG5fH5fI5fJ5fK",
    "5fM5fN5fO5fP5fR5fS5fT5fU5fV5fW5fX5fZ5fa5fb5fc5fe5ff5fh5fi5fj5fk5fl5fm5fn5fo5fp5fu5fv5fx5fy",
    "5fz5f.5g05g15g25g35g45g55g65g75g85g95gA5gB5gC5gD5gE5gF5gG5gH5gJ5gK5gL5gM5gN5gO5gP5gS5gT5gU",
    "5gV5gW5gX5gY5gZ5ga5gb5gc5gd5ge5gf5gh5gi5gj5gk5gl5gm5gn5gq5gs5gt5gv5gw5gx5gy5gz5g_5h05h35h4",
    "5h55h65h75h85hA5hB5hD5hE5hF5hG5hH5hJ5hL5hN5hP5hQ5hR5hT5hU5hV5hY5ha5hb5hd5he5hg5hi5hj5hk5hl",
    "5hm5ho5hp5hq5hr5hs5ht5hu5hv5hw5hx5hy5hz5h.5h_5i05i15i25i35i45i55i65i75i85iA5iB5iC5iD5iE5iF",
    "5iG5iH5iI5iJ5iK5iL5iO5iP5iQ5iR5iS5iT5iU5iV5iW5iX5iY5iZ5ia5ib5ic5id5ie5if5ig5ih5ii5ij5ik5il",
    "5im5in5ip5ir5is5iu5iv5iw5ix5iy5iz5i.5i_5j15j25j35j45j55j65j75j85j95jA5jB5jC5jD5jE5jF5jI5jM",
    "5jU5jW5jX5jd5je5jh5jj5jk5jl5jo5jq5js5jt5ju5jv5jx5jy5j.5j_5k25k65kA5kD5kE5kG5kH5kI5kK5kM5kV",
    "5kd5ke5kf5ki5kj5kk5kl5kn5ko5kt5kw5kx5ky5l05l15l35l85l95lA5lB5lD5lE5lF5lH5lK5lL5lM5lN5lO5lP",
    "5lQ5lR5lS5lW5lY5lZ5lc5ld5lf5lg5lh5li5lj5ll5ln5lo5lp5lq5lr5ls5lt5lz5l.5m05m25m35m55m75m85mB",
    "5mC5mD5mE5mG5mI5mJ5mN5mP5mR5mU5mV5mW5mX5mZ5mc5me5mf5mg5mh5mj5mk5ml5mm5mo5mp5mr5ms5mt5n35n4",
    "5n65n75nC5nD5nI5nJ5nK5nM5nN5nO5nQ5nR5nS5nT5nV5nY5na5nd5ne5nf5ng5nh5ni5nj5nm5no5np5nq5nr5ns",
    "5nt5nu5nx5ny5nz5n.5o05o35o45o55o65o75o95oA5oB5oE5oF5oI5oJ5oL5oT5oU5oV5oW5oX5oa5ob5oc5od5oe",
    "5og5ok5ol5om5oo5oq5os5ov5ow5ox5oy5o.5p05p25p35p55p65p75p85p95pA5pC5pD5pE5pF5pG5pH5pJ5pK5pL",
    "5pM5pN5pO5pQ5pR5pS5pT5pU5pV5pW5pY5pZ5pd5pf5ph5pi5pk5pl5pn5po5pp5pq5pr5ps5pt5pu5pv5pw5py5pz",
    "5p.5p_5q05q15q45q55q85q95qA5qB5qC5qD5qF5qG5qH5qI5qJ5qL5qN5qO5qP5qQ5qS5qT5qV5qW5qX5qY5qZ5qb",
    "5qe5qg5qh5qi5ql5qm5qn5qo5qp5qr5qs5qt5qu5qv5qw5qx5qy5q_5r05r15r25r35r45r55r65r85r95rD5rE5rF",
    "5rG5rH5rI5rJ5rK5rL5rM5rN5rP5rQ5rS5rU5rV5rW5rX5rY5rZ5ra5rb5rc5rd5re5rg5rj5rk5rm5rn5ro5rp5rr",
    "5rs5rt5ru5rv5rw5rx5ry5rz5r.5r_5s05s15s35s45s55s65s75s85s95sA5sB5sC5sD5sE5sF5sG5sH5sI5sJ5sK",
    "5sL5sM5sN5sO5sQ5sR5sS5sU5sV5sW5sX5sY5sZ5sa5sb5sc5sd5se5sf5sg5sh5si5sj5sk5sl5sm5sn5so5sp5sq",
    "5sr5ss5su5sv5sw5sx5sy5sz5s.5s_5t05t15t25t35t45t65t75t85t95tA5tB5tC5tE5tF5tG5tH5tI5tJ5tK5tL",
    "5tM5tN5tO5tP5tQ5tS5tV5tW5tZ5ta5tg5ti5tj5tm5tr5ts5tu5tv5tw5tx5ty5t_5u05u45u75u95uA5uB5uD5uE",
    "5uI5uJ5uN5uU5uV5uW5uX5uY5uZ5ua5ub5ue5uf5ug5uh5ui5ul5um5uo5up5uq5ur5us5uv5uw5u.5u_5v05v15v3",
    "5v65v75v85v95vA5vB5vD5vE5vF5vG5vH5vI5vJ5vM5vN5vO5vP5vQ5vS5vT5vV5vW5vZ5va5vb5vc5vd5ve5vf5vg",
    "5vh5vi5vj5vk5vl5vm5vn5vr5vt5vv5v.5w15w25w35w55w85w95wC5wD5wE5wI5wO5wR5wT5wX5wY5wZ5wa5we5wf",
    "5wg5wh5wi5wk5wl5wm5wn5wo5wq5ww5wx5wy5wz5w_5x05x15x25x35x45x55x65x75x85xB5xC5xD5xE5xF5xG5xK",
    "5xL5xN5xO5xP5xQ5xS5xT5xU5xV5xW5xX5xY5xZ5xa5xb5xc5xd5xf5xh5xi5xj5xk5xl5xm5xn5xo5xp5xr5xu5xv",
    "5xx5xy5xz5y55y65y75y95yC5yD5yE5yG5yI5yK5yM5yP5yQ5yS5yT5yU5yX5yY5yZ5ya5ye5yh5yi5yk5ym5yo5yp",
    "5yq5yr5ys5yt5yu5yx5yz5y.5y_5z15z25z35z45z55z65z75z85z95zA5zB5zC5zD5zE5zF5zH5zK5zP5zQ5zR5zS",
    "5zU5zV5zW5zZ5zb5zd5ze5zh5zk5zl5zo5zq5zr5zs5zu5zw5zz5z.5z_5.35.65.D5.E5.F5.H5.J5.K5.M5.Q5.R",
    "5.T5.U5.V5.W5.Y5.Z5.a5.b5.c5.d5.f5.h5.i5.l5.m5.n5.o5.p5.q5.s5.u5.v5.w5.x5..5._5_05_15_25_7",
    "5_85_A5_B5_E5_J5_K5_L5_Q5_R5_S5_U5_V5_Y5_Z5_b5_c5_e5_f5_i5_l5_m5_o5_p5_q5_s5_t5_v5_w5_y607",
    "60860960B60C60G60H60J60N60O60Q60U60V60Y60Z60a60i60j60k60m60n60o60p60q60s60t60u60v60w60z60.",
    "61061461561661761861961A61C61E61F61H61J61K61M61N61O61R61S61U61V61W61X61b61c61k61n61o61q61r",
    "61t61.62062162262562662762862A62B62E62F62G62H62J62L62N62O62P62S62U62X62Y62a62b62d62f62g62k",
    "62m62p62r62s62t62v62w62z62.62_63063163263363463763863963C63D63E63F63G63I63J63K63M63N63P63R",
    "63U63X63Y63Z63a63b63g63n63o63r63t63u63x63y63z63.63_64264364464564764A64B64C64G64H64I64J64K",
    "64M64N64O64P64R64S64T64U64X64Y64b64e64f64g64i64j64k64l64m64n64o64p64q64r64s64t64u64v64w64x",
    "64y64z64.65065165265365465565665765965B65D65F65G65I65J65K65M65N65O65P65Q65R65S65U65V65W65X",
    "65Z65a65b65c65f65g65h65i65j65k65l65n65o65p65q65s65u65v65w65x65y65z65.65_660661662663664665",
    "66666766866966A66C66D66F66G66H66I66J66L66M66N66O66P66Q66R66S66U66V66W66X66Y66Z66a66b66c66g",
    "66h66j66k66l66m66n66o66p66q66r66s66u66v66w66x66y66z66_67067167367467567667767967C67D67E67F",
    "67G67J67L67M67N67O67P67Q67R67S67T67U67V67W67X67Y67Z67a67b67d67e67f67g67h67i67j67k67l67m67n",
    "67o67p67q67s67t67u67v67w67x67y67z67.68068168268368468568768968J68K68P68S68T68U68W68Z68c68d",
    "68e68f68h68j68l68m68n68o68r68s68u68v68w68x68y69269469569669A69F69G69L69M69N69P69Q69S69T69U",
    "69V69W69X69Y69a69b69e69n69o69q69r69t69u69w69x69z6A16A26A36A56A66A76A86AB6AC6AD6AE6AF6AG6AK",
    "6AP6AS6AT6AU6AZ6Ac6Ad6Af6Ag6Aj6Ak6Al6Am6Ao6Ap6Aq6As6At6Au6Aw6A.6B06B16B36BB6BF6BH6BL6BT6BU",
    "6BW6BX6Ba6Bg6Bh6Bm6Bo6Br6Bu6Bv6Bw6Bx6C06C36C46C56C66CA6CB6CC6CD6CF6CG6CI6CJ6CK6CL6CN6CO6CP",
    "6CS6Cc6Cd6Cf6Ci6Cj6Ck6Cm6Cn6Cp6Cq6Cr6Cs6Ct6Cu6Cx6Cy6C.6C_6D06D16D46D76D86DA6DH6DI6DJ6DK6DM",
    "6DN6DO6DP6DQ6DR6DS6DT6DW6Da6Db6Dc6De6Dg6Dh6Di6Dl6Dm6Do6Dp6Dq6Dr6Du6Dv6Dy6Dz6D.6D_6E16E36E4",
    "6E56E66EB6ED6EH6EJ6EK6EL6EN6EP6EQ6ER6ES6ET6EU6EV6EX6Ea6Ec6Eh6El6En6Eo6Er6Es6Ev6Ex6Ez6E_6F0",
    "6F16F26F36F56F76F86FA6FB6FC6FH6FJ6FK6FL6FN6FO6FP6FQ6FR6FS6FT6FV6FY6Fa6Fb6Fc6Fd6Fe6Fh6Fi6Fk",
    "6Fl6Fm6Fn6Fp6Fr6Ft6Fv6Fw6Fx6Fy6F.6G36G46G66G76G86G96GA6GD6GE6GH6GI6GL6GM6GN6GO6GP6GQ6GT6GV",
    "6GY6GZ6Ga6Gb6Gd6Ge6Gf6Gh6Gk6Gl6Gm6Gn6Go6Gp6Gr6Gs6Gt6Gu6Gv6Gx6Gy6G.6H06H26H36H96HB6HC6HD6HE",
    "6HF6HG6HH6HJ6HL6HM6HN6HP6HQ6HR6HS6HT6HV6HW6HX6HY6HZ6Ha6Hb6Hc6He6Hg6Hh6Hi6Hk6Hl6Hm6Hn6Ho6Hp",
    "6Hq6Hr6Hs6Ht6Hx6Hy6Hz6H.6H_6I06I16I36I66I86I96IA6IB6IC6ID6IE6IF6IG6IJ6IK6IN6IO6IQ6IR6IS6IT",
    "6IV6IW6IX6IY6IZ6Ib6Ic6Id6Ie6Ig6Ih6Il6In6Io6Ip6Iq6Is6Iv6Ix6Iz6I.6I_6J16J36J46J66J76J86J96JA",
    "6JB6JC6JF6JH6JJ6JK6JL6JM6JP6JQ6JR6JS6JT6JV6JW6JX6JZ6Jb6Jd6Je6Jf6Jg6Jh6Ji6Jj6Jk6Jl6Jm6Jn6Jo",
    "6Jp6Jq6Jr6Js6Jt6Ju6Jv6Jw6Jx6Jy6Jz6J.6J_6K16K26K36K46K56K66K76K86KA6KB6KC6KD6KE6KF6KG6KH6KJ",
    "6KK6KL6KM6KN6KP6KQ6KR6KS6KT6KU6KV6KW6KX6KY6KZ6Ka6Kc6Kd6Ke6Kf6Kg6Ki6Kj6Km6Kn6Ko6Kp6Kt6Kw6Ky",
    "6Kz6L06L16L26L36L46L66L76LA6LB6LD6LE6LG6LI6LJ6LK6LN6LO6LQ6LS6LV6LW6LX6La6Lb6Ld6Le6Lf6Lg6Lj",
    "6Lk6Ll6Ln6Lp6Lr6Ls6Lu6Lv6Lw6Lx6Ly6Lz6L.6L_6M06M16M26M36M46M56M66M86M96MA6MD6ME6MF6MI6MK6ML",
    "6MM6MO6MQ6MT6MU6MW6MY6MZ6Mc6Me6Mg6Mi6Mk6Mn6Mo6Mp6Mq6Mr6Ms6Mt6Mu6Mw6Mx6M.6M_6N06N26N76N86N9",
    "6NA6ND6NG6NH6NJ6NK6NL6NO6NP6NQ6NR6NS6NT6NU6NV6NX6NZ6Na6Ng6Nh6No6Np6Nq6Nr6Nu6Nv6Nx6Ny6Nz6N.",
    "6N_6O16O46O56O76O86O96OB6OD6OG6OH6OI6OM6ON6OO6OQ6OR6OS6OU6OX6OY6OZ6Oa6Oc6Of6Og6Oh6Oi6Ok6Om",
    "6Oo6Op6Ot6Ou6Ov6Ow6Ox6Oz6O_6P06P26P46P56P66P76P86P96PA6PD6PE6PG6PH6PO6PP6PR6PS6PT6PU6PW6PY",
    "6PZ6Pb6Pd6Pf6Pg6Ph6Pi6Pj6Pn6Po6Pp6Pr6Pu6Pv6Px6Py6Pz6P_6Q06Q16Q36Q56Q66Q86Q96QA6QB6QD6QE6QF",
    "6QG6QI6QJ6QK6QL6QO6QP6QQ6QR6QS6QU6QV6QW6QX6QY6QZ6Qa6Qb6Qc6Qf6Qg6Qh6Qi6Qj6Ql6Qm6Qn6Qo6Qp6Qr",
    "6Qs6Qt6Qu6Qw6Qx6Qy6Qz6Q_6R06R16R26R36R46R56R66R76R86R96RA6RB6RC6RD6RE6RF6RG6RH6RI6RJ6RK6RL",
    "6RM6RN6RO6RQ6RU6RV6RW6RX6RY6RZ6Ra6Rb6Rd6Re6Rg6Rh6Ri6Rj6Rk6Rl6Rn6Rr6Rs6Ru6Rw6Rx6Rz6S16S26S3",
    "6S46S56S66S76SC6SE6SF6SH6SI6SJ6SM6SO6SP6SQ6SS6SU6SW6SX6SY6SZ6Sa6Sb6Sd6Sf6Sk6Sm6So6Sp6Ss6St",
    "6Su6Sv6Sx6Sy6S.6S_6T16T46T56T76TA6TB6TD6TI6TK6TL6TN6TO6TP6TQ6TR6TT6TY6TZ6Ta6Tc6Td6Th6Ti6Tk",
    "6Tn6Tq6Ts6Tu6Tv6Tw6Tx6Tz6U06U26U36U56U66U86UA6UC6UD6UE6UF6UH6UI6UJ6UK6UM6UP6UR6UV6UW6UX6Ua",
    "6Uc6Uf6Ui6Uk6Un6Uo6Uq6Uv6Uw6Ux6Uy6Uz6U.6U_6V06V26V56V66V76V86V96VA6VB6VC6VD6VE6VL6VM6VN6VR",
    "6VV6VX6VZ6Va6Vc6Vd6Ve6Vg6Vh6Vj6Vk6Vo6Vr6Vs6Vt6Vu6Vv6Vw6Vx6Vy6V.6W16W26W36W46W66WD6WG6WI6WK",
    "6WL6WO6WP6WQ6WR6WS6WU6WV6WW6WY6WZ6Wa6Wb6Wc6Wd6We6Wh6Wi6Wj6Wk6Wl6Wm6Wn6Wq6Wr6Ws6Ww6Wx6W_6X7",
    "6XB6XD6XF6XI6XM6XN6XO6XP6XQ6XR6XS6XT6XU6XV6Xg6Xi6Xj6Xk6Xl6Xm6Xn6Xo6Xp6Xr6Xu6Xv6Xw6Xx6Xy6Xz",
    "6X.6X_6Y06Y26Y46Y76Y86Y96YA6YB6YC6YD6YE6YG6YH6YI6YK6YL6YM6YO6YP6YQ6YR6YS6YT6YU6YV6YW6YX6YZ",
    "6Ya6Yb6Yf6Yg6Yh6Yi6Yk6Yn6Yo6Yq6Ys6Yt6Yu6Yv6Yw6Yx6Yy6Yz6Y.6Y_6Z16Z36Z46Z56Z66Z76Z86ZA6ZC6ZE",
    "6ZF6ZG6ZH6ZJ6ZK6ZM6ZN6ZP6ZR6ZS6ZT6ZU6ZV6ZX6ZY6Za6Zb6Zc6Zd6Ze6Zf6Zg6Zh6Zi6Zj6Zl6Zo6Zp6Zq6Zs",
    "6Zt6Zu6Zx6Zz6Z.6Z_6a06a26a36a46a66a76a86a96aA6aC6aF6aH6aJ6aK6aL6aM6aN6aO6aP6aQ6aR6aS6aT6aU",
    "6aX6aY6aZ6ab6ac6ad6ae6af6ag6ah6ai6ak6al6an6ao6ap6ar6as6at6au6aw6ax6ay6a.6b06b16b36b46b56b6",
    "6b76b86b96bA6bB6bC6bD6bE6bF6bG6bH6bI6bJ6bL6bM6bO6bP6bR6bS6bV6bX6bY6ba6bb6bd6be6bf6bg6bi6bj",
    "6bl6bm6bo6bp6bq6br6bs6bw6bx6bz6b.6b_6c16c36c56cA6cB6cC6cE6cF6cG6cH6cI6cJ6cM6cN6cP6cQ6cT6cU",
    "6cV6cW6cX6cY6cZ6ca6cb6cc6cf6cg6ci6ck6cl6cm6co6cp6cr6cs6cu6cv6cw6cy6cz6c.6c_6d06d26d36d46d5",
    "6d66d76d86d96dB6dD6dF6dH6dI6dJ6dL6dM6dN6dO6dP6dQ6dS6dT6dU6dX6dY6dZ6da6db6dc6dd6de6df6dg6dh",
    "6di6dk6dl6dm6dn6dp6dq6dr6ds6dt6du6dv6dw6dx6dy6d.6e06e16e26e36e46e56e66e76e86e96eB6eC6eD6eE",
    "6eF6eG6eH6eI6eJ6eK6eL6eM6eP6eQ6eR6eS6eT6eU6eW6eY6eZ6ea6eb6ec6ed6ef6eh6ei6ej6ek6em6eo6ep6eq",
    "6es6et6eu6ev6ew6ex6ey6e_6f06f16f26f36f56f66f86f96fA6fB6fC6fD6fE6fF6fH6fI6fJ6fK6fL6fM6fN6fQ",
    "6fS6fT6fU6fV6fW6fY6fZ6fa6fc6fd6fe6ff6fg6fh6fi6fj6fk6fl6fm6fo6fp6fq6fr6fs6ft6fu6fw6fx6fz6f.",
    "6f_6g16g26g36g56g66g76g86g96gA6gB6gC6gD6gF6gI6gJ6gK6gL6gM6gO6gP6gQ6gR6gS6gT6gU6gV6gX6gY6gZ",
    "6ga6gb6gc6gd6ge6gg6gj6gk6gl6gm6gn6go6gp6gq6gr6gs6gt6gu6gv6gw6gx6gy6gz6g.6g_6h06h16h26h36h4",
    "6h56h66h76h86h96hA6hB6hC6hD6hE6hF6hG6hH6hI6hJ6hK6hL6hM6hN6hO6hP6hQ6hR6hS6hT6hU6hV6hW6hX6hY",
    "6hZ6ha6hb6hc6hd6he6hf6hg6hh6hi6hj6hk6hl6hm6hn6ho6hp6hq6hr6hs6ht6hu6hv6hw6hx6hy6hz6h.6h_6i0",
    "6i16i26i36i46i56i66i76i86i96iA6iB6iC6iD6iE6iF6iG6iH6iI6iJ6iK6iL6iM6iN6iO6iP6iQ6iR6iS6iT6iU",
    "6iV6ib6ic6ie6if6ig6ih6ii6ij6ik6il6im6in6ip6iq6ir6is6iu6ix6iy6iz6i_6j06j16j26j46j56j86jA6jB",
    "6jD6jE6jF6jG6jH6jI6jJ6jK6jL6jM6jN6jO6jQ6jR6jS6jT6jU6jV6jW6jX6je6jf6jh6ji6jj6jk6jl6jm6jn6jo",
    "6jp6jq6jr6js6jt6ju6jw6jz6j.6j_6k06k56k86kC6kE6kF6kG6kH6kK6kL6kN6kO6kP6kS6kT6kU6kV6kW6kY6kZ",
    "6ka6kb6kc6kd6ke6kf6kh6ki6kj6kk6kl6km6kn6ko6ks6ku6kv6kw6kx6ky6kz6k.6l06l36l46l66l76l86l96lA",
    "6lC6lE6lG6lH6lO6lQ6lS6lT6lU6lV6lW6lY6lZ6la6lb6lc6ld6le6lf6li6lj6lk6lm6ln6lo6lq6ls6lt6lu6lw",
    "6lx6ly6l.6l_6m06m16m26m36m46m86m96mA6mB6mC6mE6mI6mN6mS6mT6mU6mW6mZ6mb6mh6mi6mj6mn6mp6ms6mt",
    "6mv6mw6mx6my6m.6m_6n36n46n56n86nB6nC6nD6nE6nF6nH6nI6nJ6nM6nO6nP6nQ6nY6nZ6nb6nc6nd6nh6ni6nj",
    "6nk6nl6nn6np6nr6nt6nu6nw6nx6ny6n_6o06o46o76oA6oB6oD6oE6oH6oI6oL6oM6oN6oO6oQ6oS6oT6oU6oW6oY",
    "6oe6oi6ol6om6oq6or6os6ot6ow6p06p16p26p36p66p76p86pB6pD6pE6pF6pH6pI6pO6pP6pQ6pS6pT6pV6pa6pc",
    "6pd6pf6pi6pj6po6pq6pv6p_6q06q26q36q56q66q86q96qA6qD6qF6qG6qH6qJ6qK6qL6qM6qO6qS6qT6qV6qW6qX",
    "6qY6qZ6qa6qc6qe6qf6qi6qj6ql6qm6qq6qs6qt6qu6qw6q_6r06r26r46r96rC6rG6rL6rM6rN6rO6rR6rT6rV6rX",
    "6rY6ra6rb6rd6re6rh6ri6rj6rm6rn6ro6rp6rr6rs6rv6rw6rx6rz6r.6r_6s06s16s36s46s66s76sA6sB6sD6sF",
    "6sG6sI6sM6sN6sO6sP6sQ6sS6sY6sb6si6sj6sm6sn6sp6sq6ss6st6sv6sw6sx6sy6sz6s.6t16t26t36t86t96tA",
    "6tD6tE6tF6tG6tI6tJ6tK6tL6tN6tQ6tR6tS6tV6tY6tZ6tb6td6te6tf6tg6tj6tl6tm6to6tq6tr6ts6tu6tw6tz",
    "6t.6t_6u06u16u26u36u46u66u76u86u96uB6uF6uI6uJ6uL6uO6uP6uR6uS6uU6uV6uY6uc6ud6ue6ug6ui6uk6um",
    "6un6up6ur6us6ut6uv6ux6uy6uz6u.6u_6v06v16v26v56v66v76v86v96vA6vB6vC6vF6vG6vH6vI6vL6vN6vP6vQ",
    "6vS6vT6vU6vW6vX6vY6vZ6va6vb6vc6vd6ve6vf6vg6vi6vj6vl6vm6vn6vo6vp6vq6vr6vs6vt6vu6vv6vw6vx6vy",
    "6vz6w06w16w26w46w76w86wA6wB6wC6wD6wE6wH6wI6wJ6wK6wL6wM6wN6wP6wQ6wR6wT6wU6wW6wX6wZ6wa6wc6we",
    "6wf6wh6wi6wj6wk6wm6wp6wr6wu6wv6wy6w.6w_6x06x36x46x56x66x86x96xA6xC6xD6xE6xG6xI6xM6xO6xP6xR",
    "6xS6xT6xZ6xd6xg6xh6xi6xj6xk6xl6xm6xn6xo6xp6xr6xs6xt6xu6xw6xx6xy6xz6x.6x_6y06y16y36y46y56y7",
    "6y86yA6yB6yC6yD6yE6yG6yH6yI6yM6yN6yO6yP6yQ6yR6yS6yT6yU6yV6yX6yY6yZ6yb6yc6yd6ye6yi6yk6ym6yo",
    "6yq6yr6yt6yu6yv6yw6yx6yy6yz6y_6z06z16z26z36z46z56z86z96zA6zC6zE6zF6zG6zH6zI6zJ6zK6zL6zM6zN",
    "6zP6zQ6zR6zT6zV6zW6zX6zZ6za6zb6zd6ze6zf6zg6zh6zi6zl6zm6zn6zp6zr6zs6zt6zv6zx6zz6z.6z_6.06.1",
    "6.26.36.56.66.76.A6.B6.F6.G6.H6.I6.J6.K6.L6.M6.N6.O6.P6.Q6.R6.T6.U6.V6.W6.Y6.Z6.a6.b6.c6.e",
    "6.f6.g6.h6.i6.j6.k6.l6.m6.n6.o6.q6.r6.t6.u6.w6.x6.y6.z6..6._6_16_36_46_56_66_76_86_A6_B6_C",
    "6_D6_E6_F6_G6_J6_K6_L6_M6_N6_O6_P6_Q6_R6_S6_T6_V6_Y6_Z6_a6_b6_c6_d6_e6_f6_g6_h6_i6_j6_m6_n",
    "6_o6_p6_q6_r6_s6_t6_u6_v6_w6_x6_y6_z6_.6__70070170270370470570670770870970A70B70C70D70E70F",
    "70G70I70J70K70L70M70N70O70P70S70T70U70V70W70X70Y70a70b70c70d70e70f70g70h70i70j70k70l70m70n",
    "70o70p70q70s70t70u70w70x70y70z70.70_71071171271371471571671771871971A71B71D71E71G71H71I71J",
    "71K71L71M71N71O71P71Q71R71S71T71V71W71X71Y71Z71a71b71c71d71e71f71g71k71n71o71p71q71t71v71w",
    "71x71z72172272372472672772872B72C72D72F72G72H72J72N72O72Q72R72U72V72W72X72Y72Z72a72b72c72d",
    "72e72f72g72m72o72q72r72s72w72.72_73473573673773973B73C73D73E73F73G73H73I73J73K73L73M73N73Q",
    "73S73T73U73W73X73Y73Z73b73g73k73m73n73o73p73q73r73s73u73w73x73y73.73_740741742743744745746",
    "74774874B74C74D74E74F74H74I74K74N74R74S74T74U74V74W74X74Y74Z74a74b74d74e74f74g74h74i74j74k",
    "74o74p74q74r74t74u74v74w74x74y74z74.74_75075175275375475675775875975B75D75F75G75H75I75J75K",
    "75L75M75N75O75P75Q75R75T75V75W75X75Y75Z75b75f75g75h75i75j75l75m75n75q75r75s75t75v75x75y75.",
    "75_76076176276376576676776876976B76C76D76E76G76H76I76J76L76M76N76Q76R76S76T76U76X76Y76Z76a",
    "76b76c76d76f76g76h76j76k76l76m76n76o76q76s76t76u76w76x76y76z76.76_770771772774775776777778",
    "77977A77B77C77D77F77G77H77I77J77M77N77O77P77Q77R77S77T77U77V77X77Y77Z77a77c77e77f77g77h77i",
    "77j77l77m77n77o77p77q77r77s77t77u77w77x77y77z77.77_78078178278378478578778878978A78B78C78D",
    "78E78F78G78H78I78J78K78L78M78N78O78P78Q78R78S78U78V78W78X78Y78Z78a78b78c78d78f78h78j78k78l",
    "78o78p78q78w78y78.79079179279379479579679979A79B79E79F79G79H79J79K79L79N79O79Q79S79U79W79Z",
    "79a79b79e79g79h79i79j79m79n79p79q79s79t79u79x79y79z7A27A37A57A67A77A87A97AC7AE7AG7AH7AJ7AK",
    "7AL7AM7AN7AO7AP7AQ7AR7AS7AT7AU7AW7AX7AY7AZ7Aa7Ab7Ac7Ad7Ae7Af7Ag7Ah7Ak7An7Ao7Ap7Ar7Aw7Ax7Ay",
    "7Az7A.7A_7B07B57B67B77B97BA7BB7BC7BF7BH7BJ7BK7BL7BM7BO7BQ7BREJ6EJ7EJ8EJ9EJAEJBEJCEJDEJEEJF",
    "EJGEJHEJIEJJEJKEJLEJMEJNEJOEJPEJQEJREJSEJTEJUEJVEJWEJXEJYEJZEJaEJbEJcEJdEJeEJfEJgEJhEJiEJj",
    "EJkEJlEJmEJnEJoEJpEJqEJrEJsEJtEJuEJvEJwEJxEJyEJzEJ.EJ_EK0EK1EK2EK3EK4EK5EK6EK7EK8EK9EKAEKB",
    "EKCEKDEKEEKFEKGEKHEKIEKJEKKEKLEKMEKNEKOEKPEKQEKREKSEKTEKUEKVEKWEKXEKYEKZEKaEKb30030130202t",
    "0B90B702e30330520KFzU20M20c20O20P20S20T30K30L30830930A30B30C30D30E30F30M30N30G30H02n03N03t",
    "28s28d28e28H28F28g28f28828t28Q2Ab28b28W2CI2AP28h28k29X29C29828z28T29W29k29l29a29b28U28r28q",
    "2P22P002m20o20p243Fy402aF_WF_X20m02d24M2O62O52NB2NF2NE2N72N62MX2MW2Mp2Mo20x26I26G26H26J30J",
    "EKcEKdEKeEKfEKgEKhEKiEKjEKkEKlEKmEKnEKoEKpEKqEKrEKsEKtEKuEKvEKwEKxEKyEKzEK.EK_EL0EL1EL2EL3",
    "EL4EL5EL6EL7EL8EL9ELAELBELCELDELEELFELGELHELIELJELKELLELMELNELOELPELQELRELSELTELUELVELWELX",
    "ELYELZELaELbELcELdELeELfELgELhELiELjELkELlELmELnELoELpELqELrELsELtELuELvELwELxELyELzEL.EL_",
    "EM0EM1EM2EM3EM4EM525m25n25o25p25q25r25s25t25u25vETcETdETeETfETgETh2I82I92IA2IB2IC2ID2IE2IF",
    "2IG2IH2II2IJ2IK2IL2IM2IN2IO2IP2IQ2IR2Hq2Hr2Hs2Ht2Hu2Hv2Hw2Hx2Hy2Hz2H.2H_2I02I12I22I32I42I5",
    "2I62I72HW2HX2HY2HZ2Ha2Hb2Hc2Hd2He2Hf22iETj38W38X38Y38Z38a38b38c38d38e38fETkETl25W25X25Y25Z",
    "25a25b25c25d25e25f25g25hETmETnEM6EM7EM8EM9EMAEMBEMCEMDEMEEMFEMGEMHEMIEMJEMKEMLEMMEMNEMOEMP",
    "EMQEMREMSEMTEMUEMVEMWEMXEMYEMZEMaEMbEMcEMdEMeEMfEMgEMhEMiEMjEMkEMlEMmEMnEMoEMpEMqEMrEMsEMt",
    "EMuEMvEMwEMxEMyEMzEM.EM_EN0EN1EN2EN3EN4EN5EN6EN7EN8EN9ENAENBENCENDENEENFENGENHENIENJENKENL",
    "ENMENNENOENPENQENRENSENTENUENVENWENXENYENZENaENbFy1Fy2Fy3F_bFy5Fy6Fy7Fy8Fy9FyAFyBFyCFyDFyE",
    "FyFFyGFyHFyIFyJFyKFyLFyMFyNFyOFyPFyQFyRFySFyTFyUFyVFyWFyXFyYFyZFyaFybFycFydFyeFyfFygFyhFyi",
    "FyjFykFylFymFynFyoFypFyqFyrFysFytFyuFyvFywFyxFyyFyzFy.Fy_Fz0Fz1Fz2Fz3Fz4Fz5Fz6Fz7Fz8Fz9FzA",
    "FzBFzCFzDFzEFzFFzGFzHFzIFzJFzKFzLFzMFzNFzOFzPFzQFzRFzSFzTF_ZENcENdENeENfENgENhENiENjENkENl",
    "ENmENnENoENpENqENrENsENtENuENvENwENxENyENzEN.EN_EO0EO1EO2EO3EO4EO5EO6EO7EO8EO9EOAEOBEOCEOD",
    "EOEEOFEOGEOHEOIEOJEOKEOLEOMEONEOOEOPEOQEOREOSEOTEOUEOVEOWEOXEOYEOZEOaEObEOcEOdEOeEOfEOgEOh",
    "EOiEOjEOkEOlEOmEOnEOoEOpEOqEOrEOsEOtEOuEOvEOwEOxEOyEOzEO.EO_EP0EP1EP2EP3EP4EP5311312313314",
    "31531631731831931A31B31C31D31E31F31G31H31I31J31K31L31M31N31O31P31Q31R31S31T31U31V31W31X31Y",
    "31Z31a31b31c31d31e31f31g31h31i31j31k31l31m31n31o31p31q31r31s31t31u31v31w31x31y31z31.31_320",
    "32132232332432532632732832932A32B32C32D32E32F32G32H32I32JEToETpETqETrETsETtETuETvETwETxETy",
    "EP6EP7EP8EP9EPAEPBEPCEPDEPEEPFEPGEPHEPIEPJEPKEPLEPMEPNEPOEPPEPQEPREPSEPTEPUEPVEPWEPXEPYEPZ",
    "EPaEPbEPcEPdEPeEPfEPgEPhEPiEPjEPkEPlEPmEPnEPoEPpEPqEPrEPsEPtEPuEPvEPwEPxEPyEPzEP.EP_EQ0EQ1",
    "EQ2EQ3EQ4EQ5EQ6EQ7EQ8EQ9EQAEQBEQCEQDEQEEQFEQGEQHEQIEQJEQKEQLEQMEQNEQOEQPEQQEQREQSEQTEQUEQV",
    "EQWEQXEQYEQZEQaEQb32X32Y32Z32a32b32c32d32e32f32g32h32i32j32k32l32m32n32o32p32q32r32s32t32u",
    "32v32w32x32y32z32.32_33033133233333433533633733833933A33B33C33D33E33F33G33H33I33J33K33L33M",
    "33N33O33P33Q33R33S33T33U33V33W33X33Y33Z33a33b33c33d33e33f33g33h33i33j33k33l33m33n33o33p33q",
    "33r33sETzET.ET_EU0EU1EU2EU3EU4EQcEQdEQeEQfEQgEQhEQiEQjEQkEQlEQmEQnEQoEQpEQqEQrEQsEQtEQuEQv",
    "EQwEQxEQyEQzEQ.EQ_ER0ER1ER2ER3ER4ER5ER6ER7ER8ER9ERAERBERCERDEREERFERGERHERIERJERKERLERMERN",
    "EROERPERQERRERSERTERUERVERWERXERYERZERaERbERcERdEReERfERgERhERiERjERkERlERmERnERoERpERqERr",
    "ERsERtERuERvERwERxERyERzER.ER_ES0ES1ES2ES3ES4ES50EH0EI0EJ0EK0EL0EM0EN0EO0EP0EQ0ER0ES0ET0EU",
    "0EV0EW0EX0EZ0Ea0Eb0Ec0Ed0Ee0EfEU5EU6EU7EU8EU9EUAEUBEUC0En0Eo0Ep0Eq0Er0Es0Et0Eu0Ev0Ew0Ex0Ey",
    "0Ez0E.0E_0F00F10F30F40F50F60F70F80F9FuGFuIFuHFuJFuKFuLFuMFurFusFuvFuwFu_Fv0FuzFu.Fv1Fv2Fv3",
    "Fv4FuNFuOFuxFuyFutFuuFunFuPFupFuqEUNEUOEUPEUQEUREUSEUTEUUEUVES6ES7ES8ES9ESAESBESCESDESEESF",
    "ESGESHESIESJESKESLESMESNESOESPESQESRESSESTESUESVESWESXESYESZESaESbEScESdESeESfESgEShESiESj",
    "ESkESlESmESnESoESpESqESrESsEStESuESvESwESxESyESzES.ES_ET0ET1ET2ET3ET4ET5ET6ET7ET8ET9ETAETB",
    "ETCETDETEETFETGETHETIETJETKETLETMETNETOETPETQETRETSETTETUETVETWETXETYETZETaETb0GG0GH0GI0GJ",
    "0GK0GL0G10GM0GN0GO0GP0GQ0GR0GS0GT0GU0GV0GW0GX0GY0GZ0Ga0Gb0Gc0Gd0Ge0Gf0Gg0Gh0Gi0Gj0Gk0GlEUW",
    "EUXEUYEUZEUaEUbEUcEUdEUeEUfEUgEUhEUiEUjEUk0Gm0Gn0Go0Gp0Gq0Gr0HH0Gs0Gt0Gu0Gv0Gw0Gx0Gy0Gz0G.",
    "0G_0H00H10H20H30H40H50H60H70H80H90HA0HB0HC0HD0HE0HFEUlEUmEUnEUoEUpEUqEUrEUsEUtEUuEUvEUwEUx",
    "0BA0BB0BP20J20L20b20r24524926M26N26O26P28L28V28Z29I29c29d2A_2LG2LH2LI2LJ2LK2LL2LM2LN2LO2LP",
    "2LQ2LR2LS2LT2LU2LV2LW2LX2LY2LZ2La2Lb2Lc2Ld2Le2Lf2Lg2Lh2Li2Lj2Lk2Ll2Lm2Ln2Lo2Lp2M12M22M32M4",
    "2M52M62M72M82M92MA2MB2MC2MD2ME2MF2MJ2MK2ML2My2Mz2NY2NZ2Na2Nb2O92AL30I30T30UEUyEUzEU.EU_EV0",
    "EV1EV2EV3EV4EV5EV604103X07E03W04J03f04R03e04h03j07G03i05D03p07I03o05h03w07K03v07M07O07Q07S",
    "03y03g09H1u_05405807v09XEV9EVAEVBEVC34534634734834934A34B34C34D34E34F34G34H34I34J34K34L34M",
    "34N34O34P34Q34R34S34T34U34V34W34X34Y34Z34a34b34c34d34e34fEVDEVEEVFEVGEVHEVIEVJEVKEVLEVMEVN",
    "EVOEVPEVQEVREVSEVTEVUEVVEVWEVX30X30Y30Z30a30b30c30d30e30f3AZ3EE3EF3ES3ET3EU3EX3F43FE3FH3FI",
    "3FLFumF_YF_aEVY24X38nEVZ20GEVaEVbEVc33y32R32S33z33.30632T32UFv9FvAFvBFvCFvDFvEFvFFvGFvHFvI",
    "FvKFvLFvMFvNFvPFvQFvRFvSFvTFvUFvVFvWFvXFvYFvZFvaFvbFvcFveFvfFvgFvh30.2_m2_n2_o2_p2_q2_r2_s",
    "2_t2_u2_v2_w2_x307EVqEVrEVsEVtEVuEVvEVwEVxEVyEVzEV.EV_EW02K02K12K22K32K42K52K62K72K82K92KA",
    "2KB2KC2KD2KE2KF2KG2KH2KI2KJ2KK2KL2KM2KN2KO2KP2KQ2KR2KS2KT2KU2KV2KW2KX2KY2KZ2Ka2Kb2Kc2Kd2Ke",
    "2Kf2Kg2Kh2Ki2Kj2Kk2Kl2Km2Kn2Ko2Kp2Kq2Kr2Ks2Kt2Ku2Kv2Kw2Kx2Ky2Kz2K.2K_2L02L12L22L32L42L52L6",
    "2L72L82L92LA2LBEW1EW2EW3EW4EW5EW6EW7EW8EW9EWAEWBEWCEWDEWEEWF7BS7BT7BV7BY7BZ7Ba7Bb7Bc7Bd7Bg",
    "7Bh7Br7Bs7Bv7Bz7B.7B_7C07C27C47C57C67C77C87C97CB7CC7CD7CF7CG7CH7CI7CK7CO7CP7CQ7CV7CW7CZ7Ca",
    "7Cc7Cd7Ce7Cj7Cl7Cm7Co7Cp7Cr7Cs7Cw7Cx7Cy7Cz7D07D17D27D37D47D57D67D77D87D97DA7DB7DC7DE7DF7DH",
    "7DJ7DK7DL7DM7DO7DP7DQ7DR7DS7DT7DU7DV7DX7DY7DZ7Da7Db7Dc7Dd7De7Df7Dg7Dh7Dk7Dm7DnE00E01E02E03",
    "E04E05E06E07E08E09E0AE0BE0CE0DE0EE0FE0GE0HE0IE0JE0KE0LE0ME0NE0OE0PE0QE0RE0SE0TE0UE0VE0WE0X",
    "E0YE0ZE0aE0bE0cE0dE0eE0fE0gE0hE0iE0jE0kE0lE0mE0nE0oE0pE0qE0rE0sE0tE0uE0vE0wE0xE0yE0zE0.E0_",
    "E10E11E12E13E14E15E16E17E18E19E1AE1BE1CE1DE1EE1FE1GE1HE1IE1JE1KE1LE1ME1NE1OE1PE1QE1RE1SE1T",
    "7Do7Dp7Dq7Dr7Ds7Dt7Du7Dv7Dw7Dx7Dy7Dz7D_7E07E17E27E37E57E67E87EA7EC7ED7EF7EG7EI7EJ7EK7EL7EN",
    "7EO7EP7EQ7ES7ET7EU7EW7EX7EZ7Ea7Eb7Ec7Ed7Ee7Eg7Ei7Ej7En7Eq7Er7Es7Eu7Ev7Ey7Ez7E.7E_7F17F37F4",
    "7F57F67F77FB7FC7FE7FI7FJ7FK7FL7FM7FN7FO7FQ7FR7FS7FT7FV7FX7FY7FZ7Fa7Fc7Fe7Fg7Fh7Fi7Fk7Fl7Fm",
    "7Fn7Fp7Fq7Fr7Fs7FtE1UE1VE1WE1XE1YE1ZE1aE1bE1cE1dE1eE1fE1gE1hE1iE1jE1kE1lE1mE1nE1oE1pE1qE1r",
    "E1sE1tE1uE1vE1wE1xE1yE1zE1.E1_E20E21E22E23E24E25E26E27E28E29E2AE2BE2CE2DE2EE2FE2GE2HE2IE2J",
    "E2KE2LE2ME2NE2OE2PE2QE2RE2SE2TE2UE2VE2WE2XE2YE2ZE2aE2bE2cE2dE2eE2fE2gE2hE2iE2jE2kE2lE2mE2n",
    "E2oE2pE2qE2rE2sE2tE2uE2vE2wE2x7Fu7Fv7Fw7Fx7Fy7Fz7F.7F_7G07G17G27G47G77G87GB7GC7GD7GE7GH7GI",
    "7GJ7GK7GL7GM7GN7GO7GP7GS7GT7GU7GV7GW7GX7GZ7Ga7Gd7Gf7Gh7Gj7Gl7Gn7Go7Gt7Gu7Gv7Gw7Gx7Gz7G.7G_",
    "7H07H27H37H47H57H67H77H87H97HA7HB7HC7HD7HE7HF7HG7HH7HI7HJ7HK7HM7HO7HT7HW7HX7HY7HZ7Ha7Hb7Hc",
    "7Hd7He7Hf7Hg7Hh7Hi7Hk7Hl7Hn7Ho7Hp7Hq7Hr7Hu7Hv7HwE2yE2zE2.E2_E30E31E32E33E34E35E36E37E38E39",
    "E3AE3BE3CE3DE3EE3FE3GE3HE3IE3JE3KE3LE3ME3NE3OE3PE3QE3RE3SE3TE3UE3VE3WE3XE3YE3ZE3aE3bE3cE3d",
    "E3eE3fE3gE3hE3iE3jE3kE3lE3mE3nE3oE3pE3qE3rE3sE3tE3uE3vE3wE3xE3yE3zE3.E3_E40E41E42E43E44E45",
    "E46E47E48E49E4AE4BE4CE4DE4EE4FE4GE4HE4IE4JE4KE4LE4ME4NE4OE4P7Hx7Hy7Hz7H_7I27I47I57I67I87I9",
    "7IA7IC7ID7IF7IH7II7IJ7IK7IL7IM7IN7IO7IP7IQ7IR7IT7IV7IW7IX7IY7IZ7Ia7Ib7Ic7Ig7Ih7Ii7Ij7Ik7Il",
    "7Im7In7Io7Ip7Iq7Ir7Is7It7Iu7Iv7Ix7Iy7Iz7I.7I_7J07J17J27J37J47J57J67J77J87J97JA7JB7JC7JD7JE",
    "7JF7JG7JH7JJ7JK7JL7JM7JN7JO7JP7JQ7JR7JT7JV7JX7Jb7Jd7Je7Jf7Jg7Jh7Ji7Jj7Jm7Jn7JoE4QE4RE4SE4T",
    "E4UE4VE4WE4XE4YE4ZE4aE4bE4cE4dE4eE4fE4gE4hE4iE4jE4kE4lE4mE4nE4oE4pE4qE4rE4sE4tE4uE4vE4wE4x",
    "E4yE4zE4.E4_E50E51E52E53E54E55E56E57E58E59E5AE5BE5CE5DE5EE5FE5GE5HE5IE5JE5KE5LE5ME5NE5OE5P",
    "E5QE5RE5SE5TE5UE5VE5WE5XE5YE5ZE5aE5bE5cE5dE5eE5fE5gE5hE5iE5jE5kE5lE5mE5nE5oE5pE5qE5rE5sE5t",
    "7Jp7Jr7Ju7Jv7Jw7Jx7Jy7Jz7J.7K07K17K27K37K57K67K77K87K97KA7KB7KC7KE7KG7KI7KK7KL7KM7KN7KR7KT",
    "7KU7KW7KX7KY7KZ7Ka7Kc7Kd7Kg7Kk7Kq7Ks7Kv7Ky7Kz7K_7L17L27L37L47L67L77L97LA7LD7LG7LH7LI7LJ7LL",
    "7LM7LN7LO7LT7LU7LV7LW7LX7LY7LZ7La7Ld7Le7Lf7Lh7Li7Lj7Lk7Ll7Lm7Ln7Lp7Lr7Ls7Lt7Lw7Lx7Ly7Lz7L.",
    "7M07M17M27M47M57M7E5uE5vE5wE5xE5yE5zE5.E5_E60E61E62E63E64E65E66E67E68E69E6AE6BE6CE6DE6EE6F",
    "E6GE6HE6IE6JE6KE6LE6ME6NE6OE6PE6QE6RE6SE6TE6UE6VE6WE6XE6YE6ZE6aE6bE6cE6dE6eE6fE6gE6hE6iE6j",
    "E6kE6lE6mE6nE6oE6pE6qE6rE6sE6tE6uE6vE6wE6xE6yE6zE6.E6_E70E71E72E73E74E75E76E77E78E79E7AE7B",
    "E7CE7DE7EE7FE7GE7HE7IE7JE7KE7L7M87M97MA7MC7MD7ME7MG7MJ7ML7MO7MR7MS7MU7MY7Mc7Md7Me7Mf7Mg7Mj",
    "7Ms7Mt7Mw7Mx7M_7N07N17N67NB7NC7NE7NF7NG7NH7NJ7NN7NP7NQ7NS7NT7NV7NW7NX7Nb7Nf7Ni7Nj7Nk7Nl7No",
    "7Np7Nr7Ns7Nt7Nu7Nw7Nx7Nz7N.7O27O47O67O77O87O97OB7OD7OE7OF7OH7OI7OJ7OK7OM7OQ7OS7OT7OU7OX7OZ",
    "7Od7Oe7Oi7Ok7Ol7On7Oo7Os7Ot7Ov7Ow7Ox7Oz7P17P27P4E7ME7NE7OE7PE7QE7RE7SE7TE7UE7VE7WE7XE7YE7Z",
    "E7aE7bE7cE7dE7eE7fE7gE7hE7iE7jE7kE7lE7mE7nE7oE7pE7qE7rE7sE7tE7uE7vE7wE7xE7yE7zE7.E7_E80E81",
    "E82E83E84E85E86E87E88E89E8AE8BE8CE8DE8EE8FE8GE8HE8IE8JE8KE8LE8ME8NE8OE8PE8QE8RE8SE8TE8UE8V",
    "E8WE8XE8YE8ZE8aE8bE8cE8dE8eE8fE8gE8hE8iE8jE8kE8lE8mE8nE8oE8p7P57P67P77P87P97PA7PB7PE7PF7PG",
    "7PH7PI7PJ7PL7PN7PO7PP7PQ7PR7PT7PV7PW7PX7PY7Pa7Pb7Pc7Pd7Pe7Pf7Pg7Pi7Pj7Pk7Pm7Pn7Po7Pp7Pq7Pr",
    "7Ps7Pt7Pv7Pw7Py7P_7Q07Q17Q37Q57Q97QA7QC7QD7QF7QG7QI7QK7QL7QN7QO7QQ7QR7QS7QT7QU7QV7QW7QX7QY",
    "7QZ7Qb7Qc7Qd7Qe7Qf7Qg7Qh7Qi7Qj7Ql7Qm7Qp7Qr7Qs7Qt7Qu7Qv7Qw7Qx7Qy7Qz7Q.7R07R17R35LA9O_5V36Ce",
    "5JE5K95J07QH7PC8Ky7Vk89.7YD78n9QO9UD6me5k94_w6C96QN5ou83w6X882k6O27RE57v6LM76i7_n8Y452o5bb",
    "67A6.p8Aj6DC69I5Fj5Gd7i655h7Ma5tq6BK8tB9Ts6AA80P5TT9Su7zY78u7Pz6VF7P.6H64zm8qb6BS7eN6MH7Fj",
    "6Gi69p88i9Y16T_79869k6BC4yq7JZ5DA5AU7xA92c5uk6Y66cS8607xH6ZI7Z58QC9LH52D8ma8BU83U5C58aI59b",
    "7R47R77R97RB7RC7RJ7RL7RP7RQ7RS7RT7RU7RW7RX7RY7RZ7Ra7Rc7Rd7Re7Rf7Rg7Rh7Ri7Rj7Rm7Rp7Rr7Rs7Rt",
    "7Rw7Rx7Rz7R_7S07S27S37S57S67SA7SC7SE7SF7SG7SH7SI7SJ7SK7SL7SM7SN7SO7SR7SS7ST7SU7SX7SZ7Sa7Sb",
    "7Sd7Sg7Sh7Si7Sk7Sm7Sn7So7Sp7Sq7Sv7Sx7Sz7S.7S_7T27T47T57T67T87T97TA7TB7TC7TD7TE7TF7TI7TJ7TK",
    "7TL7TM7TN7TO7TP7TS8M49Rv4_T5WX9bn5kT6An6Ab6Qq8nv9oD7866Tl7YH62o5DH5CN8.883C8qT9IX50D7B85a7",
    "63h74P8Yh5bK8Bl6Si7ie5qf7xt7Kj6pr8vc8_u90y9yx6lK94P7iK5zy7Yd8JM8Kz6lL6lP6lM5u15w77Nv9Nj6LT",
    "5yA5_58.V5Z187291_9PR9Uj8.v7yM8qi6914._5FO5DU8.e8.f8.h91D6W75zg86O8Xe9pM66B58h7Og5zi6MC6_I",
    "6xe5k.6H855r56m6V44uP7d99by72p7TT7TU7TV7TW7Ta7Td7Tf7Tg7Tj7Tk7Tl7Tm7Tn7To7Tp7Tq7Tr7Ts7Tt7Tu",
    "7Tw7Tx7Ty7U17U27U37U67U77U87U97UA7UB7UF7UG7UJ7UK7UL7UM7UN7UO7UP7UQ7UR7US7UT7UU7UX7UZ7Ua7Uc",
    "7Ue7Uh7Uj7Uk7Ul7Un7Uo7Uq7Us7Ut7Uu7Uv7Uw7Uy7U.7V07V17V27V37V47V57V67V77V87V97VA7VB7VC7VE7VF",
    "7VG7VH7VI7VJ7VK7VL7VM7VO7VP7VQ7VT7VU7VV7VW7VX7Va7N55vs7Ex8FW6Ij6Be9Ir6pY5DQ5B36GF9J27kK4yl",
    "5uR88s84M86A6ua6pA9fp6DL5DS5Jw8Xb5VW4uD5u36jb7m_93e60M6Jc7CS8Z16TG69D8qY7Ti8uf9775zf8FS8KX",
    "9aG5F28QL6kB63j63e71_8BD88n4xJ6od8NF6JD7pP6dz6Rv8D95EL7jM4.d56C6rB5n28vj6FI5F98Ci8Cs6Vb7Yq",
    "6Gz5lV5oK5tk8ld6B66Vq8nw6G06Ew8T99cB8mN7yW9Jo4wd9OG9Ya6OC7CM7Vc7Ve7Vg7Vl7Vm7Vn7Vo7Vq7Vr7Vt",
    "7Vv7Vw7Vx7Vy7W37W47W57W67W77W87WA7WB7WE7WF7WG7WJ7WL7WP7WR7WU7WW7WX7WY7Wa7We7Wg7Wh7Wk7Wl7Wn",
    "7Wo7Wp7Wr7Ws7Wz7W_7X17X27X37X47X67X87X97XA7XB7XD7XF7XH7XJ7XK7XO7XP7XQ7XR7XS7XU7XV7XW7XX7XY",
    "7XZ7Xa7Xb7Xc7Xd7Xe7Xf7Xl7Xm7Xn7Xo7Xp7Xq7Xr7Xs7Xu7Xv7Xw7Xx7Xz7X.7X_7Y07Y17Y27Y35Sw5mT5uu9L_",
    "51_82W5E26LU7L55Kn50X8s56A49IU6ST5Oo6zk5tY5Gr72I8zc69l6Ia6EZ5zx6.893q87Z8.m5mO6Pe5_n6o99P8",
    "8s18Xi6IH7dm5VE6fP68G5H84vO7eB63f6.48lQ69_90U9gB7da5G37Nq6C15CP6nW8_V5yR9fm80x9z_4.85mw8ra",
    "7_56Mb72z55556o8Ph5q75kW6Az95i7Lq8uC7eW6417jv4x77xu7U54uH87j58T57w6fn5Ee8w79K49RF6x19Pa6bQ",
    "7Y47Y57Y67Y87YA7YB7YF7YG7YI7YK7YL7YM7YP7YT7YU7YW7YY7Ya7Yc7Ye7Yf7Yg7Yh7Yi7Yj7Yk7Yl7Yr7Ys7Yt",
    "7Yu7Yw7Yx7Yy7Yz7Y_7Z07Z27Z37Z47Z67Z77Z87ZC7ZD7ZE7ZF7ZH7ZI7ZJ7ZM7ZN7ZO7ZQ7ZR7ZS7ZT7ZU7ZV7ZW",
    "7ZX7ZY7ZZ7Za7Zb7Zc7Zd7Zf7Zg7Zh7Zj7Zk7Zl7Zm7Zn7Zp7Zr7Zs7Zu7Zv7Zx7Zy7Zz7Z.7Z_7a07a27a37a47a6",
    "7a77a87a97aA7aB7aC7X052e7VN6GG8dc5a46FZ5tT7f_6az4yW88v5MO4uo7Mk7gN5vY5wA9Nl58R5Gv72A6Ds9Ka",
    "5U26Ob6a_9675K76tp7wl8WY68p7xm7Mr8Ce7Z19RC8.U6587Jt8lD6ja58w8rG6iX81g8Hn5Rn5C64xE4uR57H7oN",
    "96B7m74_38v_7lX7gS6Hd5qK52i8467O17ov6ti7_W6TH5jO5lu7ZB6Ik6GJ6Eg6Ch9KP6Gj8..7jK7Of69J5ad5H6",
    "6jv52Z68q5uc6k64xZ8qt8YB5.590k7aD7aE7aF7aG7aH7aI7aK7aL7aM7aN7aO7aP7aQ7aR7aS7aT7aV7aW7aX7aY",
    "7aZ7ab7ac7ad7ae7af7ag7ah7ai7aj7ak7al7am7an7ao7ap7ar7as7at7au7av7az7a_7b27b37b47b57b77bA7bB",
    "7bC7bD7bE7bF7bG7bH7bI7bK7bL7bO7bP7bX7bZ7ba7bc7bf7bg7bh7bi7bk7bm7bn7bo7bp7bq7br7bs7bv7bx7by",
    "7bz7b.7b_7c27c37c67c77c87c97cB7cC7cD7cE7cG7cH7cI60W80z6B54uv5DL93u6Eu8366Nc6mk4z663k6tX8lU",
    "5yv8RB5zJ6CX55Q8DX6XZ5806DZ8v850I5oR7bt5ly58m7ex62y91J7RN5.t5.N7Q48vi71l7Px7j97Ug57p92J5Wa",
    "4zE6xq8_g6LC7iR7B46sa7_V5hX6Ar5wL5Sm8I27ii5uT5yV90I7yK9YW6E26x77YO72v55u9TR5Uh7Kr4z37Ku5wN",
    "63c5bW6t06k_7Y95Fy9RL57B5816E95GA9IJ8m38tC78v7YV8Ts8_j8mD5FW7cJ7cK7cL7cM7cN7cO7cP7cR7cS7cT",
    "7cU7cV7cW7cX7cY7cZ7ca7cb7cc7ce7cf7cg7ch7ci7cj7ck7cl7cm7cn7co7cq7cr7cs7ct7cu7cy7c_7d27d47d5",
    "7d77d87dA7dC7dE7dF7dG7dJ7dK7dM7dN7dP7dQ7dR7dS7dT7dU7dW7dX7dY7db7de7dg7di7dk7dn7do7dp7dq7dr",
    "7ds7dt7dv7dw7dy7d.7d_7e17e47e57e77e87e97eA7eC7eF7eG7eH7eI7eJ7eL7eM7eO7eP7eR7eS4u17Rl5Fk9I9",
    "9Xs9yE9Kj5kQ8kY4uY4uS56i8HZ6725Ae6WB4.N61h56x6qU55S6AM6MN9PX8n690N7NO93z7TZ6lI7AA7Bi8lx5Wr",
    "7Tv8rC6TS9L082Q5wc6uX5cI7hl7Vj9Kx6kr6Mj7yE5W655H9OV5lv5Yf5Ge8vo6Lc9X_5Ra9IT7R.9116E75J65aQ",
    "5aw5UR8wo6Sr8tw88r59163m5WL8R.5pe9v54_49YT8kv5eb61s5E469y91F9429b_61f80C54_80p5mK9br6qn4wC",
    "7eT7eV7eX7eY7ea7eb7ec7ed7ee7ef7eg7eh7ei7ej7ek7el7em7en7eo7eq7er7es7eu7ew7e.7f07f17f27f37f4",
    "7f57f77f87f97fA7fB7fC7fD7fE7fF7fG7fI7fJ7fK7fL7fM7fO7fP7fQ7fR7fS7fT7fU7fV7fW7fX7fY7fZ7fa7fb",
    "7fc7fd7fe7ff7fg7fh7fi7fj7fk7fl7fn7fo7fp7fr7fx7fy7fz7f.7g27g57g77g97gA7gB7gC7gE7gF7gG7gJ7gK",
    "7gP7gQ7gR7gU7gX7gY8qm5FH7zQ7jF4yG4vF9O06pL7FG8Nf5u67Lg7_x6eA7V.9II7v157X73c5FD8_K8C38qf7Al",
    "9bj6pR5TA8Ap6Mv82g68_9Oo5ce4x_8k_7ww6K.8Fo9TU5LX9ZU82b5Cg8lz5GW82w5wV6ou8qv8Ai95Q5Gf6mR586",
    "7wt5TV74Q6n.7o95bB4xz5__64a7og4um5m16Uh8S25pm9KB9ZE7Ml73z90Y56l7yT8kz5b957a4zR5Gc5ah6Lt82a",
    "5jr69s6B28.G5v56mV7ic4yF4_O6SD7gZ7ga7gd7gf7gg7gh7gk7gl7gm7gn7go7gq7gr7gs7gt7gu7gv7gw7gx7gy",
    "7gz7g.7h07h17h27h37h47h57h67h77h87h97hA7hC7hD7hE7hF7hG7hH7hI7hJ7hK7hL7hN7hO7hQ7hR7hS7hT7hX",
    "7hY7ha7hd7he7hf7hg7hh7hi7hk7hm7hn7ho7hp7hq7hr7hs7ht7hu7hx7hy7h.7i07i17i27i57i77i97iC7iD7iE",
    "7iG7iI7iJ7iM7iN7iO7iQ7iS7iT7iV7iX7iY7iZ7id7if7ij6rk6sg7cF8Yn5yN7Kh6AQ8.54_l97S6Md84l85H5wS",
    "85G8rq59l8c68rB5aD5254xO9OS78s85v8qV5lC8kZ9P45c77yQ5IG5Ps5OE8lb6Kv6c29IP7RM6w95vo7KO6T66VH",
    "7h_82T8rs64V7d66LY8rZ56858Q9IY7yu82R7wo5oN6ul6TW7lP7QB9hO86F7.K7pL6GU9LG7e_5HA5Jb6jC6G1688",
    "9uz83p7MP59o9Tf8HR6Wy8Ra9O19QK9Ji4ug5G47xP6Wv8tV80L6Rq5wQ7.v7il7im7io7iq7ir7is7it7iv7ix7iz",
    "7i_7j07j17j27j37j47j67j87jA7jD7jE7jJ7jL7jN7jP7jS7jU7jV7jX7jZ7ja7jb7jc7jd7je7jf7jg7jh7ji7jj",
    "7jl7jm7jp7jq7js7ju7jw7jy7jz7j_7k17k27k37k47k67k77k87k97kA7kB7kC7kE7kF7kH7kI7kJ7kM7kO7kP7kQ",
    "7kR7kU7kV7kW7kZ7ka7kb7kk7kl7km7ko7kp7kr7ks7kt7kv7kw7kx7ky7kz7k.7k_7l07l27l37l45V280_6YN5tb",
    "6Kx5AV61j9.Q4.R8wi55i5kh5yJ5tf6nU6Bn8qX55n9If5B.6oV8BV7BN5UY6U48qj5aV8.S8F75IL7kD4ym6oz5ja",
    "5dH9yJ5Fa8RA9ge8mt82X6L59X.5Rw9R758k7JS59G5lX6C28a24vM6BG60g6Zw55p5kO56W8d27kX9c67zG63l71C",
    "8ql5595v_90R7Hm8d45Sj7X55zI9.V9Nw8ze9iy8lX7Pu6X26VS8tg8qr58z8.A6xQ6ZD9K593j5Rz6US8Zv8_75J8",
    "7l57l87l97lA7lB7lD7lE7lF7lG7lI7lK7lL7lM7lN7lO7lR7lS7lU7lV7lW7lY7lZ7la7ld7le7lf7lh7li7lj7ll",
    "7lm7lo7lp7lq7lr7ls7lu7lv7lw7lx7lz7l_7m07m17m27m37m47m57m67m87m97mA7mD7mE7mG7mH7mI7mJ7mK7mL",
    "7mN7mO7mP7mQ7mR7mS7mT7mU7mW7mX7mY7mZ7ma7mb7me7mf7mh7mi7mj7mk7ml7mm7mn7mo7mp7mq7mr7ms7mt7mv",
    "7mw7mx7my7mz7m.7n29gu5jf6rt6mc4wb5kp9g795Z66e92l9Vf5Gh6sr5lI57z5MA7zL7_m6Iy6DD6Nn66.62D74A",
    "6nN6n95al6Tj88g5ZL5QE8ng6lh93T5bz80N5Ft6rf5Hr5MT8Dt8FF6Wu7c.5IC4zL5G87RI8o99O26op6su8rh8aG",
    "9va8qw5O_9xH7NL5.87BW61e5Jy4we6eg8XX61I8zm5J473O8Pv9u_6qg5kF5yO7wY5M94.l7Cq5Gy5EQ50P5GE5Hy",
    "4vE5_z7HQ5Zs8Hh83X8Tq7BG7pA6vM7n37n47n57n67n77n87n97nA7nB7nC7nE7nF7nG7nH7nI7nJ7nK7nL7nM7nN",
    "7nO7nP7nQ7nR7nS7nT7nU7nV7nW7nX7nY7nZ7na7nb7nc7nd7ne7nf7ng7nh7ni7nj7nk7nl7nm7nn7no7nr7ns7nt",
    "7nu7nv7nw7n.7n_7o07o17o27o37o47o57o67o77o87oA7oB7oC7oD7oE7oF7oG7oJ7oK7oM7oP7oQ7oR7oW7oX7oZ",
    "7oc7od7oe7of7oh7oi7oj7ol7om7oq7or7os7ot7ou7ow7ox5yd8PE5Ki6Aa4wI6og68t8An5JN5DE7C.6xH7Kx58I",
    "5CM8lT6dG5.A6006tk5TF6iY7El6XJ8_O7yJ6DY62Z5Ka7Ng8nY74L6sZ5kc5vx8DI65C9x47Zw8TN7md7Q757m63s",
    "75C6P35vC61D8mE71m6Cb8.95.z61Y8RK5RU6l162K65d5D963W6Pc8q_7dz4yQ73f6n78kp8lo7xO8Da6OF5fQ9j2",
    "6rH6tt8n16qx4yP71h8Et68M63H9SD8qd7bu57x5S.5Vw6Sw7Lu7ez7dl7kL7o_7p07p27p37p47p67p97pB7pE7pF",
    "7pG7pH7pI7pJ7pK7pO7pQ7pR7pT7pU7pX7pY7pZ7pa7pb7pc7pd7pf7pg7ph7pi7pj7pk7pm7pn7po7pp7pq7pr7ps",
    "7pt7pv7pw7py7pz7p.7p_7q07q17q27q37q47q57q67q77q87q97qB7qC7qD7qE7qF7qG7qH7qI7qJ7qK7qL7qM7qN",
    "7qO7qP7qQ7qR7qS7qT7qU7qV7qX7qZ7qa7qb7qc7qe7qf7qg7qi7qj7qk7qm7qn7qo7qp7qq7qr7qs82C9bb8_v6_0",
    "8kb9uX5di7xf7y95G96U16ZO8.H7nD9R65FA60b7M.6no5Dp5h97wd6Ca57W84A5tn8JV6A05605jZ4yE7bj59262u",
    "6rE5l45l28kX8km6NY5_C9P55cJ7xd7wg5O96Ut5av4zp5ks5AW8DQ9YA8q.7Ko9I.5177ey4xt6Us9f.5h16jy7RH",
    "5TQ5mM7iw9Nq75E55y82f89m5bu7y48Cd6Z06Vi7Yn7Xt6BZ6DX7k04_j59g57F8DG6dR99q8tr8qn8d19Kk7kj4xs",
    "7qt7qu7qv7qw7qx7qy7qz7q.7q_7r07r17r27r37r47r57r67r77r87r97rA7rB7rC7rD7rE7rF7rG7rH7rI7rJ7rK",
    "7rL7rM7rN7rO7rP7rQ7rR7rS7rT7rU7rV7rW7rX7rY7rZ7ra7rb7rc7rd7re7rf7rg7rh7ri7rj7rl7rm7rn7ro7rp",
    "7rq7rr7rs7ru7rv7rw7rx7ry7rz7r.7r_7s07s17s27s37s47s57s67s77s87s97sA7sB7sC7sD7sE7sF7sG7sH7sI",
    "7sJ7sK7sL7sM7sN7sO51b88m59H9bl6uG6w56sd5xw53r5dS5m66r66nV7M68IB6Xe5bM8ko5CW95n9PD8L96aI7a1",
    "74c83s4wa93A6r79g45e75Qy6G59Jm7Vh4.b84Q7BX8dI9bw7yq7xU59_6LP95r8z_8.35Fh7gM6Fj6Eb7Q67du8XN",
    "9Os68g5Ah8A26XK6Tm6Dt7Th7hj6q17xJ8dZ5dG68I8N98Ab7LC50V4xB7Mb8lh5nA5t.7jB6Ma97H4xA6qb8bV7qd",
    "9Kc4x58me8_R9Tp6PB7c18_H73i6ru7sP7sQ7sR7sS7sT7sU7sV7sW7sX7sY7sZ7sa7sb7sd7se7sf7sg7sh7si7sj",
    "7sl7sm7sn7so7sp7sq7sr7ss7st7su7sv7sw7sx7sy7sz7s.7s_7t07t17t27t37t47t57t67t77t87t97tA7tB7tC",
    "7tD7tE7tF7tG7tH7tI7tJ7tK7tL7tM7tN7tO7tP7tQ7tR7tS7tT7tU7tV7tW7tX7tY7tZ7ta7tb7tc7td7te7tf7tg",
    "7th7ti7tj7tk7tl7tm7tn7to7tp7tq7tr7ts7tt7tu7tv7tw5mz5Ao8D655Y8CE7TR6Ps9ou4wi63A7o.7op7xF4wL",
    "8jc6Pl9Y89TP5Y36Li9LS5.47N99TM7hV7hU57072l7gO6Fg7fs7wW7EM9Vj4v571u4vT95I5Ef6LH6Nd87y8855IE",
    "5mn7MQ9UW6BO7BP7Mz5n59fv8FA5n05I07Vf4u.6ok81Q6BI6Dk5te55t8tT8uU9Kl4_n5Fb63d72i59d6DG9v35eV",
    "50c7St5Dt7xY6I56Kh6A96EO50K78r8d956p8l07xT5T78FC9Id56R5GR5px7tx7ty7tz7t.7t_7u07u17u27u37u4",
    "7u57u67u77u87u97uA7uB7uC7uD7uE7uF7uG7uH7uI7uJ7uK7uL7uM7uN7uO7uP7uQ7uR7uS7uT7uU7uV7uW7uX7uY",
    "7uZ7ua7ub7uc7ud7ue7uf7ug7uh7ui7uj7uk7ul7um7un7uo7up7uq7ur7us7ut7uu7uv7uw7uy7uz7u.7u_7v07v2",
    "7v37v47v57v67v87v97vA7vB7vC7vD7vE7vF7vG7vH7vI7vJ7vK7vL7vM7vN7vO7vP7vQ7vR7vS7vT4_A7hZ6rQ93X",
    "9gF5M05IM5DX5Il5y06Ff6bt57l65e58A5Wg5BO5TE7WD7SB5wt65t7pW69R6AN4wY72L8036Bt73a9TW5Tt8BR6Vl",
    "6Zr7ZL9YN7dH5Zp5Ip5Fl6uq55B58x5kY8l.82l5L35Uc61p5TH5Gj7fw61G5jK6Ed6AW5FZ69Z5l76Ul5Jj7gV8Bc",
    "95t5wJ8Za5au5Uk6CE8te83l5TN7jt4.f5_h5kz6i.5CX7jG7B26X67V_7Ss6Nt56r4wF7RK5o_7gb8Hr5bE9j1520",
    "7vU7vV7vW7vX7vY7vZ7va7vb7vc7vd7ve7vf7vg7vh7vi7vj7vk7vl7vm7vn7vo7vp7vq7vr7vs7vt7vu7vv7vw7vx",
    "7vy7vz7v.7v_7w07w17w37w47w57w67w77w87w97wA7wB7wC7wD7wE7wF7wG7wH7wI7wJ7wK7wL7wM7wN7wO7wP7wQ",
    "7wS7wT7wU7wk7wq7wx7wy7xM7xa7xi7xv7yA7yG7yU7yt7yv7yx7yy7yz7y.7y_7z07z17z37z67z77z87z97zA7zB",
    "7zC7zD7zE7zF7zI7zJ9c864d6w35Ta6O66D65Rm6Bi69f5xJ9OK5U36B95M78SX85A8.Z5Lc8En6Tb8rM8JT5fg6WF",
    "6Bc7lk9OH55m6.S8mm6Fz8d867I7y67326xb7G56cK7By5xA93E6SN6rg6DU5Ap79Y8014zi5db95g73P6sT5BI4vG",
    "9Rt9Lj8L.7ZA7ql54X5UI6J282B7nx6pg6Zn6bU56t5EO6Ye7A19xE7ln7Bu7cx6yJ7G66TE97C9oa7ay8E98DK5GF",
    "6WN4uz5E95An7W.5E658f5284.B4_G7zM7zP7zR7zS7zT7zU7zW7zZ7za7zb7zc7zd7zh7zi7zj7zl7zm7zp7zr7zs",
    "7zt7zu7zw7zx7zy7zz7z_7.07.27.37.47.57.67.77.87.97.B7.D7.F7.G7.H7.I7.J7.L7.M7.N7.O7.P7.R7.S",
    "7.W7.Y7.Z7.b7.c7.e7.f7.g7.h7.i7.j7.k7.n7.p7.q7.r7.s7.t7.w7.x7..7_07_27_37_47_67_77_87_97_B",
    "7_D7_F7_G7_H7_I7_J7_M7_N7_P7_Q7_R7_S7_T7_U7_Y7_Z7NY7hB7oI6ob9Qs5AR7I35Jf4_f81K8Eo8_U9Lm5x9",
    "60S6sV5uO6LR84u9J.61B72y7x37ok5796Y17on89l4ua8.697F6P.4wk8m56If81A53Q7MN77E5lb8.z6zc4w66I2",
    "9LZ5xM6MP58N8Z27385AZ7CE7Gp6UN7Zt9SM4uq92x9pU6tB57R8r15GT6BE7Eo8Fn9Rs9.49J34ys7.Q57C71r9Pr",
    "5oj9Y65Fc4xa6wS7G96cq7Xh9cF7LP58O7Oa6r16Vp55j9.P81B5IP7iy7g_7_a7_d7_e7_g7_h7_i7_j7_l7_o7_q",
    "7_r7_s7_t7_u7_v7_w7_z7_.7__80280780880980A80E80F80H80J80Q80R80T80U80V80X80Z80a80h80i80j80k",
    "80l80m80o80q80v80w80y80.81081181481581781881981E81F81G81H81J81L81M81N81P81R81S81T81U81V81W",
    "81X81Y81Z81a81b81c81d81e81h81i81j81k81l81m81o81p81q81r81s81t81u81v81w81x81y81z9Q65U46BY9P7",
    "6by5e46G27lJ6yF9PB8Ac5DY9Y55wG7296Ep5Da8PF9o19wJ7YC9So8tl8r29v_6zU7c45zL9P668k9fq5GL9JT4.Z",
    "6N55nb5nX7yL8PH6ml5.B7E76xa7x_5pc6CR5jg6xc5Dr4vn6EW7Lb6AX8zk4yc4xH6oc7ws8kw8GT8Uw7zN90x9KZ",
    "7kf9gX8Zu8Gz6qR9g67xS5c89wx7ER7W18Q29fi9g25OR5GN5VB4vm9wc5DM8_88497UI9cI8Rk6xX8KJ6Ry65Y6yh",
    "81.82182282582882A82D82E82F82G82H82I82K82L82N82P82U82Z82c82d82e82i82m82p82r82s82u82v82x835",
    "83783883983A83B83F83G83H83I83J83K83L83O83V83W83Y83Z83c83k83r83t83v83x83.83_840841843844845",
    "84784884B84C84L84N84P84R84S84T84V84W84X84Y84Z84a84b84c84d84e84f84g84h84j84k84m84p84q84r84t",
    "84v84w84x84y84z84_8mf8AI8Ch7Ro6mJ5_P8Ez7Ch8C59KQ6lR7VR9J65Dl8C256I5uz8oC8qu4v87Eh6UQ6Y595s",
    "9S975a6oX7S95gI9L16lF7.E6Od5lG5cv5gQ9Ne9Nt4xi8GC8IP6gi7RV9Km7CR6Yc5jV7Sl96Q9TX7pS8_t8mS5yb",
    "7np7dO8d56pC8SS5l65v26Z97SW7xr56L55D5B95ef7y59TY8BN6FF7U48NG7dI6uw5wP5cP8KH71j6mH6A_7Q_6LF",
    "62l9Nz6OE8UV9uZ9Jj5GD5Hz8mi6Hu85085185285385485585785985D85E85F85I85M85N85O85R85S85T85U85V",
    "85X85Y85Z85a85c85e85g85h85i85l85o85p85r85s85t85u86186386486586686786986B86C86D86E86G86I86J",
    "86K86L86M86N86P86Q86U86V86W86X86Y86a86b86d86f86h86i86j86k86l86m86n86o86q86r86s86t86u86v86y",
    "86z86.86_87487587787887987B87D87E87F87G87H87I87J6Hv8OH6eX86S7Ze6Hf9jK6Av6Sh8Eh5Ye9xO6oh6yW",
    "5lU9PC8mB79V6VG6B779X4wf5d66lD5YJ6Qk5vL5BV65L6Se7Rk7Tc79d7f66B_5Jg5HG9IW92Z5eS7wp6mM4v35bs",
    "80G5b85DN7Kt9Q.5RA6CW84H61y9Nv6tM5HY9c15655hf83z5ck9SJ50g6pb5my6BV4zW5C_85x9066ww8Kh6B85vq",
    "7Y.6Ir6Dx5_r5eO95_9uV5m_6DF8125jz5Lk9LA9LD6s562e6VW7BU57T5k187K87L87M87N87O87P87Q87R87S87T",
    "87U87V87W87X87Y87a87b87c87e87f87h87k87l87m87n87o87r87s87t87u87v87w87z87_88388788888988A88B",
    "88E88F88H88J88L88M88N88O88P88Q88T88W88a88b88c88d88f88k88o88w88y88z88_890891892893895896898",
    "89A89C89D89E89G89H89I89J89K89L89M89N89P89R89S89T89U89W89X89Y89Z89a89b89c89d89f6Bd6pU79R69j",
    "9Ik7wz84J6rJ56S5y45bq5Ag60I5bp6QM8PG7MV6Cg67c7pl8lw5Jc6id9ub6kq8NL5HL51s6oa5Lg8sq78i5uL60L",
    "7Gs6BD6EI79C5.O6v36q.6K06zO7RO7ZG7Ry7LK58a5FR4vJ5wU6N180g83M6AR5I658e72k8YD8tH6pX5Hu83Q5Vv",
    "8Zq8rK9Pg95D4zf6oR5Mt7R67Wm6Ae73v6.E5zj8Ji6ZQ7Xy7lt86e6SB9vF6Dd7Ym5Tl7WI9Sv69v6Ah5A87Gr6lN",
    "89g89h89i89j89n89r89s89t89u89x89y8A08A18A38A58A68A78A98AC8AG8AJ8AK8AL8AM8AQ8AR8AU8AW8AY8AZ",
    "8Ad8Ao8Ar8As8Aw8Ax8Ay8A_8B08B28B38B58B68B98BG8BM8BP8BQ8BT8BY8Bd8Be8Bf8Bg8Bi8Bj8Bk8Bm8Bo8Bp",
    "8Br8Bs8Bu8Bw8By8Bz8B.8B_8C08CA8CB8CD8CG8CI8CJ8CM8CO8CP8CT8CU8CV8CW8CX8CY8CZ8Ca8Cb8Cc8Cf8Cg",
    "8Ck8Cm8Co8Ct8Cx8Cz5La84.7Mo7Qk5Cv7NU53x5n18ji7l751F7979gN9ZO6y27JY7be6I77Ub6By9YH8qh5J181O",
    "4vI5Tg8Bv8GD5vp57j7Js8l45nF5TX6py9Y75f67Wq9j48_h7oL59M69H9Jw4x68E68HX8Ff8Io5VK6Sq5S36Pk6rc",
    "8mn6RT70H6SV6iw6WM68Q5cx4u35746y66VI6oF55s6ZB5b76jd7Lc5qE84G9zG6NN7b87b19gH8rt5o24vU4y15Gl",
    "5bH7WC5Pe6mK8_45y36nz6pZ8kh6EG8C.8C_8D18D28D48D58D88DA8DB8DC8DD8DE8DJ8DL8DM8DN8DO8DP8DT8DY",
    "8Dm8Dn8Do8Dp8Dq8Dr8Ds8Dv8Dw8D.8D_8E08E18E28E38E48E78E88EA8EB8EC8ED8EF8EG8EH8EK8EL8EM8EN8EP",
    "8EQ8ET8EV8EX8EY8EZ8Ea8Eb8Ec8Ed8Ei8Ej8Ek8El8Er8Ex8E.8E_8F28F38F48F68F88F98FB8FD8FE8FG8FH8FI",
    "8FJ8FL8FN8FP8FQ8FR8FU8FY8FZ8Fa8Fc8Fd8Fe8Fh8Fi8Fj61m6qz79r69c9IE9J55D38_17j.4xV8mc4v.9xK9In",
    "9Ip59D6zS91Z6r58mq5WH5rC6iW6j96Ug5HR85K7.C5YP8Kt5yw6AY6f79Kv6Lo6246Xb7Ud4vK4.e5td9UO6Ii7_O",
    "5pj4_F7gD5878C44uK60l7g39Ic4.r4wo7dc7Gq5Ba8Av6JI7cz5lT6o19TI8zx6mY50.5D_6u56JE6Pq6mm6359Xt",
    "8lt5w67Gy7ft7dB4uO92n7G36n25RQ95B6p58sB5Cw8R66Ro8wl5n89fn6uW8Fk8Fl8Fp8Fq8Fr8Fs8Ft8Fw8Fx8Fy",
    "8F.8F_8G08G28G58G78G88G98GA8GG8GI8GJ8GK8GL8GM8GN8GP8GQ8GR8GU8GV8GW8GX8GY8GZ8Gf8Gg8Gh8Gi8Gj",
    "8Gk8Gl8Gm8Go8Gp8Gq8Gr8Gs8Gt8Gv8Gw8Gx8G.8G_8H08H18H28H38H48H58H78H88H98HA8HB8HC8HD8HE8HF8HG",
    "8HI8HJ8HK8HL8HM8HO8HT8HU8HV8HW8HY8Ha8Hb8Hc8Hd8He8Hg8Hk8Hl8Hm8Ho8Hq8Ht8Hv8Hx8Hy5FM5es9.B8sZ",
    "5Ex5S89Yd6T396R6p955e7NA6Bp7Ai58u5AT7yw72K7Ou5Dq9vA6ct7Xk9R08ZP7.a74s7735696VJ7Ja5Za6KO5Qt",
    "8kf9bs69m7xL63v73j5Zi4x14ww5_D9Vd4xx8ka5835cA7wh69K4xD6Nb68E8Cu8J98DZ8UD76K6ws5kv7xI56N6F9",
    "6VK8298Cv8WL54I5jw5c28.n4vp6nT55b8ab8zl9Ok8LA7HU9KG9Nm6sc8Bb5yn6II6qI8Ge85k9p35XU8rR4u95F1",
    "8Hz8H.8H_8I08I18I38I48I58I68IA8ID8IF8IG8IH8II8IJ8IK8IL8IM8IO8IQ8IR8IT8IU8IV8IW8IY8IZ8Ia8Ib",
    "8Ic8Id8Ie8If8Ig8Ih8Ii8Ij8Ik8Im8In8Ip8Ir8Is8It8Ix8Iy8I.8J08J28J38J58J68J78J88JB8JC8JE8JF8JI",
    "8JK8JL8JN8JO8JP8JQ8JR8JS8JU8JX8JY8Ja8Jd8Je8Jf8Jg8Jh8Jj8Jk8Jl8Jn8Jo8Jp8Jq8Jr8Js8Jt8Ju8Jv8Jw",
    "8Jx8Jz8J.8K08K18K24yU6LZ6XH5NJ4ud6GK9gQ69h5h27HV89o6sf6Zk53d8EE7W26T058v6oP7wn52x5Lb75U7jR",
    "6PI7FA8Bh6T95nn58W75z8Xh9Ng9PL6J58rX86p5M46nL6977yk5YI4ya5L68rF6PC4uA5mQ8Zp6YY6DE7eD73d8AD",
    "5Bw9Vs5mH5Je92r7xD5bY8rA8R788C88D8rc6H45m465H6s97a.8k.7Wt7Kp5Hx4yu8wh6tn5eW7x57bU6o85kX5fs",
    "7KQ82.65E6uN5Zm7KV7Kb79o5D77xp8K38K48K58K68K78K88K98KA8KB8KD8KE8KF8KG8KI8KK8KL8KM8KO8KP8KR",
    "8KS8KT8KU8KW8KY8KZ8Ka8Kb8Kc8Kd8Ke8Kf8Kg8Kj8Kk8Kl8Km8Kn8Ko8Kp8Kq8Kr8Ks8K.8K_8L08L18L28L48L5",
    "8L68L78LB8LC8LD8LE8LF8LG8LH8LI8LJ8LK8LL8LN8LO8LQ8LR8LS8LT8LV8LW8LX8LY8LZ8Lb8Lc8Ld8Lf8Lg8Lh",
    "8Li8Lj8Lk8Ll8Lm8Ln8Lp8Lr8Ls8Lt8Lu8Ly8Lz8L_8M08M17S17RR59f83S5SZ5u85an7Bk6Mz6v_8lN5mu8Pn5D1",
    "7Vp6B.6Ns4x09ZV8Q05kU8l65Fo7VY4z_5nE9fs5dB5yF7aw5Zh4uM6V_4wB6Bj8gJ90T5A_6Ol5NS5Pi9024xL4.D",
    "97A9bm6mF5u26135ka8d68lL6Ks69B9cM5k85l_6E85Kk5FN7Oc55z8Ki6UY6Yp6kA6AI8.J5FK88I6tH7MF4vc8rE",
    "5jm76V8Ml6QH6RP7zo8S09xD9yW5nU6Sl8_m6WH6TV68D7hM5Y55ws6Lm6yn8M28M38M68M88M98MA8MB8MC8MD8ME",
    "8MG8MH8MI8MJ8MK8ML8MM8MN8MO8MP8MQ8MT8MU8MV8MW8MX8MY8MZ8Mb8Mc8Md8Mf8Mh8Mi8Mj8Mn8Mo8Mp8Mq8Mr",
    "8Ms8Mu8Mw8Mx8My8Mz8M.8M_8N08N28N38N48N58N68N78N88NA8NB8NC8ND8NE8NH8NI8NK8NM8NN8NO8NP8NQ8NR",
    "8NT8NU8NV8NW8NX8NY8NZ8Nb8Nc8Nd8Ne8Ng8Nh8Ni8Nj8Nk8Nl8Nm8Nn8No8Np8Nq8Nr8Ns8Nt8Nu61L58t80D6HK",
    "8Xm7Kf5u56WJ6Bq9SS5FC78z8m16mq7TX7eE5Gk7Ui9Xw88S8lq7XL6SK7316Ml6IL5Os60T7d15Fu4uT6jx8265lw",
    "5NZ5RR4yw4yy9bo5tp6T.80u6029Y29015kB8ky8lr6GS89O6JU5Nz8BF95b4_N7qW90V7oV53p5XH6wl5k_8l9823",
    "95u8IS7kN8Pz9QB9QF7xb9hJ7YE5o17fN9129Qd7bV5jP6DV7iB8JH6Yj5K67yf7GG7qY9K16905XC4xM5k35bv5XK",
    "8Nv8Nw8Ny8Nz8N.8O08O18O28O38O48O68O78O88O98OA8OB8OC8OD8OE8OF8OG8OI8OJ8OK8OL8ON8OO8OP8OQ8OR",
    "8OS8OT8OU8OV8OW8OX8OY8OZ8Oa8Ob8Oc8Oe8Og8Oh8Oi8Oj8Ok8Ol8Om8On8Oo8Op8Oq8Or8Os8Ot8Ov8Ow8Ox8Oz",
    "8O.8O_8P08P18P28P38P48P58P68P78P88P98PA8PB8PC8PI8PJ8PL8PM8PN8PO8PP8PR8PS8PT8PV8PW8PX8PZ8Pa",
    "8Pb8Pc8Pd8Pe8Pf8Pg7Dj6CU8vB8uF83E8BK6Ai5Fm6pm95U5ag6016nm5TD6HA8qg7Oh6xf5TR6g07Nm6zj8mj8m8",
    "5Tc6ll8YI7Yp6EY5Fv72j6na5XO6Gg5W26ZW86R5KG7pM50O8ww6tC8sV73h6EF6sR6xK7xc8G46X39036tO9Ps8ke",
    "5bN79v8Na85.7My8gA6Yl59K8uY9KH6FG9YO8v45Ly4zJ6R_5QF63L6sL5935n95af6tx5Xh7Km7KS61i88K8566CH",
    "6TX8_Y7Sw8tp8qq9J15uM5E55Gi7338Pj8Pl8Pm8Po8Pp8Pq8Pr8Ps8Pt8Pu8Q38Q48Q58Q68Q78Q88Q98QE8QF8QG",
    "8QH8QI8QK8QM8QN8QO8QP8QQ8QR8QU8QV8QW8QX8QY8Qb8Qc8Qh8Qj8Qk8Qo8Qp8Qt8Qu8Qv8Qx8Qy8Qz8Q.8Q_8R1",
    "8R28R38R58R88RC8RD8RI8RJ8RL8RM8RN8RQ8RS8RT8RW8RX8RY8RZ8Rb8Rc8Rd8Re8Rg8Rh8Ri8Rl8Rr8Rs8Rt8Rw",
    "8Rx8Ry8Rz8R_8S18S48S58S68SB8SC8SE8SF8SG8SH8SK8SM6n05xt51S4wj5wj6Cw89790Q6XG95k7Up5GC9JS5za",
    "7hb6Xs6D57jI7xV7NR51t6AL5aq90F57u7d37g15R.5.I90K6s25nW5SV5GG55K6vD5RY6Ee9YJ85_8SL8ag9005GU",
    "5nl8706BM69O84n9ur9P09fk9fy6aj5cb6BJ5K.6CM5J78RP6qy5e37Jc8YS6jg5aM8nC5yl6v.7Ef9Xz4uu73t5kC",
    "7YN6Cz6PQ7QM63B5kR5f94u785L6ng7EB4wX6U97zH5.06Nw6SR5_O5c45e18SP8SR8ST8SV8SW8Sa8Sc8Sd8Se8Sg",
    "8Sh8Si8Sj8Sl8Sm8So8Sp8Sr8Ss8Su8Sv8Sw8Sy8Sz8T08T18T28T38T48T58T68TA8TB8TD8TF8TG8TH8TI8TK8TL",
    "8TM8TO8TQ8TR8TS8TT8TU8TV8TX8TY8Tc8Td8Te8Tf8Tg8Th8Ti8Tj8Tl8Tn8To8Tp8Tr8Tt8Tu8Tv8Tw8T_8U08U1",
    "8U48U68U78U98UA8UC8UE8UF8UG8UH8UI8UK8UL8UM8UO8UP8UQ8UR8US8UT8UU8UW8UX8UY8UZ8Ua5tD5.k5Dn9Vc",
    "8_T6X55Rq5Kl63V4uw6zD7xq8B78GE5dK4yV4yg5m.7wi6Sg8KQ5Hp7LF8335M29jF4zD6uj8mJ5m965m5Dh7OV6uf",
    "8QA6M79Nx7wv5Gx7ep7qA9Nk5NX7_17Jk6CT8SN6sX7gT68H6MX5Dd6FX6o35th5HS9Ie4vC6nX8li5nB6NW8AS6Yd",
    "5G.5Gq6lB6jc4wK6D25D888U4yD4.k5TU68A9R.6Pa79f5B_5AX62V8ll6OK76P6UG8b_7XI7Vz6Pm5Ox5Gu9KX79w",
    "8Ub8Uc8Ud8Uf8Ug8Uk8Um8Un8Uo8Uq8Us8Ut8Uu8Uv8Ux8Uy8U.8U_8V18V28V38V48V58V78V88V98VC8VD8VE8VF",
    "8VG8VK8VL8VM8VN8VO8VP8VQ8VS8VT8VU8VV8VX8VY8VZ8Va8Vc8Vd8Ve8Vf8Vh8Vi8Vj8Vl8Vm8Vn8Vo8Vp8Vq8Vr",
    "8Vs8Vt8Vu8Vw8Vx8Vy8Vz8V_8W08W18W28W48W58W68W78W88W98WB8WC8WD8WE8WF8WG8WH8WI8WK8WN8WO8WP8WQ",
    "8WS8WT8WU8WV8WW8WZ7e061l5uC62986T5aL63S76473l6wg6nG7A06g48Yj5uj4vW5gp5MS9JZ6qN7px9QP68F7x6",
    "7UE8P.5CZ9SU8.M6Q75pX4.W7Bj4uB5Ec5aF5GJ6E09Ke5584xP9oS7wa5Iu8qa8XK88t9No6sE5yc5hC6O.9Pf7Em",
    "7Ck5E_85w9c57.X5kg9Pt9PG7w_7Ru5EY9Ls9cP7kn8b46vO4vX7_K7bb8lc63p5JD4wh9Xv5tt6fX53F5GH8nX8Gd",
    "7XT9S459A5Jk5QZ9K06s85kr6t66PJ8Wa8Wb8Wc8Wd8We8Wf8Wg8Wh8Wi8Wj8Wk8Wl8Wm8Wn8Wp8Wq8Wr8Ws8Wt8Wu",
    "8Ww8Wx8Wz8W.8W_8X18X28X38X68X78X88X98XA8XB8XE8XF8XG8XH8XI8XJ8XL8XM8XO8XQ8XR8XS8XT8XU8XV8XW",
    "8Xc8Xd8Xg8Xj8Xl8Xn8Xp8Xq8Xr8Xs8Xu8Xv8Xw8Xx8Xy8Y08Y38Y68Y78Y98YA8YC8YE8YF8YG8YH8YJ8YK8YL8YN",
    "8YO8YP8YQ8YR8YT8YU8YV8YW8YX8YZ8Yb8Yc8Yd8Ye8Yf8Yg5mF5jT6WX82M5Lu7iH6L86bK4wR6j78TE9UB5DF6CV",
    "6Gw92g6MS8318mG56P6Ym5Du8Vv6786p46px8mY5nH8Mg8Al9KC6iZ8.R6Mm5_x5_34_X8X56OV85b7Cf63w55q58H",
    "5UB5zY92Y8XC96I5vu6TF60d5dJ55457s83u5C86nv9R476A4yH4_k7.U6Sz5N59K87d08YM7xZ5YV68C9S08PQ5OO",
    "9Xx5.G8ku8J495N5FP6Nj5wF7LS61a7rk5f_7xg7xj8zf5Md5kZ62i6NB7E48Yi8Yk8Yl8Ym8Yo8Yp8Yq8Yr8Ys8Yu",
    "8Yv8Yw8Yx8Yz8Y.8Y_8Z08Z38Z48Z78Z88ZA8ZB8ZC8ZD8ZF8ZG8ZH8ZJ8ZM8ZN8ZQ8ZR8ZS8ZT8ZU8ZW8ZX8Zc8Zd",
    "8Zf8Zg8Zh8Zi8Zj8Zk8Zl8Zo8Zr8Zs8Zt8Zw8Zx8Zz8Z_8a08a18a38a48a58a68a78a88a98aB8aC8aD8aE8aF8aH",
    "8aK8aL8aM8aN8aO8aS8aT8aU8aV8aW8aY8aZ8aa8ac8ad8ae8af8ai8aj8ak8al8an8ao8ap8ar8at9097PZ7Sf7xQ",
    "9Tq8MR5jc7fq9Rg8X05BB76F5.g6Ni8lY5lx9fl5tX6k96nR8kj8kl90A8_55EB6Ay9uc9uj5H04uh8Az79P8QS5qM",
    "8XP6sl9R55JH4wQ8ks7495Iz9O973V6tv7RG4ub7WK8SI5of5xs8e09YS9OE72E6o_5b46Ef7Sy8XD6yK89p5Wm77L",
    "5EC7WQ9R15K15zc74m5kq8mQ9gC6k35ak9ul7dd6Te69i4zl7MX7.A6qB9Op6md4xm7NI55x6Wt6y.92085m5cM7Hs",
    "8au8av8aw8ax8ay8az8a.8a_8b08b28b38b58b68b78b88b98bA8bB8bC8bD8bE8bF8bG8bH8bI8bJ8bK8bL8bM8bN",
    "8bO8bP8bQ8bR8bS8bT8bW8bX8bY8bZ8ba8bb8bd8be8bf8bg8bh8bi8bj8bk8bl8bm8bn8bo8bp8bq8br8bs8bt8bu",
    "8bv8bw8by8bz8b.8c08c28c48c58c78c88c98cA8cB8cC8cD8cE8cF8cG8cH8cI8cJ8cK8cL8cM8cN8cO8cP8cQ8cR",
    "8cS8cT8cU8cV8cW8cX6H75md91b7gH8mZ5dQ5Ii8808Dl8c18006am5PE80s78t97E56s4vV9Xr6EM4uQ5Fs6Rp85B",
    "5aS6so4u05Zv5Cx6FM9Jn4.T4yA8XZ9YG5at91N7dx4xg83m7MH6o25kS5de5zT6a58Q150Q5to4vP7VZ4xb89w6AH",
    "6OJ92H5nv4w_5zv87690u8247Mh4wc8ZK64F6l55_64v97RA6wY8lZ8kk8mA8lH5y27_y7_C7xE8Cr8Dh5RW6kt9Vp",
    "9Oq5dx5GV9Js6th5l59bk5mv5yL9QG8cY8cZ8ca8cb8cc8cd8ce8cf8cg8ch8ci8cj8ck8cl8cm8cn8co8cp8cq8cr",
    "8cs8ct8cu8cv8cw8cx8cy8cz8c.8c_8d08d38dD8dJ8dK8dL8dN8dO8dP8dR8dT8dV8dW8dX8dY8da8dd8de8df8dg",
    "8di8dj8dk8dm8dn8do8dq8dr8ds8dt8du8dv8dw8dx8dy8dz8d.8d_8e18e28e38e48e58e68e88e98eA8eB8eC8eD",
    "8eE8eF8eG8eH8eI8eJ8eK8eL8eM8eN8eO8eP8eQ8eR8eS8eT5Dm8Bn6en5fq9vm5wK7ye8Ev8Ga8Gb8Dd8T78_E8rY",
    "7R85zn9YM7Xi6OW5JV6Bb4zZ8737N85wu9RD8uA8Rv5IF6pp6sC6mu61_5B77Ke5vz4yO62W5_d5ma7Kn92k9J07Av",
    "6ov6uu9596S95FB5Fp4zH9798ln5F85vy8_26ta4wE7R26c68PU64Q8864zP4_U90.9ny6496uT6uK9Q54w85en9Re",
    "4uE5n_7cv5k78lj7.z7E95VV8AB9315G19175Mx5pg5.X6486io7Bn82o8g98eU8eV8eW8eX8eY8eZ8ea8eb8ec8ed",
    "8ee8ef8eg8eh8ei8ej8ek8el8em8en8eo8ep8eq8er8es8et8eu8ev8ew8ex8ey8ez8e_8f08f18f28f38f48f58f6",
    "8f78f98fA8fB8fC8fD8fE8fF8fG8fH8fI8fJ8fK8fL8fM8fN8fO8fP8fQ8fR8fS8fT8fU8fV8fW8fX8fY8fZ8fa8fb",
    "8fc8fd8fe8ff8fg8fh8fi8fj8fk8fl8fm8fn8fo8fp8fq8fr8fs8ft8fu8fw8fx8fy8fz8f.8f_8g06rq5lJ8ZL9Y4",
    "8nh9fj9up6uA56a5535UZ8Y15EV6Fq8.L5Rj5HO5S67C_6wG7yO8_S8BH64_60e9PY6Rm7wc8sA8t39Ib5op7oa6S8",
    "62c9O580O4wH93d5C09Pe5518_G8Lq95T6PL9Vr5jL5CT7Wu6T26Wz5J971.5km8zz56D5Se5In6KI6Q28rU8r384F",
    "8Hi91j7pV57_8Nx6UZ6Nf6.X8Qa8w15Pg90W7Q271s77b8qZ6Bf58P6pz8qy60E5YU66E6R.8rW69E5Mp6uZ6Sj8zd",
    "8g18g28g38g48g58g68g78g88gB8gC8gD8gE8gF8gG8gH8gI8gK8gL8gM8gN8gO8gP8gQ8gR8gS8gT8gU8gV8gW8gX",
    "8gY8gZ8ga8gb8gc8gd8ge8gf8gg8gh8gi8gj8gk8gl8gm8gn8go8gp8gq8gr8gs8gt8gu8gv8gw8gx8gy8gz8g.8g_",
    "8h08h18h28h38h48h58h68h78h88h98hA8hB8hC8hD8hE8hF8hG8hH8hI8hJ8hK8hL8hM8hN8hO8hP8hQ8hR8hS8hT",
    "8hU8hV8hW8hX8hY8hZ9JX9Nu7Se6W56ce5IB4vD72u8l86HO6MB5k57g450w5le7Ux6lX8fv7oO6o.7RF6Mf8.N5qj",
    "5nL8Ou6W85DW68O7hP6vR7xz6eV7hW5zm6yp5yW6EC6se6TM4u85uG8qc4xN8307Oq9QS6BR6Oj69.6oy8rr75d7zf",
    "5568275Fi91k6AO5Jo8Rm8.P8059KN8KN8_P6rP7FD6MV7SV7K47Wd87x8qU9I84.c6UL7Mv8lA9S76Cl9L79Or8Iu",
    "6CZ7T15.17Bm4w960K6Lq6Bl6jZ6K_8ha8hb8hc8hd8he8hf8hg8hh8hi8hj8hk8hl8hm8hn8ho8hp8hq8hr8hs8ht",
    "8hu8hv8hw8hx8hy8hz8h.8h_8i08i18i28i38i48i58i68i88i98iA8iB8iC8iD8iE8iF8iG8iH8iI8iJ8iK8iL8iM",
    "8iN8iO8iP8iQ8iR8iS8iT8iU8iV8iW8iX8iY8iZ8ia8ib8id8ie8if8ig8ih8ii8ij8ik8il8im8in8io8ip8iq8ir",
    "8is8it8iu8iv8iw8ix8iy8iz8i.8i_8j08j18j28j38j48j55ud7N793H8l18AT6UT6Kl5Gn8SO7Vb82Y8426n14vB",
    "7x781C7Rq6aD6kM69d50y4.45T06C76jY8s.5Fg6Ne7wu5_N6CQ6Et87p87q7zk5uS5pP58s6Pw7df7eQ8qe72P7NK",
    "6xU6ox7gI4uj7R55_W9IV8Xt7x87dD82_97D4xo4yN88V5He5tU6qo8lC7ob8zq82O5uQ5II7Qn5kP6Oy9ga7FW6Wg",
    "8RR6Sn7Cg8lu8lR90G7hv73R75k6B47Uf5On4ux8HN6Vn5Af8R08qk9Ju7jH8j68j78j88j98jA8jB8jC8jD8jE8jF",
    "8jG8jH8jI8jJ8jK8jL8jM8jN8jO8jP8jQ8jR8jS8jT8jU8jV8jW8jX8jY8jZ8ja8jb8jd8je8jf8jg8jh8jj8jk8jl",
    "8jm8jn8jo8jp8jq8jr8js8jt8ju8jv8jw8jx8jy8jz8j.8j_8k08k18k28k38k48k58k68k78k88k98kA8kB8kC8kD",
    "8kE8kF8kG8kH8kI8kJ8kK8kL8kM8kN8kO8kP8kQ8kR8kS8kT8kU8kV8ki8kn8kx8l78lG8lg8m98mU4zF6pe7bT9fx",
    "6AJ78g6Bz4uJ7WM8zi6Im8rQ7l66Xf5w48Z55c66IU5Zk7As6aE9Kb8_z8rO5TW7y08m65766D96BP5DJ6XC7GY8C1",
    "95C5L47T071y6rA55v5Ie8r45d_6xB6t45jS7qh4xK7nz6xJ5jG87g6uD5jN9i36ZL8ug5kN7xy60x7wr92v8rm5bF",
    "6FD7dV8sp5DI6NF7bM8l59Ox7x49Ix7w25Oq9696S07zg5mA91r6Oe5tc4zG6VU51Q4zS5TG5wdEWGEWHEWIEWJEWK",
    "8mu8mv8mw8mx8my8mz8m.8m_8n08n28n38n48n58n88nA8nB8nD8nE8nF8nG8nH8nI8nJ8nK8nM8nN8nO8nP8nR8nS",
    "8nT8nU8nV8nW8nZ8na8nb8nc8nd8ne8nf8ni8nj8nk8nl8nm8nn8no8nq8nr8ns8nt8nx8ny8nz8n.8n_8o08o18o3",
    "8o48o68o78o88oB8oD8oE8oF8oG8oH8oI8oJ8oL8oM8oN8oP8oQ8oR8oS8oT8oU8oV8oW8oX8oY8oZ8oa8ob8oc8od",
    "8oe8of8og8oh8oi8oj4wD4uC5504uG5x_5D54uL4wO4uU9io5ji5Pf4ue7cw4u_5CL4v75aj78x5Dk6mG5RV83a9cN",
    "6lJ7T.9yN4us4wV9yG4vS4vf4wJ8A85jR5Li5OF4x45ED5ET5EZ5Eb5Ek9Tb8rT5CQ5Fr5Cc5Ck5C.8rS5Dc5DZ582",
    "58858E58j58p58_59059C59U59X59S8Il59z5A25A15AG5AJ5627zK4wx4x34x94x24xe4xX4xh4xU4yR4xp4yY4za",
    "4xr4yb4yd4y94yh4zU4zd6Ku4zQ4zT8ok8ol8om8on8oo8op8oq8or8os8ot8ou8ov8ow8ox8oy8oz8o.8o_8p08p1",
    "8p28p38p48p58p68p78p88p98pA8pB8pC8pD8pE8pF8pG8pH8pI8pJ8pK8pL8pM8pN8pO8pP8pQ8pR8pS8pT8pU8pV",
    "8pW8pX8pY8pZ8pa8pb8pc8pd8pe8pf8pg8ph8pi8pj8pk8pl8pm8pn8po8pp8pq8pr8ps8pt8pu8pv8pw8px8py8pz",
    "8p.8p_8q08q18q28q38q48q58q68q78q88q98qA8qB8qC8qD4zV4zN4yo4yz4zs4zq4.H4.94.34.F4z.4zx4.g4zy",
    "4.i4.K4_c4_e4_g4_54_Q4_Z4_S4_H4_V4_u50f51C4_p50i50F50k50j4_.50S50C50b50e51.51351L51851E51i",
    "51x52b52d52f52w53M54653j53i53c53k54754B4xT6mz4zO4zb4_E9.W6n67nq55k5tz9x99cO5615aK5Bv5CD8e7",
    "5CG57h5aP55L4wW55M4wp8Xk8Ya4wr84K8ZI7c05iq8W37.u56h56n56z56y8qE8qF8qG8qH8qI8qJ8qK8qL8qM8qN",
    "8qO8qP8qQ8qR8qS8qW8rH8rI8rN8rV8rb8re8rf8rg8ri8rk8rl8rn8ro8ru8rv8rw8rx8ry8rz8r.8r_8s08s28s3",
    "8s68s78s88s98sC8sD8sE8sF8sG8sI8sJ8sL8sM8sN8sO8sP8sQ8sR8sS8sT8sU8sW8sX8sY8sa8sb8sc8sd8se8sf",
    "8sg8sh8si8sj8sk8sl8sm8so8ss8st8sv8sx8sz8t08t18t28t58t78t88t98tA8tD8tG8tI8tJ8tK57756M56Y56b",
    "8kW8kc8kd8kg8kq8kr8kt8l28l38lB8lF8lE8lI8lJ8lK8lM8lO8lP8lS8lV8lW8la8le8lf8lk8lm8lp8ls8lv8ly",
    "8l_8m08m28m48m78mC8mF8mH8mI8mK8mL8mM8mP8mR8mO8mT8mV8mW8mX8mb8md8mg8mh8mk8ml8mo8mp8mr8ms5Df",
    "5Dw9OT9OY9OX9On9Og9Oz9Oy9P29P99PK9PV9Pd9Pi9Po9Pq9Q89QD9QN9Qm92N92R92T92P92i92X92q92p92s92w",
    "8tL8tO8tP8tS8tW8tX8tY8tb8tc8td8tf8tj8tk8tm8tn8to8tq8ts8ty8t.8t_8u08u18u28u38u48u68u78u88uB",
    "8uD8uE8uG8uH8uI8uJ8uL8uM8uN8uO8uP8uQ8uR8uS8uW8uX8ua8ub8uc8ud8ue8uh8uj8um8uo8up8uq8us8ut8uu",
    "8ux8uy8u.8u_8v38v58v68vC8vD8vE8vF8vG8vJ8vK8vL8vM8vN8vO8vQ8vR8vS8vT8vU8vV8vW8vX8vY8vZ8va8vb",
    "8vd8ve8vg8vh8vk8vn92u92m93F93592.93G93493793J93c93Y93S93N93R93h93l93.94494Y94U94Z94n94l94v",
    "95395658D5b25AY5Ai5Aj5A.5J_5BG5BM5Bm5FV77k7VD5xq57r57y9il5Es5y17LQ5tl5TC5Uf5UX5X.5Yy5Z55ZH",
    "5Sf5Si5Sg5Sp5Sv5Sk5Sl5TS5Sx5T25Tf5U55Th5U65Ty5Tx5Te5Tj5Ts5Tp5Uj5Ua5UC5Uo5VF5Ud5Uq5UJ5UW5VL",
    "5VO5VQ5VP5VI5Uu5Vq5Vl5Vu5Va5VT8vp8vr8vt8vu8vv8vw8vx8vz8v.8w08w28w38w48w68w88w98wA8wB8wC8wD",
    "8wE8wH8wI8wJ8wL8wM8wN8wO8wP8wQ8wR8wT8wV8wW8wX8wY8wZ8wa8wb8wc8wd8we8wf8wg8wj8wk8wm8wn8wp8wq",
    "8wr8ws8wt8wu8wv8wx8wy8wz8w.8w_8x08x18x28x38x48x58x68x78x88x98xA8xB8xC8xD8xF8xG8xH8xI8xJ8xK",
    "8xL8xM8xN8xO8xP8xQ8xR8xS8xT8xU8xV8xW8xX8xY8xZ8xa5WB5WD5Vz5Vj5W05WU5WP5X45WW5Xb5Xi5Y15Y95YQ",
    "5Y09ce9yP67_89v89z89_8AF8AA8Ae8A48AE8AH8AN8AP8Ah8Au8A.8Am8B88BA8BZ8AO8At8Ak8BB8BC8B18Af8Aq",
    "8AX8Ag8AV8B48BE8Aa8BX8C98Bt8Ba8CF8C78BS8Bq8BI8BO8CC8Bx8BJ8CH8CQ8C68CK8CL8BW8BL8CS8DH8DR8DS",
    "8C88EI8Cy8Cq8Cn8ER8DU8Cl8DF8D78D38DV8D08CN8DW8Cj8Cw8Cp8Dc8Db8xb8xc8xd8xe8xf8xg8xh8xi8xj8xk",
    "8xl8xm8xn8xo8xp8xq8xr8xs8xt8xu8xv8xw8xx8xy8xz8x.8x_8y08y18y28y38y48y58y68y78y88y98yA8yB8yC",
    "8yD8yE8yF8yG8yH8yI8yJ8yK8yL8yM8yN8yO8yP8yQ8yR8yS8yT8yU8yV8yW8yX8yY8yZ8ya8yb8yc8yd8ye8yf8yg",
    "8yh8yi8yj8yk8yl8ym8yn8yo8yp8yq8yr8ys8yt8yu8yv8yw8yx8yy8yz8y.8y_8z08z18z28z38z48De8CR8Df8Di",
    "8Dg8Dj8Dk8Em8Du8Ep8Eq8EW8Eg8EJ8ES8E58Dy8Es8Ef8Dz8Eu8Dx8EO8EU8Ee8Ew8Ey8F18G18Fb8FO5W78GO8GB",
    "8FT8Fz8FM8GS8Gu8GH8G68FK8FV8GF8G38Fu8Fv8Fg8F58F08Gc8Fm8FX8HS8HH8HQ8HP8Hp8I78I88Hw8I98Hu8Gy",
    "8H68Hf8Hs8IC8IE8Gn8Hj8J18JD8JG8Jc8Iz8JJ8JA8I_8Iw8JW8IX8Iv8Iq8IN8Jb8JZ8KC7KD8Ku8Jm8Kv8KV8Kw",
    "8z58z68z78z88z98zA8zB8zC8zD8zE8zF8zG8zH8zI8zJ8zK8zL8zM8zN8zO8zP8zQ8zR8zS8zT8zU8zV8zW8zX8zY",
    "8zZ8za8zb8zg8.08.C8.I8.T8.W8.X8.Y8.a8.b8.c8.d8.g8.i8.j8.k8.l8.o8.p8.q8.r8.t8.u8.w8.x8.y8._",
    "8_08_38_68_98_A8_B8_C8_D8_F8_I8_M8_N8_Q8_W8_X8_Z8_d8_i8_l8_n8_o8_q8_r8_s8_w8_x8_y8_.8__907",
    "90890C90E90J90L90O8LM8Kx8J_8Jy8LP8L88Le8La8LU8Lw7UY8L38Lo8Lx8Ma8Me8M78MF8Lv8Mk8MS8M58Mv8Mt",
    "8Mm8NJ8N18NS8N_8Od8O58Of8OM8Oy5x.5y85ay5b180t5bL5bQ5bO5CF5mY5mb5mi5mq69C69g6AV6Ax6BA6BQ6BN",
    "6Bk6CY6Bs6Cv6DB6D36Ej6Fs6Dn6Dw6EE6Eq6Dj6Ei6EA6Df6Ek6Ey6Fo6Fu6FW6F_6F46FU6FE6HI6F66E.6H56H1",
    "6GB6GR6GW6GC6Gc6GX6HU6I46Hj6IM90P90S90Z90a90b90d90e90f90g90h90i90m90n90o90p90q90t90v90w90z",
    "90_91091391591691891991A91B91C91E91K91L91M91P91Q91S91T91U91V91W91X91a91c91d91f91g91h91i91l",
    "91m91n91o91p91s91t91u91v91w91x91y91.92192492592692792992A92C92D92E92F92G92I92K92M92O92Q92S",
    "92U92V92W92a92b92d92e92f92h92j92o92t92y92z92_9306Hw6It6Iu6IP6Iw6J06JG6JN6Ja6JY6K96Kb6Kk5yB",
    "5_I7KP5yH5DV5Fn5Fz5Ff5Fe5Fx5GI5GM5G65HB5HI5HJ5HK5HM5H35GX5HN5HP5GZ5Go5I25IK5Ht5Hn5Ha5IQ5IR",
    "5I45Hs5Hc5IT5JG5Ij5J25Iq5JI5Id5Ic5JJ5JK5Ho5IZ5JL5Ix5I_5JC5JP5JQ5JS5If5Ig5Ia5JT5JF5JU5KR5Jd",
    "5KW5Jz5KK5Jp5KY5KZ5KF5KH5Kd5Kg5Ld5MF5Mr5L95Lj5L15LL5K_5LG5Ky93293393693893993B93C93D93I93K",
    "93L93M93O93P93Q93U93V93W93Z93a93b93f93g93i93k93m93n93o93p93r93s93t93v93w93x93y93_940941943",
    "94594694794894994A94B94C94D94E94F94G94H94I94J94K94L94M94N94O94Q94R94S94T94V94W94X94a94b94c",
    "94d94e94f94g94h94i94j94k94m94o94p94q94r94s94t94u94w94x94y94z94.94_9509519529545Kt5LM5Lr5Ls",
    "5Lt5Kp5Km5LS5MB5NI5M35Mn5Mv5M85M15MV5L.5NM5MH5Lx5NV5Mz5M.5MK5MP5Ng5Nt5N95OV5NH5Nh5Ni5NK5Nc",
    "5NT5N45Nl5Nb5No5Np5NC5ND5Ne5Nr5Na8.K5OU5O85OC5O15Oa5OZ5N.5O05Od5Oj5PO5Ov5PN5Oi5PD5PY5PP5PS",
    "5PC5PK5Q65Pa5Pn5Ph5Px5Py5Q55QJ5Ql5RK5RN5RT5RX5Rr5Rh5Rv5R_5S45SA5S95SS5uF5uP5uK5uH5un5ux5uy",
    "95595795895H95J95K95L95M95O95P95R95S95V95W95c95d95e95h95j95p95w95x95y960961962963964966968",
    "96A96E96F96J96K96L96M96N96O96P96S96T96U96V96W96X96a96b96c96d96e96f96h96i96m96n96o96p96s96t",
    "96u96v96x96y96z96.96_97097197297397497597697897B97G97I97J97K97L97M97N97O97P97Q97R97T97U97V",
    "97W97X97Y97Z97a97b5ut5v45vK5vR5vU5vX5oC5nw5oD5oG5oM5o85oO5oP5oH5oQ5oS5or5oY5oz5oi5oh5on5oZ",
    "5p15ot5p45pI5pa5pB5pb5q25q35qd5qc5qk5qa5qU5q65qR5rO5q.5qq5qz5ri5rR5rl5rT5rh5rB5rA5rf5rq5s2",
    "5sP5sT8np5st5t55zp5zt5.25.75.95.C5.L5.P5.S5.e5.j5.r5.y8XY5zX7Aj7Am7Aq7At7Au7B37B17BE7BD7BI",
    "7Be7Bl7Bf7Bo7Bq7Bt7C17Bp7C37Bw97c97d97e97f97g97h97i97j97k97l97m97n97o97p97q97r97s97t97u97v",
    "97w97x97y97z97.97_98098198298398498598698798898998A98B98C98D98E98F98G98H98I98J98K98L98M98N",
    "98O98P98Q98R98S98T98U98V98W98X98Y98Z98a98b98c98d98e98f98g98h98i98j98k98l98m98n98o98p98q98r",
    "98s98t98u98v98w98x98y98z98.98_9909919929939949957Bx7CN7CJ7CX7CA7CU7CT7CL7CY7Cv7Cb7Ci7Cu7Cn",
    "7DG7DD7DN7DW7Di7Dl7D.88R5ab9Zd5aa5a29bZ9bd9be9bf9bg9bh9bi9bq9bt9bz9c09c49c79cA9cD9cG9cH9cJ",
    "9cK9cL5w05wH5wB5wM5wb5wW5wv5wr5w.5wp8rJ5xI5xH5xR5xe5xg86w5_45_95_M5_F6035_k6045_X5_a5_.605",
    "6065_g5_j5_u60P60r60c60R60F60D60f60h60A60_60X61u61v61x61w61299699799899999A99B99C99D99E99F",
    "99G99H99I99J99K99L99M99N99O99P99Q99R99S99T99U99V99W99X99Y99Z99a99b99c99d99e99f99g99h99i99j",
    "99k99l99m99n99o99p99r99s99t99u99v99w99x99y99z99.99_9A09A19A29A39A49A59A69A79A89A99AA9AB9AC",
    "9AD9AF9AG9AH9AI9AJ9AK9AL9AM9AN9AO9AP9AQ9AR9AS9AT9AU9AV9AW9AX9AY9AZ9Aa9Ab9Ac9Ad61g61z62M62Q",
    "62j62T62362I62C62R63i62x62n63T63O63663Q62q64W64c64L64Z63q64064E64h65A65r66i66K66d66t67K67r",
    "5_T9Qp9Nf9Nh9Nn9Np9Nr9Ns9Ny9N.9O39O49O69O89OA9OB9OC9OD9OF9OI9OL9OM9ON9OP9OQ4ui78_68L6mr6nK",
    "6nS6nA6oZ6o56oG6oK6oC6ne6nf6nq6ns6o66of6pG6pK6oj6pt6pu6pn6pN6oo6pW6pM6pw6ph6pk6on6pJ6pl6p.",
    "9Ae9Af9Ag9Ah9Ai9Aj9Al9Am9An9Ao9Ap9Aq9Ar9As9At9Au9Av9Aw9Ax9Ay9Az9A.9A_9B09B19B29B39B49B59B6",
    "9B79B99BA9BB9BC9BD9BE9BF9BG9BH9BI9BJ9BK9BL9BM9BN9BO9BP9BQ9BR9BS9BT9BU9BV9BW9BX9BY9BZ9Ba9Bb",
    "9Bc9Bd9Be9Bf9Bg9Bh9Bi9Bj9Bk9Bl9Bm9Bn9Bo9Bp9Bq9Br9Bs9Bt9Bu9Bv9Bw9Bx9By9Bz9B.9B_9C09C19C29C3",
    "9C49C59C69C79C89C96qv6qd6qC6r36r86q76q46qP6qE6qh6rD6qk6qr6qQ6rF6rI6rK6qp6sH6rl6sU6sW6rU6sJ",
    "6sK6rS6rW6ry6rZ6uQ6t76t56tU6uE6s_6tW6uH6tc6tT6tP6uM6sh6uC6sk6uh6vk6vE6vh6wo6vV6w66vJ6vK6uo",
    "6ub6v46xV6wn6wO6xW6yj6xY6wb6wd6wz6wx6wt6xN6wq6xF6wF6x26wV6zY6z66z76ya6yL6xv6yl6ys6zB6zq6yg",
    "6y96yf6.96.D6.C6zu6zo6zy6zw6_H9CA9CB9CC9CD9CE9CF9CG9CH9CI9CJ9CK9CL9CM9CN9CO9CP9CQ9CR9CS9CT",
    "9CU9CV9CW9CX9CY9CZ9Ca9Cb9Cc9Cd9Ce9Cf9Cg9Ch9Ci9Cj9Ck9Cl9Cm9Cn9Co9Cp9Cq9Cr9Cs9Ct9Cu9Cv9Cw9Cx",
    "9Cy9Cz9C_9D09D19D29D39D49D59D69D79D89D99DA9DB9DC9DD9DE9DF9DG9DH9DI9DJ9DK9DL9DM9DN9DO9DP9DQ",
    "9DR9DS9DT9DU9DV9DW9DX9DY9DZ9Da9Db9Dc9Dd9De9Df9Dh6_96.d6.v6.s6_26_X6_k6_U6_W6_l70Q70Z70R70v",
    "70r71F71U5k05k45kL5kJ5kb5ku7Kl9gU6Gq5la5lk8am5lm8v78i78.s8_J8_L8_b8_k8_a8_f8_c8_p8_e905904",
    "90B90c90H90D90M90X90r90s90j90l91491H91I91G91e91O91Y91R6Qv91q91z92292892392B5zG5zN5zM5zO5mx",
    "5Ih5nG5nP5jn5nZ5nc7.y5yg5yf5yj89q5yy9ix5nk5c15c35cD5cf5cg5cZ9Di9Dj9Dk9Dl9Dm9Dn9Do9Dp9Dq9Dr",
    "9Ds9Dt9Du9Dv9Dw9Dx9Dy9Dz9D.9D_9E09E19E29E39E49E59E69E79E89E99EA9EB9EC9ED9EE9EG9EH9EI9EJ9EK",
    "9EL9EM9EN9EO9EP9EQ9ER9ES9ET9EU9EV9EW9EX9EY9EZ9Ea9Eb9Ec9Ed9Ee9Ef9Eg9Eh9Ei9Ej9Ek9El9Em9En9Eo",
    "9Ep9Eq9Er9Es9Et9Eu9Ev9Ew9Ex9Ey9Ez9E.9E_9F09F19F29F39F49F59F69F79F89F99FB9FC9FD5cN5dA5ch5cU",
    "5ca5dI5co5cl5dN5c.5e55e65dT5e85dZ5dO5dv5eC5e95eo5eq5eH5eZ5eJ5f05fd5fA5fL5ey5fY5fr83i5gg5gR",
    "5ft5fw5g.5hh5go5hI5hK5gu5hW5hZ5hn5hM5hc5hO5hS5i95iN5iM5io5it5j05mL5mS5jQ5jb5jp5jH5jJ5jY9fr",
    "9ft9fu9fw9f_9fz9g09g19g59g89gA9gG9gI9gJ9gM9gO9gR9gS9gT9gV9gW9gY9gZ9gb9gd7wV7wX7wZ7wb7we7wf",
    "9FE9FF9FG9FH9FI9FJ9FK9FL9FN9FO9FP9FQ9FR9FS9FT9FU9FV9FW9FX9FY9FZ9Fa9Fb9Fc9Fd9Fe9Ff9Fg9Fh9Fi",
    "9Fj9Fk9Fl9Fm9Fn9Fo9Fp9Fq9Fr9Fs9Ft9Fu9Fv9Fw9Fx9Fy9Fz9F.9F_9G09G19G29G39G49G59G69G79G89G99GA",
    "9GB9GC9GD9GE9GF9GG9GH9GI9GJ9GK9GL9GM9GN9GO9GP9GQ9GR9GS9GT9GU9GV9GW9GX9GY9GZ9Ga9Gb9Gc9Gd9Ge",
    "9Gf9Gg9Gh9Gi9Gj9Gk7wj7wm7w.7x07x17x27x97xB7xC7xG7xK7xN7xR7xW7xX7xe7xh7xk7xl7xn7xo7yD7xs7xw",
    "7xx7x.7y17y27y37y77y87yB7yC7yF7yH7yI7yN7yP7yS7yR7yV7yX7yY7yZ7ya7yb7yc7yd7yg7yh7yi7yj7yl7ym",
    "7yn7yo7yp7yr5vw7L_5tR7K.92L7EE7EH7Ek7EY7EV7FF7F27FH7Et7Ep7F07F97F87Fb7FP9Xy7GA7Ff7Fd7FU7Ew",
    "7Fo7GF7Gg7HR7Gc7Gb7Ge7Gm7Gk7Gi9Gl9Gm9Gn9Go9Gp9Gq9Gr9Gs9Gt9Gu9Gv9Gw9Gx9Gy9Gz9G_9H09H19H29H3",
    "9H49H59H69H79H89H99HA9HB9HC9HD9HE9HF9HG9HH9HI9HJ9HK9HL9HM9HN9HO9HP9HQ9HR9HS9HT9HU9HV9HW9HX",
    "9HY9HZ9Ha9Hb9Hc9Hd9He9Hf9Hg9Hi9Hj9Hk9Hl9Hm9Hn9Ho9Hp9Hq9Hr9Hs9Ht9Hu9Hv9Hw9Hx9Hy9Hz9H.9H_9I0",
    "9I19I29I39I49IH9IM9IO9J79JF9JJ9JK9JQ9Jc9Jx9KS9KW7GR7GQ7H17HS7HN7HL7HP7Ht7Hj7H.7IS7IE7I07I1",
    "7I77IB7IU7Ie7If7IG7Id7JI7Iw9Vg9Vh9Vi6TC6TJ6TU6T86Tf6Ub6U76Tg6Tp6UO6Ud6Tr6Ue6UU6Uj6UB6Tt6Ty",
    "6Vm6W96VO6WA6Vf6Um6WC6VP6Ur6VQ6Up6VT6W06V36Uu6VY6WE6V16Vz6Wo6Wp6XW6XX6XE6XY6X46Xa6Y36WT6XL",
    "6Xc6X16Xd6X06W.6XA6X96Wf6Yr6YF6Xq6Xt6YJ6Xh6Z26bk6Zy6aV6aW6Zv9Kd9Kp9Kz9L39L89LB9LL9LQ9LW9Lk",
    "9Lq9Lr9Lt9Lu9Lv9Lw9Lx9Ly9Lz9L.9M09M19M29M39M49M59M69M79M89M99MA9MB9MC9MD9ME9MF9MG9MH9MI9MJ",
    "9MK9ML9MM9MN9MO9MP9MQ9MR9MS9MT9MU9MV9MW9MX9MY9MZ9Ma9Mb9Mc9Md9Me9Mf9Mg9Mh9Mi9Mj9Mk9Ml9Mm9Mn",
    "9Mo9Mp9Mq9Mr9Ms9Mt9Mu9Mv9Mw9Mx9My9Mz9M.9M_9N09N19N29N39N49N59N69N79N89N99NA9NB6aa6Zm6aB6a1",
    "6bN6ZZ6aG6bn6av6bW6b26bT6c46bh6c06cO6bu6aq6dC6c76c86dE6c96bc6bZ6bv6cR6cd6cx6ch6cj6dK6cn6d1",
    "6dA6dV6cL6dW6cD6d_6el6dj6eN6eO6fb6do6f46e.6gW6fG6fR6er6gE6fv6ez6ee6fO6fy6gH6gG6gf6gN6gh7Ct",
    "7DI6k16k26k76k46kI6kJ6kD6kQ6kR6kX6kg8zh8zj8zn8zo8zp8zr8zs8zu8zt8zv8zw8zy8z.8.18.28.48.78.B",
    "9NC9ND9NE9NF9NG9NH9NI9NJ9NK9NL9NM9NN9NO9NP9NQ9NR9NS9NT9NU9NV9NW9NX9NY9NZ9Na9Nb9Nc9Nd9Ni9N_",
    "9O79OJ9OO9OR9OU9OW9OZ9Oa9Ob9Oc9Od9Oe9Of9Oh9Oi9Oj9Ol9Om9Ot9Ou9Ov9Ow9O.9P19P39PA9PE9PF9PH9PI",
    "9PJ9PM9PN9PO9PP9PQ9PS9PT9PU9PW9PZ9Pb9Pc9Ph9Pj9Pk9Pl9Pm9Pn9Pp9Pu9Pv9Pw9Px9Py9Pz9P.9P_9Q09Q1",
    "9Q29Q39Q49Q79Q99QA8.D8.E8.F8.O8.Q8xE68B68N68R68V68Y68X68b68a68i87d7Jl7Jq7J_7KF7KH7KJ6Kq6Nk",
    "6Nl6Nm6OA6OP6To6O36OL6O07256Rt6OT6Oq6On6Os6Or8066PV6PK6P16PF6PM6PX6PN6Pt6Q46QC6Qd6QT6Q.6RR",
    "6RS6Rc6Rf8qo8qp8qs8qx8qz8r08r58r68r88r98r78rD8rL8rP8d78dA8dB8dC8dE8dF8dG8dH79k7AV79T79c79l",
    "79.79_7A47AB7AD7AF7AI6C86Co6Em9QC9QE9QH9QI9QJ9QL9QM9QQ9QR9QT9QU9QV9QW9QX9QY9QZ9Qa9Qb9Qc9Qe",
    "9Qf9Qg9Qh9Qi9Qj9Qk9Ql9Qn9Qo9Qq9Qr9Qt9Qu9Qw9Qx9Q_9R29R39R89RA9RB9RG9RH9RJ9RK9RM9RN9RO9RP9RQ",
    "9RR9RS9RT9RU9RV9RX9RY9RZ9Ra9Rb9Rc9Rd9Rh9Ri9Rj9Rk9Rm9Rn9Ro9Rq9Rr9Ru9Rw9Rx9Ry9Rz9R_9S29S39S5",
    "9SA9SB9SC9SG9SH9SI9SK9SL9SN9SO9SP9SQ9SR9ST9SV9SW6G_6JO8046lg6lp6lz6lr6lv6m56m76m66mD6mL6mO",
    "6mP6mQ6mX6mf6ma6mg6mo6Kr6LL6Lh79D79I79M78m8PY58M82V82S82J82y6SA82z82n82h82j82q82t83d83e83f",
    "83g83R83283483P83D83N6SG83T83h83n83q83j84D84E83o83y6SL84I8nQ84s84U84i84O84o85885C85J85q85P",
    "85Q85n85W85f85y85z85j85d5XD5gr86886286H6xL86Z86g87C6Sc87A86x9SX9SY9SZ9Sa9Sb9Sc9Sd9Se9Sf9Sh",
    "9Si9Sk9Sl9Sn9Sp9Sq9Sr9Ss9St9Sw9Sx9Sy9Sz9S_9T09T19T29T39T49T59T69T79T89T99TA9TB9TC9TD9TE9TF",
    "9TG9TH9TK9TL9TN9TO9TQ9TS9TT9TV9TZ9Ta9Tc9Td9Te9Tg9Th9Ti9Tj9Tk9Tl9Tm9Tn9To9Tr9Tt9Tu9Tv9Tw9Tx",
    "9Tz9T.9T_9U09U19U29U39U49U69U79U89U99UA9UC9UE9UF9UG9UJ9UL9UM9UN9UP9UQ9UR9US9UT87186c6ia6it",
    "6iv6j36j66jP9ZH9ZI9ZJ9ZL9ZP9ZQ6kp5z06l28dp6MG9zH6MJ6My6N66N46N36NC6NE6NI6NM72072S72M72T72x",
    "73072t72h72n73e73A74G74J74M74l74n75p75S75e75575o75A75u75w76O76p76r76e76W77W77K77d77v78T78e",
    "71i74O75c76v68.68z6936986997ax7b07b67b97bR7bS7bJ7bQ7bY7bN7bW7bl7bd7bw7c57cA7cQ7cd7cp5_H5_G",
    "9UU9UV9UX9UY9Ua9Ub9Uc9Ud9Ue9Uf9Ug9Ui9Uk9Um9Un9Up9Ur9Us9Ut9Uu9Uv9Uw9Ux9Uy9Uz9U.9U_9V09V19V2",
    "9V39V49V59V69V79V89V99VA9VB9VC9VD9VE9VF9VG9VH9VI9VJ9VK9VL9VM9VN9VO9VP9VQ9VR9VS9VT9VU9VV9VW",
    "9VX9VY9VZ9Va9Vb9Ve9Vk9Vl9Vm9Vn9Vo9Vq9Vt9Vu9Vv9Vw9Vx9Vy9Vz9V.9V_9W09W19W29W39W49W59W69W79W8",
    "9W99WA9WB9WC9WD9WE60y61T61Q61d61161P61Z62h64664D65T66f66T67B67H68682081_6oJ6ps6ty7Vs7Vu7W0",
    "7W97WN7WO7WH6Mh7Wj7WS7WT7Wv7Ww7Wx7WV7Wy7Wb7Wi7WZ7Wf7XE7Xj7XM7XN7Wc7XG7X77XC7Xg7YR7YJ7YQ7Y7",
    "7YS7YX7YZ7Yo7Yv7Yb7ZK7ZP7Z97Zi7Zo7a57Zq7aJ7aa7aU7aq9.R9xv9xx9xy7Rn7S47SD7Rv7S77S87SQ7SY7SP",
    "7Sj7Sc7Sr7Su7TG7TH7T77T37TQ7Te9WF9WG9WH9WI9WJ9WK9WL9WM9WN9WO9WP9WQ9WR9WS9WT9WU9WV9WW9WX9WY",
    "9WZ9Wa9Wb9Wc9Wd9We9Wf9Wg9Wh9Wi9Wj9Wk9Wl9Wm9Wn9Wo9Wp9Wq9Wr9Ws9Wt9Wu9Wv9Ww9Wx9Wy9Wz9W.9W_9X0",
    "9X19X29X39X49X59X69X79X89X99XA9XB9XC9XD9XE9XF9XG9XH9XI9XJ9XK9XL9XM9XN9XO9XP9XQ9XR9XS9XT9XU",
    "9XV9XW9XX9XY9XZ9Xa9Xb9Xc9Xd9Xe9Xf9Xg9Xh9Xi9Xj9Xk7TY7Tb7T_7UD7Tz7U07UC7UH7UV7UW7Um7Ur7Uz7Kw",
    "7L07LE7LB7L87LR7Lo7Lv7M37zO7zX7zV8f87ze7zq7zn7zv7.17z.7RD7Rb8Wo9I59I69I79IB9IA9IC9ID9IF9IG",
    "9IK9IN9IL9IQ9IR9IS9IZ9Ia9Ih9Ig9Ij9Ii9Il9Im9Io9Iq9Is9It9Iu9Iv9Iw9Iy9Iz9I_9J49J89J99JA9JB9JC",
    "9JD9JE9JG9JH9JI9JL9JM9JN9JP9JO9JR9JU9JV9JW9JY9Ja9Jb9Jd9Je9Jg9Xl9Xm9Xn9Xo9Xp9Xq9YB9YE9YI9YL",
    "9YP9YZ9Ye9Yf9Yg9Yh9Yi9Yj9Yk9Yl9Ym9Yn9Yo9Yp9Yq9Yr9Ys9Yt9Yu9Yv9Yw9Yx9Yy9Yz9Y.9Y_9Z09Z19Z29Z3",
    "9Z49Z59Z69Z79Z89Z99ZA9ZB9ZC9ZD9ZF9ZG9ZK9ZM9ZN9ZR9ZS9ZT9ZW9ZX9ZY9ZZ9Za9Zb9Zc9Zf9Zg9Zh9Zi9Zj",
    "9Zk9Zl9Zm9Zn9Zo9Zp9Zq9Zr9Zs9Zt9Zu9Zv9Zw9Zx9Zy9Zz9Z.9Z_9a09a19a29a39a49a59a69a79Jf9Jh9Jk9Jl",
    "9Jp9Jq9Jr9Jt9Jv9Jy9Jz9J_9K39K29K69K79K99KA9KD9KE9KF9KI9KJ9KK9KL9KM9KO9KR9KT9KU9KV9KY9Kg9Kh",
    "9Kf9Ki9Kn9Ko9Kq9Ks9Kt9Ku9Ky9K.9K_9L29Kr9L49L59L69L99LC9LE9LF9LI9LJ9LK9LM9LN9LO9LP9LR9LU9LV",
    "9LT9LX9LY9La9Lb9Lc9Ld9Le9Lf9Lg9Lh9Li9Ll9Ln9Lo9Lp9Kw7Vd7Vi9R97dL7dj7dZ7dh7e65r77e37e27eU7eK",
    "9a89a99aA9aB9aC9aE9aF9aH9aI9aJ9aK9aL9aM9aN9aO9aP9aQ9aR9aS9aT9aU9aV9aW9aX9aY9aZ9aa9ab9ac9ad",
    "9ae9af9ag9ah9ai9aj9al9am9an9ao9ap9aq9ar9as9at9au9av9aw9ax9ay9az9a.9a_9b09b19b29b39b49b59b6",
    "9b79b89b99bA9bB9bC9bD9bE9bF9bG9bH9bI9bJ9bM9bN9bO9bP9bQ9bR9bS9bT9bU9bV9bW9bX9bY9ba9bc9bp9bu",
    "9bv9bx9b.9c29c39c97ev7et7fH9xF9cb7fm7Q87QE7QJ7QP7Qa7JU7JW7Ki9uW9uY9ue9uf9ug9uh9ui9uo9un9us",
    "9uu9ut9uv9uw9u.9v19v29v49v69v79v89v99vB9vC9vE9vH9vL9vN9vQ9vR9vS9vU9vZ9vc9vd9ve9vf9vg9vh9vi",
    "9vn9vj9vp7MI7MK7MM7MW7MT7Mi7MZ7Mp7Mq7Mu7N47Mn7Mm7N37N27NM7ND7NZ7Ne7Nc7Na7Nh7Nd7O37Nn7Ny7N_",
    "7OG7O07O57OC7ON7OA7Ob7OO7OL7OP9cC9cE9cQ9cR9cS9cT9cU9cV9cW9cX9cY9cZ9ca9cc9cd9cf9cg9ch9ci9cj",
    "9ck9cl9cm9cn9co9cp9cq9cr9cs9ct9cu9cv9cw9cx9cy9cz9c.9c_9d09d19d29d39d49d59d69d79d89d99dA9dB",
    "9dC9dD9dE9dF9dG9dH9dI9dJ9dK9dL9dM9dN9dO9dP9dQ9dR9dS9dT9dU9dV9dW9dX9dY9dZ9da9db9dc9dd9de9df",
    "9dg9dh9di9dj9dk9dl9dm9dn9do9dp9dq9dr9ds9dt9du9dv7OR7Oy7OY7OW7P07Oj7Om7O_7Or7P37O.7Op7PD7PU",
    "7PK7PS7PM7Ph7Pl7_A7hc7fu7fv7g07g67g87gL7gc7gW7gi7ge7gj7gp8Xa8Xf8Xo8Xz8X_8Y28YY8Z68Yt8Yy8Z9",
    "8ZY8ZE8ZZ8Zb8Zn8aQ8Zy8Ze8Z.8Zm8aX8aP8aJ8aR8aA8aq8ah8as8b18bc8bx7MB83b7Qo7Qq7VS80I80K80M80S",
    "80W80Y80b80c80d80f80e80n80B80r81381681D81I81f81n8c39Xu9Y09Y39dw9dx9dy9dz9d.9d_9e09e19e29e3",
    "9e49e59e69e79e89e99eA9eB9eC9eD9eE9eF9eG9eH9eI9eJ9eK9eL9eM9eN9eO9eP9eQ9eR9eS9eT9eU9eV9eW9eX",
    "9eY9eZ9ea9eb9ec9ed9ee9ef9eg9eh9ei9ej9ek9el9em9en9eo9ep9eq9er9es9et9eu9ev9ew9ex9ey9ez9e.9e_",
    "9f09f19f29f39f49f59f69f79f89f99fA9fB9fC9fD9fE9fF9fG9fH9fI9fJ9fK9fL9fM9fN9fO9fP9Y99YC9YD9YF",
    "9YK9YQ9YR9YU9YV9YX9YY9Yb9Yc8PD8PK8Pi8Pk8P_8Pw8Py8Px8Qe8QD8QB8Qi8QT8Qd8QZ8Qg8QJ8Qf8Qs8R48Qr",
    "8RE8Qm8Qw8Qn8Ql8R98RF8Qq8Rf8Rn8Ro8Rj8Rp8RG8SJ8RU8Rq8RV8RO8RH8S38S78Ru8S88SA8SD8S98SZ8Sx8SU",
    "8Sb8Sk8SQ8S.8T88Sq8Sn8Sf8St8S_8U28SY8Tz8T.8Tx8TW8Tm8TC8Tk8UB8TJ8TZ8Ty8Ta8TP8Tb8UJ8Ul8Ue8VI",
    "9fQ9fR9fS9fT9fU9fV9fW9fX9fY9fZ9fa9fb9fc9fd9fe9ff9fg9fh9fo9g39g99gD9gE9gK9gL9gP9gc9gf9gg9gh",
    "9gi9gj9gk9gl9go9gp9gq9gr9gv9gx9gz9g.9g_9h39h49h69h79h89h99hA9hD9hE9hF9hG9hI9hK9hL9hM9hN9hP",
    "9hQ9hR9hS9hT9hU9hW9hY9hZ9ha9hb9hd9he9hf9hg9hi9hk9hm9hn9ho9hp9hq9hr9hs9ht9hu9hw9hy9hz9h.9h_",
    "9i09i19i29i49i59i68V68U88U58Uj8UN8U38Uh8Vb8Ui8Ur8Up8VB8VJ8Uz8VH8V08VA8VR8Vg8VW8Vk8WM8WJ8V.",
    "8WA8WR8WX8Wv8Wy7ys7z27z47z588G7hw7hz7i87i37i47iL7iA7ih7iF7j77iu7ig7iP7ik7in7iW7ib7ia7ip7i.",
    "7iU7jO7jQ7j57jr7jC7jT7jW7jk7jx7jY7jo7jn7kG7kc7kd7ku7ki7kT7ke7k57kg7kS7kY7kh7kq7lH7l17lC7lT",
    "7lQ7lb7lc7lg7mC7l.7ly7mF7mM7mB9i79i99iA9iB9iC9iD9iE9iG9iH9iI9iK9iL9iM9iN9iO9iP9iQ9iR9iS9iT",
    "9iU9iW9iX9iY9ia9ib9ic9id9ie9if9ig9ih9ii9ij9ik9im9in9ip9iq9ir9is9it9iu9iv9iw9iz9i.9i_9j09j6",
    "9jA9jB9jC9jE9jG9jI9jJ9jL9jM9jN9jO9jP9jQ9jR9jS9jT9jU9jV9jW9jX9jY9jZ9ja9jb9jc9jd9je9jf9jg9jh",
    "9ji9jj9jk9jl9jm9jn9jo9jp9jq9jr9js9jt9ju9jv9jw9jx7mV7mg7mc7mu7n17n087.88188288487i8X488X88Y",
    "88Z88j88l88e88h88u88x88p88q88.89489989B89F89Q89V89e8X.8Y58Y88ZO8ZV8bU7.T7.V7.d7.l7.m7.o7ny",
    "6L97oH7oT7oS7oU7oY7oo7oy7oz7p17p77pC7pD7p87p57pN7pe89k6Qe7._7_E7_L7_b7_X7_c7_f7_k7_p7pu7rt",
    "7sc7sk7v77wR9wu9wq8rp8s48sK8sH8sn8rd8rj8n78n995A95G95E95F95a9jy9jz9j.9j_9k09k19k29k39k49k5",
    "9k69k79k89k99kA9kB9kC9kD9kE9kF9kG9kH9kI9kJ9kK9kL9kM9kN9kO9kP9kQ9kR9kS9kT9kU9kV9kW9kX9kY9kZ",
    "9ka9kb9kc9kd9ke9kf9kg9kh9ki9kj9kk9kl9km9kn9ko9kp9kq9kr9ks9kt9ku9kv9kw9kx9ky9kz9k.9k_9l09l1",
    "9l29l39l49l59l69l79l89l99lA9lB9lC9lD9lE9lF9lG9lH9lI9lJ9lK9lL9lM9lN9lO9lP9lQ9lR95Y95X95m95f",
    "95l95z95.95o95q95v96C96596G96D96H96Y96Z96g96j96k96l96r96q96w8nL9v.8su8th8u58vP8vf8sr8s_8sy",
    "8sw8t48tM8tN8tQ8tU8tE8tF8tR8t68ti8tt8tu8tZ8tv8tx8ta8u98tz8uK8uT8uV8ui8uk8uZ8ul8uw8v08uv8ur",
    "8uz8un8v98v18v28vH8vI8vA8vm8vs8vy8vl8vq8w58wF8wK8wG8wS8wU8nu8o28oA8o58oO8oK6MR8dM8dU8dQ8dS",
    "9lS9lT9lU9lV9lW9lX9lY9lZ9la9lb9lc9ld9le9lf9lg9lh9li9lj9lk9ll9lm9ln9lo9lp9lq9lr9ls9lt9lu9lv",
    "9lw9lx9ly9lz9l.9l_9m09m19m29m39m49m59m69m79m89m99mA9mB9mC9mD9mE9mF9mG9mH9mI9mJ9mK9mL9mM9mN",
    "9mO9mP9mQ9mR9mS9mT9mU9mV9mW9mX9mY9mZ9ma9mb9mc9md9me9mf9mg9mh9mi9mj9mk9ml9mm9mn9mo9mp9mq9mr",
    "9ms9mt9mu9mv9mw9mx8db8dh8dl8e.8ic9TJ9Rf9Rp9Rl9S69S19S89SF9SE9Sg9Sj9Sm9S.9.09.39.59.69.79.8",
    "9.99.A9.C9x.9yB9yD9Qv9Qy9Qz9RE9RI7U_9RW9AE9Ak9B89C.9Dg9FA9EF9G.9Hh9n_9o29o59o69o79o87eZ9oB",
    "9oE9oG9oH9oI9oK9oL9oQ9oR9oU9oV9oW9oX9oY9oZ9ob9oc9od9oe9of9oh9oj9ok9om9on9oo9op9oq9or9os9ot",
    "9ow9ox9oy9oz9p49p59p69p79pA9pB9my9mz9m.9m_9n09n19n29n39n49n59n69n79n89n99nA9nB9nC9nD9nE9nF",
    "9nG9nH9nI9nJ9nK9nL9nM9nN9nO9nP9nQ9nR9nS9nT9nU9nV9nW9nX9nY9nZ9na9nb9nc9nd9ne9nf9ng9nh9ni9nj",
    "9nk9nl9nm9nn9no9np9nq9nr9ns9nt9nu9nv9nw9nx9nz9n.9o09o39o49o99oA9oC9oF9oJ9oM9oN9oO9oP9oT9og",
    "9oi9ol9ov9o.9o_9p09p19p29p89p99pH9pI9pQ9pR9pW9pX9pC9pD9pE9pF9pG9pJ9pK9pL9pN9pO9pP9pS9pT9pV",
    "9pY9Ty9U59UH9UI9UK9Ul9Uh9UZ9Uo9Uq9gn9gm9gt9vO9gs9gw9gy9h19h09h59h29hB9hC9hH9j59j39j79j99j8",
    "9jD9jH9Ze9aD9ak9bL9bK9hV9hX9hc9hl9hh9hx9hj9hv9i89iF9iJ9iV9iZ9wz9w.7ux9w29w79w89wB9wI9FM9wT",
    "9wV9xR9xS9xT9xW9xV9xY9xf9xd9xb9xg9xl9yY9yi9yl9yv9yt9yz9y.9z49pZ9pa9pb9pc9pd9pe9pf9pg9ph9pi",
    "9pj9pk9pl9pm9pn9po9pp9pq9pr9ps9pt9pu9pv9pw9px9py9pz9p.9p_9q09q19q29q39q49q59q69q79q89q99qA",
    "9qB9qC9qD9qE9qF9qG9qH9qI9qJ9qK9qL9qM9qN9qO9qP9qQ9qR9qS9qT9qU9qV9qW9qX9qY9qZ9qa9qb9qc9qd9qe",
    "9qf9qg9qh9qi9qj9qk9ql9qm9qn9qo9qp9qq9qr9qs9qt9qu9qv9qw9qx9qy9qz9q.9q_9r09r19r2E8qE8rE8sE8t",
    "E8uE8vE8wE8xE8yE8zE8.E8_E90E91E92E93E94E95E96E97E98E99E9AE9BE9CE9DE9EE9FE9GE9HE9IE9JE9KE9L",
    "E9ME9NE9OE9PE9QE9RE9SE9TE9UE9VE9WE9XE9YE9ZE9aE9bE9cE9dE9eE9fE9gE9hE9iE9jE9kE9lE9mE9nE9oE9p",
    "E9qE9rE9sE9tE9uE9vE9wE9xE9yE9zE9.E9_EA0EA1EA2EA3EA4EA5EA6EA7EA8EA9EAAEABEACEADEAEEAFEAGEAH",
    "9r39r49r59r69r79r89r99rA9rB9rC9rD9rE9rF9rG9rH9rI9rJ9rK9rL9rM9rN9rO9rP9rQ9rR9rS9rT9rU9rV9rW",
    "9rX9rY9rZ9ra9rb9rc9rd9re9rf9rg9rh9ri9rj9rk9rl9rm9rn9ro9rp9rq9rr9rs9rt9ru9rv9rw9rx9ry9rz9r.",
    "9r_9s09s19s29s39s49s59s69s79s89s99sA9sB9sC9sD9sE9sF9sG9sH9sI9sJ9sK9sL9sM9sN9sO9sP9sQ9sR9sS",
    "9sT9sU9sV9sW9sX9sYEAIEAJEAKEALEAMEANEAOEAPEAQEAREASEATEAUEAVEAWEAXEAYEAZEAaEAbEAcEAdEAeEAf",
    "EAgEAhEAiEAjEAkEAlEAmEAnEAoEApEAqEArEAsEAtEAuEAvEAwEAxEAyEAzEA.EA_EB0EB1EB2EB3EB4EB5EB6EB7",
    "EB8EB9EBAEBBEBCEBDEBEEBFEBGEBHEBIEBJEBKEBLEBMEBNEBOEBPEBQEBREBSEBTEBUEBVEBWEBXEBYEBZEBaEBb",
    "EBcEBdEBeEBfEBgEBhEBiEBjEBkEBl9sZ9sa9sb9sc9sd9se9sf9sg9sh9si9sj9sk9sl9sm9sn9so9sp9sq9sr9ss",
    "9st9su9sv9sw9sx9sy9sz9s.9s_9t09t19t29t39t49t59t69t79t89t99tA9tB9tC9tD9tE9tF9tG9tH9tI9tJ9tK",
    "9tL9tM9tN9tO9tP9tQ9tR9tS9tT9tU9tV9tW9tX9tY9tZ9ta9tb9tc9td9te9tf9tg9th9ti9tj9tk9tl9tm9tn9to",
    "9tp9tq9tr9ts9tt9tu9tv9tw9tx9ty9tz9t.9t_9u09u19u2EBmEBnEBoEBpEBqEBrEBsEBtEBuEBvEBwEBxEByEBz",
    "EB.EB_EC0EC1EC2EC3EC4EC5EC6EC7EC8EC9ECAECBECCECDECEECFECGECHECIECJECKECLECMECNECOECPECQECR",
    "ECSECTECUECVECWECXECYECZECaECbECcECdECeECfECgEChECiECjECkEClECmECnECoECpECqECrECsECtECuECv",
    "ECwECxECyECzEC.EC_ED0ED1ED2ED3ED4ED5ED6ED7ED8ED9EDAEDBEDCEDD9u39u49u59u69u79u89u99uA9uB9uC",
    "9uD9uE9uF9uG9uH9uI9uJ9uK9uL9uM9uN9uO9uP9uQ9uR9uS9uT9uU9ua9ud9uk9um9uq9ux9uy9v09vD9vG9vI9vJ",
    "9vK9vM9vP9vT9vV9vW9vX9vY9vb9vk9vl9vo9vq9vr9vs9vt9vu9vv9vw9vx9vy9vz9w09w19w39w49w59w69w99wA",
    "9wC9wD9wE9wF9wG9wH9wK9wL9wM9wN9wO9wP9wQ9wR9wS9wU9wW9wX9wY9wZ9wa9wb9wd9we9wf9wgEDEEDFEDGEDH",
    "EDIEDJEDKEDLEDMEDNEDOEDPEDQEDREDSEDTEDUEDVEDWEDXEDYEDZEDaEDbEDcEDdEDeEDfEDgEDhEDiEDjEDkEDl",
    "EDmEDnEDoEDpEDqEDrEDsEDtEDuEDvEDwEDxEDyEDzED.ED_EE0EE1EE2EE3EE4EE5EE6EE7EE8EE9EEAEEBEECEED",
    "EEEEEFEEGEEHEEIEEJEEKEELEEMEENEEOEEPEEQEEREESEETEEUEEVEEWEEXEEYEEZEEaEEbEEcEEdEEeEEfEEgEEh",
    "9wh9wi9wj9wk9wl9wm9wn9wo9wp9wr9ws9wt9wv9ww9wy9w_9x09x19x29x39x59x69x79x89xA9xB9xC9xG9xI9xJ",
    "9xL9xM9xN9xP9xQ9xU9xX9xZ9xa9xc9xe9xh9xi9xj9xk9xm9xn9xo9xp9xq9xr9xs9xt9xu9xw9xz9x_9y09y19y2",
    "9y39y49y59y69y79y89y99yA9yC9yF9yH9yI9yK9yL9yM9yO9yQ9yR9yS9yT9yU9yV9yX9yZ9ya9yb9yc9yd9ye9yf",
    "9yg9yh9yj9yk9ym9ynEEiEEjEEkEElEEmEEnEEoEEpEEqEErEEsEEtEEuEEvEEwEExEEyEEzEE.EE_EF0EF1EF2EF3",
    "EF4EF5EF6EF7EF8EF9EFAEFBEFCEFDEFEEFFEFGEFHEFIEFJEFKEFLEFMEFNEFOEFPEFQEFREFSEFTEFUEFVEFWEFX",
    "EFYEFZEFaEFbEFcEFdEFeEFfEFgEFhEFiEFjEFkEFlEFmEFnEFoEFpEFqEFrEFsEFtEFuEFvEFwEFxEFyEFzEF.EF_",
    "EG0EG1EG2EG3EG4EG5EG6EG7EG8EG99yo9yp9yq9yr9ys9yu9yw9yy9y_9z09z19z29z39z59z69z79z89z99zA9zB",
    "9zC9zD9zE9zF9zI9zJ9zK9zL9zM9zN9zO9zP9zQ9zR9zS9zT9zU9zV9zW9zX9zY9zZ9za9zb9zc9zd9ze9zf9zg9zh",
    "9zi9zj9zk9zl9zm9zn9zo9zp9zq9zr9zs9zt9zu9zv9zw9zx9zy9zz9z.9.19.29.D9.E9.F9.G9.H9.I9.J9.K9.L",
    "9.M9.N9.O9.S9.T9.U9.X9.Y9.Z9.a9.bFaiFbvFcLFddFdnEGAEGBEGCEGDEGEEGFEGGEGHEGIEGJEGKEGLEGMEGN",
    "EGOEGPEGQEGREGSEGTEGUEGVEGWEGXEGYEGZEGaEGbEGcEGdEGeEGfEGgEGhEGiEGjEGkEGlEGmEGnEGoEGpEGqEGr",
    "EGsEGtEGuEGvEGwEGxEGyEGzEG.EG_EH0EH1EH2EH3EH4EH5EH6EH7EH8EH9EHAEHBEHCEHDEHEEHFEHGEHHEHIEHJ",
    "EHKEHLEHMEHNEHOEHPEHQEHREHSEHTEHUEHVEHWEHXEHYEHZEHaEHbEHcEHdFeCFeDFeEFeFFeHFeJFeKFeOFeVFeW",
    "FeXFeZFeaFedFeeFef2w1EWMEWNEWO2w43Hp3H72w82wB9.q3MU3OQ3OE2wC2wN3bk3aO9.r3dF3dV3fp3dG9.s9.t",
    "3jE3nk3pW2wdEWn9.u2wg41M45V2wk4Ct2wp2ws2wtEWx4En4Ei2wx4FT4JM4PX4PC9.v4SZ4Sf4Ty4UD2xA4b74bw",
    "4bz4c24c34c54c64cV4cR4ct4cs9.wEXL4oZ4oV4oW4oX4nt4oY4qJ4qK4qL4qM4qN4qO4qP4sk9.xEHeEHfEHgEHh",
    "EHiEHjEHkEHlEHmEHnEHoEHpEHqEHrEHsEHtEHuEHvEHwEHxEHyEHzEH.EH_EI0EI1EI2EI3EI4EI5EI6EI7EI8EI9",
    "EIAEIBEICEIDEIEEIFEIGEIHEIIEIJEIKEILEIMEINEIOEIPEIQEIREISEITEIUEIVEIWEIXEIYEIZEIaEIbEIcEId",
    "EIeEIfEIgEIhEIiEIjEIkEIlEImEInEIoEIpEIqEIrEIsEItEIuEIvEIwEIxEIyEIzEI.EI_EJ0EJ1EJ2EJ3EJ4EJ5"]

/-- The first number of each stretch of four-byte codes below U+10000, and its code point. -/
def gb18030Stretches : List (Nat × Nat) :=
  [(0, 0x80), (36, 0xA5), (38, 0xA9), (45, 0xB2), (50, 0xB8), (81, 0xD8),
    (89, 0xE2), (95, 0xEB), (96, 0xEE), (100, 0xF4), (103, 0xF8), (104, 0xFB),
    (105, 0xFD), (109, 0x102), (126, 0x114), (133, 0x11C), (148, 0x12C), (172, 0x145),
    (175, 0x149), (179, 0x14E), (208, 0x16C), (306, 0x1CF), (307, 0x1D1), (308, 0x1D3),
    (309, 0x1D5), (310, 0x1D7), (311, 0x1D9), (312, 0x1DB), (313, 0x1DD), (341, 0x1FA),
    (428, 0x252), (443, 0x262), (544, 0x2C8), (545, 0x2CC), (558, 0x2DA), (741, 0x3A2),
    (742, 0x3AA), (749, 0x3C2), (750, 0x3CA), (805, 0x402), (819, 0x450), (820, 0x452),
    (7922, 0x2011), (7924, 0x2017), (7925, 0x201A), (7927, 0x201E), (7934, 0x2027), (7943, 0x2031),
    (7944, 0x2034), (7945, 0x2036), (7950, 0x203C), (8062, 0x20AD), (8148, 0x2104), (8149, 0x2106),
    (8152, 0x210A), (8164, 0x2117), (8174, 0x2122), (8236, 0x216C), (8240, 0x217A), (8262, 0x2194),
    (8264, 0x219A), (8374, 0x2209), (8380, 0x2210), (8381, 0x2212), (8384, 0x2216), (8388, 0x221B),
    (8390, 0x2221), (8392, 0x2224), (8393, 0x2226), (8394, 0x222C), (8396, 0x222F), (8401, 0x2238),
    (8406, 0x223E), (8416, 0x2249), (8419, 0x224D), (8424, 0x2253), (8437, 0x2262), (8439, 0x2268),
    (8445, 0x2270), (8482, 0x2296), (8485, 0x229A), (8496, 0x22A6), (8521, 0x22C0), (8603, 0x2313),
    (8936, 0x246A), (8946, 0x249C), (9046, 0x254C), (9050, 0x2574), (9063, 0x2590), (9066, 0x2596),
    (9076, 0x25A2), (9092, 0x25B4), (9100, 0x25BE), (9108, 0x25C8), (9111, 0x25CC), (9113, 0x25D0),
    (9131, 0x25E6), (9162, 0x2607), (9164, 0x260A), (9218, 0x2641), (9219, 0x2643), (11329, 0x2E82),
    (11331, 0x2E85), (11334, 0x2E89), (11336, 0x2E8D), (11346, 0x2E98), (11361, 0x2EA8), (11363, 0x2EAB),
    (11366, 0x2EAF), (11370, 0x2EB4), (11372, 0x2EB8), (11375, 0x2EBC), (11389, 0x2ECB), (11682, 0x2FFC),
    (11686, 0x3004), (11687, 0x3018), (11692, 0x301F), (11694, 0x302A), (11714, 0x303F), (11716, 0x3094),
    (11723, 0x309F), (11725, 0x30F7), (11730, 0x30FF), (11736, 0x312A), (11982, 0x322A), (11989, 0x3232),
    (12102, 0x32A4), (12336, 0x3390), (12348, 0x339F), (12350, 0x33A2), (12384, 0x33C5), (12393, 0x33CF),
    (12395, 0x33D3), (12397, 0x33D6), (12510, 0x3448), (12553, 0x3474), (12851, 0x359F), (12962, 0x360F),
    (12973, 0x361B), (13738, 0x3919), (13823, 0x396F), (13919, 0x39D1), (13933, 0x39E0), (14080, 0x3A74),
    (14298, 0x3B4F), (14585, 0x3C6F), (14698, 0x3CE1), (15583, 0x4057), (15847, 0x4160), (16318, 0x4338),
    (16434, 0x43AD), (16438, 0x43B2), (16481, 0x43DE), (16729, 0x44D7), (17102, 0x464D), (17122, 0x4662),
    (17315, 0x4724), (17320, 0x472A), (17402, 0x477D), (17418, 0x478E), (17859, 0x4948), (17909, 0x497B),
    (17911, 0x497E), (17915, 0x4984), (17916, 0x4987), (17936, 0x499C), (17939, 0x49A0), (17961, 0x49B8),
    (18664, 0x4C78), (18703, 0x4CA4), (18814, 0x4D1A), (18962, 0x4DAF), (19043, 0x9FA6), (33469, 0xE76C),
    (33470, 0xE7C8), (33471, 0xE7E7), (33484, 0xE815), (33485, 0xE819), (33490, 0xE81F), (33497, 0xE827),
    (33501, 0xE82D), (33505, 0xE833), (33513, 0xE83C), (33520, 0xE844), (33536, 0xE856), (33550, 0xE865),
    (37845, 0xF92D), (37921, 0xF97A), (37948, 0xF996), (38029, 0xF9E8), (38038, 0xF9F2), (38064, 0xFA10),
    (38065, 0xFA12), (38066, 0xFA15), (38069, 0xFA19), (38075, 0xFA22), (38076, 0xFA25), (38078, 0xFA2A),
    (39108, 0xFE32), (39109, 0xFE45), (39113, 0xFE53), (39114, 0xFE58), (39115, 0xFE67), (39116, 0xFE6C),
    (39265, 0xFF5F), (39394, 0xFFE6)]

end ResidencePortal.Charset
