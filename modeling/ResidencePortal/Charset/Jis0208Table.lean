import ResidencePortal.Text.Packed

/-!
# The characters of JIS X 0208

The cells in rows of 94, with the rows that vendors added.
-/

namespace ResidencePortal.Charset

open Text

/-- The cells, row by row. -/
def jis0208Cells : Array Nat := Packed.unpack 3
  ["300301302FyCFyE33xFyQFyRFyVFy132R32S02qFz002eFy.F_ZFy_33z33.32T32U3034xT30530630733y20L20G",
    "FyFFyyFzU28bFzS20c20b20O20P20S20TFy8Fy930K30LFyxFyzFzRFzT30830930A30B30C30D30E30F30G30HFyB",
    "FyD02n03N03tFyT29WFySFyU29c29d28U28q2P22P002m20o20p243F_bFy4F_WF_XFy5Fy3Fy6FyAFyW02d2O62O5",
    "2NB2NF2NE2N72N62MX2MW2Mp2Mo2Mz2My20x30I26I26G26H26J30J000000000000000000000000000000000288",
    "28B2A62A72A22A328g28f00000000000000000000000028d28eF_Y27I27K280283000000000000000000000000",
    "00000000028W2Ab2CI28228729X29I29g29h28Q28z28T28r28h28i00000000000000000000024h20m2Pl2Pj2Pg",
    "20W20X02s0000000000002Nl000000000000000000000000000000000000000000000FyGFyHFyIFyJFyKFyLFyM",
    "FyNFyOFyP000000000000000000000FyXFyYFyZFyaFybFycFydFyeFyfFygFyhFyiFyjFykFylFymFynFyoFypFyq",
    "FyrFysFytFyuFyvFyw000000000000000000Fz1Fz2Fz3Fz4Fz5Fz6Fz7Fz8Fz9FzAFzBFzCFzDFzEFzFFzGFzHFzI",
    "FzJFzKFzLFzMFzNFzOFzPFzQ00000000000031131231331431531631731831931A31B31C31D31E31F31G31H31I",
    "31J31K31L31M31N31O31P31Q31R31S31T31U31V31W31X31Y31Z31a31b31c31d31e31f31g31h31i31j31k31l31m",
    "31n31o31p31q31r31s31t31u31v31w31x31y31z31.31_32032132232332432532632732832932A32B32C32D32E",
    "32F32G32H32I32J00000000000000000000000000000000032X32Y32Z32a32b32c32d32e32f32g32h32i32j32k",
    "32l32m32n32o32p32q32r32s32t32u32v32w32x32y32z32.32_33033133233333433533633733833933A33B33C",
    "33D33E33F33G33H33I33J33K33L33M33N33O33P33Q33R33S33T33U33V33W33X33Y33Z33a33b33c33d33e33f33g",
    "33h33i33j33k33l33m33n33o33p33q33r33s0000000000000000000000000EH0EI0EJ0EK0EL0EM0EN0EO0EP0EQ",
    "0ER0ES0ET0EU0EV0EW0EX0EZ0Ea0Eb0Ec0Ed0Ee0Ef0000000000000000000000000En0Eo0Ep0Eq0Er0Es0Et0Eu",
    "0Ev0Ew0Ex0Ey0Ez0E.0E_0F00F10F30F40F50F60F70F80F9000000000000000000000000000000000000000000",
    "0000000000000000000000000000000000000000000000000000000000000000000000000GG0GH0GI0GJ0GK0GL",
    "0G10GM0GN0GO0GP0GQ0GR0GS0GT0GU0GV0GW0GX0GY0GZ0Ga0Gb0Gc0Gd0Ge0Gf0Gg0Gh0Gi0Gj0Gk0Gl000000000",
    "0000000000000000000000000000000000000Gm0Gn0Go0Gp0Gq0Gr0HH0Gs0Gt0Gu0Gv0Gw0Gx0Gy0Gz0G.0G_0H0",
    "0H10H20H30H40H50H60H70H80H90HA0HB0HC0HD0HE0HF0000000000000000000000000000000000000002K02K2",
    "2KC2KG2KO2KK2KS2Ki2Ka2Kq2Ky2K12K32KF2KJ2KR2KN2KZ2Kp2Kh2Kx2LB2KW2Kl2Ke2Kt2K_2KT2Km2Kb2Ku2L2",
    "000000000000000000000000000000000000000000000000000000000000000000000000000000000000000000",
    "000000000000000000000000000000000000000000000000000000000000000000000000000000000000000000",
    "000000000000000000000000000000000000000000000000000000000000000000000000000000000000000000",
    "000000000000000000000000000000000000000000000000000000000000000000000000000000000000000000",
    "000000000000000000000000000000000000000000000000000000000000000000000000000000000000000000",
    "000000000000000000000000000000000000000000000000000000000000000000000000000000000000000000",
    "000000000000000000000000000000000000000000000000000000000000000000000000000000000000000000",
    "000000000000000000000000000000000000000000000000000000000000000000000000000000000000000000",
    "000000000000000000000000000000000000000000000000000000000000000000000000000000000000000000",
    "000000000000000000000000000000000000000000000000000000000000000000000000000000000000000000",
    "000000000000000000000000000000000000000000000000000000000000000000000000000000000000000000",
    "000000000000000000000000000000000000000000000000000000000000000000000000000000000000000000",
    "000000000000000000000000000000000000000000000000000000000000000000000000000000000000000000",
    "000000000000000000000000000000000000000000000000000000000000000000000000000000000000000000",
    "0000000000000000000000000000000000000000000000000000002HW2HX2HY2HZ2Ha2Hb2Hc2Hd2He2Hf2Hg2Hh",
    "2Hi2Hj2Hk2Hl2Hm2Hn2Ho2Hp25W25X25Y25Z25a25b25c25d25e25f0003D93CK3CY3DD3CO3Cd3C33Cs3DH3DN3CD",
    "3Cc3CZ3Ch3DA3Cx3ES3ET3EU3EE3EF3F43EX0000000000000000000000003Dx30T30V24M3FD24X3Aa3Ab3Ac3Ad",
    "3Ae38n38o38v3D.3Dz3Dy29I29X28h28k28H28Q2Ab28W28V2A_28r28f28g000000000000000000000000000000",
    "000000000000000000000000000000000000000000000000000000000000000000000000000000000000000000",
    "000000000000000000000000000000000000000000000000000000000000000000000000000000000000000000",
    "000000000000000000000000000000000000000000000000000000000000000000000000000000000000000000",
    "000000000000000000000000000000000000000000000000000000000000000000000000000000000000000000",
    "000000000000000000000000000000000000000000000000000000000000000000000000000000000000000000",
    "000000000000000000000000000000000000000000000000000000000000000000000000000000000000000000",
    "4wS5KM5e39O_5J064R6Ce5ds90Y8Hr8CS7fG62g6FX6ub6Nj8Hc8Ac9lr6YJ5Sd6MX69n5kR5dG8Px9Zq7rY7s.9kE",
    "68M7oV8Yt5k95wr6C96QN6X89N79UD6TF4xb4yA4zD4.T5195Ro5at5dK5e15m963V64F65m6OJ6a572w7LF7Lm7dx",
    "7sj7tl8338GE8XZ8i291L91w5Cx4wL4wb5VV82o9317Zl4u05Zn6wY90u7eo8Ce8AB9ml5515Dm5Iz5JX5RW5dx5yL",
    "9Zo6th83a8Kj9PY9Pm9QW9Vx5GB5Fp5k773F7.z8_29Re5Dl9rS7gw4uH7YJ87y6uc5OO5K46iT8KQ9mx5db5Ef6rc",
    "7JS9MF5P24wH91B9Ro8DF9aC5FX5Ms5im5zn6OW6Rp6W46mu6pp6qf7HR7R87fE9Wq8Bn8XR8fW9Bj6so7Mh7RA9d5",
    "62c8i18sA9Mo6cE5Ej5665SI5Wm5b45kq5xs60e6Ef6Fq6o_6yK72E74K75P77L7C_7u189s8BH8MN91W99R9qR5Xf",
    "6My6nQ7Kb57v5ak5bb5.05_S6Ay6Nw6eg6id6kq7EB7_18bM9qi9qE9x45oX6oM8Dx5445nB66s8766Xs79X4vP4_w",
    "5Du61f6uf7fF9Vp4uB5CM4xk4zL4yz4.X4zp5AW5Fl5O95aF5h15ks5lX7dH6Q76US6Us6jC6op71h7F27cD7c.7ey",
    "7k78An8BR8C48Dt8Fl8FJ8Tc8go5Of8oe8_c91E9SU8QA4_45pe68H79P7Kx87b8Az8R.8p09R59aJ9dL4xB4yQ8dZ",
    "5RU5XA5ZA5xx5_h60g62K61Y67G68I6BG6Kv9j16Pc6Ym6rt71m7LC7Q67rr8Ab8Vv9MB9QE8oT57n5A.5aM5Ip5kp",
    "5qM65e6c26sl7YD8JB8XN8fo9Ed9gu6ri9ce8RP5UZ6V_8RE98E5A35Q75G45xJ6BX6Iv6Wy6Wu6kx7Do7Yw7fh8cQ",
    "8dI8rh8y393j9MZ9QK9Tf5jc5op6bz9XD9XE6ER7iW6eh6f_6Ys9mD6zV59o5MT61m6Bi6qx6u76xH8HR8aG8z44uK",
    "9mv5Fs6aR6ew9U46Wg55S7h38Io97S9EC5PR9qe6WY8C58Gn7ob5888B57Jc4v.4.356W5lI58A5BO5Bd5tx5MQ5Wg",
    "5dc5kC5kO5lR5vo5vv62Z64V65Z66.6FR6LY6VH6XJ6Zw6i.6jJ6nN6yY6.N6z57Im7KO7RZ7SB7h_7kX7mX7tf7ys",
    "7_m82T89c8EU8cp8hC8oh9249HH9MJ9MH9MY9Pb9VJ9ae88O4uu5Gh5ou5tC7Ef7PC7Sy5of7_h8qB9R19WH9XK9XO",
    "4y14yE5Dn5MS5Pe5Vw5b75i95l45oG5uC5v.5_C6Fk6Sw6NN6NY6SV6ZB6Z46fV5um6l56mN6nz7L_7b85jZ7e07q0",
    "5.z8cF8eO8oq8rt8xC8yT9ZY9eE9iy4w051z5405cJ5kS68l6A06Ji6iw7AW7MH7b77.f8Vx8gy8jm6Ei8FA9UW5G9",
    "5G35Mh6XK6fO8fm7Wd6Tr9xD5Dq5kY84Q8PG9064uO4v54x74yH5FA5Gu5kk5yJ60b6LH6Sz6n26no6pZ71u7G37fs",
    "7gk7i87qQ7p.7rc6Nd79R5Ex5n55te6BI6BW6CP6uW8PQ8en8tT9Bu6y17cc9jQ4we4wh4wi4.R4.W53H5577hs55n",
    "57s5DK5CX5D_5Fh5Mi5Y35pX5yt5zA60l61G61j6CV6LP6fB6p17B27Bj7Vl83u8458888LE93t9FX9V_9bN9fQ4xm",
    "57T5mj6Q16bj5n06Ro6br7E96XG7o15355Ba5T75t.9Cc6Ma6iZ6iz7Gq7c17cz7jB7tA8Av8FC8X_8bV8iv8_H97H",
    "5GV9A04vT50s5Fb5Cw7BN7EM7Vf8Bc8wl9d69d89dI55t64Q8PU5Mm7fw51s5lJ9179Q54uo6hR97d5nH5n86EO7gV",
    "6oJ9Tq8zX7gg76A9Q87o26WN7vm6XH9Di5Bo5GR8Mh8eJ7.a8xD93X5Dc8Y87b14_252.58H5545LJ5Sj7Fg5UB5bH",
    "5zY5.461r65s65d66f6Eo6Gw6Li6Pl6X26uJ7Lc7ez7px7rC7sP7vB7zh8CE8DA8RD8e88fZ8jc8xz9WQ9sF8Au8_E",
    "9le5A768V6I36_09QP6X152H6iW6nw6zK7fq7rG8X08eZ6S84xs50v50c51b55y58u59Z5Md5SF5W55hC5xw66o67u",
    "6Bp6Do6aS6ef79z7Ai7Ck7WK7Xl7rv7SC82f8cB8iP8pY8xI91Z9Dr9Pw9XL9eJ9vu5535EV5Ep5vx5yc6uR6wG7E4",
    "7F.7r388t8e08hw9PG4vE50B5Fa5Hy5Rw5dH5ja5tn5wh5yd68u6L56Ul6vM7BG7pA8Yq82X83X8Fm8PE8g78te98t",
    "9R79Xd9yJ4wK4wI4yD5D85H95G.5el5.C5.X62V6Yd6gE7HQ7Y18gU8ga8jt96G4vU9l94wa4zy4.l50P50M55955i",
    "5AV5Av5B.5EQ5FZ5GH5GE5M95TH5UY5bz5jK5jT5kF5tb5td5tt5vu5w35wQ5wt5yO61I65C6AN6BO6Ed6Kx6O26P3",
    "6Rq6Tj6WX6YN6dB6nV6qg6rf6ul6wT7Ko7Q77Xi7e_7pW7q57qO7rU7sn80L80382l82n85K86F88g8DI8XC8XX8iR",
    "8oY8py93A95r99n7W_9By9Ma9PD9W59cP9hO9qx59R5Ah5Ft5G85ZL6Bt6_W8ng8zV9wv55B58x5HA5Rz7f095t9rW",
    "9xI7D46y985m7KH5_z63Q9ge7BR8.y6ja9W34xA5Rm5Ta5Y.5fQ61e6776OF6O66Wv6Yn6tt7NL7qw89k9j24wR4zG",
    "5F95K65rl5tc5tk6Vx6oP7Hp7W28fG9EM8ZV5TG5wd6Ch52r52i56D6S05J95XU5cx5km5zf69D6EX6Wz6jp6u871z",
    "9777A07WL7Wc7bj6ME7qm8FS8Z18y99QR59a5Se6TG7zg8oX56q5T29Og5Ww6cA82q5Io5qE5Vy7YL9tw4zS59A5IB",
    "6G.6Oe6SK6Vr7g47jM7qY9Cl6XS9kj7iv5CP56A58t5lV6Bs6Ik6Jc6Sj6kw8Mf9RH7QG9lM6DC9C69kh7Q_6PI4u9",
    "52O5F25nn63e6II6LZ6XV77c7FA7KZ7kN7w28QL8k38pR95u9aG6Mi6Qh6kB4xL4xK4yw4z_58w5Fu5Fo5NZ5RR5Zh",
    "5dB5d95d_5jG5nD5u25uh5_N60T6C76Kl5jS6Ml6Mz6Ne6UT6jY6jx6mF7D57b97d17pu7qP7qh82Y84287p8cM8fU",
    "8ff8fc8gC8hk8p78pS9RC9Zy6jl4wB4yy4.D55G5jN5lw6586C16P26iX6xB6ox78.7Iz7NK7Z17aw80C80p87g8IK",
    "8.U6nG9v_5yF8jO9qh7hw8xu5kD9Rh4u35Fn5Vt5an5h95ka6296v_6y67M.8pg5kV8K07lW51o6Vq8AT5nX8LA7uU",
    "88E56P5m46De8rc6MS75k7a.7qN8058iT8xA91k8R792g50V5Bw5mw6TJ71y78r95C9789Ch8Bb5l25yn63v4ux5FM",
    "5k869B6Sn6kA7Bf7FW7ek85h8sZ95I9cM54I5FN5Hg5l_6E86ev7si9S05RQ5FE5He5kN5mn5tU4_k6416B.6qo7d0",
    "7dB7r27vD7_I87j88V8IG8X68bo8kG8vq8yl90n95B95i9R696S4x04zF5555D15.J68E6VK6n16uB7DZ7uc97D9A3",
    "5FK5aP5k_6tH7bT7uk7oR5X.76V57w8XJ8_m4_A5px6Ob7Ui7hZ88S9d_5765.g6Ni6bl6k96tp6wM6za7R.7qK5tX",
    "91r9679W657c58T6906QH6RP6uQ5ws7tI7zo6Ru8Ml8Nt8hu5Af5FP5bp5wF5.G61L9Ba9Pa52t54V5BT5CW5D75Fi",
    "5Je5L65Kn5ON5be5c.5ey5kr5m65mF5mH5mQ5w45wA5xW5zm69_6A46BR6EC6Dt6O76OC6Oj6Ps6T.6YY6eV6er6oy",
    "6s86u96vO74y74c75d7N77S17XT7a17bb7dm7hW7iH7od7qv82M8FM8IB8L98XT8Zp8eV8ey8fK8fp8nX8pU96a99c",
    "9D.9GO9QS9UO4uA4u84uU4vN56N59m5VE5Wq5ZC5iY5uu6356J.6TX6TM6r47As7Lp7fZ8Iu8jo96u9CW5On5Vq9Z.",
    "6Bj6aD6kM77j7vK81t89o8dc9ZV8TL8.n5mx4yu4_X4.r5K75eW5lT5lf5_365E6Cl6Mm6PB6Zk6cR6ru6tn7Kp7Mv",
    "7SV7bU7dc7qp87Z8Al8Mg8cg8ew8wh8.R90o97T9S74ww4x15835Xr5Zi5mB7KQ5mz85E8eA8_59PZ9Tj7ib8hF9W8",
    "95Y5Rp5Ee90N5Gv5U25ub6Ee6mq72A7TX7oB7_W8Xm91295K9CG9CO9QF7HU9h45q75rf6Lm6UY8se9RR6Dk6T96aP",
    "8F59WN9R08Z.6.46Hw5lu4uM70i7LT6Ol57458s5BY5dJ5.160d68G6K_6Lq6OV6Pq6Zo6WM6jZ6u579o7KV7RR7o.",
    "81M5Zm8Zz8b_8gW8gJ8hB90T96I9TI9TP6M97eE8469Qx5uj63S68Q6Mb6OK6UG7Vp7fD7nD7u.84A8oi8ra8tX8vV",
    "7Yf5876BP6Eb6H26AO8ej7g37l08gi9Rg7rs88C8T94xP5585D35DW5kZ5m25mM5tT68c6976Im6WJ6Wq6p96r56qN",
    "6VJ6zS75E75z6NB7f_7kj7tQ7vA7.e85w88R88v8Mc8fk8pE8tr91u91t9Aj9AH9M39kk59D5M46yu74s55e7c57vL",
    "86p7pE5PC5XH5oe6Eg6R.6Rz6bQ7BP7MF7ME7aE7bM7dV7oN7qW7r48O78eq9Ox91X9yW53d59r5FC5FY5095Mg5Zk",
    "5bF78z5kB5na5CT63Z63p6DS6E36C_6Ex6JD6Nf6Rv5tZ6dD6dz6yL77b4w97Nf7Ru7gJ7pV7tF7sS81X8D98DO8Hi",
    "8Iy8Nx8Z58rm90191j9EN9SS9eI53F5YN66E87J8Kr8q890W4_351q5975Dp61l6D96TV6ui8sp90V4_N5nU8pA6NF",
    "7sQ5DI8YM55s6F35jO5jh5mA6GD6TH91S4xM5aQ5ag6nm8fH5K.5WL5cb63m69J6V188r6bL9P09d49ee4zJ5W65l.",
    "80G5on5ul5.560W65B68q6R_6pm6xU83E85_8BK8YB8ou90090k9QA9xR9lR4xZ5Fm5ad7ii96D9XC9tv6xT70d5DJ",
    "5L45k569O6AU6BJ6oY6_l7GY8eN9Gu6_18h.8Cu57d8Ru5Fg5Ff4z691K8.m5bg84n5tz7hg8._6ZQ8mt7Bu9n86ez",
    "8gm4uv5DO5O65Tc6B56EY6Nc6jE6tX6vR72j7Vj7hl7kg7sx80z8368RB8gL9DR5RZ5Z75y.6Mj6QM6g06kr7Kt8h7",
    "50a7Vb5Sm5yR61b6Pw6nW7Nq7eQ7zk87q8SO9159cp7l97LS7hv7jH8J490G7df7gI8Cs5hX7T04uj4xo5kP5_W6Az",
    "6Oy6Vn6pe8Ph8Xt8ex95E9Bp9dG6eN70c7Cg8Bd8HN8ol4u155657B5MB5lr5uM5up5w15yK5yr5zh5.q67o6CH6QY",
    "6ST6zk79I7Kw7Sw81q84v85u8Ts8g_8hS8s58tp9AQ9Lt9W29pb5B56DN7Rq6SL6o87FD8p39Ek9Pp6qb5YS6aE6dC",
    "8_z9EQ7NR90Q5XQ6W26Eq6dx4z36yi6VO8.x8Kc7sq9DK6a_6zm5Tg5Zt5ii7qi78g5GA97Z9sq4wj4zE51S51r593",
    "8oU5H85Wa5kQ5uT5wL5wj5xt5yV62C6Ar6Cw6FG6Yl6n07Y77cE7eB7tW8978e28hc8v490J92u94j97O9yE6pb6HO",
    "6JY6Lr6xq7Q47iR91f9FH6ww5Jo5.v6Ia8zD8_j99455u5Xh5af5nL5wN6tx7wF7KS8oy8xY9XR72v4yT6k_6.n7Km",
    "9Rx55E5GG5Wr5XN5ci5nW5.I6MN6TS6uX7Px8FV8pj90K93z9DD7Wb7Ww5Ag5wc5SV5bq60I50I55Q56i57D5805KG",
    "5XK5XO5bN5kL5ps5sB62y6AL6Gj6Tn6X36Yy6ZV7RN6tO6vl6sR71l7785zJ7NO7bt7j97jK7jI7pM7rn58m8HZ8Lf",
    "8Na8eE8i48n68uF90390F9GP9Ps9Wj9em9NO53D5BL5GC5W25mE66d6IU6qU7Up7hb83q8G491J9A55pW9q75C_5.N",
    "5.p6sS79v7TZ7c_7la6lI7Bi8gj6W36fX57u7g16aq5nA9ps8Bh5l595970U5Pu5nl6376Lc6oC8nQ9119WJ5HH6R7",
    "98D5b892Z5654vD57g8MP8iE71O6Dw9DB6bY9cq7u47Lt5DN6bW8xV9RZ6nT4wC5my5yG8_f5C28pH8298Pv5x_6Nb",
    "4vp55b5c25m_9Vk4xx5cA5_D8gD6_X7cm7bY5ld8Hn7Ch76n5vq5_r6Dx6IQ7737oO4v35xy4vB5VS5QY62f6_37qD",
    "83z84p86_8.o8cN8Qa5tq6AA6Ij8c76Tt6pY6q.7Gs7Wq5f67zr8Aj9ci4_p5x36BT6EI6LN6Tl7R379C83C82w8yf",
    "95D50D5Vv5gI6Y56bp75a7Bz8ot5Zo8pW9Pg90P8T_7da7Vd8Gf4yl59b5DQ6BD6VF6pA7Pz7kK7oL88s8M48_h6RT",
    "6yW7867uR8Eh9d19wc57z7kn7Xo7ku8277j86he5vX82C7LH7LW55h99Y6wC7Pw96N9hg4yG7zm6AS7jF9Mb9pf5Pw",
    "5XP8Ra9Qy4yq58a5DA5FD5FR5u66Gi6MH6T_6m.6nE7987Al7Fj7LK7v188i8Nf8of7l497675f9WI9Zl6Cz6Pf7Lg",
    "7Ra7ZG8L38Rk5Cg5DH5Gc5c35w75zy62o69969v6Ah6MG6lK6pC7Mo7Qk7YH7dO7tB7zt82b8Yh8gv8ox91_9TU9ZR",
    "6eB7mu52P5m.5.k6U76lO7Gr7S97.E9yx6VA7eN5Cv7MB9hj5zc86T8Fn82O5yy5_57LY7j690y6Xd5dh5gR7qG7P.",
    "8ii4_r5zg6eP6mt6y27JY7be8Xe8fL8nv5xV6FF7N57dI8BN9Ce9Bo8IS8Rj9mj5J15zi6MC6rS70L8od8pJ9Wx6LF",
    "7Js4uD4xO5VW5ah5fc5lC56e5u35wS60M69s6Lt6Md6Pk6rk78s7ic85G86Q8AP8jS8oW8pc8rq9OS9P44.k6Ih6jc",
    "88U8HX8Lg93e5m16bJ9Ye8Hw8LN4yF59l5.f5v56SD7cF85v8a78c66tr5yN69L6ou4xF79f9kI5865Gx5Pq5Yp66a",
    "69k74Q5bk7o97pU7qR9Rm6M781U4uP4zr55r5X05vZ5vp5yA6V44uc8Kz9M99PR7np9W153x5Z17PM7Yd58b7Ub8KH",
    "7k651F5a97977l77te8.w8_K91D4._5B95ef5y19Uj4_T88N9Bg5S36DL6jf7Kh8ZS8yK7f25BV5YJ65L68A6Qk6lD",
    "7m_8Ff50Z4_u5C55H65Wn5b95kT5pm5pl5qf5wM6An6Dd6K.6Mv6SB6pL6pX73v7Wo7uh83U8Ap8GC8Ji8S28aI8eg",
    "8nA92c9BI9Zz9pp9ri4vF4wX52D59M5TA5ce5uz5_O5_P68_6Qq6SR6VG6ZI56I7qX82g86e8i08oC8o_99.9Oo5GW",
    "9Wi5CN53L5DS5Ye6Io6Sq79d7Tc7f697c5B36oX6k65W05vC5bK6Si7_x57X7R66Hf7Ze9jK9wx5VB5cv6Od6UQ6lE",
    "5Jf6dP5vL86S6UL9kg6V.9nI6XT4wc4_Z5F86Av6Sh6oh8_44.j7vj9w_4u765Y6w06yh8KJ5Hp6Sg9j55tp7kL5oi",
    "5l68SS6vA8JH7eK8485cP7oD6mH7SW5BP5aY74X79V7VR9Sd9rX6aB5f_5eO56b5GD5Hz6OE7RV8_t9AO9pq5dg79T",
    "6x555D6Z97s_7ti9TY9ww6Hu6eX8C25c45jV6lR7CR7Ro7so80N8IP54o6Se9xP7Rk6TY5B_9a55ma68x7n.8om5LF",
    "62s7qB9M05C14vV56s5aS78w80s97E5yb7VY5E45zv7q48Mi8ep8wD9TM6Vp8Mk9HJ6496486ov7PI8hj8yu5Kl4zH",
    "54g5B75FB5kb5vz62W6626FM6S96VQ6vd6sC7Cs7Ct7Kn7bG8ZL8gO91A92H93r9R48UD5aL4w84zP4uE8g98y_9WG",
    "52j5vy5cM5kv5wu6FQ6Fw6J16RS6bA6dO6qB6ws76K7Ke7gl7.A8008H98J98c18iX8uA91b9Pz9aA65.6AH6io6o3",
    "6rq7_C7_y6t07.58Uw8Zu6Tb8En9Wy9Rt6qR7rX8Gz95g4vn5Dr5rG6i46_h8ND8Oj8cd58f5GF5nb6TE6Ye7G67I3",
    "7NY8ZF8ZX97C9RY9Pu5.B7E77hB8HE6EW7Lb5A96r16wS7G97LP7Xh7oI9Q67hS9.D4.s65k6N58PS4w64wk53Q4uX",
    "57C5lk6MP6Y16sy7CV7P27Uj7eS7pd89l8hI91y97F9Pr9WO5AR7tH50h5EO6UN6tB77G7Gp87e8yg9QZ9nN9wV7HW",
    "5X16sP7ql9XU4xa4ys4.B56t5An5sw60S7Eo7ay8BJ98q9Qt9Rs9SA9wN9zY6Qc6jq58N5AZ7388Z25x961B66G6yZ",
    "7597m.7tq81l8Jk90Z9Ci5H29jl6hJ7298p28tl9So5Aq5f15xA5y46SN6by6cK6rg6yF79Y7By7lj80181.8TB93E",
    "55j9wJ7c482B9Co8hM50j5IC8fn6jg8p484763H6UW9to4wP4wO9mG8fh8N18Le6a06v.7YN85L000000000000000",
    "000000000000000000000000000000000000000000000000000000000000000000000000000000000000000000",
    "0000000000000000000000005yC4uG4uL4ug4un4us4uy4u_4v24vM4vO4w24w58nh4wA88I5yD4wE4wU4wV4wW4wY",
    "4wm4wp4ws4xE4xD4x44x64x24xN4xU4xj4xV4xt4y94zQ4ym4zR4zT4zN4z74zs4.84.F4.O4zx4zf4zm4.H4zl4.6",
    "4.M54O4_K4_V4_E4_O4_R4_H4_Q4_G4_a4_b50Q50e50K50g50b5054yS4_s50X50f50i4_.4_l50H5065135176S3",
    "51L51G51851Q51M51i51u52052Q52552q52o53953A52p53253M53U53b53j53Z53k53v53r54954154254M54L54K",
    "54Q54X54w54t54y54x54_55055I55C55K55Y7hu55f55g55k5605625RO56C56956F56H56J56L56M56a56c56Y56f",
    "56g56h56p56n56o56m56r56z57557957R57W8PL57f57j57m57r57.58458B58K58E58d58g58k58p58v59F59459B",
    "59C59U59K59g59q59f59p59_59z5AD5AK5AI59n5A85AH8.e8.d5Ai5Aj5Ay5Ar5B15BD5BN5BU5BZ5Bc9Zj5BW5Bp",
    "5Br5Bu5Bv5C65C87Ku5CD5CG5CF5CL5CQ5CZ5Cl5Cn5Cp5Cu5D05D65D54uN5D95DD57M5DU5Df5Dk5aO5Dx5Dt5E2",
    "5EM5EW5Ec5Eb5Ek5Em5Es5F37mI9RP5FV6Ry77k5Fk5Fe5Fj5Fw5G15Gz5H05Gi5Gj5Gy5Gk5Gs5Gf5GT5HE5IF5Hr",
    "5IE5HV5Hn5Ht5Hm5II5Hx5I05Hs5I45IG5I65J75IY5Iu5Ib5Ii5J45J85Ie5Ih5J25Ia5I.5Iy5JO5Jb5Jc5KF5KK",
    "5Jz5Jk5Jj5Jw5JY5Kv5L05LZ5LC5Kk5LS5L55LM5LN5Ku5Kp5LT5MP5M05Il5MA5MV5Lx5L.5MO5MU5Mk5Ly5M35Mf",
    "5M75Me5NQ5N55NV5N45NS5Na5NK5OK5Nt5OM5N.5Nz5OR5Nv5PE5PG77V5Oq5Os5Oo5Ou5Ph5Pa5Ol5Pi5Pg5Q65Q0",
    "5QA5QW5QK5QF5Qb5Qk5Qs5Qq5R25Qy5R15R35R05R85RE5RH5RJ5RN5Rk5Rv5S05R_5S45S95S85SB5SD5SJ5SO5SM",
    "5N75SS5Sc5St5Su5TE5Sx5T05TF5Tf5V05U85TX5T_5U95UJ5UW5Up5Ua5Ug5Um5V35V65VK5VI5VJ5WA5VM5VZ5WB",
    "5WP5WT5Xo5WX5XY5XB5Xm6l05XI5Wz5Xv5Y55Yv5YV5Yh5Yw5ZU5Yx5Yu5Yk5Z55ZJ5ZH5ZN5ZP5ZO5Zb5ZS5Za5ZV",
    "5Zl5Zw5Zv5Zx5Zy5Zz5a25aA5aG5aR6Yc5ab5ai5aj5ao5au5a.7hI5bL5bG5bE5bQ5bO5bY5bW5bd5bi5bf5bu5c1",
    "5cT4zU4.h5cZ5co5d65de5dS5cD5dP5dQ5eb5eV5eH5eS5e95eQ5f05fi5f95er5es5fY5fg5gQ5gy5g.5hB5h25gz",
    "5hZ5hN5hc5hf5hM5hw5hx5iC5iB5iM5io5hG5ig5is5i.5j35j55j05jH5jL5jQ5jR5jb5jf5jm5jp5jr5ju6M85jw",
    "5k05k35kc5ku5l35l75l95lK5lG5la5lc5lY5lU5lb5lh5lm5ls5lp5m55m75m85mD5mJ5mW5mY5me5mu5mv5n15n6",
    "5nE5nJ5nG5nF5jn5ni5nk4vY5ns5nv5oC5oH5oK5cR5oh5ox5os5oy5ot5p55o.5p75pP5pf5pz5pw5pj5sC5pg5qB",
    "5qL5qN5rS5qV5qR5qH5qK5qY5qQ5qP5qO5rC5rI5rE5rB5ri5rp5rs5s75s45s25sY5sT5si5sk5sz5sG5st5sy5t9",
    "5tD5tJ5tI5tM5tR5th5to5tr5uB5uQ5uP5uH5uR5us5ut5v45v35v05vE5vN5vK5vV5vY5va5v75vr5vs5vw9wy5v_",
    "5wW5x15x25x85xG5xF5xM5xZ5xT5xQ5xR5xY5xX5xe5xf5xi5xn5xp5xm5xq5xu5x.5y35y95zT5zS5yB5yH5yM5yf",
    "5yj5yu5z15z85zC5zE5yl5zH5zM5zN5zP5zX5zj5zp5zt5.35.25z_5.A5.85.H5.75.U5.P5.O5.W5.e5.j5.y5_M",
    "5_x5_a5_u5_n5_T62p5__60X61W60P60G60f60E60n60R60L60h60c60F60w61Q61161g61t61V61A61661D61Z613",
    "61a61261i61h61P62162D63d62362Q62462R62M62N62I62d62B63X62u63W63J62q5_m62z63662r63O65D64L646",
    "63s63t64063q63w64364X63x63n64D64E65764.64e64d65A64_64y64i64q64z65265465p65t65O65P65Q65h65q",
    "65l65b65n65V65T65J65r66P66M66766i66K66Q66A66H66h66k67C67A67967t67867367666w67B7zv67D67c67Z",
    "67s67w67q67_67z67y67.68068868968D68C68K68R68U68X68g68k68m68o68p69169E69U69Z69R69W69e69y6A2",
    "6A969.6AI6AJ6AM6BK6A36AK6BN6BH6Ax6BF6B_6B66JK6B86BS6BC6BA6B26B76AR6B96CC6Bk6Bn6Cd6C26C86Bl",
    "6Br6DG6C.6DD6GS6DF6EM6EE6E06Eh6Ds6EZ6EF6E96EV6Er6Dh6Df6E.6Ff6F06F66FZ6F96FI6Fs6F46GM6Gq6G6",
    "6GJ6Gc6Gs6KT6GN6Ge6GF6Hd6Hl6Hs6HE6Kg6IL6IJ6Ib6If6I86Iy6JQ6JI6J56J76Ix6JO6J26Jn6Jd8896JW6JX",
    "6Ai6JZ6Jl6Ki6Js6Jq6Jo6Jw6K06Jz6KO6KS6K56Ka6KZ6Kh6Kq6Kr6Kt6Ks6Ku7LB6L86LM6LL6LD6LO6LU6LT6Lo",
    "6Lu6M26M38kA6MR6MV6Mh6Mt6N36N66N16N46NC6NI6NR6NP6NW6NX6Nn6To6OA6O36Nx6Tp6Or6Os6Oq6OS6PF6P4",
    "6P96P16PU6PT6Pa6Pd6Pe6PV6PY6Pm6Q36Q86QE6Q96Q46QO6QT6R16Qv6R96Q.6Qy6R46Qu6RM6RQ6RW6O_6Rc6Rf",
    "6Rm6Rr6Rt6SF6SM6SU6Sc6Sd9Su6Sk6S_6Ss6T16Su6St6T66TU6TW6TP6TZ6Ta6U96Tm6Uf6Ty6Tg6UC6UB6Uc6UX",
    "6U56Ut6Vl6Uq6Vi6Up6Vf6Uu6Va6VU6VT6VY6Vk6Uv6VE6V66Vd6gS6WU6X66Wf6X06XD6Wo6XE6Yp6Wh6XP6XZ6Xt",
    "6X_6YV6YF6Yj6YK6YT6YR6Y36gk6Yv6Xq6Yr6YW6Yw6aF6YD6X.6a16ZA6a86ZO6aY6ac6ZX6aC6ZD6ZK6Zd6ZL6as",
    "6aI6a46ZN6ZZ6ab6Zv6ZW6Zl6ae6ag6aQ6aZ6aX6Z66bv6bt6bS6bu6bh6bK6b.6bk6av6bq6az6bP6am6bX6bU6bT",
    "6c16bg6co6ck6dG6c_6d16dJ6c.6dE5le6dA6dT6cx6d36cd6ek6cH6cW6cS6cL6cq6dU6de6e26eR6d_6iA6dv6do",
    "6dd6e56cn6eU6dj6eK6dh6eA6eI6h16eZ6eJ6f46eC6fo6es6fu6f76fY6fP6fc6f86eu6eY6gG6gD6gW6g46gY6gZ",
    "6gN8ON6gx6h36h26gu6gp6gi6hU6hH6hV6gg6hQ6hg6hx6i58OM6hw6iI6iM9in6iV6iu6it7RS6iv9Zk6j76j36j9",
    "6jG6jP6jK6jR6jV6jX6ju6jv6j_6k06k46k36kD6kO6kL6kU6ka6kg6kh6kl6ko6kn6kp6kt6ky6l66lB6lJ6lV6li",
    "6lh6lp6ll9w.6m86mJ6mK6mR6ma6mZ6nU6nL6nY6ng6o26oD6oQ6o16oR6n.6ne6np6oI6oG6p46pn6pJ6oz6pN6p5",
    "6pT6ok6on6o.6ow6pR6pl6pP6pg6qV8XD6qs6qh6qz6qu6qP6qr6qp6qI6qC6rZ6sJ6ra6rQ6rv6rP6sE6sL6_a6s5",
    "6tv6uL6uA6sr6t76tc6su6t66ti6tU6tC6te6tI6t56tw6tP6ta6tL6tg6tk6uj6vk6uk6uP6vo6vV6u.6uZ6vh6uh",
    "6vs6vD6uV6v36uw6vE6ua6x_6uT6uu6w26wg6wO6x96wt6xJ6wz6wl6x46wo6xK6xL6wF6wb6x26wV6z16yH71C6xi",
    "6xu6x.6y_6xo6yn6xl6yo6xC6y.6yJ6xt6.66zw6zu6.16.06zl6zR6_p6zj6.26zy6zO6.E6.H6_26zc6.p6.Z6.X",
    "6.a6.v6_66.g6_V6_L6_i6_K6_O6_n6_k6_R70970B6_w70H70170F6_.70R70Q6zq70T70O70V70m70.70o71H71Z",
    "72P72I72l73n72i72u72p72k73V73B73T73P74973z74S74P75b75L76875c75Y75C75M75i76F77x76476L76e76i",
    "77N76v76.77I77977K77E77W77i77d77r77y77v77_78D78G78R78e78j78i78m78o78x78y78_79079679B79O79q",
    "79.7A27A17A77AI7AM7AY7Ad7Av7Ao7B37B67B47BE7BI7BY7BW7BX7Bv7Bt50F7CN7CA7CS7CM7CT7Cq7Cl7Cf7Cb",
    "7C.7DE7DF9xO7DN7Dg7De7Dm7Du7Dr7Dx7Dw7F87Ep7FE7Ex7F07Fb7Fk7FU7IY7G57Hl7Gb7Fu7Go7Gw7HL7G_7HV",
    "7HP7H17HS7Hf7Hm7HZ7Hg7Hs7H.7IB7IU7Id7JA7JF7JK7Fn7JW7JZ7Jd7Jf7Jk7Jo7Jm7Jn7Ju7Jt7K47K37K57KC",
    "7KE7KD7KL7KJ7KU7Kc7Ki7Ky7L47LD7LA7L97LR7L67LQ7Lf7La7Ld7Lh7Lj7Lu7Ls7M67M77Lq7MA7M97M27MK7MQ",
    "7MT7Mb7MZ7N27Mp7N37Mr7Mz7Mu7My7Mn7ND7NA7NI7NP7NZ7NU7N.7N_7Ny7O17Nm7Nw7No7Np7OB7OD7O97OV7Od",
    "7OW7OX7OY7Oa7Oq7Om7Ox7P77P87P67PS7PO7PX7PY7Pe7Pf7Pg7Pd7Pi7Pm7Po7Ps7Pu7Py7Q07Q37Q87QB7QE7QM",
    "7QJ7QP7QQ7Qm7Qq7Qu7Qv7Qw7R27RD7RM7RI7RU7RX7Rb7Rd7Rg8Ol7Rx7S87S77S47Sf7Sa7SU7Sb7Sc7SR7St7Su",
    "7T77TQ7Te7Th7TR7Tb7T_7T.7Tv7UE7UB7UH7UW7UU7Um7Us7Uv7U_7Uy7Uz7Ux7V77VD7VN7VQ7VS7VZ7Vk7Vy7WC",
    "7WI7ac7WW7ag7X57YE7Xq7Y67Xy7YQ7YC7YZ7Yr7Yg7Yl7ZH7Z67ZB7ZK7Y.7Yy7Z57ZA7Zi7Zd7ZQ7Zz7Zq7a77aI",
    "7aH7aP7ai7ah7b07bW7bN7bV7bQ7bL7bJ7bw7b_7cA7cT7cd9zB7cg7ck7cp7cv7cw7d97dL7dd7di7dX7dZ7e87eD",
    "7eO7eP7eW7eV7c07en7ex7e.7et7f37fN7f97fX7fY7ff9.T7fm7fv7fz7g87gN7gL7gO7gM7gf7h87gm7gs7h57h4",
    "7g_9237h77hA7hD7hF7hL7hJ7hP7hQ7hT7hX7hY7hc7hj7hm7i27iF7iA7i67ip7iO7iP7iU7ir7ie7is7jG7jw7i4",
    "7jD7iB7jC7j57jr7jb7jq7jd7jm7jn7ji7jk7kT7kO7kV7kD7kS7kQ7kB7kI7kF7jT7kP7lB7l17lC7lF7kq7l67lT",
    "7lf7mH7mK7lc7lb7nW7m07m77mJ7lp7lt7mN7mD7ls7mZ7md7mg7mV7mt7mh7mz7nC7n37nK7nF7n07nG7nO7nV7na",
    "7nM7nb7ni7nr7o37oG7oa7oj7oY7oh7oX7oe7op7oo7on7ok7ov7oz7p07p57p27pO7pI7pS7pY9ix7pl7po7pq7ps",
    "7pw7q67q27qS7qL7qA7r57rB7qk7qo7q_7qr7r67rp7rM7rE7ro7re7rk7rF7rZ7sJ7s97rR7sF7rz7sR7sw7sk7sZ",
    "7sr7t77sz7sh7uz7sY7sl7tS7su7sV7sm7tO7tT7ta7tU7tx7to7tX7u57uA7uZ7uX7uI7un7uV7u97uB7uY7v67vc",
    "7ux7ur7uv7v37ut7uo7uw7vd7vT7vM7vU7vP7vQ7vv7vg7vf7vy7vx7w37tL7vz8.k7v_7w87w97wC7wI7wG7wJ7wK",
    "7wM7wE7wR7wS7yu7yw7z57zC7zD7zE7zG7zH7zL7zK7zO7zV7zW7ze7zf7zd7zu7.27.67.37.87.77.C7.K7.U7.T",
    "7.Q7.Z7.l7.o7.v7.k7.s7.u8jn7_57_67_A7_L7_K7_X7_c7_f7_p7_v9ZS80680480B80I80O80P80S80X80e80_",
    "80x81A81681I81O81Q81V81Y81e81p81o81m81s81v81z81_82482682582R82J82Q82j56G82i83R83b83P83T834",
    "83Q83M84983l83n84R84f84Z84l85B9QB85684.85J85H83y85n85k85b85c85q86386886A86086286W86L86a86Z",
    "85V86J86f86m86r86.86u86z87087286w87987D87H87P87O87887Q87V87W87d87w87x87.88188288588788A88D",
    "88G88M88f88h88u88p89089P89O89T89Q89V89a89Y89e89g89h88k89n89t89u89.8AD8AI8Ah8AV8Ax8Ai8BX8BZ",
    "8BV8BI8Bq8Bp8Bw8EJ8C38Bx8Bv8BU8C68BS8C98BP8Cr8Cq8CM8Co8Cn8D08Cv8DG8D58Cl8Ch8CN8CO8E58EQ8Eg",
    "8EV8EY8EM8CZ8EE8E78EA8Dy8Er8Dp8Dr8EW8E98Ee8Fq8GJ8Fh8FE8Fz8G38FO8GB8F18Ft8G78FW8Fo8GD8GY8GW",
    "8Ez8Gu8K68Fx8Hj8Gg8Gy8LQ8I48Ht8Hh8Ij8Hk8I28Hf8H68Gi8Hl8Hv8Gr8JA8HY8Iv8I_8IV8JP8JD8Ix8JQ8JG",
    "8J18J68JM8IX8KX8J_8Jq8KN8KO8Ki8KV8KL8KK8Jy8L08LZ8LO8L88L18O28LB8LL8M08Ma8M88MH8MA8Me8Lj8MK",
    "8MR8Ng8M78MS8Lt8L.8MG8N98Mw8NF8Mv8NG8NL8NT8Nb8NS8Nv8OA8OJ8OB8N.8Nw8O68OY8OQ8Om8O_8PD4vL8PK",
    "8PV8Pd8Pn8QJ8QZ8Qf8Qg8QB8QC8Qs8Ql8R48R68Qm8R98WZ8Qh8RK8RU8Rf8Ri8RV8RR8Rl8SI8S68S88S08S38Rx",
    "8SH8S98SD8Rv8SA8Sq8S_8St8Sx8Sb8Sf8SQ8TW8TV8Tu8TC8TE8Tq8TN8Te8Tk8TP8TJ8TZ8Tg8W58UY8UV8U28Ul",
    "8VB8Uz8V08VG9RM8Uh8V48Up8V78V68Ux8Vl8Vo8VW8WF8WD8V.8Vs8Vt8WE8VI8WH8WM8WL8WY8WX8Wn8Ws8Wv8Wd",
    "8Wx8X48X28XI8XP8XU8XY8Xh8Y18X.8YU8Xr8Xz8Yr8Xo8Y28YN8YI8Yk8YP8YY8YD8Ya8Ym8Y_8Yn8Z38Z48ZK8ZO",
    "8ZP8ZT8Zv8a28Zy8Zq8Ze8Zo8a48aC8aA8aJ8b38aU8ab8ag8ah8b18b48ax8as8au8bC8aT8bW8bU8bc8ba8bj8bg",
    "8bl8bq8bt8b.8c38c88cA8cJ8cO8cX8cf8cc8ci8cl8co8cw8cz8c_8d08dQ8dS8dT8dd8dq8du8e38eM8eG8eC8eR",
    "8eT8eb8es8f18fR8fI8f68f88fy8fj8fi8fY8g58g28g48ge8gX8gH8gb8gc8gQ8gZ8h48hD8h28hQ8hh8hp8hd8ha",
    "8hn8iK8hW8hY8ht8hU8hR8iC8i78iQ8hX8iM8iG8iN8iW8ip9Uh8ic8ih8i.8ie8j18jC8jF8jE8j98jM8jR8jQ8jh",
    "8jV8ji8jl8jq8jz8k08kC8kE8kI8kJ8kM8kP8kQ8mw8n18m_8n88nC8nE8nG8nL8nY8ni8nu8nw8o28o98o58oA8oD",
    "8oE8oK8ny8oO68T8oj8og8oz8oo8op8ok8os8p88p18pa8pZ8pQ8pz8pw8px8q48q58qA8q78qF8qD8qG9zE8qJ8pD",
    "8qK8qM8rd8rj8rn8rp8s18sP8t28s.8sw8tF8tQ8tM8tC8tR8tB8tg8th8tV8tZ8ty8u88u98t_8uT8uU8uG8uV8v2",
    "8ur8um8uq8vA8v78v98vC8vG8v88vP8va8vW8ug8vZ8vL8vs8vo8vy8w18w78w58w48wB8wA8wJ8wH8wK8wP8wg8wX",
    "8wi8wm8x68wn8w.8x58x88xB8xR8xZ8xy8xx8xh8x.8yA8y58yL8yI8yP8yJ8yS8yV8yR8yC8yc8yp8yx8yv8z58z2",
    "8y.8zC8z98z68zE8zN8zS8zY8zZ8za8.S8.V8.Z8.j8.l8.t8_Q8_b8_Y8_g8_l9278_q9058_v8_w90H90L90X90D",
    "90U90M90B90d90s90r90v8_u91F91G91H91I90E91990.91M91O91U91e91l91s9Qe91o92291z92192092A92992F",
    "92e92l92n92r93Y93a69893R94294I94P94o94m95A95M95O95Z95b95f95p95o96B96996296Y96h96l96g96r96q",
    "96w97097197997B97G97M97V97X97R97y97r97s98U97_98K98i98L98H99U99N99599999a9989AL98_99B99G9AS",
    "9AM9AJ9AR99Q9BF9Av9At9Bf9CF9Bw9D49Ck9CP9CY9CQ9CZ9Cw9Cr9Cx9DS9DW9Dy9Dk9DM9Em9Ei9Ej9EK9Ev9FM",
    "9FN9Fe9Fb9FO9F39FT9FG9F89Fa9GQ9GK9GJ9G39G79GG9Gs9Gh9Gr9GX9Gw9H19HI9H49HR9HW9HY9HU9Hg98f9Hm",
    "9Hr9Ht9Hz9HQ9Hy9H.9I19H_9M29M79MA9MK9MM9MO9MP9MW9Me9Md9Mj9My9Mx9Mv9M.9NA6_s9N39ND9NC9NL9NK",
    "9NM9NS9NX9Nb9NY9OX9Oe9Ok9Ol9P29PC9PF9PB9Pt9PS9PU9PT9PV9Pc9Po9Pi9QD9QO9QL9QN9Qg9Qd9Qn9Qo9Qm",
    "9Qq9Qs9Qu9Qv9RE9RB9R99RD8bD9RS9SD9RL9Rv9S49S69S89SJ9SE9SH9SF9SM9SP9Sa9Sg9Sm9Sv9Sz9S.9T49T6",
    "9T89T29T99TS9TW9Ta9Tc9Te5BI9Th9Tn9Tv9U59Ty9U19Tw9U69UB9UF9UG9US9Ue9Uc9UZ9Up9Uq9V39V69V89VB",
    "9VS9Vj9zF9Vo7hV9Vs9Vr9WF9WC9Wu9Wa9WX9Wt9Wz9X69XF9XB9Xh9Xl9Xm9Xn9Xq9Xp9Yg9Yl9Yn9Ys9Z49Z39Z6",
    "9Zf9Zh9a39a99aI9aK9aO9aX9aT9aU9aa9aW9ai9ak9az9a.9b29b99b59bG9bB9bH9bI9bC9bL9cN9cO9cb9cj9ck",
    "9cy9dV9dR9dT9dO9dH9dj9dk9dn9do9dx9du9e19eF9e59dY9eP9eh9et9f59f29f09f39e.9fL9fD9fR9fN9fV9fY",
    "9fb9fa9ff9fh9fg9gj9gm9gy9h09hF9hH9hJ9hK9hU9hV9hY9hZ9hc9hl9hh9hk9hq9hn9ht9hx9i69iO9iQ9iV9iY",
    "9iZ9ib9id9ie9if9ig9ik9il9io9j49j39jF9jD9jE9jH9jO9jq9kJ9k39kH9kM9kN9kV9kW9ke9kq9l09lA9kv9l6",
    "9lF9lH9lI9lZ9lY9la9lK9lX9mw9lo9ln9lm9mL9mK9m99mJ9mC9m69m89mI9mA9m49mk9mR9mb9ma9mX9mm9n79mo",
    "9n69m.9nQ9nW9nd9ns9nu9pd9pi9pm9q99q89ph9q39q69qg9qc9sl9qZ9qV9r49qL9qI9r19q_9q.9r69r89rT9rU",
    "9ra9rH9rG9rP9ro9s99s79sh9rl9rw9sQ9sa9sf9so9t49t19sx9su9sw9t69tF9t29tP9tJ9tu9tc9tj9tl9tz9uQ",
    "9uR9uU9vr9vv9vz9w19w89wB9wC9wI9wL9wH9wT9wb9wf9wu9wg9wj9TX9xC9xE9xF9xG9xK9xS9xU9xT9xW9xb9xe",
    "9xl9xq9xs9xt9xv9xx9xy9xz9y79y87Qt9yL9yX9yi9y.9zA9zI9zK9zZ9zV9zW9zX9zc9zd9zi9zg9zt9zo9zs9.L",
    "9.S9.W5Wl6d791P7Ha57S76P000000000000000000000000000000000000000000000000000000000000000000",
    "000000000000000000000000000000000000000000000000000000000000000000000000000000000000000000",
    "000000000000000000000000000000000000000000000000000000000000000000000000000000000000000000",
    "000000000000000000000000000000000000000000000000000000000000000000000000000000000000000000",
    "000000000000000000000000000000000000000000000000000000000000000000000000000000000000000000",
    "000000000000000000000000000000000000000000000000000000000000000000000000000000000000000000",
    "000000000000000000000000000000000000000000000000000000000000000000000000000000000000000000",
    "000000000000000000000000000000000000000000000000000000000000000000000000000000000000000000",
    "000000000000000000000000000000000000000000000000000000000000000000000000000000000000000000",
    "000000000000000000000000000000000000000000000000000000000000000000000000000000000000000000",
    "000000000000000000000000000000000000000000000000000000000000000000000000000000000000000000",
    "000000000000000000000000000000000000000000000000000000000000000000000000000000000000000000",
    "000000000000000000000000000000000000000000000000000000000000000000000000000000000000000000",
    "000000000000000000000000000000000000000000000000000000000000000000000000000000000000000000",
    "000000000000000000000000000000000000000000000000000000000000000000000000000000000000000000",
    "0000000000000000000000000000000000000000000000000000000000000000007wA8aS9D89A88JS4_972x6On",
    "6Z89Bv6Rx5z54ue4xX4xy4y04y34yv4zM4.I4.A4.Q4.K4_D51050Y4__50U51651m51252K53q53O55A55a56T56.",
    "57i58L5AS5Ac5B05BR5C05C75Ca5Do5EJ5Eo5FTFeE5IS5IA5If5J_5M65TP5Tb5Ui5V85V7FeFFeG5YU5Yo5aB5bJ",
    "5bR5bT5bZ5ca5cw5jM5l07Kl5lO5li5mU5oc5ow5pr5qd5rJFeH5r25rj5su5sv5tG5yX5yq5zd5.t5_U61T62562A",
    "63U63L64W63o64H64t64m66O68J6Ac6Fr6HW6IT6JE6LE6O06OL6Ox6O96Ok6OU6Oa6Pb6PN6PPFeI6Pp6QP6QW6Qo",
    "6Q_6Rw6SEFaf6Tc6Ux6XI6V06W16X46ZFFeJ6beFeK6cO6dY6em6fh6f66fp6f.6hY6ha6lM6m_6nS6o66nl6pQ6q4",
    "6s76rl6sM6si6tF6tu6to6ty6uv6vS6ud6uy6w_6.86.r6_r70570770e72572h74F74475S756757FeL77177.7An",
    "7A.7CaFeM7Dt7Ez7F97FM7FZ7FI7G77Fr7Gc7Gg7Gf7Gk7HY7I97IV7K17Ll7Q27QS7QU7QR7QcFeN7T65Al7WX7XE",
    "7Xa7Xw7amFeOFePFeQ7cKFeR7cR7hH7hdFeS7hh7kUFeT7r87rS7st7sW7tM7vI7z77.XFeU8C18DY8D_8F78Fs8H8",
    "8Iq8LJ8LP8LhFeV8MmFeWFeX8W78Zr8eI8et8fv8gd8g.8hVFeY8hs8jJ8j_8pm8pq8qI8rsFeZ8xFFeaFeb91d93U",
    "Fec94L94d97Q97N97U97j97k97a97b98698G98A98w99098y99E99P99H98v99d9Ad99t99u9Bd9BN9BP9BGFed9BL",
    "9BW9BJ9Cb9CX9BxFee9CU9B_9CT9C29Dm9DN9Ea9F69FU9Fu9Gn9H59H89MIFdSFef9QT9Ql9Sp9Sx9T39TD9TF9TH",
    "9TL9XN9XbFegFeh9adFei9cU9fE9hP9hS9jr9jo9kF9kn9kx9m09rm9rhFej9uP9xH00000025m25n25o25p25q25r",
    "25s25t25u25vF_YF_aFy7Fy2000000000000000000000000000000000000000000000000000000000000000000",
    "000000000000000000000000000000000000000000000000000000000000000000000000000000000000000000",
    "000000000000000000000000000000000000000000000000000000000000000000000000000000000000000000",
    "000000000000000000000000000000000000000000000000000000000000000000000000000000000000000000",
    "000000000000000000000000000000000000000000000000000000000000000000000000000000000000000000",
    "000000000000000000000000000000000000000000000000000000000000000000000000000000000000000000",
    "000000000000000000000000000000000000000000000000000000000000000000000000000000000000000000",
    "000000000000000000000000000000000000000000000000000000000000000000000000000000000000000000",
    "000000000000000000000000000000000000000000000000000000000000000000000000000000000000000000",
    "000000000000000000000000000000000000000000000000000000000000000000000000000000000000000000",
    "000000000000000000000000000000000000000000000000000000000000000000000000000000000000000000",
    "000000000000000000000000000000000000000000000000000000000000000000000000000000000000000000",
    "000000000000000000000000000000000000000000000000000000000000000000000000000000000000000000",
    "000000000000000000000000000000000000000000000000000000000000000000000000000000000000000000",
    "000000000000000000000000000000000000000000000000000000000000000000000000000000000000000000",
    "000000000000000000000000000000000000000000000000000000000000000000000000000000000000000000",
    "000000000000000000000000000000000000000000000000000000000000000000000000000000000000000000",
    "000000000000000000000000000000000000000000000000000000000000000000000000000000000000000000",
    "000000000000000000000000000000000000000000000000000000000000000000000000000000000000000000",
    "000000000000000000000000000000000000000000000000000000000000000000000000000000000000000000",
    "000000000000000000000000000000000000000000000000000000000000000000000000000000000000000000",
    "000000000000000000000000000000000000000000000000000000000000000000000000000000000000000000",
    "000000000000000000000000000000000000000000000000000000000000000000000000000000000000000000",
    "000000000000000000000000000000000000000000000000000000000000000000000000000000000000000000",
    "000000000000000000000000000000000000000000000000000000000000000000000000000000000000000000",
    "000000000000000000000000000000000000000000000000000000000000000000000000000000000000000000",
    "000000000000000000000000000000000000000000000000000000000000000000000000000000000000000000",
    "000000000000000000000000000000000000000000000000000000000000000000000000000000000000000000",
    "000000000000000000000000000000000000000000000000000000000000000000000000000000000000000000",
    "000000000000000000000000000000000000000000000000000000000000000000000000000000000000000000",
    "000000000000000000000000000000000000000000000000000000000000000000000000000000000000000000",
    "000000000000000000000000000000000000000000000000000000000000000000000000000000000000000000",
    "000000000000000000000000000000000000000000000000000000000000000000000000000000000000000000",
    "000000000000000000000000000000000000000000000000000000000000000000000000000000000000000000",
    "000000000000000000000000000000000000000000000000000000000000000000000000000000000000000000",
    "000000000000000000000000000000000000000000000000000000000000000000000000000000000000000000",
    "000000000000000000000000000000000000000000000000000000000000000000000000000000000000000000",
    "000000000000000000000000000000000000000000000000000000000000000000000000000000000000000000",
    "000000000000000000000000000000000000000000000000000000000000000000000000000000000000000000",
    "000000000000000000000000000000000000000000000000000000000000000000000000000000000000000000",
    "000000000000000000000000000000000000000000000000000000000000000000000000000000000000000000",
    "000000000000000000000000000000000000000000000000000000000000000000000000000000000000000000",
    "000000000000000000000000000000000000000000000000000000000000000000000000000000000000000000",
    "000000000000000000000000000000000000000000000000000000000000000000000000000000000000000000",
    "000000000000000000000000000000000000000000000000000000000000000000000000000000000000000000",
    "000000000000000000000000000000000000000000000000000000000000000000000000000000000000000000",
    "000000000000000000000000000000000000000000000000000000000000000000000000000000000000000000",
    "000000000000000000000000000000000000000000000000000000000000000000000000000000000000000000",
    "000000000000000000000000000000000000000000000000000000000000000000000000000000000000000000",
    "000000000000000000000000000000000000000000000000000000000000000000000000000000000000000000",
    "000000000000000000000000000000000000000000000000000000000000000000000000000000000000000000",
    "000000000000000000000000000000000000000000000000000000000000000000000000000000000000000000",
    "000000000000000000000000000000000000000000000000000000000000000000000000000000000000000000",
    "000000000000000000000000000000000000000000000000000000000000000000000000000000000000000000",
    "000000000000000000000000000000000000000000000000000000000000000000000000000000000000000000",
    "000000000000000000000000000000000000000000000000000000000000000000000000000000000000000000",
    "000000000000000000000000000000000000000000000000000000000000000000000000000000000000000000",
    "000000000000000000000000000000000000000000000000000000000000000000000000000000000000000000",
    "000000000000000000000000000000000000000000000000000000000000000000000000000000000000000000",
    "000000000000000000000000000000000000000000000000000000000000000000000000000000000000000000",
    "000000000000000000000000000000000000000000000000000000000000000000000000000000000000000000",
    "000000000000000000000000000000000000000000000000000000000000000000000000000000000000000000",
    "000000000000000000000000000000000000000000000000000000000000000000000000000000000000000000",
    "000000000000000000000000000000000000000000000000000000000000000000000000000000000000000000",
    "000000000000000000000000000000000000000000000000000000000000000000000000000000000000000000",
    "000000000000000000000000000000000000000000000000000000000000000000000000000000000000000000",
    "000000000000000000000000000000000000000000000000000000000000000000000000000000000000000000",
    "000000000000000000000000000000000000000000000000000000000000000000000000000000000000000000",
    "000000000000000000000000000000000000000000000000000000000000000000000000000000000000000000",
    "00000000000000000025m25n25o25p25q25r25s25t25u25v25W25X25Y25Z25a25b25c25d25e25fF_YF_aFy7Fy2",
    "38n24M24X28r7wA8aS9D89A88JS4_972x6On6Z89Bv6Rx5z54ue4xX4xy4y04y34yv4zM4.I4.A4.Q4.K4_D51050Y",
    "4__50U51651m51252K53q53O55A55a56T56.57i58L5AS5Ac5B05BR5C05C75Ca5Do5EJ5Eo5FTFeE5IS5IA5If5J_",
    "5M65TP5Tb5Ui5V85V7FeFFeG5YU5Yo5aB5bJ5bR5bT5bZ5ca5cw5jM5l07Kl5lO5li5mU5oc5ow5pr5qd5rJFeH5r2",
    "5rj5su5sv5tG5yX5yq5zd5.t5_U61T62562A63U63L64W63o64H64t64m66O68J6Ac6Fr6HW6IT6JE6LE6O06OL6Ox",
    "6O96Ok6OU6Oa6Pb6PN6PPFeI6Pp6QP6QW6Qo6Q_6Rw6SEFaf6Tc6Ux6XI6V06W16X46ZFFeJ6beFeK6cO6dY6em6fh",
    "6f66fp6f.6hY6ha6lM6m_6nS6o66nl6pQ6q46s76rl6sM6si6tF6tu6to6ty6uv6vS6ud6uy6w_6.86.r6_r705707",
    "70e72572h74F74475S756757FeL77177.7An7A.7CaFeM7Dt7Ez7F97FM7FZ7FI7G77Fr7Gc7Gg7Gf7Gk7HY7I97IV",
    "7K17Ll7Q27QS7QU7QR7QcFeN7T65Al7WX7XE7Xa7Xw7amFeOFePFeQ7cKFeR7cR7hH7hdFeS7hh7kUFeT7r87rS7st",
    "7sW7tM7vI7z77.XFeU8C18DY8D_8F78Fs8H88Iq8LJ8LP8LhFeV8MmFeWFeX8W78Zr8eI8et8fv8gd8g.8hVFeY8hs",
    "8jJ8j_8pm8pq8qI8rsFeZ8xFFeaFeb91d93UFec94L94d97Q97N97U97j97k97a97b98698G98A98w99098y99E99P",
    "99H98v99d9Ad99t99u9Bd9BN9BP9BGFed9BL9BW9BJ9Cb9CX9BxFee9CU9B_9CT9C29Dm9DN9Ea9F69FU9Fu9Gn9H5",
    "9H89MIFdSFef9QT9Ql9Sp9Sx9T39TD9TF9TH9TL9XN9XbFegFeh9adFei9cU9fE9hP9hS9jr9jo9kF9kn9kx9m09rm",
    "9rhFej9uP9xH"]

end ResidencePortal.Charset
