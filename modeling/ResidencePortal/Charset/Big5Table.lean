import ResidencePortal.Text.Packed

/-!
# The characters of Big5

The double-byte cells with the Hong Kong supplement, 157 to a lead byte.
-/

namespace ResidencePortal.Charset

open Text

/-- The double-byte cells, by lead and trail byte. -/
def big5Cells : Array Nat := Packed.unpack 3
  ["000000000000000000000000000000000000000000000000000000000000000000000000000000000000000000",
    "000000000000000000000000000000000000000000000000000000000000000000000000000000000000000000",
    "000000000000000000000000000000000000000000000000000000000000000000000000000000000000000000",
    "000000000000000000000000000000000000000000000000000000000000000000000000000000000000000000",
    "000000000000000000000000000000000000000000000000000000000000000000000000000000000000000000",
    "000000000000000000000000000000000000000000000000000000000000000000000000000000000000000000",
    "000000000000000000000000000000000000000000000000000000000000000000000000000000000000000000",
    "000000000000000000000000000000000000000000000000000000000000000000000000000000000000000000",
    "000000000000000000000000000000000000000000000000000000000000000000000000000000000000000000",
    "000000000000000000000000000000000000000000000000000000000000000000000000000000000000000000",
    "000000000000000000000000000000000000000000000000000000000000000000000000000000000000000000",
    "000000000000000000000000000000000000000000000000000000000000000000000000000000000000000000",
    "000000000000000000000000000000000000000000000000000000000000000000000000000000000000000000",
    "000000000000000000000000000000000000000000000000000000000000000000000000000000000000000000",
    "000000000000000000000000000000000000000000000000000000000000000000000000000000000000000000",
    "000000000000000000000000000000000000000000000000000000000000000000000000000000000000000000",
    "000000000000000000000000000000000000000000000000000000000000000000000000000000000000000000",
    "000000000000000000000000000000000000000000000000000000000000000000000000000000000000000000",
    "000000000000000000000000000000000000000000000000000000000000000000000000000000000000000000",
    "000000000000000000000000000000000000000000000000000000000000000000000000000000000000000000",
    "000000000000000000000000000000000000000000000000000000000000000000000000000000000000000000",
    "000000000000000000000000000000000000000000000000000000000000000000000000000000000000000000",
    "000000000000000000000000000000000000000000000000000000000000000000000000000000000000000000",
    "000000000000000000000000000000000000000000000000000000000000000000000000000000000000000000",
    "000000000000000000000000000000000000000000000000000000000000000000000000000000000000000000",
    "000000000000000000000000000000000000000000000000000000000000000000000000000000000000000000",
    "000000000000000000000000000000000000000000000000000000000000000000000000000000000000000000",
    "000000000000000000000000000000000000000000000000000000000000000000000000000000000000000000",
    "000000000000000000000000000000000000000000000000000000000000000000000000000000000000000000",
    "000000000000000000000000000000000000000000000000000000000000000000000000000000000000000000",
    "000000000000000000000000000000000000000000000000000000000000000000000000000000000000000000",
    "0000000000000000000000000000000000004Fm4mo4O34Mc4Lud9d4rt4Mpdon4pYdp53kL4Ss4T44n74n0aA_ZON",
    "dDIcwBd3I4nNgDH4TF4NQ4o5dni4q74ga4QXciZ78bbfKXfZZu6ZzX6PD5Rx0007sL5aTekv3tq9Sqdll5lRXrU5ga",
    "3Obfwm5hH5kt5py6Tk8MJfb57HX7IT3XrXrJZQUc0X3xibZU3hr7hy9.Na5XeaDZ7gWgAZ9U4CA8I49.M9Gl4am8OJ",
    "5YM9TA98O7dG7eo6PW6ef8YT7HC7l56U27ei59F9163Jc7F4bsv7J69_75Up4al5HC44nZQE5WO7fodjb8kF4Qkcw8",
    "461bsP7kkYIy9_8YJ1YJ9YJC9_98K4ZMx42q9_A4JXgt_6B171k9_B000000000000000000000000000000000000",
    "000000000000000000000000000000000000000000000000000000000370371372373374W4C375W3HW3D376377",
    "W3BX_e378W3A37937A37B37CW4E37D37E04003107D03004I03904Q03805C03J07H03I0001w.0001x003A04103X",
    "07E03W09H04J03f04R03e04h03j07G03i05D03p07I03o05h03w07K03v07M07O07Q07S03y0001w_0001x103g09X",
    "2FQ2FR000000000000000000000000000000000000000000000000000000000000000000000000000000000000",
    "000000000000000000000000000000000000000000000000000000000000000000000000000000000000000000",
    "000000000000000000000000000000000000000000000000000000000000000000000000000000gEfX550006KA",
    "0000004uz6xT9rE97V000000dSr6IH4yQ4ye4.e55M55q56S57a5AX5Ae5Cx5DE5FH5FO5RY5Zm5a45a75ao5aq5jc",
    "5kU5kV5oQ5w660x6M96V.6W46Xb6rE72y7Kr7wa7wi7ww7x77xF7xV7y67yt89w8BF8Dl8d68k.8lY8zc8zd8zk7GH",
    "7py7tD6b67h958d00000000000096C7Yu95U82y0008qB83sWdd00000082V9x74pD9t99uC4m.ftsd0E9uAg4p3N1",
    "0006wQ88.7KP0004aH9fi9gF9.P7c7eHiXtAWNGYhc4ua4w14w04w74w_4xh4yt3HC4.z3v85035283Hz3IJ3Ib566",
    "5a557R57y5854w959v5AG5Cd3N75Ef3LH5Em3LJ5F25GZ3Lj3Lo3Q15IJ5IZ5Iq5Iv5JG5Jl5KO5KZ5Ke3MO5K_3Mb",
    "3M_5NN3N5ds45Kb000Wn2WqLb4h5MGYp63diWD18v6asufJb41Je2.7TwYmu3eq4VLe5Tcdoatg6JTWryW.qWpLX3q",
    "6ID8v.WwMWmBWzaYofe9MaJJ000Wr6ffDe3f4VqawdYp29go3fdfNq3_j3K6bB7fVKdZ8Yr49rk9WL0004FPc2b6Iq",
    "5JZYrCYlAX1t3dxX1lcRQcSMdcW6Jgb1IWn38veY6XejCWSn0004WBW6f3_w5XpYsD000aN8WJyc2NWzCWsM5Lv42x",
    "4Ew0004gqYfcX2T86g9ZrWsS6Dv3d.YTr8t05QX6Hy3v3000gO1Wu9YhFYp9000X38Zd23cI3e6eAR3Lubv9Y375PI",
    "WynYoofSW3Iy6mzaux000000dLqYwBY88gPRepDWvwWmqcWS7.JX3FYW3Yav3Nxb7ZWwCW.DWwg3.JWymWr7X5FWvC",
    "000WwhWkfWr8X30X4z3_vYQM6GoW.jZFqdOvYlEWr.Wr_YnHYnL3eOWwOX37WykgOocjGepIesPepA9Mg5JC8B45Mv",
    "000fx39mc9gsdTUYtk75085j83i5mScLo84q3UN5DVe2z96sWxwWuFWvtWxx3NTath3O9WpM5QlYUrX39WuGWvuX1u",
    "X58e87XHLWvvavGYsa5fKX0TX0UX3rX3s5USWuHdQKeBDW.rWvxb5.3S3W.sX60bBOgAzadQXWwa5te9y5YP59e3OQ",
    "bSz7ko5je4W04ii9yd4dd9mV9kDbjqZ4z5Nx3No5Q94ue5a2Xl1lXu9THW264vR4wx3K.5mZ5zH5_43Zw69C6Kr6jw",
    "6mr6mw71i78h4ui7AjaZf7zI7ax7pv7zJc9g3J1000cDB802820cOIcbH5DT8Xa8d1dYo8kW8qT9I59Lu9L_9NeeuF",
    "9Vc9Xr9ZE9ZU9bZfWG9ny9uV9x46jlFa74utW279OT68t9IY00050x6t.fnp9.c3t98YFa5E71t5pr4iWb7D3LPbqm",
    "64Yeeo8.d97s76H6SP7EwZA1g473oBXc04iG7Za7G256keSF4096fZgAw48Z8OFWfl7egfb7ehg9TL71D5CaY1.9Fq",
    "7RPedZ9.d7VT4wZ4_m52y4ul4yN9.e5Gq7sB5YI5ZGXss5wI5wP5_2YSI6MBZFv6aP6f3ZnZ6p_000780aK57EC3xR",
    "aeJ5iL7Iv8k3boabQL7gJ7li7p37vi8Bu8MN9.f8YG9.g8wv9.h8_F8LV9dW98X9.iesvXG_41n4AY5eQ000000000",
    "9Xe6Th49s5Sz0008NMabx8A_d4D4o1crq5rxciLc..9.j9.k5kM9.l6Rd7vR6vN7dA3s84J3Z9MYUM4EQ4Ks0005pL",
    "ZiQ8hv5nu3qIZLH5ru9.o75N4LOa3iXuZ4nt3bu3HAW6acn18hC4.qW8v5c_85i9XMfZw5yxWkV000Y71ebj4424Qx",
    "f1v3y79.pg6r43u3VM4Rtcn645yeQodF_4Lj3ZKbIQ4LX4KR4s94nx4rs4Ng3_8aiF3PX4JU4Iz47j5q.5r85rM3ty",
    "3WF5sa5sv3WW3Wu5v25wz5yb5.33a83aK3a_3bD63N64z5pb3c966t66v67F3cu68i6AG6Bb6CO3du5Qn3e36FY6Fx",
    "6G76HQ3fB6J05qL5OX9.V3gN6M63gz6N_6PJ3ho6QI3iY6SM3j26Ua6W03jO6XA6Y43jo3jn3jx6a96b379S6ba6cV",
    "6c53ky6dM3lT6fb6fq6fn6g23li6gP3lo6gh6gr6hK6hs6k16l16lg6nr6og3pB6q26q66qc6s13pl6sa6sn6uL6uO",
    "6uf6w6ed06wx6xY6xQ9z_6xe6xf6ya6yq3r6Zz16.16..3rg3rr76t5oP3sA70i3sH71G71K71l71_729WCb4F13Nn",
    "WxOZxN5U.cxJ74.bVW3PE6cYelf5jq7f9bZXfJP7fb7fzbci7gx7gm7h27h377HcID47A7hQ7hT7hg47l5Iobm17iB",
    "7jL7ifbCEbp.7kY7jl8ESbkqcn_7lG8GX7kI000bqW3sjbnb8II7lw0007mrbp17n47o3aY27oc6PzaLu7p97p77pc",
    "7nq7pp7pr0007vd4KTcv47rTcxM7ID7s97sh74r7sp000a1Nc0f7ta3qJ7trXVv7tbeDj000c4Xc5Q7vk7wI4Ch9Hi",
    "7ud7z07z17z77ascBG9dX7.NcDH7.ZXPXW1e4LSZTc4K3eCw7_wcI900080880T00080lg27cp380x80y81XYSK4c9",
    "cOcZtZcRe6Sb82def884784Q5YmYRs6n_cIOa.u6JdXIA88OXXU6fJafbagL4Hw88fWiDcfIZr.4_vXJz8JY8DYciA",
    "acdZKmXTpZtu8Ag6aRlcK47R8LB8BG8CQWuMXUq3R1Z5zZLQ89x8BY8COZwBcsZci5ckNZNE3s_8CT5Ni8E54KBcsb",
    "8Ei0008FJ3H.cxK6fN8LQ3IMcv2Yxl8HObla8Hn3tJ4Ja6gd8HAZor7bO000ckMcvtcv38JU0008EH4IW8IJ8JaboH",
    "490bp04L38Kq5hocwP4Kd8Lp4KM6U_8OMeObeOx8N1d288O2XM2d3Dlco4Lg8Oe3P8XYY5FtdEQ8P.8Tng3u8VkYmd",
    "8Un8VQ8WF5PX8Pi6XM4OF8X58X6dNWZsvdNa8XU8YS4PR8Yq8Yr6F18Z57TtdSF8c78cA0000008cd8cyeeb8dddaa",
    "dgz8gS7UJ97.8gGdfP7hfdiwZ.F4SJdiu75y8iC8iVbGmbLb8i_8jC8jD8gfafw8kG8kR8glXRV4OL8XF8oRdrKdsF",
    "ldK3SbdrJ8pMdsOdsz8qI8q3XaG8pR71S8qHap93xG0008sfe02X0KacA3jye6yd4C7hd8wj8ws8x39BK8yP8yjeDb",
    "eGI8.b9C3gAVWfG8.p4agedUeKzZsx5xuZ9Y8_vg0KeQyeK1YCb3c0cxN90teKydg.91XeLieOB92eeSJ934eRc92k",
    "00095d3hm96f9747oieapXw998E6oV99199YbMv000eh6ZoReiCbNRWqn9Ci9DhehXelh72F5h3ehYehb4bb994eli",
    "emvel_9Dp9HR8wy9M59Mc9Gc9MW6_s4AvYPweROX9yZuk4dV6mS9Px9QM45i9QZcxL67Q9Qs7ZrehW9Qz5FC4cXcou",
    "W9qcGGf2lf3bahHXaLZCA9Sn8P29Ss4eF4Kz4M5ahf71r5j19SR000f7L9TN5jAf7h9TV9Gb53GZ2tZ2y9U99UV9Un",
    "9U.9V09VI9VWbHi9Vk7GSfGp0009VrfGTdbw4hH9Wq9Wp9XB9Xc3iEd5r3rHWOma5SbS69ZA9Yt9Z89Z74h_cqdXRJ",
    "5Mm9ZX9Zc9Zi9Du9avaef4jofXNfa59dr9eC9ex9eG9fObSb3R4f2nflL9hW9hYfi59hq4mE9iK9ijeO050q9iqcce",
    "3Z3Z1z9jG9j0fq.5f5XXZ9kEa9B9m29l_9mCfve9tKf.tg6Ig6hg3Xg4Zg7V9r.9s3g4q9uE6Y89t4Y5Rg6Jg8WXax",
    "g8p9qvg2vgAq9wG9wL9wU9wY4qq9wg9wlaDa9x13jW3db3qT4yo3U.emh9y29y84kM9GacsY9yN0009yv5QV5QA9z5",
    "9cuf2B9Vo8H_9zY9zf7hS9.E78M4k.abracx75taduaD8afH7EUelQXZw7cVeb.eus9Df9Fpef49Bi9E19FBebiaIv",
    "78N3xh7To7f373GaHpaFu75.XVl72ZXY.ZMP3x7XY5bGlXVu3SYXRxXWv3RXXTqXZHbzB3SZXR05TRaebXF.XAeXF6",
    "XIs8K3ZQc0008HLacKd5bZunbLSZxxd1I4JqZRkfcTcyc6Vv3Sp3mL3td5XiXaY6WG41NZS_a3Xa2Ba4FcmX5JB5QU",
    "cQn5QIW_VWkeWuD9F6eiJ9ES4xu54h3WPaGs4wyWHbWD_4zB4.AbPH5feW6hWFB3cPWCAWGK3Gr4yfWB0ewpW9r8hQ",
    "W8C4wO53D54D4.Y4y3aeEZwA4z250k51i5214_C4_b51O53y0000000000006vsZMLZuvZw_6roXY4Zw956e573WNW",
    "4JTWIZWIIWIH8rwegSWSE59P5AaWXp5BX0004Pw76CaECWmWaciX3a6dHWuT0003xU7IP7GK7HM7EO4kEagya2D5FG",
    "3M478Fa395MqWD55JDWl65ST99T9Rq9Dc5VT5UD5T_3O.5ZB5gPef6XRwXTlXSG5ei5cu9AF5f.5hF5eIbb6XdpXXX",
    "aAL3Rr6q57H35eXbw35g1elNWGJ9FW7ICXC37454bo9G8edx9Ez3UW5mU5oU5vU5v8XcMXbyZhk5xD5jFXa3Xa43S1",
    "XYW3RTXR.3RJ84gef7XswZHoece5yC5yEXadXUh5fhXSx5j48OKdNz8XW61.YXWYOh5_R3wuYMlYM.f28czp670W0.",
    "W16YOR66P66O61rYoRYq7aRKf5D6HnaPbYjg3efYiYZHGfZgYvu6CtgHR6Is6Cn6FHadZYrd6AaYoX6Gx6Lh6bo3lq",
    "Z2EZAjac9ZAh5KDZBWXZPfG_6REZA9Z6p3hW46GbM4eiYbMFXRybLRbGb7ZkZ43XWgZ8q3HaZ8FZ62aB96QEcqa6Ph",
    "4kJ6OmdXmXth6PZZBIZBX6OUbXo3ZHZWwZUy3kPZUYZF.7JG3kM6UFaOg6Ys6WU3l46g.3XZZVLaI76ep6fI6h96i5",
    "XaI6KH6YO6fC3lN6fw6jNZ_0ZoQ9EW9BoelgehB9A9e0UedS9Hd6sb6yBadi000Zz_3sF6u4a0y5ez6uA5X76qa7X2",
    "74xaCQa9s73n79G7A77AKaUFaSb55vagaWNh7HwZxuZPVafAaaNb_X3y63wnahVemZZyr62d3xp7JC7Gy9E77Gt4IV",
    "ctg4LH7M33zZapPaq63zO7LL7PpgN63iP7HeehCachacE3hx3tDafE3x_ad5aZp97w5So9D2ehZXXa53Vb8Xb7d7Tu",
    "Z8o7SE7SF7TxaQNZU13fUaZm7Gu7IR3w_agwah7438agMc6k9C7bM17WU7YD7Y87ZI7FG7bPdT1bRZ44E0008IM7cb",
    "6ejZxw7ew7dq45kXRc44o98r7dnWrCacCWAPZswXTk3MN5Lh3Lm3QgW7KWmD7hY5fPYRrbglbgS5eDW9R7Zm5egbl6",
    "7h.47v7nT7nj48Hbkpbwybwc7pDadvXUm7oE7ny7ok6go7tS7u77tJ7zEc9Xc5Sdj87sNbw249gcjrWaM6VMW1EZNF",
    "5V4cGIcFuabY7_T7idWWibhfbr37iCbuE9dc8P59fZ6eSZG_3dYadtcMj9eVcMW8I0d4dcpH4Jg84t4G2836849852",
    "cUq9Z3cf289Y89bcfH8HJcsd8OGd8R5g645_XX05ihXYX5haXZO8QWlcyZsF8WjdGY5e28Xk4z58Y78Y_8Zc8bb8bD",
    "bQ38bKdU5dU4elrelPekSedv3wj8IZ4Rr4RF3Vo8ez8eSfH85zD98haA46NK74f734XX59rj8oV8pfdtS5cQ7V35dm",
    "4Dk3RK8ug8wdam98ym8zA4Bq6nO6.xYCX4YR6zv6wBXVQ9lf3Qraal92x0005Ln4a696x9G4efB41Yehy9GdemTemx",
    "8Jb8eh9MP9Md9MN9MMeqq7H53x2aZ_af2aFg3xdZ8b9QFexdevcevb3xCadjafuZ_k7GI7Hh3xy9T1f2m6X74eTf2J",
    "bVV0009Deec9emceilcE.9Aw5iH8jf4ay7Fva8R9UR9Tn9auWyc5t1el5ago9WVfJQ9BsfNN97b4J0ejGafdeja9ZS",
    "ef53y098g4ab8GK9ax9bDdi63tz9cR4jl9cg9fSejbbZ86gF9eX5h.9elfZn4kGfb89cy4kz4kN9Dz5XoXC25WYacu",
    "XJe7X4YSVZsu6Z53rz9HO3ad65GYU1Ybh6479nF9nJ9nx9mr9mG9j_9lFfuj9kVg7rg3.9qX4oka449uO4om9qCg6q",
    "g3jg3pfal9sb8IzcuIc_Vck28Ny4Kpcsacw4ctm8GW8Nkcu0ZVNc1a7dYZMSZP04ajadU3rY9FR9A.9D8WA_7Yv99t",
    "9HD4_a3H091abLT7Wz7XK7Ys7XBXTNZ79ab13QQ4zo6_Q6_P00070U5GKa6r5Ux5Zp5UA9qM5VN74q3Ila6i77hcn0",
    "a.N000XUref964C5hE5eB4AyaI83Si4jxedy9Ex9EuXZMWyT8Hocp0XGJaBwYmcaF15cKZstcT17sec5Rc2aacvacB",
    "edw9Bb7FY3xf7IqejZXYV3xXagp6hO7Fp7Fx3xMae.agKXVPafcWEdXGaadb7H8aaM72babs9A47Fc9DVWJ.9CnehE",
    "eeM9E6eldbNL4areg275hab3Wp_5QaWOQWlhWou5K27d4XVw7t.XR2afGXXI4Kk9G13SAeh0acj5cmXY_XY3dI45gX",
    "3RYZrR3Qm99V5fveg1XXY9Dq3pDWgq4gM3cA53q3rf3rCXES75r4Bxe8O6uFf3a4Jh6rNdvF71d6ol3pMZ_jZuj6u2",
    "6yC3rlWFr7LH3Qy3J84Q03xQ4Xn5d499k4a.8z1emScl05WI5V83RMXHI73.aDYafnY_ZXAmYEz6Yv6bdXEOZJbdlq",
    "ZRVeg3ZVMZFwaoV6eQZQjcot8G.4JV4JEcqccrHco2c_U6yNd498CzXSw8Fjco0d1JXVR5c95g2XUp5fX5fnXa5a7y",
    "3Sj5dlXSy3R776E9EG6QQaAb5fk5ehaAJ6ehZxvdSsaHRaBA74Ta9PedX4.mcqe5p2aJEdvDaEz6eCa9MXC472c74p",
    "aFf3sb6pVlWbafF7vb5dh5ql3tp5zSafTXVV7sa8Gc5I5ZhwZC0W8K5T.WZLWOP3_bX.UgAs703f5R5rm7EF7pJefP",
    "fGW4_87_d7BD7CGdhq7Cu7CvbRs7D17D83wfdiO91i77raZo7FX87s3xA7SC3xH6oY5Rz7GP7GU7GV3xY3xm3xq3xw",
    "7JJ3yE3zJ7L27Lj7Lo7MD3zy7N87NS3_07PD3_N7Pq3_S7PwazS7685OZ8c05Xf40T7T340v6TX4153NR7UO41g41l",
    "5nU7U.7VB5Zo7WO72v7WS42e7Wv7X77XH7Xc8H8bKr7ap6W37ao4434497cH7cP8.x7e68.y45d7gH46o7gy89v474",
    "7hF7hR47F4uX7jY7ji7jx7mI7mR49W49w7nx7oS4AC7ou4AK7pj8.J730WpF7tF7tK7tG7tz7.k7.q7AV4EN80W80b",
    "7iv80k80n81K3tC5Uq72W82t83f4Fj84C7Cg84E84I7LW84K4G13iv85M85P85Q4GJ5Ww85y8644Gb86J4Gj86b5Vl",
    "87187a89K4IF8Ac89s8BA8BO8B_4Im8DN9Pf6cA8G573r8Ha63Z8I84K48I.8JX8Ju8KG8Ku8LI4Kx8Ll8Lm8NW4Lt",
    "8Po8QI8Qo8Rl9P58UB4O64ON8Yk8Z_8aa8b78cHdbd8ef8eu8gK8gq8nH8pK8po8qS4UO5XV8t34Vj4xk8uw5NO5TK",
    "8vn5Nr8wm4Wt8xE8xY8xa8xj8xo8.t8_18_A8_C90p9d44Yj9ZW98J4aU98e99O99h9An9Ak9A_9BZ9Bh9Bp9Bq9Bz",
    "9D39E49Ej4b54bH9w_9GN5C19GT9Gj9G.4bg9HK9Hv9Kj9MY4cd9Nq9Op4db6UW4ea9T04er9Uo9V25PK4ha63e9Yv",
    "4iP9Zn5X49aE9aP56q9aS9at9b29bT9bY4jm9d54kT9ey9iF7g39jf9k19lT9ln9lq4nj9mW3TlXl29r99mw9x.5PG",
    "9sJ9sz9t09ty9Js8.s9vx9wi9wn9wz9x69JS9xY9xn9xu7h89z4W2KWAtWEW6aQ9J35ciWJN5X09J13UvWNLWOLWPs",
    "XQw5TN75pWh2WhDWk_5HglWxWlB5IUWlxWmxWnJWnbWny63dWoD5PwWorWpTWpjWrlWsoWt86bL9ml8UbWu4WuEWxN",
    "W.GWyjWvp5mWW.y5uBX1SX1FX1s6SUX1xX28X2M3P7X2_X3JX4lX4x5Da8IjXBZXDrXCs8k1XLtXOPXV3XV74vu72x",
    "XWjXbgXejXf5XmgXnmXoiXx86B3XxLXyL76O6XLY156df3R8Y9yYFNYFwYSgYXnYbF8BzYbdYcJYhL8cbYhe8.WYiE",
    "9UuYi_9X79gzYnC000Yo8YotbleYq8YqIYstYsLYv2YzqY_CZ0pZ1cZCVZFU5.n6P86Q_dfvZLdZNp000acw000ZOQ",
    "ZSM000WD65Yr6SE6aOZgddPNb_YZuHZwvdN.Y2Q4ZG4gua4PegQaBkaCDa0xaCqaEMaf5WNA57IWOH5cVXwe3k.Zp_",
    "aG4aJM5U8aPq3cRaSleNefd93TYY738jUejE000aWIaZxaeL789ah0Wnu5bbawba.6WTv8xQb0i5AF5S_75nbAPbGP",
    "ZzAagd5MybH6bHkcjI0003HpbK_dOobLU4SObLYbLcbV7aa_bXT51c3JxZFC000ba34Tyeb8bgkbk9bm6XsG5UX75H",
    "000c42dmI91Mc6oa.Q8jYcG2cHA5rRclt000cI4XaS8hgadscI8Z_lcKI4l0cM_cQrYSR9HbbVX66L5edlZD0005Qv",
    "aKXcRy4vgaaq9PM6sFcoz3OO8btcUPcXkcGHcXU000cZ77j2f30WeHcac000cav7f5000cdw9eccej3PVcHfW0X7c3",
    "ceqcjR5qiZKP000ckT4RGcoa7Kx8Xbcsk5Ys3SSYMDd1Bd7D3nKdA0dA59A1Y5wdAB9CmdBcadG6mv9IVdHGWxu8Wd",
    "8ZrYaceHpXUn6wuaegXWW3ca3Qv0000004K_6QsfojfYa8b3dVCdXO5RM43VXOA3cXZSle3eXF576j8DcddTf6e000",
    "4otd2lechddzdeAdiBdrca5w7j37b.e096.rgBV6e3eCO5EYcu79E_6Ws9TTe5le0ZccrXFjZ8le185s5emme235SL",
    "9WZeb95shac86M.6dL5FIagbZ.13mH6Sse2Ge3qe4kX.Xe5Fe69e6le8QeC6eCleEA3NAeHeeQg4Zw6FcebM7W899L",
    "ecu4Foedd4FVedeej6elK5duem9000e_5f3i000f4Gf4y3ttf5UahA8_G7AF5QBfJdfNffMmfMufSofZHfb9fbgfd3",
    "feefiEfrQfsR7wVfxufyZ4oa9L7gAJ76YgB_4sH90IgNB4sSWoS8..5N18.wYIm8.vagJ4K97v_6zM6gn4xg3Jaeii",
    "dYT3Sw8w0XVre0aejiekPde.cQl3thdPLZotbOrbbM4wQbw1c9O5Q_Wvj8uE5jjZw8aoU6FU000XVsXXx6Km5OjbnA",
    "5GQbCH3t6fsO4nz5OY5OU7z9bxO5brZr08Tm4uSW_gWr9ZQw84N9rU8qO7Ox9n57PE7Uv9D55Go8588Bt5Ob84o8GO",
    "82z5Ng7bY5P35GMWwT3NE5O55Nn6RneBY3Oj7Kq5Nm5Mw5IN5LoWn1WoM5xGb58WvsYnYWwY9wh7rQ5NUX1r6AT9Tj",
    "5IK8pD77s95s6Fy6Ev6F.5LfYj39noYwp56Q3JVWsd56d5HD5KU5KJ7Pc8ujcYA7Mn82s8W48U68Z786s8GSX314Ji",
    "7C4aS65kG8CBcYJ5PxYRqdqla6ZdrpcxGdAs95mX7P988ZpygQfWwiWxv79cXoY4TEa_2d_vW_h43w9nT6KVYsW4Zp",
    "aVWfryW_iWuA000dMZW_j000c18X6776Z7wE9rG4uQ4u43Lt5iD6oo5Dd3Qi3dS5Dz3QbaOO5YQajk88j5HB5UgbgL",
    "Wbv0003fIYHb7Dqfwi4q99ljZp.fym4nRa.ffMUf_U8HSZssdAocUpZSW6Ck7qbZxtZui3eg9085BC3vq3Pw4NfWIE",
    "7P05hmWws7Xwdyk5Yd42_5Py9kB5rq7PKgGq9w54pX0003Vx64PZ3QaFo0005PTXAf5UdabZfu658qd2k3Mj0009ry",
    "7nM9iv5VUXTi5nJ6JJfJGcCrd5a8QjWqecqYahYWrn00057.XyF5sE9S3XtH9w191C7iV9i25pH7kZ69e6Cr9h_7lF",
    "9ig7n.0007n27o69mL7ly9i90009mRaa.9zQ5Lp5l34_z9wO4_o59W3u65BH5Td51M5ct5uI9V89sh8zS5Hf9Uq9b0",
    "9Uw5Ci64m6ai5FQ9mA9q24mx9P16c052c7L6XTj9dQ59p00095P9Q195S00095HewN6D_cqZ6hA5OH96E7Lw6A5WFy",
    "7DF7nmbmXZpz000aaP7RM9kT4ugWpK8E.8X20005nA6d00005Tw58V5tr4xE6mnW7o4yv5IS5JQ5AQ8s23N.0003Np",
    "0006jI95y9.b9kN9Wk9Yq9gw9we9w475w7iK0006lw8WO7zu0005OWgPA8vt9zJ0008tK8vF9uS8u16A2eDz8ue8vr",
    "7hJaft7e.7ZO6pg8fd7O7efQ9yc6pE8VM7N3gAo7XJlX08qC7BY7Dn8ij7C27Jn8phagx8Ol5.w8YW4It000XWxcu5",
    "0008f.YKR00063z7Pd9hN9r49Dk9kF8Vr0000008pt7Ci9SX9km3NM7Ao4m77nH9bAc5P65P4m49wM65z0005TV65l",
    "6Ac68v0003fS67Y5EgZFr6Da6W23NI5rNel28_Qeuv00053PXr67a65Co9OuWyx41b0007V.0007p2byQ7pQ7ej81c",
    "81Z7rD7K57Jo8cK88Q6SC81YdI681R7Jm8437Sa8c9cVC7LJcxH8Uf8VE8788UC8f98oj8j37Sh7Ju8JQ3Or6co8sc",
    "0008cf0006sv8V1a0H7Jd3tR75s62a66S3pH00061t0007zneij00063f4j.58W3mOZp7bxNdPMbKnXb4XB.fa3ctS",
    "d2j5p1c6jeeFZPtW3kcX6ayE4LY5iVcDC9zG9wcc9h300FyC301302FyE20YFyRFyQFyVFy1Fum20c20bFvGFzaFvI",
    "02tFvKFvLFvMFvNFzS20JFun20KFup2LqFuqFvFFy8Fy9FurFusFzRFzTFutFuu30K30LFuvFuw30G30HFuxFuy30A",
    "30BFuzFu.308309Fu_Fv030C30DFv1Fv230E30FFv3Fv4FvPFvQFvRFvSFvTFvU20O20P20S20T30T30U20r20oFy3",
    "Fy6FyA20x02d3032NB2NF2Mp2Mo2NE2O62O52N72N62MX2MW2Mz2My3AZ24520.F_ZFy_0BDFv9FvAFvDFvEFvBFvC",
    "FvVFvWFvXFyBFyD03N03t02n28QFySFyUFyT29c29d29W28U29I29XFvYFvZFvaFvbFvc28y28f28g2Ab28W28V2A_",
    "3FI3FH28h28k28r28q2P02P22P12O926H26J26G26I26M26N26P26O28b28ZFyFFyyFyFFyyFy402b30I02Y02ZFy5",
    "FyW243249FvfFvgFvh3FL3ES3ET3EU3FE3EX3EE3EF3F402m55P55R55U55T55X55Z5Nd7Jf7pE2M12M22M32M42M5",
    "2M62M72M82MF2ME2MD2MC2MB2MA2M92Ky2Kq2Ki2Ka2KS2MK2K02K22ML2KC2KG2KK2KO2Lj2Lk2Lm2Ll2LG2LU2Lg",
    "2LX2NY2NZ2Nb2Na2Ln2Lo2LpFyGFyHFyIFyJFyKFyLFyMFyNFyOFyP25W25X25Y25Z25a25b25c25d25e25f30X30Y",
    "30Z30a30b30c30d30e30f5D15D45D5FyXFyYFyZFyaFybFycFydFyeFyfFygFyhFyiFyjFykFylFymFynFyoFypFyq",
    "FyrFysFytFyuFyvFywFz1Fz2Fz3Fz4Fz5Fz6Fz7Fz8Fz9FzAFzBFzCFzDFzEFzFFzGFzHFzIFzJFzKFzLFzMFzNFzO",
    "FzPFzQ0EH0EI0EJ0EK0EL0EM0EN0EO0EP0EQ0ER0ES0ET0EU0EV0EW0EX0EZ0Ea0Eb0Ec0Ed0Ee0Ef0En0Eo0Ep0Eq",
    "0Er0Es0Et0Eu0Ev0Ew0Ex0Ey0Ez0E.0E_0F00F10F30F40F50F60F70F80F934534634734834934A34B34C34D34E",
    "34F34G34H34I34J34K34L34M34N34O34P34Q34R34S34T34U34V34W34X34Y34Z34a34b34c34d34e34f0BP0B90BA",
    "0B70BB2G02G12G22G32G42G52G62G72G82G92GA2GB2GC2GD2GE2GF2GG2GH2GI2GJ2GK2GL2GM2GN2GO2GP2GQ2GR",
    "2GS2GT2GU2GV2GX22i000000000000000000000000000000000000000000000000000000000000000000000000",
    "0000000000000004u04vP4u14u34v34vT4w64wC4ww54_55b55h57W5805815AR5CL5D15DS5F84u94uB4u84uA4uh",
    "4uu57X4v54v84vV4vU4wE4wX5505835Bw5D35F95FZ5SV5Zh5aL5ad5bp5jG5jH5jJ5lu5mF5mY5mu5nn5tT5tb5tn",
    "5to5tp5t.5vo5x.5yB5yJ69D4uH4uG4uD4uj4um4uv4vB5mv4w84wH4wL4wI4wK4wY4x14x04x34x64x74xD4xA4xB",
    "4x455355155d55j55k55i56N57s5865875885Bx5B.5B_5CM5Cv5D85D75D55DU5E45FB5FA5FD5Zi5af5ah5ag5aj",
    "5jK5mH5ma5mw5nl5tq5vx5x_5yK5yL5_368868s69B69E6Kl6M76MN6Ma6Mv6Nb6Rm6S86Se6iW6jY6jv6lB6lK6lR",
    "6mF6mq71h78g78s78x79779P79R7Ai7EB4uP4uM4uL4uK4uO4ux4vD4vF4vE4xb4xO4xK4xL4xM4xN4xZ4xa4xP4xU",
    "55555456956A56i57v57w57u58A5AW5AV5C55C65CN5CT4xV5DA5D95DX5DW5Dl5Dk5Ex5Fl5Fa5Fp5Fi5Fk5Ff5Fe",
    "5Fy5Fu5Fr5Fh5Fc5Fg5Fo5Fn5Fm5Fb5Fj5Fx5RR5RQ5aM5ak5an5bq5bs5jL5k35my5te5td5tc5u25u35vp5vy5y1",
    "5yO5yN5_568A69J69K69I69H6Mb6Nc6Sk6Si6Sg6Sh6Sj6jZ6lD6mH6mG6mu6n16n06m.7Al7E47E97JS7Jc7KO7KV",
    "7Ke7Kf7Km7Kn7Ko7Kp7MB7Pz7Qk7Q_7Rk7VR7VY7Vp7aw7c.7fq7hB4uU4uV4vI4vJ4vf4wP4wa4wc4wb4x_4y94yP",
    "4yA4yL4yD4yG4yH4yF4xo4xs4xx4xm4xp4xz4y14yB55955755655855e55n56D56m58N58H58I58E58M5AZ5C85CX",
    "5CW5Dm5Dn5G95GF5GC5GA5GG5G15GB5G45GH5GD5G85G35GE5G65GI5RW5RU5RT5Sp5Sm5Se5Sj5Si5Sl5Sf5aP5aQ",
    "5at5au5c45bu5c35bz5bv5c25c15jN5jO5k75k85k55k95lw5mM5nv5tU5u65vs5vq5yF5yR5_P5_M68E68C68D68G",
    "69Z69R69O6Ks6Nf6Ne6Ni6Nj6Ro6Rp6S96Sz6Sq6Sn6Sr6iX6ja6jx6mM6nT6nN6nP6nV6nW6nG6nL6nX6nR6nD6nE",
    "71m79V79T7P.7hv7np7pu7ys7.A7.z80180380C80I80p81_82982B82C87Z87g87p87y88C88R88V89k89o89.8Ph",
    "8X08XC8XZ8b_9OX4uo4we4zD4zF4z74zN4zU4yq4zR4zL4ym4zG4zH4yz4yw4yu4z34zK4yy4z64zZ4zS4zW4yl4zE",
    "4ys4zP4zT4z84zQ55C55B55D55r56s56t58b58a58f58g58e5Ah5Af5Ag5Ai5CZ5Dp5Dr5GT5Gj5GU5G.5Gc5HE5Gd",
    "5H65H35Gp5H85H25GR5Gf5HA5Gv5Gx5Gu5Gk5Gr5Gs5GW5Gy5H05Gn5Gh5GV5Gi5Rg5Rm5Ra5Rh5TA5TH5T05TD5T7",
    "5TE5S.5TG5TF5Sx5Zl5a.5cT5cI5ce5cU5cZ5cP5cM5cD5ca5cJ5cA5cb5jT5jS5jQ5jR5kC5kB5kF5mi5n05n15m_",
    "5m.5oG5oH5oK5oC5th5uC5wF5w75wA5xt5y45yV5za5zY5zt5zv5_O5_C5_N5_D5_n5_h5_u5_g68I68H6A46AN6AM",
    "6A069s6A969j6AA69y69.69v69p6AI69l6AO69k6AL6AJ6AH6A66Kv6Kx6Ku6Nn6Rq6TV6TE6TF6TG6TH6TS6TM6TU",
    "6T96T66TW6TJ6TN6jb6lF6n26nU6oP6o16o86o96o56oR6ng6nw6oG6nm6oC6ne6oM6oI6nz6o36no6n.6nq6o66ns",
    "6oD6oK6oO6o271s71y71z71u79Y79X79W7B47B27EM7Ki7Kh7Kt7Ku7Q27Rl7VZ7d17d07c_7fs7px7zL82M82J82T",
    "82O82R82Q82o89l8AI8AB8AD8cB8dI8e08mt8n68nL8oT8ra8rm8sp8wh8xA8.R8.m8_28_68_58_45tX92H92Y92g",
    "92c92Z95997697C9Oo9Ok9On9Og9Oi4uc4vM4vp4wB4wR4wU4wh4wi4zl4.T4.D4zp4z_4zi4.R4.B4.64.34zm4zr",
    "4.84zf4zx4.M4z.4.F4.H4zw55K55I55L55f55t55s55u56z57z58x58u58t58w58m58k58s5915A.5Ax5DI5DK5DJ",
    "5DH5Dc5Dt5Du5Dv5FM5FK5FN5Hp5Hr5IM5Hu5IL5I05Hx5Ht5I45II5I65Hy5IG5Hn5Hs5IC5IQ5HY5He5IB5Hz5IE",
    "5Rw5U35Tt5Tg5Tf5TX5Tc5Ta5Ty5aS5b95b75b85b45bK5c.5cx5dK5cv5ck5dH5d65dG5dD5dB5dJ5dA5cl5cp5dI",
    "5d55jV5ja5jZ5kN5kQ5kO5kS5kP5kR5mQ5n85n55n65ot5oX5ou5of5oh5on5op5uO5uQ5uM5uL5uR5uH5vu5wQ5wN",
    "5wS5wL5wM5xs5yc5yd5yf5.05.15z_5zy5_T5_W5_z5_r5__60F60K60l60r60M60g60L60X60d60f60h60R68M68L",
    "68_68.69069_6B96BC6B46A_6B26Av6BI6BR6Ah6BJ6BK6BB6B86Ae6Az6Ay6BG6BP6B76BD6Ar6BQ6An6BO6BM6BN",
    "6B66Ai6BE6K.6Md6My6Nw6OK6OJ6OC6O66O26OE6O06OF6OL6OA6O76SD6SB6Tj6UB6UL6Tn6US6Tp6Tt6U76UT6UN",
    "6Tl6Tm6T_6U96T.6UG6Tr6UQ6UJ6Ty6Tg6To6iZ6jc6jd6j_6mJ6mR6pZ6pe6pp6on6pC6pb6op6oz6o.6oy6pY6oh",
    "6pL6pJ6ou6p46ov6p16ok6pN6p56pn6o_6ox6pX6pR6pA6oi6pl6pS6pM6pW72L72E72I72A72P78i78j78u79879d",
    "79f7B07BE7BP7BN7BG7Ef7Ee7EV7Eh7Eb7Kz7MT7MP7MQ7Q47R27Ro7Rq7Vb7Vz7a.7b07b17d97d87fw7fv7hw7p.",
    "7zK7.C7.B80582w82b82Y82n82X82h82f82q82g82l87b87.88D8Ap8AT8AP8Aj8Az8AV8Av8An8Ai8Ab8Al8Au8AZ",
    "8Am8A.8At8PE8Pn58T8Xe8xB8_E8_K8_H92r92u92n92s97797H9Lt9M09OS9P09O_9Ox9P49P29Qv9Re9TI9TU4wV",
    "4wj4wk4_X4.r4.l4._4_W4_H4_F4_T4_34.s4_O4_V4_A4_N4.k4_G4_44_24_Q4_E4_U4.t55N56I56H56W59E593",
    "59A59D59C59B5975B75B95B35B15CD5DN5Dx5EQ5FR5Ii5J05Ie5JE5J95Iu5Ic5Ip5J75J25Iz5Ig5J15J45J85Il",
    "5Ih5In5Ix5If5Id5I_5R_5U25UB5UW5UZ5UY5VE5Uk5UJ5bL5bH5bF5bE5bG5dS5dO5d_5dZ5de5e35db5dg5dQ5dc",
    "5e15dx5jf5kZ5kc5ka5kY5kb5m15nE5nF5nD5nB5pP5pI5tt5uT5ub5uV5vz5wW5wc5xw5y85yj5zb5.85.55.A5.B",
    "5.75.C5.960I60T60W60b60E60e61D61m61e61Y61661361i61h61g61a6916BS6CM6C96By6Bj6C16Bk6Bz6C76Bn",
    "6Bt6Bl6Bi6B.6Bq6CH6C26K_6L56Mh6Mz6NY6Ob6Oj6OW6Od6Ol6OV6Oe6On6Oa6Rt6V_6VJ6Vn6VK6VG6Vi6Us6Ul",
    "6Vr6Vf6Vl6V46VH6Uq6VQ6Vb6Uu6VF6VU6Vp6Um6VP6VY6VT6VI6jg6k36k66kr6lI6lN6mV6p96qB6qo6qg6r16qb",
    "6qC6qn6qU6qN6qx6qz6q.6qs6qR6pr6qv6qd6qu6qf6qk6qr6qE6qh72h72w72p72i72l72j72u72k72a78m79o79l",
    "79q7Bf7BW7BX7Et7FA7Ex7Eo7FD7F07Ep7KQ7Kj7LF7LC7LE7LB7Mh7Ma7Mb7MY7MZ7Pu7Q67Q77Q87R87R67R37R5",
    "7S17Rv7Ru7S97SB7R.7Ry7S77VS7W27WK7WC7WD7b67b97b87b77cv7cw7dH7dI7dB7f_7g17h_7hz7nz7q27q57q0",
    "7q97q77q47q67yu7.E7._80480G80D80H80s83M83b83Q83383483C83X83R83E83U83a83T87q88Y8Bd8C38C58BZ",
    "8BR8Bc8C48Bb8C28C98BI8BN8Bn8C18BS8BK8BH8BU8BJ8BV8Bl8C68PG8Pv8Px8Pw8XD8Xh8c18dK8e88e28e38oU",
    "8oW8rq8rp8sq8xD8xC8_m8_c8_Y8_g8_b8_j8_h8_a8_e93A93E93193395B95A97D9M29PG9PB9PC9PD9TY9Tf9VB",
    "9Vj9Vp9W19Ye9ZR9ZV9cM9cP4vO4wp50C50D50Z4_l50c50b4_u50f50M50650y50V50Q50I50H4_w50050K50e4_n",
    "50X50B50P50O4_p4_k50j50g4_.50h50955y56a56b56Y57D57C57657B59M59S59K59R59T5Cg5D_5EV5ET5FV5Je",
    "5KG5K15Kt5Jy5Jb5Jo5K65Jw5KK5Jf5Jj5JX5K95Jk5Jg5Jc5Kd5K75Jz5KF5S35S45V25VK5VB5V35W95aF5bN5bO",
    "5bQ5eH5eO5eS5eV5eR5eJ5di5eW5eZ5ef5eb5eC5e95jh5nO5km5kp5ks5kq5kk5kr5kv5ku5m45nH5nL5nG5pj5pz",
    "5px5pg5pe5pm5ps5q15pq5tk5uj5uh5wh5wj5wd5yn5.I5.H5.G61P61Z61b61G61L61j61f61l62462V62Q62D62K",
    "62C62562M6976Bp6C86B_6DE6C.6Cl6DL6D26D66DF6D96Cw6DG6Cz6Cg6Ch6Ce6DD6DC6L86L96MP6N16N56P26P9",
    "6PF6P36PI6PC6P56P16Ru6SK6SL6SN6WX6Wu6X86X66XJ6Wv6X26XK6Wf6Yp6WN6XC6XH6Wz6Vq6XG6X06Wy6X36Wg",
    "6X56WJ6WO6X16kA6k96kt6mZ6md6me6mc6ma6pm6rg6sL6s86s76rc6ru6rt6rP6sJ6ri6s96rk6rQ6rq6rf6sC6sA",
    "6rv6s56rb6sK73A73O73a73P73873F78v79v7By7Bv7Bz7Bu7Bt7E67Fj7G97Fk7FW7Fg7FU7LK7LT7LS7LQ7LP7M.",
    "7N57N77Mo7Mp7Mz7My7Mv7N27Mu7QB7Qm7RA7RD7RE7Sf7SV7SW7Se7Vf7Wm7Wd7Wu7WT7Wq7Wt7Wb7Wj7WW7WV7Wo",
    "7bL7bG7bW7bV7bM7bU7bT7bN7bQ7da7dZ7dd7dV7dc7df7dO7g47g87hP7i67iH7o97qX7qN7qB7qA7qW7qY7qK7qG",
    "7qL7qQ7qS7qD7qP7qR7yw7zV7.K7_57_180680O80L80P80N80z80_83n84283m84583j83q84683u83p84883z84A",
    "83y83l87j87i88088G88g88h88e88i8Ax8Ch8DI8DK8DA8Cu8DG8D98Cr8Cq8DF8Co8Cv8Cs8CN8D08Cn8Ce8D38PK",
    "8QA8Qg8QJ8Qa8Qf8QC8QZ8QS8Xm8Xt8Y18Y28Xz8Xv8eO8eG8eE8eC8eL8eA8eN8eJ8eM8eF8eH8n88nw8nv8oX8oY",
    "8rt8wi8xI8xK8xF8.n9019068_t9008_w8_q9038_z9058_u92L93X93T93Y95I95D95C97O97T97N97S97P9M39PY",
    "9PZ9PX9PR9PT9Pa9PO9PU9Qx9ZY9ci9ge9hO9ib9io9iy4v.51w51z51S51751351C51Q51951b51s51E51L51r51q",
    "51t51F50F51l51j55S56L57m59g59l5BI5BP5BO5BL5CG5CF5CP5C_5D05C.5F36Ry5L65Lg5Lc5L45LU5LX5L35LA",
    "5Kn5LM5LF5LL5Kl5La5Ku5Kk5LS5Ki5LZ5Kp5L15LN5S85SB5S95VV5W55WA5W65VW5Va5Vw5W25Wr5Vt5Vv5aW5bY",
    "5es5f15f95fc5fg5f05ey5fY5fQ5f65fA5jm5l75l55l45l25k_5l65m95m85m75nW5nS5nT5q75q65qE5qR5qM5qY",
    "5qH5qf5qK5qP5qa5qd5qN5tY5uu5us5up5ut5wt5wu5ws5wr5w.5yr5yt5zN5zi5zf5zh5.N5.P5.U5.O5.X5.W5.S",
    "61_62Z62962W62e63B62q63c62z63562x62r63S62y63O63L63663V62u63Q63768Q68R6986EW6Ed6Do6EM6EY6Eb",
    "6Dt6Dd6EO6Eg6Dn6Ef6E96E36ER6Dh6Ee6E46E86EP6EX6Ei6EI6EF6E06Dx6Df6De6Dw6LT6LM6LH6LP6LN5LV6LF",
    "6LO6LL6LK6MS6MR6Mi6NF6NB6NC6NE6PT6PQ6Pa6Pe6Pc6PU6Rv5BN6SR6Y16Yl6YY6YJ6Yr6X_6Xs6Yn6Yd6YN6Ym",
    "6Y36Z46Yj6Y66Y56YK6YT6Ye6YV6YX6Y26io6kw6lh6li6mh6sE6sy6tp6tP6so6tX6tC6ta6tx6tw6u56t76tB6sl",
    "6tH6sk6tU6tv6su6tt6tr6t56tI6uQ6sr6tQ6th6tO6tg6tn6tk6te6t66t46sg6ti6s_6tc73v74974A73z73l78z",
    "79z7A17CS7CR7CM7CJ7CP7E77G57GA7G37G67F.7GD7JW7Js7Jt7KS7KY7Lb7Lc7LY7Lm7MF7NK7NL7Mr7NA7ND7QE",
    "7RK7RI7RR7St7S.7Sy7Ss7Su7Sw7Xh7X37XE7bb7be7bj7dx7gI7gL7iW7ie7iR7ii7ic7iP7iU7ik7oI7oN7oL7r6",
    "7r37rn7qk7qv7qy7r07qm7qp7r47ql7r27qo7qn7yz7.U7.Q7_C7_E7_I80S81A81684l84M84Z84h84f84m84a882",
    "88r88t88s88v8EE8EU8EO8Du8EY8EM8Ez8Eh8EI8EA8EJ8E98EW8Dt8Dx8Dy8E68Ed8PL5zg8R78R08Qs8R48Qr8R6",
    "8RB8Qn8Ql8R98XJ8YU8Y88Yh8YI8YM8YD8YB8cJ8cF8eg8eT8eZ8eb8en8ej8eV8eR8eY8n98nQ8of8oi8oh8oe8og",
    "8od8rd8rc8s.8sw8xR8xV90P90D90Q90N90Z90V90T90G90L90U90W90F90Y90M90R90K93e93j93z95N97E97r97c",
    "97Z97d97j97f9M99Pg9Pr9Pp9Pu9Pm9Pq9Ps9Pt9Pi9R09Rg9Rf7hW7hV9W29W39jQ9pb9vr9v_9wb9wx52Y52D525",
    "52P52H52052M52O52Q6S057n59o59q59r59f5BU5BT5BR5DQ5Eb5Lx5M05Md5Ly5MA5MT5MO5M25MS5Mg5MK5M75MB",
    "5M35Mp5Mk5MV5K.5Mo5MQ5Mx5Mi5Mn5L.5M95Mh5MP5SD5Wl5Wg5Wq5Wa5Wm5Wn5WX5WT5WW5Zv5Zw5bW5ft5gQ5f_",
    "5gI5gR5gd5jp5jn5lI5lC5lJ5lG5mA5mB5mn5rC5rG5qq5r75tz5v55uz5v05v35v.5xA5x15x25x45yy5zj5.f5.g",
    "5.e63H63X62o62s63W64S64Z63w64L63m63x63q65e63n64E63s64964064I68V6996EZ6EC6FF6F06Ff6F96F66FD",
    "6FI6FZ6FG6FX6FM6Fj6Fk6Ds6Fq6Fg6FR6HI6FQ6Fv6LU6Lc6LY6LZ6MH6MG6Ml6Pk6Pm6Pq6Ps6Pl6QH6Pw6P.6Pt",
    "6R.6R_6SV6ST6Zw6ZL6ZW6ZO6ZN6a56ZV6Zr6Zk6Zd6Zv6ZI6Zo6ZZ6ZB6ZD6aD6aI6aE6Z96ZQ6bk6Zx6i.6iw6iz",
    "6kO6kM6ky6ll6mk6ml6mi6ul6uu6vK6uX6uo6vd6vA6uW6ub6uZ6uR6vR6vO6ua6vM6vk6uj6uc6vl6uq6vD6uw6ui",
    "6v36uT6u.6xB6w96uP6vE6vZ6v46vo6vf6vV74P74Q74c74m74X74s75k74S79C7A47A07Cs7Cb7Cq7Cf7Gw7Gg7Gp",
    "7GY7Gb7Gr7Gs7Gq7Gl7GR7Gc7Ge7Kb7Kc7Lh7Lg7NY7NR7NZ7NP7NO7NU7NW7Px7Py7QM7QJ7Qq7RS7TF7Vj7XT7Xi",
    "7Xl7eD7e87eB7e57e07gO7gN7gM7hb7hZ7j97jM7j67jG7jI7jK7jD7jB7jF7jH7oV7ob7rU7rG7re7rL7qh7rk7ro",
    "7rX7rc7rY7rm7rp5M47_K7_L80B81I82585L85K85B85H85E84v85684.85C85J85q88I88S8Ff8G38Fu8GD8FW8F5",
    "8GB8F18Fl8Fn8Fq8HN8GA8Fm8GC8FC8Fz8Fo8FA8Gu8GE8G48FS8G78FK8FV8PR8RV8RP8Rj8RK8RR8Ra8RG8RU8XN",
    "8Z18Z28Yn8c38cM8ex8fW8fL8fU8ey8f18fK8fR8fG8f68eq8ew8es8fM8nX8o28ol8oy8op8oz8p18ox8p08oq8ot",
    "8os8o_8ou8sA8s58s18tE8tT8tB8tQ8tH8tC8tR8t68xx8xu8xy8.S90k90r90n90u90o90s94293r94993.95Z95b",
    "97F98K98L98Z98998U98D98G98798H9MK9MF9MB9MH9MJ9MI9ME9QA9QE9QB9Pz9Q59Q69QD9Po9Q49R19R59R49R6",
    "9R79Rl9Ro9VC9W59W69W89Zd9Zg9Zl9Zf9Zo9Zj9ck9cj9x39xD9xH4w252j52r52o52p53552.52i52t52x52l537",
    "59_59t59z5BV5Bc5Ba5BY5BZ5Cl5NV5Ne5NJ5Nc5NE5NS5N75NH5NZ5Na5Nl5NQ5NX5N55N65Nb5N95SI5SJ5XU5XH",
    "5XO5XN5XQ5XK5Xh5XC5Xj5XA5XY5XI5XB5bd5h15h95hC5g.5gz5gy5gp5h25go5rf5rl5vC5vv5x95x85yI5zP5.i",
    "5.k64Q64F65864V63p64R63v64164865E65C65465D64.64q64d64D64664t68X68Y6GJ6G.6GU6Gg6Gj6Gz6Gi6GF",
    "6GS6GK6GD6Gs6GM6GN6G66Li6MV6Mm6QN6Q96Q76Q86QM6Q46QO6QD6S36cK6bj6bQ6bt6bW6bK6br6am6c26bA6be",
    "6bh6bU6bJ6bv6c66bT6bZ6bR6j76jo6l06k_6lJ6lz6wY6wl6xJ6ws6x26wG6wT6x76x56wb6wO6wy6ww6wh6xH6wM",
    "6wS6x46xK6wg6wd6wq75E75P75f75a75975d75S75i75c75C75b75U75675e75M78w79I7Ct7D57C_7C.7Hl7HQ7HL",
    "7HV7HU7H17G_7HP7HR7HS7Ls7Lu7O07Nm7O17No7Nn7Nw7N_7Nq7Np7RU7RV7TR7Th7Tc7TU7TZ7Tv7Tg7Ti7TS7Tb",
    "7Te7TY7Vk7YE7Ym7YN7YO7YC7Y97Xy7YH7YJ7X_7bw7b_7c18Gi7cz7eS7eQ7eW7eK7eV7eU7gV7gW7jt7l07jW7jk",
    "7jd7on7op7or7sJ7rv7sH7s17sF7rR7zk7zf7zg7zo7.f7.e7.a81M81O82682485n85m85u85b85k85p85h85v85w",
    "85c8858978I28Ht8Gz8Gn8Hr8Hc8Hh8H98Hi8HR8Gy8Gr8HX8HZ8Hf8Hj8H68PU8PS8PV8Rv8SJ8S88S78S08R.8Rx",
    "8S28S38S68SA8XP8ZV8ZK8ZP8ZS8ZO8ZT8ZX8ZA8ZL8ZI8cS8dZ8fh8fo8fp8fc8ff8fm8g78fy8fZ8gW8fn8g58fj",
    "8fY8fk8fi8fv8fx8e.8fe8nY8oA8o98pA8p78p88p48oo8p38p28p58tX8tV8te8tl8tp8tw8tg8ta8tc8wo8y38y9",
    "8x.8yA8.V8.o91B91A91J91291K90y91L91G91791F91E91D91H90.91194I94N95i95g95f97998t99N98u98z990",
    "98.99R99B99a99H98q99999D99598v98_99Q9MO9QO9QK9QL9RD9RB9R99RA9Rt9Rx9Rv9Rs9TM9Tq9Ts9WG9WH9WJ",
    "9WA9WI9WC9Zy9Zq9Zz9Z.9cp9cn9cq9hX9pf9w29yE9yJ9yW53d53k53b53M53j53Q53L53F53H53n53E53f55Y57p",
    "5A35A25Cn5Ej5N.5O05OR5ON5Nz5OK5O65O95OD5OE5Nt5OM5OV5O85OG5Ns5SO5SM5Xr5X.5Y35YJ5YA5Xv5Y55Xz",
    "5Zz5ab5aY5aa5bg5bf5hX5hc5hf5hN5hM5hO5hZ5jr5lU5ld5lX5lb5lc5le5lY5la5lV5mD5nY5s45s75vR5vZ5vL",
    "5vN5vK5xJ5xM5yA5z65zm5.v65764_65B65t65Y65Z65V65Q65O65r68g6I76HO6HK6Ia6Hu6HV6Hw6HH6Hd6Gq6Hj",
    "6Hx6Lo6MX6NN6NM6QY6Qe6QT6cS6ce6cL6d16ck6dJ6dB6cR6ct6cx6ch6cq6dG6dD6cj6dC6cc6d36cZ6j96jC6mp",
    "6yp6yK6x.6yJ6xq6yf6y.6yW6yi6yF6y26yY6x_6xl6y66yn6yu6yo6yZ6yL6yh6yl6.86yg6xi6y16xo6xC6xt76K",
    "76P75z76A76476I78.7AI7AM7D47DG7Ha7HZ7Hg7Hm7Hj7K47MH7Od7OD7OB7O97OJ7RX7RZ7U47Tz7T_7TX7Z17YV",
    "7Yd7Yp7Yf7YZ7cE7cF7cD7ek7en7gg7gf7hj7hl7kX7kL7kB7jr7kN7kT7kK7kF7ku7k77k47ov7oz7o.7sx7sm7sS",
    "7sz7s.7sW7tA7sq7so7sn7sw7sY7s_7sr7su7sj7tI7t77si7zm7_W7_X7_V81U81Q82785G86086F86886A85_862",
    "87d87w88788K88U89B8J98I_8J68J48IP8IU8Io8IS8JB8Iu8J08JJ8IG8Iy8JH8JA8S_8SS8Sx8SY8Sb8Sq8SO8TL",
    "8St8Sf8Zp8a28Zq8Zv8Zu8Zz8Ze8aQ8Zl8gc8gC8gU8gZ8gD8gX8gJ8ga8gg8gb8ge8gO8gH8gQ8gd8ng8oD8oC8pJ",
    "8pH8pI8rh8sP8sL8ty8yK8yI8yL8yJ8.Z91W91O91S91Z91P91U91Y91T91R94P94O94U95r95u95t95q99u9A09A5",
    "9AO9AM99x9AJ9AS9Ae99y9AH9MX9Me9Mf9MZ9Mb9Ma9QP9QS9QR9RC9RI9S09Ty9U59Vs9WN9WO9Yl9Yn9a39a59aC",
    "9a99d19gl9gm9hc9j19j29pq9ps9pp9wy9yx9zA54454053x53r53v54254854954557S5A75A85A95AD5AA5Bm5Eo",
    "5Ok5Ox5Ov5Oo5O_5Oq5Of5PJ5PE5PN5Pq5Os5Ol5Om5Y05YV5YU5Yp5YS5Yk5Yf5Yc5bj5i95hx5iB5hr5iC5i85lk",
    "5li5lf5lh5na5nb5sT5sK5vY5vV5vX5xY5xQ5xV5xT5xZ5xW5z85zn5.t5.r65s65d65k65T65L66265y65m65h65.",
    "66d66G66h66E66i66Q66a66K66k68k6Hf6Hl6Hv6IU6Io6I86IG6Im6Ib6IJ6IL6If6II6Ik6Ij6Ih6IQ6Ii6IP6IY",
    "6Ip6Lr6Lt6Lu6Qk6Qh6Qq6Qn6eZ6eV6de6e16eU6eP6dz6eX6eJ6eA6dp6e26e56dj6eH6jG6jE6ka6l56l66y_6zy",
    "6.46zH6zc6zK6.66zj6zR6zu6zk6.E6zw6zm6za6.N6zO6xL6zl6zW6zV76V76i76n76e79M7AR7DE7DN7Hf7IB7I3",
    "7H.7I07L_7OW7Of7OV7Oa7Oc7OX7OY7QQ7Qw7Ra7UE7U77UC7UH7UB7ZB7Z57Yw7ZA7Y.7ZL7Yy7ZG7e_7ey7f07ez",
    "7et7ex7gl7gk7kj7kn7l47kq7l67l77l17kW7lC7pA7tW7tq7tl7tx7tO7ti7tT7te7tZ7tQ7tU7tf7sU7tP7to7tv",
    "7zr7zt7.l7_f80c86R86S86T86W86Q86O8KN8Kz8KQ8Jk8Ki8Kj8KJ8KH8KZ8KX8KK8Ji8Kb8J_8K68U28Tq8Ts8TW",
    "8Tc8Tu8Te8TP8TN8TC8TJ8XR8XT8aG8a78aI8aJ8aL8aA8gy8hI8h78h48gL8hB8hu8go8h98h28g_8gm8hM8hD8gs",
    "8gv8hR8nC8nE8ni8pW8pU8pc8pa8pi8pj8pY8pZ8pS8pg8pX8rj8sV8sZ8uh8uG8uT8uY8uF8uf8uV8uX8uU8ww8yT",
    "8yR8yV8yf8yc8yg8yS8yU8yb91f91k91e91j91t94m94j94d94n96796996B9639B59Ax9At9Bg9Ai9Ba9B19Ap9Ay",
    "9BI9B79Bm9Ao9Mj9Mn9S49S69S79S99TW9UD9UB9UF9WX9Wh9WS9Yp9aA9aJ9aI9aO9dT9dG9dV9dR9dH9dL9dI9dP",
    "9gt9hk9hl9id9j59j49jt9jl9q69q99q39wf9w.9xE5Ye9zI54I54O54K54G54L56056g57T5AH5AJ5Bp5PP5Ph5Pv",
    "5Pf5Pa5Pu5Pg5Pe5Pb5Pn5Pl5Pi5PY5Ps5Z15Y.5Z75Z55bk5iT5iq5ju5lm5mE5zA66o66H66f66A67D66s66.67A",
    "67868m6J56J16JB6Ix6Iy6JQ6J46J76J26JD6I_6JI6JK6I.6Lq6R66R96Qv6R46R76Qu6ez6eu6ew6fP6fh6fO6ev",
    "6f46fY6fX6fB6f76er6fV6f86jP6jt6m56_26.n6.X6_36.a6_16.d6.p6_06.v6.s6.c6.W6.q76.77977G77I778",
    "77L76v77E77P77S7737747De7IS7IZ7IO7IV7IU7JY7KC7KD7Oq7Ou7Ow7Rd7Rb7UW7UU7UV7Ub7Ze7ZQ7Zi7Zd7cc",
    "7fD7fE7f67fC7fB7gw7lP7mH7l97la7lR7lX7lf7lc7pL7pM7uA7uH7u87uR7uZ7uU7uT7u97uG7zv7.o7_m7_n7_k",
    "80e86p86f86e87x88889O89P8LA8LP8L88Le8Lf8L38L98Lj8Lg8LU8U38UV8UU8UY8UD8XX8ag8ao8ab8ah8aX8cg",
    "8cc8hc8hw8hh8hn8i08hS8hd8hk8h.8i18i28ht8hj8hp8hs8hy8nh8nj8oJ8pq8v48un8uq8v28uv8ur8yx8yl8yu",
    "8yp8.e8.c91r91q91u91o91y91w94q96I9CW9Cs9Bu9Cp9Cl9CY9By9Ch9C49CQ9CG9Cc9CX9CL9Ck9CP9Mx9Qd9Qe",
    "9Qg9RL9SE9SH9SM9SD9SJ9SF9TR9TS9Tc9UO9Wm9Wu9Wx9Wt9Wj9Wv9Wa9aG9ae9aU9aR9aX9aQ9dj9dY9dn9gu9gy",
    "9hx9hj9ie9kH9qL9qZ9qc9qe9qI9qR9xO9xK9.D9.S54g54V54X54o5Br5QE5Q05QG5Q55Q75QF5ZL5ZJ5ZH5ZE5im",
    "5ig5ia5jw5mt5ne5sy5sw5sz5su5vh5zC5.z67967267767c67B68o68q6JE6JA6JO6JW6Jm6Jc6Ji6Jn6JY6Jj6M2",
    "6M36RP6RM6g06gK6g46gY6gS6hR6gZ6f.6gN6gG6gW6jS6kk6lQ6m86_O6_n6_V6_W6_R6_a6_h6_l6.06_i6_X6_f",
    "6_L6_k6_m77d77V77k77c77b77j77i77q77W78r7967Dm7Do7If7Im7Ic7Ie7P67P27PC7Rg7Up7Ug7Um7Ui7Ud7Uj",
    "7Vl7Zt7Zw7Zq7Zl7a17cd7cg7fN7g_7m77mD7l.7lt7mC7lW7pW7pS7pU7pY7pV7pP7pT7uk7u.7v67ut7uo7v37uh",
    "7uz7un7v57v17uq7uv7v87ur7u_7ul7z47_p7_y81n81o81m81l81p87687386w87287086_86z87986.87e88989n",
    "8Mg8M48L.8MS8MH8MK8Ml8MR8M78Me8MA8Pd8V08VH8Up8VI8V68Uh8Ux8Uw8V88VB8ax8as8b48au8az8ci8iE8iN",
    "8iP8iR8iA8iW8iT8i48iG8n18m_8np8pw8pz8py8pu8px8se8v98vB8v88vA8z48y.8z28z58y_91_91z924921922",
    "92094v96Z96U96S9DD9E29Ce9Dr9DA9Db9DB9CO9D.9Di9DR9Dm9DQ9DK9NA9NB9NC9N89N69Qn9Qu9RM9SS9SU9UW",
    "9VJ9X69Ys9ar9e19d_9kk9kh9kg9kj9qx9q_9wB9xF9xU9xS9xT9xR9y.9zB5FY5QL5Qk5ZP5ZO5iu5zT67Z68p6Jq",
    "6Jo6J.6K66Jw6Jx6Jt6Mt6RS6Sc6gp6gi6h36gx6gu6h26gk6gl6jV6ju6kl70970B6_.7066_w70H70F77x77y77.",
    "77u7Dt7Dr7Id7I_7KL7PM7PO7PI7Uz7U_7Ux7Uy7aE7ck7fX7fY7fW7h47h57mh7md7mg7mU7mZ7mX7pd7vK7vL7vU",
    "7vQ7vX7vI7vP7z87_v7_x81t81s87D87F88A8NF8Mf8ND8NG8N98Mm8Mw8Mv8Mc8Vl8Vi8Vo8VW8c68co8dq8ie8iv",
    "8ii8ih8nG8q58vP8vZ8vc8va8vV8vL8x08z98zD92792392896h96i97G9EK9EA9EM9EY9Ep9Ek9Ei9Em9EO9EQ9EN",
    "9NK9NM9NG9NL9RY9RS9RP9RR9RU9Sa9UZ9Uc9Uj9Vv9XD9XF9XC9XE9XJ9Yw9a.9a_9az9ak9cb9eE9h19i39i69jF",
    "9jE9jD9lA9l99lz9l89l09rH9rT9rW9xW9yL9yi54p5Qb5ZU5ZV5ZY5lr9.G5xi67o67t67s67r6K06KF6RW6RT6hb",
    "6hT6hQ6hJ70R70V70e70Q70T70L70O78678D79O7AY7Du7Dw7Iz7JA7JZ7M77M67PV7PX7V77aP7cn7fh7ff7m.7m_",
    "7mu7mz7mt7n07vh7vj7vv7vf7vg7.57vp7.s7.v7.u87O8Nf8NT8Ng8NL8Na8Nb8Nt8Vx8W58WD8Vv8V.8bW8bV8bM",
    "8bU8j18jS8jO8j98jQ8jE8jF8j68jP8q88qA8vy8vo8w78vs8vi8vw8vq8zK8zE8.j92A92B96n96k9FX9FH9FV9F3",
    "9F89FS9FT9FM9FY9FD9FO9Fa9FN9Fe9NS9Qq9RZ9Sg9Sd9TX9VS9Vx9XU9XO9XR9Yy9b59b99eM9eP9iD9le9ld9lM",
    "9lR9s99rX9ro9rg9ri9wI9wN9wJ9wq5Bu5Qe5Qt5Qs5Qq5Qy5Za5j05j35jz5ls5t967u67w6KO6KK6KP6Rc6Sd6hi",
    "70.70m70o78G7Dx7JF7PY7Pb7ac7ag7ai7ah7h77hs7nC7n37nD7pl7pm8.k7vz7vy7w27zC80087Q89c8Nx8Nv8OH",
    "8Nw8O68OB8O78OA8WK8WL8ba8cw8du8jm8ji8jc8jl8jV8jh8qF8qD8w98w18w58w296q97B9GO9G39Fz9NX9Sm9Z4",
    "9bI9bH9ce9eh9em9et9er9mJ9mD9vv9wr9xe9yl9zV9zZ9zX54t54u5R15R05R25aK5ni5tD67y67.6KT6KS6ML6Rf",
    "6hx6i46hw6ko71C78R7Ad7JM7JK7Pf7VJ7nG7wF7wC7.y8ON8Oj8OQ8WZ8WY8WX8WV8bg8bi8cz8jq8jt8jz8qJ8wA",
    "8wD8wB8zV8.l96w9Gk9Gp9Gr9Gw9Gu9Go9Gh9NY9Su9Sv9So9V_9Xd9Xb9bN9f59f39f09e.9hF9jK9jH9mj9mb9sl",
    "9sq9t29su9wT9xl9yP9zS9zc9zd54y54x5R85RA5R95j_5tK5tI5zE67_6Ka6iA6jX71H71O7E07Ja7MA7Pk7Pi7cp",
    "7nW7nV81.81z87V8bo8bl8dy8k08qM8qN8wH8wJ8zX9589H49HH9HI9Sz9S.9V39V19Xh9bL9fL9fD9hI9iQ9n99mn",
    "9m.9mx9tJ9tN9yq9zi9zg9.K5RC5tM6806KZ6Kh6Kg6Ri6iG7JQ7hA7na7nZ7nb7wJ7wM7wK87Y8Ou8O_8Wn8kA92G",
    "92F9HZ9HW9Ha9Te9Xl9bS9fQ9fR9fN9hJ9hK9hH9nK9nN9nM9tb9wV9xq5RH5Zf6Ki71U7Pn7Po7VN7zG7.88Ws8Wv",
    "8XY8kJ8kI8kM89t8qR9709Hg9T29T89T49V69Xm9fV9iY9jO9nV9tv9tw9vy9vz9y79zt9zo5xp6iM71Z7ni7nk8Wx",
    "8d08wX9719Ho9Hm9Xn9bU9hM9iZ9xC71a7VQ8kQ9Ht9V99fY9fb7wS8kS8wg9759Hz9H.9Hy9nt9nu9xt8nK9H_9uQ",
    "78e9fg9in9uR9uU7no2HW2HX2HY2HZ2Ha2Hb2Hc2Hd2He2Hf2Hq2Hr2Hs2Ht2Hu2Hv2Hw2Hx2Hy2Hz25m25n25o25p",
    "25q25r25s25t25u25v4us4u_4w54wW56256M56h5Bv5Cu5Df5Es5aA5k05tR2yp5v_5xq5zG5zX6Kq6NW7MI7Ps8.r",
    "9Qs02e0B633z33.32T32U3034xT30530630733yFyxFyz2Sz31131231331431531631731831931A31B31C31D31E",
    "31F31G31H31I31J31K31L31M31N31O31P31Q31R31S31T31U31V31W31X31Y31Z31a31b31c31d31e31f31g31h31i",
    "31j31k31l31m31n31o31p31q31r31s31t31u31v31w31x31y31z31.31_32032132232332432532632732832932A",
    "32B32C32D32E32F32G32H32I32J32X32Y32Z32a32b32c32d32e32f32g32h32i32j32k32l32m32n32o32p32q32r",
    "32s32t32u32v32w32x32y32z32.32_33033133233333433533633733833933A33B33C33D33E33F33G33H33I33J",
    "33K33L33M33N33O33P33Q33R33S33T33U33V33W33X33Y33Z33a33b33c33d33e33f33g33h33i33j33k33l33m33n",
    "33o33p33q33r33s0GG0GH0GI0GJ0GK0GL0G10GM0GN0GO0GP0GQ0GR0GS0GT0GU0GV0GW0GX0GY0GZ0Ga0Gb0Gc0Gd",
    "0Ge0Gf0Gg0Gh0Gi0Gj0Gk0Gl0Gm0Gn0Go0Gp0Gq0Gr0HH0Gs0Gt0Gu0Gv0Gw0Gx0Gy0Gz0G.0G_0H00H10H20H30H4",
    "0H50H60H70H80H90HA0HB0HC0HD0HE0HF27d26u26v37FW3C4vQW2A5824IH9.m5689.ndO7000000000000000000",
    "000000000000000000000000000000000000000000000000000000000000000000000000000000000000000000",
    "000000000000F_YF_aFy7Fy238n24M24X32R32S2w02w42w62w72w82wA2wC2wD2wL2wS2wT2wb2wd2wg2wi2wk2ws",
    "2wy2w.2x62xA2xC2xD2xF2xM2xN2xU2xZ0000000000A309G09R09K09r05J03u05B0AA09g4v24vS57r5CQ5E24u7",
    "4uC4v74wD5RNFeC5nk5zp4uF5674uE4uk4wJ4x24x94x856O5By5Di5Ev5SW5a35ai5mG5t_6NX6kp6lC6mK78_4un",
    "4uy4xe4xS4xf4xX4xT4xQ58C5CS5DC5SY5SZ5aN5al5k15k45mI5mx5nq5np5u45w05w25_968969G6mL6ms6n36m_",
    "6mx7Ak7Am7EA7cu82A9OU4yE4yO4yi4xr4yK4xn4y04xt4y84yT4y24y54yY4yJ4y44xq4yI56n58J58958G5Ac5CY",
    "5CV5DD5EA5G75RX5RV5Sk5Sg5Sq5ay5c05by5c55bx5b.5bt5b_5jM5mL5mb5ny5nw5nx5n.5tV5vr5w45y25yQ5zq",
    "5_L5_K5_F69S69U69a69X69c69Y69P69W69Q69b6Nl6Nk6S.6Sv6Su6Sx6Sw6S_6Sy6Sp6mO6n66nI6nS6nF6nA6nK",
    "6nB6nC71n79U7Aq7Ar7EE7Kg7P_7fr7zH89u89y8A089z89_8PD8b.92P92N92O92R92K9OY9Oa9OW9OZ4zM4yx4zY",
    "4z94zJ4za4y.4zd4zI4zV4z14zO4yj4yp4y_4zX56F56v58S58U58X5Aj5Ak5C95DZ5Do5EE5EF5Gm5Gt5Gg5HK5H5",
    "5GP5GS5Gb5GO5Gz5HF5H15Ge5Ga5H75Rk5Rd5Rb5T15T55TC5T95TB5TI5a65b05cc5cO5cW5cN5cE5cY5cG5cF5cd",
    "5cX5kE5kI5me5mg5oD5oF5o85oB5o95oI5oA5o65oJ5oL5tW5uA5uE5wB5w95wC5w85wD5y55yT5zu5zs5_I5_H5_G",
    "5_j5_e5_k5_p5_X5_a5_Z5_w5_l5_t5_x6005_q68w6A36AC6AE6AF6AK6A769n69x69w69m6A16A869t69z69o69q",
    "6Kt6Nm6Nq6Np6No6Nr6T56T76TP6TL6TC6T86TT6TD6TQ6TB6lG6mP6mQ6nu6nd6nh6o46oB6oF6nn6nl6nf6oQ6nj",
    "6o76oL6oS6nc6np6nb6nx6oE71q71w79Z7A_7Az7B37B67B17Aw7B57EL7EN7EJ7EK7EI7Kw7Kv7MK7ML7Q17az80q",
    "82L82P82G82I82S8AG8AF8A58AE8AH8AJ8AA8A38A48nu8_98._92V92X92b92U92d92W9Om9Oe9Ol9Oj4up4.O4zy",
    "4.54zz4.04.74zs4zq4.94.44zt4zC4.N4zg4.Q4zv4.14zu4.G4.S4.K4.U4.I4.24.L4zh4zk56U56y56.58r58o",
    "58p59658n5Ay5CA5CB5Cy5EI5EK5I75H_5I15IH5I25I85Hh5Hw5H.5Hb5Hi5Hq5Hc5ID5Hl5HX5HW5IO5HZ5Hd5Ha",
    "5Rt5Rv5Tl5To5Tj5Th5Tn5Tm5Ts5U05Tr5Tx5Tp5Tq5TY5Te5Tz5aC5b55cr5cw5dF5dE5co5dC5d15cs5cy5d35dM",
    "5cn5cz5d05d85cq5d75jY5jb5kJ5kL5n45n75ok5oa5oW5or5ol5oe5oi5oV5oZ5oj5oY5og5od5oT5ob5os5om5oc",
    "5uN5uK5uP5ye5yY5yZ5ya5zK5.25z.5zz5_U5_b60j60c60P60o60B60q60A60N60p60Q60U60i60Y60D60G60k60J",
    "60H60C60960S68K68z6Aj6Aq6BH6A.6Ag6As6BA6Ak6Ap6Al6Ax6Af6Am6Au6Kz6Me6Mx6O96Ny6O46OI6O86Nx6O3",
    "6OB6OD6O56Nz6OH6OG6Rs6SA6U56Ti6UE6UI6Ts6Tx6UO6U66U46Tq6UD6UC6Tw6UV6UH6UP6U36Tz6U16Tu6Tv6UK",
    "6ib6k06j.6lU6mT6oJ6pi6ph6pk6pP6os6pK6oj6pd6ot6pG6p26ow6p36p66pj6po6pI6pT6oq6oA6oT6o06pU6p0",
    "6qm6pD6p76om6pv6pF6pf6pH72K72O72572J72672472H72M72272Q72379g7BM7BB7BO7B97BS7BI7BK7BQ7BC7BH",
    "7Ea7EX7Ej7Ec7EY7EW7Ei7ET7JT7Je7K_7L07K.7MC7MO7Ql7Rp7Rn7Rm7Rr7Vu7Vy7Vv7Vx7Vw7Vt7b27a_7d57fu",
    "7fx7hx7nr7pz80r82F82k82Z82u82r82j88W8AW8B08Ah8AQ8AO8AR8Ar8Ad8Ak8Ay8AU8Aw8Aq8Ae8AX8Af8B28Aa",
    "8B38As8AY8Pm8Pl8Pj8Pk8nM8_I8_B8_J8_D8_M8_L8_N92o92q92l92p92m9Ov9Oz9Oy9Ow9P34_D4_54_J4.o4_9",
    "4_B4_14_K4_S4_P4.x4.p4_R4_74_M4.w4_04.v4_i5945995B05B25Cz5Dy5EN5EM5EP5EO5Iw5IX5Ij5Ib5JF5J3",
    "8CD5It5Ik5JM5Is5J55J65IW5Hm5Iy5IY5I.5Ho5JU5Im5Ur5UU5UV5Ua5UC5UN5UT5UR5UK5UO5UF5UP5Ub5UQ5UL",
    "5Zq5aD5bJ5dX5dU5dk5e05dn5dT5dw5dz5dy5ds5da5do5dt5dR5df5dp5dr5dW5d.5dq5dj5ke5nC5pG5pO5pC5pN",
    "5pB5pR5pU5pQ5p95p75pA5pM5pJ5pK5pF5p85p65pE5pV5pu5tv5uX5uY5uZ5uW5ua5wm5wa5wY5wR5wZ5wb5y75yk",
    "5zM5.660t60v61K61o61U61561J61761961R61C61061261V60a61461O61c61k6926936BF6CD6CB6Br6CE6C36Bh",
    "6Bv6CF6CC6Bu6Bs6C06CJ6CK6Bw6CL6Bx6Bm6L16L36Mg6M_6Os6OX6Oo6Or6OS6Oc6OY6Op6Oh6Ow6OT6Oq6Ov6Ok",
    "6SF6SG6V16Vo6V86Uw6VS6Ux6Vu6VO6V06Ut6V56Vh6Va6VV6Ur6VD6Up6Vt6Vs6Vk6VZ6V26Uv6VE6Vd6Vm6Uo6Vy",
    "6V66Vj6VC6Uk6Vc6VR6Vw6V96VA6V36Vg6VB6ie6k26k46ks6lM6lO6lW6mW6mX6qe6qq6qj6qV6qy6q_6qI6qA6pQ",
    "6qp6q46qP6qw6qQ6qH6q06qT6r26q16qO6qt6q36qF6r06q76qW6qi6q86qY6q96qG72t72V72.72n72m72X72q72r",
    "72f79179979A79i79m79p79k7BA7Ba7Be7Bh7BV7Bg7Bc7BZ7E57FC7F27F87F57Ev7Es7Er7Eq7Fh7E_7F77E.7F3",
    "7F67Eu7FB7Ji7Jk7Kk7L77L87Md7Mg7Pv7R47S87S37S47S57SA7Rt7Rx7Rw7Vd7Ve7W67WH7WI7W57WG7WF7WE7W9",
    "7W37WJ7bA7bC7bB7b57b47dL7dD7dF7dM7dE7g07f.7hH7i07i17nw7nu7nv7n_7o07o17q37q87q17zO7.H7.D7..",
    "80780E80F80K80t83O83783W83H83883283G83583Z83P83S83A83L83983F83N83c83D87_88X8AK8BP8B.8Bv8C7",
    "8Be8C08BL8Cw8Bh8BM8Bq8Bi8BX8Bo8Br8CC8Bx8Bs8Bm8Bg8Ba8BW8Bw8Bp8Bj8Pt8Pq8Py8Pp8X18XE8Xd8Xg8Xf",
    "8dJ8e48e78ro8_Z8_X8_k8_W93n92z92_93L93592.93793B93897K97J9PK9PF9PH9PJ9PA9PE50U50550750J50Y",
    "50m50R4_r4_q50p50t50i4_s4_t50N50S50W50d50r50l50n50E55Q56K56J57A57457557857E59X59Q59I59U59V",
    "59L59Y5BD5CE5EU5Kc5JY5KN5KI5Jd5Jp5Ja5KQ5J_5K45K85Jh5KH5K55Jn5KA5Jx5Jt5Ju5JW5KE5K35KB5S15S2",
    "5VC5Wo5VL5VI5Uw5V65Uz5Uy5Uu5Us5U_5V75VG5Uv5V15aE5bA5eP5eM5ej5ek5eL5eF5eN5eA5eU5ep5ji5kd5kj",
    "5ki5m35nM5nK5pi5p_5pk5pn5pt5q05pv5uf5ue5we5wk5wg5wi5yp5ym5zd61T61Q61d61162Y62862062I62162T",
    "62362L62R62N62762S62E68P6966Bo6CG6DM6Ci6D46D56Cs6D36Fa6Cv6DB6DA6Cy6Cf6D16Cq6DO6DK6DP6Cj6D7",
    "6Cp6DQ6DH6Cu6DN6D06D86LA6L66N66N36N46N26PA6PV6P76PH6SI6SJ6WV6WQ6X96Wo6Wp6Wx6XB6XF6WM6Wn6WS",
    "6Wr6Wh6Wj6Wl6XE6X46Wq6WT6WI6WK6Wc6We6Wk6XD6Ww6Wb6WW6ii6il6ij6in6iq6jj8226k86lc6la6le6lZ6lY",
    "6ld6mb6rw6rZ6ra6rs6qD6rX6sI6rO6rY6rj6rl6sH6sD6tl6r_6s66rU6rd6rW6sN6rm6ry6rV6s26sO6ql6re6sB",
    "6r.6s06s46qM6s36rx6rz6rr6sG73S73J73H73T73B7yv73Y73N73I73U73W73K73D73573673773Q73E73X79279u",
    "79t79s7C07Bw7Bq7B.7Bs7Bp7Bx7C17FJ7FP7Fb7FM7Ey7Fd7FZ7Ff7FS7FI7FR7FK7FT7FQ7FN7FO7Fe7JU7JV7Jq",
    "7Jr7KX7LR7LV7Mm7N17Mx7N47N07M_7Ms7Mw7QA7R97ST7SR7SG7SJ7SI7SZ7SH7SL7SP7SQ7SY7Sd7WZ7Wi7WY7Wr",
    "7Wl7We7Wk7Wh7WX7Wf7Wp7Wg7Wn7bK7bR7bF7bS7bJ7bI7bH7dh7di7dW7dk7dj7dg7dS7dU7dT7g67g97g57gB7gC",
    "7gA7g77hO7iG7i47iJ7i57iF7i87iA7iE7i97iI7o47oH7oA7oC7o87oD7o57qU7qT7qH7qE7qO7qM7qJ7qV7qI7qF",
    "7qC7zS7zX7zU7zW7zT7zR7.M7.I7_37_27_080M80.80v83w83o83v83r84183x84088188l88b8Cp8Cj8D48CP8DH",
    "8Cb8DM8C_8D18Cc8CS8CY8D28DE8CR8Cg8C88Cy8DD8CM8Ca8CW8Ct8Cl8Cf8D78D58DC8DJ8CU8Ci8DB8Cd8D88PJ",
    "8PI8QY8Qe8QM8QD8QH8QU8Q78QN8Q68QB8QQ8Q58Qb8QP8QX8Qd8QL8QO8QE8QT8QG8QK8X38X48Xj8Xr8Xs8Xo8Y0",
    "8Xn8X_8Xl8Y38X.8Xq8Xy8eI8n78nN8nx8oa8oZ8rs8ru8sr8st8ss8xH8xJ8_.8_r9028__8_x9048_y8_s93M93W",
    "93P93Q93Z93V93b93O93R93N93S93a95G95E95F97L97Y97Q9PS9PV9Qy9ZZ9hV9il4v_51m51g51X51U51W51J51B",
    "51T51o51851D51151R51A51Y50L51551V51f51h51Z51a51651051k51p51N51H57G59h59j59i59k5BM5BJ5Cj5ES",
    "5Lr5Ls5Ky5LD5LG5Kq5Kg5LH5LY5Ks5Kr5Km5LI5L55KC5Ko5Lb5LE5Kv5L85Kj5Kx5L05LB5SA5S75Vx5WK5VY5Vs",
    "5VS5Vq5W05Vj5Vz5W85Vu5WB5Vp5VF5W75Vk5VZ5Vo5Vb5Vi5VX5WE5Vy5WG5Vd5W15WC5Vn5Vf5Vm5WD5W45bS5fW",
    "5fO5fL5fd5fU5eu5er5fj5fG5fV5fb5fi5fJ5fa5fN5f35fT5fI5f45fR5f85gE5e.5fD5ev5fC5fm5ff5f75fH5fM",
    "5f25fS5jo5jk5l15l05nP5qU5qB5qT5qQ5qW5qC5qe5qD5qc5qb5qF5qm5qI5qZ5qV5qk5u.5uq5wn5wq5wv5wo5wp",
    "5ys5yu5.R5.M5.V62A62G62662.62m62w63J63K63F63a63P63T63862n63R62t63A62_63363D6306Co6Db6EA6E2",
    "6Dz6Ez6EU6Ej6ET6EN6Eh6EE6Dl6E76EG6Dk6El6Dr6ES6Dj6Ek6Dy6Ea6Cx6EV6Du6E56E16EH6ED6Dm6LJ6ND6Pb",
    "6PX6PR6PP6PS6PY6SO6Xv6Y76YG6YS6Xj6Xk6Yk6Yh6bM6Xl6YZ6Yi6Yf6Xr6Xq6Yo6YF6Xt6YI6Xy6Xh6Xo6Yg6Y0",
    "6Xn6X.6YR6YM6YB6YW6Y96Ya6Xu6Xx6YH6YC6YA6Xz6is6ip6it6iu6kH6kF6kD6kE6kC6mg6t06sh6sq6sp6vq6si",
    "6tf6tY6st6ts6tK6u06t86tW6tV6tM6s.6tb6tS6tT6tR6tq6tA6sz6tj6tm6sw6tL6t26tF6t96tG6to6tJ6tz6tN",
    "6tD6tZ6sx73w74D73t74N73q74C73m74473p74G73y73_74674J74073u73s74B74274E79.79x79y79_7CT7CN7C7",
    "7CH7CO7CA7C87B_7CF7CU7E87Fs7Fu7Fr7G47G17Fz7G77G07Fw7Fy7F_7GC7GB7Fq7G87La7LZ7NE7NI7NF7NB7NC",
    "7NH7NG7QF7Q97RJ7Sv7Sl7Sj7Sn7So7Sq7Sp7Sz7Sb7Sx7Sr7X87XI7X97XD7XA7XC7Wc7X57XG7ba7bd7bf7bg7bZ",
    "7bh7bX7cx7dw7du7ds7dt7gF7gK7gG7ir7j77iq7ib7im7iY7ia7ip7iO7ig7iT7in7ih7ij7il7io7iu7iQ7iZ7oK",
    "7oO7oM7oZ7qr7qz7qu7qs7qw7r57qi7qf7r17r77q.7q_7rA7qx7qe7zZ7.L7.S7.T7.R7_A7_B7_D7_G7_H7_77_F",
    "7_980V80U80R81781381884O84b84P84R84j84V84i84U84X84L84d84T84Y88H88u88p88w88q88o89q8EG8EZ8Ee",
    "8ED8Dw8Dp8Ea8Dq8EF8E18EL8EP8Dr8EK8Ef8Dz8E38EC8ET8ER8Eg8EB8D.8Eb8El8E88EN8Em8D_8Ec8E78Ek8Ds",
    "8EQ8PP8PM8Q_8Qt8R28R18R58Qw8Qm8R88Qv8Qp8Qu8RC8Qq8Qx8Qy8R38Qz8Q.8XI8Y98YL8Ye8YY8Yg8YQ8YH8YX",
    "8YV8YO8Yd8YP8YR8YN8Ya8Yi8YC8YJ8YE8c28dM8dP8dL8em8ed8ei8eU8mv8mx8nS8nT8nz8ob8rz8rx8rv8sy8t2",
    "8sv8s_8t18xO8xU8xT8xS8xN8xW8xX90a90B90H90S90C90X93l93g93m93q93o93p93K93h93i93f95M95O95Q95J",
    "95L97i97q97n97p97u97a97v97g97h97t97e97k9Lw9M69M89Py9Pj9Ph9Pn9Pl9Q_9Tg9W49Zb9cN52R52L52K52U",
    "52B52Z52352C52E52T51e52S52I52252755V57K5CI5CH5Ea5Ed5MH5Me5Mb5Mj5Lt5P55MY5MJ5M85MF5Mr5M15MZ",
    "5MI5Ma5Lz5MC5Mc5L_5ML5MX5ME5SC5Wf5Wt5WP5WU5Wd5WZ5We5Vr5X85Wb5WS5WR5Wp5W_5Ws5Wk5Wv5Wu5Wj5Wi",
    "5Wx5bX5gl5gK5gV5fw5gY5gU5fu5gc5fy5gb5gi5gL5gk5et5g45gA5gN5g35gB5gf5fx5fz5gC5gS5gF5gJ5gT5lg",
    "5lD5lB5lK5lH5lA5lE5mC5mm5qt5r35rh5r15rB5q_5qr5rH5rE5rL5qp5qw5rI5qz5qn5rP5r25qv5r95qu5qy5qo",
    "5qs5r05r55v45v15zO5.c5.b5.h63962v63C63Y63E63464K63o64A64M64563r64J63u63y63.63164364O64T64G",
    "63_64464B69A6EK6En6Em6FE6Fb6Fe6Fl6F36IT6Fp6FA6FW6Fs6FL6Fo6Fr6HX6FV6E.6FT6FS6F46FO6FJ6F26F7",
    "6FC6FB6F86Fm6FN6FP6Ko6Ld6Lg6La6LS6Le6Lb6MC6MT6MU6Mk6NG6NI6Py6Pi6Px6Q06Pn6Pv6Pg6Po6S16aC6ZJ",
    "6a46ZS6ag6Zi6Zg6Zn6aF6ZM6Zt6Zh6Za6Zs6aJ6aG6Zp6ZX6a76ZC6a86bm6Yq6aH6Zl6Z66aK6Zu6ZG6Zz6Zy6Ze",
    "6aB6aA6aN6ZE6Z86ZT6ZU6Zc6Zq6ZH6a66ZK6Zf6aL6ab6Z76iv6ix6i_6iy6kK6kN6kP6kL6kz6lm6lo6lp6mm6ty",
    "6v66v76uV6v96w86uy6uz6v56vY6uh6u_6v16vT6vp6uS6up6vB6v06vH6ux6u36uk6vU6ve6vS6vX6un6ue6vW6vn",
    "6vh6uv6uY6um6vJ6vb6ud6vu6va6vt6vL6vv6vI6vc6ur6us6vQ74W74U74l73x74k74n74Z74b74Y74o74V74e74w",
    "74R79B79Q7A87A97A67A57AB7CI7CB7Cm7CY7Cn7Cp7Cd7Co7Cj7Cc7CZ7Cr7CC7Gk7Gi7Gm7Gh7GM7GQ7GX7Gj7Gn",
    "7Ga7GZ7GT7Gf7GW7Go7Jx7Kl7Ll7Li7Nd7NQ7NX7Nc7NT7NV7Na7NN7QL7QI7RQ7T67T77T47TD7T57TA7TE7TB7TC",
    "7VU7Vi7XW7Xa7Xb7XS7Xj7Xn7Xg7Xk7Xm7Xf7Xe7XU7XY7bq7bp7bo7bm7e27eA7e37eC7e47gP7hc7ha7jA7ix7j4",
    "7j87jC7jE7j07jO7j57oY7oU7oe7oX7rO7rl7rZ7rJ7rM7rd7rg7rF7rj7rS7rh7rI7rK7rf7rH7rV7rE7y.7y_7zb",
    "7zc7.Y7.W7.X7_N81H81F81G83.83K85385A85I85F85784z85D84w87c87k87t87u87v88488y88z88_89r8Cx8FF",
    "8Fv8GZ8F08Fe8GI8Fd8Fa8Fy8Fs8GG8F68F88Fh8FZ8E_8G18FT8Fb8FO8F_8FX8FB8FE8FM8Fr8F98G98GF8FU8GH",
    "8G68F28Fp8FL8Fw8F78FH8Fg8GJ8F38Fi8Fk8F48Fx8FN8FY8GR8FR8F.8RO8RY8Rc8RJ8RZ8RQ8Rg8RT8Rh8RS8Ri",
    "8Rf8RN8Re8RH8X88XM8XL8Yw8ZN8Yv8Yu8Z08Y.8Ys8Yy8Yt8Yz8Yo8a18Z98cL8cO8cN8dT8dQ8dR8fE8fD8ev8fP",
    "8f08fN8fO8f48f58fI8f88fH8fA8fC8fF8nV8o18o08ow8o.8om8ov8or8s48s08s98tO8tJ8tD8t78tM8tS8tF8tL",
    "8tP8t88tN8t58xl8xt8xw8xv8xc8xk8xb8xr8xd8xe8xs8xh8xn8xi8xq8xf90j90q90l94694i94493_93y94893v",
    "93x94194094794594395X95a95V95Y95W98198A98b98398Q98c98F98C98098I97_97z98698498d98298S98a98P",
    "98N98598M9Lx9MD9MC9MG9Q79P.9Q89Q99Q39Q09R29R89R39Rn9Rm9Ti9Tm9Tk9W79Yf9Zh9pc9xv4w34w44ws52z",
    "52_53652k53453A52q53853252m53152w52n53B53952s52u57N59w59u59x59y5N35NR5NC5NG5NB5NA5NT5N05NK",
    "5N45Nf5M_5NI5MD5NF5NL5NY5NM5N85No5ND5NP5N25SK5XJ5Xe5Xa5XF5XD5X95Xl5XL5XE5XT5XP5Xb5XR5Wz5XZ",
    "5Xn5Zy5h75h45hB5gw5gu5gn5gr5gm5g_5h85gx5h65gt5h05hA5gq5gs5hD5gv5gG5lM5lO5lP5mV5mp5rn5rZ5rA",
    "5rb5ro5ri5rU5re5rd5rY5tm5vF5vE5vA5vD5vB5x55xC5x65xB5x75z05.l5.j63t65965A64h65564s64o64k656",
    "64l65F64f65068W95e68Z68b68a6F56Fn6Fh6GG6GI6G96GW6Ga6Gp6H36GV6GL6GO6Gv6Gt6GY6GZ6GC6Gc6Gm6Ge",
    "6H16Gr6Gl6GA6GQ6H06Gb6Gd6GB6Fd6GR6Gk6GX6GE6Ll6MI6NJ6Q66QC6QL6QG6QB6QA6QP6QK6Pu6SW6bc6bV6au",
    "6bE6bY6bn6a_6b56bg6av6b26bN6bP6bw6b86b96ar6bi6ap6az6bb6Zm6bu6aq6bf6b06bl6b46bs6bO6b16bq6bC",
    "6ax6bB6at6bS6bF6bH6ao6bI6al6bx6ay6j66j56j36j26j86j16kRFeD6lx6ly6lv6lt6lu6wR6xM6x86wF6x06wV",
    "6wJ6wK6wW6wn6wv6x66xI6wz6x16wU6x96wt6wm6xD6wc6xF6wo6w.6x36xS6xO6wP6wI6wE6wD6wa6wX6w_6wp6xG",
    "6xA6wN6wk6wZ75775K75I75Z75W75175T75Y75o75u75g75X75275O75375B75m75V75G75J75475D75Q79F7AD7AC",
    "7AH7AG7AE7Cy7D27Cx7Cw7D07DA7D97H47HA7HB7HI7HH7HN7H07HF7HG7HE7H27H67HD7HK7JX7J_7J.7Jz7KT7Lv",
    "7Lt6c37Nl7OF7O37Nt7N.7Ny7Nv7Nu7OG7Nx7Ns7Nj7Nr7Nz7QP7Qr7RT7TL7TV7TW7TI7TM7TQ7Tf7Td7TK7TP7Tj",
    "7VW7Y77YQ7YK7YF7Y47YL7Y57Y67YX7Y37Xv7YP7Y07YM7Xx7by7c27bz7bv7eH7eO7eP7eI7eN7eL7eY7eJ7eR7eG",
    "7gZ7gY7gU7hh7jc7ja7jj7jq7jf7jo7jb7jp7jn7jm7jX7ju7js7jZ7oo7oq7ol7s87s67s07sD7r_7s57rw7sE7rx",
    "7s37ry7sC7sK7s47rz7sI7zj7zh7zd7ze7zi7.c7.b7.d7_R7_S80X85a85W85t85S85f85R85Y85o6SX85U85s85d",
    "85l85485X88T8998948908928958Jn8G_8HM8Hs8Hv8IF8ID8Hb8HH8H08I68Hd8Gm8HD8Hz8HQ8HP8Hq8Hp8HT8K7",
    "8HU8Gt8Gw8Gq8Hw8H38Hu8Go8H58Gf8FP8HB8Gl8H28Gj8HV8Hm8Gv8HE8HC8HI8Hl8J58IE8Gx8H78Gs8Gp8He8H.",
    "8H48Gh8HW8HK8Hk8HG8SB8S48Rt8SC8Rw8RM8Rr8TD8Ru8SE8S98S18Rs8SD8S58ZM8ZB8ZD8ZE8ZU8ZR8ZQ8ZC8ZG",
    "8c58cR8dV8db8da8dX8dW8dY8dS8dc8fs8g68f_8fX8e_8ft8g28g48fr8g38g18fq8fw8my8nB8nA8nb8na8nc8o6",
    "8o48o58pC8re8rf8sH8sC8sE8sF8sD8sJ8sK8sG8sI8tm8tW8ti8tn8tk8tG8tf8tZ8tY8td8to8th8tq8y68x_8y1",
    "8y08y58y78y88y28yB91I90_91491990z94G94D94F94H94M94K94B94E95k95l99899I98m98w99c98p99b99U9A3",
    "98k99A99699j99i99F99W99d99l98s99X99m98n99K99Z99G99o99E99J99C99M98o9MV9MS9MU9MR9QI9QJ9QH9QN",
    "9RE9Rw9Rz9Ru9Rr9Tp9Tt9Tu9To9WF9WD9WE9Yi9Zs9Zv9cl9co9cm9cr9gj9gh9jR9pg9pj9pd9w09xz53c53K53N",
    "53e53p53R53g53T53a53J53i53m53l53Z53W57O5A05A15Bf5Bh5Cm5Ei5Od5OL5OC5OI5Ny5OF5OS5O15OJ5O25Nw",
    "5OT5O45N_5Nv5Y95Xy5YG5YO5Y65Y15X_5Xq5YB5Xw5Y75YH5YE5Xs5Y25Y85Xx5YK5YF5Z.5bh5hS5hk5hb5hL5hg",
    "5hQ5hj5hh5hp5hY5hW5hR5hi5hU5hT5hP5he5hV5jt5lW5lZ5nZ5s25s05rz5s65rw5s15rt5sA5s95s85r.5ry5sD",
    "5rv5r_5vO5vP5vJ5xO5xH5xN5xE5xS5xL5xP5xI5xK5z45z35zl5.s64i64e65165U65n65p65I65J65o65i66065q",
    "65K65w65R65b64x65g65X65M68f68d68h6Gh6HD6HR6HT6Hq6Hs6Ho6Hp6Hz6Hr6Hc6Ic6HE6I26HU6HS6HB6HJ6HW",
    "6HG6H_6G_6Hi6Hh6HP6Hb6Ht6Lp6MW6QX6QW6QV6S56S46SY6cn6cs6d96cW6dE6cM6cm6ci6cy6cH6cP6cE6cd6cD",
    "6cf6c.6cl6c_6d46cz6ca6dK6cv6dA6cQ6dF6cp6cJ6cg6cX6cU6dP6cN6cG6d26cr6cb6d66jA6jD6jB6kU6kV6kW",
    "6l36l46l.6xE6xr6xn6y36yb6xu6yt6xx6yk6y96zE6yP6yQ6yd6yO6yx6yI6xj6yA6ys6zp6xv6xk6yj6z06ym6yy",
    "6yr6xh6y76yE6z36y56xz6xs6yv6yS6xy6yw6yV6yD6yU6y86yX76776G76976076576276F75x76676176N79479J",
    "7AN7AL7AJ7D37DD7DH7DC7HY7Hp7Hn7Hr7Ho7Hd7Hk7K07K27K37Lz7MG7OM7O87OC7OL7OH7OA7OK7Qu7U17Ty7U5",
    "7U27Tk7U07Tl7T.7U37Yo7Yg7Yq7Yj7Ye7X.7Yh7YU7Yb7YW7Yi7YY7Ya7cO7cA7cB7cM7cL7cK7cJ7cN7c87cI7cG",
    "7eh7fA7em7el7ee7ec7ge7gh7gi7hk7k87kS7kA7kH7kG7kM7kD7kC7kR7kE7k57kO5A47kP7ka7k27ox7o_7oy7ow",
    "7sd7st7t27sZ7sg7t17t07t57sT7tE7t47t67tB7tC7sl7sv7sM7sy7sV7sc7sk7sf7sX7t97zp7_Y7_Z7_b7_U80a",
    "81T81S86986686386786D86C86B88L8IN8Ia8IX8IV8Iw8JE8J28Ii8Ik8Ih8Iv8Iq8J18JD8Ig8IQ8In8JG8IT8Id",
    "8Ix8IY8IK8J78JC8IR8If8Il8Ie8JM8IO8Is8JF8IW8JN8JK8JI8JR8Im8IH8PX8Sp8SZ8Se8Th8T08Sk8SU8SX8SP",
    "8SR8T38Si8T18S.8T68SW8So8Sg8Sj8Sy8SI8Sw8Sn8Sr8T28Sc8Sd8Su8Sa8SQ8Sm8SH8Zt8Zd8Zn8Zo8Zw8Z.8Zk",
    "8Zy8Zs8Zx8Zm8Zi8Zh8cT8cX8cV8cU8df8dh8de8gh8gP8gB8gI8gF8gM8mz8ne8nf8pL8pF8pN8sM8u98u28t_8uD",
    "8tz8uA8u38u78u68u58t.8u08u48yG8yH8yE8yD94Z94S94W94Y94V94T94Q94a94X94R95w95o95v95p9Ab9Aa99s",
    "9AR99w9AW9AK9Ag9AD9Ac9AQ9Ah99v9AN99_9AZ9Bk9AE9A29AL9AY99z9A89AX9AA9A69AC9AP9Ad99.9A79Af9AT",
    "9AB98j9QU9QX9R_9TO9Tz9Tw9T.9U39U09U29Tx9U49U19T_9VE9VD9WM9Yj9Yk9a29a09a79cT9cS9d39cv9cx9cw",
    "9d29cz9d79gn9hZ9hd9i.9i_9jW9jX9jV9pn9po9pr9wd53_54354m53u54654753s53.54B54C53z54A5AB5AC5Bn",
    "5Bl5P85P25PC5Or5P15PA5P95P65PO5PQ5P05Op5Oz5Oi5O.5Ou5Og5Ow5SQ5Yh5YT5Yn5YW5YZ5Yl5Yi5Yb5YX5Z_",
    "5h_5hq5hz5ht5hs5i35hu5i25hv5i15i75i55iF5nd5sP5sN5sV5sI5sY5sJ5sL5sW5sS5sX5sQ5sU5vf5vT5vW5vS",
    "7tp5xR5xU5xX5z95.o66B66365v66n66m66Y66966R66J66l66j66V66I66g66X66D65c66p68j6Hk6Hm6IM6IW6I5",
    "6IN6IS6IF6IB6IA6IC6IZ6IV6He6In6IO6Ls6Lw6Lv6Lx6Mo6Mp6Qr6Qm6Qf6Qo6Qt6Qg6Ql6e06e66eN6db6du6eL",
    "6dn6da6eW6d_6di6dY6eR6eT6d.6ed6do6dk6eK6dt6dd6f06e86dc6dx6eD6dy6dh6e96e46eO6eb6eF6ds6ec6e7",
    "6dq6eM6jH6kb6kZ6kY6kc6m16m06l_6m26z16yc6z.6.76_66.I6.D6.96.C6zY6zF6.56zQ6.M6zs6zi6.26zL6zo",
    "6zI6zG6zN6.K6.J6zT6y06zX6zh6zz6zd6.G6zJ6.B6zf6z_6.L6zZ6zt6zg6zx76o76l76R76m76W76Q76f76r76T",
    "76b76U76a76X76g76S76d76p7AO7AQ7DO7DI7DU7DV7DW7DT7DR7DX7DQ7DP7DY7I77I97IA7I67I17Hz7I57I87Hy",
    "7Hv7K87K77L.7Ob7OU7OP7OT7OS7OZ7OQ7Oe7OR7QS7QT7QU7QR7UD7UF7U97U87ZD7Yx7ZF7ZC7ZH7ZE7ZK7Z87Z3",
    "7Z47Z97cQ7cX7cW7cS7cY7cR6js7ev7go7gq7gp7kt7lB7k.7ki7lE7kl7kv7lA7kr7p57p87pC7pB7tt7tR7tg7td",
    "7tN7tX7u37tw7tc7ts7tn7tm7tk7tV7zs7.i7.m7.j7_j7_h7_g7_i7_c7_e81a81d86Z86V86U86L86Y86P86N88M",
    "89F89J89I89G89E89H8Ka8Kx8KF8K08Kf8KE8K98KD8KV8KA8Kd8KS8Jx8Kh8Jw8K88KC8Jq8Kg8Jo8KL8Jt8Jh8Jp",
    "8Jy8KI8Jg8Jf8KM8J.8Ke8KT8Kk8K28Jz8KU8Js8Kn8Kc8Jd8Je8Jm8Jl8Jv8KO8KW8Km8KB8KP8Kl8PY8TM8TZ8Ta",
    "8Tt8VX8Tp8TO8TK8TR8TI8TX8TQ8TH8TU8Tj8Tg8TG8TE8TV8TT8Tl8Ti8Tw8Tk8TS8Tb8TF8Tx8Tr8TY8Td8Tf8XQ",
    "8a58aC8aK8aB8aN8aO8aP8a68aM8aH8aE8a98cY8ca8cZ8dj8dm8di8hF8h68gu8hJ8hH8hK8hL8gx8hN8g.8h08h5",
    "8hO8h38gw8gz8hP8m.8nD8oF8pb8pV8pP8pe8pQ8pT8pd8sW8sS8sX8sR8uW8uZ8ub8ua8uk8uL8uR8uM8uH8uP8uc",
    "8ud8uK8uI8uO8uJ8uS8uN8uQ8yi8ya8yO8yQ8yW8yZ8yM8yN91p91m91l91d91h94l94h94f94g94o94c94k965966",
    "96A9619629649609BG9B39B49B09BP9As9BF9Bn9BV9BO9Bf9BN9BT9BC9Bl9B29Be9BA9B89BE9Bc9BD9BL9B99BW",
    "9BU9Bd9BH9BJ9Ar9BX9B69Aq9Ly9Mi9Mh9Mk9Mm9Qa9QY9RJ9S59S89S29TQ9UA9UE9U89VG9VF9WU9WT9Wc9Wf9We",
    "9WW9WR9Wd9Yo9a89Zw9aH9aK9aM9aN9aL9dS9dD9dF9dJ9dK9dE9d99dM9dO9dB9dN9dC9gp9hi9hh9hp9ho9hn9j6",
    "9j39jd9jq9jn9jc9js9jr9jm9je9ja9ji9py9pw9pz9p_9pt9q79q09pv9px9q89q59q49w39xJ9yF9yG54S54J54N",
    "54Q54H57U5Cq5FX5Pm5PW5Pk5Pp5Pc5PZ5Pj5Po5PU5Pt5SS5SR5Z85Yz5Z95Y_5Yw5Z25Yy5Z65iN5iP5iR5iX5iK",
    "5iJ5iG5iM5ie5iQ5iW5iU5ll5si5sn5sf5sd5sr5sm5sk5sg5se5so5sj5sl5sq5vd5ve5vc5vl5xf5xd5xc5xe5xb",
    "5zB5.y66T66e66M67566q67667167C66w66_66u66C6JN6JM6JG6JF6J96Iz6I96J36JR6Jp6JP6Kp6L_6Ly6MY6R8",
    "6Q.6R06RA6RB6RF6Qz6Qx6Qw6RC6SZ6eq6fc6f96fd6eo6fe6e.6fT6fj6fs6fR6fH6ee6fQ6ex6e_6f16fg6fa6fG",
    "6fF6fK6fl6ff6fW6ey6fU6fM6fL6fD6fE6f66jL6jK6jM6kd6kg6kh6l86l76m46m36m66.j6_B6.Z6_76.y6_E6_8",
    "6zU6_46.z6.U6_A6.e7046.b6.k6.w6.i6.g6_F6._6.u6.Y6_96.h6_D6.l6.o6.m77577276_76u77M77077177B",
    "77K77A77777F76z77O76y77677Q77R7AT7AU7Df7Dc7Dd7Di7Db7Dh7Dg7H_7IQ7IW7IK7II7IL7IX7KB7M07Ol7Oj",
    "7On7Oz7Op7Oy7Or7Oo7Om7Qx7Rc7UQ7UT7UX7US7UR7UY7UZ7UL7UP7UN7ZT7Zf7Zb7Zg7ZU7ZZ7ZR7ZX7ZY7Zj7ZV",
    "7ZW7ca7f47f87f77gs7gu7gr7gn7gt7lU7lZ7ld7lT7lL7lb7lQ7le7lv7lK7lg7lY7lS7lh7lO7lV7pI7pK7pN7pG",
    "7pH7uI7uX7uN7uC7uV7uW7uJ7uE7uS7uL7uQ7uY7uB7uF7uM7uD7uK7ub7ua7z37zx7zy7zw7.n7_l80g80f81i86n",
    "86c86k86v86r86h86m86i86q86o86t86d87o89L89M89N8LM8L58Lh8LD8LJ8LX8LO8L08L68La8L18LY8L48LH8L7",
    "8LZ8K.8LR8Ln8LE8Lk8Lr8LL8Ld8LW8MC8Lc8LT8LK8Lb8Li8PZ8Pb8Pa8UR8UF8UN8UJ8UI8U88U18UM8UO8Tv8U7",
    "8UZ8U58UG8UH8UT8U48UK8US8UQ8U98aU8ac8am8aj8ak8ad8an8aY8af8aZ8al8ai8aV8dn8hW8hY8ho8hq8hr8hT",
    "8iK8ha8hV8hm8h88hU8hX8he8h_8hl8hx8oH8oI8oG8pr8pk8pn8pm8pp8ri8rk8sb8sd8up8u.8uu8v08v58us8uy",
    "8uz8v18um8u_8wz8ys8yk8yr8yo8yv8yt8yq91s91v91x92693w94p94r94s96J96G96H96D96F9Cd9CU9C89CV9C6",
    "9CF9Dw9Cu9Cy9CR9CZ9CI9C19D69Cj9CE9CD9BB9CT9Bw9Cb9CJ9Bv9Bt9Cq9C29Ca9B_9Cf9Cv9Cr9Cg9CK9CC9CB",
    "9B.9C99C09Bx9CM9My9ND9M.9Mv9Mw9Ms9M_9Mr9Mz9Qf9RK9SB9SI9SG9UP9UN9UK9Vm9Vu9Wr9Wl9Wo9aa9aV9ad",
    "9af9cU9dk9di9db9da9dm9dZ9dg9df9dd9gv9g_9gq9gx9hs9hw9hv9ht9ip9k09k59k79jy9j.9jx9k29kJ9kI9kG",
    "9jw9kL9jz9k89qb9qN9qW9qU9qK9qf9qT9qO9qY9qG9qP9qV9w89w69w79wk9wj9xL9xM9xw9yI9yz54c54b54Y54a",
    "54W54f5Bq5QJ5QC5QD5Q65Q45Q35P.5Q25P_5Q15ZM5ZK5ZF5ZI5ij5ib5io5iZ5ii5id5ic5il5ik5jx5ln5lo5st",
    "5vi5vg5..5.x67366r66y67d67W67b67a67e67U6Jl6Jf6JZ6Jh6Ja6Je6M16M06Ms6NQ6RI6gD6gM6g16gb6g96gV",
    "6gR6gX6gU6g76gJ6gE6gL6g36ge6ga6gH6f_6gc6gQ6g56gC6gI6jR6kj6m96_C6.f6_q6_K6_Z6_S6_j6_d6_c6_U",
    "6_o6_T6_Y6_e77X77n77e77o77a77m77Y7Dp7Dk7Dl7IN7Io7Ih7IG7Ig7Ij7In7Ib7Il7KG7KH7KI7KF7M47P37P8",
    "7P97P77Qa7Rf7Ur7Uh7Uo7Ut7Us7Uq7Un7Ue7Vm7Zp7Zz7a27Zx7Zy7Zo7a57Zv7Z.7a47ch7ce7fS7fR7fM7fO7fK",
    "7fQ7g.7h07h17m57mF7lo7m07l_7lx7mE7lq7mB7lp7m27m97m37m17lu7lz7m67lm7ln7mG7mA7pe7uj7uy7v27up",
    "9X87uu7ug7v97v07v77uf7vC7um7ux7us7v47uw7z57z_7z.7zz7_q7_o80i86x87487C87A87587786y87f89R89Q",
    "89S8M38M08MF8Md8ML8MW8MB8MZ8Lx8Ma8MQ8MU8Lt8Ly8M98MX8Lw8Lu8LN8ME8MM8M68MD8MP8MT8M18MY8M28M8",
    "8M58Lv8Ls8MO8MG8MV8Pe8U.8Ug8Uj8V58Um8Ui8Uv8Ur8Uy8Uk8V98V38V28VC8Ut8Ul8V48VA8Uq8Us8U_8Uu8Uz",
    "8VU8Uo8ar8ap8ay8a.8b18bI8at8b28cj8cl8ck8do8dp8iU8iO8iM8iH8i58iB8iY8iF8iI8iL8i78iD8i88i68iS",
    "8iJ8iQ8nF8nm8no8nn8nl8oL8oK8pv8rl8vE8vD8vJ8vG8vC8v78z38z092591.94u96Q96Y96R96P96V96X96T96W",
    "9EX9E39El9Da9DM9D79Dy9DO9DS9Ds9D99DG9DH9DW9Dj9EF9DC9Dg9Dv9DN9DL9DI9DF9Dn9Dt9Dx9DX9DU9DZ9Dd",
    "9E09DE9DP9N79N09N99N39N59Mt9Qk9Qm9Qi9SW9SV9SO9ST9SP9UQ9UX9US9UU9UT9VL9VK9Vn9X19X49XA9X99X5",
    "9X39ab9ah9ai9ag9ap9ao9al9aj9an9am9cO9cZ9cX9e29dw9dq9dt9dv9du9ds9dx9dz9d.9dy9e39g.9h.9hz9i1",
    "9hy9j89kQ9ke9kU9kR9kc9kX9kb9ka9k69kY9kW9kl9qp9r19rd9qs9qk9ql9qn9qu9qm9r59r29r39q.9qt9r09qz",
    "7_r9qj9wA9w99wD9wm9x89xQ9xx9x_9ya9yZ9yY9zK9.W54n54j54k5QO5QS5QN5QQ5QT5QP5bm5iy5nf5ng5t05vj",
    "5vk67O67V67j67k67n67g67m67h67M67f6J_6K46Jz6Ju6K16K36Jy6MK6NR6RQ6RR6RO6h56gv6gz6hX6h66gw6gs",
    "6gt6h76gq6gj6jU6l96mB70770C70D70170570K70E6__7006_x70c6_y6_t70A78177_77v78377z7Ds7Iu7J07Ir",
    "7J17I.7Is7Ix7J27KK7KJ7PS7Pa7PP7PG7PJ7PN7PQ7Qc7Qz7Ri7V27Uw7Z_7aC7aJ7aK7a97aG7aI7aH7cj7ci7fV",
    "7mS7mf7mP7mW7mV7mj7mT7mc7me7mY7mb7mm7vS7vG7vM7vZ7vO7vY7vV7vH7vW7vN7vJ7.r7.p7_t7_u81r87H87I",
    "87G89V89U8Mq8N68N08N38N28Mp8Mr8Mz8N78N48M_8NB8NE8N88N58Mn8Ms8NI8Oa8Mu8Mt8M.8Pf8Vd8Vc8VY8VR",
    "8Vh8Vg8Vb8VV8Vp8Va8VK8VS8VJ8Vj8VO8VZ8Ua8VN8VP8W18Vq8Ve8VT8bJ8bB8bF8bC8b68bG8bH8b98ig8id8iZ",
    "8ip8im8ir8j78il8iy8i.8in8ib8it8ic8is8ik8ia8ix8iz8iw8n28nr8oP8oO8oN8p.8q48q28q08vS8vY8vW8vN",
    "8vM8vU8vb8vd8vR8vQ8vX8vT8vf8vK8z68z78z88zB94e94w94x94.96e96b96d96l96g9Er9EC9EI9Et9ER9ET9E9",
    "9Ed9EE9Eg9EU9Ec9EL9E89EP9EV9ED9En9EH9Eo9Ea9Ee9Eq9EZ9Eb9NI9NJ9NH9Qp9RN9RQ5t29RV9RO9RT9SZ9SY",
    "9Sb9Ui9Uk9Ue9Uh9Ua9Ug9UY9Ub9VN9VP9VM9VO9Vw9XG9XH9XI9Yu9b19ay9aw9eF9eB9e99eD9e49eH9eA9e59e7",
    "9e69h09hS9i89i49i59if9ir9jA9jC9jB9l79l69l39k_9l19kr9ku9lJ9ks9l49kv9kz9rS9rJ9rF9rA9rR9rB9rP",
    "9rM9rC9rN9rI9rK9rV9rO9rQ9wE9wC9xV9y19y09yM9yb9yh9yg9yf9ye9zC9zL54q54r5AM5Bt5Eq5Qh5Qj5Qc5Qd",
    "5Qg5Qi5ZQ5ZT5ZR5aI5iz5i.5i_5t35vm5._67x6K76KG6KD6K96KC6KE6M46NU6NT6RU6hd6hW6hC6hH6hP6hB6hV",
    "6hS6hG6hh6hF6hD6hU6jW6km6mC70P70d70W70M70h70X70Y70Z70f70N70a70S70g78C78A7877827857Ab7Ac7Aa",
    "7AZ7AX7JB7J57It7J37KM7PW7V97VA7V47Vn7aT7aR7aX7aS7aN7aU7cm7fd7fe7mp7my7mv7mi7mx7pi7pg7vs7vr",
    "7vu7vm7vt7vl7vw7vo7vq7ve7zB7zA7.37.67.t7_z7_.81u87N87L89a89X89Z8Nh8Nn8Nj8NP8NX8Ne8NQ8NN8Ni",
    "8No8Nu8NO8NV8NZ8NS8NH8Nm8Nc8Nl8NU8NY8W08Vw8W38Vs8Vt8W98WC8WB8W68Vy8W88V_8WA8W28bY8bQ8bR8bN",
    "8bX8bS8bO8bT8bP8c88ct8cs8ds8jG8j88jA8j08jJ8jM8jK8jB8jL8jH8j28jI8jN8n38nt8ns8oQ8q68q78q98si",
    "8sg8sj8sh8vj8vu8vp8vg8vl8vx8x28zI8zH8zF8zG8zJ8.q95094_96m96j9FU9F79FF9F29FQ9FG9Fv9Fi9FC9FP",
    "9Ef9Fc9FA9FK9Fk9FZ9FL9F49FE9F09FI9Fd9Lz9NQ9NR9RX9Sf9Sh9Si9Se9Sc9Up9Ut9Us9VT9VU9VV9XS9XP9XT",
    "9XN9Y_9Yz9Yx9Y.9b89b79b39cc9cd9eQ9eL9eb9eT9ea9eR9eY9eW9ed9eZ9eU9eS9eK9h29iB9iA9iE9iC9it9lg",
    "9lh9lW9lU9la9lc9lY9lm9lK9lN9li9lS9lP9lb9lL9lX9lQ9rt9s19sA9s49s89rn9s09ru9s69sB9sC9rz9rh9rq",
    "9rr9rm9rf9s59rp9rx9s29rl9rv9r_9s79re9wK9wH9x09xy9yj9z09z19zD9zM9zN9zO5Ct5Qo5Qr5Qp5ZZ5j55t6",
    "5t75xk5xl5_05_167v6KN6KM6KL6KJ6NV6Re6RZ6Ra6hp6hm6hg6he6hv6hn6hk6hl70y70r70l70t70q70n71270u",
    "70_70w70v71070x70p71178J78K7Ae7Dz7Dy7Iw7Qh7Qg7Q.7Rj7VC7VE7VF7VD7Vo7ab7aZ7ad7ae7aa7af7co7fk",
    "7fi7fj7ht7n97n87nA7n77n57pk7vx7v.7w17w07.w7__81v87R87P88B89e89f8OY8N_8O18N.8OR8O08Ns8O48O9",
    "8O58OC8Nz8WP8WG8WH8WN8WJ8WM8bZ8bc8cv8dt8jW8jg8jT8je8jZ8jb8jd8jj8sk8w68w88w48zP8zM8zN8zL8zO",
    "8zQ92D95395196t96r96o96p9GB9GJ9Fx9GW9GF9GK9F.9GL9GG9Ge9GP9GD9Fr9G09Ft9G79GE9GM9GI9Fw9G99Fu",
    "9GA9F_9Fy9GC9Fs9GH9G69NU9NW9NV9Sk9Sl9Uv9Ux9Vz9V.9XW9XY9XZ9XV9Z19Z29bG9bE9bP9bC9bB9bJ9eo9eq",
    "9en9ei9eg9es9ef9ek9eu9ej9h79hA9h69iG9iI9iH9mB9m89lt9m59mI9lu9n09m79mE9m69mN9mK9m99sV9sP9sa",
    "9sT9sI9sO9sG9sR9sW9sK9sS9sg9sN9sX9sQ9sY9se9sU9sZ9s_9sf9sM9sc9sd9wP9wR9wQ9xb9xa9xd9xc9ym9yk",
    "9zR9zW9zU9zT9zP9.H54w54v5AO5AN5R35Qz5Q.5j85j75tB5tF5xn67z6KR6i26hy6i36hu6i071371471A718719",
    "71571678T78Q78P7D.7KN7Pg7VG7aj7an7al7nK7nJ7po7wA7w77w87wB7w67wD7zD7.x80m87T8OO8Og8Oc8OV8OZ",
    "8OS8OP8Od8Ok8OX8OW8Of8OU8Ob8Wf8WT8WR8WW8Wa8WS8Wh8XA8bj8bf8bk8bh8dw8jv8ju8j58jw8jx8qG8qK8sl",
    "8wE8wC8zU8zR8zT95695495596v9G_9Gx9Gs9Gf9Gz9Gy9Gm9Gv9Gg9Gt9Gi9H09Gn9Nb9Na9NZ9Sr9Sw9U_9VX9Xa",
    "9Z99Z69Z09bO9bM9ev9ez9f69f49f29f19ew9e_9hD9iL9iN9iO9iM9iw9jI9mh9mT9mS9mi9mZ9me9mf9ma9mX9st",
    "9ss9sy9t19t79tA9tF9s.9t59t39sx9sr9tE9sv9sw9si9t89sn9sj9tC9sp9tD9so9vw9wS9xh9xk9xj9yR9yO9yQ",
    "9yn9zE9zb9za9.I4wv5R65R55RB5bn5jB5jC5tL5tH5xo6KX6KW6Kc6KY6iB6i86i96mD71L71M71N71I78U78V7Af",
    "7D_7JO7JL7JP7JN7Pj7Qj7ar7cq7fm7fn7nN7nS7nP7nR7nQ7pq7pn7wH7zF7.787U89h8Oq8Or8Op8Oi8Oo8Os8Wi",
    "8We8Wc8Wg8Wb8bn8c_8c.8dx8j.8k48k28k68k58j_8qL8wL8wK8wQ8wI8wG8wM8wN8zW8zY9579HC9HG9HA9HB9HF",
    "9H79H59H89H99H69S_9VZ9Xg9Xf9ZB9bK9bR9fE9fJ9fK9fC9fF9f89fA9f99fI9fG9hG9iP9ih9ix9jM9jL9n69n8",
    "9m_9n49mv9mp9n19my9mt9mq9mo9mz9ms9tR9tI9tU9tQ9tB9tG9tS9tH9tV9tf9tP9tO9tM9tr9tL9tT9ws9xm9yr",
    "9yp9yo9z29zh9.L9.Y54z5AP5Ze5Zd5bo5jD5tO8Wl5zF6816836846Kf6Kb6MM6Rh6iH6iI6iF6lA71R71Q78Y7E2",
    "7E17E37Pm7VK7nd7nc7wL89i8Ow8P08Ov8Oy8On8Ox8O.8Wm8Wo8Wk8Wp8bs8bq8bp8d.8kC8kE8kB8k88n58qP8wO",
    "8za8zZ96y9HY9HL9HT9HN9HU9V49V59W09fM9fP9iU9iV9iW9nI9nO9nG9nA9nD9nB9nL9nP9nC9nE9tx9tt9tl9tZ",
    "9th9tu9ta9ts9tX9tk9tc9to9tm9tY9ti9tq9tp9te9tj9x29xG9xo9xp9y69yS9yu9yt9ys9z39zF9zn9zm9zk9zl",
    "5RJ5RD5jE5nj6Kj6Rj6Rk6iJ71V71X71T71W78Z7JR7Jb7VL7au7ct7cs7ng7wN7.989j8P38Wu8Wt8Wr8XB8kK8kL",
    "8wU8wV8wW8wT96.96z9729Hh9He9Hf9Rb9T69T39T79V79Vb9fU9hL9jP9nZ9nd9nc9nY9nU9nW9u29t.9u79u39u6",
    "9u59u09u19u99t_9tz9u49wW9yU9z69zq9zr9zs5RK6Kk6Mu6iO6iP6iN6iQ71Y78c7Ag7VO7VP7av7nf7nh7ps7wQ",
    "7wO7wR7wP87W87X8P68P78P88bv8bw8by8bx8d_8kO8kP8wb8wa8wZ9Hk9Hj9Hl9Hn9Hp9T99Xo9bV9ne9nk9nj9uB",
    "9uD9uG9uF9uI9uH9wX9xr9y99z79zu9zx9zw9zv5SU71c7nl8Wy8so8wc9739Hq9Hu9Hs9Hr9fW9nq9np9nn9nr9uK",
    "9uJ9xs9yA9.a71e71b7pt8Pg8W.8Wz8W_8kU8oS8wf8x99TB9Xp9Xq9ZC9bX9ch9fa9fc9fd9ia9uL9uN9z86876iU",
    "78d8PC8we9I29I09I19ff9fe9ik9uP78f8PB8kV9I39nv9wt7Pr9fh9nw9uT71f71g9wa9z.9z99.O7Y19Av8ZF5Yx",
    "61I7od5hw2LK2Lc2LN2LW2Li2LZ2LQ2Lf2LT2LI2La2LL2LU2Lg2LX2LO2Ld2LR2LJ2Lb2LM2LV2Lh2LY2LP2Le2LS",
    "2LH2LG2Lj2Lk2Lm2LlF_jWL79BRWNVZ_58LC4Ar7Fl56r3P9ab2eda9D4XdR8BkZp87Wy6T46BVaapecgWAWckpXC5",
    "4.hYJj508cqfdg4ZO0agnYKJ000WD.5.aWE0WD76xRWGV0005413Hw54E9Xi3T38GMacaWI755WZEq55gWl_Y3yWBb",
    "YKmWMEZ8pXc35k28TzWMpZoP56o56u9qq57957F57H3pS57Jagc56p57Y5D257j8FD6a.ZSj5zx58B58c58y5Ar59N",
    "5AK5Av5B57mL8L25BW8ODciJ000ehU5L96xPZ.0WbKZ_i5Cp000WlY6pBXSc6WR7FL61A3wg3ZCXRe77T4IY5Dj5Dq",
    "eQh5D.000XMMXOJ7Vc5EJegR5EW5Eh5Ek7EdbTo3zP7ES5F15F56n94v95V.5FP3ghWkF5FWZ_hYsZ5FsWnt5GJ71v",
    "5Kh6PN6rR5HjcjJWrq5LT5IF5Ia4UcXSDWxT3sqWrDecyYQO5L74pj5Gl7GN5M65Mf000XZNa0w4LIaGr6QpX2q5Ot",
    "6RDZAA6Qa6Qj5PD5PF7Zn5Rn9U75F.5S05Rl5Rjejc3OZX9F5T6a6b6nk72B5T23Qncn.5VcXGM5W3XHKaDZ5Wcalr",
    "5XS5Yg3LX5ZW5ZSX8y5Zx5l_5T3g5Ga9u9FJ3MX5aV6Yc3R36vPXO.5ea5LJXQI8K55d9WrEco1cqgXVS5dPXVxXUo",
    "csc6rnXWeXRL5dvcv55gh5fZ3Rcacf0003S85gM7Hb5hJc.XYLK3s5XaH3SoXQu5w35BG5js6M85jydeE4044XTW84",
    "5lL65WXeqbdCWMb5lp5kT4qG5m5Xj45mJ7FE5mKXobcie5n94ZT5o55pf5pl5sBXtvXut5qG5qO5r6Xwa5ow5tN8By",
    "3Wjaa1Y19Y5p8A73Ws3l25uk6gA0005vwaIyWpJ5Ec4wt0005EeXTn5u95xqeI25xv5xx3YW5xy6W.9GR5yDW71lYK",
    "3hU4YkXCw5ywcY8YFG000YHn5zZ9Uzcvk5zo9D0ees5.d5ss3rVb9GXzgd3uYPe97MWAUeef60n6Q5XXt3bZ3t73Ov",
    "5UGYUq7bn3v062U00062pac2acFdfJ7Ia53X5gW65a8Ga652lYccxI66157qWPM6675kgZ.tYXV67JekTfbT67G3ao",
    "Yc0YZ160Z65S6KU6EBW4O6B5XTm6BLYuD6DiadV3eN6Gu6FuXEEXVy0006.AYus9WKa2CbST6JX6Jb9Hx3fc6Gw3fN",
    "6LD6yMaeeaeZ6M56Lj6LVZ1.6Mrab04it6NH43OXWf6NW6NZ5_VZG06OOZ7tZ7u6P4Z6aZ6b6PBWvr6Pdb7c6Pp000",
    "XuzZ8neNqZ78bCJ7V5YZt9ca6S2aESaeX3ih6dwZV20006Td6TYa7Df3j6VN4Jf6WY6vG98y6W1ZFccsW6XTZHl6dX",
    "6eBehV6bp6Z3ZND6a16a03qo3e1ZOy3k06Ui6bXefA4By6as6cO3kXWF98DZ52G6dvZPPY4g6f5ZS36gT3lp6Un6h8",
    "f6S3mD6iTWaZ63U6ir6jqYVD6wrZhRWErXbO3T05GXZjQ6lXZxy6lS6mtYIBaZncjH6nQ88c6nvZsy4J5Zsza6aaaC",
    "aa0Zp93Rb3phWqo9k3Z7vYIH7.F6WtcqbcsXcth6sM6rS6vy6y4ab_a25cvo8Kpczq5770000008GkeiX000Zul7HJ",
    "Z.27dC6vF5gHZ1B6_u3SD6.TZum6xwXINa0z4LL9Fm6z46zS3rE6zqf5m3qx6.Va546_Ja2Ha5La0vZ_mZ.qa4_57V",
    "a5Ma5Na50c7T71B71.72d72173C73L73M73V4443te76q76Ma9t74h7555g875A0005oSaDb75F9DYaB174iaHQaed",
    "aeY76wele72z78E9H278L5aH9H378a9D1bO578k790abq6Yz79L79N3vLZ146WD6yz7A20007ChaWZeWh4ZjeW47Ce",
    "7Ck7FF7EgWmwcek7F97H9a7YXRdaea6OZ3R5actacDadx7Ft7GL6a3aec7GvWN33xN000YYj7HWewo7H77Fa7Hs8Ev",
    "7Hi3Sm7Hq9Fn6ei7I24bJagCa5VafvekF5j6em3XYU7J8Xc87KE0007KUexPXfB5lNewi9E57LD7LA7Ld7Lka.23y4",
    "aqJ7ME7HT7MU7Mq7O27Oi7PH7PF7Pl7PscFr7QG87l3VucaHcaE7QX7Qb7Qt7RCc.V8HYb2Tb5zXuS7SU7Sc7T06Il",
    "b8W7TOZAi7UlebaebeXR17Vq000XDsaeI6ZA7Yl7Z77ZJ9Qb7akbNW7ZN7aq7YndOC8.u8Y4eihc23YOS7c68a06a2",
    "7c0bXN7cTdiv7ay7cf6ugd4c3we7d6f4D7dK"]

end ResidencePortal.Charset
