import ResidencePortal.Text.Packed

/-!
# Compositions of the Unicode standard

Full canonical decompositions and the pairs that compose, Hangul syllables apart, which follow a rule.
-/

namespace ResidencePortal.Unicode

open Text

/-- For each character that decomposes, its code point times 2^18, plus 32 times the place of its parts in
`decompositionPoints`, plus their number. -/
def decompositionEntries : Array Nat := Packed.unpack 6
  ["03000203101203202203303203404203505203706203807203908203A09203B0A203C0B203D0C203E0D203F0E2",
    "03H0F203I0G203J0H203K0I203L0J203M0K203P0L203Q0M203R0N203S0O203T0P203W0Q203X0R203Y0S203Z0T2",
    "03a0U203b0V203d0W203e0X203f0Y203g0Z203h0a203i0b203j0c203k0d203l0e203n0f203o0g203p0h203q0i2",
    "03r0j203s0k203v0l203w0m203x0n203y0o203z0p203_0q20400r20410s20420t20430u20440v20450w20460x2",
    "0470y20480z20490.204A0_204B10204C11204D12204E13204F14204I15204J16204K17204L18204M19204N1A2",
    "04O1B204P1C204Q1D204R1E204S1F204T1G204U1H204V1I204W1J204X1K204Y1L204Z1M204a1N204b1O204e1P2",
    "04f1Q204g1R204h1S204i1T204j1U204k1V204l1W204m1X204q1Y204r1Z204s1a204t1b204v1c204w1d204x1e2",
    "04y1f204z1g204.1h20531i20541j20551k20561l20571m20581n205C1o205D1p205E1q205F1r205G1s205H1t2",
    "05K1u205L1v205M1w205N1x205O1y205P1z205Q1.205R1_205S20205T21205U22205V23205W24205X25205Y262",
    "05Z27205a28205b29205e2A205f2B205g2C205h2D205i2E205j2F205k2G205l2H205m2I205n2J205o2K205p2L2",
    "05q2M205r2N205s2O205t2P205u2Q205v2R205w2S205x2T205y2U205z2V205.2W206W2X206X2Y206l2Z206m2a2",
    "07D2b207E2c207F2d207G2e207H2f207I2g207J2h207K2i207L2j307M2kZ07N2m307O2nZ07P2p307Q2qZ07R2s3",
    "07S2tZ07U2v307V2wZ07W2y307X2zZ07Y2_207Z30207c31207d32207e33207f34207g35207h36207i37307j38Z",
    "07k3A207l3B207m3C207q3D207r3E207u3F207v3G207w3H307x3IZ07y3K207z3L207.3M207_3N20803O20813P2",
    "0823Q20833R20843S20853T20863U20873V20883W20893X208A3Y208B3Z208C3a208D3b208E3c208F3d208G3e2",
    "08H3f208I3g208J3h208K3i208L3j208M3k208N3l208O3m208P3n208Q3o208R3p208U3q208V3r208c3s208d3t2",
    "08e3u208f3v208g3w308h3xZ08i3z308j3.Z08k40208l41208m42308n43Z08o45208p4620D04710D147X0D3481",
    "0D448Y0Dq49X0D.4A10E54AY0E64BY0E74CX0E84D20E94E20EA4F20EC4G20EE4H20EF4I20EG4J30Eg4KY0Eh4LY",
    "0Ei4MY0Ej4NY0Ek4OY0El4PY0Em4QZ0FA4S20FB4T20FC4U20FD4V20FE4W20FJ4X20FK4Y20G04Z20G14a20G34b2",
    "0G74c20GC4d20GD4e20GE4f20GP4g20Gv4h20HG4i20HH4j20HJ4k20HN4l20HS4m20HT4n20HU4o20Hs4p20Ht4q2",
    "0J14r20J24s20JG4t20JH4u20JI4v20JJ4w20JM4x20JN4y20JQ4z20JR4.20JS4_20JT5020JU5120JV5220JY532",
    "0JZ5420Ja5520Jb5620Jc5720Jd5820Jg5920Jh5A20Ji5B20Jj5C20Jk5D20Jl5E20Jm5F20Jn5G20Jo5H20Jp5I2",
    "0Jq5J20Jr5K20Ju5L20Jv5M20OY5N20OZ5O20Oa5P20Ob5Q20Oc5R20R05S20R25T20RJ5U20af5V20an5W20aq5X2",
    "0bO5Y20bP5Z20bQ5a20bR5b20bS5c20bT5d20bU5e20bV5f20dB5g20dC5h20dS5i20dT5j20dV5k20ep5l20es5m2",
    "0fP5n20fQ5o20fR5p20fU5q20j85r20jB5s20jC5t20jS5u20jT5v20kK5w20lA5x20lB5y20lC5z20n85.20p05_2",
    "0p76020p86120pA6220pB6330rA64Y0rB65Y0rC66Y0tQ67Y0tS68Y0tT69Z0tU6B20z36C20zD6D20zI6E20zN6F2",
    "0zS6G20zf6H20zp6I20zr6J20zs6K20zu6L20.16M20.J6N20.T6O20.Y6P20.d6Q20.i6R20.v6S210c6T21i66U2",
    "1i86V21iA6W21iC6X21iE6Y21iI6Z21ix6a21iz6b21j06c21j16d21j36e21u06f21u16g21u26h21u36i21u46j2",
    "1u56k21u66l21u76m21u86n31u96oZ1uA6q21uB6r21uC6s21uD6t21uE6u21uF6v21uG6w21uH6x21uI6y21uJ6z2",
    "1uK6.31uL6_Z1uM7131uN72Z1uO7421uP7521uQ7621uR7721uS7831uT79Z1uU7B21uV7C21uW7D21uX7E21uY7F2",
    "1uZ7G21ua7H21ub7I21uc7J21ud7K21ue7L21uf7M21ug7N21uh7O21ui7P21uj7Q21uk7R31ul7SZ1um7U21un7V2",
    "1uo7W21up7X21uq7Y21ur7Z21us7a21ut7b21uu7c31uv7dZ1uw7f21ux7g21uy7h21uz7i21u.7j21u_7k21v07l2",
    "1v17m21v27n21v37o21v47p21v57q21v67r21v77s21v87t21v97u21vA7v21vB7w21vC7x31vD7yZ1vE7.31vF7_Z",
    "1vG8131vH82Z1vI8431vJ85Z1vK8721vL8821vM8921vN8A21vO8B21vP8C21vQ8D21vR8E21vS8F31vT8GZ1vU8I2",
    "1vV8J21vW8K21vX8L21vY8M21vZ8N21va8O31vb8PZ1vc8R31vd8SZ1ve8U31vf8VZ1vg8X21vh8Y21vi8Z21vj8a2",
    "1vk8b21vl8c21vm8d21vn8e21vo8f21vp8g21vq8h21vr8i21vs8j21vt8k21vu8l31vv8mZ1vw8o31vx8pZ1vy8r2",
    "1vz8s21v.8t21v_8u21w08v21w18w21w28x21w38y21w48z21w58.21w68_21w79021w89121w99221wA9321wB942",
    "1wC9521wD9621wE9721wF9821wG9921wH9A21wI9B21wJ9C21wK9D21wL9E21wM9F21wN9G21wO9H21wP9I21wR9J2",
    "1wW9K21wX9L21wY9M21wZ9N21wa9O31wb9PZ1wc9R31wd9SZ1we9U31wf9VZ1wg9X31wh9YZ1wi9a31wj9bZ1wk9d3",
    "1wl9eZ1wm9g31wn9hZ1wo9j31wp9kZ1wq9m31wr9nZ1ws9p31wt9qZ1wu9s21wv9t21ww9u21wx9v21wy9w21wz9x2",
    "1w.9y31w_9zZ1x09_31x1A0Z1x2A231x3A3Z1x4A531x5A6Z1x6A831x7A9Z1x8AB21x9AC21xAAD21xBAE21xCAF2",
    "1xDAG21xEAH21xFAI21xGAJ31xHAKZ1xIAM31xJANZ1xKAP31xLAQZ1xMAS31xNATZ1xOAV31xPAWZ1xQAY31xRAZZ",
    "1xSAb31xTAcZ1xUAe31xVAfZ1xWAh31xXAiZ1xYAk31xZAlZ1xaAn21xbAo21xcAp21xdAq21xeAr31xfAsZ1xgAu3",
    "1xhAvZ1xiAx31xjAyZ1xkA.31xlA_Z1xmB131xnB2Z1xoB421xpB521xqB621xrB721xsB821xtB921xuBA21xvBB2",
    "1y0BC21y1BD21y2BE31y3BFZ1y4BH31y5BIZ1y6BK31y7BLZ1y8BN21y9BO21yABP31yBBQZ1yCBS31yDBTZ1yEBV3",
    "1yFBWZ1yGBY21yHBZ21yIBa31yJBbZ1yKBd31yLBeZ1yOBg21yPBh21yQBi31yRBjZ1ySBl31yTBmZ1yWBo21yXBp2",
    "1yYBq31yZBrZ1yaBt31ybBuZ1ycBw31ydBxZ1yeBz21yfB.21ygB_31yhC0Z1yiC231yjC3Z1ykC531ylC6Z1ymC82",
    "1ynC921yoCA31ypCBZ1yqCD31yrCEZ1ysCG31ytCHZ1yuCJ21yvCK21ywCL31yxCMZ1yyCO31yzCPZ1y.CR31y_CSZ",
    "1z0CU21z1CV21z2CW31z3CXZ1z4CZ31z5CaZ1z8Cc21z9Cd21zACe31zBCfZ1zCCh31zDCiZ1zGCk21zHCl21zICm3",
    "1zJCnZ1zKCp31zLCqZ1zMCs31zNCtZ1zPCv21zRCw31zTCxZ1zVCz31zWC.Y1zXC_Y1zYD0Z1zZD231zaD3Z1zbD53",
    "1zcD6Z1zdD831zeD9Y1zfDAY1zgDBZ1zhDD31ziDEZ1zjDG31zkDHZ1zlDJ31zmDKY1znDLY1zoDMY1zpDNY1zqDOY",
    "1zrDPY1zsDQY1ztDRY1zuDSY1zvDTY1zwDUY1zxDVY1zyDWY1zzDXY1.0DYZ1.1Da31.2Dba1.3Dda1.4Dfa1.5Dha",
    "1.6Dja1.7Dla1.8DnZ1.9Dp31.ADqa1.BDsa1.CDua1.DDwa1.EDya1.FD.a1.GE0Z1.HE231.IE3a1.JE5a1.KE7a",
    "1.LE9a1.MEBa1.NEDa1.OEFZ1.PEH31.QEIa1.REKa1.SEMa1.TEOa1.UEQa1.VESa1.WEUZ1.XEW31.YEXa1.ZEZa",
    "1.aEba1.bEda1.cEfa1.dEha1.eEjZ1.fEl31.gEma1.hEoa1.iEqa1.jEsa1.kEua1.lEwa1.mEyY1.nEzY1.oE.Z",
    "1.pF021.qF131.sF2Y1.tF3Z1.uF521.vF621.wF721.xF821.yF921..FA11_1FAY1_2FBZ1_3FD21_4FE31_6FFY",
    "1_7FGZ1_8FI21_9FJ21_AFK21_BFL21_CFM21_DFN21_EFO21_FFP21_GFQ21_HFR21_IFS31_JFTZ1_MFV21_NFW3",
    "1_OFXY1_PFYY1_QFZY1_RFaY1_TFbY1_UFcY1_VFdY1_WFeY1_XFfY1_YFgZ1_ZFi31_aFjY1_bFkY1_cFlY1_dFmZ",
    "1_eFo21_fFp21_gFq21_hFr21_iFs21_jFt21_kFu21_lFv11_oFvZ1_pFx21_qFy31_sFzY1_tF.Z1_uG021_vG12",
    "1_wG221_xG321_yG421_zG51200G5X201G6124cG6X24gG7124hG7Y26QG8Y26RG9Y26kGAY27DGBY27EGCY27FGDY",
    "284GEY289GFY28CGGY28aGHY28cGIY291GJY294GKY297GLY299GMY29WGNY29YGOY29jGPY29kGQY29lGRY29mGSY",
    "29nGTY29qGUY29rGVY29uGWY29vGXY2A0GYY2A1GZY2A4GaY2A5GbY2A8GcY2A9GdY2AiGeY2AjGfY2AkGgY2AlGhY",
    "2BWGiY2BXGjY2BYGkY2BZGlY2BgGmY2BhGnY2BiGoY2BjGpY2CfGqX2CgGr12hSGrY31CGsY31EGtY31GGuY31IGvY",
    "31KGwY31MGxY31OGyY31QGzY31SG.Y31UG_Y31WH0Y31YH1Y31bH2Y31dH3Y31fH4Y31mH5Y31nH6Y31pH7Y31qH8Y",
    "31sH9Y31tHAY31vHBY31wHCY31yHDY31zHEY32KHFY32UHGY32iHHY32kHIY32mHJY32oHKY32qHLY32sHMY32uHNY",
    "32wHOY32yHPY32.HQY330HRY332HSY335HTY337HUY339HVY33GHWY33HHXY33JHYY33KHZY33MHaY33NHbY33PHcY",
    "33QHdY33SHeY33THfY33qHgY33tHhY33uHiY33vHjY33wHkY33.HlYFa0HmXFa1Hn1Fa2HnXFa3Ho1Fa4HoXFa5Hp1",
    "Fa6HpXFa7Hq1Fa8HqXFa9Hr1FaAHrXFaBHs1FaCHsXFaDHt1FaEHtXFaFHu1FaGHuXFaHHv1FaIHvXFaJHw1FaKHwX",
    "FaLHx1FaMHxXFaNHy1FaOHyXFaPHz1FaQHzXFaRH.1FaSH.XFaTH_1FaUH_XFaVI01FaWI0XFaXI11FaYI1XFaZI21",
    "FaaI2XFabI31FacI3XFadI41FaeI4XFafI51FagI5XFahI61FaiI6XFajI71FakI7XFalI81FamI8XFanI91FaoI9X",
    "FapIA1FaqIAXFarIB1FasIBXFatIC1FauICXFavID1FawIDXFaxIE1FayIEXFazIF1Fa.IFXFa_IG1Fb0IGXFb1IH1",
    "Fb2IHXFb3II1Fb4IIXFb5IJ1Fb6IJXFb7IK1Fb8IKXFb9IL1FbAILXFbBIM1FbCIMXFbDIN1FbEINXFbFIO1FbGIOX",
    "FbHIP1FbIIPXFbJIQ1FbKIQXFbLIR1FbMIRXFbNIS1FbOISXFbPIT1FbQITXFbRIU1FbSIUXFbTIV1FbUIVXFbVIW1",
    "FbWIWXFbXIX1FbYIXXFbZIY1FbaIYXFbbIZ1FbcIZXFbdIa1FbeIaXFbfIb1FbgIbXFbhIc1FbiIcXFbjId1FbkIdX",
    "FblIe1FbmIeXFbnIf1FboIfXFbpIg1FbqIgXFbrIh1FbsIhXFbtIi1FbuIiXFbvIj1FbwIjXFbxIk1FbyIkXFbzIl1",
    "Fb.IlXFb_Im1Fc0ImXFc1In1Fc2InXFc3Io1Fc4IoXFc5Ip1Fc6IpXFc7Iq1Fc8IqXFc9Ir1FcAIrXFcBIs1FcCIsX",
    "FcDIt1FcEItXFcFIu1FcGIuXFcHIv1FcIIvXFcJIw1FcKIwXFcLIx1FcMIxXFcNIy1FcOIyXFcPIz1FcQIzXFcRI.1",
    "FcSI.XFcTI_1FcUI_XFcVJ01FcWJ0XFcXJ11FcYJ1XFcZJ21FcaJ2XFcbJ31FccJ3XFcdJ41FceJ4XFcfJ51FcgJ5X",
    "FchJ61FciJ6XFcjJ71FckJ7XFclJ81FcmJ8XFcnJ91FcoJ9XFcpJA1FcqJAXFcrJB1FcsJBXFctJC1FcuJCXFcvJD1",
    "FcwJDXFcxJE1FcyJEXFczJF1Fc.JFXFc_JG1Fd0JGXFd1JH1Fd2JHXFd3JI1Fd4JIXFd5JJ1Fd6JJXFd7JK1Fd8JKX",
    "Fd9JL1FdAJLXFdBJM1FdCJMXFdDJN1FdEJNXFdFJO1FdGJOXFdHJP1FdIJPXFdJJQ1FdKJQXFdLJR1FdMJRXFdNJS1",
    "FdOJSXFdPJT1FdQJTXFdRJU1FdSJUXFdTJV1FdUJVXFdVJW1FdWJWXFdXJX1FdYJXXFdZJY1FdaJYXFdbJZ1FdcJZX",
    "FddJa1FdeJaXFdfJb1FdgJbXFdhJc1FdiJcXFdjJd1FdkJdXFdlJe1FdmJeXFdnJf1FdoJfXFdpJg1FdqJgXFdrJh1",
    "FdsJhXFdtJi1FduJiXFdvJj1FdwJjXFdxJk1FdyJkXFdzJl1Fd.JlXFd_Jm1Fe0JmXFe1Jn1Fe2JnXFe3Jo1Fe4JoX",
    "Fe5Jp1Fe6JpXFe7Jq1Fe8JqXFe9Jr1FeAJrXFeBJs1FeCJsXFeDJt1FeGJtXFeIJu1FeLJuXFeMJv1FeNJvXFeOJw1",
    "FePJwXFeQJx1FeRJxXFeSJy1FeTJyXFeUJz1FeWJzXFeYJ.1FebJ.XFecJ_1FegJ_XFehK01FeiK0XFejK11FekK1X",
    "FelK21FemK2XFenK31FeoK3XFepK41FeqK4XFerK51FesK5XFetK61FeuK6XFevK71FewK7XFexK81FeyK8XFezK91",
    "Fe.K9XFe_KA1Ff0KAXFf1KB1Ff2KBXFf3KC1Ff4KCXFf5KD1Ff6KDXFf7KE1Ff8KEXFf9KF1FfAKFXFfBKG1FfCKGX",
    "FfDKH1FfEKHXFfFKI1FfGKIXFfHKJ1FfIKJXFfJKK1FfKKKXFfLKL1FfMKLXFfNKM1FfOKMXFfPKN1FfQKNXFfRKO1",
    "FfSKOXFfTKP1FfUKPXFfVKQ1FfWKQXFfXKR1FfYKRXFfZKS1FfaKSXFfbKT1FfcKTXFfdKU1FfeKUXFffKV1FfgKVX",
    "FfhKW1FfiKWXFfjKX1FfmKXXFfnKY1FfoKYXFfpKZ1FfqKZXFfrKa1FfsKaXFftKb1FfuKbXFfvKc1FfwKcXFfxKd1",
    "FfyKdXFfzKe1Ff.KeXFf_Kf1Fg0KfXFg1Kg1Fg2KgXFg3Kh1Fg4KhXFg5Ki1Fg6KiXFg7Kj1Fg8KjXFg9Kk1FgAKkX",
    "FgBKl1FgCKlXFgDKm1FgEKmXFgFKn1FgGKnXFgHKo1FgIKoXFgJKp1FgKKpXFgLKq1FgMKqXFgNKr1FgOKrXFgPKs1",
    "FgQKsXFgRKt1FgSKtXFgTKu1FgUKuXFgVKv1FgWKvXFgXKw1FgYKwXFgZKx1FgaKxXFgbKy1FgcKyXFgdKz1FgeKzX",
    "FgfK.1FggK.XFghK_1FgiK_XFgjL01FgkL0XFglL11FgmL1XFgnL21FgoL2XFgpL31FgqL3XFgrL41FgsL4XFgtL51",
    "FguL5XFgvL61FgwL6XFgxL71FgyL7XFgzL81Fg.L8XFg_L91Fh0L9XFh1LA1Fh2LAXFh3LB1Fh4LBXFh5LC1Fh6LCX",
    "Fh7LD1Fh8LDXFh9LE1FhALEXFhBLF1FhCLFXFhDLG1FhELGXFhFLH1FhGLHXFhHLI1FhILIXFhJLJ1FhKLJXFhLLK1",
    "FhMLKXFhNLL1FhOLLXFhPLM1FiTLMYFiVLNYFigLOYFihLPYFiiLQZFijLS3FikLTYFilLUYFimLVYFinLWYFioLXY",
    "FipLYYFiqLZYFirLaYFisLbYFiuLcYFivLdYFiwLeYFixLfYFiyLgYFi.LhYFj0LiYFj1LjYFj3LkYFj4LlYFj6LmY",
    "Fj7LnYFj8LoYFj9LpYFjALqYFjBLrYFjCLsYFjDLtYFjELuYGN9LvYGNaLwYH2QLxYH2SLyYH2hLzYH4kL.YH4lL_Y",
    "HDBM0YHDCM1YHE3M2YHE5M3YHEEM4YHEHM5YHF5M6YHF7M7YHF8M8YHIxM9YHIyMAYHI.MBYHMwMCYHMxMDYHauMEY",
    "M4XMFYM4YMGYM4ZMHYM4aMIYM4bMJYM4cMKZM4dMM3M4eMNZMreMP2MrfMQ2MrgMR3T5UMSYT5VMTYT5WMUZT5XMW3",
    "T5YMXZT5ZMZ3T5aMaZT6xMc2T6yMd2T6zMe3T6.MfZT6_Mh3T70MiZlW0Mk1lW1MkXlW2Ml1lW3MlXlW4Mm1lW5MmX",
    "lW6Mn1lW7MnXlW8Mo1lW9MoXlWAMp1lWBMpXlWCMq1lWDMqXlWEMr1lWFMrXlWGMs1lWHMsXlWIMt1lWJMtXlWKMu1",
    "lWLMuXlWMMv1lWNMvXlWOMw1lWPMwXlWQMx1lWRMxXlWSMy1lWTMyXlWUMz1lWVMzXlWWM.1lWXM.XlWYM_1lWZM_X",
    "lWaN01lWbN0XlWcN11lWdN1XlWeN21lWfN2XlWgN31lWhN3XlWiN41lWjN4XlWkN51lWlN5XlWmN61lWnN6XlWoN71",
    "lWpN7XlWqN81lWrN8XlWsN91lWtN9XlWuNA1lWvNAXlWwNB1lWxNBXlWyNC1lWzNCXlW.ND1lW_NDXlX0NE1lX1NEX",
    "lX2NF1lX3NFXlX4NG1lX5NGXlX6NH1lX7NHXlX8NI1lX9NIXlXANJ1lXBNJXlXCNK1lXDNKXlXENL1lXFNLXlXGNM1",
    "lXHNMXlXINN1lXJNNXlXKNO1lXLNOXlXMNP1lXNNPXlXONQ1lXPNQXlXQNR1lXRNRXlXSNS1lXTNSXlXUNT1lXVNTX",
    "lXWNU1lXXNUXlXYNV1lXZNVXlXaNW1lXbNWXlXcNX1lXdNXXlXeNY1lXfNYXlXgNZ1lXhNZXlXiNa1lXjNaXlXkNb1",
    "lXlNbXlXmNc1lXnNcXlXoNd1lXpNdXlXqNe1lXrNeXlXsNf1lXtNfXlXuNg1lXvNgXlXwNh1lXxNhXlXyNi1lXzNiX",
    "lX.Nj1lX_NjXlY0Nk1lY1NkXlY2Nl1lY3NlXlY4Nm1lY5NmXlY6Nn1lY7NnXlY8No1lY9NoXlYANp1lYBNpXlYCNq1",
    "lYDNqXlYENr1lYFNrXlYGNs1lYHNsXlYINt1lYJNtXlYKNu1lYLNuXlYMNv1lYNNvXlYONw1lYPNwXlYQNx1lYRNxX",
    "lYSNy1lYTNyXlYUNz1lYVNzXlYWN.1lYXN.XlYYN_1lYZN_XlYaO01lYbO0XlYcO11lYdO1XlYeO21lYfO2XlYgO31",
    "lYhO3XlYiO41lYjO4XlYkO51lYlO5XlYmO61lYnO6XlYoO71lYpO7XlYqO81lYrO8XlYsO91lYtO9XlYuOA1lYvOAX",
    "lYwOB1lYxOBXlYyOC1lYzOCXlY.OD1lY_ODXlZ0OE1lZ1OEXlZ2OF1lZ3OFXlZ4OG1lZ5OGXlZ6OH1lZ7OHXlZ8OI1",
    "lZ9OIXlZAOJ1lZBOJXlZCOK1lZDOKXlZEOL1lZFOLXlZGOM1lZHOMXlZION1lZJONXlZKOO1lZLOOXlZMOP1lZNOPX",
    "lZOOQ1lZPOQXlZQOR1lZRORXlZSOS1lZTOSXlZUOT1lZVOTXlZWOU1lZXOUXlZYOV1lZZOVXlZaOW1lZbOWXlZcOX1",
    "lZdOXXlZeOY1lZfOYXlZgOZ1lZhOZXlZiOa1lZjOaXlZkOb1lZlObXlZmOc1lZnOcXlZoOd1lZpOdXlZqOe1lZrOeX",
    "lZsOf1lZtOfXlZuOg1lZvOgXlZwOh1lZxOhXlZyOi1lZzOiXlZ.Oj1lZ_OjXla0Ok1la1OkXla2Ol1la3OlXla4Om1",
    "la5OmXla6On1la7OnXla8Oo1la9OoXlaAOp1laBOpXlaCOq1laDOqXlaEOr1laFOrXlaGOs1laHOsXlaIOt1laJOtX",
    "laKOu1laLOuXlaMOv1laNOvXlaOOw1laPOwXlaQOx1laROxXlaSOy1laTOyXlaUOz1laVOzXlaWO.1laXO.XlaYO_1",
    "laZO_XlaaP01labP0XlacP11ladP1XlaeP21lafP2XlagP31lahP3XlaiP41lajP4XlakP51lalP5XlamP61lanP6X",
    "laoP71lapP7XlaqP81larP8XlasP91latP9XlauPA1lavPAXlawPB1laxPBXlayPC1lazPCXla.PD1la_PDXlb0PE1",
    "lb1PEXlb2PF1lb3PFXlb4PG1lb5PGXlb6PH1lb7PHXlb8PI1lb9PIXlbAPJ1lbBPJXlbCPK1lbDPKXlbEPL1lbFPLX",
    "lbGPM1lbHPMXlbIPN1lbJPNXlbKPO1lbLPOXlbMPP1lbNPPXlbOPQ1lbPPQXlbQPR1lbRPRXlbSPS1lbTPSXlbUPT1",
    "lbVPTXlbWPU1lbXPUXlbYPV1lbZPVXlbaPW1lbbPWXlbcPX1lbdPXXlbePY1lbfPYXlbgPZ1lbhPZXlbiPa1lbjPaX",
    "lbkPb1lblPbXlbmPc1lbnPcXlboPd1lbpPdXlbqPe1lbrPeXlbsPf1lbtPfXlbuPg1lbvPgXlbwPh1lbxPhXlbyPi1",
    "lbzPiXlb.Pj1lb_PjXlc0Pk1lc1PkXlc2Pl1lc3PlXlc4Pm1lc5PmXlc6Pn1lc7PnXlc8Po1lc9PoXlcAPp1lcBPpX",
    "lcCPq1lcDPqXlcEPr1lcFPrXlcGPs1lcHPsXlcIPt1lcJPtXlcKPu1lcLPuXlcMPv1lcNPvXlcOPw1lcPPwXlcQPx1",
    "lcRPxXlcSPy1lcTPyXlcUPz1lcVPzXlcWP.1lcXP.XlcYP_1lcZP_XlcaQ01lcbQ0XlccQ11lcdQ1XlceQ21lcfQ2X",
    "lcgQ31lchQ3XlciQ41lcjQ4XlckQ51lclQ5XlcmQ61lcnQ6XlcoQ71lcpQ7XlcqQ81lcrQ8XlcsQ91lctQ9XlcuQA1",
    "lcvQAXlcwQB1lcxQBXlcyQC1lczQCXlc.QD1lc_QDXld0QE1ld1QEXld2QF1ld3QFXld4QG1ld5QGXld6QH1ld7QHX",
    "ld8QI1ld9QIXldAQJ1ldBQJXldCQK1ldDQKXldEQL1ldFQLXldGQM1ldHQMXldIQN1ldJQNXldKQO1ldLQOXldMQP1",
    "ldNQPXldOQQ1ldPQQXldQQR1ldRQRXldSQS1ldTQSXldUQT1ldVQTXldWQU1ldXQUXldYQV1ldZQVXldaQW1ldbQWX",
    "ldcQX1lddQXXldeQY1ldfQYXldgQZ1ldhQZXldiQa1ldjQaXldkQb1ldlQbXldmQc1ldnQcXldoQd1ldpQdXldqQe1",
    "ldrQeXldsQf1ldtQfXlduQg1ldvQgXldwQh1ldxQhXldyQi1ldzQiXld.Qj1ld_QjXle0Qk1le1QkXle2Ql1le3QlX",
    "le4Qm1le5QmXle6Qn1le7QnXle8Qo1le9QoXleAQp1leBQpXleCQq1leDQqXleEQr1leFQrXleGQs1leHQsXleIQt1",
    "leJQtXleKQu1leLQuXleMQv1leNQvXleOQw1lePQwXleQQx1leRQxXleSQy1leTQyX"]

/-- The parts of characters. -/
def decompositionPoints : Array Nat := Packed.unpack 3
  ["0110C00110C10110C20110C30110C80110CA0130Cd0150C00150C10150C20150C80190C00190C10190C20190C8",
    "01E0C301F0C001F0C101F0C201F0C301F0C801L0C001L0C101L0C201L0C801P0C101X0C001X0C101X0C201X0C3",
    "01X0C801X0CA01Z0Cd01b0C001b0C101b0C201b0C801f0C001f0C101f0C201f0C801k0C301l0C001l0C101l0C2",
    "01l0C301l0C801r0C001r0C101r0C201r0C801v0C101v0C80110C401X0C40110C601X0C60110Ce01X0Ce0130C1",
    "01Z0C10130C201Z0C20130C701Z0C70130CC01Z0CC0140CC01a0CC0150C401b0C40150C601b0C60150C701b0C7",
    "0150Ce01b0Ce0150CC01b0CC0170C201d0C20170C601d0C60170C701d0C70170Cd01d0Cd0180C201e0C20190C3",
    "01f0C30190C401f0C40190C601f0C60190Ce01f0Ce0190C701A0C201g0C201B0Cd01h0Cd01C0C101i0C101C0Cd",
    "01i0Cd01C0CC01i0CC01E0C101k0C101E0Cd01k0Cd01E0CC01k0CC01F0C401l0C401F0C601l0C601F0CB01l0CB",
    "01I0C101o0C101I0Cd01o0Cd01I0CC01o0CC01J0C101p0C101J0C201p0C201J0Cd01p0Cd01J0CC01p0CC01K0Cd",
    "01q0Cd01K0CC01q0CC01L0C301r0C301L0C401r0C401L0C601r0C601L0CA01r0CA01L0CB01r0CB01L0Ce01r0Ce",
    "01N0C201t0C201P0C201v0C201P0C801Q0C101w0C101Q0C701w0C701Q0CC01w0CC01F0CR01l0CR01L0CR01r0CR",
    "0110CC01X0CC0190CC01f0CC01F0CC01l0CC01L0CC01r0CC01L0C80C401r0C80C401L0C80C101r0C80C101L0C8",
    "0CC01r0C80CC01L0C80C001r0C80C00110C80C401X0C80C40110C70C401X0C70C40360C403c0C40170CC01d0CC",
    "01B0CC01h0CC01F0Ce01l0Ce01F0Ce0C401l0Ce0C406t0CC0AI0CC01g0CC0170C101d0C101E0C001k0C00110CA",
    "0C101X0CA0C10360C103c0C103O0C103u0C10110CF01X0CF0110CH01X0CH0150CF01b0CF0150CH01b0CH0190CF",
    "01f0CF0190CH01f0CH01F0CF01l0CF01F0CH01l0CH01I0CF01o0CF01I0CH01o0CH01L0CF01r0CF01L0CH01r0CH",
    "01J0Cc01p0Cc01K0Cc01q0Cc0180CC01e0CC0110C701X0C70150Cd01b0Cd01F0C80C401l0C80C401F0C30C401l",
    "0C30C401F0C701l0C701F0C70C401l0C70C401P0C401v0C40C00C10CJ0C80C10Av00x02e0C10EH0C102t0EL0C1",
    "0EN0C10EP0C10EV0C10Eb0C10Ef0C10Ev0C80C10EP0C80Eb0C80En0C10Er0C10Et0C10Ev0C10F50C80C10Ev0C8",
    "0F50C80E_0C10F50C10F90C10FI0C10FI0C80GL0C00GL0C80GJ0C10G60C80GQ0C10GO0C00GZ0C60GO0C60Gu0C6",
    "0Gr0C00Gr0C80Gp0C10HM0C80Gw0C10Gu0C00H30C60Hq0CF0Hr0CF0GM0C60Gs0C60GG0C60Gm0C60GG0C80Gm0C8",
    "0GL0C60Gr0C60JO0C80JP0C80GM0C80Gs0C80GN0C80Gt0C80GO0C40Gu0C40GO0C80Gu0C80GU0C80G.0C80Je0C8",
    "0Jf0C80Gj0C80HD0C80GZ0C40H30C40GZ0C80H30C80GZ0CB0H30CB0Gd0C80H70C80Gh0C80HB0C80Od0PJ0Od0PK",
    "0P80PK0Od0PL0PA0PK0RL0PK0R10PK0RI0PK0ae0ay0am0ay0ap0ay0aL0ay0aM0ay0aN0ay0aS0ay0aX0ay0aY0ay",
    "0ah0ay0al0ay0d70c.0d70dN0cX0cy0cY0cy0cl0cy0eo0ey0eu0ey0eM0ey0eN0ey0eS0ey0eh0ey0j70jM0j70i.",
    "0j70jN0iX0iy0iY0iy0kI0lN0l60k.0l70k.0l60lN0n60nM0o_0pL0p60pL0p60pM0p60p20p60p20pL0r60q.0r7",
    "0q.0r60rN0tP0tA0tP0tF0tP0tF0tA0tP0tV0z20.t0zC0.t0zH0.t0zM0.t0zR0.t0z00.r0zn0zo0zn0zq0.o0.0",
    "0.p0.00zn0.00.I0.t0.S0.t0.X0.t0.c0.t0.h0.t0.G0.r10b10k1i51ir1i71ir1i91ir1iB1ir1iD1ir1iH1ir",
    "1iw1ir1iy1ir1i.1ir1i_1ir1j21ir0110Cb01X0Cb0120C701Y0C70120CZ01Y0CZ0120Cn01Y0Cn0130Cd0C101Z",
    "0Cd0C10140C701a0C70140CZ01a0CZ0140Cn01a0Cn0140Cd01a0Cd0140Cj01a0Cj0150C40C001b0C40C00150C4",
    "0C101b0C40C10150Cj01b0Cj0150Cm01b0Cm0150Cd0C601b0Cd0C60160C701c0C70170C401d0C40180C701e0C7",
    "0180CZ01e0CZ0180C801e0C80180Cd01e0Cd0180Ck01e0Ck0190Cm01f0Cm0190C80C101f0C80C101B0C101h0C1",
    "01B0CZ01h0CZ01B0Cn01h0Cn01C0CZ01i0CZ01C0CZ0C401i0CZ0C401C0Cn01i0Cn01C0Cj01i0Cj01D0C101j0C1",
    "01D0C701j0C701D0CZ01j0CZ01E0C701k0C701E0CZ01k0CZ01E0Cn01k0Cn01E0Cj01k0Cj01F0C30C101l0C30C1",
    "01F0C30C801l0C30C801F0C40C001l0C40C001F0C40C101l0C40C101G0C101m0C101G0C701m0C701I0C701o0C7",
    "01I0CZ01o0CZ01I0CZ0C401o0CZ0C401I0Cn01o0Cn01J0C701p0C701J0CZ01p0CZ01J0C10C701p0C10C701J0CC",
    "0C701p0CC0C701J0CZ0C701p0CZ0C701K0C701q0C701K0CZ01q0CZ01K0Cn01q0Cn01K0Cj01q0Cj01L0Ca01r0Ca",
    "01L0Cm01r0Cm01L0Cj01r0Cj01L0C30C101r0C30C101L0C40C801r0C40C801M0C301s0C301M0CZ01s0CZ01N0C0",
    "01t0C001N0C101t0C101N0C801t0C801N0C701t0C701N0CZ01t0CZ01O0C701u0C701O0C801u0C801P0C701v0C7",
    "01Q0C201w0C201Q0CZ01w0CZ01Q0Cn01w0Cn01e0Cn01q0C801t0CA01v0CA05_0C70110CZ01X0CZ0110C901X0C9",
    "0110C20C101X0C20C10110C20C001X0C20C00110C20C901X0C20C90110C20C301X0C20C30110CZ0C201X0CZ0C2",
    "0110C60C101X0C60C10110C60C001X0C60C00110C60C901X0C60C90110C60C301X0C60C30110CZ0C601X0CZ0C6",
    "0150CZ01b0CZ0150C901b0C90150C301b0C30150C20C101b0C20C10150C20C001b0C20C00150C20C901b0C20C9",
    "0150C20C301b0C20C30150CZ0C201b0CZ0C20190C901f0C90190CZ01f0CZ01F0CZ01l0CZ01F0C901l0C901F0C2",
    "0C101l0C20C101F0C20C001l0C20C001F0C20C901l0C20C901F0C20C301l0C20C301F0CZ0C201l0CZ0C201F0CR",
    "0C101l0CR0C101F0CR0C001l0CR0C001F0CR0C901l0CR0C901F0CR0C301l0CR0C301F0CR0CZ01l0CR0CZ01L0CZ",
    "01r0CZ01L0C901r0C901L0CR0C101r0CR0C101L0CR0C001r0CR0C001L0CR0C901r0CR0C901L0CR0C301r0CR0C3",
    "01L0CR0CZ01r0CR0CZ01P0C001v0C001P0CZ01v0CZ01P0C901v0C901P0C301v0C30En0CJ0En0CK0En0CJ0C00En",
    "0CK0C00En0CJ0C10En0CK0C10En0CJ0D20En0CK0D20EH0CJ0EH0CK0EH0CJ0C00EH0CK0C00EH0CJ0C10EH0CK0C1",
    "0EH0CJ0D20EH0CK0D20Er0CJ0Er0CK0Er0CJ0C00Er0CK0C00Er0CJ0C10Er0CK0C10EL0CJ0EL0CK0EL0CJ0C00EL",
    "0CK0C00EL0CJ0C10EL0CK0C10Et0CJ0Et0CK0Et0CJ0C00Et0CK0C00Et0CJ0C10Et0CK0C10Et0CJ0D20Et0CK0D2",
    "0EN0CJ0EN0CK0EN0CJ0C00EN0CK0C00EN0CJ0C10EN0CK0C10EN0CJ0D20EN0CK0D20Ev0CJ0Ev0CK0Ev0CJ0C00Ev",
    "0CK0C00Ev0CJ0C10Ev0CK0C10Ev0CJ0D20Ev0CK0D20EP0CJ0EP0CK0EP0CJ0C00EP0CK0C00EP0CJ0C10EP0CK0C1",
    "0EP0CJ0D20EP0CK0D20E_0CJ0E_0CK0E_0CJ0C00E_0CK0C00E_0CJ0C10E_0CK0C10EV0CJ0EV0CK0EV0CJ0C00EV",
    "0CK0C00EV0CJ0C10EV0CK0C10F50CJ0F50CK0F50CJ0C00F50CK0C00F50CJ0C10F50CK0C10F50CJ0D20F50CK0D2",
    "0Eb0CK0Eb0CK0C00Eb0CK0C10Eb0CK0D20F90CJ0F90CK0F90CJ0C00F90CK0C00F90CJ0C10F90CK0C10F90CJ0D2",
    "0F90CK0D20Ef0CJ0Ef0CK0Ef0CJ0C00Ef0CK0C00Ef0CJ0C10Ef0CK0C10Ef0CJ0D20Ef0CK0D20En0C00En0C10Er",
    "0C00Er0C10Et0C00Et0C10Ev0C00Ev0C10E_0C00E_0C10F50C00F50C10F90C00F90C10En0CJ0D50En0CK0D50En",
    "0CJ0C00D50En0CK0C00D50En0CJ0C10D50En0CK0C10D50En0CJ0D20D50En0CK0D20D50EH0CJ0D50EH0CK0D50EH",
    "0CJ0C00D50EH0CK0C00D50EH0CJ0C10D50EH0CK0C10D50EH0CJ0D20D50EH0CK0D20D50Et0CJ0D50Et0CK0D50Et",
    "0CJ0C00D50Et0CK0C00D50Et0CJ0C10D50Et0CK0C10D50Et0CJ0D20D50Et0CK0D20D50EN0CJ0D50EN0CK0D50EN",
    "0CJ0C00D50EN0CK0C00D50EN0CJ0C10D50EN0CK0C10D50EN0CJ0D20D50EN0CK0D20D50F90CJ0D50F90CK0D50F9",
    "0CJ0C00D50F90CK0C00D50F90CJ0C10D50F90CK0C10D50F90CJ0D20D50F90CK0D20D50Ef0CJ0D50Ef0CK0D50Ef",
    "0CJ0C00D50Ef0CK0C00D50Ef0CJ0C10D50Ef0CK0C10D50Ef0CJ0D20D50Ef0CK0D20D50En0C60En0C40En0C00D5",
    "0En0D50En0C10D50En0D20En0D20D50EH0C60EH0C40EH0C00EH0C10EH0D50Ev02e0D20Et0C00D50Et0D50Et0C1",
    "0D50Et0D20Et0D20D50EL0C00EL0C10EN0C00EN0C10EN0D51._0C01._0C11._0D20Ev0C60Ev0C40Ev0C80C00Ev",
    "0C80C10Ev0D20Ev0C80D20EP0C60EP0C40EP0C00EP0C11_.0C01_.0C11_.0D20F50C60F50C40F50C80C00F50C8",
    "0C10F10CJ0F10CK0F50D20F50C80D20Eb0C60Eb0C40Eb0C00Eb0C10EX0CK02e0C002e0C101W0F90C00D50F90D5",
    "0F90C10D50F90D20F90D20D50EV0C00EV0C10Ef0C00Ef0C10Ef0D502q2022030Ef01B0110CA26G0Cu26I0Cu26K",
    "0Cu27G0Cu27K0Cu27I0Cu2830Cu2880Cu28B0Cu28Z0Cu28b0Cu28y0Cu2930Cu2950Cu2980Cu00z0Cu29X0Cu29D",
    "0Cu00y0Cu00.0Cu29a0Cu29b0Cu29o0Cu29p0Cu29s0Cu29t0Cu29w0Cu29x0Cu2A20Cu2A30Cu2A60Cu2A70Cu2AY",
    "0Cu2Ae0Cu2Af0Cu2Ah0Cu29y0Cu29z0Cu2AH0Cu2AI0Cu2Ao0Cu2Ap0Cu2Aq0Cu2Ar0Cu3083092hT0Cu31B32P31D",
    "32P31F32P31H32P31J32P31L32P31N32P31P32P31R32P31T32P31V32P31X32P31a32P31c32P31e32P31l32P31l",
    "32Q31o32P31o32Q31r32P31r32Q31u32P31u32Q31x32P31x32Q31632P32T32P32h32P32j32P32l32P32n32P32p",
    "32P32r32P32t32P32v32P32x32P32z32P32_32P33132P33432P33632P33832P33F32P33F32Q33I32P33I32Q33L",
    "32P33L32Q33O32P33O32Q33R32P33R32Q32c32P33l32P33m32P33n32P33o32P33z32P8n86Rq8xA8p86xH4uo5Fb",
    "9.S9.S5bH97H5M75b867s7Pf7.58O_8Uw8Zu92F6e26qR73P7FU8Gz95g9dn4w25Dr6i478R8Oj9uU5rG6_h8ND8ba",
    "6B987O8WV5xA6SN6rg7By93E4.656t5BU6J46hJ78G7Rd8018O68PS8tl9So9jl9tw7YC7b_7sW8F99C49v_8hM5ZV",
    "5y47nW81.79Y7ZA8p29Rt5ZO5nY6eJ6tQ6yF7ql7ut9PB5BI82B57S57C7eS7s.8Fn9Pr8k06BF6e28h.4uv5ld60I",
    "7E77Lm5CN7Zx4._5.f4uD6pC6Lu7qY5F35XU7S18H98gg6kw8.m6o86B.8Bb6EW7Lb4wk55f5796Y17pd89l8hI97F",
    "5Br5H25bp5xi6N56_.7ag9Mj9fg9wN9xE5AR6R66jt8zY5vq66G6806IQ6yZ7597I97dA7tq81l8yc8Jk90Z9DA58N",
    "5AZ5Iz7388Z28gg5x95_r6Dx6kk7m.7Dr4xa5Rv5ld5sw60S7Eo7Hf7.Q81698q9Rs9T89WO4.B7ck96q9Qu63X4w6",
    "53Q5lk5m_6MP6e277E7P28Jy91y9.D6Q89Ok5A96Tx6Vp6r16wS7G97LP7Xh7qG9XU55j68k9Pu50h5qP6tg8yg5.B",
    "6546WN7E79Q658f5GF5nb6OJ6TE6Ye6pb7G67NY7zv8ZF8ZX97C9RY5C_6ww5GT77G7IO8Nw9QZ9nN9wV6UN6tB87e",
    "7hB7iW7oI7B072P8jO4x08Cs58w5875wc6BJ7pM5k56qU6Qq8yx8XC9PD8cB5xJ5505N05XQ6Pq57U7Cg7RA7ay7bU",
    "7bb7cF9TM7o.7.z8OI8hu90u93z9Zl9Zy9ae9sq93U9Qt4.k53d55D5B95Ba5DH5MT5O65Pe5X05Ye5na5nk62K65e",
    "66E67o6LF6NY6QH6Y56rt6uQ6yY75k78h7GY7YH7a.7b97b87bG7bM7bT7cD7cE7f07g17l07tq7u97v17zo80587j",
    "89v89v8HN8aG8cM8i18iv8pJ8q88.s90u9RZ9V_9Wx61raBk88O4uc56r55e4.05555605B75Bw5MT5LL5MP5NY5XQ",
    "5Yp5b45bK5fY5ie5xI5xP5zf5.j63O65E64866E65W67o68q6F46GS6HI6LM6Pq6SN6SR6TM6jv6kw6r16xR6xB6yY",
    "70U75k7Ud78r7Al7Cg7Hn7K67Kx7OT7OV7RA7RR7Rq7TA7T07ZC7gn7l07nx7rR7tq7y.8058DI8Fl8Tv8b18c68cM",
    "8g_8hu8hB8i18h.8hj8iv8kA8q88yu91o96P99s9Py9RZ9TM9VR9V_9WB9Wx9iI9.SYXAYX4ZFL3kT40O40vb99bpG",
    "dxJ9z39.E0NP0Mq0No0Mt0Nf0N10Nf0N20Nf0My0N10Nf0My0N20NG0Mt0NG0Mu0NG0My0NH0My0NI0My0NJ0My0NK",
    "0My0NL0My0NM0My0NO0My0NP0My0NQ0My0NR0My0NS0My0NU0My0NW0My0NX0My0NZ0My0Na0My0Nc0My0Nd0My0Ne",
    "0My0Nf0My0Ng0My0NL0Mv0NH0M_0NR0M_0Na0M_GNI0C7GNQ0C7H2PH2wH2RH2wH2bH2wH4nH4dH4oH4dHD7HC.HD7",
    "HDNHE2HF9HE4HExHEBHF2HEGHF9HF2HF2HF2HEuHF2HF9HIvHIwHIvHImHIvHIzHMuHMlHMvHMlHarHamM4UM4UM4U",
    "M4fM4UM4VM4fM4VM4UM4WM4UM4UM4VM4UM4fM4VM4UM4UM4WMrdMrdMrZMrdMrZMrdMrdT5NT5bT5OT5bT5OT5bT5k",
    "T5OT5bT5lT5OT5bT5mT5OT5bT5nT5OT5bT5oT6vT5bT6wT5bT6vT5bT5kT6wT5bT5kT6vT5bT5lT6wT5bT5l4uz4uu",
    "4v1W4Y4zW4.k4.x50251w52P53d53F3IUWOw55D55K55a55tWKS3Iv55d56DWLB56N56a4xC56i56rf7V57r5833JV",
    "58x59659o59t3KL5B75B95Ba5Bw5C55C65CN5D95DH5DQ5Dp5Dz5D_5D_5D_Wei71m5FA5FVWjZ5Fh5Fn5G65IU5Gu",
    "5H85He5IY5Js5KG5LJ5LZ5M45M45MP5Mh5Mp5N25SM5O65SN5PH5Pq5875Zk5VE5Vq5WD5UB5Wo5Wn5YiXJa5Zo5Zt",
    "5a65aQ5aY5bYXQeXRg5di5eR5ed5dO5fc3Rk3Ry5i85i.5i.Xd85l35lO5ld5lpXiO5l_5m65zJ5mY3U15nW5nk5p0",
    "5oDXta5r3Xtc5rk5rh5ry5tX5tY3Wl5tz5ue5uz5vf3XYY633Xy5wm5wp5ws5xAgEI5x.YCnYCn8815yY5yY3Z7ZAu",
    "c7Q5zY5zh3ZZ5.Q5_D5_N5_v6213aw3aS62KYRK63765865C65E65C65w66E66o66a66l67U67o67s68G68R69T6An",
    "6BK6DGYiC6Cz6By6De6E36FaYln6GY6F56Ef3ek6Hf6H.6IT6Ht3fi6LF6LiZ0A6NZ6Ru6P93iP6QH3i83ha56I56L",
    "6S06QS82j4FP6SN6SR6SX6TU6TJZF33j96Vw6U56XI6Y5ZHj6YE6WV6aK3kT6b26cZ6dg6geZQZ6hR3mO6iXZYd6jK",
    "3nE6jo6kV6kw6kxZgDXqBZhw6nEZoy6o_6pD6nd6qM6q.6rt6r16rf6ru6s5ZqU6qq6ul6vk3qp6xB6x7ZxH6tv6zk",
    "ZzUZ.E6_670v70U70R3sM71A71z71t72jWKb755a9Z76SaEh78e78r79GaO87A07ALaSraWK7Dw7EB3wi7Eb3wu3wu",
    "7H77HS7Hn7I57JA3yR7Kaams7K.aoI7LmY6V7OGa.Xa.ub143_y4087Rqb3pb3ob4Pb4p7SU7SV7SV7TA40v7UB416",
    "42MbGT7XE7YC7ZC43ZbOc7bMbQQbR57cF7dh44l7f07fA7fFbbybgdbgd7hk482bkh7l67l948dbo07pI4AW7pe7pZ",
    "7q0b.67rZ4C17t77u27v54Cqc8ec974DPcBP7zwcC.7.L7_w805cJQcKZ81WcMe81mZDV4FL82o8434GB84.5grcUd",
    "cUrZEJZES8818848.U4Hh8AH8AB8AT5Ap8An8Ap8Az8Bcciy8Bb8CT8DZ8Ej8CZ8Ez8Fd8HN8DJ8FA8FC8FScmscrh",
    "cpL4Kh8Jn8Jp8KMdFA8Lacyi4LT4LXc.nd3I4Lh8PG8PS8Pd8Pf8Qf8Q88SE8RY8Tv8Se8Th8U64NN8VX8W14Nv8XW",
    "8XZdPd8ZN8ZU4Or8Zw3IxdYkdbc4Q.4R78gW8hj8kA8nLdoe8oh8p18qR8rtdylWW48tB8sy8tmWZU8xK8yueNIeNj",
    "92K93n94HeSk94R98u9BN9BO99y9Fv9GLelw9MB4cL9Mtert4dc9R35so9SZf55f8Q4fk4fs9VWfGA4gofIM9WB9WB",
    "9WffMs9ZY4ip9af9cd9d29d.4lEfim9iI9n09pz4pE4pj9rdg3E4pug45g8EgAH9wx4rM9xv9x.9y59yF9yM9yxgO0"]

/-- For each pair that composes, its first times 2^36, plus its second times 2^18, plus what they become. -/
def compositionEntries : Array Nat := Packed.unpack 9
  ["00y0Cu29k00z0Cu29W00.0Cu29l0110C00300110C10310110C20320110C30330110C40400110C60420110C708c",
    "0110C80340110C91wY0110CA0350110CC07D0110CF0800110CH0820110CZ1wW0110Cb1u00110Ce0440120C71u2",
    "0120CZ1u40120Cn1u60130C10460130C20480130C704A0130CC04C0130Cd0370140C71uA0140CC04E0140CZ1uC",
    "0140Cd1uG0140Cj1uI0140Cn1uE0150C00380150C10390150C203A0150C31wy0150C404I0150C604K0150C704M",
    "0150C803B0150C91ww0150CC04Q0150CF0840150CH0860150CZ1wu0150Cd08e0150Ce04O0150Cj1uO0150Cm1uQ",
    "0160C71uU0170C107q0170C204S0170C41uW0170C604U0170C704W0170CC07c0170Cd04Y0180C204a0180C71uY",
    "0180C81uc0180CC08U0180CZ1ua0180Cd1ue0180Ck1ug0190C003C0190C103D0190C203E0190C304e0190C404g",
    "0190C604i0190C704m0190C803F0190C91x80190CC07F0190CF0880190CH08A0190CZ1xA0190Ce04k0190Cm1ui",
    "01A0C204q01B0C11um01B0CC07e01B0CZ1uo01B0Cd04s01B0Cn1uq01C0C104v01C0CC04z01C0CZ1us01C0Cd04x",
    "01C0Cj1uy01C0Cn1uw01D0C11u.01D0C71v001D0CZ1v201E0C007u01E0C105301E0C303H01E0C71v401E0CC057",
    "01E0CZ1v601E0Cd05501E0Cj1vA01E0Cn1v801F0C003I01F0C103J01F0C203K01F0C303L01F0C405C01F0C605E",
    "01F0C708k01F0C803M01F0C91xE01F0CB05G01F0CC07H01F0CF08C01F0CH08E01F0CR06W01F0CZ1xC01F0Ce07g",
    "01G0C11vK01G0C71vM01I0C105K01I0C71vO01I0CC05O01I0CF08G01I0CH08I01I0CZ1vQ01I0Cd05M01I0Cn1vU",
    "01J0C105Q01J0C205S01J0C71vW01J0CC05W01J0CZ1vY01J0Cc08O01J0Cd05U01K0C71vg01K0CC05a01K0CZ1vi",
    "01K0Cc08Q01K0Cd05Y01K0Cj1vm01K0Cn1vk01L0C003P01L0C103Q01L0C203R01L0C305e01L0C405g01L0C605i",
    "01L0C803S01L0C91xc01L0CA05k01L0CB05m01L0CC07J01L0CF08K01L0CH08M01L0CR06l01L0CZ1xa01L0Ca1vo",
    "01L0Ce05o01L0Cj1vs01L0Cm1vq01M0C31vy01M0CZ1v.01N0C01w001N0C11w201N0C205q01N0C71w601N0C81w4",
    "01N0CZ1w801O0C71wA01O0C81wC01P0C01xo01P0C103T01P0C205s01P0C31xu01P0C408o01P0C71wE01P0C805u",
    "01P0C91xs01P0CZ1xq01Q0C105v01Q0C21wG01Q0C705x01Q0CC05z01Q0CZ1wI01Q0Cn1wK01X0C003W01X0C103X",
    "01X0C203Y01X0C303Z01X0C404101X0C604301X0C708d01X0C803a01X0C91wZ01X0CA03b01X0CC07E01X0CF081",
    "01X0CH08301X0CZ1wX01X0Cb1u101X0Ce04501Y0C71u301Y0CZ1u501Y0Cn1u701Z0C104701Z0C204901Z0C704B",
    "01Z0CC04D01Z0Cd03d01a0C71uB01a0CC04F01a0CZ1uD01a0Cd1uH01a0Cj1uJ01a0Cn1uF01b0C003e01b0C103f",
    "01b0C203g01b0C31wz01b0C404J01b0C604L01b0C704N01b0C803h01b0C91wx01b0CC04R01b0CF08501b0CH087",
    "01b0CZ1wv01b0Cd08f01b0Ce04P01b0Cj1uP01b0Cm1uR01c0C71uV01d0C107r01d0C204T01d0C41uX01d0C604V",
    "01d0C704X01d0CC07d01d0Cd04Z01e0C204b01e0C71uZ01e0C81ud01e0CC08V01e0CZ1ub01e0Cd1uf01e0Ck1uh",
    "01e0Cn1wM01f0C003i01f0C103j01f0C203k01f0C304f01f0C404h01f0C604j01f0C803l01f0C91x901f0CC07G",
    "01f0CF08901f0CH08B01f0CZ1xB01f0Ce04l01f0Cm1uj01g0C204r01g0CC07m01h0C11un01h0CC07f01h0CZ1up",
    "01h0Cd04t01h0Cn1ur01i0C104w01i0CC04.01i0CZ1ut01i0Cd04y01i0Cj1uz01i0Cn1ux01j0C11u_01j0C71v1",
    "01j0CZ1v301k0C007v01k0C105401k0C303n01k0C71v501k0CC05801k0CZ1v701k0Cd05601k0Cj1vB01k0Cn1v9",
    "01l0C003o01l0C103p01l0C203q01l0C303r01l0C405D01l0C605F01l0C708l01l0C803s01l0C91xF01l0CB05H",
    "01l0CC07I01l0CF08D01l0CH08F01l0CR06X01l0CZ1xD01l0Ce07h01m0C11vL01m0C71vN01o0C105L01o0C71vP",
    "01o0CC05P01o0CF08H01o0CH08J01o0CZ1vR01o0Cd05N01o0Cn1vV01p0C105R01p0C205T01p0C71vX01p0CC05X",
    "01p0CZ1vZ01p0Cc08P01p0Cd05V01q0C71vh01q0C81wN01q0CC05b01q0CZ1vj01q0Cc08R01q0Cd05Z01q0Cj1vn",
    "01q0Cn1vl01r0C003v01r0C103w01r0C203x01r0C305f01r0C405h01r0C605j01r0C803y01r0C91xd01r0CA05l",
    "01r0CB05n01r0CC07K01r0CF08L01r0CH08N01r0CR06m01r0CZ1xb01r0Ca1vp01r0Ce05p01r0Cj1vt01r0Cm1vr",
    "01s0C31vz01s0CZ1v_01t0C01w101t0C11w301t0C205r01t0C71w701t0C81w501t0CA1wO01t0CZ1w901u0C71wB",
    "01u0C81wD01v0C01xp01v0C103z01v0C205t01v0C31xv01v0C408p01v0C71wF01v0C803_01v0C91xt01v0CA1wP",
    "01v0CZ1xr01w0C105w01w0C21wH01w0C705y01w0CC05.01w0CZ1wJ01w0Cn1wL02e0C01_j02e0C10E502e0D21_1",
    "0320C01wc0320C11wa0320C31wg0320C91we0340C407U0350C107w0360C107y0360C407Y0370C11u803A0C01x0",
    "03A0C11w.03A0C31x403A0C91x203F0C11uk03K0C01xI03K0C11xG03K0C31xM03K0C91xK03L0C11vC03L0C408i",
    "03L0C81vE03M0C408g03O0C107.03S0C007R03S0C107N03S0C407L03S0CC07P03Y0C01wd03Y0C11wb03Y0C31wh",
    "03Y0C91wf03a0C407V03b0C107x03c0C107z03c0C407Z03d0C11u903g0C01x103g0C11w_03g0C31x503g0C91x3",
    "03l0C11ul03q0C01xJ03q0C11xH03q0C31xN03q0C91xL03r0C11vD03r0C408j03r0C81vF03s0C408h03u0C107_",
    "03y0C007S03y0C107O03y0C407M03y0CC07Q0420C01wm0420C11wk0420C31wq0420C91wo0430C01wn0430C11wl",
    "0430C31wr0430C91wp04I0C01uK04I0C11uM04J0C01uL04J0C11uN05C0C01vG05C0C11vI05D0C01vH05D0C11vJ",
    "05Q0C71va05R0C71vb05W0C71vc05X0C71vd05e0C11vu05f0C11vv05g0C81vw05h0C81vx05_0C71wR06W0C01xS",
    "06W0C11xQ06W0C31xW06W0C91xU06W0CZ1xY06X0C01xT06X0C11xR06X0C31xX06X0C91xV06X0CZ1xZ06l0C01xg",
    "06l0C11xe06l0C31xk06l0C91xi06l0CZ1xm06m0C01xh06m0C11xf06m0C31xl06m0C91xj06m0CZ1xn06t0CC07k",
    "07g0C407i07h0C407j08c0C407W08d0C407X08e0C61uS08f0C61uT08k0C408m08l0C408n0AI0CC07l0EH0C01.w",
    "0EH0C10E60EH0C41.v0EH0C61.u0EH0CJ1y80EH0CK1y90EH0D51.y0EL0C01_80EL0C10E80EL0CJ1yO0EL0CK1yP",
    "0EN0C01_A0EN0C10E90EN0CJ1ye0EN0CK1yf0EN0D51_C0EP0C01_Q0EP0C10EA0EP0C41_P0EP0C61_O0EP0C80Eg",
    "0EP0CJ1yu0EP0CK1yv0EV0C01_u0EV0C10EC0EV0CJ1z80EV0CK1z90EX0CK1_i0Eb0C01_g0Eb0C10EE0Eb0C41_f",
    "0Eb0C61_e0Eb0C80Eh0Eb0CK1zP0Ef0C01_w0Ef0C10EF0Ef0CJ1ze0Ef0CK1zf0Ef0D51_y0Ei0D51.q0Ek0D51_4",
    "0En0C01zm0En0C10Ei0En0C41.n0En0C61.m0En0CJ1y00En0CK1y10En0D21.s0En0D51.p0Er0C01zo0Er0C10Ej",
    "0Er0CJ1yG0Er0CK1yH0Et0C01zq0Et0C10Ek0Et0CJ1yW0Et0CK1yX0Et0D21_60Et0D51_30Ev0C01zs0Ev0C10El",
    "0Ev0C41_H0Ev0C61_G0Ev0C80FA0Ev0CJ1ym0Ev0CK1yn0Ev0D21_M0E_0C01zu0E_0C10FC0E_0CJ1z00E_0CK1z1",
    "0F10CJ1_a0F10CK1_b0F50C01zw0F50C10FD0F50C41_X0F50C61_W0F50C80FB0F50CJ1zG0F50CK1zH0F50D21_c",
    "0F90C01zy0F90C10FE0F90CJ1zW0F90CK1zX0F90D21_s0F90D51_p0FA0C01_I0FA0C10EG0FA0D21_N0FB0C01_Y",
    "0FB0C10Em0FB0D21_d0FE0D51_q0FI0C10FJ0FI0C80FK0G60C80G70GG0C60JG0GG0C80JI0GJ0C10G30GL0C00G0",
    "0GL0C60JM0GL0C80G10GM0C60J10GM0C80JS0GN0C80JU0GO0C00GD0GO0C40JY0GO0C60GP0GO0C80Ja0GQ0C10GC",
    "0GU0C80Jc0GZ0C40Jk0GZ0C60GE0GZ0C80Jm0GZ0CB0Jo0Gd0C80Jq0Gh0C80Ju0Gj0C80Ji0Gm0C60JH0Gm0C80JJ",
    "0Gp0C10HJ0Gr0C00HG0Gr0C60JN0Gr0C80HH0Gs0C60J20Gs0C80JT0Gt0C80JV0Gu0C00HT0Gu0C40JZ0Gu0C60Gv",
    "0Gu0C80Jb0Gw0C10HS0G.0C80Jd0H30C40Jl0H30C60HU0H30C80Jn0H30CB0Jp0H70C80Jr0HB0C80Jv0HD0C80Jj",
    "0HM0C80HN0Hq0CF0Hs0Hr0CF0Ht0JO0C80JQ0JP0C80JR0Je0C80Jg0Jf0C80Jh0Od0PJ0OY0Od0PK0OZ0Od0PL0Ob",
    "0P80PK0Oa0PA0PK0Oc0R10PK0R20RI0PK0RJ0RL0PK0R00ae0ay0af0am0ay0an0ap0ay0aq0d70c.0dB0d70dN0dC",
    "0j70i.0jB0j70jM0j80j70jN0jC0kI0lN0kK0l60k.0lA0l60lN0lC0l70k.0lB0n60nM0n80o_0pL0p00p60p20pA",
    "0p60pL0p70p60pM0p80pA0pL0pB0r60q.0rA0r60rN0rC0r70q.0rB0tP0tA0tQ0tP0tF0tS0tP0tV0tU0tS0tA0tT",
    "10b10k10c1i51ir1i61i71ir1i81i91ir1iA1iB1ir1iC1iD1ir1iE1iH1ir1iI1iw1ir1ix1iy1ir1iz1i.1ir1j0",
    "1i_1ir1j11j21ir1j31us0C41uu1ut0C41uv1vQ0C41vS1vR0C41vT1vY0C71ve1vZ0C71vf1wW0C21wi1wW0C61ws",
    "1wX0C21wj1wX0C61wt1wu0C21x61wv0C21x71xC0C21xO1xD0C21xP1y00C01y21y00C11y41y00D21y61y00D51.0",
    "1y10C01y31y10C11y51y10D21y71y10D51.11y20D51.21y30D51.31y40D51.41y50D51.51y60D51.61y70D51.7",
    "1y80C01yA1y80C11yC1y80D21yE1y80D51.81y90C01yB1y90C11yD1y90D21yF1y90D51.91yA0D51.A1yB0D51.B",
    "1yC0D51.C1yD0D51.D1yE0D51.E1yF0D51.F1yG0C01yI1yG0C11yK1yH0C01yJ1yH0C11yL1yO0C01yQ1yO0C11yS",
    "1yP0C01yR1yP0C11yT1yW0C01yY1yW0C11ya1yW0D21yc1yW0D51.G1yX0C01yZ1yX0C11yb1yX0D21yd1yX0D51.H",
    "1yY0D51.I1yZ0D51.J1ya0D51.K1yb0D51.L1yc0D51.M1yd0D51.N1ye0C01yg1ye0C11yi1ye0D21yk1ye0D51.O",
    "1yf0C01yh1yf0C11yj1yf0D21yl1yf0D51.P1yg0D51.Q1yh0D51.R1yi0D51.S1yj0D51.T1yk0D51.U1yl0D51.V",
    "1ym0C01yo1ym0C11yq1ym0D21ys1yn0C01yp1yn0C11yr1yn0D21yt1yu0C01yw1yu0C11yy1yu0D21y.1yv0C01yx",
    "1yv0C11yz1yv0D21y_1z00C01z21z00C11z41z10C01z31z10C11z51z80C01zA1z80C11zC1z90C01zB1z90C11zD",
    "1zG0C01zI1zG0C11zK1zG0D21zM1zH0C01zJ1zH0C11zL1zH0D21zN1zP0C01zR1zP0C11zT1zP0D21zV1zW0C01zY",
    "1zW0C11za1zW0D21zc1zW0D51.W1zX0C01zZ1zX0C11zb1zX0D21zd1zX0D51.X1zY0D51.Y1zZ0D51.Z1za0D51.a",
    "1zb0D51.b1zc0D51.c1zd0D51.d1ze0C01zg1ze0C11zi1ze0D21zk1ze0D51.e1zf0C01zh1zf0C11zj1zf0D21zl",
    "1zf0D51.f1zg0D51.g1zh0D51.h1zi0D51.i1zj0D51.j1zk0D51.k1zl0D51.l1zm0D51.o1zq0D51_21zy0D51_o",
    "1.s0D51.t1._0C01_D1._0C11_E1._0D21_F1_60D51_71_s0D51_t1_.0C01_T1_.0C11_U1_.0D21_V26G0Cu26Q",
    "26I0Cu26R26K0Cu26k27G0Cu27D27I0Cu27F27K0Cu27E2830Cu2842880Cu28928B0Cu28C28Z0Cu28a28b0Cu28c",
    "28y0Cu2912930Cu2942950Cu2972980Cu29929D0Cu29j29X0Cu29Y29a0Cu29m29b0Cu29n29o0Cu29q29p0Cu29r",
    "29s0Cu29u29t0Cu29v29w0Cu2A029x0Cu2A129y0Cu2BW29z0Cu2BX2A20Cu2A42A30Cu2A52A60Cu2A82A70Cu2A9",
    "2AH0Cu2BY2AI0Cu2BZ2AY0Cu2Ai2Ae0Cu2Aj2Af0Cu2Ak2Ah0Cu2Al2Ao0Cu2Bg2Ap0Cu2Bh2Aq0Cu2Bi2Ar0Cu2Bj",
    "31632P32K31B32P31C31D32P31E31F32P31G31H32P31I31J32P31K31L32P31M31N32P31O31P32P31Q31R32P31S",
    "31T32P31U31V32P31W31X32P31Y31a32P31b31c32P31d31e32P31f31l32P31m31l32Q31n31o32P31p31o32Q31q",
    "31r32P31s31r32Q31t31u32P31v31u32Q31w31x32P31y31x32Q31z32T32P32U32c32P33q32h32P32i32j32P32k",
    "32l32P32m32n32P32o32p32P32q32r32P32s32t32P32u32v32P32w32x32P32y32z32P32.32_32P33033132P332",
    "33432P33533632P33733832P33933F32P33G33F32Q33H33I32P33J33I32Q33K33L32P33M33L32Q33N33O32P33P",
    "33O32Q33Q33R32P33S33R32Q33T33l32P33t33m32P33u33n32P33v33o32P33w33z32P33.GNI0C7GN9GNQ0C7GNa",
    "H2PH2wH2QH2RH2wH2SH2bH2wH2hH4nH4dH4kH4oH4dH4lHD7HC.HDBHD7HDNHDCHE2HF9HE3HE4HExHE5HEBHF2HEE",
    "HEGHF9HEHHF2HEuHF7HF2HF2HF5HF2HF9HF8HIvHImHIyHIvHIwHIxHIvHIzHI.HMuHMlHMwHMvHMlHMxHarHamHau",
    "M4UM4UM4XM4UM4VM4ZM4UM4WM4bM4UM4fM4YM4XM4VM4cM4XM4WM4eM4YM4VM4dM4fM4VM4aMrZMrdMrfMrdMrdMre",
    "MrfMrdMrg"]

end ResidencePortal.Unicode
