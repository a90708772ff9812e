import ResidencePortal.Text.Packed

/-!
# The characters of the Korean code set

The double-byte cells of the unified Hangul code, 190 to a lead byte.
-/

namespace ResidencePortal.Charset

open Text

/-- The double-byte cells, by lead and trail byte. -/
def koreanCells : Array Nat := Packed.unpack 3
  ["Am2Am3Am5Am6AmBAmCAmDAmEAmFAmOAmUAmVAmXAmYAmZAmbAmcAmdAmeAmfAmgAmhAmkAmoAmpAmq000000000000",
    "000000AmrAmsAmtAmwAmxAmzAm.Am_An1An2An3An4An5An6An7An8An9AnAAnCAnEAnFAnGAnHAnIAnJAnL000000",
    "000000000000AnMAnNAnPAnQAnRAnTAnUAnVAnWAnXAnYAnZAnaAnbAncAndAneAnfAngAnhAniAnjAnkAnlAnoAnp",
    "AnrAnsAnvAnxAnyAnzAn.An_Ao2Ao7Ao8AoDAoEAoFAoHAoIAoJAoLAoMAoNAoOAoPAoQAoRAoUAoYAoZAoaAobAoc",
    "AodAohAojAokAonAooAopAoqAorAosAotAowAo.Ao_Ap0Ap2Ap3Ap5Ap6Ap7Ap9ApAApBApDApEApFApGApHApIApJ",
    "ApKApMApOApPApQApRApSApTApUApVApYApZApbApcApfAphApjApkApoApqAptApuApvApwApxAp.Ap_Aq1Aq2Aq3",
    "Aq5Aq7Aq8Aq9AqAAqBAqEAqGAqIAqJAqKAqLAqMAqNAqPAqQAqRAqTAqUAqVAqXAqYAqZAqaAqbAqcAqdAqeAqgAqh",
    "AqkAqlAqmAqnAqoAqp000000000000000000AqsAqtAqvAqwAqxAqzAq.Aq_Ar0Ar1Ar2Ar3Ar6Ar8ArAArBArCArD",
    "ArEArFArHArIArJArLArMArN000000000000000000ArPArQArRArSArTArUArVArWArYAraArbArcArdAreArfArg",
    "ArhArkArlArnAroArtAruArvArwAr.As0As3As4As5As6As7AsAAsBAsDAsEAsFAsHAsIAsJAsKAsLAsMAsNAsOAsP",
    "AsQAsRAsUAsVAsWAsXAsYAsZAsbAscAsdAseAsfAsgAshAsiAsjAskAslAsmAsnAsoAspAsqAsrAssAsuAsvAswAsx",
    "AsyAszAs.As_At2At3At5At6At7At9AtAAtBAtCAtDAtEAtFAtIAtKAtLAtMAtNAtOAtPAtQAtRAtTAtUAtVAtXAtY",
    "AtZAtbAtcAtdAteAtfAtgAthAtiAtjAtkAtlAtmAtnAtoAtpAtqAtrAtsAttAtwAtxAtzAt.Au2Au3Au4Au5Au6Au7",
    "AuAAuCAuEAuFAuGAuHAuIAuJAuLAuMAuNAuOAuPAuQAuRAuS000000000000000000AuTAuUAuVAuWAuXAuYAuZAua",
    "AubAucAudAueAufAugAuhAuiAujAukAulAuoAupAurAusAuvAuxAuy000000000000000000AuzAu.Au_Av2Av4Av7",
    "Av8Av9AvBAvFAvHAvIAvJAvLAvNAvOAvPAvQAvRAvUAvYAvZAvaAvcAvdAvgAvhAvjAvkAvlAvnAvoAvpAvqAvrAvs",
    "AvtAvwAv.Av_Aw0Aw1Aw2Aw3Aw6Aw7Aw8Aw9AwAAwBAwDAwEAwFAwGAwHAwIAwJAwKAwLAwMAwNAwOAwPAwQAwRAwS",
    "AwTAwUAwVAwWAwXAwYAwZAwaAwbAwcAwdAweAwfAwgAwhAwiAwjAwkAwlAwmAwnAwoAwpAwqAwrAwsAwtAwuAwvAww",
    "AwxAw_Ax1Ax2Ax3Ax5Ax6Ax7Ax8Ax9AxAAxBAxEAxIAxJAxKAxLAxMAxNAxQAxRAxTAxUAxVAxWAxXAxYAxZAxaAxb",
    "AxcAxdAxfAxgAxiAxkAxlAxmAxnAxoAxpAxrAxsAxtAxvAxwAxxAxzAx.Ax_Ay0Ay1Ay2Ay3Ay4Ay5000000000000",
    "000000Ay6Ay9AyAAyBAyCAyEAyFAyHAyIAyJAyKAyLAyMAyNAyOAyPAyQAyRAySAyTAyUAyVAyWAyXAyYAyZ000000",
    "000000000000AyaAybAycAydAyeAyfAygAyhAykAylAynAypAyrAysAytAyuAyvAywAyxAy.Az0Az4Az5Az6Az7AzA",
    "AzBAzCAzDAzEAzFAzHAzIAzJAzKAzLAzMAzNAzOAzPAzQAzRAzUAzVAzWAzXAzYAzZAzcAzdAzeAzfAzgAzhAziAzj",
    "AzkAzlAzmAznAzoAzpAzqAzrAzsAztAzuAzwAzxAzyAzzAz.Az_A.1A.2A.3A.5A.6A.7A.9A.AA.BA.CA.DA.EA.F",
    "A.IA.JA.KA.MA.NA.OA.PA.QA.RA.TA.UA.VA.WA.XA.YA.ZA.aA.bA.cA.dA.eA.fA.gA.hA.iA.jA.kA.lA.mA.n",
    "A.oA.pA.qA.rA.sA.tA.wA.xA.zA..A._A_1A_2A_3A_4A_5A_6A_AA_CA_FA_GA_HA_IA_JA_LA_MA_NA_OA_PA_Q",
    "A_RA_TA_UA_VA_WA_X000000000000000000A_YA_ZA_aA_bA_cA_dA_gA_hA_iA_jA_kA_lA_oA_pA_rA_sA_tA_v",
    "A_wA_xA_yA_zA_.A__B02B03000000000000000000B05B06B07B08B09B0AB0BB0DB0EB0FB0HB0IB0JB0LB0MB0N",
    "B0OB0PB0QB0RB0UB0VB0WB0XB0YB0ZB0aB0bB0cB0dB0fB0gB0hB0iB0jB0kB0lB0mB0nB0oB0pB0qB0rB0sB0tB0u",
    "B0vB0wB0xB0yB0zB0.B0_B10B11B12B13B16B17B19B1BB1DB1FB1GB1HB1IB1MB1OB1QB1RB1SB1UB1VB1WB1XB1Y",
    "B1ZB1aB1bB1cB1dB1eB1fB1gB1hB1iB1jB1kB1lB1mB1nB1oB1pB1qB1rB1sB1tB1uB1vB1wB1xB1.B1_B21B22B23",
    "B25B26B27B28B29B2AB2BB2EB2GB2IB2JB2KB2LB2MB2NB2RB2TB2UB2ZB2aB2bB2cB2dB2gB2mB2oB2sB2tB2vB2w",
    "B2xB2zB2.B2_B30B31B32B33B36B3AB3BB3CB3DB3EB3FB3I000000000000000000B3JB3LB3MB3NB3PB3QB3RB3S",
    "B3TB3UB3VB3XB3YB3ZB3aB3cB3dB3eB3fB3gB3hB3iB3jB3kB3lB3m000000000000000000B3nB3oB3pB3qB3rB3s",
    "B3tB3uB3vB3wB3xB3yB3zB3.B3_B40B41B42B43B44B45B46B47B4AB4DB4EB4FB4HB4KB4LB4MB4NB4QB4UB4VB4W",
    "B4XB4YB4cB4dB4fB4gB4hB4jB4kB4lB4mB4nB4oB4pB4sB4wB4xB4yB4zB4.B4_B52B53B55B56B57B59B5AB5BB5C",
    "B5DB5EB5FB5IB5JB5MB5NB5PB5QB5RB5TB5UB5VB5XB5YB5ZB5aB5bB5cB5dB5eB5fB5gB5hB5iB5jB5kB5lB5mB5n",
    "B5oB5pB5qB5rB5sB5tB5wB5xB5zB5.B5_B61B63B64B65B66B67B6AB6CB6EB6FB6GB6HB6LB6MB6NB6PB6QB6RB6T",
    "B6UB6VB6WB6XB6YB6ZB6aB6bB6cB6dB6fB6gB6hB6iB6jB6kB6lB6mB6nB6oB6pB6qB6rB6sB6tB6u000000000000",
    "000000B6vB6wB6xB6yB6zB6.B6_B70B71B72B73B74B75B76B77B78B79B7AB7BB7DB7EB7FB7HB7IB7JB7L000000",
    "000000000000B7MB7NB7OB7PB7QB7RB7UB7WB7XB7YB7ZB7aB7bB7cB7dB7gB7hB7jB7kB7lB7nB7oB7pB7qB7rB7s",
    "B7tB7uB7wB7yB7.B7_B80B81B82B83B86B87B89B8AB8DB8EB8FB8GB8HB8IB8JB8MB8OB8QB8RB8SB8TB8UB8VB8X",
    "B8YB8ZB8aB8bB8cB8dB8eB8fB8gB8hB8iB8jB8kB8lB8mB8nB8oB8pB8rB8sB8tB8uB8vB8wB8xB8zB8.B8_B90B91",
    "B92B93B94B95B96B97B98B99B9AB9BB9CB9DB9EB9FB9GB9HB9IB9JB9KB9LB9MB9NB9PB9QB9RB9TB9UB9VB9XB9Y",
    "B9ZB9aB9bB9cB9dB9gB9hB9iB9jB9kB9lB9mB9nB9oB9pB9sB9tB9uB9vB9wB9xB9zB9.B9_BA0BA1BA2BA3BA6BA7",
    "BA8BAABABBACBADBAE000000000000000000BAFBAIBAJBALBAMBANBARBASBATBAUBAVBAYBAaBAdBAeBAfBAhBAj",
    "BAkBAlBAnBAoBApBArBAsBAt000000000000000000BAuBAvBAwBAxBAyBAzBA.BA_BB0BB1BB2BB3BB4BB5BB6BB7",
    "BBABBBBBDBBEBBFBBHBBJBBKBBLBBMBBNBBQBBSBBUBBVBBWBBXBBZBBdBBfBBgBBmBBnBBoBBsBByBBzBB.BC2BC3",
    "BC5BC6BC7BC9BCABCBBCCBCDBCEBCFBCIBCMBCNBCOBCPBCQBCRBCTBCUBCVBCWBCXBCYBCZBCaBCbBCcBCdBCeBCf",
    "BCgBChBCiBCjBCkBClBCmBCnBCoBCpBCqBCrBCsBCtBCuBCvBCwBCxBCyBCzBC.BC_BD0BD1BD2BD3BD4BD5BD6BD7",
    "BD8BD9BDABDBBDCBDDBDEBDFBDGBDHBDIBDJBDNBDPBDQBDTBDWBDXBDYBDZBDcBDeBDgBDiBDjBDlBDoBDpBDrBDs",
    "BDtBDvBDwBDxBDyBDzBD.BD_BE2BE6BE7BE8BE9BEABEBBED000000000000000000BEEBEFBEHBEIBEJBELBEMBEN",
    "BEOBEPBEQBERBESBETBEUBEVBEYBEZBEaBEbBEcBEdBEfBEgBEhBEj000000000000000000BEkBElBEmBEnBEoBEp",
    "BEqBErBEsBEtBEuBEvBEwBExBEyBEzBE.BE_BF0BF1BF2BF3BF6BF7BF9BFABFDBFFBFHBFIBFJBFMBFOBFQBFSBFU",
    "BFVBFXBFYBFZBFbBFcBFdBFfBFgBFhBFiBFjBFkBFlBFmBFnBFoBFpBFqBFrBFsBFtBFuBFvBFwBFxBFzBF.BF_BG0",
    "BG1BG2BG3BG4BG5BG6BG7BG8BG9BGABGBBGCBGDBGEBGFBGHBGIBGJBGKBGLBGMBGNBGPBGQBGRBGTBGUBGVBGXBGY",
    "BGZBGaBGbBGcBGdBGgBGiBGjBGkBGlBGmBGnBGoBGpBGrBGsBGtBGuBGvBGwBGxBGyBGzBG.BG_BH0BH1BH2BH3BH4",
    "BH5BH6BH7BH8BH9BHABHBBHCBHDBHEBHFBHIBHJBHLBHMBHNBHPBHQBHRBHSBHTBHUBHVBHYBHaBHc000000000000",
    "000000BHdBHeBHfBHgBHhBHjBHkBHlBHmBHnBHoBHpBHqBHrBHsBHtBHuBHvBHwBHxBHyBHzBH.BH_BI1BI2000000",
    "000000000000BI3BI4BI5BI6BI7BI9BIABIBBICBIDBIEBIFBIGBIHBIIBIJBIKBILBIMBINBIOBIPBIQBIRBISBIU",
    "BIVBIWBIXBIYBIZBIbBIcBIdBIfBIgBIhBIjBIkBIlBImBInBIoBIpBIqBIsBIuBIwBIxBIyBIzBI.BI_BJ1BJ2BJ3",
    "BJ5BJ6BJ7BJ9BJABJBBJCBJDBJEBJFBJHBJIBJJBJKBJMBJNBJOBJPBJQBJRBJUBJVBJXBJYBJbBJdBJeBJfBJgBJh",
    "BJkBJmBJoBJpBJqBJrBJsBJtBJvBJwBJxBJyBJzBJ.BJ_BK0BK1BK2BK3BK4BK5BK6BK7BK8BK9BKABKBBKCBKDBKE",
    "BKFBKGBKHBKIBKJBKMBKNBKPBKQBKTBKUBKVBKWBKXBKYBKZBKcBKhBKiBKjBKkBKlBKoBKpBKrBKsBKtBKvBKwBKx",
    "BKyBKzBK.BK_BL2BL6000000000000000000BL7BL8BL9BLABLEBLFBLHBLIBLJBLLBLMBLNBLOBLPBLQBLRBLUBLY",
    "BLZBLaBLbBLcBLdBLeBLfBLg000000000000000000BLhBLiBLjBLkBLlBLmBLnBLoBLpBLqBLrBLsBLtBLuBLvBLw",
    "BLxBLyBLzBL.BL_BM0BM1BM2BM3BM4BM5BM6BM7BM8BM9BMABMBBMCBMDBMEBMFBMGBMHBMIBMJBMKBMLBMMBMNBMO",
    "BMPBMQBMRBMSBMTBMUBMVBMYBMZBMbBMcBMdBMfBMiBMjBMkBMlBMoBMsBMtBMuBMvBMwBM.BM_BN1BN2BN3BN5BN6",
    "BN7BN8BN9BNABNBBNEBNIBNJBNKBNLBNMBNNBNPBNQBNRBNSBNTBNUBNVBNWBNXBNYBNZBNaBNbBNcBNdBNeBNfBNg",
    "BNhBNjBNkBNlBNmBNnBNoBNpBNqBNrBNsBNtBNuBNvBNwBNxBNyBNzBN.BN_BO0BO1BO2BO3BO4BO5BO6BO7BO8BO9",
    "BOABOBBOCBODBOEBOFBOIBOJBOLBOMBONBOPBOQBORBOSBOT000000000000000000BOUBOVBOWBOXBOYBOZBOaBOc",
    "BOdBOeBOfBOgBOhBOjBOkBOlBOmBOnBOoBOpBOrBOsBOtBOuBOvBOw000000000000000000BOxBOyBOzBO.BO_BP0",
    "BP1BP2BP3BP4BP5BP6BP7BP9BPABPBBPCBPDBPEBPFBPGBPHBPIBPJBPKBPLBPMBPNBPOBPPBPQBPRBPSBPTBPUBPV",
    "BPWBPXBPYBPZBPbBPcBPdBPfBPgBPhBPiBPjBPkBPlBPmBPnBPoBPpBPqBPrBPsBPtBPuBPvBPwBPxBPyBPzBP.BP_",
    "BQ0BQ1BQ2BQ3BQ4BQ5BQ6BQ7BQ8BQ9BQABQBBQCBQDBQEBQFBQGBQHBQIBQJBQKBQLBQMBQNBQOBQPBQQBQRBQUBQV",
    "BQXBQYBQZBQbBQcBQdBQeBQfBQgBQjBQkBQlBQmBQoBQpBQqBQrBQsBQtBQuBQvBQwBQxBQyBQzBQ.BQ_BR0BR1BR2",
    "BR3BR4BR5BR6BR7BR8BR9BRABRBBRCBRDBREBRFBRGBRHBRIBRJBRLBRMBRNBROBRPBRQBRRBRSBRT000000000000",
    "000000BRUBRVBRWBRXBRYBRZBRaBRbBRcBRdBReBRfBRgBRhBRiBRjBRkBRlBRnBRoBRpBRrBRsBRtBRvBRw000000",
    "000000000000BRxBRyBRzBR.BR_BS2BS3BS4BS6BS7BS8BS9BSABSBBSCBSDBSEBSFBSGBSHBSIBSJBSKBSLBSMBSN",
    "BSOBSPBSQBSRBSSBSTBSUBSVBSWBSXBSYBSZBSaBSbBScBSdBSgBShBSjBSkBSnBSoBSpBSqBSrBSsBStBSwBSyBSz",
    "BS.BS_BT0BT1BT2BT3BT5BT6BT7BT9BTABTBBTDBTEBTFBTGBTHBTIBTJBTMBTNBTOBTPBTQBTRBTSBTTBTUBTVBTX",
    "BTYBTZBTbBTcBTdBTfBTgBThBTiBTjBTkBTlBToBTqBTsBTtBTuBTvBTwBTxBT.BT_BU1BU2BU3BU5BU6BU7BU8BU9",
    "BUABUBBUEBUJBUKBULBUQBURBUTBUUBUVBUXBUYBUZBUaBUbBUcBUdBUgBUkBUlBUmBUnBUoBUpBUsBUtBUvBUwBUx",
    "BUyBUzBU.BU_BV0BV1000000000000000000BV2BV3BV4BV5BV6BV8BVABVBBVCBVDBVEBVFBVGBVHBVIBVJBVKBVL",
    "BVMBVNBVOBVPBVQBVRBVSBVT000000000000000000BVUBVVBVWBVXBVYBVZBVaBVbBVcBVdBVeBVfBVgBVhBVkBVl",
    "BVnBVoBVpBVrBVsBVtBVuBVvBVwBVxBV.BW2BW3BW4BW5BW6BWABWBBWDBWEBWFBWHBWIBWJBWKBWLBWMBWNBWQBWS",
    "BWUBWVBWWBWXBWYBWZBWcBWdBWfBWgBWhBWjBWkBWlBWmBWnBWoBWpBWsBWwBWxBWyBWzBW.BW_BX1BX2BX3BX5BX6",
    "BX7BX8BX9BXABXBBXCBXDBXEBXFBXGBXIBXKBXLBXMBXNBXOBXPBXQBXRBXUBXVBXXBXYBXZBXbBXcBXdBXeBXfBXg",
    "BXhBXkBXmBXoBXpBXqBXrBXsBXtBXvBXwBXxBXzBX.BX_BY0BY1BY2BY3BY4BY5BY6BY7BY8BY9BYABYBBYCBYEBYF",
    "BYGBYHBYIBYJBYKBYLBYMBYNBYOBYPBYQBYRBYSBYTBYUBYV000000000000000000BYWBYXBYYBYZBYaBYbBYcBYd",
    "BYfBYgBYhBYiBYjBYkBYlBYnBYoBYpBYrBYsBYtBYvBYwBYxBYyBYz000000000000000000BY.BY_BZ2BZ4BZ6BZ7",
    "BZ8BZ9BZABZBBZDBZEBZFBZHBZIBZJBZLBZMBZNBZOBZPBZQBZRBZSBZUBZWBZYBZZBZaBZbBZcBZdBZgBZhBZjBZk",
    "BZlBZnBZoBZpBZqBZrBZsBZtBZwBZyBZ.BZ_Ba0Ba1Ba2Ba3Ba5Ba6Ba7Ba8Ba9BaABaBBaCBaDBaEBaFBaGBaHBaI",
    "BaJBaKBaLBaMBaNBaPBaQBaRBaSBaTBaUBaVBaXBaYBaZBaaBabBacBadBaeBafBagBahBaiBajBakBalBamBanBao",
    "BapBaqBarBasBatBauBavBawBaxBa.Ba_Bb1Bb2Bb3Bb5Bb6Bb7Bb8Bb9BbABbBBbDBbEBbGBbIBbJBbKBbLBbMBbN",
    "BbQBbRBbTBbUBbVBbXBbYBbZBbaBbbBbcBbdBbgBbiBbkBblBbmBbnBboBbpBbsBbtBbvBbwBbxBbz000000000000",
    "000000Bb.Bb_Bc0Bc1Bc2Bc3Bc6Bc8BcBBcCBcFBcGBcHBcIBcJBcKBcLBcMBcNBcOBcPBcQBcRBcSBcTBcU000000",
    "000000000000BcVBcWBcXBcYBcZBcaBcbBccBcdBceBcfBcgBchBckBclBcnBcoBcpBcrBcsBctBcuBcvBcwBcxBc.",
    "Bd0Bd2Bd3Bd4Bd5Bd6Bd7BdABdBBdDBdJBdKBdLBdMBdNBdQBdSBdVBdWBdYBdcBddBdfBdgBdhBdjBdkBdlBdmBdn",
    "BdoBdpBdsBdxBdyBdzBd.Bd_Be2Be3Be4Be5Be6Be7Be9BeABeBBeCBeDBeEBeFBeGBeHBeIBeJBeKBeMBeNBeOBeP",
    "BeQBeRBeSBeTBeUBeVBeWBeXBeYBeZBeaBebBecBedBeeBefBegBehBeiBejBekBelBemBenBeoBepBeqBerBesBet",
    "BewBexBezBe.Be_Bf1Bf3Bf4Bf5Bf6Bf7BfABfCBfFBfGBfHBfIBfMBfNBfPBfQBfRBfTBfUBfVBfWBfXBfYBfZBfc",
    "BfgBfhBfiBfjBfkBfl000000000000000000BfoBfpBfrBfsBftBfvBfwBfxBfyBfzBf.Bf_Bg0Bg1Bg2Bg6Bg8Bg9",
    "BgABgBBgDBgEBgFBgGBgHBgI000000000000000000BgJBgKBgLBgMBgNBgOBgPBgQBgRBgSBgTBgUBgVBgWBgXBgY",
    "BgZBgaBgbBgcBgdBggBgjBgkBglBgnBgpBgqBgrBgsBgtBgwBgyBg.Bg_Bh0Bh1Bh2Bh3Bh5Bh6Bh7Bh9BhABhBBhC",
    "BhDBhEBhFBhGBhHBhIBhJBhKBhLBhMBhNBhQBhRBhSBhTBhUBhVBhWBhXBhYBhZBhaBhbBhcBhdBheBhfBhgBhhBhi",
    "BhjBhkBhlBhmBhnBhoBhpBhqBhrBhsBhtBhuBhvBhwBhxBhzBh.Bh_Bi1Bi2Bi3Bi5Bi6Bi7Bi8Bi9BiABiBBiCBiE",
    "BiGBiIBiJBiKBiLBiMBiNBiPBiQBiRBiTBiUBiVBiXBiYBiZBiaBibBicBidBieBigBiiBijBikBilBimBinBioBip",
    "BitBivBiwBi_Bj0Bj1Bj2Bj3Bj6Bj8BjABjBBjCBjEBjHBjI000000000000000000BjJBjLBjMBjNBjPBjQBjRBjS",
    "BjTBjUBjVBjWBjYBjaBjbBjcBjdBjeBjfBjgBjhBjjBjkBjlBjmBjn000000000000000000BjoBjpBjqBjrBjsBjt",
    "BjuBjvBjwBjxBjyBjzBj.Bj_Bk0Bk1Bk2Bk3Bk4Bk5Bk6Bk7Bk9BkABkBBkDBkEBkFBkHBkIBkJBkKBkLBkMBkNBkO",
    "BkPBkQBkRBkSBkTBkUBkVBkWBkXBkYBkZBkbBkcBkdBkfBkgBkhBkjBkkBklBkmBknBkoBkpBkrBksBkuBkvBkwBkx",
    "BkyBkzBk.Bk_Bl1Bl2Bl3Bl5Bl6Bl7Bl9BlABlBBlCBlDBlEBlFBlHBlIBlKBlLBlMBlNBlOBlPBlQBlRBlSBlTBlU",
    "BlVBlWBlXBlYBlZBlaBlbBlcBldBleBlfBlgBlhBliBljBlkBllBlmBlnBloBlpBlqBlrBlsBltBlwBlxBlzBl.Bm1",
    "Bm3Bm4Bm5Bm6Bm7BmABmEBmGBmIBmJBmPBmQBmWBmXBmYBmZBmcBmeBmgBmhBmiBmkBmlBmoBmpBmr000000000000",
    "000000BmsBmtBmvBmwBmxBmyBmzBm.Bm_Bn2Bn6Bn7Bn8BnABnBBnEBnFBnHBnIBnJBnKBnLBnMBnNBnOBnP000000",
    "000000000000BnQBnRBnSBnUBnVBnWBnXBnYBnZBnaBnbBncBndBneBnfBngBnhBniBnjBnkBnlBnmBnnBnoBnpBnq",
    "BnrBnsBntBnuBnvBnwBnxBnyBnzBn.Bn_Bo0Bo1Bo2Bo3Bo6Bo7Bo9BoABoDBoFBoGBoHBoIBoJBoMBoOBoRBoSBoT",
    "BoUBoVBoYBoZBobBocBofBogBohBoiBojBokBolBooBosBotBouBovBowBoxBo.Bo_Bp1Bp2Bp3Bp5Bp6Bp7Bp8Bp9",
    "BpABpBBpCBpEBpIBpJBpKBpMBpNBpPBpQBpRBpTBpUBpVBpWBpXBpYBpZBpaBpbBpcBpdBpeBpfBpgBphBpiBpjBpk",
    "BplBpmBpnBpoBppBptBpvBpwBpxBpzBp.Bp_Bq0Bq1Bq2Bq3Bq6Bq8BqABqBBqCBqDBqEBqFBqHBqIBqJBqLBqMBqN",
    "BqOBqPBqQBqRBqSBqT000000000000000000BqUBqVBqWBqXBqYBqZBqbBqcBqdBqeBqfBqgBqhBqjBqkBqlBqmBqn",
    "BqoBqpBqqBqrBqsBqtBquBqv000000000000000000BqwBqxBqyBqzBq.Bq_Br1Br2Br3Br4Br5Br6Br7BrABrBBrD",
    "BrEBrFBrHBrIBrJBrKBrLBrMBrNBrQBrRBrSBrTBrUBrVBrWBrXBrYBrZBrbBrcBrdBrfBrgBrhBriBrjBrkBrlBrm",
    "BrnBroBrpBrqBrrBrsBrtBruBrvBrwBrxBryBrzBr.Br_Bs2Bs3Bs5Bs6BsBBsCBsDBsEBsFBsIBsKBsMBsNBsOBsR",
    "BsTBsUBsVBsWBsXBsYBsZBsbBscBsdBseBsfBsgBshBsiBsjBskBslBsnBsoBspBsqBsrBssBstBsvBswBsxBsyBsz",
    "Bs.Bs_Bt0Bt1Bt2Bt3Bt4Bt5Bt6Bt7Bt8Bt9BtABtBBtCBtDBtEBtFBtGBtHBtIBtJBtMBtNBtPBtQBtRBtTBtUBtV",
    "BtWBtXBtYBtZBtaBtbBtcBtdBteBtgBthBtiBtjBtkBtlBtn000000000000000000BtoBtpBtrBtsBttBtvBtwBtx",
    "BtyBtzBt.Bt_Bu1Bu2Bu4Bu6Bu7Bu8Bu9BuABuBBuEBuFBuHBuIBuJ000000000000000000BuLBuMBuNBuOBuPBuQ",
    "BuRBuUBuWBuXBuYBuZBuaBubBucBudBueBufBugBuhBuiBujBukBulBumBunBuoBupBuqBurBusButBuuBuvBuwBux",
    "BuyBuzBu.Bu_Bv0Bv1Bv2Bv3Bv6Bv7Bv9BvABvBBvDBvFBvGBvHBvIBvJBvMBvOBvSBvTBvUBvVBvYBvZBvbBvcBvd",
    "BvfBvhBviBvjBvkBvlBvoBvsBvtBvuBvvBvwBv.Bv_Bw1Bw2Bw3Bw5Bw6Bw7Bw8Bw9BwABwBBwEBwIBwJBwKBwLBwM",
    "BwNBwQBwRBwSBwTBwUBwVBwWBwXBwYBwZBwaBwbBwcBwdBwfBwgBwhBwiBwjBwkBwlBwmBwnBwoBwpBwqBwrBwsBwt",
    "BwuBwvBwwBwxBwyBwzBw.Bw_Bx0Bx1Bx2Bx3Bx4Bx5Bx6Bx7Bx8Bx9BxABxBBxCBxDBxEBxFBxIBxJ000000000000",
    "000000BxLBxMBxPBxQBxRBxSBxTBxUBxVBxXBxYBxcBxdBxeBxfBxgBxhBxjBxkBxlBxmBxnBxoBxpBxqBxr000000",
    "000000000000BxsBxtBxuBxvBxwBxxBxyBxzBx.Bx_By0By2By3By4By5By6By7ByAByBByCByDByEByFByGByHByI",
    "ByJByKByLByMByNByQByUByVByWByXByYByZByaBybBycBydByeByfBygByhByiByjBykBylBymBynByoBypByqByr",
    "BysBytByuByvBywByxByyByzBy.By_Bz2Bz3Bz5Bz6Bz7Bz9BzABzBBzCBzDBzEBzFBzIBzJBzKBzMBzNBzOBzPBzQ",
    "BzRBzSBzTBzUBzVBzWBzXBzYBzZBzaBzbBzcBzdBzeBzfBzgBzhBziBzjBzkBzlBzmBznBzoBzpBzqBzrBzsBztBzu",
    "BzvBzwBzxBzyBzzBz.Bz_B.0B.1B.2B.3B.4B.5B.6B.7B.8B.9B.AB.BB.CB.DB.EB.FB.GB.HB.IB.JB.LB.MB.N",
    "B.OB.PB.QB.RB.SB.T000000000000000000B.UB.VB.WB.XB.YB.ZB.aB.bB.cB.dB.eB.fB.gB.hB.iB.jB.kB.l",
    "B.nB.oB.pB.qB.rB.sB.tB.u000000000000000000B.vB.wB.xB.yB.zB..B._B_0B_1B_2B_3B_4B_6B_7B_8B_9",
    "B_AB_BB_EB_FB_HB_IB_JB_LB_MB_NB_OB_PB_QB_RB_TB_UB_WB_YB_ZB_aB_bB_cB_dB_eB_fB_gB_hB_iB_jB_k",
    "B_lB_mB_nB_oB_pB_qB_rB_sB_tB_uB_vB_wB_xB_yB_zB_.B__C00C01C02C03C04C05C06C07C08C09C0AC0BC0C",
    "C0DC0EC0FC0GC0HC0IC0JC0KC0LC0MC0NC0OC0PC0QC0RC0SC0TC0UC0VC0WC0XC0YC0ZC0aC0bC0cC0dC0eC0fC0g",
    "C0hC0iC0jC0kC0lC0mC0nC0oC0pC0qC0rC0sC0tC0uC0vC0wC0xC0zC0.C0_C10C11C12C13C14C15C16C17C18C19",
    "C1AC1BC1CC1DC1EC1FC1GC1IC1JC1KC1LC1MC1NC1PC1QC1R000000000000000000C1TC1UC1VC1XC1YC1ZC1aC1b",
    "C1cC1dC1gC1hC1iC1jC1kC1lC1mC1nC1oC1pC1qC1rC1sC1tC1uC1v000000000000000000C1wC1xC1yC1zC1.C1_",
    "C20C21C22C23C24C25C26C27C28C29C2AC2BC2CC2DC2EC2FC2IC2JC2LC2MC2NC2PC2QC2RC2SC2TC2UC2VC2YC2a",
    "C2cC2dC2eC2fC2gC2hC2kC2nC2oC2tC2uC2vC2wC2xC2.C32C33C34C36C37C3AC3BC3DC3EC3FC3HC3IC3JC3KC3L",
    "C3MC3NC3QC3UC3VC3WC3XC3YC3ZC3cC3dC3fC3gC3hC3jC3kC3lC3mC3nC3oC3pC3sC3uC3wC3xC3yC3zC3.C3_C41",
    "C42C43C45C46C47C49C4AC4BC4CC4DC4EC4FC4HC4IC4JC4KC4MC4NC4OC4PC4QC4RC4XC4YC4bC4eC4fC4gC4hC4k",
    "C4oC4pC4qC4rC4tC4wC4xC4zC4.C4_C51C52C53C54C55C56C57C5AC5EC5FC5GC5HC5IC5JC5MC5N000000000000",
    "000000C5PC5QC5RC5TC5UC5VC5WC5XC5YC5ZC5cC5gC5hC5iC5jC5kC5lC5nC5oC5pC5rC5sC5tC5vC5wC5x000000",
    "000000000000C5yC5zC5.C5_C60C61C62C63C64C66C67C68C69C6AC6BC6FC6HC6IC6JC6LC6NC6OC6PC6QC6RC6U",
    "C6WC6YC6ZC6aC6cC6dC6gC6hC6jC6kC6lC6nC6oC6pC6qC6rC6sC6tC6uC6vC6wC6xC6yC6.C6_C70C71C72C73C75",
    "C76C77C79C7AC7BC7DC7EC7FC7GC7HC7IC7JC7LC7MC7PC7QC7RC7SC7TC7UC7VC7XC7YC7ZC7bC7cC7dC7fC7gC7h",
    "C7iC7jC7kC7lC7oC7qC7rC7sC7tC7uC7vC7wC7xC7.C7_C81C82C83C85C86C87C88C89C8AC8BC8EC8GC8IC8JC8K",
    "C8LC8MC8NC8QC8RC8TC8UC8XC8YC8ZC8aC8bC8cC8dC8gC8iC8kC8mC8pC8rC8sC8tC8uC8vC8wC8xC8yC8zC8.C8_",
    "C90C91C92C93C94C95000000000000000000C96C97C99C9AC9BC9CC9DC9EC9FC9IC9JC9LC9MC9NC9PC9QC9RC9S",
    "C9TC9UC9VC9XC9YC9ZC9aC9c000000000000000000C9dC9eC9fC9gC9hC9kC9lC9nC9oC9pC9rC9sC9tC9uC9vC9w",
    "C9xC9.CA0CA2CA3CA4CA5CA6CA7CAACABCACCADCAECAFCAHCAICAJCAKCALCAMCANCAPCAQCASCAUCAVCAWCAXCAY",
    "CAZCAcCAdCAfCAgCAhCAkCAlCAmCAnCAoCApCAsCAuCAwCAxCAyCAzCA.CA_CB0CB1CB2CB3CB4CB5CB6CB7CB8CB9",
    "CBACBBCBCCBDCBECBFCBGCBHCBICBJCBKCBLCBMCBNCBOCBPCBQCBRCBUCBVCBXCBYCBbCBcCBdCBeCBfCBgCBkCBm",
    "CBoCBpCBqCBrCBtCBwCBzCB.CB_CC1CC2CC3CC4CC5CC6CC7CCACCBCCECCFCCGCCHCCICCMCCNCCPCCQCCRCCTCCU",
    "CCVCCWCCXCCYCCZCCcCCdCCgCChCCiCCjCCkCClCCmCCnCCo000000000000000000CCpCCqCCrCCsCCtCCuCCvCCw",
    "CCxCCyCCzCC.CC_CD0CD1CD2CD3CD4CD6CD7CD8CD9CDACDBCDCCDD000000000000000000CDECDFCDGCDHCDICDJ",
    "CDKCDLCDMCDNCDOCDPCDQCDRCDSCDTCDUCDVCDWCDXCDYCDZCDaCDbCDcCDdCDgCDhCDjCDkCDlCDnCDpCDqCDrCDs",
    "CDtCDwCDxCD.CD_CE0CE1CE2CE3CE5CE6CE7CE9CEACEBCEDCEECEFCEGCEHCEICEJCEKCELCEMCENCEOCEPCEQCER",
    "CESCETCEUCEVCEWCEXCEYCEZCEaCEbCEcCEdCEeCEfCEgCEhCEiCEjCEkCElCEmCEnCEoCEpCEqCErCEsCEtCEuCEv",
    "CEwCExCEyCEzCE.CE_CF1CF2CF3CF4CF5CF6CF7CF8CF9CFACFBCFCCFDCFECFFCFGCFHCFICFJCFKCFLCFMCFNCFQ",
    "CFRCFTCFUCFXCFZCFaCFbCFcCFdCFgCFhCFiCFkCFlCFmCFnCFoCFpCFsCFtCFvCFwCFxCFyCFzCF.000000000000",
    "000000CF_CG0CG1CG2CG3CG4CG5CG6CG7CG9CGACGBCGCCGDCGECGFCGHCGICGJCGKCGLCGMCGNCGOCGPCGQ000000",
    "000000000000CGRCGSCGTCGUCGVCGWCGXCGYCGZCGbCGcCGdCGeCGfCGgCGhCGjCGkCGlCGnCGoCGpCGrCGsCGtCGu",
    "CGvCGwCGxCG.CG_CH0CH1CH2CH3CH4CH5CH6CH7CH9CHACHBCHCCHDCHECHFCHGCHHCHICHJCHKCHLCHMCHNCHOCHP",
    "CHQCHRCHSCHTCHUCHVCHWCHXCHYCHZCHcCHdCHfCHgCHhCHjCHkCHlCHmCHnCHoCHpCHsCHtCHuCHwCHxCHyCHzCH.",
    "CH_CI1CI2CI3CI4CI5CI6CI7CI8CI9CIACIBCICCIDCIECIFCIGCIHCIICIJCILCIMCINCIOCIPCIQCIRCITCIUCIV",
    "CIWCIXCIYCIZCIaCIbCIcCIdCIeCIfCIgCIhCIiCIjCIkCIlCImCInCIoCIpCIqCIrCIsCItCIvCIwCIxCIzCI.CI_",
    "CJ0CJ1CJ2CJ3CJ4CJ5000000000000000000CJ6CJ7CJ8CJ9CJACJBCJCCJDCJECJFCJGCJHCJICJJCJKCJLCJMCJN",
    "CJOCJPCJQCJRCJSCJTCJUCJV000000000000000000CJWCJXCJYCJZCJaCJbCJcCJdCJeCJgCJhCJiCJjCJkCJlCJo",
    "CJpCJrCJsCJtCJvCJxCJyCJzCJ.CK2CK3CK4CK5CK6CK7CK8CK9CKACKBCKDCKECKFCKHCKICKJCKLCKMCKNCKOCKP",
    "CKQCKRCKTCKUCKVCKWCKXCKYCKZCKaCKbCKcCKdCKgCKhCKjCKkCKlCKnCKoCKpCKqCKrCKsCKtCKwCKyCK.CK_CL0",
    "CL1CL2CL3CL6CL7CLBCLFCLGCLHCLICLMCLQCLRCLSCLVCLYCLZCLbCLcCLdCLfCLgCLhCLiCLjCLkCLlCLoCLsCLt",
    "CLuCLvCLwCLxCL.CL_CM1CM2CM3CM5CM6CM8CM9CMACMBCMECMGCMICMJCMKCMMCMPCMQCMRCMTCMUCMVCMXCMYCMZ",
    "CMaCMbCMcCMdCMeCMgCMhCMiCMjCMkCMlCMmCMnCMoCMpCMs000000000000000000CMtCMwCM_CN0CN1CN2CN3CNB",
    "CNDCNFCNICNJCNLCNMCNNCNPCNQCNRCNSCNTCNUCNVCNYCNaCNcCNd000000000000000000CNeCNfCNgCNhCNlCNn",
    "CNoCNpCNrCNuCNvCNwCNxCO2CO3CO4CO9COACOBCODCOECOFCOHCOICOJCOKCOLCOMCONCOQCOTCOUCOVCOWCOXCOY",
    "COZCOcCOdCOfCOgCOhCOlCOnCOoCOsCOuCOwCOyCOzCO.CO_CP2CP3CP5CP6CP7CP9CPACPBCPCCPDCPECPFCPICPM",
    "CPNCPOCPPCPQCPRCPUCPVCPXCPYCPZCPaCPbCPcCPdCPeCPfCPgCPhCPjCPkCPmCPoCPpCPqCPrCPsCPtCPwCPxCPz",
    "CP.CP_CQ1CQ2CQ3CQ4CQ5CQ6CQ7CQACQCCQECQFCQGCQHCQICQJCQMCQNCQPCQQCQRCQTCQUCQVCQWCQXCQYCQZCQc",
    "CQeCQgCQhCQiCQjCQkCQlCQoCQpCQrCQsCQtCQxCQyCQzCQ.CQ_CR2CR4CR6CR7CR8CR9CRACRBCRE000000000000",
    "000000CRFCRHCRICRJCRLCRMCRNCROCRPCRQCRRCRUCRVCRYCRZCRaCRbCRcCRdCRgCRhCRjCRkCRlCRnCRo000000",
    "000000000000CRpCRqCRrCRsCRtCRwCRxCRyCR.CR_CS0CS1CS2CS3CS6CS7CS9CSACSBCSDCSECSFCSGCSHCSICSJ",
    "CSMCSOCSQCSRCSSCSTCSUCSVCSYCSZCSbCScCSdCSfCSgCShCSiCSjCSkCSlCSoCSqCSsCSuCSvCSwCSxCS.CS_CT1",
    "CT2CT3CT5CT6CT7CT8CT9CTBCTECTGCTPCTQCTRCTTCTUCTVCTXCTYCTZCTaCTbCTcCTdCTfCTgCTiCTjCTkCTlCTm",
    "CTnCToCTpCTsCTtCTvCTwCTxCT_CU0CU1CU2CU6CUBCUCCUDCUFCUICUJCULCUPCURCUSCUTCUUCUVCUYCUdCUeCUf",
    "CUgCUhCUkCUlCUnCUoCUpCUrCUsCUtCUuCUvCUwCUxCU.CV2CV3CV4CV5CV6CV7CVACVBCVDCVFCVHCVICVJCVKCVL",
    "CVMCVNCVPCVQCVRCVS000000000000000000CVUCVVCVWCVXCVYCVZCVbCVcCVdCVfCVgCVhCVjCVkCVlCVmCVnCVo",
    "CVpCVqCVrCVsCVtCVuCVvCVw000000000000000000CVxCVyCVzCV.CV_CW2CW3CW5CW6CW7CW9CWBCWCCWDCWECWF",
    "CWICWKCWNCWOCWPCWQCWRCWUCWVCWXCWYCWZCWbCWcCWdCWeCWfCWgCWhCWkCWmCWoCWpCWqCWrCWsCWtCWvCWwCWx",
    "CWzCW.CW_CX1CX2CX3CX4CX5CX6CX7CXACXBCXECXFCXGCXHCXICXJCXLCXMCXNCXOCXPCXQCXRCXSCXTCXUCXVCXW",
    "CXXCXYCXZCXaCXbCXcCXdCXeCXfCXgCXhCXiCXjCXkCXlCXoCXpCXrCXsCXtCXvCXxCXyCXzCX.CX_CY2CY4CY8CY9",
    "CYACYECYFCYGCYHCYICYJCYLCYMCYNCYOCYPCYQCYRCYSCYUCYWCYYCYZCYaCYbCYcCYdCYfCYgCYhCYiCYjCYkCYl",
    "CYmCYnCYoCYpCYqCYrCYsCYtCYuCYvCYwCYxCY.CY_CZ0CZ1000000000000000000CZ2CZ3CZ5CZ6CZ7CZ9CZACZB",
    "CZDCZECZFCZGCZHCZICZJCZMCZOCZQCZRCZSCZTCZUCZVCZYCZZCZb000000000000000000CZcCZdCZeCZfCZgCZh",
    "CZiCZjCZkCZlCZmCZnCZoCZpCZqCZsCZtCZuCZvCZwCZxCZ.CZ_Ca1Ca2Ca3Ca7Ca8Ca9CaACaBCaE30030130202t",
    "20b20c02e30302j20L28bFyy28y20O20P20S20T30K30L30830930A30B30C30D30E30F30G30H02n03N03t29W29a",
    "29b28U28q02m20o20p24324hF_WF_XF_b2P22P028W2Ab2CI28228729X29I02d20x2O62O52NB2NF2NE2N72N62MX",
    "2MW2Mp2Mo2Mz2My26I26G26H26J26K30J29g29h28Q28z28T28r28h28i28828B2A62A72A22A328g28f28d28eF_Y",
    "CaGCaICaJCaKCaLCaMCaNCaPCaQCaRCaSCaTCaUCaVCaWCaXCaYCaZCaaCabCacCadCaeCafCagCah000000000000",
    "000000CajCakCalCamCanCaoCapCarCasCatCauCavCawCaxCayCazCa.Ca_Cb0Cb1Cb2Cb3Cb4Cb5Cb6Cb7000000",
    "000000000000Cb8Cb9CbACbBCbCCbDCbECbFCbICbJCbLCbMCbNCbPCbQCbRCbSCbTCbUCbVCbYCbaCbbCbcCbdCbe",
    "CbfCbgCbhCbjCbkCbl27I27K28028302qFzU0B70BO0BT0BQ0BP02u0BR02X02_0BG28k28H28F02a24920m2N12N0",
    "2Mt2Ms2Pa2PW2PX2Pb2Pd2PZ2AP2N82MZ2NG2NH2MI2Ma2Mb2Me2Md2Mc2Mf2Pe2OF2OE2OS2OU02s20W20X26L26N",
    "26P26M26O2Pj2Pf2Pg2Pi39_38S24M3F724Y3F23FO24X22i02k000000000000000000000000000000000000000",
    "000000000000000000000000000000CbnCboCbpCbrCbsCbtCbuCbvCbwCbxCbzCb.Cb_Cc0Cc1Cc2Cc3Cc4Cc5Cc6",
    "Cc7CcACcBCcDCcECcF000000000000000000CcHCcICcJCcKCcLCcMCcNCcQCcSCcUCcVCcWCcXCcYCcZCcaCcbCcc",
    "CcdCceCcfCcgCchCciCcjCck000000000000000000CclCcmCcnCcoCcpCcqCcrCcsCctCcuCcvCcwCcxCcyCczCc.",
    "Cc_Cd2Cd3Cd5Cd6Cd9CdBCdCCdDCdECdFCdICdKCdNCdOCdRFy1Fy2Fy3Fy4Fy5Fy6Fy7Fy8Fy9FyAFyBFyCFyDFyE",
    "FyFFyGFyHFyIFyJFyKFyLFyMFyNFyOFyPFyQFyRFySFyTFyUFyVFyWFyXFyYFyZFyaFybFycFydFyeFyfFygFyhFyi",
    "FyjFykFylFymFynFyoFypFyqFyrFysFytFyuFyvFywFyxF_cFyzFy.Fy_Fz0Fz1Fz2Fz3Fz4Fz5Fz6Fz7Fz8Fz9FzA",
    "FzBFzCFzDFzEFzFFzGFzHFzIFzJFzKFzLFzMFzNFzOFzPFzQFzRFzSFzTF_ZCdUCdVCdXCdZCdbCdcCdeCdfCdgCdh",
    "CdkCdoCdpCdqCdrCdsCdtCdwCdxCdzCd.Cd_Ce1Ce2Ce3Ce4000000000000000000Ce5Ce6Ce7CeACeECeFCeGCeH",
    "CeICeJCeLCeMCeNCePCeQCeRCeSCeTCeUCeVCeWCeXCeYCeZCeaCeb000000000000000000CecCedCeeCegCehCei",
    "CejCekCelCemCenCeoCepCeqCerCesCetCeuCevCewCexCeyCezCe.Ce_Cf0Cf1Cf2Cf3Cf4Cf5Cf634n34o34p34q",
    "34r34s34t34u34v34w34x34y34z34.34_35035135235335435535635735835935A35B35C35D35E35F35G35H35I",
    "35J35K35L35M35N35O35P35Q35R35S35T35U35V35W35X35Y35Z35a35b35c35d35e35f35g35h35i35j35k35l35m",
    "35n35o35p35q35r35s35t35u35v35w35x35y35z35.35_36036136236336436536636736836936A36B36C36D36E",
    "Cf7Cf8Cf9CfACfBCfECfFCfHCfICfJCfLCfMCfNCfOCfPCfQCfRCfUCfYCfZCfaCfbCfcCfdCffCfg000000000000",
    "000000CfhCfiCfjCfkCflCfmCfnCfoCfpCfqCfrCfsCftCfuCfvCfwCfxCfyCf.Cf_Cg0Cg1Cg2Cg3Cg5Cg6000000",
    "000000000000Cg7Cg8Cg9CgACgBCgCCgDCgECgFCgGCgHCgICgJCgKCgLCgMCgNCgPCgQCgRCgSCgTCgUCgVCgWCgX",
    "CgYCgZCgaCgbCgcCgd25m25n25o25p25q25r25s25t25u25v00000000000000025W25X25Y25Z25a25b25c25d25e",
    "25f0000000000000000000000EH0EI0EJ0EK0EL0EM0EN0EO0EP0EQ0ER0ES0ET0EU0EV0EW0EX0EZ0Ea0Eb0Ec0Ed",
    "0Ee0Ef0000000000000000000000000En0Eo0Ep0Eq0Er0Es0Et0Eu0Ev0Ew0Ex0Ey0Ez0E.0E_0F00F10F30F40F5",
    "0F60F70F80F9000000000000000000CgeCgfCggCghCgiCgjCgkCglCgmCgnCgoCgpCgqCgrCgsCgtCguCgvCgwCgx",
    "Cg.Cg_Ch1Ch2Ch3Ch5000000000000000000Ch6Ch7Ch8Ch9ChAChBChEChGChIChKChLChMChNChQChRChSChTChU",
    "ChVChXChYChZChaChbChcChd000000000000000000CheChfChgChhChjChkChlChmChnChoChpChrChsChtChuChv",
    "ChwChxChyChzCh.Ch_Ci0Ci1Ci2Ci3Ci4Ci5Ci6Ci7Ci9CiA2K02K22KC2KG2KO2KK2KS2Ki2Ka2Kq2Ky2K12K32KF",
    "2KJ2KR2KN2KZ2Kp2Kh2Kx2LB2KW2Kl2Ke2Kt2K_2KT2Km2Kb2Ku2L22KI2KH2KQ2KP2KM2KL2KE2KD2KU2KV2KX2KY",
    "2Kc2Kd2Kf2Kg2Kj2Kk2Kn2Ko2Kr2Ks2Kv2Kw2Kz2K.2L02L12L32L42L52L62L72L82L92LA000000000000000000",
    "000000000000000000000000000000000000000000000000000000000000CiBCiCCiDCiECiFCiHCiICiJCiLCiM",
    "CiNCiPCiQCiRCiSCiTCiUCiVCiYCiZCiaCibCicCidCieCif000000000000000000CigCihCiiCijCikCilCimCin",
    "CioCipCiqCirCisCitCiuCivCiwCixCiyCizCi.Ci_Cj0Cj2Cj3Cj4000000000000000000Cj5Cj6Cj7CjACjBCjD",
    "CjECjFCjHCjICjJCjKCjLCjMCjNCjQCjRCjSCjUCjVCjWCjXCjYCjZCjbCjcCjdCjeCjfCjgCjhCji3EL3EM3EN24J",
    "3EO3F43EZ3Ea3Eb3Ec3EP3EQ3ER3ES3ET3EU3EV3EW3EX3EY3FA3ED3EE3EF3FF3E83E93F83Ed3Ee3Em3En3Eo3Ep",
    "3Eq3Er3Es3Et3Eu3Ev3E03E13E23E33E43Ew3Ex3Ey3Ez3E.3E_3EG3EH3EI3EJ3EK24c3F03F13EA3EB3EC3FM3F5",
    "3Ej3Ek3El3FR3Ef3Eg3Eh3Ei3FT3FG3FJ3F33F93FS3F6000000000000000000000000000000000000000000000",
    "CjjCjkCjlCjmCjnCjoCjpCjqCjrCjsCjtCjwCjxCjyCjzCj.Cj_Ck0Ck1Ck2Ck3Ck4Ck5Ck6Ck7Ck8000000000000",
    "000000Ck9CkACkBCkCCkDCkECkFCkGCkHCkICkJCkKCkLCkMCkNCkOCkPCkQCkRCkTCkUCkVCkWCkXCkYCkZ000000",
    "000000000000CkaCkbCkcCkdCkeCkfCkgCkhCkiCkjCkkCklCkmCknCkoCkpCkqCkrCksCktCkvCkwCkxCkyCkzCk.",
    "Ck_Cl0Cl1Cl2Cl3Cl403603G02g04c00004o00004_05103O05I02w03U05c05A00039W39X39Y39Z39a39b39c39d",
    "39e39f39g39h39i39j39k39l39m39n39o39p39q39r39s39t39u39v39w39x2JG2JH2JI2JJ2JK2JL2JM2JN2JO2JP",
    "2JQ2JR2JS2JT2JU2JV2JW2JX2JY2JZ2Ja2Jb2Jc2Jd2Je2Jf2HW2HX2HY2HZ2Ha2Hb2Hc2Hd2He2Hf2Hg2Hh2Hi2Hj",
    "2Hk02z25J25K02y02.25R25S25T25UCl5Cl6Cl7Cl8Cl9ClAClBClCClDClEClFClGClHClIClJClLClMClNClOClP",
    "ClQClRClSClTClUClV000000000000000000ClWClXClYClZClbClcCleClgClhCliCljClkCllClmClnCloClpClq",
    "ClrClsCltCluClvClwClxCly000000000000000000ClzCl.Cl_Cm0Cm1Cm2Cm3Cm4Cm5Cm6Cm7Cm8Cm9CmACmBCmE",
    "CmFCmHCmICmJCmLCmMCmNCmOCmPCmQCmRCmUCmVCmWCmZCma03c04H03m04d04n04p04u05005203u05J03V03.05d",
    "05B05938038138238338438538638738838938A38B38C38D38E38F38G38H38I38J38K38L38M38N38O38P38Q38R",
    "2IS2IT2IU2IV2IW2IX2IY2IZ2Ia2Ib2Ic2Id2Ie2If2Ig2Ih2Ii2Ij2Ik2Il2Im2In2Io2Ip2Iq2Ir2Hq2Hr2Hs2Ht",
    "2Hu2Hv2Hw2Hx2Hy2Hz2H.2H_2I02I12I202v02o02p21q21_221222223224CmbCmcCmgCmhCmjCmlCmnCmoCmpCmq",
    "CmrCmsCmtCmwCm_Cn0Cn1Cn2Cn3Cn6Cn7Cn9CnACnBCnDCnE000000000000000000CnFCnGCnHCnICnJCnMCnQCnR",
    "CnSCnTCnUCnVCnXCnYCnZCnbCndCnfCngCnhCniCnjCnkCnlCnnCno000000000000000000CnpCnqCnsCntCnuCnv",
    "CnwCnxCnyCnzCn.Cn_Co0Co1Co2Co3Co4Co5Co6Co7Co8Co9CoACoBCoCCoDCoECoFCoGCoHCoICoJ311312313314",
    "31531631731831931A31B31C31D31E31F31G31H31I31J31K31L31M31N31O31P31Q31R31S31T31U31V31W31X31Y",
    "31Z31a31b31c31d31e31f31g31h31i31j31k31l31m31n31o31p31q31r31s31t31u31v31w31x31y31z31.31_320",
    "32132232332432532632732832932A32B32C32D32E32F32G32H32I32J000000000000000000000000000000000",
    "CoKCoLCoMCoNCoQCoRCoTCoUCoVCoXCoYCoZCoaCobCocCodCogCokColComConCooCopCosCotCov000000000000",
    "000000CowCoxCozCo.Co_Cp0Cp1Cp2Cp3Cp6Cp8CpACpBCpCCpDCpECpFCpHCpICpJCpLCpMCpNCpOCpPCpQ000000",
    "000000000000CpRCpSCpTCpUCpVCpWCpXCpYCpZCpbCpcCpdCpeCpfCpgCphCpjCpkCplCpnCpoCppCpqCprCpsCpt",
    "CpuCpvCpwCpxCpyCpz32X32Y32Z32a32b32c32d32e32f32g32h32i32j32k32l32m32n32o32p32q32r32s32t32u",
    "32v32w32x32y32z32.32_33033133233333433533633733833933A33B33C33D33E33F33G33H33I33J33K33L33M",
    "33N33O33P33Q33R33S33T33U33V33W33X33Y33Z33a33b33c33d33e33f33g33h33i33j33k33l33m33n33o33p33q",
    "33r33s000000000000000000000000Cp.Cp_Cq0Cq2Cq3Cq4Cq5Cq6Cq7CqACqBCqDCqECqFCqHCqICqJCqKCqLCqM",
    "CqNCqQCqSCqUCqVCqW000000000000000000CqXCqYCqZCqbCqcCqdCqfCqgCqhCqjCqkCqlCqmCqnCqoCqpCqqCqr",
    "CqsCqtCquCqwCqxCqyCqzCq.000000000000000000Cq_Cr0Cr1Cr2Cr3Cr4Cr5Cr6Cr7Cr8Cr9CrACrBCrCCrDCrE",
    "CrFCrGCrHCrICrJCrKCrLCrMCrNCrOCrPCrQCrRCrTCrUCrV0GG0GH0GI0GJ0GK0GL0G10GM0GN0GO0GP0GQ0GR0GS",
    "0GT0GU0GV0GW0GX0GY0GZ0Ga0Gb0Gc0Gd0Ge0Gf0Gg0Gh0Gi0Gj0Gk0Gl000000000000000000000000000000000",
    "0000000000000Gm0Gn0Go0Gp0Gq0Gr0HH0Gs0Gt0Gu0Gv0Gw0Gx0Gy0Gz0G.0G_0H00H10H20H30H40H50H60H70H8",
    "0H90HA0HB0HC0HD0HE0HF000000000000000000000000000000000000000CrXCrYCrZCrbCrcCrdCreCrfCrgCrh",
    "CrkCrmCroCrpCrqCrrCrsCrtCrvCrwCrxCryCrzCr.Cr_Cs0000000000000000000Cs1Cs2Cs3Cs4Cs5Cs6Cs7Cs9",
    "CsACsBCsCCsDCsECsFCsGCsHCsICsJCsMCsNCsPCsQCsRCsTCsUCsV000000000000000000CsWCsXCsYCsZCscCse",
    "CsgCshCsiCsjCskCslCsnCsoCspCsqCsrCssCstCsuCsvCswCsxCsyCszCs.Cs_Ct0Ct1Ct2Ct3Ct5000000000000",
    "000000000000000000000000000000000000000000000000000000000000000000000000000000000000000000",
    "000000000000000000000000000000000000000000000000000000000000000000000000000000000000000000",
    "000000000000000000000000000000000000000000000000000000000000000000000000000000000000000000",
    "Ct6Ct7Ct8Ct9CtACtBCtDCtECtFCtHCtICtJCtKCtLCtMCtNCtOCtPCtQCtRCtSCtTCtUCtVCtWCtX000000000000",
    "000000CtYCtZCtaCtbCtcCtdCtfCtgCthCtjCtkCtlCtnCtoCtpCtqCtrCtsCttCtwCtyCt.Ct_Cu0Cu1Cu2000000",
    "000000000000Cu3Cu5Cu6Cu7Cu9CuACuBCuDCuECuFCuGCuHCuICuJCuLCuMCuNCuOCuQCuRCuSCuTCuUCuVCuYCuZ",
    "CubCucCudCufCugCuh000000000000000000000000000000000000000000000000000000000000000000000000",
    "000000000000000000000000000000000000000000000000000000000000000000000000000000000000000000",
    "000000000000000000000000000000000000000000000000000000000000000000000000000000000000000000",
    "000000000000000000000000000000CuiCujCukCulCuoCuqCusCutCuuCuvCuwCuxCuyCuzCu.Cu_Cv0Cv1Cv2Cv3",
    "Cv4Cv5Cv6Cv7Cv8Cv9000000000000000000CvACvBCvCCvDCvECvFCvGCvHCvICvJCvKCvLCvMCvNCvQCvRCvTCvU",
    "CvYCvZCvaCvbCvcCvdCvgCvi000000000000000000CvkCvlCvmCvnCvoCvpCvsCvtCvvCvwCvxCvzCv.Cv_Cw0Cw1",
    "Cw2Cw3Cw6Cw8CwACwBCwCCwDCwECwFCwICwJCwLCwMCwNCwP000000000000000000000000000000000000000000",
    "000000000000000000000000000000000000000000000000000000000000000000000000000000000000000000",
    "000000000000000000000000000000000000000000000000000000000000000000000000000000000000000000",
    "000000000000000000000000000000000000000000000000000000000000CwQCwRCwSCwTCwUCwVCwYCwcCwdCwe",
    "CwfCwgCwhCwkCwlCwmCwnCwoCwpCwqCwrCwsCwtCwuCwvCww000000000000000000CwxCwyCwzCw.Cw_Cx0Cx2Cx3",
    "Cx4Cx5Cx6Cx7Cx8Cx9CxACxBCxCCxDCxECxFCxGCxHCxICxJCxKCxL000000000000000000CxMCxNCxOCxPCxQCxR",
    "CxSCxTCxUCxVCxWCxXCxYCxZCxcCxdCxfCxgCxjCxkCxlCxmCxnCxoCxpCxsCxwCxxCxyCxzCx.Cx_Am0Am1Am4Am7",
    "Am8Am9AmAAmGAmHAmIAmJAmKAmLAmMAmNAmPAmQAmRAmSAmTAmWAmaAmiAmjAmlAmmAmnAmuAmvAmyAn0AnBAnDAnK",
    "AnOAnSAnmAnnAnqAntAnuAnwAo0Ao1Ao3Ao4Ao5Ao6Ao9AoAAoBAoCAoGAoKAoSAoTAoVAoWAoXAoeAofAogAoiAol",
    "AomAouAovAoxAoyAozAp1Ap4Ap8ApCApLApNApWApXApaApdApeApgApiAplApmApnAppAprApsApyApzAq0Aq4Aq6",
    "Cy2Cy3Cy5Cy6Cy7Cy9CyACyBCyCCyDCyECyFCyICyKCyMCyNCyOCyPCyQCyRCyTCyUCyVCyXCyYCyZ000000000000",
    "000000CybCycCydCyeCyfCygCyhCykCyoCypCyqCyrCysCytCyvCywCyxCyyCyzCy.Cy_Cz0Cz1Cz2Cz3Cz4000000",
    "000000000000Cz5Cz6Cz7Cz8Cz9CzACzBCzCCzDCzECzFCzGCzHCzICzJCzMCzNCzPCzQCzRCzTCzUCzVCzWCzXCzY",
    "CzZCzcCzeCzgCzhCziAqCAqDAqFAqHAqOAqSAqWAqfAqiAqjAqqAqrAquAqyAr4Ar5Ar7Ar9ArGArKArOArXArZAri",
    "ArjArmArpArqArrArsArxAryArzAr_As1As2As8As9AsCAsGAsSAsTAsaAstAt0At1At4At8AtGAtHAtJAtSAtWAta",
    "AtuAtvAtyAt_Au0Au1Au8Au9AuBAuDAuKAumAunAuqAutAuuAuwAv0Av1Av3Av5Av6AvAAvCAvDAvEAvGAvKAvMAvS",
    "AvTAvVAvWAvXAvbAveAvfAviAvmAvuCzjCzkCzlCzoCzpCzrCzsCztCzvCzwCzxCzyCzzCz.Cz_C.1C.2C.3C.4C.6",
    "C.7C.8C.9C.AC.BC.D000000000000000000C.EC.FC.GC.HC.IC.JC.KC.LC.MC.NC.OC.PC.QC.RC.SC.TC.UC.V",
    "C.WC.YC.ZC.aC.bC.cC.dC.f000000000000000000C.gC.hC.iC.jC.kC.lC.nC.oC.pC.qC.rC.sC.tC.uC.vC.w",
    "C.xC.yC.zC..C._C_0C_1C_2C_3C_5C_6C_7C_8C_9C_AC_BAvvAvxAvyAvzAw4Aw5AwCAwyAwzAw.Ax0Ax4AxCAxD",
    "AxFAxGAxHAxOAxPAxSAxeAxhAxjAxqAxuAxyAy7Ay8AyDAyGAyiAyjAymAyoAyqAyyAyzAy_Az1Az2Az3Az8Az9AzG",
    "AzSAzTAzaAzbAzvA.0A.4A.8A.GA.HA.LA.SA.uA.vA.yA_0A_7A_8A_9A_BA_DA_EA_KA_SA_eA_fA_mA_nA_qA_u",
    "B00B01B04B0CB0GB0KB0SB0TB0eB14B15B18B1AB1CB1EB1JB1KB1LB1NB1PC_CC_DC_EC_FC_GC_HC_IC_JC_KC_L",
    "C_MC_NC_OC_PC_QC_RC_SC_TC_UC_VC_YC_ZC_bC_cC_dC_f000000000000000000C_gC_hC_iC_jC_kC_lC_oC_q",
    "C_sC_tC_uC_vC_wC_xC_zC_.C__D01D02D03D05D06D07D08D09D0A000000000000000000D0BD0CD0DD0ED0FD0G",
    "D0ID0JD0KD0LD0MD0ND0PD0QD0RD0SD0TD0UD0VD0WD0XD0YD0ZD0aD0bD0cD0dD0eD0fD0gD0hD0iB1TB1yB1zB20",
    "B24B2CB2DB2FB2HB2OB2PB2QB2SB2VB2WB2XB2YB2eB2fB2hB2iB2jB2kB2lB2nB2pB2qB2rB2uB2yB34B35B37B38",
    "B39B3GB3HB3KB3OB3WB3bB48B49B4BB4CB4GB4IB4JB4OB4PB4RB4SB4TB4ZB4aB4bB4eB4iB4qB4rB4tB4uB4vB50",
    "B51B54B58B5GB5HB5KB5LB5OB5SB5WB5uB5vB5yB60B62B68B69B6BB6DB6IB6JB6KB6OB6SB6eB7CB7GB7KB7SB7T",
    "D0kD0lD0mD0nD0oD0pD0sD0tD0vD0wD0xD0zD0.D0_D10D11D12D13D16D18D1AD1BD1CD1DD1ED1F000000000000",
    "000000D1HD1ID1JD1LD1MD1ND1PD1QD1RD1SD1TD1UD1VD1XD1YD1ZD1aD1bD1cD1dD1eD1fD1gD1hD1kD1l000000",
    "000000000000D1nD1oD1pD1rD1sD1tD1uD1vD1wD1xD1.D1_D20D22D23D24D25D26D27D28D29D2AD2BD2CD2DD2E",
    "D2FD2GD2HD2ID2JD2KB7VB7eB7fB7iB7mB7vB7xB7zB84B85B88B8BB8CB8KB8LB8NB8PB8WB8qB8yB9OB9SB9WB9e",
    "B9fB9qB9rB9yBA4BA5BA9BAGBAHBAKBAOBAPBAQBAWBAXBAZBAbBAcBAgBAiBAmBAqBB8BB9BBCBBGBBIBBOBBPBBR",
    "BBTBBYBBaBBbBBcBBeBBhBBiBBjBBkBBlBBpBBqBBrBBtBBuBBvBBwBBxBB_BC0BC1BC4BC8BCGBCHBCJBCKBCLBCS",
    "BDKBDLBDMBDOBDRBDSBDUBDVBDaBDbD2LD2MD2ND2OD2PD2QD2RD2SD2TD2UD2VD2WD2XD2YD2ZD2cD2dD2fD2gD2h",
    "D2jD2kD2lD2mD2nD2o000000000000000000D2pD2sD2uD2wD2xD2yD2zD2.D2_D32D33D35D36D37D3AD3BD3CD3D",
    "D3ED3FD3ID3MD3ND3OD3PD3Q000000000000000000D3RD3UD3VD3XD3YD3ZD3bD3cD3dD3eD3fD3gD3hD3kD3oD3p",
    "D3qD3rD3sD3tD3vD3wD3xD3yD3zD3.D3_D40D41D42D43D44BDdBDfBDhBDkBDmBDnBDqBDuBE0BE1BE3BE4BE5BEC",
    "BEGBEKBEWBEXBEeBEiBF4BF5BF8BFBBFCBFEBFGBFKBFLBFNBFPBFRBFTBFWBFaBFeBFyBGGBGOBGSBGWBGeBGfBGh",
    "BGqBHGBHHBHKBHOBHWBHXBHZBHbBHiBI0BI8BITBIaBIeBIiBIrBItBIvBJ0BJ4BJ8BJGBJLBJSBJTBJWBJZBJaBJc",
    "BJiBJjBJlBJnBJuBKKBKLBKOBKRBKSBKaBKbBKdBKeBKfBKgBKmBKnBKqBKuD45D46D47D48D49D4AD4BD4CD4ED4F",
    "D4GD4HD4ID4JD4KD4LD4MD4ND4OD4PD4QD4RD4SD4TD4UD4V000000000000000000D4WD4XD4YD4ZD4aD4bD4cD4d",
    "D4eD4fD4gD4hD4iD4jD4kD4lD4oD4pD4rD4sD4tD4vD4xD4yD4zD4.000000000000000000D4_D52D56D57D58D59",
    "D5AD5BD5ED5FD5HD5ID5JD5LD5MD5ND5OD5PD5QD5RD5UD5WD5YD5ZD5aD5bD5cD5dD5fD5gD5hD5jBL0BL1BL3BL4",
    "BL5BLBBLCBLDBLGBLKBLSBLTBLVBLWBLXBMWBMXBMaBMeBMgBMhBMmBMnBMpBMqBMrBMxBMyBMzBN0BN4BNCBNDBNF",
    "BNGBNHBNOBNiBOGBOHBOKBOOBObBOiBOqBP8BPaBPeBQSBQTBQWBQaBQhBQiBQnBRKBRmBRqBRuBS0BS1BS5BSeBSf",
    "BSiBSlBSmBSuBSvBSxBT4BT8BTCBTKBTLBTWBTaBTeBTmBTnBTpBTrBTyBTzBU0BU4BUCBUDBUFBUGBUHBUIBUMBUN",
    "D5kD5lD5mD5nD5oD5pD5qD5rD5sD5tD5uD5vD5wD5xD5zD5.D5_D60D61D62D63D65D66D67D69D6A000000000000",
    "000000D6BD6CD6DD6ED6FD6GD6HD6ID6JD6KD6LD6MD6ND6OD6PD6QD6RD6SD6TD6UD6VD6YD6ZD6bD6cD6d000000",
    "000000000000D6fD6gD6hD6iD6jD6kD6lD6oD6qD6sD6tD6uD6vD6xD6zD6.D6_D71D72D73D74D75D76D77D78D79",
    "D7AD7BD7CD7DD7ED7FBUOBUPBUSBUWBUeBUfBUhBUiBUjBUqBUrBUuBV7BV9BViBVjBVmBVqBVyBVzBV_BW0BW1BW7",
    "BW8BW9BWCBWGBWOBWPBWRBWTBWaBWbBWeBWiBWqBWrBWtBWuBWvBX0BX4BXHBXJBXSBXTBXWBXaBXiBXjBXlBXnBXu",
    "BXyBYDBYeBYmBYqBYuBZ0BZ1BZ3BZ5BZCBZGBZKBZTBZVBZXBZeBZfBZiBZmBZuBZvBZxBZzBa4BaOBaWBayBazBb0",
    "Bb4BbCBbFBbHBbOBbPBbSBbWBbeBbfD7GD7HD7ID7JD7KD7LD7MD7ND7PD7QD7RD7SD7TD7UD7VD7WD7XD7YD7ZD7a",
    "D7bD7cD7dD7eD7fD7g000000000000000000D7hD7iD7jD7kD7lD7mD7nD7oD7pD7rD7sD7tD7vD7wD7xD7yD7zD7.",
    "D7_D80D81D82D83D84D85D86000000000000000000D88D8AD8BD8CD8DD8ED8FD8HD8ID8JD8KD8LD8MD8ND8OD8P",
    "D8QD8RD8SD8TD8UD8VD8WD8XD8YD8ZD8aD8bD8cD8dD8eD8fBbhBbjBbqBbrBbuBbyBc4Bc5Bc7Bc9BcABcDBcEBci",
    "BcjBcmBcqBcyBczBc_Bd1Bd8Bd9BdCBdEBdFBdGBdHBdIBdOBdPBdRBdTBdUBdXBdZBdaBdbBdeBdiBdqBdrBdtBdu",
    "BdvBdwBe0Be1Be8BeLBeuBevBeyBf0Bf2Bf8Bf9BfBBfDBfEBfJBfKBfLBfOBfSBfaBfbBfdBfeBffBfmBfnBfqBfu",
    "Bg3Bg4Bg5Bg7BgCBgeBgfBghBgiBgmBgoBguBgvBgxBgzBh4Bh8BhOBhPBhyD8gD8hD8kD8lD8nD8oD8pD8rD8sD8t",
    "D8uD8vD8wD8xD8.D90D92D93D94D95D96D97D99D9AD9BD9C000000000000000000D9DD9ED9FD9GD9HD9ID9JD9K",
    "D9LD9MD9ND9OD9PD9QD9RD9TD9UD9VD9WD9XD9YD9ZD9bD9cD9dD9e000000000000000000D9fD9gD9hD9iD9jD9k",
    "D9lD9mD9nD9oD9pD9qD9rD9sD9tD9uD9vD9wD9xD9yD9zD9.D9_DA2DA3DA5DA6DA7DA9DAADABDACBi0Bi4BiDBiF",
    "BiHBiOBiSBiWBifBihBiqBirBisBiuBixBiyBizBi.Bj4Bj5Bj7Bj9BjDBjFBjGBjKBjOBjXBjZBjiBk8BkCBkGBka",
    "BkeBkiBkqBktBl0Bl4Bl8BlGBlJBluBlvBlyBl_Bm0Bm2Bm8Bm9BmBBmCBmDBmFBmHBmKBmLBmMBmNBmOBmRBmSBmT",
    "BmUBmVBmaBmbBmdBmfBmjBmmBmnBmqBmuBn0Bn1Bn3Bn4Bn5Bn9BnCBnDBnGBnTBo4Bo5Bo8BoBBoCBoEBoKBoLBoN",
    "DADDAEDAFDAIDAJDAKDAMDANDAODAPDAQDARDATDAUDAVDAXDAYDAZDAbDAcDAdDAeDAfDAgDAhDAj000000000000",
    "000000DAkDAlDAmDAoDApDAqDArDAsDAtDAwDAxDAzDA.DB1DB3DB4DB5DB6DB7DBADBCDBDDBEDBFDBGDBH000000",
    "000000000000DBIDBJDBLDBMDBNDBPDBQDBRDBTDBUDBVDBWDBXDBYDBZDBcDBdDBeDBfDBgDBhDBiDBjDBkDBlDBo",
    "DBpDBrDBsDBtDBvDBwBoPBoQBoWBoXBoaBodBoeBomBonBopBoqBorBoyBozBp0Bp4BpDBpFBpGBpHBpLBpOBpSBpq",
    "BprBpsBpuBpyBq4Bq5Bq7Bq9BqGBqKBqaBqiBr0Br8Br9BrCBrGBrOBrPBraBreBs0Bs1Bs4Bs7Bs8Bs9BsABsGBsH",
    "BsJBsLBsPBsQBsSBsaBsmBsuBtKBtLBtOBtSBtfBtmBtqBtuBu0Bu3Bu5BuCBuDBuGBuKBuSBuTBuVBv4Bv5Bv8BvC",
    "BvEBvKBvLBvNBvPBvQBvRBvWBvXBvaDBxDByDBzDB.DB_DC2DC4DC6DC7DC8DC9DCADCBDCFDCHDCIDCJDCLDCNDCO",
    "DCPDCQDCRDCUDCYDCZ000000000000000000DCaDCcDCdDCgDChDCjDCkDClDCnDCoDCpDCqDCrDCsDCtDCwDC.DC_",
    "DD0DD1DD2DD3DD6DD7DD8DD9000000000000000000DDADDBDDCDDDDDEDDFDDGDDHDDIDDJDDKDDLDDMDDNDDODDP",
    "DDQDDRDDSDDTDDUDDVDDWDDXDDYDDZDDaDDbDDcDDdDDeDDfBveBvgBvmBvnBvpBvqBvrBvxBvyBvzBw0Bw4BwCBwD",
    "BwFBwGBwHBwOBwPBweBxGBxHBxKBxNBxOBxWBxZBxaBxbBxiBy1By8By9ByOByPByRBySByTBz0Bz1Bz4Bz8BzGBzH",
    "BzLB.KB.mB_5B_CB_DB_GB_KB_SB_VB_XC0yC1HC1OC1SC1WC1eC1fC2GC2HC2KC2OC2WC2XC2ZC2bC2iC2jC2lC2m",
    "C2pC2qC2rC2sC2yC2zC2_C30C31C35C38C39C3CC3GC3OC3PC3RC3SC3TC3aDDgDDhDDiDDjDDkDDlDDmDDnDDoDDp",
    "DDqDDrDDsDDtDDuDDvDDwDDxDD.DD_DE1DE2DE3DE5DE6DE7000000000000000000DE8DE9DEADEBDEEDEIDEJDEK",
    "DELDEMDENDEQDERDETDEUDEVDEXDEYDEZDEaDEbDEcDEdDEgDEiDEk000000000000000000DElDEmDEnDEoDEpDEr",
    "DEsDEtDEvDEwDExDEzDE.DE_DF0DF1DF2DF3DF6DF7DFADFBDFCDFDDFEDFFDFHDFIDFJDFKDFLDFMC3bC3eC3iC3q",
    "C3rC3tC3vC40C44C48C4GC4LC4SC4TC4UC4VC4WC4ZC4aC4cC4dC4iC4jC4lC4mC4nC4sC4uC4vC4yC50C58C59C5B",
    "C5CC5DC5KC5LC5OC5SC5aC5bC5dC5eC5fC5mC5qC5uC65C6CC6DC6EC6GC6KC6MC6SC6TC6VC6XC6bC6eC6fC6iC6m",
    "C6zC74C78C7CC7KC7NC7OC7WC7aC7eC7mC7nC7pC7yC7zC80C84C8CC8DC8FC8HC8OC8PC8SC8VC8WC8eC8fC8hC8j",
    "DFNDFPDFQDFRDFSDFTDFUDFVDFWDFYDFaDFbDFcDFdDFeDFfDFgDFhDFkDFlDFnDFoDFpDFrDFsDFt000000000000",
    "000000DFuDFvDFwDFxDF.DG0DG2DG3DG4DG5DG6DG7DG9DGADGBDGCDGDDGEDGFDGGDGHDGIDGJDGKDGLDGM000000",
    "000000000000DGNDGODGPDGQDGRDGSDGUDGVDGWDGXDGYDGZDGaDGbDGcDGdDGeDGfDGgDGhDGiDGjDGkDGlDGmDGn",
    "DGoDGpDGqDGrDGsDGtC8lC8nC8oC8qC98C9GC9HC9KC9OC9WC9bC9iC9jC9mC9qC9yC9zC9_CA1CA8CA9CAGCAOCAR",
    "CATCAaCAbCAeCAiCAjCAqCArCAtCAvCBSCBTCBWCBZCBaCBhCBiCBjCBlCBnCBsCBuCBvCBxCByCC0CC8CC9CCCCCD",
    "CCJCCKCCLCCOCCSCCaCCbCCeCCfCD5CDeCDfCDiCDmCDoCDuCDvCDyCDzCE4CE8CECCF0CFOCFPCFSCFVCFWCFYCFe",
    "CFfCFjCFqCFrCFuCG8CGGCGaCGiCGmDGuDGvDGwDGxDGyDGzDG.DG_DH1DH2DH3DH5DH6DH7DH8DH9DHADHBDHCDHD",
    "DHEDHFDHGDHHDHIDHJ000000000000000000DHKDHLDHMDHNDHODHPDHQDHRDHTDHUDHVDHXDHYDHZDHbDHcDHdDHe",
    "DHfDHgDHhDHiDHkDHmDHnDHo000000000000000000DHpDHqDHrDHsDHtDHwDHxDHzDH.DI1DI3DI4DI5DI6DI7DIA",
    "DICDIEDIFDIGDIHDIIDIJDILDIMDINDIODIPDIQDIRDISDITCGqCGyCGzCH8CHaCHbCHeCHiCHqCHrCHvCI0CIKCIS",
    "CIuCIyCJfCJmCJnCJqCJuCJwCJ_CK0CK1CKCCKGCKKCKSCKeCKfCKiCKmCKuCKvCKxCKzCL4CL5CL8CL9CLACLCCLD",
    "CLECLJCLKCLLCLNCLOCLPCLTCLUCLWCLXCLaCLeCLmCLnCLpCLqCLrCLyCLzCM0CM4CM7CMCCMDCMFCMHCMLCMNCMO",
    "CMSCMWCMfCMqCMrCMuCMvCMxCMyCMzCM.CN4CN5CN6CN7CN8CN9CNACNCCNEDIUDIVDIWDIXDIYDIZDIaDIbDIcDId",
    "DIeDIgDIhDIiDIjDIkDIlDImDInDIoDIpDIqDIrDIsDItDIu000000000000000000DIvDIwDIxDIyDIzDI.DI_DJ0",
    "DJ1DJ2DJ3DJ4DJ5DJ6DJ7DJ8DJ9DJADJBDJDDJEDJFDJHDJIDJJDJL000000000000000000DJMDJNDJODJPDJQDJR",
    "DJTDJUDJWDJXDJYDJZDJaDJbDJcDJdDJfDJgDJhDJjDJkDJlDJnDJoDJpDJqDJrDJsDJtDJvDJwDJyCNGCNHCNKCNO",
    "CNWCNXCNZCNbCNiCNjCNkCNmCNqCNsCNtCNyCNzCN.CN_CO0CO1CO5CO6CO7CO8COCCOGCOOCOPCORCOSCOaCObCOe",
    "COiCOjCOkCOmCOpCOqCOrCOtCOvCOxCP0CP1CP4CP8CPGCPHCPJCPKCPLCPSCPTCPWCPiCPlCPnCPuCPvCPyCQ0CQ8",
    "CQ9CQBCQDCQKCQLCQOCQSCQaCQbCQdCQfCQmCQnCQqCQuCQvCQwCR0CR1CR3CR5CRCCRDCRGCRKCRSCRTCRWCRXCRe",
    "DJ.DJ_DK0DK1DK2DK3DK5DK6DK7DK9DKADKBDKDDKEDKFDKGDKHDKIDKJDKMDKODKPDKQDKRDKSDKT000000000000",
    "000000DKUDKVDKWDKXDKYDKZDKaDKbDKcDKdDKeDKfDKgDKhDKiDKjDKkDKlDKmDKnDKoDKpDKqDKrDKsDKt000000",
    "000000000000DKuDKvDKwDKxDK.DK_DL1DL2DL3DL5DL6DL7DL8DL9DLADLBDLEDLGDLIDLJDLKDLLDLMDLNDLQDLR",
    "DLTDLUDLVDLXDLYDLZCRfCRiCRmCRuCRvCRzCS4CS5CS8CSCCSKCSLCSNCSPCSWCSXCSaCSeCSmCSnCSpCSrCStCSy",
    "CSzCT0CT4CTACTCCTDCTFCTHCTICTJCTKCTLCTMCTNCTOCTSCTWCTeCThCTqCTrCTuCTyCTzCT.CU3CU4CU5CU7CU8",
    "CU9CUACUECUGCUHCUKCUMCUNCUOCUQCUWCUXCUZCUaCUbCUcCUiCUjCUmCUqCUyCUzCU_CV0CV1CV8CV9CVCCVECVG",
    "CVOCVTCVaCVeCViCW0CW1CW4CW8CWADLaDLcDLdDLgDLiDLkDLlDLmDLnDLoDLpDLsDLtDLvDLwDLxDLzDL.DL_DM0",
    "DM1DM2DM3DM6DMADMB000000000000000000DMCDMDDMEDMFDMHDMIDMJDMKDMLDMMDMNDMODMPDMQDMRDMSDMTDMU",
    "DMVDMWDMXDMYDMZDMaDMcDMd000000000000000000DMeDMfDMgDMhDMiDMjDMkDMlDMmDMnDMoDMpDMqDMrDMsDMt",
    "DMuDMvDMwDMxDMyDMzDM.DM_DN0DN1DN2DN3DN4DN5DN6DN7CWGCWHCWJCWLCWMCWSCWTCWWCWaCWiCWjCWlCWnCWu",
    "CWyCX0CX8CX9CXCCXDCXKCXmCXnCXqCXuCXwCY0CY1CY3CY5CY6CY7CYBCYCCYDCYKCYTCYVCYXCYeCYyCYzCZ4CZ8",
    "CZCCZKCZLCZNCZPCZWCZXCZaCZrCZyCZzCa0Ca4Ca5Ca6CaCCaDCaFCaHCaOCaiCaqCbGCbHCbKCbOCbWCbXCbZCbi",
    "CbmCbqCbyCc8Cc9CcCCcGCcOCcPCcRCcTCd0Cd1Cd4Cd7Cd8CdACdGCdHCdJDNADNBDNDDNEDNFDNHDNJDNKDNLDNM",
    "DNNDNQDNSDNUDNVDNWDNXDNYDNZDNcDNdDNfDNgDNhDNjDNk000000000000000000DNlDNmDNnDNoDNpDNsDNuDNw",
    "DNxDNyDNzDN.DN_DO2DO3DO5DO6DO7DO9DOADOBDOCDODDOEDOFDOI000000000000000000DOMDONDOODOPDOQDOR",
    "DOTDOUDOVDOXDOYDOZDObDOcDOdDOeDOfDOgDOhDOiDOkDOlDOmDOnDOoDOpDOqDOrDOsDOtDOwDOxCdLCdMCdPCdQ",
    "CdSCdTCdWCdYCdaCddCdiCdjCdlCdmCdnCduCdvCdyCe0Ce8Ce9CeBCeCCeDCeKCeOCefCfCCfDCfGCfKCfSCfTCfV",
    "CfWCfXCfeCfzCg4CgOCgyCgzCh0Ch4ChCChDChFChHChJChOChPChWChiChqCi8CiGCiKCiOCiWCiXCj1Cj8Cj9CjC",
    "CjGCjOCjPCjTCjaCjuCjvCkSCkuClKClaCldClfCmCCmDCmGCmKCmSCmTCmXCmYCmdCmeCmfCmiCmkCmmCmuCmvCmx",
    "DOzDO.DO_DP1DP2DP3DP4DP6DP7DPADPCDPEDPFDPGDPIDPJDPMDPNDPPDPQDPRDPTDPUDPVDPWDPX000000000000",
    "000000DPYDPZDPaDPbDPcDPeDPgDPhDPiDPjDPkDPlDPoDPpDPrDPsDPtDPuDPvDPwDPxDPyDPzDP.DP_DQ0000000",
    "000000000000DQ1DQ2DQ4DQ6DQ7DQ8DQ9DQADQBDQEDQFDQHDQIDQJDQLDQMDQNDQODQPDQQDQRDQSDQUDQWDQYDQZ",
    "DQaDQbDQcDQdDQfDQgCmyCmzCm.Cn4Cn5Cn8CnCCnKCnLCnNCnOCnPCnWCnaCncCneCnmCnrCoOCoPCoSCoWCoeCof",
    "CohCoiCojCoqCorCouCoyCp4Cp5Cp7Cp9CpGCpKCpaCpiCpmCq1Cq8Cq9CqCCqGCqOCqPCqRCqTCqaCqeCqiCqvCrS",
    "CrWCraCriCrjCrlCrnCruCs8CsKCsLCsOCsSCsaCsbCsdCsfCsmCt4CtCCtGCteCtiCtmCtuCtvCtxCtzCu4Cu8CuC",
    "CuKCuPCuWCuXCuaCueCumCunCupCurDQhDQjDQkDQlDQnDQoDQpDQqDQrDQsDQtDQuDQwDQyDQzDQ.DQ_DR0DR1DR2",
    "DR3DR6DR7DR9DRADRB000000000000000000DRDDREDRFDRGDRIDRJDRLDRMDRODRQDRRDRSDRTDRUDRVDRXDRYDRZ",
    "DRbDRcDRdDRfDRgDRhDRiDRj000000000000000000DRkDRlDRnDRoDRpDRqDRsDRtDRuDRvDRwDRxDR.DR_DS1DS2",
    "DS3DS5DS6DS7DS8DS9DSADSBDSCDSDDSEDSFDSGDSIDSJDSKCvOCvPCvSCvVCvWCvXCveCvfCvhCvjCvqCvrCvuCvy",
    "Cw4Cw5Cw7Cw9CwGCwHCwKCwOCwWCwXCwZCwaCwbCwiCwjCx1CxaCxbCxeCxhCxiCxqCxrCxtCxuCxvCy0Cy1Cy4Cy8",
    "CyGCyHCyJCyLCySCyWCyaCyiCyjCylCymCynCyuCzKCzLCzOCzSCzaCzbCzdCzfCzmCznCzqCzuC.0C.5C.CC.XC.e",
    "C.mC_4C_WC_XC_aC_eC_mC_nC_pC_rC_yD00D04D0HD0OD0jD0qD0rD0uD0yDSLDSMDSNDSQDSRDSTDSUDSVDSXDSY",
    "DSZDSaDSbDScDSdDSgDSiDSkDSlDSmDSnDSoDSpDSsDStDSv000000000000000000DSwDSxDSzDS.DS_DT0DT1DT2",
    "DT3DT5DT6DT8DTADTBDTCDTDDTEDTFDTIDTJDTLDTQDTRDTSDTTDTU000000000000000000DTVDTYDTaDTcDTdDTe",
    "DTgDThDTjDTkDTlDTnDToDTpDTrDTsDTtDTuDTvDTwDTxDT.DT_DU0DU2DU3DU4DU5DU6DU7DUADUBD14D15D17D19",
    "D1GD1KD1OD1WD1iD1jD1mD1qD1yD1zD21D2aD2bD2eD2iD2qD2rD2tD2vD30D31D34D38D39D3GD3HD3JD3KD3LD3S",
    "D3TD3WD3aD3iD3jD3lD3mD3nD3uD4DD4mD4nD4qD4uD4wD50D51D53D54D55D5CD5DD5GD5KD5SD5TD5VD5XD5eD5i",
    "D5yD64D68D6WD6XD6aD6eD6mD6nD6pD6rD6wD6yD70D7OD7qD7uD87D89D8GD8iD8jD8mD8qD8yD8zD8_D91D98D9S",
    "DUDDUEDUFDUHDUIDUJDUKDULDUMDUNDUQDUSDUUDUVDUWDUXDUYDUZ000000000000000000000000000000000000",
    "000000000000000000000000000000000000000000000000000000000000000000000000000000000000000000",
    "000000000000000000000000000000000000000000000000000000000000000000000000000000000000000000",
    "000000000000000000D9aDA0DA1DA4DA8DAGDAHDALDASDAWDAaDAiDAnDAuDAvDAyDA_DB0DB2DB8DB9DBBDBKDBO",
    "DBSDBaDBbDBmDBnDBqDBuDC0DC1DC3DC5DCCDCDDCEDCGDCKDCMDCSDCTDCVDCWDCXDCbDCeDCfDCiDCmDCuDCvDCx",
    "DCyDCzDD4DD5DDyDDzDE0DE4DECDEDDEFDEGDEHDEODEPDESDEWDEeDEfDEhDEjDEqDEuDEyDF4DF5DF8DF9DFGDFO",
    "DFXDFZDFiDFjDFmDFqDFyDFzDF_DG1000000000000000000000000000000000000000000000000000000000000",
    "000000000000000000000000000000000000000000000000000000000000000000000000000000000000000000",
    "000000000000000000000000000000000000000000000000000000000000000000000000000000000000000000",
    "000000000000000000000000000000000000000000000000DG8DGTDH0DH4DHSDHWDHaDHjDHlDHuDHvDHyDH_DI0",
    "DI2DI8DI9DIBDIDDIKDIfDJCDJGDJKDJSDJVDJeDJiDJmDJuDJxDJzDK4DK8DKCDKKDKLDKNDKyDKzDL0DL4DLCDLD",
    "DLFDLHDLODLPDLSDLWDLbDLeDLfDLhDLjDLqDLrDLuDLyDM4DM5DM7DM8DM9DMGDMbDN8DN9DNCDNGDNIDNODNPDNR",
    "DNTDNaDNbDNeDNiDNqDNrDNtDNvDO0DO1DO4DO8DOGDOHDOJDOKDOLDOSDOW000000000000000000000000000000",
    "000000000000000000000000000000000000000000000000000000000000000000000000000000000000000000",
    "000000000000000000000000000000000000000000000000000000000000000000000000000000000000000000",
    "000000000000000000000000000000000000000000000000000000000000000000000000000000DOaDOjDOuDOv",
    "DOyDP0DP5DP8DP9DPBDPDDPHDPKDPLDPODPSDPdDPfDPmDPnDPqDQ3DQ5DQCDQDDQGDQKDQTDQVDQXDQeDQiDQmDQv",
    "DQxDR4DR5DR8DRCDRHDRKDRNDRPDRWDRaDReDRmDRrDRyDRzDS0DS4DSHDSODSPDSSDSWDSeDSfDShDSjDSqDSrDSu",
    "DSyDT4DT7DT9DTGDTHDTKDTMDTNDTODTPDTWDTXDTZDTbDTfDTiDTmDTqDTyDTzDU1DU8DU9DUCDUGDUODUPDURDUT",
    "000000000000000000000000000000000000000000000000000000000000000000000000000000000000000000",
    "000000000000000000000000000000000000000000000000000000000000000000000000000000000000000000",
    "000000000000000000000000000000000000000000000000000000000000000000000000000000000000000000",
    "000000000000000000000000000000000000000000000000000000000000000000000000000000000000000000",
    "000000000000000000000000000000000000000000000000000000000000000000000000000000000000000000",
    "000000000000000000000000000000000000000000000000000000000000000000000000000000000000000000",
    "000000000000000000000000000000000000000000000000000000000000000000000000000000000000000000",
    "000000000000000000000000000000000000000000000000000000000000000000000000000000000000000000",
    "000000000000000000000000000000000000000000000000000000000000000000000000000000000000000000",
    "0000000000000000000000000000000000000000000000004yz4zp51753v5AW5Fl5Hr5Jb5O95h15ks6Q76Us6Ut",
    "6Vl6jC7F27N27ey8BR8C48XN8Y88es8p88tF8xx8_c9dL58x5Dq5G461g65a6ky7FF84Q8cw8dI9MZ4.358A5Y.5bu",
    "5dc5vo5vv6776F06T66Vi6X_6.N7PE7SB7Zr7e87h_7mX82T89k89n8hh9MJ4vh5MT6Rt6uq7YZ7hj8HR8aG8TE9Ue",
    "5BO5TE5Wg5rC64V66.68X6LY6VH6f46uR7KO7Mp7RZ7Um7qw92l9HH9HI9.L000000000000000000000000000000",
    "000000000000000000000000000000000000000000000000000000000000000000000000000000000000000000",
    "000000000000000000000000000000000000000000000000000000000000000000000000000000000000000000",
    "0000000000000000000000000000000000000000000000000000000000000000000000000000005CZ5oi7Ko83R",
    "9909MO59R5W85dS5oX5qN5wt5yw5zA65t6nV7Lw7M67pW7rp7sn7.C85K88X8MH8b18iR9By9PD9n74xB4xt50B57n",
    "5XF64t64.65e6Kv6dg6yH7Mb7Q67RM7k78Ab8JBFa09Ed9MB5M05kY5THFa17op7.v96r50e5Ex5n55te6BI6Dk6JQ",
    "6Jd6uW72i7bR8tT8uUFa291z9959Bu4v.4xs51b5t.5xw6466bN85n8PK8v79Dr9eh4vU52H6Tm6X05495AD5AI6gY",
    "000000000000000000000000000000000000000000000000000000000000000000000000000000000000000000",
    "000000000000000000000000000000000000000000000000000000000000000000000000000000000000000000",
    "000000000000000000000000000000000000000000000000000000000000000000000000000000000000000000",
    "0000000000000000007Uy98G9xK5Ah60l8_o51866f6Fj6JA6Wy6g46_08688cX9QK5W579z7Ai7K47rv7vj82f8cB",
    "8jq91Z9rH6A96nw6zK7rG7yw8eZ55y65A7kT8iP99N9EC4wi4_J50U52.5465B15BD5D_5Tm5Y35wQ5.H65s66i6JE",
    "6Li6Pl6Qx6Rq6YN6s772573n7IV7Ib7JA7NP7Xi7Zi7hV7hs7r57sJ80L80_84R8EM8jc8yL90L9FX9W39Wu9fQ9le",
    "4_25LJ5Ww5bH5jZ5n662u68I6X26Ym000000000000000000000000000000000000000000000000000000000000",
    "000000000000000000000000000000000000000000000000000000000000000000000000000000000000000000",
    "000000000000000000000000000000000000000000000000000000000000000000000000000000000000000000",
    "0000000000000000000000000000000000000000000000006Ze6wg7LC7Pu7ZE7ez7px7vh7vy8e88gX8m_9QE9t4",
    "5Fa5Ff5HA5Hn5Rw5dH5ja5mx5wh6Bt6Kt6L56Lo6QW6Ul6d16oz7Ny7QG7T.7e_7.K80382X86F8Bc8Bz8Fm8N18Wn",
    "8Yq8gbFa38.S9Ck9R79Xd9hO9yJ5Jj6MR6Ro6YF7f08mt9rW5Rm5Ta5qH6O66Yn6ZD6x.7Ge8YU9la6neFa49ge4.R",
    "55i55n5AV5jK5tb61G61j6Bn6Ed6Kx7FP7fw8QZ8oY9UF4uo5lX6886US7JS000000000000000000000000000000",
    "000000000000000000000000000000000000000000000000000000000000000000000000000000000000000000",
    "000000000000000000000000000000000000000000000000000000000000000000000000000000000000000000",
    "0000000000000000000000000000000000000000000000000000000000000000000000000000007dH8FJ8g78go",
    "8te91E9DB9X65xJ6de8N_93jFa556W5kO5li65Z6Zw6i.71C7Gl7JO7kX7zG8F58d08oh9NS9ae58k61T6Bi9024.A",
    "5595CX5ZP5xZ6RW6qu72Q7B27FM7jG83n9HR5Dc6ER7zh4vM5205XA5ZU60g64d6BG6dG9j15kF7qO82n8zV4wa53H",
    "5Ii5Mi5iC5sW5td6Kg6LE6WX6fB7BX7QE7Vl7rU7_v86W8LE8RV8y38zE93A9a39fL9kh4uO4v54vT4x74_n55t5B.",
    "000000000000000000000000000000000000000000000000000000000000000000000000000000000000000000",
    "000000000000000000000000000000000000000000000000000000000000000000000000000000000000000000",
    "000000000000000000000000000000000000000000000000000000000000000000000000000000000000000000",
    "0000000000000000005D05FZ5Fb5IE5OK5Tr5UY5l75s75xG67y6BO6LH6Uu6Vf6dB6jG6l66li6n26wT71u7BN7EM",
    "7G37U_7Vf7fs7r_80987y88588A8BV8XY8ip8py8x090H92n99a9As9dI9f59pf9tN9.S5SB5n08FA9UW9Uh9wq5GR",
    "7gO7.a8ZP8xD93X5W05n86EO7gV5kk5yJ7fv7gk8AE8wi50c58u5Bu5Dt5S86Bp6Do6iA6t37St5Eb7DN8Le8vs9NL",
    "6Sw6h36zm8fj8xC9bBFa66Pt6ju8oq000000000000000000000000000000000000000000000000000000000000",
    "000000000000000000000000000000000000000000000000000000000000000000000000000000000000000000",
    "000000000000000000000000000000000000000000000000000000000000000000000000000000000000000000",
    "0000000000000000000000000000000000000000000000009iyFa75Fh5Sj5bE6F66dx7Fg7X57gw7h57p.8Hr8cF",
    "8rp90r9Me5Bx5T77L77jW8FC98UFa86fO55B59B5A768V6ZO6br9QP5355Aa5Ba6736Ma6Wv6d_7H.7jB8Av8Fh8co",
    "8iv8_H9b9Fa94xA5cN6JI6OH6gE7Gq7c17cz8Af8X.8X_8bVFaA9Cc4yB5FA60b69n6no7qQ7rc4wO55Y7VS82l4y1",
    "4yE55s5605NS5Pe5Sx5Vw5Vy5aK5b75cJ5l45oG5qE5tn5v.5_C6A06NN6NZ000000000000000000000000000000",
    "000000000000000000000000000000000000000000000000000000000000000000000000000000000000000000",
    "000000000000000000000000000000000000000000000000000000000000000000000000000000000000000000",
    "0000000000000000000000000000000000000000000000000000000000000000000000000000006SU6SV6TU6ZB",
    "6Z46fV6iw6mZ6nz6o26t77EO7Gc7Gg7I27IZ7Lu7L_7Y17Zl7b17b77b87bw7kL7q07sw7.880680j82C8eO8jF8n8",
    "8rt9CX9Ca9ZY9bH9eE9eF9fb9wI7tA4zs5G96Bk6XK97H5Mh54wFaBFaC5eS67cFaD6BF6B_FaEFaFFaGFaHFaIFaJ",
    "92ZFaKFaLFaMFaNFaO8h.FaPFaQFaRFaS6QMFaT75MFaUFaV9RZFaW6DF6Dw5DNFaX6UF6bW6vpFaY7KtFaZFaaFab",
    "000000000000000000000000000000000000000000000000000000000000000000000000000000000000000000",
    "000000000000000000000000000000000000000000000000000000000000000000000000000000000000000000",
    "000000000000000000000000000000000000000000000000000000000000000000000000000000000000000000",
    "0000000000000000007qDFacFad8Xo5RA5eOFaeFafFagFahFai4v3Faj55d5b86Vm80GFak5bp5vq6IQ7dA5_r61i",
    "6B86Dx5ld5lN5AgFal5bq5yf60IFamFanFao7HPFapFaqFarFasFatFau9dHFavFawFaxFayFazFa.Fa_Fb0Fb1Fb2",
    "Fb36_3Fb4Fb586_8.o63nFb6Fb785cFb8Fb95m_FbAFbBFbCFbDFbEFbFFbGFbH5hf8eb6Tx7qGFbIFbJFbKFbLFbM",
    "FbN83zFbOFbP5my6pb5C_6ww5aQ8Cs000000000000000000000000000000000000000000000000000000000000",
    "000000000000000000000000000000000000000000000000000000000000000000000000000000000000000000",
    "000000000000000000000000000000000000000000000000000000000000000000000000000000000000000000",
    "0000000000000000000000000000000000000000000000004uv4ws4z65Mk5SO5Z75zM6Mt6Nc6g06kr6vD7Vj7hl",
    "7mU7tU8RB8YI94o9DR6Ix6..7Dw7Mu91K5LM5TD66w6JK6R76tX6vR6zj6.v7Nm81386z8L18c38h78jQ9CV6oJ7LJ",
    "7jK8uF91T5KG5W25XO5vY6876IU6ZW7Ls7pM8Up9xe4xZ5U85Tk5ad5mD5on5us5.568q6JX7Ep87w8YB8ou9QA9xR",
    "5k55.t62p50I58058m5SM5Wr5XN5mE5nW5ps5sB5wc5.I62y6CH6E96GN6X3000000000000000000000000000000",
    "000000000000000000000000000000000000000000000000000000000000000000000000000000000000000000",
    "000000000000000000000000000000000000000000000000000000000000000000000000000000000000000000",
    "0000000000000000000000000000000000000000000000000000000000000000000000000000006Zv6h26tO6uX",
    "6xK6_a77.7RS7Tv7cn7ex8G48cf8pj8tp8v890390K91J93z9DD9Ps9VS6lI70679O7AY7De7TZ7c_7la7wR8k05Yf",
    "6376Lc6Nz6Q.6oC74U7798nQ9WJ4vj7g14xT56i57D5BL5GC66d6Tn6XG6ZV6qU6zy7My7Up7hb83q8HZ9A555S6MN",
    "6TS6UJ7NO7h78DpFbQ8n690N9Wj5nl8708AQ91191l98D5.N5sT6fP7787Px7j98Na8i494d9em5M767sFbR7Pf7.5",
    "000000000000000000000000000000000000000000000000000000000000000000000000000000000000000000",
    "000000000000000000000000000000000000000000000000000000000000000000000000000000000000000000",
    "000000000000000000000000000000000000000000000000000000000000000000000000000000000000000000",
    "0000000000000000008O_8Uw8Zu92FFbS6qR73P7FU7rX8GzFbT95g9dnFbU4w25Dr6i46iI70.78R8Oj9uU59C8.Z",
    "5rG6Jb6Ki6iM6_h7n37wS8ND8ba8cz6B987O8WV5xA6SN6rg7By7G57Hl8U293U4.65qD5.W8GA56t6EW7Lb4wk506",
    "55f5796Y16eH7ok7on7pd89l8hI8yR97F4.s54t5Br5H25xi65k68.6N56hQ6_.7ag8NS8WZ9Mj9fY9fg9wN9xE5AR",
    "6R66jt70T7ah8zY9T266G6806KZ6yZ000000000000000000000000000000000000000000000000000000000000",
    "000000000000000000000000000000000000000000000000000000000000000000000000000000000000000000",
    "000000000000000000000000000000000000000000000000000000000000000000000000000000000000000000",
    "0000000000000000000000000000000000000000000000007597I97tq81l8Jk8yc90Z9DA56z58N5AZ6qC7388Z2",
    "5x96M26kk6_27m.7Dr4xa4ys5RvFbV5ow5sw60S7Eo7ij7.Q7_E81690U98q9Rs9T89WO9zX4.B6.d7ck96q9Qt5BU",
    "FbW6I86J46hJ6zU70O78G7Rd8018O68PS8tl8y59So9jl9tw9vr7YC7b_7sW8F99C49v_9wJ8hM5ZV5y46Sd70d7JF",
    "7nW81.54X70e79Y7ZA8p28pQ8pq9Rt4w653Q5lk5xM6MP77E7P27Uj81A8Jy000000000000000000000000000000",
    "000000000000000000000000000000000000000000000000000000000000000000000000000000000000000000",
    "000000000000000000000000000000000000000000000000000000000000000000000000000000000000000000",
    "00000000000000000000000000000000000000000000000000000000000000000000000000000091y9id9.D5ZO",
    "5f15nY6eJ6tQ6yF7Ox7ql7ut8KU8au9Fa9PB5A96NI6Vp6cq6r16wS70F7G97HW7LP7Oa7Xh8ii9XU55j68k9Pu4.M",
    "50h5qP6tg7su8yg5.B6546WNFbX9Q65BI82B57S57C6bU7eS7s.8Fn9Pr4_Q58f5EO5GF5KE5nb62d6TE6Ye6ri7A1",
    "7Bu7G67I3FbY7NY7ni7zv7.u8E98ZF8ZX97C97G9RY9l95GT6z.77G7IO8Nw8wg9QZ9nN9wV6UN6tB7Gp87e9SM7Wi",
    "000000000000000000000000000000000000000000000000000000000000000000000000000000000000000000",
    "000000000000000000000000000000000000000000000000000000000000000000000000000000000000000000",
    "000000000000000000000000000000000000000000000000000000000000000000000000000000000000000000",
    "0000000000000000007hB7iW7oI6Hf7Hg7No7Yy7Ze9ci9jK9wx5lU5vL6yW86S8Eh9284u75DD5ef5tI5zE65Y6Cz",
    "6Pf6Ry6x_6yh71Z7UU8Gi8KJ8Wx8yJ9b59mx5KS6Av6Sh6oh8C98bg9Tw4wX5c45_O5_P6SR7so7zK8AI8Ch8Ez8yU",
    "92P5VB5cv5gI5lG6Od6UQ6Y56lF75a7zr8ot8pZ9219j58488oA9PC9f09wb5jV6mJ7CR7Ro7RV8GC56g8cJ55D56L",
    "5B96Z96oK7S47SW7s_7ti9TY9wr6x5000000000000000000000000000000000000000000000000000000000000",
    "000000000000000000000000000000000000000000000000000000000000000000000000000000000000000000",
    "000000000000000000000000000000000000000000000000000000000000000000000000000000000000000000",
    "0000000000000000000000000000000000000000000000008KH56b5GD5Hz6OE6QT6ad6wV7Q_7UH8CN8J28UV95f",
    "9AO9pq8Y24.k56I5BV5d65uz65L6Hu6Hv6Qk6VG6eX6lD6lR79V79X7H17Su7VR80N8Ay8C58i08ie8oC6Se6oG79d",
    "7Rk7Tc7f69sf6j_6oI5aY6Sc8IP5Dl5YJ5cP5xV6FF6Oq6Tp6uw7Ch7hN8BN9Ce5BP5th66k67B68A6B76Ih6NW6bP",
    "6jc6lB74X7Ft7LT7v688U8C28Lg8gZ8o_9Sd9rX5Ye9xO50H58E5Gx5LF6M7000000000000000000000000000000",
    "000000000000000000000000000000000000000000000000000000000000000000000000000000000000000000",
    "000000000000000000000000000000000000000000000000000000000000000000000000000000000000000000",
    "0000000000000000000000000000000000000000000000000000000000000000000000000000006ns7qA7qB81U",
    "8QA9M09Rl5B_6oL79f5Hp5gQ5m.5rB5zC5.k6Sg6Ys6bZ6uy6v47S97np7.E8M78iE8_t9TX9xq5ot62s64D66h6LF",
    "6Nx6Ny6mH6pl7EV7F97tX9MK5l68SS8iG59T5DQ6BD6GF6Io6Sq6eu6pA7F07IU7kK7oL7uR86A88s8M48_h9Rv9d1",
    "4yq5DA5FD5FR6BC6Gi6K06MH6d36pk6zO7Fj7LK7OY7Ra7Ry7ZG7Zx7ai7r688i8VW8_K9WI9Zl5B36BK6Ib6ua6zH",
    "000000000000000000000000000000000000000000000000000000000000000000000000000000000000000000",
    "000000000000000000000000000000000000000000000000000000000000000000000000000000000000000000",
    "000000000000000000000000000000000000000000000000000000000000000000000000000000000000000000",
    "0000000000000000007Py8tB96n99Y9hk9j350Z52D5TA5ce5me5v75zt68_6K.6Mv6N16O96UB6cS6x27Z57qX82g",
    "86088h8Ap8IX8QC8eg8iN92c9Oo9.G50D4_pFbZ5Vv5.O6BS6EI6Tl6v374P7R383C83Q8Zq8Zr8aP8pW8yf95D9Pg",
    "4yl4zm5uR6VF6WY7Pz7P.9j45vX6eA75f77K7LgFba7v18L38Nf9ZS4yG7jF7zm9Mb57X5u66Yr6m.6nE6pR7Al7l4",
    "8C36pL7Gw53x5A85Z16JO6gN7Id7PM000000000000000000000000000000000000000000000000000000000000",
    "000000000000000000000000000000000000000000000000000000000000000000000000000000000000000000",
    "000000000000000000000000000000000000000000000000000000000000000000000000000000000000000000",
    "0000000000000000000000000000000000000000000000007Yd8ON9NY9SvFbb5DU5y18kA8.e8.l92A58b7Ub9n9",
    "9y84uP50255r5nR5vt6OU6Ow6V46Z572p7K17N57d97hT8yd9aW9e84_T5WX5Wn5ls6Pk6jb6qH6vw6zz7Fa7Kh8Ff",
    "8ZS8aJ8jS8yK4yF53L5CG5DS5kJ5.f6SD7cF85v8Cl8KK8a78c68yv8yx9cb9mI6Si4vs4_u5b95m15pl5pm6Dd6ZI",
    "73z76Y7Gh7uh8Ji8S290Y9BI9pp4uD4xO4_l52559M59l5Gc5IG5VW5ah5fc000000000000000000000000000000",
    "000000000000000000000000000000000000000000000000000000000000000000000000000000000000000000",
    "000000000000000000000000000000000000000000000000000000000000000000000000000000000000000000",
    "0000000000000000000000000000000000000000000000000000000000000000000000000000005jQ5jr5lC5wS",
    "Fbc69s6Lt6Md6rk6wb78s7ic7m_7ys85G85H86Q8908AP8Ef8e38oW8pc8px8rq8sw93e97S9OS9P49dP9pd5CN586",
    "5Gf5Pq5Yp5bK5bk5__66a69k6OG6n.74Q7R67o97pU7qR8Ai8p19RmFbd4zR5yN5z_6B25qf6SB6ZQ7Xy7v39ri4uL",
    "52P5CL5Cg5DH5c35fY5w762o66A69969v6MG6U76cd6lK6lM6lN6lO6ouFbe7Gr7Nw7WI7YH7dL7dO7o37tB7_X82b",
    "000000000000000000000000000000000000000000000000000000000000000000000000000000000000000000",
    "000000000000000000000000000000000000000000000000000000000000000000000000000000000000000000",
    "000000000000000000000000000000000000000000000000000000000000000000000000000000000000000000",
    "00000000000000000084.8728Fo8SQ8Ze8gv8ji8ox94P9TU9ZR9yx5Qi5ig5zi6MC6gp6kl6rS6_n70L79T7Ej8od",
    "8pJ9Wx66H6mt81O9e14vD4wB4wR4xL4yw4yy4z_4_V53_5Fo5Fu5K65NZ5RR5Zh5bY5eH5lh5lw5m45tp5uh5.P60T",
    "6De6MS6Ml6Vs6Vx6Yj6jx6oP6pN6uZ7097D57W27a.7b07bW7d17lf7qN7ro82688D8EE8JH8R78ZV8fG8fU8iT8pS",
    "8rc8.j92g9Zy9dV9wT59AFbf6SKFbg000000000000000000000000000000000000000000000000000000000000",
    "000000000000000000000000000000000000000000000000000000000000000000000000000000000000000000",
    "000000000000000000000000000000000000000000000000000000000000000000000000000000000000000000",
    "00000000000000000000000000000000000000000000000052O58g5nn6LZ6nL7FA7KZ7MT7kN8IS95u9Sm4vt6II",
    "6kw75U8Mf4u9Fbh6T96Zk6uN8AV8KO8Xh6Ft6.198I9Yl4uA52t53F54V5L65Mg5ON5j05mP5pW5uu5wA5wW5x263p",
    "6XH6fX6vO78z7907B07Ru7bb7kn7_K8Zp8dq8fp8nX8pU9SS5XU7Iz8pz5N7Fbi7fX7qY89o79o7KV7KbFbj7iP5Y5",
    "5Zx5sy5wF5ws5.G61L6AI6D_6LD6QH6RP6Ru6WM6Zo7A07HU7jk7rk7tM7zo000000000000000000000000000000",
    "000000000000000000000000000000000000000000000000000000000000000000000000000000000000000000",
    "000000000000000000000000000000000000000000000000000000000000000000000000000000000000000000",
    "00000000000000000000000000000000000000000000000000000000000000000000000000000083b88I8Ml8b_",
    "8gJ90T9Ba9xD9yW5aL5bj5uj63S6OK6Pp6UG6nG6t56zV7Vp7Yf8J697B9Ch4xP53A5585M45iB5kZ6976L.6NB6uo",
    "75z7G17H47I77I_7Pi7cg7tQ7vL7.e85w86p88v8OQ8Vi8fr8tZ91u9AH9Gb9bD9kk5De5nH6bK6p46qf6uh88C8MR",
    "8ax8ej8gg9Rg9zd59X6Qv6ko7wM8V.8qD9M39PT6KT6s977kFbk5VE5dJ5ki60d63w68G6OV6PV7Cf7Fv7RR7S17ji",
    "000000000000000000000000000000000000000000000000000000000000000000000000000000000000000000",
    "000000000000000000000000000000000000000000000000000000000000000000000000000000000000000000",
    "000000000000000000000000000000000000000000000000000000000000000000000000000000000000000000",
    "00000000000000000081M81o85b8gW96I4uM5BY6jo6qN7e57iv7qmFbl8om5Fi5Ol5XH5kr5mF5mH5tY6906E36GK",
    "6Oj6Yp6oy6s86wl70V72a77I7Kc7MF7ME7OP7iH7lW7mh7qW7qv8Ki8Lj8O78eq90D91X92r9At9Vs9et4_N5ni6TV",
    "6sH7oV7wC8iM8qM90V5jh5tz6GD8J091S9ZX7E75kB62Q6T.6tU8eV8gc9019WC58tFbm71H7YE9EM8Xm97N4_k5FN",
    "5Nz5RQ5U25Zz5h25k85oh5p05ub641000000000000000000000000000000000000000000000000000000000000",
    "000000000000000000000000000000000000000000000000000000000000000000000000000000000000000000",
    "000000000000000000000000000000000000000000000000000000000000000000000000000000000000000000",
    "00000000000000000000000000000000000000000000000068D69B6E86GS6Ks6Lu6ev6kA6mq6qP6yn77d7Bf7Du",
    "7G77Io7Oc7TX7d07fN7hg7ov7sF7si7vX7.U84f8Cn8IG8JQ8Ng8YM8gm8kG8yu91292395i9AM9Av9QB9Qd9Qe9RM",
    "9S09W89cM9hJ9iQ5FK5X.5aP5jm5k_6tH6zQ76V7GX7Iv8258Fz5tX5.75.g6126Ni6WI6bl6fJ6k96qr6tp7FZ7R.",
    "7Ui7jD7qK84Z88S8D08Jq8LZ8fY8h49679CU9W69cq68C8XJ8_m99b5q75qd000000000000000000000000000000",
    "000000000000000000000000000000000000000000000000000000000000000000000000000000000000000000",
    "000000000000000000000000000000000000000000000000000000000000000000000000000000000000000000",
    "0000000000000000000000000000000000000000000000000000000000000000000000000000005rf7HV86T8Te",
    "6_L6B.7_I8as8bo4uU4vO53d5BT5D769_6O77vf8W59PU4.D5CP5Os5dB5ga5mu5nE5nD5u25yH6136Mz6Ol6P26U.",
    "6Vq7CS7VY7aw7_58IK8JD8cM8fc8ff8hX8nL8nw5Vq5lK5yF61l6Bj6aD6kM6vS7647lI8TL8jO8x.9ZV9Z.4yu4.1",
    "4_X5Hx5eW5ku64y6Mm6Pe77y7Kp7bU7qp85E87Z8EO8Mg8NE8S38eA8wh8.RFbn8_55an5ka5lc6295lf5mB5_36o1",
    "000000000000000000000000000000000000000000000000000000000000000000000000000000000000000000",
    "000000000000000000000000000000000000000000000000000000000000000000000000000000000000000000",
    "000000000000000000000000000000000000000000000000000000000000000000000000000000000000000000",
    "000000000000000000Fbo6tn70B7KQ8Al8hs4x05D1Fbp9RP6mF4wU4_455I5LU5eb5pe68H79P8Az8Eg8R.8XP8eT",
    "9O_9R59aJ9q99rT5WA5op5sz5v463X64L6FX6e26ub9429DK9XE9mG9zt5k95ou6C96PF6X87Sy9R19UD9XK9kV6MX",
    "8i18xB9My5Kr5of5tM5wr6QN7PC8Fq9N75ZJ6Ay7BE9qe4xm5ak60F6Ox6k37dd9qc5EJ5J05V35qM64R6RM6sl7YD",
    "89.9QO9T45E469y6EM6so7uA85B9XD000000000000000000000000000000000000000000000000000000000000",
    "000000000000000000000000000000000000000000000000000000000000000000000000000000000000000000",
    "000000000000000000000000000000000000000000000000000000000000000000000000000000000000000000",
    "0000000000000000000000000000000000000000000000006hx7zC9sl9uQ4vV50x56s5aS63v6Fs6am78w80sFbq",
    "97E5ynFbrFbs7q48Bb8Hl8Ix8Nb8wDFbt4zlFbuFbv5Za5j361P6FQ6KO6Lj6QOFbw6bA6eZ6qB70175i7NI7OD7cp",
    "7fmFbx7.AFby8b4Fbz8kJ9709PzFb.9aA5S45.X6My6y17O07cc8gU9cj9jQ9zi54466s6AH6gD8765135Wm5zc749",
    "8e08hw5jy8OM4_w54y5Qq5b46Ef6tv5sg6bj5664w84zPFb_Fc0Fc15c2Fc2000000000000000000000000000000",
    "000000000000000000000000000000000000000000000000000000000000000000000000000000000000000000",
    "000000000000000000000000000000000000000000000000000000000000000000000000000000000000000000",
    "000000000000000000000000000000000000000000000000000000000000000000000000000000Fc36jV6nTFc4",
    "7Ir7aMFc58878958Cv8y_8zTFc69aOFc7Fc8Fc94wcFcA5VV5zv6OJFcBFcC7Mh7vv8jlFcD9069fR5Qb5Wd5du5eV",
    "5kqFcE5xsFcFFcG6DG6CxFcH6az6o76o_6sE6sJ6tr6yKFcI73V74s75PFcJ77377LFcK7XF7XlFcL7jr7tZFcM7ul",
    "FcN8XD8xVFcOFcPFcQ99RFcR9psFcSFcTFcU6256s5FcV76nFcWFcX9Mn5EjFcYFcZFca6VJFcb72E74m7Gm89s8BI",
    "000000000000000000000000000000000000000000000000000000000000000000000000000000000000000000",
    "000000000000000000000000000000000000000000000000000000000000000000000000000000000000000000",
    "000000000000000000000000000000000000000000000000000000000000000000000000000000000000000000",
    "000000000000000000Fcc9Mx9hb9vz6R4Fcd7718H9FceFcf5XBFcgFch5su5znFci6OW6QE6bv6ck6mu6pp6us6z1",
    "6_Q70R70l75G77V7DmFcj7HRFck7JK7R87fE7wJFclFcm8Bn8fW8_EFcn9D8Fco9SPFcpFcq4v250gFcr5885FX6Rp",
    "6nj6_A7CA7T_7fY8Ak8NT8O2Fcs8ZK8fZ8jz8nhFct9ApFcu9SJ9WG4wK4yD4_952o5D85G.5Gp5NQ5XY5Yw5bd5eR",
    "5la62VFcv67A6LM6N_6Pa6Yd6nQ6.p000000000000000000000000000000000000000000000000000000000000",
    "000000000000000000000000000000000000000000000000000000000000000000000000000000000000000000",
    "000000000000000000000000000000000000000000000000000000000000000000000000000000000000000000",
    "00000000000000000000000000000000000000000000000073F76i7DI7jz8S88ga9mo9y75nB6o37D47E998w6wh",
    "7Hb7OV7ff7uL8OA5505Z56J17Jk7KL7Pm7_192L9RD9bK6uc7Jc7gf7gg87b8RP8Tu8eR5f95kC5kR6YX6a06rZ7Ef",
    "7GJ7Gi7YN7tf7_h84O85L8EU8nC9Ok9WH6Rm5.06Nw6U96ng7EB50j5e36jg7Vk5aM5ri5tD7Cb7LFFcwFcx53b57v",
    "5Wl5aj5cM5dQ5lbFcyFcz5sY6BN6GM6IJ6J.Fc.6RSFc_6f8Fd077_7HaFd1000000000000000000000000000000",
    "000000000000000000000000000000000000000000000000000000000000000000000000000000000000000000",
    "000000000000000000000000000000000000000000000000000000000000000000000000000000000000000000",
    "0000000000000000000000000000000000000000000000000000000000000000000000000000007g87gl7v77vU",
    "80085mFd28Vl8c18iW91PFd39209bI65.6io6rq7uV8ab8.n4_H52j56N5B75V75Y95kv5wu6526cL6sC6vd6ws76K",
    "7HY7Ke7Ki81p8Cu8J98uA9EK9FUFd44wE4zH51s54g5F85FB5Fp5k75lJ5ma64Q6626Nq79R7EN7H07R27bG7cH7cv",
    "7q67.z8AB8NL8PU8_291793r97g9Q59Re9Rf5BM5zd6Nj6On6Wl75S7es9319WA4wHFd56fI6kU6.G76980O8Au8LJ",
    "000000000000000000000000000000000000000000000000000000000000000000000000000000000000000000",
    "000000000000000000000000000000000000000000000000000000000000000000000000000000000000000000",
    "000000000000000000000000000000000000000000000000000000000000000000000000000000000000000000",
    "00000000000000000091B9QL9Ro9Vx8KQ9in4wG76A9R45535EV5JX5SJ5SI5UZ5gR5h45l360e64_6Fq6o56qv6vo",
    "6wG78m7C_7HN8BH8Y18z591WFd69PY9XO9qR6S88sA99U4zD51953U5Dn5SD5dK5e15m965m6QG6uj78o7HB7tl833",
    "8GE8Hc8K_8TV8XR8aO8i291L9VB9jF4vp4.H54I55gFd75Kl5Mf5jw5kb5vy5vz5w.62W63V6486496F46Ku6S9Fd8",
    "6VK6VQFd96bX6bY6ov6qdFdA6uuFdB000000000000000000000000000000000000000000000000000000000000",
    "000000000000000000000000000000000000000000000000000000000000000000000000000000000000000000",
    "000000000000000000000000000000000000000000000000000000000000000000000000000000000000000000",
    "0000000000000000000000000000000000000000000000006_X7Cs7CtFdC7HS7KnFdD7PIFdEFdF7sj87.8Gu8ZL",
    "8gO8hR8hj8um8v291A90.91w9599799DkFdGFdH5W9FdI6lJ82982oFdJFdK5515bh5mvFdLFdM6za7Ed83a8q7FdN",
    "98N9MFFdOFdPFdQFdR81_68E70S7re8UDFdS5UW61f6576kt8g.9A09Qn4vP5GV6th8Kj9Pm9Vp9Zk6FM6pZ92H57T",
    "67986w9tv4.T50Q5405kS64F67_6Ji6a56l57MH7VZ7.f89a8MF8Vx8XZ8gy000000000000000000000000000000",
    "000000000000000000000000000000000000000000000000000000000000000000000000000000000000000000",
    "000000000000000000000000000000000000000000000000000000000000000000000000000000000000000000",
    "0000000000000000000000000000000000000000000000000000000000000000000000000000008jm96h4wC4xb",
    "4yAFdTFdU5at5deFdV5to5yR5zR60XFdWFdXFdYFdZ78.7FbFda7Lm7NDFdb7dxFdc80C80p8248BX8DHFddFde8oz",
    "8op927FdfFdg9Zq9aCFdhFdi70t7RA7_A7_C7_y8iQ4ww4x15835DmFdj5Iz5RW5dx5l55yL5_D6vkFdkFdl7rg8Cr",
    "Fdm8QJ8gDFdn9Tj9TtFdoFdp4u04zQ4z.5Zv6Nb6wY90u9Em9cv4xx5Zi5cA5dP611FdqFdr7eKFds8DF8p355b5D4",
    "000000000000000000000000000000000000000000000000000000000000000000000000000000000000000000",
    "000000000000000000000000000000000000000000000000000000000000000000000000000000000000000000",
    "000000000000000000000000000000000000000000000000000000000000000000000000000000000000000000",
    "000000000000000000FdtFduFdv4xD59f5jL8A_4xK58w5Ie5d95d_5jG5jN5jS61Z6586xB72P75k7E67Jt7Mr7Z1",
    "7qh80587g8Ce8KN8N98hk8p79RC4zS5Bw5Qy6Mh6Oe71y72u78r7sz8AD95C9R09ro5jn6Zd6kO6zw7RU5oH6Qh6zR",
    "7kq7mg8Ws9RS4u84xN5CW5Wq5Yx5Zl5bi5m75up5w45yr6EC6Qo6TM6eV6gZ6iC6y_796Fdw7DG7IB7hW7od85u87V",
    "87d8EA8Hi8KZ8MK8NF8ZT8qJ96i9Lt000000000000000000000000000000000000000000000000000000000000",
    "000000000000000000000000000000000000000000000000000000000000000000000000000000000000000000",
    "000000000000000000000000000000000000000000000000000000000000000000000000000000000000000000",
    "0000000000000000000000000000000000000000000000009QS56D5J95Se5km69D6TG6Wz6YJ6uz6xJ71z7uX8Z1",
    "8oX8y99zB9zE78j7kF8hD9CQ4z74zE54o5I05dG5wL6Ar6Tr6bk6eN6ok6uQ7BP7Cg7Mz7ku7qr8Bd8Fv8HN8Nt8fR",
    "8ol8w790P92u9RE9zV5BZ5GA5hX5l26HO6Lr6xq7B4Fdx7Q47fD7iR7nD7u.7_V8Dx8ih8pA8ra8tX8vV8_g8_v91f",
    "9FH4z34zw52p55e55u59D59g5XX5Xy5bW5m85nL5xR62R68m6WJ6k_6m86.n000000000000000000000000000000",
    "000000000000000000000000000000000000000000000000000000000000000000000000000000000000000000",
    "000000000000000000000000000000000000000000000000000000000000000000000000000000000000000000",
    "00000000000000000000000000000000000000000000000000000000000000000000000000000075E7GW7Km7Ku",
    "7LH7Po7jC7kB7kj7l67wF8fk8y.8z998_9AJ9CY9Gh9Rx9XQ9Xh9aU58768g6AO6rP7Pa7hA7l07rs5DW5o.5wN6yu",
    "72v7oO9SH9kE9xU6Eb6Hw8Ts4u14wL4wj51S51r5H85d35kQ5v05wj5xt5.16356Cw6K_6Lq6NC6Ps6Pu6V.6be6g9",
    "6jZ6n06t06te6uV6vU70U72X7EE7Fz7Kw7TR7Y77cE7eB7fz7o.7sE8978e28hg8oU94j95A97O99c9BC9CW9S69TM",
    "000000000000000000000000000000000000000000000000000000000000000000000000000000000000000000",
    "000000000000000000000000000000000000000000000000000000000000000000000000000000000000000000",
    "000000000000000000000000000000000000000000000000000000000000000000000000000000000000000000",
    "0000000000000000009TS9W29yE58s5AH5Ly5Wa5uT5yV62C6FG6Yl6_V7bj7ii87D8Mw8Zz8hu8v496D9Pa9QR9Sz",
    "9XC9zA4_E55657B5Af5Oo5yK5zh6Eg6JD6Nf6P16Rw6Rv6ST6YT6ZN6dz6yL6zk75d77b78g7Ig7Sw7bM7bQ7dV7eW",
    "7gL7oN7pV7r47vm8278Nx8Qa8fK8g_8sP8w190W91j97Z9Ox9RL9pb6NF7m78sp9F35jO5mA5DI6BP7CT50d5kN5.U",
    "62m65h6ZL6tP7Gk7ek7r27sS7un85h000000000000000000000000000000000000000000000000000000000000",
    "000000000000000000000000000000000000000000000000000000000000000000000000000000000000000000",
    "000000000000000000000000000000000000000000000000000000000000000000000000000000000000000000",
    "0000000000000000000000000000000000000000000000008ug8ur9D.9GO4zG5TG5tc5wd6Ch7zg4ux4zF4.F51Q",
    "5dT8345Hg5He5N.5bF5kP5tU5xQ6PT6Sn6Vn6Wg6pe6qo6vA6.D72t7FW7M77nC7q27qi7sY88V8RR8ex8g58rm8wA",
    "8yp90n95E95I9H49dG7hv7ob4_A5415765V85ll5px6PP6ez6rQ6wM6_i74C7Ll7hZ8WY90X91r9RB9d_8C14uj4xo",
    "8X697D5Dz6hR6bh6n18Hw5YU66E6R.6Bl73T7KH7N77vI8Iu8j98q84vB5Fg000000000000000000000000000000",
    "000000000000000000000000000000000000000000000000000000000000000000000000000000000000000000",
    "000000000000000000000000000000000000000000000000000000000000000000000000000000000000000000",
    "0000000000000000000000000000000000000000000000000000000000000000000000000000005Ih5Sm5T05_N",
    "6C16C76Hl6Kl6Ne6Pw6UT6Up6jY6nW6oQ6yi7Vb7Wb7b97bN7qP82Y84287p8AT8At8SO8gCFdy8q48s.91o7Rq7eP",
    "7et7vK81t5K75NK5Xr6Cl6GY6P96PB6Xj6cR6k46qb6wn7FD7He7IX7LR7Mv7RX7SU7UB7dc7u97uT87x8Kl8YN8ew",
    "8pH8xh8.m90o9Ej9PZ9Pp9S74.45Fn5dg5h95uP6XE7J67M.7df7gI86Z8Rj8pg8tC8_j6MV6SLFdz5Vt6zN7tT8yl",
    "000000000000000000000000000000000000000000000000000000000000000000000000000000000000000000",
    "000000000000000000000000000000000000000000000000000000000000000000000000000000000000000000",
    "000000000000000000000000000000000000000000000000000000000000000000000000000000000000000000",
    "0000000000000000009Fs9R65.r67o6.44uK4.O50V5F95NV5rl5tk6iX6ja7ZB7kQFd.8v98xA91k6D96G.7T07g4",
    "9Cl9H_9zg6Im6.l77c7Ie7JQ7h47mI7w27oo7wO8kQ8qA9Hz9aG9bC58v5lV6Jc6Sj7qk53j5F35Xv65O65P67w6Mi",
    "7hP8kI8kM50950X59r5Kn5ey5xW5zm64q6LU6OC6Os6QY6dD6x46yo7CM7OX7gJ84v89P8FM8Iy52r5Vm5l05le5zf",
    "6EX7Wc7sr8FS8KX97797r56A6Vr7jM000000000000000000000000000000000000000000000000000000000000",
    "000000000000000000000000000000000000000000000000000000000000000000000000000000000000000000",
    "000000000000000000000000000000000000000000000000000000000000000000000000000000000000000000",
    "0000000000000000000000000000000000000000000000008oi5745cx62z8PL50SFd_59K5mw65z68Q6BJ6Jo6Mb",
    "6xC7OW84A8vW9PV9Qx4xV5D35MO5af5tT6J56p96tw7EK7f_88R8Mc8pa8uG91t97d9NX9OX9V657u5Jo5M65.v6Ia",
    "6.87sq8yV8zD9Gr5395mM6o.6tx7KR7Ux7mz7na8fv8h25WU5c.5uM6Dt79I7MA7Th8hS8oy8yI5xp6Pq6tu81z8F1",
    "8hB9TH9lMFe05936R_6sL6xl7tW8hc90k91U9hK58T59_5Je66K6A46BR6YY000000000000000000000000000000",
    "000000000000000000000000000000000000000000000000000000000000000000000000000000000000000000",
    "000000000000000000000000000000000000000000000000000000000000000000000000000000000000000000",
    "0000000000000000000000000000000000000000000000000000000000000000000000000000006aI6bQ6er72I",
    "74c7XT7a17aE7dI7eD82M89u8BL8D98L98o28s595Y96B96k4_35RH77j7VN8S08du5lu5_M6TH92e5FY5XQ5lr62a",
    "6616HW7uz81m8Kb9A36Ik52i5qK6S05YS6Az6Ee6aE6bu6eU6vh7Qw7dB8Ax8Gf8hF8se8_z94I95B96S9CG9CO9EQ",
    "9RR9es9mD4uH7LS7bT7hw7jH7l97uk8J48vP8vq8xu90G6Ob6a_7H357w6Sk9xS5555_W6oM8Vo8XT8Xt62q86r8G3",
    "000000000000000000000000000000000000000000000000000000000000000000000000000000000000000000",
    "000000000000000000000000000000000000000000000000000000000000000000000000000000000000000000",
    "000000000000000000000000000000000000000000000000000000000000000000000000000000000000000000",
    "0000000000000000008q55FM5Gv5Oq5es5mn72A7_W81Q84687j8sZ9699fV9to51q4x45EW63x6ui5na4.850a5Na",
    "5pP5vV61b6YK6ox6t476.7NK7Nq7PX7eQ7f97t77tx7zk87q8Qf8yS9R99cp9zI5975B59Zj8cg4u36VI6y64.r5lY",
    "6UL6o86ru7GR7Wd97T9Dy8V47da7en5_h4xM5Ia5K.5Yk5cb63m69J6BM6Ss6bL88r9P09cn9dT50i5DJ5L45TyFe1",
    "69OFe26JY6Ph6VT6_16_l7GY7Gu8eN000000000000000000000000000000000000000000000000000000000000",
    "000000000000000000000000000000000000000000000000000000000000000000000000000000000000000000",
    "000000000000000000000000000000000000000000000000000000000000000000000000000000000000000000",
    "0000000000000000000000000000000000000000000000009Gu5HH5O65Tc5z866Q6jE71O72j7sx8gL5bg84h6EY",
    "7S880z8og5XK6Gj6cx5kL5uH6vlFe38Lf55C5Fm5ag60W65B6k66nm6pm7iU83E8BK8t692m9YnFe46J76.a6IH6K4",
    "55E5GG5SV8eE65V6XsFe57NR7jI7rn90Q5W66dC85_8ag9009Wv51u5bN5ci6AL90F9ig65T79v9NM5TX5f65tq6AA",
    "6Ij6Jw6Tt6pY6q.78i7Gs7Wq7zt8Aj8tR9WN58a5T26T_7987JZ8of8.c98H000000000000000000000000000000",
    "000000000000000000000000000000000000000000000000000000000000000000000000000000000000000000",
    "000000000000000000000000000000000000000000000000000000000000000000000000000000000000000000",
    "0000000000000000000000000000000000000000000000000000000000000000000000000000009Og55h5Fj6DC",
    "4zf5K462M6LN6oR6r_79C7Bz7eN8c78oT5zj6.E73v86e64E4._51F6917977l77te7_f91D9Uj9eP8os5Tg5vp6Um",
    "8GD8fL5GW5iM5vZ5xY5yA6M382w8Kz9M99PR4z85C55CD5CF5I65Jw5S35u360M6AR6An6DLFe66pX6rc7Mn7Wo83U",
    "84l8BU8HX8Io8YD8aI90B9Bg9Zz9kH5v56Qq6RT70H786Fe74_r59z5zg65J6TJ6eP6y27JY7be8Xe8nv9Z79Z49f3",
    "000000000000000000000000000000000000000000000000000000000000000000000000000000000000000000",
    "000000000000000000000000000000000000000000000000000000000000000000000000000000000000000000",
    "000000000000000000000000000000000000000000000000000000000000000000000000000000000000000000",
    "0000000000000000005J17eV6bJ8ht8nA9Ye9ck5zy6Ah7Mo7Qk8Yh91_9P25Cv5yy5_56pC7FC7LY7MB7j68B.9cT",
    "4vF90y4uB4zL5Ec5aF5x86Om6op7HL8Dt8Tc8p091G9SU9mL5ZH5ju8PG8iK9sq5lI61e62D6Nn6nN6yY6.Z70Q7zL",
    "7_m9MH9MI9PG9VJ59o8z457z5Gh5Iu5LZ5MA6gx6sr7tO89c9AS9Pt9vv5G85J87RI8Ra9Ma9NK9PS4wY4y95dk5hc",
    "5tt61I6AN6Tj6X16o66ul7yu82R88g000000000000000000000000000000000000000000000000000000000000",
    "000000000000000000000000000000000000000000000000000000000000000000000000000000000000000000",
    "000000000000000000000000000000000000000000000000000000000000000000000000000000000000000000",
    "000000000000000000000000000000000000000000000000Fe8Fe99W54wb51L5Ip5UJ5bQ5jf5kp6786bt6rt70Z",
    "8Vv8dZ8fo8hd9229dj9gu5A.6Wu50M5vu6TF8D78XC4wh5GH5Qk7Fc94L9V_9a99bN9cP5PJ5YV8PR8en66o6hs7Dx",
    "8xI6j79Qg9fN5bL7808rh9Tf4_K5pq5yc67u6PR6ph72h7E47Ev7F.7Sf7TD7r37rY7uZ88t8XIFeA8pY9999Xl5jH",
    "7fq8X09W15hC4_W5DK5a.5pz6C.6rv7Bv8458478EY9BF9Wm4we55458H5UB000000000000000000000000000000",
    "000000000000000000000000000000000000000000000000000000000000000000000000000000000000000000",
    "000000000000000000000000000000000000000000000000000000000000000000000000000000000000000000",
    "0000000000000000000000000000000000000000000000000000000000000000000000000000005zY6p26xE705",
    "71G72l76I7Ff7Hf8DA8UY8XX90892Y9EZ9ce55k5zN63W65d6Qp8LP8vA96l9UB4vE4wI5Hy5ZL5Zw5bz5or5yd68s",
    "6986OA6Pd6lh6rf6tF6vM6xu6.K6_W6_f71T7BG7Gb7HQ7JW7QJ7bS7pA7uU83X8Ac8Hh8I_8PE8PV8Tq8jt8ng9Ei",
    "9W09Xb63H68M95t5fQ6OF6tt6u.7G_9j25_z63Q7iF5J45yO6nU6pJ6qg73O7q58Pv8eC9qx5CM5IC5i56ew71h7Lr",
    "000000000000000000000000000000000000000000000000000000000000000000000000000000000000000000",
    "000000000000000000000000000000000000000000000000000000000000000000000000000000000000000000",
    "000000000000000000000000000000000000000000000000000000000000000000000000000000000000000000",
    "0000000000000000007cD7c.8An8Fl8fn8j18oe9TqFeB6Jq6Kh7Yw7Yx7fh4uu5MQ5bG5kc5vx62Z6FR6jX6Pb6XJ",
    "6uP75b7Im7q89249ff9mb6qx6xH7C.8n19NA57m5vC5.e61D63s64m65C6P36P46cb6p16vV6x96zY75C7IS7Q77l1",
    "7md8DI8TN91H9QD9x35Cl5RU5xx5.A61Y62K67t6Pc6S36gS6tk6.k71m7Dg7vg86.8Cq8RK8ge8p45A37Do5kM6fh",
    "9G45Jk5Q65jT6L86M56R96YV6sD6t6000000000000000000000000000000000000000000000000000000000000",
    "000000000000000000000000000000000000000000000000000000000000000000000000000000000000000000",
    "000000000000000000000000000000000000000000000000000000000000000000000000000000000000000000",
    "00000000000000000000000000000000000000000000000078x82q95r9fD4.l50P5EQ5GE5Gy5M95N55u_5.C6Sz",
    "75c7FT9055BR5Bp5Xa5ZE74476F77x8Mm8eJ6Q88Me5Md6Q475A8Gn5D95MP6l15zP5.z6Fk6Q97578hn8yT9w.4yH",
    "6Gw73B7Lc8Pd61a8jE9tu55757s5C86qs83u9xH6OL6iZ72O7NL5G35nv7q78eM6iW6iz6j65Gu61m6qz7_L88853M",
    "57U5MS5Ph5RD5di5i95uC66P66O68n6PU6Rc76P76v76w7Ad7cd7e07.o8fm"]

end ResidencePortal.Charset
