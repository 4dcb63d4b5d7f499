import Typeahead.Text.Table

/-! # Tables of decompositions

One step of the canonical and of the compatibility decompositions, the combining classes, and the
pairs that compose. The syllables of Hangul are left out: their decomposition is arithmetic. -/

namespace Typeahead.Text

/-- Canonical decompositions into one code point, one step. -/
def singletons : Rows := ⟨[
  [0x000340_000300, 0x000341_000301, 0x000343_000313, 0x000374_0002B9, 0x00037E_00003B,
   0x000387_0000B7, 0x001F71_0003AC, 0x001F73_0003AD, 0x001F75_0003AE, 0x001F77_0003AF,
   0x001F79_0003CC, 0x001F7B_0003CD, 0x001F7D_0003CE, 0x001FBB_000386, 0x001FBE_0003B9,
   0x001FC9_000388, 0x001FCB_000389, 0x001FD3_000390, 0x001FDB_00038A, 0x001FE3_0003B0,
   0x001FEB_00038E, 0x001FEE_000385, 0x001FEF_000060, 0x001FF9_00038C, 0x001FFB_00038F,
   0x001FFD_0000B4, 0x002000_002002, 0x002001_002003, 0x002126_0003A9, 0x00212A_00004B,
   0x00212B_0000C5, 0x002329_003008, 0x00232A_003009, 0x00F900_008C48, 0x00F901_0066F4,
   0x00F902_008ECA, 0x00F903_008CC8, 0x00F904_006ED1, 0x00F905_004E32, 0x00F906_0053E5,
   0x00F907_009F9C, 0x00F908_009F9C, 0x00F909_005951, 0x00F90A_0091D1, 0x00F90B_005587,
   0x00F90C_005948, 0x00F90D_0061F6, 0x00F90E_007669, 0x00F90F_007F85, 0x00F910_00863F,
   0x00F911_0087BA, 0x00F912_0088F8, 0x00F913_00908F, 0x00F914_006A02, 0x00F915_006D1B,
   0x00F916_0070D9, 0x00F917_0073DE, 0x00F918_00843D, 0x00F919_00916A, 0x00F91A_0099F1,
   0x00F91B_004E82, 0x00F91C_005375, 0x00F91D_006B04, 0x00F91E_00721B],
  [0x00F91F_00862D, 0x00F920_009E1E, 0x00F921_005D50, 0x00F922_006FEB, 0x00F923_0085CD,
   0x00F924_008964, 0x00F925_0062C9, 0x00F926_0081D8, 0x00F927_00881F, 0x00F928_005ECA,
   0x00F929_006717, 0x00F92A_006D6A, 0x00F92B_0072FC, 0x00F92C_0090CE, 0x00F92D_004F86,
   0x00F92E_0051B7, 0x00F92F_0052DE, 0x00F930_0064C4, 0x00F931_006AD3, 0x00F932_007210,
   0x00F933_0076E7, 0x00F934_008001, 0x00F935_008606, 0x00F936_00865C, 0x00F937_008DEF,
   0x00F938_009732, 0x00F939_009B6F, 0x00F93A_009DFA, 0x00F93B_00788C, 0x00F93C_00797F,
   0x00F93D_007DA0, 0x00F93E_0083C9, 0x00F93F_009304, 0x00F940_009E7F, 0x00F941_008AD6,
   0x00F942_0058DF, 0x00F943_005F04, 0x00F944_007C60, 0x00F945_00807E, 0x00F946_007262,
   0x00F947_0078CA, 0x00F948_008CC2, 0x00F949_0096F7, 0x00F94A_0058D8, 0x00F94B_005C62,
   0x00F94C_006A13, 0x00F94D_006DDA, 0x00F94E_006F0F, 0x00F94F_007D2F, 0x00F950_007E37,
   0x00F951_00964B, 0x00F952_0052D2, 0x00F953_00808B, 0x00F954_0051DC, 0x00F955_0051CC,
   0x00F956_007A1C, 0x00F957_007DBE, 0x00F958_0083F1, 0x00F959_009675, 0x00F95A_008B80,
   0x00F95B_0062CF, 0x00F95C_006A02, 0x00F95D_008AFE, 0x00F95E_004E39],
  [0x00F95F_005BE7, 0x00F960_006012, 0x00F961_007387, 0x00F962_007570, 0x00F963_005317,
   0x00F964_0078FB, 0x00F965_004FBF, 0x00F966_005FA9, 0x00F967_004E0D, 0x00F968_006CCC,
   0x00F969_006578, 0x00F96A_007D22, 0x00F96B_0053C3, 0x00F96C_00585E, 0x00F96D_007701,
   0x00F96E_008449, 0x00F96F_008AAA, 0x00F970_006BBA, 0x00F971_008FB0, 0x00F972_006C88,
   0x00F973_0062FE, 0x00F974_0082E5, 0x00F975_0063A0, 0x00F976_007565, 0x00F977_004EAE,
   0x00F978_005169, 0x00F979_0051C9, 0x00F97A_006881, 0x00F97B_007CE7, 0x00F97C_00826F,
   0x00F97D_008AD2, 0x00F97E_0091CF, 0x00F97F_0052F5, 0x00F980_005442, 0x00F981_005973,
   0x00F982_005EEC, 0x00F983_0065C5, 0x00F984_006FFE, 0x00F985_00792A, 0x00F986_0095AD,
   0x00F987_009A6A, 0x00F988_009E97, 0x00F989_009ECE, 0x00F98A_00529B, 0x00F98B_0066C6,
   0x00F98C_006B77, 0x00F98D_008F62, 0x00F98E_005E74, 0x00F98F_006190, 0x00F990_006200,
   0x00F991_00649A, 0x00F992_006F23, 0x00F993_007149, 0x00F994_007489, 0x00F995_0079CA,
   0x00F996_007DF4, 0x00F997_00806F, 0x00F998_008F26, 0x00F999_0084EE, 0x00F99A_009023,
   0x00F99B_00934A, 0x00F99C_005217, 0x00F99D_0052A3, 0x00F99E_0054BD],
  [0x00F99F_0070C8, 0x00F9A0_0088C2, 0x00F9A1_008AAA, 0x00F9A2_005EC9, 0x00F9A3_005FF5,
   0x00F9A4_00637B, 0x00F9A5_006BAE, 0x00F9A6_007C3E, 0x00F9A7_007375, 0x00F9A8_004EE4,
   0x00F9A9_0056F9, 0x00F9AA_005BE7, 0x00F9AB_005DBA, 0x00F9AC_00601C, 0x00F9AD_0073B2,
   0x00F9AE_007469, 0x00F9AF_007F9A, 0x00F9B0_008046, 0x00F9B1_009234, 0x00F9B2_0096F6,
   0x00F9B3_009748, 0x00F9B4_009818, 0x00F9B5_004F8B, 0x00F9B6_0079AE, 0x00F9B7_0091B4,
   0x00F9B8_0096B8, 0x00F9B9_0060E1, 0x00F9BA_004E86, 0x00F9BB_0050DA, 0x00F9BC_005BEE,
   0x00F9BD_005C3F, 0x00F9BE_006599, 0x00F9BF_006A02, 0x00F9C0_0071CE, 0x00F9C1_007642,
   0x00F9C2_0084FC, 0x00F9C3_00907C, 0x00F9C4_009F8D, 0x00F9C5_006688, 0x00F9C6_00962E,
   0x00F9C7_005289, 0x00F9C8_00677B, 0x00F9C9_0067F3, 0x00F9CA_006D41, 0x00F9CB_006E9C,
   0x00F9CC_007409, 0x00F9CD_007559, 0x00F9CE_00786B, 0x00F9CF_007D10, 0x00F9D0_00985E,
   0x00F9D1_00516D, 0x00F9D2_00622E, 0x00F9D3_009678, 0x00F9D4_00502B, 0x00F9D5_005D19,
   0x00F9D6_006DEA, 0x00F9D7_008F2A, 0x00F9D8_005F8B, 0x00F9D9_006144, 0x00F9DA_006817,
   0x00F9DB_007387, 0x00F9DC_009686, 0x00F9DD_005229, 0x00F9DE_00540F],
  [0x00F9DF_005C65, 0x00F9E0_006613, 0x00F9E1_00674E, 0x00F9E2_0068A8, 0x00F9E3_006CE5,
   0x00F9E4_007406, 0x00F9E5_0075E2, 0x00F9E6_007F79, 0x00F9E7_0088CF, 0x00F9E8_0088E1,
   0x00F9E9_0091CC, 0x00F9EA_0096E2, 0x00F9EB_00533F, 0x00F9EC_006EBA, 0x00F9ED_00541D,
   0x00F9EE_0071D0, 0x00F9EF_007498, 0x00F9F0_0085FA, 0x00F9F1_0096A3, 0x00F9F2_009C57,
   0x00F9F3_009E9F, 0x00F9F4_006797, 0x00F9F5_006DCB, 0x00F9F6_0081E8, 0x00F9F7_007ACB,
   0x00F9F8_007B20, 0x00F9F9_007C92, 0x00F9FA_0072C0, 0x00F9FB_007099, 0x00F9FC_008B58,
   0x00F9FD_004EC0, 0x00F9FE_008336, 0x00F9FF_00523A, 0x00FA00_005207, 0x00FA01_005EA6,
   0x00FA02_0062D3, 0x00FA03_007CD6, 0x00FA04_005B85, 0x00FA05_006D1E, 0x00FA06_0066B4,
   0x00FA07_008F3B, 0x00FA08_00884C, 0x00FA09_00964D, 0x00FA0A_00898B, 0x00FA0B_005ED3,
   0x00FA0C_005140, 0x00FA0D_0055C0, 0x00FA10_00585A, 0x00FA12_006674, 0x00FA15_0051DE,
   0x00FA16_00732A, 0x00FA17_0076CA, 0x00FA18_00793C, 0x00FA19_00795E, 0x00FA1A_007965,
   0x00FA1B_00798F, 0x00FA1C_009756, 0x00FA1D_007CBE, 0x00FA1E_007FBD, 0x00FA20_008612,
   0x00FA22_008AF8, 0x00FA25_009038, 0x00FA26_0090FD, 0x00FA2A_0098EF],
  [0x00FA2B_0098FC, 0x00FA2C_009928, 0x00FA2D_009DB4, 0x00FA2E_0090DE, 0x00FA2F_0096B7,
   0x00FA30_004FAE, 0x00FA31_0050E7, 0x00FA32_00514D, 0x00FA33_0052C9, 0x00FA34_0052E4,
   0x00FA35_005351, 0x00FA36_00559D, 0x00FA37_005606, 0x00FA38_005668, 0x00FA39_005840,
   0x00FA3A_0058A8, 0x00FA3B_005C64, 0x00FA3C_005C6E, 0x00FA3D_006094, 0x00FA3E_006168,
   0x00FA3F_00618E, 0x00FA40_0061F2, 0x00FA41_00654F, 0x00FA42_0065E2, 0x00FA43_006691,
   0x00FA44_006885, 0x00FA45_006D77, 0x00FA46_006E1A, 0x00FA47_006F22, 0x00FA48_00716E,
   0x00FA49_00722B, 0x00FA4A_007422, 0x00FA4B_007891, 0x00FA4C_00793E, 0x00FA4D_007949,
   0x00FA4E_007948, 0x00FA4F_007950, 0x00FA50_007956, 0x00FA51_00795D, 0x00FA52_00798D,
   0x00FA53_00798E, 0x00FA54_007A40, 0x00FA55_007A81, 0x00FA56_007BC0, 0x00FA57_007DF4,
   0x00FA58_007E09, 0x00FA59_007E41, 0x00FA5A_007F72, 0x00FA5B_008005, 0x00FA5C_0081ED,
   0x00FA5D_008279, 0x00FA5E_008279, 0x00FA5F_008457, 0x00FA60_008910, 0x00FA61_008996,
   0x00FA62_008B01, 0x00FA63_008B39, 0x00FA64_008CD3, 0x00FA65_008D08, 0x00FA66_008FB6,
   0x00FA67_009038, 0x00FA68_0096E3, 0x00FA69_0097FF, 0x00FA6A_00983B],
  [0x00FA6B_006075, 0x00FA6C_0242EE, 0x00FA6D_008218, 0x00FA70_004E26, 0x00FA71_0051B5,
   0x00FA72_005168, 0x00FA73_004F80, 0x00FA74_005145, 0x00FA75_005180, 0x00FA76_0052C7,
   0x00FA77_0052FA, 0x00FA78_00559D, 0x00FA79_005555, 0x00FA7A_005599, 0x00FA7B_0055E2,
   0x00FA7C_00585A, 0x00FA7D_0058B3, 0x00FA7E_005944, 0x00FA7F_005954, 0x00FA80_005A62,
   0x00FA81_005B28, 0x00FA82_005ED2, 0x00FA83_005ED9, 0x00FA84_005F69, 0x00FA85_005FAD,
   0x00FA86_0060D8, 0x00FA87_00614E, 0x00FA88_006108, 0x00FA89_00618E, 0x00FA8A_006160,
   0x00FA8B_0061F2, 0x00FA8C_006234, 0x00FA8D_0063C4, 0x00FA8E_00641C, 0x00FA8F_006452,
   0x00FA90_006556, 0x00FA91_006674, 0x00FA92_006717, 0x00FA93_00671B, 0x00FA94_006756,
   0x00FA95_006B79, 0x00FA96_006BBA, 0x00FA97_006D41, 0x00FA98_006EDB, 0x00FA99_006ECB,
   0x00FA9A_006F22, 0x00FA9B_00701E, 0x00FA9C_00716E, 0x00FA9D_0077A7, 0x00FA9E_007235,
   0x00FA9F_0072AF, 0x00FAA0_00732A, 0x00FAA1_007471, 0x00FAA2_007506, 0x00FAA3_00753B,
   0x00FAA4_00761D, 0x00FAA5_00761F, 0x00FAA6_0076CA, 0x00FAA7_0076DB, 0x00FAA8_0076F4,
   0x00FAA9_00774A, 0x00FAAA_007740, 0x00FAAB_0078CC, 0x00FAAC_007AB1],
  [0x00FAAD_007BC0, 0x00FAAE_007C7B, 0x00FAAF_007D5B, 0x00FAB0_007DF4, 0x00FAB1_007F3E,
   0x00FAB2_008005, 0x00FAB3_008352, 0x00FAB4_0083EF, 0x00FAB5_008779, 0x00FAB6_008941,
   0x00FAB7_008986, 0x00FAB8_008996, 0x00FAB9_008ABF, 0x00FABA_008AF8, 0x00FABB_008ACB,
   0x00FABC_008B01, 0x00FABD_008AFE, 0x00FABE_008AED, 0x00FABF_008B39, 0x00FAC0_008B8A,
   0x00FAC1_008D08, 0x00FAC2_008F38, 0x00FAC3_009072, 0x00FAC4_009199, 0x00FAC5_009276,
   0x00FAC6_00967C, 0x00FAC7_0096E3, 0x00FAC8_009756, 0x00FAC9_0097DB, 0x00FACA_0097FF,
   0x00FACB_00980B, 0x00FACC_00983B, 0x00FACD_009B12, 0x00FACE_009F9C, 0x00FACF_02284A,
   0x00FAD0_022844, 0x00FAD1_0233D5, 0x00FAD2_003B9D, 0x00FAD3_004018, 0x00FAD4_004039,
   0x00FAD5_025249, 0x00FAD6_025CD0, 0x00FAD7_027ED3, 0x00FAD8_009F43, 0x00FAD9_009F8E,
   0x02F800_004E3D, 0x02F801_004E38, 0x02F802_004E41, 0x02F803_020122, 0x02F804_004F60,
   0x02F805_004FAE, 0x02F806_004FBB, 0x02F807_005002, 0x02F808_00507A, 0x02F809_005099,
   0x02F80A_0050E7, 0x02F80B_0050CF, 0x02F80C_00349E, 0x02F80D_02063A, 0x02F80E_00514D,
   0x02F80F_005154, 0x02F810_005164, 0x02F811_005177, 0x02F812_02051C],
  [0x02F813_0034B9, 0x02F814_005167, 0x02F815_00518D, 0x02F816_02054B, 0x02F817_005197,
   0x02F818_0051A4, 0x02F819_004ECC, 0x02F81A_0051AC, 0x02F81B_0051B5, 0x02F81C_0291DF,
   0x02F81D_0051F5, 0x02F81E_005203, 0x02F81F_0034DF, 0x02F820_00523B, 0x02F821_005246,
   0x02F822_005272, 0x02F823_005277, 0x02F824_003515, 0x02F825_0052C7, 0x02F826_0052C9,
   0x02F827_0052E4, 0x02F828_0052FA, 0x02F829_005305, 0x02F82A_005306, 0x02F82B_005317,
   0x02F82C_005349, 0x02F82D_005351, 0x02F82E_00535A, 0x02F82F_005373, 0x02F830_00537D,
   0x02F831_00537F, 0x02F832_00537F, 0x02F833_00537F, 0x02F834_020A2C, 0x02F835_007070,
   0x02F836_0053CA, 0x02F837_0053DF, 0x02F838_020B63, 0x02F839_0053EB, 0x02F83A_0053F1,
   0x02F83B_005406, 0x02F83C_00549E, 0x02F83D_005438, 0x02F83E_005448, 0x02F83F_005468,
   0x02F840_0054A2, 0x02F841_0054F6, 0x02F842_005510, 0x02F843_005553, 0x02F844_005563,
   0x02F845_005584, 0x02F846_005584, 0x02F847_005599, 0x02F848_0055AB, 0x02F849_0055B3,
   0x02F84A_0055C2, 0x02F84B_005716, 0x02F84C_005606, 0x02F84D_005717, 0x02F84E_005651,
   0x02F84F_005674, 0x02F850_005207, 0x02F851_0058EE, 0x02F852_0057CE],
  [0x02F853_0057F4, 0x02F854_00580D, 0x02F855_00578B, 0x02F856_005832, 0x02F857_005831,
   0x02F858_0058AC, 0x02F859_0214E4, 0x02F85A_0058F2, 0x02F85B_0058F7, 0x02F85C_005906,
   0x02F85D_00591A, 0x02F85E_005922, 0x02F85F_005962, 0x02F860_0216A8, 0x02F861_0216EA,
   0x02F862_0059EC, 0x02F863_005A1B, 0x02F864_005A27, 0x02F865_0059D8, 0x02F866_005A66,
   0x02F867_0036EE, 0x02F868_0036FC, 0x02F869_005B08, 0x02F86A_005B3E, 0x02F86B_005B3E,
   0x02F86C_0219C8, 0x02F86D_005BC3, 0x02F86E_005BD8, 0x02F86F_005BE7, 0x02F870_005BF3,
   0x02F871_021B18, 0x02F872_005BFF, 0x02F873_005C06, 0x02F874_005F53, 0x02F875_005C22,
   0x02F876_003781, 0x02F877_005C60, 0x02F878_005C6E, 0x02F879_005CC0, 0x02F87A_005C8D,
   0x02F87B_021DE4, 0x02F87C_005D43, 0x02F87D_021DE6, 0x02F87E_005D6E, 0x02F87F_005D6B,
   0x02F880_005D7C, 0x02F881_005DE1, 0x02F882_005DE2, 0x02F883_00382F, 0x02F884_005DFD,
   0x02F885_005E28, 0x02F886_005E3D, 0x02F887_005E69, 0x02F888_003862, 0x02F889_022183,
   0x02F88A_00387C, 0x02F88B_005EB0, 0x02F88C_005EB3, 0x02F88D_005EB6, 0x02F88E_005ECA,
   0x02F88F_02A392, 0x02F890_005EFE, 0x02F891_022331, 0x02F892_022331],
  [0x02F893_008201, 0x02F894_005F22, 0x02F895_005F22, 0x02F896_0038C7, 0x02F897_0232B8,
   0x02F898_0261DA, 0x02F899_005F62, 0x02F89A_005F6B, 0x02F89B_0038E3, 0x02F89C_005F9A,
   0x02F89D_005FCD, 0x02F89E_005FD7, 0x02F89F_005FF9, 0x02F8A0_006081, 0x02F8A1_00393A,
   0x02F8A2_00391C, 0x02F8A3_006094, 0x02F8A4_0226D4, 0x02F8A5_0060C7, 0x02F8A6_006148,
   0x02F8A7_00614C, 0x02F8A8_00614E, 0x02F8A9_00614C, 0x02F8AA_00617A, 0x02F8AB_00618E,
   0x02F8AC_0061B2, 0x02F8AD_0061A4, 0x02F8AE_0061AF, 0x02F8AF_0061DE, 0x02F8B0_0061F2,
   0x02F8B1_0061F6, 0x02F8B2_006210, 0x02F8B3_00621B, 0x02F8B4_00625D, 0x02F8B5_0062B1,
   0x02F8B6_0062D4, 0x02F8B7_006350, 0x02F8B8_022B0C, 0x02F8B9_00633D, 0x02F8BA_0062FC,
   0x02F8BB_006368, 0x02F8BC_006383, 0x02F8BD_0063E4, 0x02F8BE_022BF1, 0x02F8BF_006422,
   0x02F8C0_0063C5, 0x02F8C1_0063A9, 0x02F8C2_003A2E, 0x02F8C3_006469, 0x02F8C4_00647E,
   0x02F8C5_00649D, 0x02F8C6_006477, 0x02F8C7_003A6C, 0x02F8C8_00654F, 0x02F8C9_00656C,
   0x02F8CA_02300A, 0x02F8CB_0065E3, 0x02F8CC_0066F8, 0x02F8CD_006649, 0x02F8CE_003B19,
   0x02F8CF_006691, 0x02F8D0_003B08, 0x02F8D1_003AE4, 0x02F8D2_005192],
  [0x02F8D3_005195, 0x02F8D4_006700, 0x02F8D5_00669C, 0x02F8D6_0080AD, 0x02F8D7_0043D9,
   0x02F8D8_006717, 0x02F8D9_00671B, 0x02F8DA_006721, 0x02F8DB_00675E, 0x02F8DC_006753,
   0x02F8DD_0233C3, 0x02F8DE_003B49, 0x02F8DF_0067FA, 0x02F8E0_006785, 0x02F8E1_006852,
   0x02F8E2_006885, 0x02F8E3_02346D, 0x02F8E4_00688E, 0x02F8E5_00681F, 0x02F8E6_006914,
   0x02F8E7_003B9D, 0x02F8E8_006942, 0x02F8E9_0069A3, 0x02F8EA_0069EA, 0x02F8EB_006AA8,
   0x02F8EC_0236A3, 0x02F8ED_006ADB, 0x02F8EE_003C18, 0x02F8EF_006B21, 0x02F8F0_0238A7,
   0x02F8F1_006B54, 0x02F8F2_003C4E, 0x02F8F3_006B72, 0x02F8F4_006B9F, 0x02F8F5_006BBA,
   0x02F8F6_006BBB, 0x02F8F7_023A8D, 0x02F8F8_021D0B, 0x02F8F9_023AFA, 0x02F8FA_006C4E,
   0x02F8FB_023CBC, 0x02F8FC_006CBF, 0x02F8FD_006CCD, 0x02F8FE_006C67, 0x02F8FF_006D16,
   0x02F900_006D3E, 0x02F901_006D77, 0x02F902_006D41, 0x02F903_006D69, 0x02F904_006D78,
   0x02F905_006D85, 0x02F906_023D1E, 0x02F907_006D34, 0x02F908_006E2F, 0x02F909_006E6E,
   0x02F90A_003D33, 0x02F90B_006ECB, 0x02F90C_006EC7, 0x02F90D_023ED1, 0x02F90E_006DF9,
   0x02F90F_006F6E, 0x02F910_023F5E, 0x02F911_023F8E, 0x02F912_006FC6],
  [0x02F913_007039, 0x02F914_00701E, 0x02F915_00701B, 0x02F916_003D96, 0x02F917_00704A,
   0x02F918_00707D, 0x02F919_007077, 0x02F91A_0070AD, 0x02F91B_020525, 0x02F91C_007145,
   0x02F91D_024263, 0x02F91E_00719C, 0x02F91F_0243AB, 0x02F920_007228, 0x02F921_007235,
   0x02F922_007250, 0x02F923_024608, 0x02F924_007280, 0x02F925_007295, 0x02F926_024735,
   0x02F927_024814, 0x02F928_00737A, 0x02F929_00738B, 0x02F92A_003EAC, 0x02F92B_0073A5,
   0x02F92C_003EB8, 0x02F92D_003EB8, 0x02F92E_007447, 0x02F92F_00745C, 0x02F930_007471,
   0x02F931_007485, 0x02F932_0074CA, 0x02F933_003F1B, 0x02F934_007524, 0x02F935_024C36,
   0x02F936_00753E, 0x02F937_024C92, 0x02F938_007570, 0x02F939_02219F, 0x02F93A_007610,
   0x02F93B_024FA1, 0x02F93C_024FB8, 0x02F93D_025044, 0x02F93E_003FFC, 0x02F93F_004008,
   0x02F940_0076F4, 0x02F941_0250F3, 0x02F942_0250F2, 0x02F943_025119, 0x02F944_025133,
   0x02F945_00771E, 0x02F946_00771F, 0x02F947_00771F, 0x02F948_00774A, 0x02F949_004039,
   0x02F94A_00778B, 0x02F94B_004046, 0x02F94C_004096, 0x02F94D_02541D, 0x02F94E_00784E,
   0x02F94F_00788C, 0x02F950_0078CC, 0x02F951_0040E3, 0x02F952_025626],
  [0x02F953_007956, 0x02F954_02569A, 0x02F955_0256C5, 0x02F956_00798F, 0x02F957_0079EB,
   0x02F958_00412F, 0x02F959_007A40, 0x02F95A_007A4A, 0x02F95B_007A4F, 0x02F95C_02597C,
   0x02F95D_025AA7, 0x02F95E_025AA7, 0x02F95F_007AEE, 0x02F960_004202, 0x02F961_025BAB,
   0x02F962_007BC6, 0x02F963_007BC9, 0x02F964_004227, 0x02F965_025C80, 0x02F966_007CD2,
   0x02F967_0042A0, 0x02F968_007CE8, 0x02F969_007CE3, 0x02F96A_007D00, 0x02F96B_025F86,
   0x02F96C_007D63, 0x02F96D_004301, 0x02F96E_007DC7, 0x02F96F_007E02, 0x02F970_007E45,
   0x02F971_004334, 0x02F972_026228, 0x02F973_026247, 0x02F974_004359, 0x02F975_0262D9,
   0x02F976_007F7A, 0x02F977_02633E, 0x02F978_007F95, 0x02F979_007FFA, 0x02F97A_008005,
   0x02F97B_0264DA, 0x02F97C_026523, 0x02F97D_008060, 0x02F97E_0265A8, 0x02F97F_008070,
   0x02F980_02335F, 0x02F981_0043D5, 0x02F982_0080B2, 0x02F983_008103, 0x02F984_00440B,
   0x02F985_00813E, 0x02F986_005AB5, 0x02F987_0267A7, 0x02F988_0267B5, 0x02F989_023393,
   0x02F98A_02339C, 0x02F98B_008201, 0x02F98C_008204, 0x02F98D_008F9E, 0x02F98E_00446B,
   0x02F98F_008291, 0x02F990_00828B, 0x02F991_00829D, 0x02F992_0052B3],
  [0x02F993_0082B1, 0x02F994_0082B3, 0x02F995_0082BD, 0x02F996_0082E6, 0x02F997_026B3C,
   0x02F998_0082E5, 0x02F999_00831D, 0x02F99A_008363, 0x02F99B_0083AD, 0x02F99C_008323,
   0x02F99D_0083BD, 0x02F99E_0083E7, 0x02F99F_008457, 0x02F9A0_008353, 0x02F9A1_0083CA,
   0x02F9A2_0083CC, 0x02F9A3_0083DC, 0x02F9A4_026C36, 0x02F9A5_026D6B, 0x02F9A6_026CD5,
   0x02F9A7_00452B, 0x02F9A8_0084F1, 0x02F9A9_0084F3, 0x02F9AA_008516, 0x02F9AB_0273CA,
   0x02F9AC_008564, 0x02F9AD_026F2C, 0x02F9AE_00455D, 0x02F9AF_004561, 0x02F9B0_026FB1,
   0x02F9B1_0270D2, 0x02F9B2_00456B, 0x02F9B3_008650, 0x02F9B4_00865C, 0x02F9B5_008667,
   0x02F9B6_008669, 0x02F9B7_0086A9, 0x02F9B8_008688, 0x02F9B9_00870E, 0x02F9BA_0086E2,
   0x02F9BB_008779, 0x02F9BC_008728, 0x02F9BD_00876B, 0x02F9BE_008786, 0x02F9BF_0045D7,
   0x02F9C0_0087E1, 0x02F9C1_008801, 0x02F9C2_0045F9, 0x02F9C3_008860, 0x02F9C4_008863,
   0x02F9C5_027667, 0x02F9C6_0088D7, 0x02F9C7_0088DE, 0x02F9C8_004635, 0x02F9C9_0088FA,
   0x02F9CA_0034BB, 0x02F9CB_0278AE, 0x02F9CC_027966, 0x02F9CD_0046BE, 0x02F9CE_0046C7,
   0x02F9CF_008AA0, 0x02F9D0_008AED, 0x02F9D1_008B8A, 0x02F9D2_008C55],
  [0x02F9D3_027CA8, 0x02F9D4_008CAB, 0x02F9D5_008CC1, 0x02F9D6_008D1B, 0x02F9D7_008D77,
   0x02F9D8_027F2F, 0x02F9D9_020804, 0x02F9DA_008DCB, 0x02F9DB_008DBC, 0x02F9DC_008DF0,
   0x02F9DD_0208DE, 0x02F9DE_008ED4, 0x02F9DF_008F38, 0x02F9E0_0285D2, 0x02F9E1_0285ED,
   0x02F9E2_009094, 0x02F9E3_0090F1, 0x02F9E4_009111, 0x02F9E5_02872E, 0x02F9E6_00911B,
   0x02F9E7_009238, 0x02F9E8_0092D7, 0x02F9E9_0092D8, 0x02F9EA_00927C, 0x02F9EB_0093F9,
   0x02F9EC_009415, 0x02F9ED_028BFA, 0x02F9EE_00958B, 0x02F9EF_004995, 0x02F9F0_0095B7,
   0x02F9F1_028D77, 0x02F9F2_0049E6, 0x02F9F3_0096C3, 0x02F9F4_005DB2, 0x02F9F5_009723,
   0x02F9F6_029145, 0x02F9F7_02921A, 0x02F9F8_004A6E, 0x02F9F9_004A76, 0x02F9FA_0097E0,
   0x02F9FB_02940A, 0x02F9FC_004AB2, 0x02F9FD_029496, 0x02F9FE_00980B, 0x02F9FF_00980B,
   0x02FA00_009829, 0x02FA01_0295B6, 0x02FA02_0098E2, 0x02FA03_004B33, 0x02FA04_009929,
   0x02FA05_0099A7, 0x02FA06_0099C2, 0x02FA07_0099FE, 0x02FA08_004BCE, 0x02FA09_029B30,
   0x02FA0A_009B12, 0x02FA0B_009C40, 0x02FA0C_009CFD, 0x02FA0D_004CCE, 0x02FA0E_004CED,
   0x02FA0F_009D67, 0x02FA10_02A0CE, 0x02FA11_004CF8, 0x02FA12_02A105],
  [0x02FA13_02A20E, 0x02FA14_02A291, 0x02FA15_009EBB, 0x02FA16_004D56, 0x02FA17_009EF9,
   0x02FA18_009EFE, 0x02FA19_009F05, 0x02FA1A_009F0F, 0x02FA1B_009F16, 0x02FA1C_009F3B,
   0x02FA1D_02A600]]⟩

/-- Canonical decompositions into two code points, one step. -/
def pairs : Rows := ⟨[
  [0x0000C0_000041_000300, 0x0000C1_000041_000301, 0x0000C2_000041_000302,
   0x0000C3_000041_000303, 0x0000C4_000041_000308, 0x0000C5_000041_00030A,
   0x0000C7_000043_000327, 0x0000C8_000045_000300, 0x0000C9_000045_000301,
   0x0000CA_000045_000302, 0x0000CB_000045_000308, 0x0000CC_000049_000300,
   0x0000CD_000049_000301, 0x0000CE_000049_000302, 0x0000CF_000049_000308,
   0x0000D1_00004E_000303, 0x0000D2_00004F_000300, 0x0000D3_00004F_000301,
   0x0000D4_00004F_000302, 0x0000D5_00004F_000303, 0x0000D6_00004F_000308,
   0x0000D9_000055_000300, 0x0000DA_000055_000301, 0x0000DB_000055_000302,
   0x0000DC_000055_000308, 0x0000DD_000059_000301, 0x0000E0_000061_000300,
   0x0000E1_000061_000301, 0x0000E2_000061_000302, 0x0000E3_000061_000303,
   0x0000E4_000061_000308, 0x0000E5_000061_00030A, 0x0000E7_000063_000327,
   0x0000E8_000065_000300, 0x0000E9_000065_000301, 0x0000EA_000065_000302,
   0x0000EB_000065_000308, 0x0000EC_000069_000300, 0x0000ED_000069_000301,
   0x0000EE_000069_000302, 0x0000EF_000069_000308, 0x0000F1_00006E_000303,
   0x0000F2_00006F_000300, 0x0000F3_00006F_000301, 0x0000F4_00006F_000302,
   0x0000F5_00006F_000303, 0x0000F6_00006F_000308, 0x0000F9_000075_000300,
   0x0000FA_000075_000301, 0x0000FB_000075_000302, 0x0000FC_000075_000308,
   0x0000FD_000079_000301, 0x0000FF_000079_000308, 0x000100_000041_000304,
   0x000101_000061_000304, 0x000102_000041_000306, 0x000103_000061_000306,
   0x000104_000041_000328, 0x000105_000061_000328, 0x000106_000043_000301,
   0x000107_000063_000301, 0x000108_000043_000302, 0x000109_000063_000302, 0x00010A_000043_000307],
  [0x00010B_000063_000307, 0x00010C_000043_00030C, 0x00010D_000063_00030C,
   0x00010E_000044_00030C, 0x00010F_000064_00030C, 0x000112_000045_000304,
   0x000113_000065_000304, 0x000114_000045_000306, 0x000115_000065_000306,
   0x000116_000045_000307, 0x000117_000065_000307, 0x000118_000045_000328,
   0x000119_000065_000328, 0x00011A_000045_00030C, 0x00011B_000065_00030C,
   0x00011C_000047_000302, 0x00011D_000067_000302, 0x00011E_000047_000306,
   0x00011F_000067_000306, 0x000120_000047_000307, 0x000121_000067_000307,
   0x000122_000047_000327, 0x000123_000067_000327, 0x000124_000048_000302,
   0x000125_000068_000302, 0x000128_000049_000303, 0x000129_000069_000303,
   0x00012A_000049_000304, 0x00012B_000069_000304, 0x00012C_000049_000306,
   0x00012D_000069_000306, 0x00012E_000049_000328, 0x00012F_000069_000328,
   0x000130_000049_000307, 0x000134_00004A_000302, 0x000135_00006A_000302,
   0x000136_00004B_000327, 0x000137_00006B_000327, 0x000139_00004C_000301,
   0x00013A_00006C_000301, 0x00013B_00004C_000327, 0x00013C_00006C_000327,
   0x00013D_00004C_00030C, 0x00013E_00006C_00030C, 0x000143_00004E_000301,
   0x000144_00006E_000301, 0x000145_00004E_000327, 0x000146_00006E_000327,
   0x000147_00004E_00030C, 0x000148_00006E_00030C, 0x00014C_00004F_000304,
   0x00014D_00006F_000304, 0x00014E_00004F_000306, 0x00014F_00006F_000306,
   0x000150_00004F_00030B, 0x000151_00006F_00030B, 0x000154_000052_000301,
   0x000155_000072_000301, 0x000156_000052_000327, 0x000157_000072_000327,
   0x000158_000052_00030C, 0x000159_000072_00030C, 0x00015A_000053_000301, 0x00015B_000073_000301],
  [0x00015C_000053_000302, 0x00015D_000073_000302, 0x00015E_000053_000327,
   0x00015F_000073_000327, 0x000160_000053_00030C, 0x000161_000073_00030C,
   0x000162_000054_000327, 0x000163_000074_000327, 0x000164_000054_00030C,
   0x000165_000074_00030C, 0x000168_000055_000303, 0x000169_000075_000303,
   0x00016A_000055_000304, 0x00016B_000075_000304, 0x00016C_000055_000306,
   0x00016D_000075_000306, 0x00016E_000055_00030A, 0x00016F_000075_00030A,
   0x000170_000055_00030B, 0x000171_000075_00030B, 0x000172_000055_000328,
   0x000173_000075_000328, 0x000174_000057_000302, 0x000175_000077_000302,
   0x000176_000059_000302, 0x000177_000079_000302, 0x000178_000059_000308,
   0x000179_00005A_000301, 0x00017A_00007A_000301, 0x00017B_00005A_000307,
   0x00017C_00007A_000307, 0x00017D_00005A_00030C, 0x00017E_00007A_00030C,
   0x0001A0_00004F_00031B, 0x0001A1_00006F_00031B, 0x0001AF_000055_00031B,
   0x0001B0_000075_00031B, 0x0001CD_000041_00030C, 0x0001CE_000061_00030C,
   0x0001CF_000049_00030C, 0x0001D0_000069_00030C, 0x0001D1_00004F_00030C,
   0x0001D2_00006F_00030C, 0x0001D3_000055_00030C, 0x0001D4_000075_00030C,
   0x0001D5_0000DC_000304, 0x0001D6_0000FC_000304, 0x0001D7_0000DC_000301,
   0x0001D8_0000FC_000301, 0x0001D9_0000DC_00030C, 0x0001DA_0000FC_00030C,
   0x0001DB_0000DC_000300, 0x0001DC_0000FC_000300, 0x0001DE_0000C4_000304,
   0x0001DF_0000E4_000304, 0x0001E0_000226_000304, 0x0001E1_000227_000304,
   0x0001E2_0000C6_000304, 0x0001E3_0000E6_000304, 0x0001E6_000047_00030C,
   0x0001E7_000067_00030C, 0x0001E8_00004B_00030C, 0x0001E9_00006B_00030C, 0x0001EA_00004F_000328],
  [0x0001EB_00006F_000328, 0x0001EC_0001EA_000304, 0x0001ED_0001EB_000304,
   0x0001EE_0001B7_00030C, 0x0001EF_000292_00030C, 0x0001F0_00006A_00030C,
   0x0001F4_000047_000301, 0x0001F5_000067_000301, 0x0001F8_00004E_000300,
   0x0001F9_00006E_000300, 0x0001FA_0000C5_000301, 0x0001FB_0000E5_000301,
   0x0001FC_0000C6_000301, 0x0001FD_0000E6_000301, 0x0001FE_0000D8_000301,
   0x0001FF_0000F8_000301, 0x000200_000041_00030F, 0x000201_000061_00030F,
   0x000202_000041_000311, 0x000203_000061_000311, 0x000204_000045_00030F,
   0x000205_000065_00030F, 0x000206_000045_000311, 0x000207_000065_000311,
   0x000208_000049_00030F, 0x000209_000069_00030F, 0x00020A_000049_000311,
   0x00020B_000069_000311, 0x00020C_00004F_00030F, 0x00020D_00006F_00030F,
   0x00020E_00004F_000311, 0x00020F_00006F_000311, 0x000210_000052_00030F,
   0x000211_000072_00030F, 0x000212_000052_000311, 0x000213_000072_000311,
   0x000214_000055_00030F, 0x000215_000075_00030F, 0x000216_000055_000311,
   0x000217_000075_000311, 0x000218_000053_000326, 0x000219_000073_000326,
   0x00021A_000054_000326, 0x00021B_000074_000326, 0x00021E_000048_00030C,
   0x00021F_000068_00030C, 0x000226_000041_000307, 0x000227_000061_000307,
   0x000228_000045_000327, 0x000229_000065_000327, 0x00022A_0000D6_000304,
   0x00022B_0000F6_000304, 0x00022C_0000D5_000304, 0x00022D_0000F5_000304,
   0x00022E_00004F_000307, 0x00022F_00006F_000307, 0x000230_00022E_000304,
   0x000231_00022F_000304, 0x000232_000059_000304, 0x000233_000079_000304,
   0x000344_000308_000301, 0x000385_0000A8_000301, 0x000386_000391_000301, 0x000388_000395_000301],
  [0x000389_000397_000301, 0x00038A_000399_000301, 0x00038C_00039F_000301,
   0x00038E_0003A5_000301, 0x00038F_0003A9_000301, 0x000390_0003CA_000301,
   0x0003AA_000399_000308, 0x0003AB_0003A5_000308, 0x0003AC_0003B1_000301,
   0x0003AD_0003B5_000301, 0x0003AE_0003B7_000301, 0x0003AF_0003B9_000301,
   0x0003B0_0003CB_000301, 0x0003CA_0003B9_000308, 0x0003CB_0003C5_000308,
   0x0003CC_0003BF_000301, 0x0003CD_0003C5_000301, 0x0003CE_0003C9_000301,
   0x0003D3_0003D2_000301, 0x0003D4_0003D2_000308, 0x000400_000415_000300,
   0x000401_000415_000308, 0x000403_000413_000301, 0x000407_000406_000308,
   0x00040C_00041A_000301, 0x00040D_000418_000300, 0x00040E_000423_000306,
   0x000419_000418_000306, 0x000439_000438_000306, 0x000450_000435_000300,
   0x000451_000435_000308, 0x000453_000433_000301, 0x000457_000456_000308,
   0x00045C_00043A_000301, 0x00045D_000438_000300, 0x00045E_000443_000306,
   0x000476_000474_00030F, 0x000477_000475_00030F, 0x0004C1_000416_000306,
   0x0004C2_000436_000306, 0x0004D0_000410_000306, 0x0004D1_000430_000306,
   0x0004D2_000410_000308, 0x0004D3_000430_000308, 0x0004D6_000415_000306,
   0x0004D7_000435_000306, 0x0004DA_0004D8_000308, 0x0004DB_0004D9_000308,
   0x0004DC_000416_000308, 0x0004DD_000436_000308, 0x0004DE_000417_000308,
   0x0004DF_000437_000308, 0x0004E2_000418_000304, 0x0004E3_000438_000304,
   0x0004E4_000418_000308, 0x0004E5_000438_000308, 0x0004E6_00041E_000308,
   0x0004E7_00043E_000308, 0x0004EA_0004E8_000308, 0x0004EB_0004E9_000308,
   0x0004EC_00042D_000308, 0x0004ED_00044D_000308, 0x0004EE_000423_000304, 0x0004EF_000443_000304],
  [0x0004F0_000423_000308, 0x0004F1_000443_000308, 0x0004F2_000423_00030B,
   0x0004F3_000443_00030B, 0x0004F4_000427_000308, 0x0004F5_000447_000308,
   0x0004F8_00042B_000308, 0x0004F9_00044B_000308, 0x000622_000627_000653,
   0x000623_000627_000654, 0x000624_000648_000654, 0x000625_000627_000655,
   0x000626_00064A_000654, 0x0006C0_0006D5_000654, 0x0006C2_0006C1_000654,
   0x0006D3_0006D2_000654, 0x000929_000928_00093C, 0x000931_000930_00093C,
   0x000934_000933_00093C, 0x000958_000915_00093C, 0x000959_000916_00093C,
   0x00095A_000917_00093C, 0x00095B_00091C_00093C, 0x00095C_000921_00093C,
   0x00095D_000922_00093C, 0x00095E_00092B_00093C, 0x00095F_00092F_00093C,
   0x0009CB_0009C7_0009BE, 0x0009CC_0009C7_0009D7, 0x0009DC_0009A1_0009BC,
   0x0009DD_0009A2_0009BC, 0x0009DF_0009AF_0009BC, 0x000A33_000A32_000A3C,
   0x000A36_000A38_000A3C, 0x000A59_000A16_000A3C, 0x000A5A_000A17_000A3C,
   0x000A5B_000A1C_000A3C, 0x000A5E_000A2B_000A3C, 0x000B48_000B47_000B56,
   0x000B4B_000B47_000B3E, 0x000B4C_000B47_000B57, 0x000B5C_000B21_000B3C,
   0x000B5D_000B22_000B3C, 0x000B94_000B92_000BD7, 0x000BCA_000BC6_000BBE,
   0x000BCB_000BC7_000BBE, 0x000BCC_000BC6_000BD7, 0x000C48_000C46_000C56,
   0x000CC0_000CBF_000CD5, 0x000CC7_000CC6_000CD5, 0x000CC8_000CC6_000CD6,
   0x000CCA_000CC6_000CC2, 0x000CCB_000CCA_000CD5, 0x000D4A_000D46_000D3E,
   0x000D4B_000D47_000D3E, 0x000D4C_000D46_000D57, 0x000DDA_000DD9_000DCA,
   0x000DDC_000DD9_000DCF, 0x000DDD_000DDC_000DCA, 0x000DDE_000DD9_000DDF,
   0x000F43_000F42_000FB7, 0x000F4D_000F4C_000FB7, 0x000F52_000F51_000FB7, 0x000F57_000F56_000FB7],
  [0x000F5C_000F5B_000FB7, 0x000F69_000F40_000FB5, 0x000F73_000F71_000F72,
   0x000F75_000F71_000F74, 0x000F76_000FB2_000F80, 0x000F78_000FB3_000F80,
   0x000F81_000F71_000F80, 0x000F93_000F92_000FB7, 0x000F9D_000F9C_000FB7,
   0x000FA2_000FA1_000FB7, 0x000FA7_000FA6_000FB7, 0x000FAC_000FAB_000FB7,
   0x000FB9_000F90_000FB5, 0x001026_001025_00102E, 0x001B06_001B05_001B35,
   0x001B08_001B07_001B35, 0x001B0A_001B09_001B35, 0x001B0C_001B0B_001B35,
   0x001B0E_001B0D_001B35, 0x001B12_001B11_001B35, 0x001B3B_001B3A_001B35,
   0x001B3D_001B3C_001B35, 0x001B40_001B3E_001B35, 0x001B41_001B3F_001B35,
   0x001B43_001B42_001B35, 0x001E00_000041_000325, 0x001E01_000061_000325,
   0x001E02_000042_000307, 0x001E03_000062_000307, 0x001E04_000042_000323,
   0x001E05_000062_000323, 0x001E06_000042_000331, 0x001E07_000062_000331,
   0x001E08_0000C7_000301, 0x001E09_0000E7_000301, 0x001E0A_000044_000307,
   0x001E0B_000064_000307, 0x001E0C_000044_000323, 0x001E0D_000064_000323,
   0x001E0E_000044_000331, 0x001E0F_000064_000331, 0x001E10_000044_000327,
   0x001E11_000064_000327, 0x001E12_000044_00032D, 0x001E13_000064_00032D,
   0x001E14_000112_000300, 0x001E15_000113_000300, 0x001E16_000112_000301,
   0x001E17_000113_000301, 0x001E18_000045_00032D, 0x001E19_000065_00032D,
   0x001E1A_000045_000330, 0x001E1B_000065_000330, 0x001E1C_000228_000306,
   0x001E1D_000229_000306, 0x001E1E_000046_000307, 0x001E1F_000066_000307,
   0x001E20_000047_000304, 0x001E21_000067_000304, 0x001E22_000048_000307,
   0x001E23_000068_000307, 0x001E24_000048_000323, 0x001E25_000068_000323, 0x001E26_000048_000308],
  [0x001E27_000068_000308, 0x001E28_000048_000327, 0x001E29_000068_000327,
   0x001E2A_000048_00032E, 0x001E2B_000068_00032E, 0x001E2C_000049_000330,
   0x001E2D_000069_000330, 0x001E2E_0000CF_000301, 0x001E2F_0000EF_000301,
   0x001E30_00004B_000301, 0x001E31_00006B_000301, 0x001E32_00004B_000323,
   0x001E33_00006B_000323, 0x001E34_00004B_000331, 0x001E35_00006B_000331,
   0x001E36_00004C_000323, 0x001E37_00006C_000323, 0x001E38_001E36_000304,
   0x001E39_001E37_000304, 0x001E3A_00004C_000331, 0x001E3B_00006C_000331,
   0x001E3C_00004C_00032D, 0x001E3D_00006C_00032D, 0x001E3E_00004D_000301,
   0x001E3F_00006D_000301, 0x001E40_00004D_000307, 0x001E41_00006D_000307,
   0x001E42_00004D_000323, 0x001E43_00006D_000323, 0x001E44_00004E_000307,
   0x001E45_00006E_000307, 0x001E46_00004E_000323, 0x001E47_00006E_000323,
   0x001E48_00004E_000331, 0x001E49_00006E_000331, 0x001E4A_00004E_00032D,
   0x001E4B_00006E_00032D, 0x001E4C_0000D5_000301, 0x001E4D_0000F5_000301,
   0x001E4E_0000D5_000308, 0x001E4F_0000F5_000308, 0x001E50_00014C_000300,
   0x001E51_00014D_000300, 0x001E52_00014C_000301, 0x001E53_00014D_000301,
   0x001E54_000050_000301, 0x001E55_000070_000301, 0x001E56_000050_000307,
   0x001E57_000070_000307, 0x001E58_000052_000307, 0x001E59_000072_000307,
   0x001E5A_000052_000323, 0x001E5B_000072_000323, 0x001E5C_001E5A_000304,
   0x001E5D_001E5B_000304, 0x001E5E_000052_000331, 0x001E5F_000072_000331,
   0x001E60_000053_000307, 0x001E61_000073_000307, 0x001E62_000053_000323,
   0x001E63_000073_000323, 0x001E64_00015A_000307, 0x001E65_00015B_000307, 0x001E66_000160_000307],
  [0x001E67_000161_000307, 0x001E68_001E62_000307, 0x001E69_001E63_000307,
   0x001E6A_000054_000307, 0x001E6B_000074_000307, 0x001E6C_000054_000323,
   0x001E6D_000074_000323, 0x001E6E_000054_000331, 0x001E6F_000074_000331,
   0x001E70_000054_00032D, 0x001E71_000074_00032D, 0x001E72_000055_000324,
   0x001E73_000075_000324, 0x001E74_000055_000330, 0x001E75_000075_000330,
   0x001E76_000055_00032D, 0x001E77_000075_00032D, 0x001E78_000168_000301,
   0x001E79_000169_000301, 0x001E7A_00016A_000308, 0x001E7B_00016B_000308,
   0x001E7C_000056_000303, 0x001E7D_000076_000303, 0x001E7E_000056_000323,
   0x001E7F_000076_000323, 0x001E80_000057_000300, 0x001E81_000077_000300,
   0x001E82_000057_000301, 0x001E83_000077_000301, 0x001E84_000057_000308,
   0x001E85_000077_000308, 0x001E86_000057_000307, 0x001E87_000077_000307,
   0x001E88_000057_000323, 0x001E89_000077_000323, 0x001E8A_000058_000307,
   0x001E8B_000078_000307, 0x001E8C_000058_000308, 0x001E8D_000078_000308,
   0x001E8E_000059_000307, 0x001E8F_000079_000307, 0x001E90_00005A_000302,
   0x001E91_00007A_000302, 0x001E92_00005A_000323, 0x001E93_00007A_000323,
   0x001E94_00005A_000331, 0x001E95_00007A_000331, 0x001E96_000068_000331,
   0x001E97_000074_000308, 0x001E98_000077_00030A, 0x001E99_000079_00030A,
   0x001E9B_00017F_000307, 0x001EA0_000041_000323, 0x001EA1_000061_000323,
   0x001EA2_000041_000309, 0x001EA3_000061_000309, 0x001EA4_0000C2_000301,
   0x001EA5_0000E2_000301, 0x001EA6_0000C2_000300, 0x001EA7_0000E2_000300,
   0x001EA8_0000C2_000309, 0x001EA9_0000E2_000309, 0x001EAA_0000C2_000303, 0x001EAB_0000E2_000303],
  [0x001EAC_001EA0_000302, 0x001EAD_001EA1_000302, 0x001EAE_000102_000301,
   0x001EAF_000103_000301, 0x001EB0_000102_000300, 0x001EB1_000103_000300,
   0x001EB2_000102_000309, 0x001EB3_000103_000309, 0x001EB4_000102_000303,
   0x001EB5_000103_000303, 0x001EB6_001EA0_000306, 0x001EB7_001EA1_000306,
   0x001EB8_000045_000323, 0x001EB9_000065_000323, 0x001EBA_000045_000309,
   0x001EBB_000065_000309, 0x001EBC_000045_000303, 0x001EBD_000065_000303,
   0x001EBE_0000CA_000301, 0x001EBF_0000EA_000301, 0x001EC0_0000CA_000300,
   0x001EC1_0000EA_000300, 0x001EC2_0000CA_000309, 0x001EC3_0000EA_000309,
   0x001EC4_0000CA_000303, 0x001EC5_0000EA_000303, 0x001EC6_001EB8_000302,
   0x001EC7_001EB9_000302, 0x001EC8_000049_000309, 0x001EC9_000069_000309,
   0x001ECA_000049_000323, 0x001ECB_000069_000323, 0x001ECC_00004F_000323,
   0x001ECD_00006F_000323, 0x001ECE_00004F_000309, 0x001ECF_00006F_000309,
   0x001ED0_0000D4_000301, 0x001ED1_0000F4_000301, 0x001ED2_0000D4_000300,
   0x001ED3_0000F4_000300, 0x001ED4_0000D4_000309, 0x001ED5_0000F4_000309,
   0x001ED6_0000D4_000303, 0x001ED7_0000F4_000303, 0x001ED8_001ECC_000302,
   0x001ED9_001ECD_000302, 0x001EDA_0001A0_000301, 0x001EDB_0001A1_000301,
   0x001EDC_0001A0_000300, 0x001EDD_0001A1_000300, 0x001EDE_0001A0_000309,
   0x001EDF_0001A1_000309, 0x001EE0_0001A0_000303, 0x001EE1_0001A1_000303,
   0x001EE2_0001A0_000323, 0x001EE3_0001A1_000323, 0x001EE4_000055_000323,
   0x001EE5_000075_000323, 0x001EE6_000055_000309, 0x001EE7_000075_000309,
   0x001EE8_0001AF_000301, 0x001EE9_0001B0_000301, 0x001EEA_0001AF_000300, 0x001EEB_0001B0_000300],
  [0x001EEC_0001AF_000309, 0x001EED_0001B0_000309, 0x001EEE_0001AF_000303,
   0x001EEF_0001B0_000303, 0x001EF0_0001AF_000323, 0x001EF1_0001B0_000323,
   0x001EF2_000059_000300, 0x001EF3_000079_000300, 0x001EF4_000059_000323,
   0x001EF5_000079_000323, 0x001EF6_000059_000309, 0x001EF7_000079_000309,
   0x001EF8_000059_000303, 0x001EF9_000079_000303, 0x001F00_0003B1_000313,
   0x001F01_0003B1_000314, 0x001F02_001F00_000300, 0x001F03_001F01_000300,
   0x001F04_001F00_000301, 0x001F05_001F01_000301, 0x001F06_001F00_000342,
   0x001F07_001F01_000342, 0x001F08_000391_000313, 0x001F09_000391_000314,
   0x001F0A_001F08_000300, 0x001F0B_001F09_000300, 0x001F0C_001F08_000301,
   0x001F0D_001F09_000301, 0x001F0E_001F08_000342, 0x001F0F_001F09_000342,
   0x001F10_0003B5_000313, 0x001F11_0003B5_000314, 0x001F12_001F10_000300,
   0x001F13_001F11_000300, 0x001F14_001F10_000301, 0x001F15_001F11_000301,
   0x001F18_000395_000313, 0x001F19_000395_000314, 0x001F1A_001F18_000300,
   0x001F1B_001F19_000300, 0x001F1C_001F18_000301, 0x001F1D_001F19_000301,
   0x001F20_0003B7_000313, 0x001F21_0003B7_000314, 0x001F22_001F20_000300,
   0x001F23_001F21_000300, 0x001F24_001F20_000301, 0x001F25_001F21_000301,
   0x001F26_001F20_000342, 0x001F27_001F21_000342, 0x001F28_000397_000313,
   0x001F29_000397_000314, 0x001F2A_001F28_000300, 0x001F2B_001F29_000300,
   0x001F2C_001F28_000301, 0x001F2D_001F29_000301, 0x001F2E_001F28_000342,
   0x001F2F_001F29_000342, 0x001F30_0003B9_000313, 0x001F31_0003B9_000314,
   0x001F32_001F30_000300, 0x001F33_001F31_000300, 0x001F34_001F30_000301, 0x001F35_001F31_000301],
  [0x001F36_001F30_000342, 0x001F37_001F31_000342, 0x001F38_000399_000313,
   0x001F39_000399_000314, 0x001F3A_001F38_000300, 0x001F3B_001F39_000300,
   0x001F3C_001F38_000301, 0x001F3D_001F39_000301, 0x001F3E_001F38_000342,
   0x001F3F_001F39_000342, 0x001F40_0003BF_000313, 0x001F41_0003BF_000314,
   0x001F42_001F40_000300, 0x001F43_001F41_000300, 0x001F44_001F40_000301,
   0x001F45_001F41_000301, 0x001F48_00039F_000313, 0x001F49_00039F_000314,
   0x001F4A_001F48_000300, 0x001F4B_001F49_000300, 0x001F4C_001F48_000301,
   0x001F4D_001F49_000301, 0x001F50_0003C5_000313, 0x001F51_0003C5_000314,
   0x001F52_001F50_000300, 0x001F53_001F51_000300, 0x001F54_001F50_000301,
   0x001F55_001F51_000301, 0x001F56_001F50_000342, 0x001F57_001F51_000342,
   0x001F59_0003A5_000314, 0x001F5B_001F59_000300, 0x001F5D_001F59_000301,
   0x001F5F_001F59_000342, 0x001F60_0003C9_000313, 0x001F61_0003C9_000314,
   0x001F62_001F60_000300, 0x001F63_001F61_000300, 0x001F64_001F60_000301,
   0x001F65_001F61_000301, 0x001F66_001F60_000342, 0x001F67_001F61_000342,
   0x001F68_0003A9_000313, 0x001F69_0003A9_000314, 0x001F6A_001F68_000300,
   0x001F6B_001F69_000300, 0x001F6C_001F68_000301, 0x001F6D_001F69_000301,
   0x001F6E_001F68_000342, 0x001F6F_001F69_000342, 0x001F70_0003B1_000300,
   0x001F72_0003B5_000300, 0x001F74_0003B7_000300, 0x001F76_0003B9_000300,
   0x001F78_0003BF_000300, 0x001F7A_0003C5_000300, 0x001F7C_0003C9_000300,
   0x001F80_001F00_000345, 0x001F81_001F01_000345, 0x001F82_001F02_000345,
   0x001F83_001F03_000345, 0x001F84_001F04_000345, 0x001F85_001F05_000345, 0x001F86_001F06_000345],
  [0x001F87_001F07_000345, 0x001F88_001F08_000345, 0x001F89_001F09_000345,
   0x001F8A_001F0A_000345, 0x001F8B_001F0B_000345, 0x001F8C_001F0C_000345,
   0x001F8D_001F0D_000345, 0x001F8E_001F0E_000345, 0x001F8F_001F0F_000345,
   0x001F90_001F20_000345, 0x001F91_001F21_000345, 0x001F92_001F22_000345,
   0x001F93_001F23_000345, 0x001F94_001F24_000345, 0x001F95_001F25_000345,
   0x001F96_001F26_000345, 0x001F97_001F27_000345, 0x001F98_001F28_000345,
   0x001F99_001F29_000345, 0x001F9A_001F2A_000345, 0x001F9B_001F2B_000345,
   0x001F9C_001F2C_000345, 0x001F9D_001F2D_000345, 0x001F9E_001F2E_000345,
   0x001F9F_001F2F_000345, 0x001FA0_001F60_000345, 0x001FA1_001F61_000345,
   0x001FA2_001F62_000345, 0x001FA3_001F63_000345, 0x001FA4_001F64_000345,
   0x001FA5_001F65_000345, 0x001FA6_001F66_000345, 0x001FA7_001F67_000345,
   0x001FA8_001F68_000345, 0x001FA9_001F69_000345, 0x001FAA_001F6A_000345,
   0x001FAB_001F6B_000345, 0x001FAC_001F6C_000345, 0x001FAD_001F6D_000345,
   0x001FAE_001F6E_000345, 0x001FAF_001F6F_000345, 0x001FB0_0003B1_000306,
   0x001FB1_0003B1_000304, 0x001FB2_001F70_000345, 0x001FB3_0003B1_000345,
   0x001FB4_0003AC_000345, 0x001FB6_0003B1_000342, 0x001FB7_001FB6_000345,
   0x001FB8_000391_000306, 0x001FB9_000391_000304, 0x001FBA_000391_000300,
   0x001FBC_000391_000345, 0x001FC1_0000A8_000342, 0x001FC2_001F74_000345,
   0x001FC3_0003B7_000345, 0x001FC4_0003AE_000345, 0x001FC6_0003B7_000342,
   0x001FC7_001FC6_000345, 0x001FC8_000395_000300, 0x001FCA_000397_000300,
   0x001FCC_000397_000345, 0x001FCD_001FBF_000300, 0x001FCE_001FBF_000301, 0x001FCF_001FBF_000342],
  [0x001FD0_0003B9_000306, 0x001FD1_0003B9_000304, 0x001FD2_0003CA_000300,
   0x001FD6_0003B9_000342, 0x001FD7_0003CA_000342, 0x001FD8_000399_000306,
   0x001FD9_000399_000304, 0x001FDA_000399_000300, 0x001FDD_001FFE_000300,
   0x001FDE_001FFE_000301, 0x001FDF_001FFE_000342, 0x001FE0_0003C5_000306,
   0x001FE1_0003C5_000304, 0x001FE2_0003CB_000300, 0x001FE4_0003C1_000313,
   0x001FE5_0003C1_000314, 0x001FE6_0003C5_000342, 0x001FE7_0003CB_000342,
   0x001FE8_0003A5_000306, 0x001FE9_0003A5_000304, 0x001FEA_0003A5_000300,
   0x001FEC_0003A1_000314, 0x001FED_0000A8_000300, 0x001FF2_001F7C_000345,
   0x001FF3_0003C9_000345, 0x001FF4_0003CE_000345, 0x001FF6_0003C9_000342,
   0x001FF7_001FF6_000345, 0x001FF8_00039F_000300, 0x001FFA_0003A9_000300,
   0x001FFC_0003A9_000345, 0x00219A_002190_000338, 0x00219B_002192_000338,
   0x0021AE_002194_000338, 0x0021CD_0021D0_000338, 0x0021CE_0021D4_000338,
   0x0021CF_0021D2_000338, 0x002204_002203_000338, 0x002209_002208_000338,
   0x00220C_00220B_000338, 0x002224_002223_000338, 0x002226_002225_000338,
   0x002241_00223C_000338, 0x002244_002243_000338, 0x002247_002245_000338,
   0x002249_002248_000338, 0x002260_00003D_000338, 0x002262_002261_000338,
   0x00226D_00224D_000338, 0x00226E_00003C_000338, 0x00226F_00003E_000338,
   0x002270_002264_000338, 0x002271_002265_000338, 0x002274_002272_000338,
   0x002275_002273_000338, 0x002278_002276_000338, 0x002279_002277_000338,
   0x002280_00227A_000338, 0x002281_00227B_000338, 0x002284_002282_000338,
   0x002285_002283_000338, 0x002288_002286_000338, 0x002289_002287_000338, 0x0022AC_0022A2_000338],
  [0x0022AD_0022A8_000338, 0x0022AE_0022A9_000338, 0x0022AF_0022AB_000338,
   0x0022E0_00227C_000338, 0x0022E1_00227D_000338, 0x0022E2_002291_000338,
   0x0022E3_002292_000338, 0x0022EA_0022B2_000338, 0x0022EB_0022B3_000338,
   0x0022EC_0022B4_000338, 0x0022ED_0022B5_000338, 0x002ADC_002ADD_000338,
   0x00304C_00304B_003099, 0x00304E_00304D_003099, 0x003050_00304F_003099,
   0x003052_003051_003099, 0x003054_003053_003099, 0x003056_003055_003099,
   0x003058_003057_003099, 0x00305A_003059_003099, 0x00305C_00305B_003099,
   0x00305E_00305D_003099, 0x003060_00305F_003099, 0x003062_003061_003099,
   0x003065_003064_003099, 0x003067_003066_003099, 0x003069_003068_003099,
   0x003070_00306F_003099, 0x003071_00306F_00309A, 0x003073_003072_003099,
   0x003074_003072_00309A, 0x003076_003075_003099, 0x003077_003075_00309A,
   0x003079_003078_003099, 0x00307A_003078_00309A, 0x00307C_00307B_003099,
   0x00307D_00307B_00309A, 0x003094_003046_003099, 0x00309E_00309D_003099,
   0x0030AC_0030AB_003099, 0x0030AE_0030AD_003099, 0x0030B0_0030AF_003099,
   0x0030B2_0030B1_003099, 0x0030B4_0030B3_003099, 0x0030B6_0030B5_003099,
   0x0030B8_0030B7_003099, 0x0030BA_0030B9_003099, 0x0030BC_0030BB_003099,
   0x0030BE_0030BD_003099, 0x0030C0_0030BF_003099, 0x0030C2_0030C1_003099,
   0x0030C5_0030C4_003099, 0x0030C7_0030C6_003099, 0x0030C9_0030C8_003099,
   0x0030D0_0030CF_003099, 0x0030D1_0030CF_00309A, 0x0030D3_0030D2_003099,
   0x0030D4_0030D2_00309A, 0x0030D6_0030D5_003099, 0x0030D7_0030D5_00309A,
   0x0030D9_0030D8_003099, 0x0030DA_0030D8_00309A, 0x0030DC_0030DB_003099, 0x0030DD_0030DB_00309A],
  [0x0030F4_0030A6_003099, 0x0030F7_0030EF_003099, 0x0030F8_0030F0_003099,
   0x0030F9_0030F1_003099, 0x0030FA_0030F2_003099, 0x0030FE_0030FD_003099,
   0x00FB1D_0005D9_0005B4, 0x00FB1F_0005F2_0005B7, 0x00FB2A_0005E9_0005C1,
   0x00FB2B_0005E9_0005C2, 0x00FB2C_00FB49_0005C1, 0x00FB2D_00FB49_0005C2,
   0x00FB2E_0005D0_0005B7, 0x00FB2F_0005D0_0005B8, 0x00FB30_0005D0_0005BC,
   0x00FB31_0005D1_0005BC, 0x00FB32_0005D2_0005BC, 0x00FB33_0005D3_0005BC,
   0x00FB34_0005D4_0005BC, 0x00FB35_0005D5_0005BC, 0x00FB36_0005D6_0005BC,
   0x00FB38_0005D8_0005BC, 0x00FB39_0005D9_0005BC, 0x00FB3A_0005DA_0005BC,
   0x00FB3B_0005DB_0005BC, 0x00FB3C_0005DC_0005BC, 0x00FB3E_0005DE_0005BC,
   0x00FB40_0005E0_0005BC, 0x00FB41_0005E1_0005BC, 0x00FB43_0005E3_0005BC,
   0x00FB44_0005E4_0005BC, 0x00FB46_0005E6_0005BC, 0x00FB47_0005E7_0005BC,
   0x00FB48_0005E8_0005BC, 0x00FB49_0005E9_0005BC, 0x00FB4A_0005EA_0005BC,
   0x00FB4B_0005D5_0005B9, 0x00FB4C_0005D1_0005BF, 0x00FB4D_0005DB_0005BF,
   0x00FB4E_0005E4_0005BF, 0x0105C9_0105D2_000307, 0x0105E4_0105DA_000307,
   0x01109A_011099_0110BA, 0x01109C_01109B_0110BA, 0x0110AB_0110A5_0110BA,
   0x01112E_011131_011127, 0x01112F_011132_011127, 0x01134B_011347_01133E,
   0x01134C_011347_011357, 0x011383_011382_0113C9, 0x011385_011384_0113BB,
   0x01138E_01138B_0113C2, 0x011391_011390_0113C9, 0x0113C5_0113C2_0113C2,
   0x0113C7_0113C2_0113B8, 0x0113C8_0113C2_0113C9, 0x0114BB_0114B9_0114BA,
   0x0114BC_0114B9_0114B0, 0x0114BE_0114B9_0114BD, 0x0115BA_0115B8_0115AF,
   0x0115BB_0115B9_0115AF, 0x011938_011935_011930, 0x016121_01611E_01611E, 0x016122_01611E_016129],
  [0x016123_01611E_01611F, 0x016124_016129_01611F, 0x016125_01611E_016120,
   0x016126_016121_01611F, 0x016127_016122_01611F, 0x016128_016121_016120,
   0x016D68_016D67_016D67, 0x016D69_016D63_016D67, 0x016D6A_016D69_016D67,
   0x01D15E_01D157_01D165, 0x01D15F_01D158_01D165, 0x01D160_01D15F_01D16E,
   0x01D161_01D15F_01D16F, 0x01D162_01D15F_01D170, 0x01D163_01D15F_01D171,
   0x01D164_01D15F_01D172, 0x01D1BB_01D1B9_01D165, 0x01D1BC_01D1BA_01D165,
   0x01D1BD_01D1BB_01D16E, 0x01D1BE_01D1BC_01D16E, 0x01D1BF_01D1BB_01D16F, 0x01D1C0_01D1BC_01D16F]]⟩

/-- One step of the compatibility decompositions into one code point, where they differ from the
canonical ones: first code point of a run, last one, step, image of the first. -/
def compatibilityRuns : List (List Nat) := [
  [0x0000A0_0000A0_000001_000020, 0x0000AA_0000AA_000001_000061, 0x0000B2_0000B3_000001_000032,
   0x0000B5_0000B5_000001_0003BC, 0x0000B9_0000B9_000001_000031, 0x0000BA_0000BA_000001_00006F,
   0x00017F_00017F_000001_000073, 0x0002B0_0002B0_000001_000068, 0x0002B1_0002B1_000001_000266,
   0x0002B2_0002B2_000001_00006A, 0x0002B3_0002B3_000001_000072, 0x0002B4_0002B4_000001_000279,
   0x0002B5_0002B5_000001_00027B, 0x0002B6_0002B6_000001_000281, 0x0002B7_0002B7_000001_000077,
   0x0002B8_0002B8_000001_000079, 0x0002E0_0002E0_000001_000263, 0x0002E1_0002E1_000001_00006C,
   0x0002E2_0002E2_000001_000073, 0x0002E3_0002E3_000001_000078, 0x0002E4_0002E4_000001_000295,
   0x0003D0_0003D0_000001_0003B2, 0x0003D1_0003D1_000001_0003B8, 0x0003D2_0003D2_000001_0003A5,
   0x0003D5_0003D5_000001_0003C6, 0x0003D6_0003D6_000001_0003C0, 0x0003F0_0003F0_000001_0003BA,
   0x0003F1_0003F2_000001_0003C1, 0x0003F4_0003F4_000001_000398, 0x0003F5_0003F5_000001_0003B5,
   0x0003F9_0003F9_000001_0003A3, 0x000558_000558_000001_000567, 0x00058B_00058B_000001_00056B,
   0x00058C_00058C_000001_000575, 0x000F0C_000F0C_000001_000F0B, 0x0010FC_0010FC_000001_0010DC,
   0x001D2C_001D2C_000001_000041, 0x001D2D_001D2D_000001_0000C6, 0x001D2E_001D30_000002_000042,
   0x001D31_001D31_000001_000045, 0x001D32_001D32_000001_00018E, 0x001D33_001D3A_000001_000047,
   0x001D3C_001D3C_000001_00004F, 0x001D3D_001D3D_000001_000222, 0x001D3E_001D3E_000001_000050,
   0x001D3F_001D3F_000001_000052, 0x001D40_001D41_000001_000054, 0x001D42_001D42_000001_000057,
   0x001D43_001D43_000001_000061, 0x001D44_001D45_000001_000250, 0x001D46_001D46_000001_001D02,
   0x001D47_001D47_000001_000062, 0x001D48_001D49_000001_000064, 0x001D4A_001D4A_000001_000259,
   0x001D4B_001D4C_000001_00025B, 0x001D4D_001D4D_000001_000067, 0x001D4F_001D4F_000001_00006B,
   0x001D50_001D50_000001_00006D, 0x001D51_001D51_000001_00014B, 0x001D52_001D52_000001_00006F,
   0x001D53_001D53_000001_000254, 0x001D54_001D55_000001_001D16, 0x001D56_001D56_000001_000070,
   0x001D57_001D58_000001_000074],
  [0x001D59_001D59_000001_001D1D, 0x001D5A_001D5A_000001_00026F, 0x001D5B_001D5B_000001_000076,
   0x001D5C_001D5C_000001_001D25, 0x001D5D_001D5F_000001_0003B2, 0x001D60_001D61_000001_0003C6,
   0x001D62_001D62_000001_000069, 0x001D63_001D63_000001_000072, 0x001D64_001D65_000001_000075,
   0x001D66_001D67_000001_0003B2, 0x001D68_001D68_000001_0003C1, 0x001D69_001D6A_000001_0003C6,
   0x001D78_001D78_000001_00043D, 0x001D9B_001D9B_000001_000252, 0x001D9C_001D9C_000001_000063,
   0x001D9D_001D9D_000001_000255, 0x001D9E_001D9E_000001_0000F0, 0x001D9F_001D9F_000001_00025C,
   0x001DA0_001DA0_000001_000066, 0x001DA1_001DA1_000001_00025F, 0x001DA2_001DA2_000001_000261,
   0x001DA3_001DA3_000001_000265, 0x001DA4_001DA6_000001_000268, 0x001DA7_001DA7_000001_001D7B,
   0x001DA8_001DA8_000001_00029D, 0x001DA9_001DA9_000001_00026D, 0x001DAA_001DAA_000001_001D85,
   0x001DAB_001DAB_000001_00029F, 0x001DAC_001DAC_000001_000271, 0x001DAD_001DAD_000001_000270,
   0x001DAE_001DB1_000001_000272, 0x001DB2_001DB2_000001_000278, 0x001DB3_001DB4_000001_000282,
   0x001DB5_001DB5_000001_0001AB, 0x001DB6_001DB7_000001_000289, 0x001DB8_001DB8_000001_001D1C,
   0x001DB9_001DBA_000001_00028B, 0x001DBB_001DBB_000001_00007A, 0x001DBC_001DBE_000001_000290,
   0x001DBF_001DBF_000001_0003B8, 0x002002_002002_000001_000020, 0x002003_002003_000001_000020,
   0x002004_002004_000001_000020, 0x002005_002005_000001_000020, 0x002006_002006_000001_000020,
   0x002007_002007_000001_000020, 0x002008_002008_000001_000020, 0x002009_002009_000001_000020,
   0x00200A_00200A_000001_000020, 0x002011_002011_000001_002010, 0x002024_002024_000001_00002E,
   0x00202F_00202F_000001_000020, 0x00205F_00205F_000001_000020, 0x002070_002070_000001_000030,
   0x002071_002071_000001_000069, 0x002074_002079_000001_000034, 0x00207A_00207A_000001_00002B,
   0x00207B_00207B_000001_002212, 0x00207C_00207C_000001_00003D, 0x00207D_00207E_000001_000028,
   0x00207F_00207F_000001_00006E, 0x002080_002089_000001_000030, 0x00208A_00208A_000001_00002B,
   0x00208B_00208B_000001_002212],
  [0x00208C_00208C_000001_00003D, 0x00208D_00208E_000001_000028, 0x002090_002090_000001_000061,
   0x002091_002091_000001_000065, 0x002092_002092_000001_00006F, 0x002093_002093_000001_000078,
   0x002094_002094_000001_000259, 0x002095_002095_000001_000068, 0x002096_002099_000001_00006B,
   0x00209A_00209A_000001_000070, 0x00209B_00209C_000001_000073, 0x00209D_00209D_000001_000077,
   0x00209E_00209F_000001_000079, 0x002102_002102_000001_000043, 0x002107_002107_000001_000190,
   0x00210A_00210A_000001_000067, 0x00210B_00210B_000001_000048, 0x00210C_00210C_000001_000048,
   0x00210D_00210D_000001_000048, 0x00210E_00210E_000001_000068, 0x00210F_00210F_000001_000127,
   0x002110_002110_000001_000049, 0x002111_002111_000001_000049, 0x002112_002112_000001_00004C,
   0x002113_002113_000001_00006C, 0x002115_002115_000001_00004E, 0x002119_00211B_000001_000050,
   0x00211C_00211C_000001_000052, 0x00211D_00211D_000001_000052, 0x002124_002124_000001_00005A,
   0x002128_002128_000001_00005A, 0x00212C_00212D_000001_000042, 0x00212F_00212F_000001_000065,
   0x002130_002131_000001_000045, 0x002133_002133_000001_00004D, 0x002134_002134_000001_00006F,
   0x002135_002138_000001_0005D0, 0x002139_002139_000001_000069, 0x00213C_00213C_000001_0003C0,
   0x00213D_00213D_000001_0003B3, 0x00213E_00213E_000001_000393, 0x00213F_00213F_000001_0003A0,
   0x002140_002140_000001_002211, 0x002145_002145_000001_000044, 0x002146_002147_000001_000064,
   0x002148_002149_000001_000069, 0x002160_002160_000001_000049, 0x002164_002164_000001_000056,
   0x002169_002169_000001_000058, 0x00216C_00216C_000001_00004C, 0x00216D_00216E_000001_000043,
   0x00216F_00216F_000001_00004D, 0x002170_002170_000001_000069, 0x002174_002174_000001_000076,
   0x002179_002179_000001_000078, 0x00217C_00217C_000001_00006C, 0x00217D_00217E_000001_000063,
   0x00217F_00217F_000001_00006D, 0x002460_002468_000001_000031, 0x0024B6_0024CF_000001_000041,
   0x0024D0_0024E9_000001_000061, 0x0024EA_0024EA_000001_000030, 0x002C7C_002C7C_000001_00006A,
   0x002C7D_002C7D_000001_000056],
  [0x002D6F_002D6F_000001_002D61, 0x002E9F_002E9F_000001_006BCD, 0x002EF3_002EF3_000001_009F9F,
   0x002F00_002F00_000001_004E00, 0x002F01_002F01_000001_004E28, 0x002F02_002F02_000001_004E36,
   0x002F03_002F03_000001_004E3F, 0x002F04_002F04_000001_004E59, 0x002F05_002F05_000001_004E85,
   0x002F06_002F06_000001_004E8C, 0x002F07_002F07_000001_004EA0, 0x002F08_002F08_000001_004EBA,
   0x002F09_002F09_000001_00513F, 0x002F0A_002F0A_000001_005165, 0x002F0B_002F0B_000001_00516B,
   0x002F0C_002F0C_000001_005182, 0x002F0D_002F0D_000001_005196, 0x002F0E_002F0E_000001_0051AB,
   0x002F0F_002F0F_000001_0051E0, 0x002F10_002F10_000001_0051F5, 0x002F11_002F11_000001_005200,
   0x002F12_002F12_000001_00529B, 0x002F13_002F13_000001_0052F9, 0x002F14_002F14_000001_005315,
   0x002F15_002F15_000001_00531A, 0x002F16_002F16_000001_005338, 0x002F17_002F17_000001_005341,
   0x002F18_002F18_000001_00535C, 0x002F19_002F19_000001_005369, 0x002F1A_002F1A_000001_005382,
   0x002F1B_002F1B_000001_0053B6, 0x002F1C_002F1C_000001_0053C8, 0x002F1D_002F1D_000001_0053E3,
   0x002F1E_002F1E_000001_0056D7, 0x002F1F_002F1F_000001_00571F, 0x002F20_002F20_000001_0058EB,
   0x002F21_002F21_000001_005902, 0x002F22_002F22_000001_00590A, 0x002F23_002F23_000001_005915,
   0x002F24_002F24_000001_005927, 0x002F25_002F25_000001_005973, 0x002F26_002F26_000001_005B50,
   0x002F27_002F27_000001_005B80, 0x002F28_002F28_000001_005BF8, 0x002F29_002F29_000001_005C0F,
   0x002F2A_002F2A_000001_005C22, 0x002F2B_002F2B_000001_005C38, 0x002F2C_002F2C_000001_005C6E,
   0x002F2D_002F2D_000001_005C71, 0x002F2E_002F2E_000001_005DDB, 0x002F2F_002F2F_000001_005DE5,
   0x002F30_002F30_000001_005DF1, 0x002F31_002F31_000001_005DFE, 0x002F32_002F32_000001_005E72,
   0x002F33_002F33_000001_005E7A, 0x002F34_002F34_000001_005E7F, 0x002F35_002F35_000001_005EF4,
   0x002F36_002F36_000001_005EFE, 0x002F37_002F37_000001_005F0B, 0x002F38_002F38_000001_005F13,
   0x002F39_002F39_000001_005F50, 0x002F3A_002F3A_000001_005F61, 0x002F3B_002F3B_000001_005F73,
   0x002F3C_002F3C_000001_005FC3],
  [0x002F3D_002F3D_000001_006208, 0x002F3E_002F3E_000001_006236, 0x002F3F_002F3F_000001_00624B,
   0x002F40_002F40_000001_00652F, 0x002F41_002F41_000001_006534, 0x002F42_002F42_000001_006587,
   0x002F43_002F43_000001_006597, 0x002F44_002F44_000001_0065A4, 0x002F45_002F45_000001_0065B9,
   0x002F46_002F46_000001_0065E0, 0x002F47_002F47_000001_0065E5, 0x002F48_002F48_000001_0066F0,
   0x002F49_002F49_000001_006708, 0x002F4A_002F4A_000001_006728, 0x002F4B_002F4B_000001_006B20,
   0x002F4C_002F4C_000001_006B62, 0x002F4D_002F4D_000001_006B79, 0x002F4E_002F4E_000001_006BB3,
   0x002F4F_002F4F_000001_006BCB, 0x002F50_002F50_000001_006BD4, 0x002F51_002F51_000001_006BDB,
   0x002F52_002F52_000001_006C0F, 0x002F53_002F53_000001_006C14, 0x002F54_002F54_000001_006C34,
   0x002F55_002F55_000001_00706B, 0x002F56_002F56_000001_00722A, 0x002F57_002F57_000001_007236,
   0x002F58_002F58_000001_00723B, 0x002F59_002F59_000001_00723F, 0x002F5A_002F5A_000001_007247,
   0x002F5B_002F5B_000001_007259, 0x002F5C_002F5C_000001_00725B, 0x002F5D_002F5D_000001_0072AC,
   0x002F5E_002F5E_000001_007384, 0x002F5F_002F5F_000001_007389, 0x002F60_002F60_000001_0074DC,
   0x002F61_002F61_000001_0074E6, 0x002F62_002F62_000001_007518, 0x002F63_002F63_000001_00751F,
   0x002F64_002F64_000001_007528, 0x002F65_002F65_000001_007530, 0x002F66_002F66_000001_00758B,
   0x002F67_002F67_000001_007592, 0x002F68_002F68_000001_007676, 0x002F69_002F69_000001_00767D,
   0x002F6A_002F6A_000001_0076AE, 0x002F6B_002F6B_000001_0076BF, 0x002F6C_002F6C_000001_0076EE,
   0x002F6D_002F6D_000001_0077DB, 0x002F6E_002F6E_000001_0077E2, 0x002F6F_002F6F_000001_0077F3,
   0x002F70_002F70_000001_00793A, 0x002F71_002F71_000001_0079B8, 0x002F72_002F72_000001_0079BE,
   0x002F73_002F73_000001_007A74, 0x002F74_002F74_000001_007ACB, 0x002F75_002F75_000001_007AF9,
   0x002F76_002F76_000001_007C73, 0x002F77_002F77_000001_007CF8, 0x002F78_002F78_000001_007F36,
   0x002F79_002F79_000001_007F51, 0x002F7A_002F7A_000001_007F8A, 0x002F7B_002F7B_000001_007FBD,
   0x002F7C_002F7C_000001_008001],
  [0x002F7D_002F7D_000001_00800C, 0x002F7E_002F7E_000001_008012, 0x002F7F_002F7F_000001_008033,
   0x002F80_002F80_000001_00807F, 0x002F81_002F81_000001_008089, 0x002F82_002F82_000001_0081E3,
   0x002F83_002F83_000001_0081EA, 0x002F84_002F84_000001_0081F3, 0x002F85_002F85_000001_0081FC,
   0x002F86_002F86_000001_00820C, 0x002F87_002F87_000001_00821B, 0x002F88_002F88_000001_00821F,
   0x002F89_002F89_000001_00826E, 0x002F8A_002F8A_000001_008272, 0x002F8B_002F8B_000001_008278,
   0x002F8C_002F8C_000001_00864D, 0x002F8D_002F8D_000001_00866B, 0x002F8E_002F8E_000001_008840,
   0x002F8F_002F8F_000001_00884C, 0x002F90_002F90_000001_008863, 0x002F91_002F91_000001_00897E,
   0x002F92_002F92_000001_00898B, 0x002F93_002F93_000001_0089D2, 0x002F94_002F94_000001_008A00,
   0x002F95_002F95_000001_008C37, 0x002F96_002F96_000001_008C46, 0x002F97_002F97_000001_008C55,
   0x002F98_002F98_000001_008C78, 0x002F99_002F99_000001_008C9D, 0x002F9A_002F9A_000001_008D64,
   0x002F9B_002F9B_000001_008D70, 0x002F9C_002F9C_000001_008DB3, 0x002F9D_002F9D_000001_008EAB,
   0x002F9E_002F9E_000001_008ECA, 0x002F9F_002F9F_000001_008F9B, 0x002FA0_002FA0_000001_008FB0,
   0x002FA1_002FA1_000001_008FB5, 0x002FA2_002FA2_000001_009091, 0x002FA3_002FA3_000001_009149,
   0x002FA4_002FA4_000001_0091C6, 0x002FA5_002FA5_000001_0091CC, 0x002FA6_002FA6_000001_0091D1,
   0x002FA7_002FA7_000001_009577, 0x002FA8_002FA8_000001_009580, 0x002FA9_002FA9_000001_00961C,
   0x002FAA_002FAA_000001_0096B6, 0x002FAB_002FAB_000001_0096B9, 0x002FAC_002FAC_000001_0096E8,
   0x002FAD_002FAD_000001_009751, 0x002FAE_002FAE_000001_00975E, 0x002FAF_002FAF_000001_009762,
   0x002FB0_002FB0_000001_009769, 0x002FB1_002FB1_000001_0097CB, 0x002FB2_002FB2_000001_0097ED,
   0x002FB3_002FB3_000001_0097F3, 0x002FB4_002FB4_000001_009801, 0x002FB5_002FB5_000001_0098A8,
   0x002FB6_002FB6_000001_0098DB, 0x002FB7_002FB7_000001_0098DF, 0x002FB8_002FB8_000001_009996,
   0x002FB9_002FB9_000001_009999, 0x002FBA_002FBA_000001_0099AC, 0x002FBB_002FBB_000001_009AA8,
   0x002FBC_002FBC_000001_009AD8],
  [0x002FBD_002FBD_000001_009ADF, 0x002FBE_002FBE_000001_009B25, 0x002FBF_002FBF_000001_009B2F,
   0x002FC0_002FC0_000001_009B32, 0x002FC1_002FC1_000001_009B3C, 0x002FC2_002FC2_000001_009B5A,
   0x002FC3_002FC3_000001_009CE5, 0x002FC4_002FC4_000001_009E75, 0x002FC5_002FC5_000001_009E7F,
   0x002FC6_002FC6_000001_009EA5, 0x002FC7_002FC7_000001_009EBB, 0x002FC8_002FC8_000001_009EC3,
   0x002FC9_002FC9_000001_009ECD, 0x002FCA_002FCA_000001_009ED1, 0x002FCB_002FCB_000001_009EF9,
   0x002FCC_002FCC_000001_009EFD, 0x002FCD_002FCD_000001_009F0E, 0x002FCE_002FCE_000001_009F13,
   0x002FCF_002FCF_000001_009F20, 0x002FD0_002FD0_000001_009F3B, 0x002FD1_002FD1_000001_009F4A,
   0x002FD2_002FD2_000001_009F52, 0x002FD3_002FD3_000001_009F8D, 0x002FD4_002FD4_000001_009F9C,
   0x002FD5_002FD5_000001_009FA0, 0x003000_003000_000001_000020, 0x003036_003036_000001_003012,
   0x003038_003038_000001_005341, 0x003039_00303A_000001_005344, 0x003131_003132_000001_001100,
   0x003133_003133_000001_0011AA, 0x003134_003134_000001_001102, 0x003135_003136_000001_0011AC,
   0x003137_003139_000001_001103, 0x00313A_00313F_000001_0011B0, 0x003140_003140_000001_00111A,
   0x003141_003143_000001_001106, 0x003144_003144_000001_001121, 0x003145_00314E_000001_001109,
   0x00314F_003163_000001_001161, 0x003164_003164_000001_001160, 0x003165_003166_000001_001114,
   0x003167_003168_000001_0011C7, 0x003169_003169_000001_0011CC, 0x00316A_00316A_000001_0011CE,
   0x00316B_00316B_000001_0011D3, 0x00316C_00316C_000001_0011D7, 0x00316D_00316D_000001_0011D9,
   0x00316E_00316E_000001_00111C, 0x00316F_00316F_000001_0011DD, 0x003170_003170_000001_0011DF,
   0x003171_003172_000001_00111D, 0x003173_003173_000001_001120, 0x003174_003175_000001_001122,
   0x003176_003176_000001_001127, 0x003177_003177_000001_001129, 0x003178_00317C_000001_00112B,
   0x00317D_00317D_000001_001132, 0x00317E_00317E_000001_001136, 0x00317F_00317F_000001_001140,
   0x003180_003180_000001_001147, 0x003181_003181_000001_00114C, 0x003182_003183_000001_0011F1,
   0x003184_003186_000001_001157],
  [0x003187_003188_000001_001184, 0x003189_003189_000001_001188, 0x00318A_00318B_000001_001191,
   0x00318C_00318C_000001_001194, 0x00318D_00318D_000001_00119E, 0x00318E_00318E_000001_0011A1,
   0x003192_003192_000001_004E00, 0x003193_003193_000001_004E8C, 0x003194_003194_000001_004E09,
   0x003195_003195_000001_0056DB, 0x003196_003196_000001_004E0A, 0x003197_003197_000001_004E2D,
   0x003198_003198_000001_004E0B, 0x003199_003199_000001_007532, 0x00319A_00319A_000001_004E59,
   0x00319B_00319B_000001_004E19, 0x00319C_00319C_000001_004E01, 0x00319D_00319D_000001_005929,
   0x00319E_00319E_000001_005730, 0x00319F_00319F_000001_004EBA, 0x003244_003244_000001_00554F,
   0x003245_003245_000001_005E7C, 0x003246_003246_000001_006587, 0x003247_003247_000001_007B8F,
   0x003260_003260_000001_001100, 0x003261_003262_000001_001102, 0x003263_003265_000001_001105,
   0x003266_003266_000001_001109, 0x003267_003268_000001_00110B, 0x003269_00326D_000001_00110E,
   0x003280_003280_000001_004E00, 0x003281_003281_000001_004E8C, 0x003282_003282_000001_004E09,
   0x003283_003283_000001_0056DB, 0x003284_003284_000001_004E94, 0x003285_003285_000001_00516D,
   0x003286_003286_000001_004E03, 0x003287_003287_000001_00516B, 0x003288_003288_000001_004E5D,
   0x003289_003289_000001_005341, 0x00328A_00328A_000001_006708, 0x00328B_00328B_000001_00706B,
   0x00328C_00328C_000001_006C34, 0x00328D_00328D_000001_006728, 0x00328E_00328E_000001_0091D1,
   0x00328F_00328F_000001_00571F, 0x003290_003290_000001_0065E5, 0x003291_003291_000001_00682A,
   0x003292_003292_000001_006709, 0x003293_003293_000001_00793E, 0x003294_003294_000001_00540D,
   0x003295_003295_000001_007279, 0x003296_003296_000001_008CA1, 0x003297_003297_000001_00795D,
   0x003298_003298_000001_0052B4, 0x003299_003299_000001_0079D8, 0x00329A_00329A_000001_007537,
   0x00329B_00329B_000001_005973, 0x00329C_00329C_000001_009069, 0x00329D_00329D_000001_00512A,
   0x00329E_00329E_000001_005370, 0x00329F_00329F_000001_006CE8, 0x0032A0_0032A0_000001_009805,
   0x0032A1_0032A1_000001_004F11],
  [0x0032A2_0032A2_000001_005199, 0x0032A3_0032A3_000001_006B63, 0x0032A4_0032A4_000001_004E0A,
   0x0032A5_0032A5_000001_004E2D, 0x0032A6_0032A6_000001_004E0B, 0x0032A7_0032A7_000001_005DE6,
   0x0032A8_0032A8_000001_0053F3, 0x0032A9_0032A9_000001_00533B, 0x0032AA_0032AA_000001_005B97,
   0x0032AB_0032AB_000001_005B66, 0x0032AC_0032AC_000001_0076E3, 0x0032AD_0032AD_000001_004F01,
   0x0032AE_0032AE_000001_008CC7, 0x0032AF_0032AF_000001_005354, 0x0032B0_0032B0_000001_00591C,
   0x0032D0_0032D0_000001_0030A2, 0x0032D1_0032D1_000001_0030A4, 0x0032D2_0032D2_000001_0030A6,
   0x0032D3_0032D3_000001_0030A8, 0x0032D4_0032D5_000001_0030AA, 0x0032D6_0032D6_000001_0030AD,
   0x0032D7_0032D7_000001_0030AF, 0x0032D8_0032D8_000001_0030B1, 0x0032D9_0032D9_000001_0030B3,
   0x0032DA_0032DA_000001_0030B5, 0x0032DB_0032DB_000001_0030B7, 0x0032DC_0032DC_000001_0030B9,
   0x0032DD_0032DD_000001_0030BB, 0x0032DE_0032DE_000001_0030BD, 0x0032DF_0032DF_000001_0030BF,
   0x0032E0_0032E0_000001_0030C1, 0x0032E1_0032E1_000001_0030C4, 0x0032E2_0032E2_000001_0030C6,
   0x0032E3_0032E3_000001_0030C8, 0x0032E4_0032E9_000001_0030CA, 0x0032EA_0032EA_000001_0030D2,
   0x0032EB_0032EB_000001_0030D5, 0x0032EC_0032EC_000001_0030D8, 0x0032ED_0032ED_000001_0030DB,
   0x0032EE_0032F2_000001_0030DE, 0x0032F3_0032F3_000001_0030E4, 0x0032F4_0032F4_000001_0030E6,
   0x0032F5_0032FA_000001_0030E8, 0x0032FB_0032FE_000001_0030EF, 0x00A69C_00A69C_000001_00044A,
   0x00A69D_00A69D_000001_00044C, 0x00A770_00A770_000001_00A76F, 0x00A7F1_00A7F1_000001_000053,
   0x00A7F2_00A7F2_000001_000043, 0x00A7F3_00A7F3_000001_000046, 0x00A7F4_00A7F4_000001_000051,
   0x00A7F8_00A7F8_000001_000126, 0x00A7F9_00A7F9_000001_000153, 0x00AB5C_00AB5C_000001_00A727,
   0x00AB5D_00AB5D_000001_00AB37, 0x00AB5E_00AB5E_000001_00026B, 0x00AB5F_00AB5F_000001_00AB52,
   0x00AB69_00AB69_000001_00028D, 0x00FB20_00FB20_000001_0005E2, 0x00FB21_00FB21_000001_0005D0,
   0x00FB22_00FB23_000001_0005D3, 0x00FB24_00FB26_000001_0005DB, 0x00FB27_00FB27_000001_0005E8,
   0x00FB28_00FB28_000001_0005EA],
  [0x00FB29_00FB29_000001_00002B, 0x00FB50_00FB50_000001_000671, 0x00FB51_00FB51_000001_000671,
   0x00FB52_00FB52_000001_00067B, 0x00FB53_00FB53_000001_00067B, 0x00FB54_00FB54_000001_00067B,
   0x00FB55_00FB55_000001_00067B, 0x00FB56_00FB56_000001_00067E, 0x00FB57_00FB57_000001_00067E,
   0x00FB58_00FB58_000001_00067E, 0x00FB59_00FB59_000001_00067E, 0x00FB5A_00FB5A_000001_000680,
   0x00FB5B_00FB5B_000001_000680, 0x00FB5C_00FB5C_000001_000680, 0x00FB5D_00FB5D_000001_000680,
   0x00FB5E_00FB5E_000001_00067A, 0x00FB5F_00FB5F_000001_00067A, 0x00FB60_00FB60_000001_00067A,
   0x00FB61_00FB61_000001_00067A, 0x00FB62_00FB62_000001_00067F, 0x00FB63_00FB63_000001_00067F,
   0x00FB64_00FB64_000001_00067F, 0x00FB65_00FB65_000001_00067F, 0x00FB66_00FB66_000001_000679,
   0x00FB67_00FB67_000001_000679, 0x00FB68_00FB68_000001_000679, 0x00FB69_00FB69_000001_000679,
   0x00FB6A_00FB6A_000001_0006A4, 0x00FB6B_00FB6B_000001_0006A4, 0x00FB6C_00FB6C_000001_0006A4,
   0x00FB6D_00FB6D_000001_0006A4, 0x00FB6E_00FB6E_000001_0006A6, 0x00FB6F_00FB6F_000001_0006A6,
   0x00FB70_00FB70_000001_0006A6, 0x00FB71_00FB71_000001_0006A6, 0x00FB72_00FB72_000001_000684,
   0x00FB73_00FB73_000001_000684, 0x00FB74_00FB74_000001_000684, 0x00FB75_00FB75_000001_000684,
   0x00FB76_00FB76_000001_000683, 0x00FB77_00FB77_000001_000683, 0x00FB78_00FB78_000001_000683,
   0x00FB79_00FB79_000001_000683, 0x00FB7A_00FB7A_000001_000686, 0x00FB7B_00FB7B_000001_000686,
   0x00FB7C_00FB7C_000001_000686, 0x00FB7D_00FB7E_000001_000686, 0x00FB7F_00FB7F_000001_000687,
   0x00FB80_00FB80_000001_000687, 0x00FB81_00FB81_000001_000687, 0x00FB82_00FB82_000001_00068D,
   0x00FB83_00FB83_000001_00068D, 0x00FB84_00FB84_000001_00068C, 0x00FB85_00FB85_000001_00068C,
   0x00FB86_00FB86_000001_00068E, 0x00FB87_00FB87_000001_00068E, 0x00FB88_00FB88_000001_000688,
   0x00FB89_00FB89_000001_000688, 0x00FB8A_00FB8A_000001_000698, 0x00FB8B_00FB8B_000001_000698,
   0x00FB8C_00FB8C_000001_000691, 0x00FB8D_00FB8D_000001_000691, 0x00FB8E_00FB8E_000001_0006A9,
   0x00FB8F_00FB8F_000001_0006A9],
  [0x00FB90_00FB90_000001_0006A9, 0x00FB91_00FB91_000001_0006A9, 0x00FB92_00FB92_000001_0006AF,
   0x00FB93_00FB93_000001_0006AF, 0x00FB94_00FB94_000001_0006AF, 0x00FB95_00FB95_000001_0006AF,
   0x00FB96_00FB96_000001_0006B3, 0x00FB97_00FB97_000001_0006B3, 0x00FB98_00FB98_000001_0006B3,
   0x00FB99_00FB99_000001_0006B3, 0x00FB9A_00FB9A_000001_0006B1, 0x00FB9B_00FB9B_000001_0006B1,
   0x00FB9C_00FB9C_000001_0006B1, 0x00FB9D_00FB9D_000001_0006B1, 0x00FB9E_00FB9E_000001_0006BA,
   0x00FB9F_00FBA0_000001_0006BA, 0x00FBA1_00FBA1_000001_0006BB, 0x00FBA2_00FBA2_000001_0006BB,
   0x00FBA3_00FBA3_000001_0006BB, 0x00FBA4_00FBA4_000001_0006C0, 0x00FBA5_00FBA6_000001_0006C0,
   0x00FBA7_00FBA7_000001_0006C1, 0x00FBA8_00FBA8_000001_0006C1, 0x00FBA9_00FBA9_000001_0006C1,
   0x00FBAA_00FBAA_000001_0006BE, 0x00FBAB_00FBAB_000001_0006BE, 0x00FBAC_00FBAC_000001_0006BE,
   0x00FBAD_00FBAD_000001_0006BE, 0x00FBAE_00FBAE_000001_0006D2, 0x00FBAF_00FBB0_000001_0006D2,
   0x00FBB1_00FBB1_000001_0006D3, 0x00FBD3_00FBD3_000001_0006AD, 0x00FBD4_00FBD4_000001_0006AD,
   0x00FBD5_00FBD5_000001_0006AD, 0x00FBD6_00FBD6_000001_0006AD, 0x00FBD7_00FBD7_000001_0006C7,
   0x00FBD8_00FBD8_000001_0006C7, 0x00FBD9_00FBD9_000001_0006C6, 0x00FBDA_00FBDA_000001_0006C6,
   0x00FBDB_00FBDB_000001_0006C8, 0x00FBDC_00FBDC_000001_0006C8, 0x00FBDD_00FBDD_000001_000677,
   0x00FBDE_00FBDE_000001_0006CB, 0x00FBDF_00FBDF_000001_0006CB, 0x00FBE0_00FBE0_000001_0006C5,
   0x00FBE1_00FBE1_000001_0006C5, 0x00FBE2_00FBE2_000001_0006C9, 0x00FBE3_00FBE3_000001_0006C9,
   0x00FBE4_00FBE4_000001_0006D0, 0x00FBE5_00FBE5_000001_0006D0, 0x00FBE6_00FBE6_000001_0006D0,
   0x00FBE7_00FBE7_000001_0006D0, 0x00FBE8_00FBE8_000001_000649, 0x00FBE9_00FBE9_000001_000649,
   0x00FBFC_00FBFC_000001_0006CC, 0x00FBFD_00FBFD_000001_0006CC, 0x00FBFE_00FBFE_000001_0006CC,
   0x00FBFF_00FBFF_000001_0006CC, 0x00FE10_00FE10_000001_00002C, 0x00FE11_00FE12_000001_003001,
   0x00FE13_00FE14_000001_00003A, 0x00FE15_00FE15_000001_000021, 0x00FE16_00FE16_000001_00003F,
   0x00FE17_00FE18_000001_003016],
  [0x00FE19_00FE19_000001_002026, 0x00FE30_00FE30_000001_002025, 0x00FE31_00FE31_000001_002014,
   0x00FE32_00FE32_000001_002013, 0x00FE33_00FE33_000001_00005F, 0x00FE34_00FE34_000001_00005F,
   0x00FE35_00FE36_000001_000028, 0x00FE37_00FE37_000001_00007B, 0x00FE38_00FE38_000001_00007D,
   0x00FE39_00FE3A_000001_003014, 0x00FE3B_00FE3C_000001_003010, 0x00FE3D_00FE3E_000001_00300A,
   0x00FE3F_00FE40_000001_003008, 0x00FE41_00FE44_000001_00300C, 0x00FE47_00FE47_000001_00005B,
   0x00FE48_00FE48_000001_00005D, 0x00FE49_00FE49_000001_00203E, 0x00FE4A_00FE4A_000001_00203E,
   0x00FE4B_00FE4B_000001_00203E, 0x00FE4C_00FE4C_000001_00203E, 0x00FE4D_00FE4D_000001_00005F,
   0x00FE4E_00FE4E_000001_00005F, 0x00FE4F_00FE4F_000001_00005F, 0x00FE50_00FE50_000001_00002C,
   0x00FE51_00FE51_000001_003001, 0x00FE52_00FE52_000001_00002E, 0x00FE54_00FE54_000001_00003B,
   0x00FE55_00FE55_000001_00003A, 0x00FE56_00FE56_000001_00003F, 0x00FE57_00FE57_000001_000021,
   0x00FE58_00FE58_000001_002014, 0x00FE59_00FE5A_000001_000028, 0x00FE5B_00FE5B_000001_00007B,
   0x00FE5C_00FE5C_000001_00007D, 0x00FE5D_00FE5E_000001_003014, 0x00FE5F_00FE5F_000001_000023,
   0x00FE60_00FE60_000001_000026, 0x00FE61_00FE62_000001_00002A, 0x00FE63_00FE63_000001_00002D,
   0x00FE64_00FE64_000001_00003C, 0x00FE65_00FE65_000001_00003E, 0x00FE66_00FE66_000001_00003D,
   0x00FE68_00FE68_000001_00005C, 0x00FE69_00FE6A_000001_000024, 0x00FE6B_00FE6B_000001_000040,
   0x00FE80_00FE81_000001_000621, 0x00FE82_00FE83_000001_000622, 0x00FE84_00FE85_000001_000623,
   0x00FE86_00FE87_000001_000624, 0x00FE88_00FE89_000001_000625, 0x00FE8A_00FE8A_000001_000626,
   0x00FE8B_00FE8B_000001_000626, 0x00FE8C_00FE8D_000001_000626, 0x00FE8E_00FE8F_000001_000627,
   0x00FE90_00FE90_000001_000628, 0x00FE91_00FE91_000001_000628, 0x00FE92_00FE93_000001_000628,
   0x00FE94_00FE95_000001_000629, 0x00FE96_00FE96_000001_00062A, 0x00FE97_00FE97_000001_00062A,
   0x00FE98_00FE99_000001_00062A, 0x00FE9A_00FE9A_000001_00062B, 0x00FE9B_00FE9B_000001_00062B,
   0x00FE9C_00FE9D_000001_00062B],
  [0x00FE9E_00FE9E_000001_00062C, 0x00FE9F_00FE9F_000001_00062C, 0x00FEA0_00FEA1_000001_00062C,
   0x00FEA2_00FEA2_000001_00062D, 0x00FEA3_00FEA3_000001_00062D, 0x00FEA4_00FEA5_000001_00062D,
   0x00FEA6_00FEA6_000001_00062E, 0x00FEA7_00FEA7_000001_00062E, 0x00FEA8_00FEA9_000001_00062E,
   0x00FEAA_00FEAB_000001_00062F, 0x00FEAC_00FEAD_000001_000630, 0x00FEAE_00FEAF_000001_000631,
   0x00FEB0_00FEB1_000001_000632, 0x00FEB2_00FEB2_000001_000633, 0x00FEB3_00FEB3_000001_000633,
   0x00FEB4_00FEB5_000001_000633, 0x00FEB6_00FEB6_000001_000634, 0x00FEB7_00FEB7_000001_000634,
   0x00FEB8_00FEB9_000001_000634, 0x00FEBA_00FEBA_000001_000635, 0x00FEBB_00FEBB_000001_000635,
   0x00FEBC_00FEBD_000001_000635, 0x00FEBE_00FEBE_000001_000636, 0x00FEBF_00FEBF_000001_000636,
   0x00FEC0_00FEC1_000001_000636, 0x00FEC2_00FEC2_000001_000637, 0x00FEC3_00FEC3_000001_000637,
   0x00FEC4_00FEC5_000001_000637, 0x00FEC6_00FEC6_000001_000638, 0x00FEC7_00FEC7_000001_000638,
   0x00FEC8_00FEC9_000001_000638, 0x00FECA_00FECA_000001_000639, 0x00FECB_00FECB_000001_000639,
   0x00FECC_00FECD_000001_000639, 0x00FECE_00FECE_000001_00063A, 0x00FECF_00FECF_000001_00063A,
   0x00FED0_00FED0_000001_00063A, 0x00FED1_00FED1_000001_000641, 0x00FED2_00FED2_000001_000641,
   0x00FED3_00FED3_000001_000641, 0x00FED4_00FED5_000001_000641, 0x00FED6_00FED6_000001_000642,
   0x00FED7_00FED7_000001_000642, 0x00FED8_00FED9_000001_000642, 0x00FEDA_00FEDA_000001_000643,
   0x00FEDB_00FEDB_000001_000643, 0x00FEDC_00FEDD_000001_000643, 0x00FEDE_00FEDE_000001_000644,
   0x00FEDF_00FEDF_000001_000644, 0x00FEE0_00FEE1_000001_000644, 0x00FEE2_00FEE2_000001_000645,
   0x00FEE3_00FEE3_000001_000645, 0x00FEE4_00FEE5_000001_000645, 0x00FEE6_00FEE6_000001_000646,
   0x00FEE7_00FEE7_000001_000646, 0x00FEE8_00FEE9_000001_000646, 0x00FEEA_00FEEA_000001_000647,
   0x00FEEB_00FEEB_000001_000647, 0x00FEEC_00FEED_000001_000647, 0x00FEEE_00FEEF_000001_000648,
   0x00FEF0_00FEF1_000001_000649, 0x00FEF2_00FEF2_000001_00064A, 0x00FEF3_00FEF3_000001_00064A,
   0x00FEF4_00FEF4_000001_00064A],
  [0x00FF01_00FF5E_000001_000021, 0x00FF5F_00FF60_000001_002985, 0x00FF61_00FF61_000001_003002,
   0x00FF62_00FF63_000001_00300C, 0x00FF64_00FF64_000001_003001, 0x00FF65_00FF65_000001_0030FB,
   0x00FF66_00FF66_000001_0030F2, 0x00FF67_00FF67_000001_0030A1, 0x00FF68_00FF68_000001_0030A3,
   0x00FF69_00FF69_000001_0030A5, 0x00FF6A_00FF6A_000001_0030A7, 0x00FF6B_00FF6B_000001_0030A9,
   0x00FF6C_00FF6C_000001_0030E3, 0x00FF6D_00FF6D_000001_0030E5, 0x00FF6E_00FF6E_000001_0030E7,
   0x00FF6F_00FF6F_000001_0030C3, 0x00FF70_00FF70_000001_0030FC, 0x00FF71_00FF71_000001_0030A2,
   0x00FF72_00FF72_000001_0030A4, 0x00FF73_00FF73_000001_0030A6, 0x00FF74_00FF74_000001_0030A8,
   0x00FF75_00FF76_000001_0030AA, 0x00FF77_00FF77_000001_0030AD, 0x00FF78_00FF78_000001_0030AF,
   0x00FF79_00FF79_000001_0030B1, 0x00FF7A_00FF7A_000001_0030B3, 0x00FF7B_00FF7B_000001_0030B5,
   0x00FF7C_00FF7C_000001_0030B7, 0x00FF7D_00FF7D_000001_0030B9, 0x00FF7E_00FF7E_000001_0030BB,
   0x00FF7F_00FF7F_000001_0030BD, 0x00FF80_00FF80_000001_0030BF, 0x00FF81_00FF81_000001_0030C1,
   0x00FF82_00FF82_000001_0030C4, 0x00FF83_00FF83_000001_0030C6, 0x00FF84_00FF84_000001_0030C8,
   0x00FF85_00FF8A_000001_0030CA, 0x00FF8B_00FF8B_000001_0030D2, 0x00FF8C_00FF8C_000001_0030D5,
   0x00FF8D_00FF8D_000001_0030D8, 0x00FF8E_00FF8E_000001_0030DB, 0x00FF8F_00FF93_000001_0030DE,
   0x00FF94_00FF94_000001_0030E4, 0x00FF95_00FF95_000001_0030E6, 0x00FF96_00FF9B_000001_0030E8,
   0x00FF9C_00FF9C_000001_0030EF, 0x00FF9D_00FF9D_000001_0030F3, 0x00FF9E_00FF9F_000001_003099,
   0x00FFA0_00FFA0_000001_003164, 0x00FFA1_00FFBE_000001_003131, 0x00FFC2_00FFC7_000001_00314F,
   0x00FFCA_00FFCF_000001_003155, 0x00FFD2_00FFD7_000001_00315B, 0x00FFDA_00FFDC_000001_003161,
   0x00FFE0_00FFE1_000001_0000A2, 0x00FFE2_00FFE2_000001_0000AC, 0x00FFE3_00FFE3_000001_0000AF,
   0x00FFE4_00FFE4_000001_0000A6, 0x00FFE5_00FFE5_000001_0000A5, 0x00FFE6_00FFE6_000001_0020A9,
   0x00FFE8_00FFE8_000001_002502, 0x00FFE9_00FFEC_000001_002190, 0x00FFED_00FFED_000001_0025A0,
   0x00FFEE_00FFEE_000001_0025CB],
  [0x010781_010782_000001_0002D0, 0x010783_010783_000001_0000E6, 0x010784_010784_000001_000299,
   0x010785_010785_000001_000253, 0x010787_010787_000001_0002A3, 0x010788_010788_000001_00AB66,
   0x010789_010789_000001_0002A5, 0x01078A_01078A_000001_0002A4, 0x01078B_01078C_000001_000256,
   0x01078D_01078D_000001_001D91, 0x01078E_01078E_000001_000258, 0x01078F_01078F_000001_00025E,
   0x010790_010790_000001_0002A9, 0x010791_010791_000001_000264, 0x010792_010792_000001_000262,
   0x010793_010793_000001_000260, 0x010794_010794_000001_00029B, 0x010795_010795_000001_000127,
   0x010796_010796_000001_00029C, 0x010797_010797_000001_000267, 0x010798_010798_000001_000284,
   0x010799_01079A_000001_0002AA, 0x01079B_01079B_000001_00026C, 0x01079C_01079C_000001_01DF04,
   0x01079D_01079D_000001_00A78E, 0x01079E_01079E_000001_00026E, 0x01079F_01079F_000001_01DF05,
   0x0107A0_0107A0_000001_00028E, 0x0107A1_0107A1_000001_01DF06, 0x0107A2_0107A2_000001_0000F8,
   0x0107A3_0107A4_000001_000276, 0x0107A5_0107A5_000001_000071, 0x0107A6_0107A6_000001_00027A,
   0x0107A7_0107A7_000001_01DF08, 0x0107A8_0107A9_000001_00027D, 0x0107AA_0107AA_000001_000280,
   0x0107AB_0107AB_000001_0002A8, 0x0107AC_0107AC_000001_0002A6, 0x0107AD_0107AD_000001_00AB67,
   0x0107AE_0107AE_000001_0002A7, 0x0107AF_0107AF_000001_000288, 0x0107B0_0107B0_000001_002C71,
   0x0107B2_0107B2_000001_00028F, 0x0107B3_0107B4_000001_0002A1, 0x0107B5_0107B5_000001_000298,
   0x0107B6_0107B8_000001_0001C0, 0x0107B9_0107B9_000001_01DF0A, 0x0107BA_0107BA_000001_01DF1E,
   0x0107BB_0107BB_000001_000287, 0x01CCD6_01CCEF_000001_000041, 0x01CCF0_01CCF9_000001_000030,
   0x01D400_01D419_000001_000041, 0x01D41A_01D433_000001_000061, 0x01D434_01D44D_000001_000041,
   0x01D44E_01D454_000001_000061, 0x01D456_01D467_000001_000069, 0x01D468_01D481_000001_000041,
   0x01D482_01D49B_000001_000061, 0x01D49C_01D49E_000002_000041, 0x01D49F_01D49F_000001_000044,
   0x01D4A2_01D4A2_000001_000047, 0x01D4A5_01D4A6_000001_00004A, 0x01D4A9_01D4AC_000001_00004E,
   0x01D4AE_01D4B5_000001_000053],
  [0x01D4B6_01D4B9_000001_000061, 0x01D4BB_01D4BD_000002_000066, 0x01D4BE_01D4C3_000001_000069,
   0x01D4C5_01D4CF_000001_000070, 0x01D4D0_01D4E9_000001_000041, 0x01D4EA_01D503_000001_000061,
   0x01D504_01D505_000001_000041, 0x01D507_01D50A_000001_000044, 0x01D50D_01D514_000001_00004A,
   0x01D516_01D51C_000001_000053, 0x01D51E_01D537_000001_000061, 0x01D538_01D539_000001_000041,
   0x01D53B_01D53E_000001_000044, 0x01D540_01D544_000001_000049, 0x01D546_01D546_000001_00004F,
   0x01D54A_01D550_000001_000053, 0x01D552_01D56B_000001_000061, 0x01D56C_01D585_000001_000041,
   0x01D586_01D59F_000001_000061, 0x01D5A0_01D5B9_000001_000041, 0x01D5BA_01D5D3_000001_000061,
   0x01D5D4_01D5ED_000001_000041, 0x01D5EE_01D607_000001_000061, 0x01D608_01D621_000001_000041,
   0x01D622_01D63B_000001_000061, 0x01D63C_01D655_000001_000041, 0x01D656_01D66F_000001_000061,
   0x01D670_01D689_000001_000041, 0x01D68A_01D6A3_000001_000061, 0x01D6A4_01D6A4_000001_000131,
   0x01D6A5_01D6A5_000001_000237, 0x01D6A6_01D6A6_000001_0000DF, 0x01D6A8_01D6B8_000001_000391,
   0x01D6B9_01D6B9_000001_0003F4, 0x01D6BA_01D6C0_000001_0003A3, 0x01D6C1_01D6C1_000001_002207,
   0x01D6C2_01D6DA_000001_0003B1, 0x01D6DB_01D6DB_000001_002202, 0x01D6DC_01D6DC_000001_0003F5,
   0x01D6DD_01D6DD_000001_0003D1, 0x01D6DE_01D6DE_000001_0003F0, 0x01D6DF_01D6DF_000001_0003D5,
   0x01D6E0_01D6E0_000001_0003F1, 0x01D6E1_01D6E1_000001_0003D6, 0x01D6E2_01D6F2_000001_000391,
   0x01D6F3_01D6F3_000001_0003F4, 0x01D6F4_01D6FA_000001_0003A3, 0x01D6FB_01D6FB_000001_002207,
   0x01D6FC_01D714_000001_0003B1, 0x01D715_01D715_000001_002202, 0x01D716_01D716_000001_0003F5,
   0x01D717_01D717_000001_0003D1, 0x01D718_01D718_000001_0003F0, 0x01D719_01D719_000001_0003D5,
   0x01D71A_01D71A_000001_0003F1, 0x01D71B_01D71B_000001_0003D6, 0x01D71C_01D72C_000001_000391,
   0x01D72D_01D72D_000001_0003F4, 0x01D72E_01D734_000001_0003A3, 0x01D735_01D735_000001_002207,
   0x01D736_01D74E_000001_0003B1, 0x01D74F_01D74F_000001_002202, 0x01D750_01D750_000001_0003F5,
   0x01D751_01D751_000001_0003D1],
  [0x01D752_01D752_000001_0003F0, 0x01D753_01D753_000001_0003D5, 0x01D754_01D754_000001_0003F1,
   0x01D755_01D755_000001_0003D6, 0x01D756_01D766_000001_000391, 0x01D767_01D767_000001_0003F4,
   0x01D768_01D76E_000001_0003A3, 0x01D76F_01D76F_000001_002207, 0x01D770_01D788_000001_0003B1,
   0x01D789_01D789_000001_002202, 0x01D78A_01D78A_000001_0003F5, 0x01D78B_01D78B_000001_0003D1,
   0x01D78C_01D78C_000001_0003F0, 0x01D78D_01D78D_000001_0003D5, 0x01D78E_01D78E_000001_0003F1,
   0x01D78F_01D78F_000001_0003D6, 0x01D790_01D7A0_000001_000391, 0x01D7A1_01D7A1_000001_0003F4,
   0x01D7A2_01D7A8_000001_0003A3, 0x01D7A9_01D7A9_000001_002207, 0x01D7AA_01D7C2_000001_0003B1,
   0x01D7C3_01D7C3_000001_002202, 0x01D7C4_01D7C4_000001_0003F5, 0x01D7C5_01D7C5_000001_0003D1,
   0x01D7C6_01D7C6_000001_0003F0, 0x01D7C7_01D7C7_000001_0003D5, 0x01D7C8_01D7C8_000001_0003F1,
   0x01D7C9_01D7C9_000001_0003D6, 0x01D7CA_01D7CB_000001_0003DC, 0x01D7CE_01D7D7_000001_000030,
   0x01D7D8_01D7E1_000001_000030, 0x01D7E2_01D7EB_000001_000030, 0x01D7EC_01D7F5_000001_000030,
   0x01D7F6_01D7FF_000001_000030, 0x01DF95_01DF95_000001_0000DF, 0x01E030_01E038_000001_000430,
   0x01E039_01E03B_000001_00043A, 0x01E03C_01E046_000001_00043E, 0x01E047_01E047_000001_00044B,
   0x01E048_01E049_000001_00044D, 0x01E04A_01E04A_000001_00A689, 0x01E04B_01E04B_000001_0004D9,
   0x01E04C_01E04C_000001_000456, 0x01E04D_01E04D_000001_000458, 0x01E04E_01E04E_000001_0004E9,
   0x01E04F_01E04F_000001_0004AF, 0x01E050_01E050_000001_0004CF, 0x01E051_01E059_000001_000430,
   0x01E05A_01E05B_000001_00043A, 0x01E05C_01E05D_000001_00043E, 0x01E05E_01E05E_000001_000441,
   0x01E05F_01E064_000001_000443, 0x01E065_01E066_000001_00044A, 0x01E067_01E067_000001_000491,
   0x01E068_01E068_000001_000456, 0x01E069_01E069_000001_000455, 0x01E06A_01E06A_000001_00045F,
   0x01E06B_01E06B_000001_0004AB, 0x01E06C_01E06C_000001_00A651, 0x01E06D_01E06D_000001_0004B1,
   0x01EE00_01EE01_000001_000627, 0x01EE02_01EE02_000001_00062C, 0x01EE03_01EE03_000001_00062F,
   0x01EE05_01EE05_000001_000648],
  [0x01EE06_01EE06_000001_000632, 0x01EE07_01EE07_000001_00062D, 0x01EE08_01EE08_000001_000637,
   0x01EE09_01EE09_000001_00064A, 0x01EE0A_01EE0D_000001_000643, 0x01EE0E_01EE0E_000001_000633,
   0x01EE0F_01EE0F_000001_000639, 0x01EE10_01EE10_000001_000641, 0x01EE11_01EE11_000001_000635,
   0x01EE12_01EE12_000001_000642, 0x01EE13_01EE13_000001_000631, 0x01EE14_01EE14_000001_000634,
   0x01EE15_01EE16_000001_00062A, 0x01EE17_01EE17_000001_00062E, 0x01EE18_01EE18_000001_000630,
   0x01EE19_01EE19_000001_000636, 0x01EE1A_01EE1A_000001_000638, 0x01EE1B_01EE1B_000001_00063A,
   0x01EE1C_01EE1C_000001_00066E, 0x01EE1D_01EE1D_000001_0006BA, 0x01EE1E_01EE1E_000001_0006A1,
   0x01EE1F_01EE1F_000001_00066F, 0x01EE21_01EE21_000001_000628, 0x01EE22_01EE22_000001_00062C,
   0x01EE24_01EE24_000001_000647, 0x01EE27_01EE27_000001_00062D, 0x01EE29_01EE29_000001_00064A,
   0x01EE2A_01EE2D_000001_000643, 0x01EE2E_01EE2E_000001_000633, 0x01EE2F_01EE2F_000001_000639,
   0x01EE30_01EE30_000001_000641, 0x01EE31_01EE31_000001_000635, 0x01EE32_01EE32_000001_000642,
   0x01EE34_01EE34_000001_000634, 0x01EE35_01EE36_000001_00062A, 0x01EE37_01EE37_000001_00062E,
   0x01EE39_01EE39_000001_000636, 0x01EE3B_01EE3B_000001_00063A, 0x01EE42_01EE42_000001_00062C,
   0x01EE47_01EE47_000001_00062D, 0x01EE49_01EE49_000001_00064A, 0x01EE4B_01EE4D_000002_000644,
   0x01EE4E_01EE4E_000001_000633, 0x01EE4F_01EE4F_000001_000639, 0x01EE51_01EE51_000001_000635,
   0x01EE52_01EE52_000001_000642, 0x01EE54_01EE54_000001_000634, 0x01EE57_01EE57_000001_00062E,
   0x01EE59_01EE59_000001_000636, 0x01EE5B_01EE5B_000001_00063A, 0x01EE5D_01EE5D_000001_0006BA,
   0x01EE5F_01EE5F_000001_00066F, 0x01EE61_01EE61_000001_000628, 0x01EE62_01EE62_000001_00062C,
   0x01EE64_01EE64_000001_000647, 0x01EE67_01EE67_000001_00062D, 0x01EE68_01EE68_000001_000637,
   0x01EE69_01EE69_000001_00064A, 0x01EE6A_01EE6C_000002_000643, 0x01EE6D_01EE6D_000001_000646,
   0x01EE6E_01EE6E_000001_000633, 0x01EE6F_01EE6F_000001_000639, 0x01EE70_01EE70_000001_000641,
   0x01EE71_01EE71_000001_000635],
  [0x01EE72_01EE72_000001_000642, 0x01EE74_01EE74_000001_000634, 0x01EE75_01EE76_000001_00062A,
   0x01EE77_01EE77_000001_00062E, 0x01EE79_01EE79_000001_000636, 0x01EE7A_01EE7A_000001_000638,
   0x01EE7B_01EE7B_000001_00063A, 0x01EE7C_01EE7C_000001_00066E, 0x01EE7E_01EE7E_000001_0006A1,
   0x01EE80_01EE81_000001_000627, 0x01EE82_01EE82_000001_00062C, 0x01EE83_01EE83_000001_00062F,
   0x01EE84_01EE85_000001_000647, 0x01EE86_01EE86_000001_000632, 0x01EE87_01EE87_000001_00062D,
   0x01EE88_01EE88_000001_000637, 0x01EE89_01EE89_000001_00064A, 0x01EE8B_01EE8D_000001_000644,
   0x01EE8E_01EE8E_000001_000633, 0x01EE8F_01EE8F_000001_000639, 0x01EE90_01EE90_000001_000641,
   0x01EE91_01EE91_000001_000635, 0x01EE92_01EE92_000001_000642, 0x01EE93_01EE93_000001_000631,
   0x01EE94_01EE94_000001_000634, 0x01EE95_01EE96_000001_00062A, 0x01EE97_01EE97_000001_00062E,
   0x01EE98_01EE98_000001_000630, 0x01EE99_01EE99_000001_000636, 0x01EE9A_01EE9A_000001_000638,
   0x01EE9B_01EE9B_000001_00063A, 0x01EEA1_01EEA1_000001_000628, 0x01EEA2_01EEA2_000001_00062C,
   0x01EEA3_01EEA3_000001_00062F, 0x01EEA5_01EEA5_000001_000648, 0x01EEA6_01EEA6_000001_000632,
   0x01EEA7_01EEA7_000001_00062D, 0x01EEA8_01EEA8_000001_000637, 0x01EEA9_01EEA9_000001_00064A,
   0x01EEAB_01EEAD_000001_000644, 0x01EEAE_01EEAE_000001_000633, 0x01EEAF_01EEAF_000001_000639,
   0x01EEB0_01EEB0_000001_000641, 0x01EEB1_01EEB1_000001_000635, 0x01EEB2_01EEB2_000001_000642,
   0x01EEB3_01EEB3_000001_000631, 0x01EEB4_01EEB4_000001_000634, 0x01EEB5_01EEB6_000001_00062A,
   0x01EEB7_01EEB7_000001_00062E, 0x01EEB8_01EEB8_000001_000630, 0x01EEB9_01EEB9_000001_000636,
   0x01EEBA_01EEBA_000001_000638, 0x01EEBB_01EEBB_000001_00063A, 0x01F12B_01F12B_000001_000043,
   0x01F12C_01F12C_000001_000052, 0x01F130_01F149_000001_000041, 0x01F202_01F202_000001_0030B5,
   0x01F210_01F210_000001_00624B, 0x01F211_01F211_000001_005B57, 0x01F212_01F212_000001_0053CC,
   0x01F213_01F213_000001_0030C7, 0x01F214_01F214_000001_004E8C, 0x01F215_01F215_000001_00591A,
   0x01F216_01F216_000001_0089E3],
  [0x01F217_01F217_000001_005929, 0x01F218_01F218_000001_004EA4, 0x01F219_01F219_000001_006620,
   0x01F21A_01F21A_000001_007121, 0x01F21B_01F21B_000001_006599, 0x01F21C_01F21C_000001_00524D,
   0x01F21D_01F21D_000001_005F8C, 0x01F21E_01F21E_000001_00518D, 0x01F21F_01F21F_000001_0065B0,
   0x01F220_01F220_000001_00521D, 0x01F221_01F221_000001_007D42, 0x01F222_01F222_000001_00751F,
   0x01F223_01F223_000001_008CA9, 0x01F224_01F224_000001_0058F0, 0x01F225_01F225_000001_005439,
   0x01F226_01F226_000001_006F14, 0x01F227_01F227_000001_006295, 0x01F228_01F228_000001_006355,
   0x01F229_01F229_000001_004E00, 0x01F22A_01F22A_000001_004E09, 0x01F22B_01F22B_000001_00904A,
   0x01F22C_01F22C_000001_005DE6, 0x01F22D_01F22D_000001_004E2D, 0x01F22E_01F22E_000001_0053F3,
   0x01F22F_01F22F_000001_006307, 0x01F230_01F230_000001_008D70, 0x01F231_01F231_000001_006253,
   0x01F232_01F232_000001_007981, 0x01F233_01F233_000001_007A7A, 0x01F234_01F234_000001_005408,
   0x01F235_01F235_000001_006E80, 0x01F236_01F236_000001_006709, 0x01F237_01F237_000001_006708,
   0x01F238_01F238_000001_007533, 0x01F239_01F239_000001_005272, 0x01F23A_01F23A_000001_0055B6,
   0x01F23B_01F23B_000001_00914D, 0x01F250_01F250_000001_005F97, 0x01F251_01F251_000001_0053EF,
   0x01FBF0_01FBF9_000001_000030]]

/-- One step of the compatibility decompositions into several code points. -/
def compatibilityLong : Rows := ⟨[
  [0x0000A8_000020_000308, 0x0000AF_000020_000304, 0x0000B4_000020_000301,
   0x0000B8_000020_000327, 0x0000BC_000031_002044_000034, 0x0000BD_000031_002044_000032,
   0x0000BE_000033_002044_000034, 0x000132_000049_00004A, 0x000133_000069_00006A,
   0x00013F_00004C_0000B7, 0x000140_00006C_0000B7, 0x000149_0002BC_00006E,
   0x0001C4_000044_00017D, 0x0001C5_000044_00017E, 0x0001C6_000064_00017E,
   0x0001C7_00004C_00004A, 0x0001C8_00004C_00006A, 0x0001C9_00006C_00006A,
   0x0001CA_00004E_00004A, 0x0001CB_00004E_00006A, 0x0001CC_00006E_00006A,
   0x0001F1_000044_00005A, 0x0001F2_000044_00007A, 0x0001F3_000064_00007A,
   0x0002D8_000020_000306, 0x0002D9_000020_000307, 0x0002DA_000020_00030A,
   0x0002DB_000020_000328, 0x0002DC_000020_000303, 0x0002DD_000020_00030B,
   0x00037A_000020_000345, 0x000384_000020_000301, 0x000587_000565_000582,
   0x000675_000627_000674, 0x000676_000648_000674, 0x000677_0006C7_000674,
   0x000678_00064A_000674, 0x000E33_000E4D_000E32, 0x000EB3_000ECD_000EB2,
   0x000EDC_000EAB_000E99, 0x000EDD_000EAB_000EA1, 0x000F77_000FB2_000F81,
   0x000F79_000FB3_000F81, 0x001E9A_000061_0002BE, 0x001FBD_000020_000313,
   0x001FBF_000020_000313, 0x001FC0_000020_000342, 0x001FFE_000020_000314,
   0x002017_000020_000333, 0x002025_00002E_00002E, 0x002026_00002E_00002E_00002E,
   0x002033_002032_002032, 0x002034_002032_002032_002032, 0x002036_002035_002035,
   0x002037_002035_002035_002035, 0x00203C_000021_000021, 0x00203E_000020_000305,
   0x002047_00003F_00003F, 0x002048_00003F_000021, 0x002049_000021_00003F,
   0x002057_002032_002032_002032_002032, 0x0020A8_000052_000073, 0x002100_000061_00002F_000063,
   0x002101_000061_00002F_000073],
  [0x002103_0000B0_000043, 0x002105_000063_00002F_00006F, 0x002106_000063_00002F_000075,
   0x002109_0000B0_000046, 0x002116_00004E_00006F, 0x002120_000053_00004D,
   0x002121_000054_000045_00004C, 0x002122_000054_00004D, 0x00213B_000046_000041_000058,
   0x002150_000031_002044_000037, 0x002151_000031_002044_000039,
   0x002152_000031_002044_000031_000030, 0x002153_000031_002044_000033,
   0x002154_000032_002044_000033, 0x002155_000031_002044_000035, 0x002156_000032_002044_000035,
   0x002157_000033_002044_000035, 0x002158_000034_002044_000035, 0x002159_000031_002044_000036,
   0x00215A_000035_002044_000036, 0x00215B_000031_002044_000038, 0x00215C_000033_002044_000038,
   0x00215D_000035_002044_000038, 0x00215E_000037_002044_000038, 0x00215F_000031_002044,
   0x002161_000049_000049, 0x002162_000049_000049_000049, 0x002163_000049_000056,
   0x002165_000056_000049, 0x002166_000056_000049_000049, 0x002167_000056_000049_000049_000049,
   0x002168_000049_000058, 0x00216A_000058_000049, 0x00216B_000058_000049_000049,
   0x002171_000069_000069, 0x002172_000069_000069_000069, 0x002173_000069_000076,
   0x002175_000076_000069, 0x002176_000076_000069_000069, 0x002177_000076_000069_000069_000069,
   0x002178_000069_000078, 0x00217A_000078_000069, 0x00217B_000078_000069_000069,
   0x002189_000030_002044_000033, 0x00222C_00222B_00222B, 0x00222D_00222B_00222B_00222B,
   0x00222F_00222E_00222E, 0x002230_00222E_00222E_00222E, 0x002469_000031_000030,
   0x00246A_000031_000031, 0x00246B_000031_000032, 0x00246C_000031_000033,
   0x00246D_000031_000034, 0x00246E_000031_000035, 0x00246F_000031_000036,
   0x002470_000031_000037, 0x002471_000031_000038, 0x002472_000031_000039,
   0x002473_000032_000030, 0x002474_000028_000031_000029, 0x002475_000028_000032_000029,
   0x002476_000028_000033_000029, 0x002477_000028_000034_000029, 0x002478_000028_000035_000029],
  [0x002479_000028_000036_000029, 0x00247A_000028_000037_000029, 0x00247B_000028_000038_000029,
   0x00247C_000028_000039_000029, 0x00247D_000028_000031_000030_000029,
   0x00247E_000028_000031_000031_000029, 0x00247F_000028_000031_000032_000029,
   0x002480_000028_000031_000033_000029, 0x002481_000028_000031_000034_000029,
   0x002482_000028_000031_000035_000029, 0x002483_000028_000031_000036_000029,
   0x002484_000028_000031_000037_000029, 0x002485_000028_000031_000038_000029,
   0x002486_000028_000031_000039_000029, 0x002487_000028_000032_000030_000029,
   0x002488_000031_00002E, 0x002489_000032_00002E, 0x00248A_000033_00002E,
   0x00248B_000034_00002E, 0x00248C_000035_00002E, 0x00248D_000036_00002E,
   0x00248E_000037_00002E, 0x00248F_000038_00002E, 0x002490_000039_00002E,
   0x002491_000031_000030_00002E, 0x002492_000031_000031_00002E, 0x002493_000031_000032_00002E,
   0x002494_000031_000033_00002E, 0x002495_000031_000034_00002E, 0x002496_000031_000035_00002E,
   0x002497_000031_000036_00002E, 0x002498_000031_000037_00002E, 0x002499_000031_000038_00002E,
   0x00249A_000031_000039_00002E, 0x00249B_000032_000030_00002E, 0x00249C_000028_000061_000029,
   0x00249D_000028_000062_000029, 0x00249E_000028_000063_000029, 0x00249F_000028_000064_000029,
   0x0024A0_000028_000065_000029, 0x0024A1_000028_000066_000029, 0x0024A2_000028_000067_000029,
   0x0024A3_000028_000068_000029, 0x0024A4_000028_000069_000029, 0x0024A5_000028_00006A_000029,
   0x0024A6_000028_00006B_000029, 0x0024A7_000028_00006C_000029, 0x0024A8_000028_00006D_000029,
   0x0024A9_000028_00006E_000029, 0x0024AA_000028_00006F_000029, 0x0024AB_000028_000070_000029,
   0x0024AC_000028_000071_000029, 0x0024AD_000028_000072_000029, 0x0024AE_000028_000073_000029,
   0x0024AF_000028_000074_000029, 0x0024B0_000028_000075_000029, 0x0024B1_000028_000076_000029,
   0x0024B2_000028_000077_000029, 0x0024B3_000028_000078_000029, 0x0024B4_000028_000079_000029,
   0x0024B5_000028_00007A_000029, 0x002A0C_00222B_00222B_00222B_00222B,
   0x002A74_00003A_00003A_00003D, 0x002A75_00003D_00003D],
  [0x002A76_00003D_00003D_00003D, 0x00309B_000020_003099, 0x00309C_000020_00309A,
   0x00309F_003088_00308A, 0x0030FF_0030B3_0030C8, 0x003200_000028_001100_000029,
   0x003201_000028_001102_000029, 0x003202_000028_001103_000029, 0x003203_000028_001105_000029,
   0x003204_000028_001106_000029, 0x003205_000028_001107_000029, 0x003206_000028_001109_000029,
   0x003207_000028_00110B_000029, 0x003208_000028_00110C_000029, 0x003209_000028_00110E_000029,
   0x00320A_000028_00110F_000029, 0x00320B_000028_001110_000029, 0x00320C_000028_001111_000029,
   0x00320D_000028_001112_000029, 0x00320E_000028_001100_001161_000029,
   0x00320F_000028_001102_001161_000029, 0x003210_000028_001103_001161_000029,
   0x003211_000028_001105_001161_000029, 0x003212_000028_001106_001161_000029,
   0x003213_000028_001107_001161_000029, 0x003214_000028_001109_001161_000029,
   0x003215_000028_00110B_001161_000029, 0x003216_000028_00110C_001161_000029,
   0x003217_000028_00110E_001161_000029, 0x003218_000028_00110F_001161_000029,
   0x003219_000028_001110_001161_000029, 0x00321A_000028_001111_001161_000029,
   0x00321B_000028_001112_001161_000029, 0x00321C_000028_00110C_00116E_000029,
   0x00321D_000028_00110B_001169_00110C_001165_0011AB_000029,
   0x00321E_000028_00110B_001169_001112_00116E_000029, 0x003220_000028_004E00_000029,
   0x003221_000028_004E8C_000029, 0x003222_000028_004E09_000029, 0x003223_000028_0056DB_000029,
   0x003224_000028_004E94_000029, 0x003225_000028_00516D_000029, 0x003226_000028_004E03_000029,
   0x003227_000028_00516B_000029, 0x003228_000028_004E5D_000029, 0x003229_000028_005341_000029,
   0x00322A_000028_006708_000029, 0x00322B_000028_00706B_000029, 0x00322C_000028_006C34_000029,
   0x00322D_000028_006728_000029, 0x00322E_000028_0091D1_000029, 0x00322F_000028_00571F_000029,
   0x003230_000028_0065E5_000029, 0x003231_000028_00682A_000029, 0x003232_000028_006709_000029,
   0x003233_000028_00793E_000029, 0x003234_000028_00540D_000029, 0x003235_000028_007279_000029,
   0x003236_000028_008CA1_000029, 0x003237_000028_00795D_000029, 0x003238_000028_0052B4_000029,
   0x003239_000028_004EE3_000029, 0x00323A_000028_00547C_000029, 0x00323B_000028_005B66_000029],
  [0x00323C_000028_0076E3_000029, 0x00323D_000028_004F01_000029, 0x00323E_000028_008CC7_000029,
   0x00323F_000028_005354_000029, 0x003240_000028_00796D_000029, 0x003241_000028_004F11_000029,
   0x003242_000028_0081EA_000029, 0x003243_000028_0081F3_000029, 0x003250_000050_000054_000045,
   0x003251_000032_000031, 0x003252_000032_000032, 0x003253_000032_000033,
   0x003254_000032_000034, 0x003255_000032_000035, 0x003256_000032_000036,
   0x003257_000032_000037, 0x003258_000032_000038, 0x003259_000032_000039,
   0x00325A_000033_000030, 0x00325B_000033_000031, 0x00325C_000033_000032,
   0x00325D_000033_000033, 0x00325E_000033_000034, 0x00325F_000033_000035,
   0x00326E_001100_001161, 0x00326F_001102_001161, 0x003270_001103_001161,
   0x003271_001105_001161, 0x003272_001106_001161, 0x003273_001107_001161,
   0x003274_001109_001161, 0x003275_00110B_001161, 0x003276_00110C_001161,
   0x003277_00110E_001161, 0x003278_00110F_001161, 0x003279_001110_001161,
   0x00327A_001111_001161, 0x00327B_001112_001161, 0x00327C_00110E_001161_0011B7_001100_001169,
   0x00327D_00110C_00116E_00110B_001174, 0x00327E_00110B_00116E, 0x0032B1_000033_000036,
   0x0032B2_000033_000037, 0x0032B3_000033_000038, 0x0032B4_000033_000039,
   0x0032B5_000034_000030, 0x0032B6_000034_000031, 0x0032B7_000034_000032,
   0x0032B8_000034_000033, 0x0032B9_000034_000034, 0x0032BA_000034_000035,
   0x0032BB_000034_000036, 0x0032BC_000034_000037, 0x0032BD_000034_000038,
   0x0032BE_000034_000039, 0x0032BF_000035_000030, 0x0032C0_000031_006708,
   0x0032C1_000032_006708, 0x0032C2_000033_006708, 0x0032C3_000034_006708,
   0x0032C4_000035_006708, 0x0032C5_000036_006708, 0x0032C6_000037_006708, 0x0032C7_000038_006708],
  [0x0032C8_000039_006708, 0x0032C9_000031_000030_006708, 0x0032CA_000031_000031_006708,
   0x0032CB_000031_000032_006708, 0x0032CC_000048_000067, 0x0032CD_000065_000072_000067,
   0x0032CE_000065_000056, 0x0032CF_00004C_000054_000044, 0x0032FF_004EE4_00548C,
   0x003300_0030A2_0030D1_0030FC_0030C8, 0x003301_0030A2_0030EB_0030D5_0030A1,
   0x003302_0030A2_0030F3_0030DA_0030A2, 0x003303_0030A2_0030FC_0030EB,
   0x003304_0030A4_0030CB_0030F3_0030B0, 0x003305_0030A4_0030F3_0030C1,
   0x003306_0030A6_0030A9_0030F3, 0x003307_0030A8_0030B9_0030AF_0030FC_0030C9,
   0x003308_0030A8_0030FC_0030AB_0030FC, 0x003309_0030AA_0030F3_0030B9,
   0x00330A_0030AA_0030FC_0030E0, 0x00330B_0030AB_0030A4_0030EA,
   0x00330C_0030AB_0030E9_0030C3_0030C8, 0x00330D_0030AB_0030ED_0030EA_0030FC,
   0x00330E_0030AC_0030ED_0030F3, 0x00330F_0030AC_0030F3_0030DE, 0x003310_0030AE_0030AC,
   0x003311_0030AE_0030CB_0030FC, 0x003312_0030AD_0030E5_0030EA_0030FC,
   0x003313_0030AE_0030EB_0030C0_0030FC, 0x003314_0030AD_0030ED,
   0x003315_0030AD_0030ED_0030B0_0030E9_0030E0,
   0x003316_0030AD_0030ED_0030E1_0030FC_0030C8_0030EB,
   0x003317_0030AD_0030ED_0030EF_0030C3_0030C8, 0x003318_0030B0_0030E9_0030E0,
   0x003319_0030B0_0030E9_0030E0_0030C8_0030F3, 0x00331A_0030AF_0030EB_0030BC_0030A4_0030ED,
   0x00331B_0030AF_0030ED_0030FC_0030CD, 0x00331C_0030B1_0030FC_0030B9,
   0x00331D_0030B3_0030EB_0030CA, 0x00331E_0030B3_0030FC_0030DD,
   0x00331F_0030B5_0030A4_0030AF_0030EB, 0x003320_0030B5_0030F3_0030C1_0030FC_0030E0,
   0x003321_0030B7_0030EA_0030F3_0030B0, 0x003322_0030BB_0030F3_0030C1,
   0x003323_0030BB_0030F3_0030C8, 0x003324_0030C0_0030FC_0030B9, 0x003325_0030C7_0030B7,
   0x003326_0030C9_0030EB, 0x003327_0030C8_0030F3, 0x003328_0030CA_0030CE,
   0x003329_0030CE_0030C3_0030C8, 0x00332A_0030CF_0030A4_0030C4,
   0x00332B_0030D1_0030FC_0030BB_0030F3_0030C8, 0x00332C_0030D1_0030FC_0030C4,
   0x00332D_0030D0_0030FC_0030EC_0030EB, 0x00332E_0030D4_0030A2_0030B9_0030C8_0030EB,
   0x00332F_0030D4_0030AF_0030EB, 0x003330_0030D4_0030B3, 0x003331_0030D3_0030EB,
   0x003332_0030D5_0030A1_0030E9_0030C3_0030C9, 0x003333_0030D5_0030A3_0030FC_0030C8,
   0x003334_0030D6_0030C3_0030B7_0030A7_0030EB, 0x003335_0030D5_0030E9_0030F3,
   0x003336_0030D8_0030AF_0030BF_0030FC_0030EB],
  [0x003337_0030DA_0030BD, 0x003338_0030DA_0030CB_0030D2, 0x003339_0030D8_0030EB_0030C4,
   0x00333A_0030DA_0030F3_0030B9, 0x00333B_0030DA_0030FC_0030B8, 0x00333C_0030D9_0030FC_0030BF,
   0x00333D_0030DD_0030A4_0030F3_0030C8, 0x00333E_0030DC_0030EB_0030C8, 0x00333F_0030DB_0030F3,
   0x003340_0030DD_0030F3_0030C9, 0x003341_0030DB_0030FC_0030EB, 0x003342_0030DB_0030FC_0030F3,
   0x003343_0030DE_0030A4_0030AF_0030ED, 0x003344_0030DE_0030A4_0030EB,
   0x003345_0030DE_0030C3_0030CF, 0x003346_0030DE_0030EB_0030AF,
   0x003347_0030DE_0030F3_0030B7_0030E7_0030F3, 0x003348_0030DF_0030AF_0030ED_0030F3,
   0x003349_0030DF_0030EA, 0x00334A_0030DF_0030EA_0030D0_0030FC_0030EB, 0x00334B_0030E1_0030AC,
   0x00334C_0030E1_0030AC_0030C8_0030F3, 0x00334D_0030E1_0030FC_0030C8_0030EB,
   0x00334E_0030E4_0030FC_0030C9, 0x00334F_0030E4_0030FC_0030EB, 0x003350_0030E6_0030A2_0030F3,
   0x003351_0030EA_0030C3_0030C8_0030EB, 0x003352_0030EA_0030E9, 0x003353_0030EB_0030D4_0030FC,
   0x003354_0030EB_0030FC_0030D6_0030EB, 0x003355_0030EC_0030E0,
   0x003356_0030EC_0030F3_0030C8_0030B2_0030F3, 0x003357_0030EF_0030C3_0030C8,
   0x003358_000030_0070B9, 0x003359_000031_0070B9, 0x00335A_000032_0070B9,
   0x00335B_000033_0070B9, 0x00335C_000034_0070B9, 0x00335D_000035_0070B9,
   0x00335E_000036_0070B9, 0x00335F_000037_0070B9, 0x003360_000038_0070B9,
   0x003361_000039_0070B9, 0x003362_000031_000030_0070B9, 0x003363_000031_000031_0070B9,
   0x003364_000031_000032_0070B9, 0x003365_000031_000033_0070B9, 0x003366_000031_000034_0070B9,
   0x003367_000031_000035_0070B9, 0x003368_000031_000036_0070B9, 0x003369_000031_000037_0070B9,
   0x00336A_000031_000038_0070B9, 0x00336B_000031_000039_0070B9, 0x00336C_000032_000030_0070B9,
   0x00336D_000032_000031_0070B9, 0x00336E_000032_000032_0070B9, 0x00336F_000032_000033_0070B9,
   0x003370_000032_000034_0070B9, 0x003371_000068_000050_000061, 0x003372_000064_000061,
   0x003373_000041_000055, 0x003374_000062_000061_000072, 0x003375_00006F_000056,
   0x003376_000070_000063],
  [0x003377_000064_00006D, 0x003378_000064_00006D_0000B2, 0x003379_000064_00006D_0000B3,
   0x00337A_000049_000055, 0x00337B_005E73_006210, 0x00337C_00662D_00548C,
   0x00337D_005927_006B63, 0x00337E_00660E_006CBB, 0x00337F_00682A_005F0F_004F1A_00793E,
   0x003380_000070_000041, 0x003381_00006E_000041, 0x003382_0003BC_000041,
   0x003383_00006D_000041, 0x003384_00006B_000041, 0x003385_00004B_000042,
   0x003386_00004D_000042, 0x003387_000047_000042, 0x003388_000063_000061_00006C,
   0x003389_00006B_000063_000061_00006C, 0x00338A_000070_000046, 0x00338B_00006E_000046,
   0x00338C_0003BC_000046, 0x00338D_0003BC_000067, 0x00338E_00006D_000067,
   0x00338F_00006B_000067, 0x003390_000048_00007A, 0x003391_00006B_000048_00007A,
   0x003392_00004D_000048_00007A, 0x003393_000047_000048_00007A, 0x003394_000054_000048_00007A,
   0x003395_0003BC_002113, 0x003396_00006D_002113, 0x003397_000064_002113,
   0x003398_00006B_002113, 0x003399_000066_00006D, 0x00339A_00006E_00006D,
   0x00339B_0003BC_00006D, 0x00339C_00006D_00006D, 0x00339D_000063_00006D,
   0x00339E_00006B_00006D, 0x00339F_00006D_00006D_0000B2, 0x0033A0_000063_00006D_0000B2,
   0x0033A1_00006D_0000B2, 0x0033A2_00006B_00006D_0000B2, 0x0033A3_00006D_00006D_0000B3,
   0x0033A4_000063_00006D_0000B3, 0x0033A5_00006D_0000B3, 0x0033A6_00006B_00006D_0000B3,
   0x0033A7_00006D_002215_000073, 0x0033A8_00006D_002215_000073_0000B2, 0x0033A9_000050_000061,
   0x0033AA_00006B_000050_000061, 0x0033AB_00004D_000050_000061, 0x0033AC_000047_000050_000061,
   0x0033AD_000072_000061_000064, 0x0033AE_000072_000061_000064_002215_000073,
   0x0033AF_000072_000061_000064_002215_000073_0000B2, 0x0033B0_000070_000073,
   0x0033B1_00006E_000073, 0x0033B2_0003BC_000073, 0x0033B3_00006D_000073,
   0x0033B4_000070_000056, 0x0033B5_00006E_000056, 0x0033B6_0003BC_000056],
  [0x0033B7_00006D_000056, 0x0033B8_00006B_000056, 0x0033B9_00004D_000056,
   0x0033BA_000070_000057, 0x0033BB_00006E_000057, 0x0033BC_0003BC_000057,
   0x0033BD_00006D_000057, 0x0033BE_00006B_000057, 0x0033BF_00004D_000057,
   0x0033C0_00006B_0003A9, 0x0033C1_00004D_0003A9, 0x0033C2_000061_00002E_00006D_00002E,
   0x0033C3_000042_000071, 0x0033C4_000063_000063, 0x0033C5_000063_000064,
   0x0033C6_000043_002215_00006B_000067, 0x0033C7_000043_00006F_00002E, 0x0033C8_000064_000042,
   0x0033C9_000047_000079, 0x0033CA_000068_000061, 0x0033CB_000048_000050,
   0x0033CC_000069_00006E, 0x0033CD_00004B_00004B, 0x0033CE_00004B_00004D,
   0x0033CF_00006B_000074, 0x0033D0_00006C_00006D, 0x0033D1_00006C_00006E,
   0x0033D2_00006C_00006F_000067, 0x0033D3_00006C_000078, 0x0033D4_00006D_000062,
   0x0033D5_00006D_000069_00006C, 0x0033D6_00006D_00006F_00006C, 0x0033D7_000050_000048,
   0x0033D8_000070_00002E_00006D_00002E, 0x0033D9_000050_000050_00004D, 0x0033DA_000050_000052,
   0x0033DB_000073_000072, 0x0033DC_000053_000076, 0x0033DD_000057_000062,
   0x0033DE_000056_002215_00006D, 0x0033DF_000041_002215_00006D, 0x0033E0_000031_0065E5,
   0x0033E1_000032_0065E5, 0x0033E2_000033_0065E5, 0x0033E3_000034_0065E5,
   0x0033E4_000035_0065E5, 0x0033E5_000036_0065E5, 0x0033E6_000037_0065E5,
   0x0033E7_000038_0065E5, 0x0033E8_000039_0065E5, 0x0033E9_000031_000030_0065E5,
   0x0033EA_000031_000031_0065E5, 0x0033EB_000031_000032_0065E5, 0x0033EC_000031_000033_0065E5,
   0x0033ED_000031_000034_0065E5, 0x0033EE_000031_000035_0065E5, 0x0033EF_000031_000036_0065E5,
   0x0033F0_000031_000037_0065E5, 0x0033F1_000031_000038_0065E5, 0x0033F2_000031_000039_0065E5,
   0x0033F3_000032_000030_0065E5, 0x0033F4_000032_000031_0065E5, 0x0033F5_000032_000032_0065E5,
   0x0033F6_000032_000033_0065E5],
  [0x0033F7_000032_000034_0065E5, 0x0033F8_000032_000035_0065E5, 0x0033F9_000032_000036_0065E5,
   0x0033FA_000032_000037_0065E5, 0x0033FB_000032_000038_0065E5, 0x0033FC_000032_000039_0065E5,
   0x0033FD_000033_000030_0065E5, 0x0033FE_000033_000031_0065E5, 0x0033FF_000067_000061_00006C,
   0x00FB00_000066_000066, 0x00FB01_000066_000069, 0x00FB02_000066_00006C,
   0x00FB03_000066_000066_000069, 0x00FB04_000066_000066_00006C, 0x00FB05_00017F_000074,
   0x00FB06_000073_000074, 0x00FB13_000574_000576, 0x00FB14_000574_000565,
   0x00FB15_000574_00056B, 0x00FB16_00057E_000576, 0x00FB17_000574_00056D,
   0x00FB4F_0005D0_0005DC, 0x00FBEA_000626_000627, 0x00FBEB_000626_000627,
   0x00FBEC_000626_0006D5, 0x00FBED_000626_0006D5, 0x00FBEE_000626_000648,
   0x00FBEF_000626_000648, 0x00FBF0_000626_0006C7, 0x00FBF1_000626_0006C7,
   0x00FBF2_000626_0006C6, 0x00FBF3_000626_0006C6, 0x00FBF4_000626_0006C8,
   0x00FBF5_000626_0006C8, 0x00FBF6_000626_0006D0, 0x00FBF7_000626_0006D0,
   0x00FBF8_000626_0006D0, 0x00FBF9_000626_000649, 0x00FBFA_000626_000649,
   0x00FBFB_000626_000649, 0x00FC00_000626_00062C, 0x00FC01_000626_00062D,
   0x00FC02_000626_000645, 0x00FC03_000626_000649, 0x00FC04_000626_00064A,
   0x00FC05_000628_00062C, 0x00FC06_000628_00062D, 0x00FC07_000628_00062E,
   0x00FC08_000628_000645, 0x00FC09_000628_000649, 0x00FC0A_000628_00064A,
   0x00FC0B_00062A_00062C, 0x00FC0C_00062A_00062D, 0x00FC0D_00062A_00062E,
   0x00FC0E_00062A_000645, 0x00FC0F_00062A_000649, 0x00FC10_00062A_00064A,
   0x00FC11_00062B_00062C, 0x00FC12_00062B_000645, 0x00FC13_00062B_000649,
   0x00FC14_00062B_00064A, 0x00FC15_00062C_00062D, 0x00FC16_00062C_000645, 0x00FC17_00062D_00062C],
  [0x00FC18_00062D_000645, 0x00FC19_00062E_00062C, 0x00FC1A_00062E_00062D,
   0x00FC1B_00062E_000645, 0x00FC1C_000633_00062C, 0x00FC1D_000633_00062D,
   0x00FC1E_000633_00062E, 0x00FC1F_000633_000645, 0x00FC20_000635_00062D,
   0x00FC21_000635_000645, 0x00FC22_000636_00062C, 0x00FC23_000636_00062D,
   0x00FC24_000636_00062E, 0x00FC25_000636_000645, 0x00FC26_000637_00062D,
   0x00FC27_000637_000645, 0x00FC28_000638_000645, 0x00FC29_000639_00062C,
   0x00FC2A_000639_000645, 0x00FC2B_00063A_00062C, 0x00FC2C_00063A_000645,
   0x00FC2D_000641_00062C, 0x00FC2E_000641_00062D, 0x00FC2F_000641_00062E,
   0x00FC30_000641_000645, 0x00FC31_000641_000649, 0x00FC32_000641_00064A,
   0x00FC33_000642_00062D, 0x00FC34_000642_000645, 0x00FC35_000642_000649,
   0x00FC36_000642_00064A, 0x00FC37_000643_000627, 0x00FC38_000643_00062C,
   0x00FC39_000643_00062D, 0x00FC3A_000643_00062E, 0x00FC3B_000643_000644,
   0x00FC3C_000643_000645, 0x00FC3D_000643_000649, 0x00FC3E_000643_00064A,
   0x00FC3F_000644_00062C, 0x00FC40_000644_00062D, 0x00FC41_000644_00062E,
   0x00FC42_000644_000645, 0x00FC43_000644_000649, 0x00FC44_000644_00064A,
   0x00FC45_000645_00062C, 0x00FC46_000645_00062D, 0x00FC47_000645_00062E,
   0x00FC48_000645_000645, 0x00FC49_000645_000649, 0x00FC4A_000645_00064A,
   0x00FC4B_000646_00062C, 0x00FC4C_000646_00062D, 0x00FC4D_000646_00062E,
   0x00FC4E_000646_000645, 0x00FC4F_000646_000649, 0x00FC50_000646_00064A,
   0x00FC51_000647_00062C, 0x00FC52_000647_000645, 0x00FC53_000647_000649,
   0x00FC54_000647_00064A, 0x00FC55_00064A_00062C, 0x00FC56_00064A_00062D, 0x00FC57_00064A_00062E],
  [0x00FC58_00064A_000645, 0x00FC59_00064A_000649, 0x00FC5A_00064A_00064A,
   0x00FC5B_000630_000670, 0x00FC5C_000631_000670, 0x00FC5D_000649_000670,
   0x00FC5E_000020_00064C_000651, 0x00FC5F_000020_00064D_000651, 0x00FC60_000020_00064E_000651,
   0x00FC61_000020_00064F_000651, 0x00FC62_000020_000650_000651, 0x00FC63_000020_000651_000670,
   0x00FC64_000626_000631, 0x00FC65_000626_000632, 0x00FC66_000626_000645,
   0x00FC67_000626_000646, 0x00FC68_000626_000649, 0x00FC69_000626_00064A,
   0x00FC6A_000628_000631, 0x00FC6B_000628_000632, 0x00FC6C_000628_000645,
   0x00FC6D_000628_000646, 0x00FC6E_000628_000649, 0x00FC6F_000628_00064A,
   0x00FC70_00062A_000631, 0x00FC71_00062A_000632, 0x00FC72_00062A_000645,
   0x00FC73_00062A_000646, 0x00FC74_00062A_000649, 0x00FC75_00062A_00064A,
   0x00FC76_00062B_000631, 0x00FC77_00062B_000632, 0x00FC78_00062B_000645,
   0x00FC79_00062B_000646, 0x00FC7A_00062B_000649, 0x00FC7B_00062B_00064A,
   0x00FC7C_000641_000649, 0x00FC7D_000641_00064A, 0x00FC7E_000642_000649,
   0x00FC7F_000642_00064A, 0x00FC80_000643_000627, 0x00FC81_000643_000644,
   0x00FC82_000643_000645, 0x00FC83_000643_000649, 0x00FC84_000643_00064A,
   0x00FC85_000644_000645, 0x00FC86_000644_000649, 0x00FC87_000644_00064A,
   0x00FC88_000645_000627, 0x00FC89_000645_000645, 0x00FC8A_000646_000631,
   0x00FC8B_000646_000632, 0x00FC8C_000646_000645, 0x00FC8D_000646_000646,
   0x00FC8E_000646_000649, 0x00FC8F_000646_00064A, 0x00FC90_000649_000670,
   0x00FC91_00064A_000631, 0x00FC92_00064A_000632, 0x00FC93_00064A_000645,
   0x00FC94_00064A_000646, 0x00FC95_00064A_000649, 0x00FC96_00064A_00064A, 0x00FC97_000626_00062C],
  [0x00FC98_000626_00062D, 0x00FC99_000626_00062E, 0x00FC9A_000626_000645,
   0x00FC9B_000626_000647, 0x00FC9C_000628_00062C, 0x00FC9D_000628_00062D,
   0x00FC9E_000628_00062E, 0x00FC9F_000628_000645, 0x00FCA0_000628_000647,
   0x00FCA1_00062A_00062C, 0x00FCA2_00062A_00062D, 0x00FCA3_00062A_00062E,
   0x00FCA4_00062A_000645, 0x00FCA5_00062A_000647, 0x00FCA6_00062B_000645,
   0x00FCA7_00062C_00062D, 0x00FCA8_00062C_000645, 0x00FCA9_00062D_00062C,
   0x00FCAA_00062D_000645, 0x00FCAB_00062E_00062C, 0x00FCAC_00062E_000645,
   0x00FCAD_000633_00062C, 0x00FCAE_000633_00062D, 0x00FCAF_000633_00062E,
   0x00FCB0_000633_000645, 0x00FCB1_000635_00062D, 0x00FCB2_000635_00062E,
   0x00FCB3_000635_000645, 0x00FCB4_000636_00062C, 0x00FCB5_000636_00062D,
   0x00FCB6_000636_00062E, 0x00FCB7_000636_000645, 0x00FCB8_000637_00062D,
   0x00FCB9_000638_000645, 0x00FCBA_000639_00062C, 0x00FCBB_000639_000645,
   0x00FCBC_00063A_00062C, 0x00FCBD_00063A_000645, 0x00FCBE_000641_00062C,
   0x00FCBF_000641_00062D, 0x00FCC0_000641_00062E, 0x00FCC1_000641_000645,
   0x00FCC2_000642_00062D, 0x00FCC3_000642_000645, 0x00FCC4_000643_00062C,
   0x00FCC5_000643_00062D, 0x00FCC6_000643_00062E, 0x00FCC7_000643_000644,
   0x00FCC8_000643_000645, 0x00FCC9_000644_00062C, 0x00FCCA_000644_00062D,
   0x00FCCB_000644_00062E, 0x00FCCC_000644_000645, 0x00FCCD_000644_000647,
   0x00FCCE_000645_00062C, 0x00FCCF_000645_00062D, 0x00FCD0_000645_00062E,
   0x00FCD1_000645_000645, 0x00FCD2_000646_00062C, 0x00FCD3_000646_00062D,
   0x00FCD4_000646_00062E, 0x00FCD5_000646_000645, 0x00FCD6_000646_000647, 0x00FCD7_000647_00062C],
  [0x00FCD8_000647_000645, 0x00FCD9_000647_000670, 0x00FCDA_00064A_00062C,
   0x00FCDB_00064A_00062D, 0x00FCDC_00064A_00062E, 0x00FCDD_00064A_000645,
   0x00FCDE_00064A_000647, 0x00FCDF_000626_000645, 0x00FCE0_000626_000647,
   0x00FCE1_000628_000645, 0x00FCE2_000628_000647, 0x00FCE3_00062A_000645,
   0x00FCE4_00062A_000647, 0x00FCE5_00062B_000645, 0x00FCE6_00062B_000647,
   0x00FCE7_000633_000645, 0x00FCE8_000633_000647, 0x00FCE9_000634_000645,
   0x00FCEA_000634_000647, 0x00FCEB_000643_000644, 0x00FCEC_000643_000645,
   0x00FCED_000644_000645, 0x00FCEE_000646_000645, 0x00FCEF_000646_000647,
   0x00FCF0_00064A_000645, 0x00FCF1_00064A_000647, 0x00FCF2_000640_00064E_000651,
   0x00FCF3_000640_00064F_000651, 0x00FCF4_000640_000650_000651, 0x00FCF5_000637_000649,
   0x00FCF6_000637_00064A, 0x00FCF7_000639_000649, 0x00FCF8_000639_00064A,
   0x00FCF9_00063A_000649, 0x00FCFA_00063A_00064A, 0x00FCFB_000633_000649,
   0x00FCFC_000633_00064A, 0x00FCFD_000634_000649, 0x00FCFE_000634_00064A,
   0x00FCFF_00062D_000649, 0x00FD00_00062D_00064A, 0x00FD01_00062C_000649,
   0x00FD02_00062C_00064A, 0x00FD03_00062E_000649, 0x00FD04_00062E_00064A,
   0x00FD05_000635_000649, 0x00FD06_000635_00064A, 0x00FD07_000636_000649,
   0x00FD08_000636_00064A, 0x00FD09_000634_00062C, 0x00FD0A_000634_00062D,
   0x00FD0B_000634_00062E, 0x00FD0C_000634_000645, 0x00FD0D_000634_000631,
   0x00FD0E_000633_000631, 0x00FD0F_000635_000631, 0x00FD10_000636_000631,
   0x00FD11_000637_000649, 0x00FD12_000637_00064A, 0x00FD13_000639_000649,
   0x00FD14_000639_00064A, 0x00FD15_00063A_000649, 0x00FD16_00063A_00064A, 0x00FD17_000633_000649],
  [0x00FD18_000633_00064A, 0x00FD19_000634_000649, 0x00FD1A_000634_00064A,
   0x00FD1B_00062D_000649, 0x00FD1C_00062D_00064A, 0x00FD1D_00062C_000649,
   0x00FD1E_00062C_00064A, 0x00FD1F_00062E_000649, 0x00FD20_00062E_00064A,
   0x00FD21_000635_000649, 0x00FD22_000635_00064A, 0x00FD23_000636_000649,
   0x00FD24_000636_00064A, 0x00FD25_000634_00062C, 0x00FD26_000634_00062D,
   0x00FD27_000634_00062E, 0x00FD28_000634_000645, 0x00FD29_000634_000631,
   0x00FD2A_000633_000631, 0x00FD2B_000635_000631, 0x00FD2C_000636_000631,
   0x00FD2D_000634_00062C, 0x00FD2E_000634_00062D, 0x00FD2F_000634_00062E,
   0x00FD30_000634_000645, 0x00FD31_000633_000647, 0x00FD32_000634_000647,
   0x00FD33_000637_000645, 0x00FD34_000633_00062C, 0x00FD35_000633_00062D,
   0x00FD36_000633_00062E, 0x00FD37_000634_00062C, 0x00FD38_000634_00062D,
   0x00FD39_000634_00062E, 0x00FD3A_000637_000645, 0x00FD3B_000638_000645,
   0x00FD3C_000627_00064B, 0x00FD3D_000627_00064B, 0x00FD50_00062A_00062C_000645,
   0x00FD51_00062A_00062D_00062C, 0x00FD52_00062A_00062D_00062C, 0x00FD53_00062A_00062D_000645,
   0x00FD54_00062A_00062E_000645, 0x00FD55_00062A_000645_00062C, 0x00FD56_00062A_000645_00062D,
   0x00FD57_00062A_000645_00062E, 0x00FD58_00062C_000645_00062D, 0x00FD59_00062C_000645_00062D,
   0x00FD5A_00062D_000645_00064A, 0x00FD5B_00062D_000645_000649, 0x00FD5C_000633_00062D_00062C,
   0x00FD5D_000633_00062C_00062D, 0x00FD5E_000633_00062C_000649, 0x00FD5F_000633_000645_00062D,
   0x00FD60_000633_000645_00062D, 0x00FD61_000633_000645_00062C, 0x00FD62_000633_000645_000645,
   0x00FD63_000633_000645_000645, 0x00FD64_000635_00062D_00062D, 0x00FD65_000635_00062D_00062D,
   0x00FD66_000635_000645_000645, 0x00FD67_000634_00062D_000645, 0x00FD68_000634_00062D_000645,
   0x00FD69_000634_00062C_00064A],
  [0x00FD6A_000634_000645_00062E, 0x00FD6B_000634_000645_00062E, 0x00FD6C_000634_000645_000645,
   0x00FD6D_000634_000645_000645, 0x00FD6E_000636_00062D_000649, 0x00FD6F_000636_00062E_000645,
   0x00FD70_000636_00062E_000645, 0x00FD71_000637_000645_00062D, 0x00FD72_000637_000645_00062D,
   0x00FD73_000637_000645_000645, 0x00FD74_000637_000645_00064A, 0x00FD75_000639_00062C_000645,
   0x00FD76_000639_000645_000645, 0x00FD77_000639_000645_000645, 0x00FD78_000639_000645_000649,
   0x00FD79_00063A_000645_000645, 0x00FD7A_00063A_000645_00064A, 0x00FD7B_00063A_000645_000649,
   0x00FD7C_000641_00062E_000645, 0x00FD7D_000641_00062E_000645, 0x00FD7E_000642_000645_00062D,
   0x00FD7F_000642_000645_000645, 0x00FD80_000644_00062D_000645, 0x00FD81_000644_00062D_00064A,
   0x00FD82_000644_00062D_000649, 0x00FD83_000644_00062C_00062C, 0x00FD84_000644_00062C_00062C,
   0x00FD85_000644_00062E_000645, 0x00FD86_000644_00062E_000645, 0x00FD87_000644_000645_00062D,
   0x00FD88_000644_000645_00062D, 0x00FD89_000645_00062D_00062C, 0x00FD8A_000645_00062D_000645,
   0x00FD8B_000645_00062D_00064A, 0x00FD8C_000645_00062C_00062D, 0x00FD8D_000645_00062C_000645,
   0x00FD8E_000645_00062E_00062C, 0x00FD8F_000645_00062E_000645, 0x00FD92_000645_00062C_00062E,
   0x00FD93_000647_000645_00062C, 0x00FD94_000647_000645_000645, 0x00FD95_000646_00062D_000645,
   0x00FD96_000646_00062D_000649, 0x00FD97_000646_00062C_000645, 0x00FD98_000646_00062C_000645,
   0x00FD99_000646_00062C_000649, 0x00FD9A_000646_000645_00064A, 0x00FD9B_000646_000645_000649,
   0x00FD9C_00064A_000645_000645, 0x00FD9D_00064A_000645_000645, 0x00FD9E_000628_00062E_00064A,
   0x00FD9F_00062A_00062C_00064A, 0x00FDA0_00062A_00062C_000649, 0x00FDA1_00062A_00062E_00064A,
   0x00FDA2_00062A_00062E_000649, 0x00FDA3_00062A_000645_00064A, 0x00FDA4_00062A_000645_000649,
   0x00FDA5_00062C_000645_00064A, 0x00FDA6_00062C_00062D_000649, 0x00FDA7_00062C_000645_000649,
   0x00FDA8_000633_00062E_000649, 0x00FDA9_000635_00062D_00064A, 0x00FDAA_000634_00062D_00064A,
   0x00FDAB_000636_00062D_00064A],
  [0x00FDAC_000644_00062C_00064A, 0x00FDAD_000644_000645_00064A, 0x00FDAE_00064A_00062D_00064A,
   0x00FDAF_00064A_00062C_00064A, 0x00FDB0_00064A_000645_00064A, 0x00FDB1_000645_000645_00064A,
   0x00FDB2_000642_000645_00064A, 0x00FDB3_000646_00062D_00064A, 0x00FDB4_000642_000645_00062D,
   0x00FDB5_000644_00062D_000645, 0x00FDB6_000639_000645_00064A, 0x00FDB7_000643_000645_00064A,
   0x00FDB8_000646_00062C_00062D, 0x00FDB9_000645_00062E_00064A, 0x00FDBA_000644_00062C_000645,
   0x00FDBB_000643_000645_000645, 0x00FDBC_000644_00062C_000645, 0x00FDBD_000646_00062C_00062D,
   0x00FDBE_00062C_00062D_00064A, 0x00FDBF_00062D_00062C_00064A, 0x00FDC0_000645_00062C_00064A,
   0x00FDC1_000641_000645_00064A, 0x00FDC2_000628_00062D_00064A, 0x00FDC3_000643_000645_000645,
   0x00FDC4_000639_00062C_000645, 0x00FDC5_000635_000645_000645, 0x00FDC6_000633_00062E_00064A,
   0x00FDC7_000646_00062C_00064A, 0x00FDF0_000635_000644_0006D2, 0x00FDF1_000642_000644_0006D2,
   0x00FDF2_000627_000644_000644_000647, 0x00FDF3_000627_000643_000628_000631,
   0x00FDF4_000645_00062D_000645_00062F, 0x00FDF5_000635_000644_000639_000645,
   0x00FDF6_000631_000633_000648_000644, 0x00FDF7_000639_000644_00064A_000647,
   0x00FDF8_000648_000633_000644_000645, 0x00FDF9_000635_000644_000649,
   0x00FDFA_000635_000644_000649_000020_000627_000644_000644_000647_000020_000639_000644_00064A_000647_000020_000648_000633_000644_000645,
   0x00FDFB_00062C_000644_000020_00062C_000644_000627_000644_000647,
   0x00FDFC_000631_0006CC_000627_000644, 0x00FE70_000020_00064B, 0x00FE71_000640_00064B,
   0x00FE72_000020_00064C, 0x00FE74_000020_00064D, 0x00FE76_000020_00064E,
   0x00FE77_000640_00064E, 0x00FE78_000020_00064F, 0x00FE79_000640_00064F,
   0x00FE7A_000020_000650, 0x00FE7B_000640_000650, 0x00FE7C_000020_000651,
   0x00FE7D_000640_000651, 0x00FE7E_000020_000652, 0x00FE7F_000640_000652,
   0x00FEF5_000644_000622, 0x00FEF6_000644_000622, 0x00FEF7_000644_000623,
   0x00FEF8_000644_000623, 0x00FEF9_000644_000625, 0x00FEFA_000644_000625,
   0x00FEFB_000644_000627, 0x00FEFC_000644_000627, 0x01F100_000030_00002E],
  [0x01F101_000030_00002C, 0x01F102_000031_00002C, 0x01F103_000032_00002C,
   0x01F104_000033_00002C, 0x01F105_000034_00002C, 0x01F106_000035_00002C,
   0x01F107_000036_00002C, 0x01F108_000037_00002C, 0x01F109_000038_00002C,
   0x01F10A_000039_00002C, 0x01F110_000028_000041_000029, 0x01F111_000028_000042_000029,
   0x01F112_000028_000043_000029, 0x01F113_000028_000044_000029, 0x01F114_000028_000045_000029,
   0x01F115_000028_000046_000029, 0x01F116_000028_000047_000029, 0x01F117_000028_000048_000029,
   0x01F118_000028_000049_000029, 0x01F119_000028_00004A_000029, 0x01F11A_000028_00004B_000029,
   0x01F11B_000028_00004C_000029, 0x01F11C_000028_00004D_000029, 0x01F11D_000028_00004E_000029,
   0x01F11E_000028_00004F_000029, 0x01F11F_000028_000050_000029, 0x01F120_000028_000051_000029,
   0x01F121_000028_000052_000029, 0x01F122_000028_000053_000029, 0x01F123_000028_000054_000029,
   0x01F124_000028_000055_000029, 0x01F125_000028_000056_000029, 0x01F126_000028_000057_000029,
   0x01F127_000028_000058_000029, 0x01F128_000028_000059_000029, 0x01F129_000028_00005A_000029,
   0x01F12A_003014_000053_003015, 0x01F12D_000043_000044, 0x01F12E_000057_00005A,
   0x01F14A_000048_000056, 0x01F14B_00004D_000056, 0x01F14C_000053_000044,
   0x01F14D_000053_000053, 0x01F14E_000050_000050_000056, 0x01F14F_000057_000043,
   0x01F16A_00004D_000043, 0x01F16B_00004D_000044, 0x01F16C_00004D_000052,
   0x01F190_000044_00004A, 0x01F200_00307B_00304B, 0x01F201_0030B3_0030B3,
   0x01F240_003014_00672C_003015, 0x01F241_003014_004E09_003015, 0x01F242_003014_004E8C_003015,
   0x01F243_003014_005B89_003015, 0x01F244_003014_0070B9_003015, 0x01F245_003014_006253_003015,
   0x01F246_003014_0076D7_003015, 0x01F247_003014_0052DD_003015, 0x01F248_003014_006557_003015]]⟩

/-- Code points with a canonical decomposition that no composition gives back. -/
def noComposite : CodeSet := ⟨[
  [0x340, 0x342, 0x343, 0x345, 0x374, 0x375, 0x37E, 0x37F, 0x387, 0x388, 0x958, 0x960, 0x9DC,
   0x9DE, 0x9DF, 0x9E0, 0xA33, 0xA34, 0xA36, 0xA37, 0xA59, 0xA5C, 0xA5E, 0xA5F, 0xB5C, 0xB5E,
   0xF43, 0xF44, 0xF4D, 0xF4E, 0xF52, 0xF53, 0xF57, 0xF58, 0xF5C, 0xF5D, 0xF69, 0xF6A, 0xF73,
   0xF74, 0xF75, 0xF77, 0xF78, 0xF79, 0xF81, 0xF82, 0xF93, 0xF94, 0xF9D, 0xF9E, 0xFA2, 0xFA3,
   0xFA7, 0xFA8, 0xFAC, 0xFAD, 0xFB9, 0xFBA, 0x1F71, 0x1F72, 0x1F73, 0x1F74, 0x1F75, 0x1F76],
  [0x1F77, 0x1F78, 0x1F79, 0x1F7A, 0x1F7B, 0x1F7C, 0x1F7D, 0x1F7E, 0x1FBB, 0x1FBC, 0x1FBE,
   0x1FBF, 0x1FC9, 0x1FCA, 0x1FCB, 0x1FCC, 0x1FD3, 0x1FD4, 0x1FDB, 0x1FDC, 0x1FE3, 0x1FE4,
   0x1FEB, 0x1FEC, 0x1FEE, 0x1FF0, 0x1FF9, 0x1FFA, 0x1FFB, 0x1FFC, 0x1FFD, 0x1FFE, 0x2000,
   0x2002, 0x2126, 0x2127, 0x212A, 0x212C, 0x2329, 0x232B, 0x2ADC, 0x2ADD, 0xF900, 0xFA0E,
   0xFA10, 0xFA11, 0xFA12, 0xFA13, 0xFA15, 0xFA1F, 0xFA20, 0xFA21, 0xFA22, 0xFA23, 0xFA25,
   0xFA27, 0xFA2A, 0xFA6E, 0xFA70, 0xFADA, 0xFB1D, 0xFB1E, 0xFB1F, 0xFB20],
  [0xFB2A, 0xFB37, 0xFB38, 0xFB3D, 0xFB3E, 0xFB3F, 0xFB40, 0xFB42, 0xFB43, 0xFB45, 0xFB46,
   0xFB4F, 0x1D15E, 0x1D165, 0x1D1BB, 0x1D1C1, 0x2F800, 0x2FA1E]]⟩

/-- The combining classes other than zero: first code point, last one, class. -/
def classRuns : List (List Nat) := [
  [0x000300_000314_0000E6, 0x000315_000315_0000E8, 0x000316_000319_0000DC,
   0x00031A_00031A_0000E8, 0x00031B_00031B_0000D8, 0x00031C_000320_0000DC,
   0x000321_000322_0000CA, 0x000323_000326_0000DC, 0x000327_000328_0000CA,
   0x000329_000333_0000DC, 0x000334_000338_000001, 0x000339_00033C_0000DC,
   0x00033D_000344_0000E6, 0x000345_000345_0000F0, 0x000346_000346_0000E6,
   0x000347_000349_0000DC, 0x00034A_00034C_0000E6, 0x00034D_00034E_0000DC,
   0x000350_000352_0000E6, 0x000353_000356_0000DC, 0x000357_000357_0000E6,
   0x000358_000358_0000E8, 0x000359_00035A_0000DC, 0x00035B_00035B_0000E6,
   0x00035C_00035C_0000E9, 0x00035D_00035E_0000EA, 0x00035F_00035F_0000E9,
   0x000360_000361_0000EA, 0x000362_000362_0000E9, 0x000363_00036F_0000E6,
   0x000483_000487_0000E6, 0x000591_000591_0000DC],
  [0x000592_000595_0000E6, 0x000596_000596_0000DC, 0x000597_000599_0000E6,
   0x00059A_00059A_0000DE, 0x00059B_00059B_0000DC, 0x00059C_0005A1_0000E6,
   0x0005A2_0005A7_0000DC, 0x0005A8_0005A9_0000E6, 0x0005AA_0005AA_0000DC,
   0x0005AB_0005AC_0000E6, 0x0005AD_0005AD_0000DE, 0x0005AE_0005AE_0000E4,
   0x0005AF_0005AF_0000E6, 0x0005B0_0005B0_00000A, 0x0005B1_0005B1_00000B,
   0x0005B2_0005B2_00000C, 0x0005B3_0005B3_00000D, 0x0005B4_0005B4_00000E,
   0x0005B5_0005B5_00000F, 0x0005B6_0005B6_000010, 0x0005B7_0005B7_000011,
   0x0005B8_0005B8_000012, 0x0005B9_0005BA_000013, 0x0005BB_0005BB_000014,
   0x0005BC_0005BC_000015, 0x0005BD_0005BD_000016, 0x0005BF_0005BF_000017,
   0x0005C1_0005C1_000018, 0x0005C2_0005C2_000019, 0x0005C4_0005C4_0000E6,
   0x0005C5_0005C5_0000DC, 0x0005C7_0005C7_000012],
  [0x000610_000617_0000E6, 0x000618_000618_00001E, 0x000619_000619_00001F,
   0x00061A_00061A_000020, 0x00064B_00064B_00001B, 0x00064C_00064C_00001C,
   0x00064D_00064D_00001D, 0x00064E_00064E_00001E, 0x00064F_00064F_00001F,
   0x000650_000650_000020, 0x000651_000651_000021, 0x000652_000652_000022,
   0x000653_000654_0000E6, 0x000655_000656_0000DC, 0x000657_00065B_0000E6,
   0x00065C_00065C_0000DC, 0x00065D_00065E_0000E6, 0x00065F_00065F_0000DC,
   0x000670_000670_000023, 0x0006D6_0006DC_0000E6, 0x0006DF_0006E2_0000E6,
   0x0006E3_0006E3_0000DC, 0x0006E4_0006E4_0000E6, 0x0006E7_0006E8_0000E6,
   0x0006EA_0006EA_0000DC, 0x0006EB_0006EC_0000E6, 0x0006ED_0006ED_0000DC,
   0x000711_000711_000024, 0x000730_000730_0000E6, 0x000731_000731_0000DC,
   0x000732_000733_0000E6, 0x000734_000734_0000DC],
  [0x000735_000736_0000E6, 0x000737_000739_0000DC, 0x00073A_00073A_0000E6,
   0x00073B_00073C_0000DC, 0x00073D_00073D_0000E6, 0x00073E_00073E_0000DC,
   0x00073F_000741_0000E6, 0x000742_000742_0000DC, 0x000743_000743_0000E6,
   0x000744_000744_0000DC, 0x000745_000745_0000E6, 0x000746_000746_0000DC,
   0x000747_000747_0000E6, 0x000748_000748_0000DC, 0x000749_00074A_0000E6,
   0x0007EB_0007F1_0000E6, 0x0007F2_0007F2_0000DC, 0x0007F3_0007F3_0000E6,
   0x0007FD_0007FD_0000DC, 0x000816_000819_0000E6, 0x00081B_000823_0000E6,
   0x000825_000827_0000E6, 0x000829_00082D_0000E6, 0x000859_00085B_0000DC,
   0x000897_000898_0000E6, 0x000899_00089B_0000DC, 0x00089C_00089F_0000E6,
   0x0008CA_0008CE_0000E6, 0x0008CF_0008D3_0000DC, 0x0008D4_0008E1_0000E6,
   0x0008E3_0008E3_0000DC, 0x0008E4_0008E5_0000E6],
  [0x0008E6_0008E6_0000DC, 0x0008E7_0008E8_0000E6, 0x0008E9_0008E9_0000DC,
   0x0008EA_0008EC_0000E6, 0x0008ED_0008EF_0000DC, 0x0008F0_0008F0_00001B,
   0x0008F1_0008F1_00001C, 0x0008F2_0008F2_00001D, 0x0008F3_0008F5_0000E6,
   0x0008F6_0008F6_0000DC, 0x0008F7_0008F8_0000E6, 0x0008F9_0008FA_0000DC,
   0x0008FB_0008FF_0000E6, 0x00093C_00093C_000007, 0x00094D_00094D_000009,
   0x000951_000951_0000E6, 0x000952_000952_0000DC, 0x000953_000954_0000E6,
   0x0009BC_0009BC_000007, 0x0009CD_0009CD_000009, 0x0009FE_0009FE_0000E6,
   0x000A3C_000A3C_000007, 0x000A4D_000A4D_000009, 0x000ABC_000ABC_000007,
   0x000ACD_000ACD_000009, 0x000B3C_000B3C_000007, 0x000B4D_000B4D_000009,
   0x000BCD_000BCD_000009, 0x000C3C_000C3C_000007, 0x000C4D_000C4D_000009,
   0x000C55_000C55_000054, 0x000C56_000C56_00005B],
  [0x000CBC_000CBC_000007, 0x000CCD_000CCD_000009, 0x000D3B_000D3C_000009,
   0x000D4D_000D4D_000009, 0x000DCA_000DCA_000009, 0x000E38_000E39_000067,
   0x000E3A_000E3A_000009, 0x000E48_000E4B_00006B, 0x000EB8_000EB9_000076,
   0x000EBA_000EBA_000009, 0x000EC8_000ECB_00007A, 0x000F18_000F19_0000DC,
   0x000F35_000F35_0000DC, 0x000F37_000F37_0000DC, 0x000F39_000F39_0000D8,
   0x000F71_000F71_000081, 0x000F72_000F72_000082, 0x000F74_000F74_000084,
   0x000F7A_000F7D_000082, 0x000F80_000F80_000082, 0x000F82_000F83_0000E6,
   0x000F84_000F84_000009, 0x000F86_000F87_0000E6, 0x000FC6_000FC6_0000DC,
   0x001037_001037_000007, 0x001039_00103A_000009, 0x00108D_00108D_0000DC,
   0x00135D_00135F_0000E6, 0x001714_001715_000009, 0x001734_001734_000009,
   0x0017D2_0017D2_000009, 0x0017DD_0017DD_0000E6],
  [0x0018A9_0018A9_0000E4, 0x001939_001939_0000DE, 0x00193A_00193A_0000E6,
   0x00193B_00193B_0000DC, 0x001A17_001A17_0000E6, 0x001A18_001A18_0000DC,
   0x001A60_001A60_000009, 0x001A75_001A7C_0000E6, 0x001A7F_001A7F_0000DC,
   0x001AB0_001AB4_0000E6, 0x001AB5_001ABA_0000DC, 0x001ABB_001ABC_0000E6,
   0x001ABD_001ABD_0000DC, 0x001ABF_001AC0_0000DC, 0x001AC1_001AC2_0000E6,
   0x001AC3_001AC4_0000DC, 0x001AC5_001AC9_0000E6, 0x001ACA_001ACA_0000DC,
   0x001ACB_001ADC_0000E6, 0x001ADD_001ADD_0000DC, 0x001AE0_001AE5_0000E6,
   0x001AE6_001AE6_0000DC, 0x001AE7_001AEA_0000E6, 0x001AEB_001AEB_0000EA,
   0x001B34_001B34_000007, 0x001B44_001B44_000009, 0x001B6B_001B6B_0000E6,
   0x001B6C_001B6C_0000DC, 0x001B6D_001B73_0000E6, 0x001BAA_001BAB_000009,
   0x001BE6_001BE6_000007, 0x001BF2_001BF3_000009],
  [0x001C37_001C37_000007, 0x001CD0_001CD2_0000E6, 0x001CD4_001CD4_000001,
   0x001CD5_001CD9_0000DC, 0x001CDA_001CDB_0000E6, 0x001CDC_001CDF_0000DC,
   0x001CE0_001CE0_0000E6, 0x001CE2_001CE8_000001, 0x001CED_001CED_0000DC,
   0x001CF4_001CF4_0000E6, 0x001CF8_001CF9_0000E6, 0x001DC0_001DC1_0000E6,
   0x001DC2_001DC2_0000DC, 0x001DC3_001DC9_0000E6, 0x001DCA_001DCA_0000DC,
   0x001DCB_001DCC_0000E6, 0x001DCD_001DCD_0000EA, 0x001DCE_001DCE_0000D6,
   0x001DCF_001DCF_0000DC, 0x001DD0_001DD0_0000CA, 0x001DD1_001DF5_0000E6,
   0x001DF6_001DF6_0000E8, 0x001DF7_001DF8_0000E4, 0x001DF9_001DF9_0000DC,
   0x001DFA_001DFA_0000DA, 0x001DFB_001DFB_0000E6, 0x001DFC_001DFC_0000E9,
   0x001DFD_001DFD_0000DC, 0x001DFE_001DFE_0000E6, 0x001DFF_001DFF_0000DC,
   0x0020D0_0020D1_0000E6, 0x0020D2_0020D3_000001],
  [0x0020D4_0020D7_0000E6, 0x0020D8_0020DA_000001, 0x0020DB_0020DC_0000E6,
   0x0020E1_0020E1_0000E6, 0x0020E5_0020E6_000001, 0x0020E7_0020E7_0000E6,
   0x0020E8_0020E8_0000DC, 0x0020E9_0020E9_0000E6, 0x0020EA_0020EB_000001,
   0x0020EC_0020EF_0000DC, 0x0020F0_0020F0_0000E6, 0x002CEF_002CF1_0000E6,
   0x002D7F_002D7F_000009, 0x002DE0_002DFF_0000E6, 0x00302A_00302A_0000DA,
   0x00302B_00302B_0000E4, 0x00302C_00302C_0000E8, 0x00302D_00302D_0000DE,
   0x00302E_00302F_0000E0, 0x003099_00309A_000008, 0x00A66F_00A66F_0000E6,
   0x00A674_00A67D_0000E6, 0x00A69E_00A69F_0000E6, 0x00A6F0_00A6F1_0000E6,
   0x00A806_00A806_000009, 0x00A82C_00A82C_000009, 0x00A8C4_00A8C4_000009,
   0x00A8E0_00A8F1_0000E6, 0x00A92B_00A92D_0000DC, 0x00A953_00A953_000009,
   0x00A9B3_00A9B3_000007, 0x00A9C0_00A9C0_000009],
  [0x00AAB0_00AAB0_0000E6, 0x00AAB2_00AAB3_0000E6, 0x00AAB4_00AAB4_0000DC,
   0x00AAB7_00AAB8_0000E6, 0x00AABE_00AABF_0000E6, 0x00AAC1_00AAC1_0000E6,
   0x00AAF6_00AAF6_000009, 0x00ABED_00ABED_000009, 0x00FB1E_00FB1E_00001A,
   0x00FE20_00FE26_0000E6, 0x00FE27_00FE2D_0000DC, 0x00FE2E_00FE2F_0000E6,
   0x0101FD_0101FD_0000DC, 0x0102E0_0102E0_0000DC, 0x010376_01037A_0000E6,
   0x010A0D_010A0D_0000DC, 0x010A0F_010A0F_0000E6, 0x010A38_010A38_0000E6,
   0x010A39_010A39_000001, 0x010A3A_010A3A_0000DC, 0x010A3F_010A3F_000009,
   0x010AE5_010AE5_0000E6, 0x010AE6_010AE6_0000DC, 0x010D24_010D27_0000E6,
   0x010D69_010D6D_0000E6, 0x010EAB_010EAC_0000E6, 0x010EFA_010EFB_0000DC,
   0x010EFD_010EFF_0000DC, 0x010F46_010F47_0000DC, 0x010F48_010F4A_0000E6,
   0x010F4B_010F4B_0000DC, 0x010F4C_010F4C_0000E6],
  [0x010F4D_010F50_0000DC, 0x010F82_010F82_0000E6, 0x010F83_010F83_0000DC,
   0x010F84_010F84_0000E6, 0x010F85_010F85_0000DC, 0x011046_011046_000009,
   0x011070_011070_000009, 0x01107F_01107F_000009, 0x0110B9_0110B9_000009,
   0x0110BA_0110BA_000007, 0x011100_011102_0000E6, 0x011133_011134_000009,
   0x011173_011173_000007, 0x0111C0_0111C0_000009, 0x0111CA_0111CA_000007,
   0x011235_011235_000009, 0x011236_011236_000007, 0x0112E9_0112E9_000007,
   0x0112EA_0112EA_000009, 0x01133B_01133C_000007, 0x01134D_01134D_000009,
   0x011366_01136C_0000E6, 0x011370_011374_0000E6, 0x0113CE_0113D0_000009,
   0x011442_011442_000009, 0x011446_011446_000007, 0x01145E_01145E_0000E6,
   0x0114C2_0114C2_000009, 0x0114C3_0114C3_000007, 0x0115BF_0115BF_000009,
   0x0115C0_0115C0_000007, 0x01163F_01163F_000009],
  [0x0116B6_0116B6_000009, 0x0116B7_0116B7_000007, 0x01172B_01172B_000009,
   0x011839_011839_000009, 0x01183A_01183A_000007, 0x01193D_01193E_000009,
   0x011943_011943_000007, 0x0119E0_0119E0_000009, 0x011A34_011A34_000009,
   0x011A47_011A47_000009, 0x011A99_011A99_000009, 0x011C3F_011C3F_000009,
   0x011D42_011D42_000007, 0x011D44_011D45_000009, 0x011D97_011D97_000009,
   0x011F41_011F42_000009, 0x01612F_01612F_000009, 0x016AF0_016AF4_000001,
   0x016B30_016B36_0000E6, 0x016FF0_016FF1_000006, 0x01BC9E_01BC9E_000001,
   0x01D165_01D166_0000D8, 0x01D167_01D169_000001, 0x01D16D_01D16D_0000E2,
   0x01D16E_01D172_0000D8, 0x01D17B_01D182_0000DC, 0x01D185_01D189_0000E6,
   0x01D18A_01D18B_0000DC, 0x01D1AA_01D1AD_0000E6, 0x01D242_01D244_0000E6,
   0x01E000_01E006_0000E6, 0x01E008_01E018_0000E6],
  [0x01E01B_01E021_0000E6, 0x01E023_01E024_0000E6, 0x01E026_01E02A_0000E6,
   0x01E08F_01E08F_0000E6, 0x01E130_01E136_0000E6, 0x01E2AE_01E2AE_0000E6,
   0x01E2EC_01E2EF_0000E6, 0x01E4EC_01E4ED_0000E8, 0x01E4EE_01E4EE_0000DC,
   0x01E4EF_01E4EF_0000E6, 0x01E5EE_01E5EE_0000E6, 0x01E5EF_01E5EF_0000DC,
   0x01E6E3_01E6E3_0000E6, 0x01E6E6_01E6E6_0000E6, 0x01E6EE_01E6EF_0000E6,
   0x01E6F5_01E6F5_0000E6, 0x01E8D0_01E8D6_0000DC, 0x01E944_01E949_0000E6, 0x01E94A_01E94A_000007]]

end Typeahead.Text
