/-!
# Names of characters: scripts from U+13000 to U+1CFFF

Each line has the code point of the first name. The names of the characters behind it follow, and the digit in front
of a name is the number of words that it has in common with the name before, also over the end of a line.
-/

namespace ClusterMatrix.Text

def hieroglyphsNames : List (Nat × String) :=
  [(0x13000, "0EGYPTIAN HIEROGLYPH A001;2A002;2A003;2A004;2A005;2A005A;2A006;2A006A;2A006B;2A007"),
    (0x1300A, "2A008;2A009;2A010;2A011;2A012;2A013;2A014;2A014A;2A015;2A016;2A017;2A017A;2A018"),
    (0x13017, "2A019;2A020;2A021;2A022;2A023;2A024;2A025;2A026;2A027;2A028;2A029;2A030;2A031"),
    (0x13024, "2A032;2A032A;2A033;2A034;2A035;2A036;2A037;2A038;2A039;2A040;2A040A;2A041;2A042"),
    (0x13031, "2A042A;2A043;2A043A;2A044;2A045;2A045A;2A046;2A047;2A048;2A049;2A050;2A051;2A052"),
    (0x1303E, "2A053;2A054;2A055;2A056;2A057;2A058;2A059;2A060;2A061;2A062;2A063;2A064;2A065"),
    (0x1304B, "2A066;2A067;2A068;2A069;2A070;2B001;2B002;2B003;2B004;2B005;2B005A;2B006;2B007"),
    (0x13058, "2B008;2B009;2C001;2C002;2C002A;2C002B;2C002C;2C003;2C004;2C005;2C006;2C007;2C008"),
    (0x13065, "2C009;2C010;2C010A;2C011;2C012;2C013;2C014;2C015;2C016;2C017;2C018;2C019;2C020"),
    (0x13072, "2C021;2C022;2C023;2C024;2D001;2D002;2D003;2D004;2D005;2D006;2D007;2D008;2D008A"),
    (0x1307F, "2D009;2D010;2D011;2D012;2D013;2D014;2D015;2D016;2D017;2D018;2D019;2D020;2D021"),
    (0x1308C, "2D022;2D023;2D024;2D025;2D026;2D027;2D027A;2D028;2D029;2D030;2D031;2D031A;2D032"),
    (0x13099, "2D033;2D034;2D034A;2D035;2D036;2D037;2D038;2D039;2D040;2D041;2D042;2D043;2D044"),
    (0x130A6, "2D045;2D046;2D046A;2D047;2D048;2D048A;2D049;2D050;2D050A;2D050B;2D050C;2D050D"),
    (0x130B2, "2D050E;2D050F;2D050G;2D050H;2D050I;2D051;2D052;2D052A;2D053;2D054;2D054A;2D055"),
    (0x130BE, "2D056;2D057;2D058;2D059;2D060;2D061;2D062;2D063;2D064;2D065;2D066;2D067;2D067A"),
    (0x130CB, "2D067B;2D067C;2D067D;2D067E;2D067F;2D067G;2D067H;2E001;2E002;2E003;2E004;2E005"),
    (0x130D7, "2E006;2E007;2E008;2E008A;2E009;2E009A;2E010;2E011;2E012;2E013;2E014;2E015;2E016"),
    (0x130E4, "2E016A;2E017;2E017A;2E018;2E019;2E020;2E020A;2E021;2E022;2E023;2E024;2E025;2E026"),
    (0x130F1, "2E027;2E028;2E028A;2E029;2E030;2E031;2E032;2E033;2E034;2E034A;2E036;2E037;2E038"),
    (0x130FE, "2F001;2F001A;2F002;2F003;2F004;2F005;2F006;2F007;2F008;2F009;2F010;2F011;2F012"),
    (0x1310B, "2F013;2F013A;2F014;2F015;2F016;2F017;2F018;2F019;2F020;2F021;2F021A;2F022;2F023"),
    (0x13118, "2F024;2F025;2F026;2F027;2F028;2F029;2F030;2F031;2F031A;2F032;2F033;2F034;2F035"),
    (0x13125, "2F036;2F037;2F037A;2F038;2F038A;2F039;2F040;2F041;2F042;2F043;2F044;2F045;2F045A"),
    (0x13132, "2F046;2F046A;2F047;2F047A;2F048;2F049;2F050;2F051;2F051A;2F051B;2F051C;2F052;2F053"),
    (0x1313F, "2G001;2G002;2G003;2G004;2G005;2G006;2G006A;2G007;2G007A;2G007B;2G008;2G009;2G010"),
    (0x1314C, "2G011;2G011A;2G012;2G013;2G014;2G015;2G016;2G017;2G018;2G019;2G020;2G020A;2G021"),
    (0x13159, "2G022;2G023;2G024;2G025;2G026;2G026A;2G027;2G028;2G029;2G030;2G031;2G032;2G033"),
    (0x13166, "2G034;2G035;2G036;2G036A;2G037;2G037A;2G038;2G039;2G040;2G041;2G042;2G043;2G043A"),
    (0x13173, "2G044;2G045;2G045A;2G046;2G047;2G048;2G049;2G050;2G051;2G052;2G053;2G054;2H001"),
    (0x13180, "2H002;2H003;2H004;2H005;2H006;2H006A;2H007;2H008;2I001;2I002;2I003;2I004;2I005"),
    (0x1318D, "2I005A;2I006;2I007;2I008;2I009;2I009A;2I010;2I010A;2I011;2I011A;2I012;2I013;2I014"),
    (0x1319A, "2I015;2K001;2K002;2K003;2K004;2K005;2K006;2K007;2K008;2L001;2L002;2L002A;2L003"),
    (0x131A7, "2L004;2L005;2L006;2L006A;2L007;2L008;2M001;2M001A;2M001B;2M002;2M003;2M003A;2M004"),
    (0x131B4, "2M005;2M006;2M007;2M008;2M009;2M010;2M010A;2M011;2M012;2M012A;2M012B;2M012C;2M012D"),
    (0x131C1, "2M012E;2M012F;2M012G;2M012H;2M013;2M014;2M015;2M015A;2M016;2M016A;2M017;2M017A"),
    (0x131CD, "2M018;2M019;2M020;2M021;2M022;2M022A;2M023;2M024;2M024A;2M025;2M026;2M027;2M028"),
    (0x131DA, "2M028A;2M029;2M030;2M031;2M031A;2M032;2M033;2M033A;2M033B;2M034;2M035;2M036;2M037"),
    (0x131E7, "2M038;2M039;2M040;2M040A;2M041;2M042;2M043;2M044;2N001;2N002;2N003;2N004;2N005"),
    (0x131F4, "2N006;2N007;2N008;2N009;2N010;2N011;2N012;2N013;2N014;2N015;2N016;2N017;2N018"),
    (0x13201, "2N018A;2N018B;2N019;2N020;2N021;2N022;2N023;2N024;2N025;2N025A;2N026;2N027;2N028"),
    (0x1320E, "2N029;2N030;2N031;2N032;2N033;2N033A;2N034;2N034A;2N035;2N035A;2N036;2N037;2N037A"),
    (0x1321B, "2N038;2N039;2N040;2N041;2N042;2NL001;2NL002;2NL003;2NL004;2NL005;2NL005A;2NL006"),
    (0x13227, "2NL007;2NL008;2NL009;2NL010;2NL011;2NL012;2NL013;2NL014;2NL015;2NL016;2NL017"),
    (0x13232, "2NL017A;2NL018;2NL019;2NL020;2NU001;2NU002;2NU003;2NU004;2NU005;2NU006;2NU007"),
    (0x1323D, "2NU008;2NU009;2NU010;2NU010A;2NU011;2NU011A;2NU012;2NU013;2NU014;2NU015;2NU016"),
    (0x13248, "2NU017;2NU018;2NU018A;2NU019;2NU020;2NU021;2NU022;2NU022A;2O001;2O001A;2O002;2O003"),
    (0x13254, "2O004;2O005;2O005A;2O006;2O006A;2O006B;2O006C;2O006D;2O006E;2O006F;2O007;2O008"),
    (0x13260, "2O009;2O010;2O010A;2O010B;2O010C;2O011;2O012;2O013;2O014;2O015;2O016;2O017;2O018"),
    (0x1326D, "2O019;2O019A;2O020;2O020A;2O021;2O022;2O023;2O024;2O024A;2O025;2O025A;2O026;2O027"),
    (0x1327A, "2O028;2O029;2O029A;2O030;2O030A;2O031;2O032;2O033;2O033A;2O034;2O035;2O036;2O036A"),
    (0x13287, "2O036B;2O036C;2O036D;2O037;2O038;2O039;2O040;2O041;2O042;2O043;2O044;2O045;2O046"),
    (0x13294, "2O047;2O048;2O049;2O050;2O050A;2O050B;2O051;2P001;2P001A;2P002;2P003;2P003A;2P004"),
    (0x132A1, "2P005;2P006;2P007;2P008;2P009;2P010;2P011;2Q001;2Q002;2Q003;2Q004;2Q005;2Q006"),
    (0x132AE, "2Q007;2R001;2R002;2R002A;2R003;2R003A;2R003B;2R004;2R005;2R006;2R007;2R008;2R009"),
    (0x132BB, "2R010;2R010A;2R011;2R012;2R013;2R014;2R015;2R016;2R016A;2R017;2R018;2R019;2R020"),
    (0x132C8, "2R021;2R022;2R023;2R024;2R025;2R026;2R027;2R028;2R029;2S001;2S002;2S002A;2S003"),
    (0x132D5, "2S004;2S005;2S006;2S006A;2S007;2S008;2S009;2S010;2S011;2S012;2S013;2S014;2S014A"),
    (0x132E2, "2S014B;2S015;2S016;2S017;2S017A;2S018;2S019;2S020;2S021;2S022;2S023;2S024;2S025"),
    (0x132EF, "2S026;2S026A;2S026B;2S027;2S028;2S029;2S030;2S031;2S032;2S033;2S034;2S035;2S035A"),
    (0x132FC, "2S036;2S037;2S038;2S039;2S040;2S041;2S042;2S043;2S044;2S045;2S046;2T001;2T002"),
    (0x13309, "2T003;2T003A;2T004;2T005;2T006;2T007;2T007A;2T008;2T008A;2T009;2T009A;2T010;2T011"),
    (0x13316, "2T011A;2T012;2T013;2T014;2T015;2T016;2T016A;2T017;2T018;2T019;2T020;2T021;2T022"),
    (0x13323, "2T023;2T024;2T025;2T026;2T027;2T028;2T029;2T030;2T031;2T032;2T032A;2T033;2T033A"),
    (0x13330, "2T034;2T035;2T036;2U001;2U002;2U003;2U004;2U005;2U006;2U006A;2U006B;2U007;2U008"),
    (0x1333D, "2U009;2U010;2U011;2U012;2U013;2U014;2U015;2U016;2U017;2U018;2U019;2U020;2U021"),
    (0x1334A, "2U022;2U023;2U023A;2U024;2U025;2U026;2U027;2U028;2U029;2U029A;2U030;2U031;2U032"),
    (0x13357, "2U032A;2U033;2U034;2U035;2U036;2U037;2U038;2U039;2U040;2U041;2U042;2V001;2V001A"),
    (0x13364, "2V001B;2V001C;2V001D;2V001E;2V001F;2V001G;2V001H;2V001I;2V002;2V002A;2V003;2V004"),
    (0x13370, "2V005;2V006;2V007;2V007A;2V007B;2V008;2V009;2V010;2V011;2V011A;2V011B;2V011C;2V012"),
    (0x1337D, "2V012A;2V012B;2V013;2V014;2V015;2V016;2V017;2V018;2V019;2V020;2V020A;2V020B;2V020C"),
    (0x1338A, "2V020D;2V020E;2V020F;2V020G;2V020H;2V020I;2V020J;2V020K;2V020L;2V021;2V022;2V023"),
    (0x13396, "2V023A;2V024;2V025;2V026;2V027;2V028;2V028A;2V029;2V029A;2V030;2V030A;2V031;2V031A"),
    (0x133A3, "2V032;2V033;2V033A;2V034;2V035;2V036;2V037;2V037A;2V038;2V039;2V040;2V040A;2W001"),
    (0x133B0, "2W002;2W003;2W003A;2W004;2W005;2W006;2W007;2W008;2W009;2W009A;2W010;2W010A;2W011"),
    (0x133BD, "2W012;2W013;2W014;2W014A;2W015;2W016;2W017;2W017A;2W018;2W018A;2W019;2W020;2W021"),
    (0x133CA, "2W022;2W023;2W024;2W024A;2W025;2X001;2X002;2X003;2X004;2X004A;2X004B;2X005;2X006"),
    (0x133D7, "2X006A;2X007;2X008;2X008A;2Y001;2Y001A;2Y002;2Y003;2Y004;2Y005;2Y006;2Y007;2Y008"),
    (0x133E4, "2Z001;2Z002;2Z002A;2Z002B;2Z002C;2Z002D;2Z003;2Z003A;2Z003B;2Z004;2Z004A;2Z005"),
    (0x133F0, "2Z005A;2Z006;2Z007;2Z008;2Z009;2Z010;2Z011;2Z012;2Z013;2Z014;2Z015;2Z015A;2Z015B"),
    (0x133FD, "2Z015C;2Z015D;2Z015E;2Z015F;2Z015G;2Z015H;2Z015I;2Z016;2Z016A;2Z016B;2Z016C;2Z016D"),
    (0x13409, "2Z016E;2Z016F;2Z016G;2Z016H;2AA001;2AA002;2AA003;2AA004;2AA005;2AA006;2AA007"),
    (0x13414, "2AA007A;2AA007B;2AA008;2AA009;2AA010;2AA011;2AA012;2AA013;2AA014;2AA015;2AA016"),
    (0x1341F, "2AA017;2AA018;2AA019;2AA020;2AA021;2AA022;2AA023;2AA024;2AA025;2AA026;2AA027"),
    (0x1342A, "2AA028;2AA029;2AA030;2AA031;2AA032"),
    (0x13430, "2VERTICAL JOINER;2HORIZONTAL JOINER;2INSERT AT TOP START;4BOTTOM START;4TOP END"),
    (0x13435, "4BOTTOM END;2OVERLAY MIDDLE;2BEGIN SEGMENT;2END SEGMENT"),
    (0x14400, "0ANATOLIAN HIEROGLYPH A001;2A002;2A003;2A004;2A005;2A006;2A007;2A008;2A009;2A010"),
    (0x1440A, "2A010A;2A011;2A012;2A013;2A014;2A015;2A016;2A017;2A018;2A019;2A020;2A021;2A022"),
    (0x14417, "2A023;2A024;2A025;2A026;2A026A;2A027;2A028;2A029;2A030;2A031;2A032;2A033;2A034"),
    (0x14424, "2A035;2A036;2A037;2A038;2A039;2A039A;2A040;2A041;2A041A;2A042;2A043;2A044;2A045"),
    (0x14431, "2A045A;2A046;2A046A;2A046B;2A047;2A048;2A049;2A050;2A051;2A052;2A053;2A054;2A055"),
    (0x1443E, "2A056;2A057;2A058;2A059;2A060;2A061;2A062;2A063;2A064;2A065;2A066;2A066A;2A066B"),
    (0x1444B, "2A066C;2A067;2A068;2A069;2A070;2A071;2A072;2A073;2A074;2A075;2A076;2A077;2A078"),
    (0x14458, "2A079;2A080;2A081;2A082;2A083;2A084;2A085;2A086;2A087;2A088;2A089;2A090;2A091"),
    (0x14465, "2A092;2A093;2A094;2A095;2A096;2A097;2A097A;2A098;2A098A;2A099;2A100;2A100A;2A101"),
    (0x14472, "2A101A;2A102;2A102A;2A103;2A104;2A104A;2A104B;2A104C;2A105;2A105A;2A105B;2A106"),
    (0x1447E, "2A107;2A107A;2A107B;2A107C;2A108;2A109;2A110;2A110A;2A110B;2A111;2A112;2A113;2A114"),
    (0x1448B, "2A115;2A115A;2A116;2A117;2A118;2A119;2A120;2A121;2A122;2A123;2A124;2A125;2A125A"),
    (0x14498, "2A126;2A127;2A128;2A129;2A130;2A131;2A132;2A133;2A134;2A135;2A135A;2A136;2A137"),
    (0x144A5, "2A138;2A139;2A140;2A141;2A142;2A143;2A144;2A145;2A146;2A147;2A148;2A149;2A150"),
    (0x144B2, "2A151;2A152;2A153;2A154;2A155;2A156;2A157;2A158;2A159;2A160;2A161;2A162;2A163"),
    (0x144BF, "2A164;2A165;2A166;2A167;2A168;2A169;2A170;2A171;2A172;2A173;2A174;2A175;2A176"),
    (0x144CC, "2A177;2A178;2A179;2A180;2A181;2A182;2A183;2A184;2A185;2A186;2A187;2A188;2A189"),
    (0x144D9, "2A190;2A191;2A192;2A193;2A194;2A195;2A196;2A197;2A198;2A199;2A200;2A201;2A202"),
    (0x144E6, "2A202A;2A202B;2A203;2A204;2A205;2A206;2A207;2A207A;2A208;2A209;2A209A;2A210;2A211"),
    (0x144F3, "2A212;2A213;2A214;2A215;2A215A;2A216;2A216A;2A217;2A218;2A219;2A220;2A221;2A222"),
    (0x14500, "2A223;2A224;2A225;2A226;2A227;2A227A;2A228;2A229;2A230;2A231;2A232;2A233;2A234"),
    (0x1450D, "2A235;2A236;2A237;2A238;2A239;2A240;2A241;2A242;2A243;2A244;2A245;2A246;2A247"),
    (0x1451A, "2A248;2A249;2A250;2A251;2A252;2A253;2A254;2A255;2A256;2A257;2A258;2A259;2A260"),
    (0x14527, "2A261;2A262;2A263;2A264;2A265;2A266;2A267;2A267A;2A268;2A269;2A270;2A271;2A272"),
    (0x14534, "2A273;2A274;2A275;2A276;2A277;2A278;2A279;2A280;2A281;2A282;2A283;2A284;2A285"),
    (0x14541, "2A286;2A287;2A288;2A289;2A289A;2A290;2A291;2A292;2A293;2A294;2A294A;2A295;2A296"),
    (0x1454E, "2A297;2A298;2A299;2A299A;2A300;2A301;2A302;2A303;2A304;2A305;2A306;2A307;2A308"),
    (0x1455B, "2A309;2A309A;2A310;2A311;2A312;2A313;2A314;2A315;2A316;2A317;2A318;2A319;2A320"),
    (0x14568, "2A321;2A322;2A323;2A324;2A325;2A326;2A327;2A328;2A329;2A329A;2A330;2A331;2A332A"),
    (0x14575, "2A332B;2A332C;2A333;2A334;2A335;2A336;2A336A;2A336B;2A336C;2A337;2A338;2A339;2A340"),
    (0x14582, "2A341;2A342;2A343;2A344;2A345;2A346;2A347;2A348;2A349;2A350;2A351;2A352;2A353"),
    (0x1458F, "2A354;2A355;2A356;2A357;2A358;2A359;2A359A;2A360;2A361;2A362;2A363;2A364;2A364A"),
    (0x1459C, "2A365;2A366;2A367;2A368;2A368A;2A369;2A370;2A371;2A371A;2A372;2A373;2A374;2A375"),
    (0x145A9, "2A376;2A377;2A378;2A379;2A380;2A381;2A381A;2A382;2A383 RA OR RI;2A383A;2A384;2A385"),
    (0x145B5, "2A386;2A386A;2A387;2A388;2A389;2A390;2A391;2A392;2A393 EIGHT;2A394;2A395;2A396"),
    (0x145C1, "2A397;2A398;2A399;2A400;2A401;2A402;2A403;2A404;2A405;2A406;2A407;2A408;2A409"),
    (0x145CE, "2A410 BEGIN LOGOGRAM MARK;2A410A END LOGOGRAM MARK;2A411;2A412;2A413;2A414;2A415"),
    (0x145D5, "2A416;2A417;2A418;2A419;2A420;2A421;2A422;2A423;2A424;2A425;2A426;2A427;2A428"),
    (0x145E2, "2A429;2A430;2A431;2A432;2A433;2A434;2A435;2A436;2A437;2A438;2A439;2A440;2A441"),
    (0x145EF, "2A442;2A443;2A444;2A445;2A446;2A447;2A448;2A449;2A450;2A450A;2A451;2A452;2A453"),
    (0x145FC, "2A454;2A455;2A456;2A457;2A457A;2A458;2A459;2A460;2A461;2A462;2A463;2A464;2A465"),
    (0x14609, "2A466;2A467;2A468;2A469;2A470;2A471;2A472;2A473;2A474;2A475;2A476;2A477;2A478"),
    (0x14616, "2A479;2A480;2A481;2A482;2A483;2A484;2A485;2A486;2A487;2A488;2A489;2A490;2A491"),
    (0x14623, "2A492;2A493;2A494;2A495;2A496;2A497;2A501;2A502;2A503;2A504;2A505;2A506;2A507"),
    (0x14630, "2A508;2A509;2A510;2A511;2A512;2A513;2A514;2A515;2A516;2A517;2A518;2A519;2A520"),
    (0x1463D, "2A521;2A522;2A523;2A524;2A525;2A526;2A527;2A528;2A529;2A530"),
    (0x16800, "0BAMUM LETTER PHASE-A NGKUE MFON;3GBIEE FON;3PON MFON PIPAEMGBIEE;5PIPAEMBA"),
    (0x16804, "3NAA MFON;3SHUENSHUET;3TITA MFON;3NZA MFON;3SHINDA PA NJI;3PON PA NJI PIPAEMGBIEE"),
    (0x1680A, "6PIPAEMBA;3MAEMBGBIEE;3TU MAEMBA;3NGANGU;3MAEMVEUX;3MANSUAE;3MVEUAENGAM;3SEUNYAM"),
    (0x16812, "3NTOQPEN;3KEUKEUTNDA;3NKINDI;3SUU;3NGKUENZEUM;3LAPAQ;3LET KUT;3NTAP MFAA;3MAEKEUP"),
    (0x1681B, "3PASHAE;3GHEUAERAE;3PAMSHAE;3MON NGGEUAET;3NZUN MEUT;3U YUQ NAE;3GHEUAEGHEUAE"),
    (0x16822, "3NTAP NTAA;3SISA;3MGBASA;3MEUNJOMNDEUQ;3MOOMPUQ;3KAFA;3PA LEERAEWA;3NDA LEERAEWA"),
    (0x1682A, "3PET;3MAEMKPEN;3NIKA;3PUP;3TUAEP;3LUAEP;3SONJAM;3TEUTEUWEN;3MAENYI;3KET"),
    (0x16834, "3NDAANGGEUAET;3KUOQ;3MOOMEUT;3SHUM;3LOMMAE;3FIRI;3ROM;3KPOQ;3SOQ;3MAP PIEET"),
    (0x1683E, "3SHIRAE;3NTAP;3SHOQ NSHUT YUM;3NYIT MONGKEUAEQ;3PAARAE;3NKAARAE;3UNKNOWN;3NGGEN"),
    (0x16846, "3MAESI;3NJAM;3MBANYI;3NYET;3TEUAEN;3SOT;3PAAM;3NSHIEE;3MAEM;3NYI;3KAQ;3NSHA;3VEE"),
    (0x16853, "3LU;3NEN;3NAQ;3MBAQ;2PHASE-B NSHUET;3TU MAEMGBIEE;3SIEE;3SET TU;3LOM NTEUM"),
    (0x1685C, "3MBA MAELEE;3KIEEM;3YEURAE;3MBAARAE;3KAM;3PEESHI;3YAFU LEERAEWA;3LAM NSHUT NYAM"),
    (0x16864, "3NTIEE SHEUOQ;3NDU NJAA;3GHEUGHEUAEM;3PIT;3TU NSIEE;3SHET NJAQ;3SHEUAEQTU"),
    (0x1686B, "3MFON TEUAEQ;3MBIT MBAAKET;3NYI NTEUM;3KEUPUQ;3GHEUGHEN;3KEUYEUX;3LAANAE;3PARUM"),
    (0x16873, "3VEUM;3NGKINDI MVOP;3NGGEU MBU;3WUAET;3SAKEUAE;3TAAM;3MEUQ;3NGGUOQ;4LARGE;3MFIYAQ"),
    (0x1687D, "3SUE;3MBEURI;3MONTIEEN;3NYAEMAE;3PUNGAAM;3MEUT NGGEET;3FEUX;3MBUOQ;3FEE;3KEUAEM"),
    (0x16887, "3MA NJEUAENA;4NJUQA;3LET;3NGGAAM;3NSEN;3MA;3KIQ;3NGOM;2PHASE-C NGKUE MAEMBA;3NZA"),
    (0x16891, "3YUM;3WANGKUOQ;3NGGEN;3NDEUAEREE;3NGKAQ;3GHARAE;3MBEEKEET;3GBAYI"),
    (0x16899, "3NYIR MKPARAQ MEUN;3NTU MBIT;3MBEUM;3PIRIEEN;3NDOMBU;3MBAA CABBAGE-TREE"),
    (0x1689F, "3KEUSHEUAEP;3GHAP;3KEUKAQ;3YU MUOMAE;3NZEUM;3MBUE;3NSEUAEN;3MBIT;3YEUQ;3KPARAQ"),
    (0x168A9, "3KAA;3SEUX;3NDIDA;3TAASHAE;3NJUEQ;3TITA YUE;3SUAET;3NGGUAEN NYAM;3VEUX;3NANSANAQ"),
    (0x168B3, "3MA KEUAERI;3NTAA;3NGGUON;3LAP;3MBIRIEEN;3MGBASAQ;3NTEUNGBA;3TEUTEUX;3NGGUM;3FUE"),
    (0x168BD, "3NDEUT;3NSA;3NSHAQ;3BUNG;3VEUAEPEN;3MBERAE;3RU;3NJAEM;3LAM;3TITUAEP;3NSUOT NGOM"),
    (0x168C8, "3NJEEEE;3KET;3NGGU;3MAESI;3MBUAEM;3LU;3KUT;3NJAM;3NGOM;3WUP;3NGGUEET;3NSOM;3NTEN"),
    (0x168D5, "3KUOP NKAARAE;3NSUN;3NDAM;3MA NSIEE;3YAA;3NDAP;3SHUEQ;3SETFON;3MBI;3MAEMBA;3MBANYI"),
    (0x168E0, "3KEUSEUX;3MBEUX;3KEUM;3MBAA PICKET;3YUWOQ;3NJEUX;3MIEE;3MUAE;3SHIQ;3KEN LAW"),
    (0x168EA, "4FATIGUE;3NGAQ;3NAQ;3LIQ;3PIN;3PEN;3TET;2PHASE-D MBUO;3WAP;3NJI;3MFON;3NJIEE;3LIEE"),
    (0x168F7, "3NJEUT;3NSHEE;3NGGAAMAE;3NYAM;3WUAEN;3NGKUN;3SHEE;3NGKAP;3KEUAETMEUN;3TEUT;3SHEUAE"),
    (0x16902, "3NJAP;3SUE;3KET;3YAEMMAE;3KUOM;3SAP;3MFEUT;3NDEUX;3MALEERI;3MEUT;3SEUAEQ;3YEN"),
    (0x1690E, "3NJEUAEM;3KEUOT MBUAE;3NGKEURI;3TU;3GHAA;3NGKYEE;3FEUFEUAET;3NDEE;3MGBOFUM;3LEUAEP"),
    (0x16918, "3NDON;3MONI;3MGBEUN;3PUUT;3MGBIEE;3MFO;3LUM;3NSIEEP;3MBAA;3KWAET;3NYET;3TEUAEN"),
    (0x16924, "3SOT;3YUWOQ;3KEUM;3RAEM;3TEEEE;3NGKEUAEQ;3MFEUAE;3NSIEET;3KEUP;3PIP;3PEUTAE;3NYUE"),
    (0x16930, "3LET;3NGGAAM;3MFIEE;3NGGWAEN;3YUOM;3PAP;3YUOP;3NDAM;3NTEUM;3SUAE;3KUN;3NGGEUX"),
    (0x1693C, "3NGKIEE;3TUOT;3MEUN;3KUQ;3NSUM;3TEUN;3MAENJET;3NGGAP;3LEUM;3NGGUOM;3NSHUT;3NJUEQ"),
    (0x16948, "3GHEUAE;3KU;3REN OLD;3TAE;3TOQ;3NYI;3RII;3LEEEE;3MEEEE;3M;3SUU;3MU;3SHII;3SHEUX"),
    (0x16956, "3KYEE;3NU;3SHU;3NTEE;3PEE;3NI;3SHOQ;3PUQ;3MVOP;3LOQ;3REN MUCH;3TI;3NTUU"),
    (0x16963, "3MBAA SEVEN;3SAQ;3FAA;2PHASE-E NDAP;3TOON;3MBEUM;3LAP;3VOM;3LOON;3PAA;3SOM;3RAQ"),
    (0x1696F, "3NSHUOP;3NDUN;3PUAE;3TAM;3NGKA;3KPEUX;3WUO;3SEE;3NGGEUAET;3PAAM;3TOO;3KUOP;3LOM"),
    (0x1697C, "3NSHIEE;3NGOP;3MAEM;3NGKEUX;3NGOQ;3NSHUE;3RIMGBA;3NJEUX;3PEEM;3SAA;3NGGURAE;3MGBA"),
    (0x16988, "3GHEUX;3NGKEUAEM;3NJAEMLI;3MAP;3LOOT;3NGGEEEE;3NDIQ;3TAEN NTEUM;3SET;3PUM"),
    (0x16992, "3NDAA SOFTNESS;3NGGUAESHAE NYAM;3YIEE;3GHEUN;3TUAE;3YEUAE;3PO;3TUMAE;3KEUAE;3SUAEN"),
    (0x1699C, "3TEUAEQ;3VEUAE;3WEUX;3LAAM;3PU;3TAAQ;3GHAAMAE;3NGEUREUT;3SHEUAEQ;3MGBEN;3MBEE"),
    (0x169A7, "3NZAQ;3NKOM;3GBET;3TUM;3KUET;3YAP;3NYI CLEAVER;3YIT;3MFEUQ;3NDIAQ;3PIEEQ;3YUEQ"),
    (0x169B3, "3LEUAEM;3FUE;3GBEUX;3NGKUP;3KET;3MAE;3NGKAAMI;3GHET;3FA;3NTUM;3PEUT;3YEUM;3NGGEUAE"),
    (0x169C0, "3NYI BETWEEN;3NZUQ;3POON;3MIEE;3FUET;3NAE;3MUAE;3GHEUAE;3FU I;3MVI;3PUAQ;3NGKUM"),
    (0x169CC, "3KUT;3PIET;3NTAP;3YEUAET;3NGGUP;3PA PEOPLE;3FU CALL;3FOM;3NJEE;3A;3TOQ;3O;3I;3LAQ"),
    (0x169DA, "3PA PLURAL;3TAA;3TAQ;3NDAA MY HOUSE;3SHIQ;3YEUX;3NGUAE;3YUAEN;3YOQ SWIMMING;4COVER"),
    (0x169E4, "3YUQ;3YUN;3KEUX;3PEUX;3NJEE EPOCH;3PUE;3WUE;3FEE;3VEE;3LU;3MI;3REUX;3RAE;3NGUAET"),
    (0x169F2, "3NGA;3SHO;3SHOQ;3FU REMEDY;3NA;3PI;3LOQ;3KO;3MEN;3MA;3MAQ;3TEU;3KI;3MON;3TEN;3FAQ"),
    (0x16A02, "3GHOM;2PHASE-F KA;3U;3KU;3EE;3REE;3TAE;3NYI;3LA;3RII;3RIEE;3MEEEE;3TAA;3NDAA"),
    (0x16A10, "3NJAEM;3M;3SUU;3SHII;3SI;3SEUX;3KYEE;3KET;3NUAE;3NU;3NJUAE;3YOQ;3SHU;3YA;3NSHA"),
    (0x16A1F, "3PEUX;3NTEE;3WUE;3PEE;3RU;3NI;3REUX;3KEN;3NGKWAEN;3NGGA;3SHO;3PUAE;3FOM;3WA;3LI"),
    (0x16A2E, "3LOQ;3KO;3MBEN;3REN;3MA;3MO;3MBAA;3TET;3KPA;3SAMBA;3VUEQ"),
    (0x16A40, "0MRO LETTER TA;2NGI;2YO;2MIM;2BA;2DA;2A;2PHI;2KHAI;2HAO;2DAI;2CHU;2KEAAE;2OL;2MAEM"),
    (0x16A4F, "2NIN;2PA;2OO;2O;2RO;2SHI;2THEA;2EA;2WA;2E;2KO;2LAN;2LA;2HAI;2RI;2TEK"),
    (0x16A60, "1DIGIT ZERO;2ONE;2TWO;2THREE;2FOUR;2FIVE;2SIX;2SEVEN;2EIGHT;2NINE"),
    (0x16A6E, "1DANDA;1DOUBLE DANDA;0TANGSA LETTER OZ;2OC;2OQ;2OX;2AZ;2AC;2AQ;2AX;2VZ;2VC;2VQ;2VX"),
    (0x16A7C, "2EZ;2EC;2EQ;2EX;2IZ;2IC;2IQ;2IX;2UZ;2UC;2UQ;2UX;2AWZ;2AWC;2AWQ;2AWX;2UIZ;2UIC;2UIQ"),
    (0x16A8F, "2UIX;2FINAL NG;2LONG UEX;2SHORT UEZ;3AWX;2UEC;2UEZ;2UEQ;2UEX;2UIUZ;2UIUC;2UIUQ"),
    (0x16A9B, "2UIUX;2MZ;2MC;2MQ;2MX;2KA;2KHA;2GA;2NGA;2SA;2YA;2WA;2PA;2NYA;2PHA;2BA;2MA;2NA;2HA"),
    (0x16AAE, "2LA;2HTA;2TA;2DA;2RA;2NHA;2SHA;2CA;2TSA;2GHA;2HTTA;2THA;2XA;2FA;2DHA;2CHA;2ZA"),
    (0x16AC0, "1DIGIT ZERO;2ONE;2TWO;2THREE;2FOUR;2FIVE;2SIX;2SEVEN;2EIGHT;2NINE"),
    (0x16AD0, "0BASSA VAH LETTER ENNI;3KA;3SE;3FA;3MBE;3YIE;3GAH;3DHII;3KPAH;3JO;3HWAH;3WA;3ZO"),
    (0x16ADD, "3GBU;3DO;3CE;3UWU;3TO;3BA;3VU;3YEIN;3PA;3WADDA;3A;3O;3OO;3U;3EE;3E;3I"),
    (0x16AF0, "2COMBINING HIGH TONE;3LOW TONE;3MID TONE;3LOW-MID TONE;3HIGH-LOW TONE;2FULL STOP"),
    (0x16B00, "0PAHAWH HMONG VOWEL KEEB;3KEEV;3KIB;3KIV;3KAUB;3KAUV;3KUB;3KUV;3KEB;3KEV;3KAIB"),
    (0x16B0B, "3KAIV;3KOOB;3KOOV;3KAWB;3KAWV;3KUAB;3KUAV;3KOB;3KOV;3KIAB;3KIAV;3KAB;3KAV;3KWB"),
    (0x16B19, "3KWV;3KAAB;3KAAV;2CONSONANT VAU;3NTSAU;3LAU;3HAU;3NLAU;3RAU;3NKAU;3QHAU;3YAU;3HLAU"),
    (0x16B26, "3MAU;3CHAU;3NCHAU;3HNAU;3PLHAU;3NTHAU;3NAU;3AU;3XAU;3CAU;2MARK CIM TUB;4SO;4KES"),
    (0x16B33, "4KHAV;4SUAM;4HOM;4TAUM;2SIGN VOS THOM;4TSHAB CEEB;3CIM CHEEM;3VOS THIAB;4FEEM"),
    (0x16B3C, "3XYEEM NTXIV;4RHO;4TOV;4FAIB;3VOS SEEV;3MEEJ SUAB;3VOS NRUA;3IB YAM;3XAUS"),
    (0x16B45, "3CIM TSOV ROG"),
    (0x16B50, "2DIGIT ZERO;3ONE;3TWO;3THREE;3FOUR;3FIVE;3SIX;3SEVEN;3EIGHT;3NINE"),
    (0x16B5B, "2NUMBER TENS;3HUNDREDS;3TEN THOUSANDS;3MILLIONS;3HUNDRED MILLIONS;3TEN BILLIONS"),
    (0x16B61, "3TRILLIONS"),
    (0x16B63, "2SIGN VOS LUB;3XYOO;3HLI;3THIRD-STAGE HLI;3ZWJ THAJ;3HNUB;3NQIG;3XIAB;3NTUJ;3AV"),
    (0x16B6D, "3TXHEEJ CEEV;3MEEJ TSEEB;3TAU;3LOS;3MUS;3CIM HAIS LUS NTOG NTOG;4CUAM TSHOOJ;4TXWV"),
    (0x16B75, "5CHWV;4PUB DAWB;4NRES TOS"),
    (0x16B7D, "2CLAN SIGN TSHEEJ;4YEEG;4LIS;4LAUJ;4XYOOJ;4KOO;4HAWJ;4MUAS;4THOJ;4TSAB;4PHAB;4KHAB"),
    (0x16B89, "4HAM;4VAJ;4FAJ;4YAJ;4TSWB;4KWM;4VWJ"),
    (0x16E40, "0MEDEFAIDRIN CAPITAL LETTER M;3S;3V;3W;3ATIU;3Z;3KP;3P;3T;3G;3F;3I;3K;3A;3J;3E;3B"),
    (0x16E51, "3C;3U;3YU;3L;3Q;3HP;3NY;3X;3D;3OE;3N;3R;3O;3AI;3Y;1SMALL LETTER M;3S;3V;3W;3ATIU"),
    (0x16E65, "3Z;3KP;3P;3T;3G;3F;3I;3K;3A;3J;3E;3B;3C;3U;3YU;3L;3Q;3HP;3NY;3X;3D;3OE;3N;3R;3O"),
    (0x16E7E, "3AI;3Y;1DIGIT ZERO;2ONE;2TWO;2THREE;2FOUR;2FIVE;2SIX;2SEVEN;2EIGHT;2NINE"),
    (0x16E8A, "1NUMBER TEN;2ELEVEN;2TWELVE;2THIRTEEN;2FOURTEEN;2FIFTEEN;2SIXTEEN;2SEVENTEEN"),
    (0x16E92, "2EIGHTEEN;2NINETEEN;1DIGIT ONE ALTERNATE FORM;2TWO ALTERNATE FORM"),
    (0x16E96, "2THREE ALTERNATE FORM;1COMMA;1FULL STOP;1SYMBOL AIVA;1EXCLAMATION OH"),
    (0x16F00, "0MIAO LETTER PA;2BA;2YI PA;2PLA;2MA;2MHA;2ARCHAIC MA;2FA;2VA;2VFA;2TA;2DA;2YI TTA"),
    (0x16F0D, "3TA;2TTA;2DDA;2NA;2NHA;2YI NNA;2ARCHAIC NA;2NNA;2NNHA;2LA;2LYA;2LHA;2LHYA;2TLHA"),
    (0x16F1B, "2DLHA;2TLHYA;2DLHYA;2KA;2GA;2YI KA;2QA;2QGA;2NGA;2NGHA;2ARCHAIC NGA;2HA;2XA;2GHA"),
    (0x16F29, "2GHHA;2TSSA;2DZZA;2NYA;2NYHA;2TSHA;2DZHA;2YI TSHA;3DZHA;2REFORMED TSHA;2SHA;2SSA"),
    (0x16F35, "2ZHA;2ZSHA;2TSA;2DZA;2YI TSA;2SA;2ZA;2ZSA;2ZZA;2ZZSA;2ARCHAIC ZZA;2ZZYA;2ZZSYA;2WA"),
    (0x16F43, "2AH;2HHA;2BRI;2SYI;2DZYI;2TE;2TSE;2RTE"),
    (0x16F4F, "1SIGN CONSONANT MODIFIER BAR;1LETTER NASALIZATION;1SIGN ASPIRATION"),
    (0x16F52, "2REFORMED VOICING;3ASPIRATION;1VOWEL SIGN A;3AA;3AHH;3AN;3ANG;3O;3OO;3WO;3W;3E;3EN"),
    (0x16F5F, "3ENG;3OEY;3I;3IA;3IAN;3IANG;3IO;3IE;3II;3IU;3ING;3U;3UA;3UAN;3UANG;3UU;3UEI;3UNG"),
    (0x16F71, "3Y;3YI;3AE;3AEE;3ERR;3ROUNDED ERR;3ER;3ROUNDED ER;3AI;3EI;3AU;3OU;3N;3NG;3UOG;3YUI"),
    (0x16F81, "3OG;3OER;3VW;3IG;3EA;3IONG;3UI"),
    (0x16F8F, "1TONE RIGHT;2TOP RIGHT;2ABOVE;2BELOW;1LETTER TONE-2;2TONE-3;2TONE-4;2TONE-5"),
    (0x16F97, "2TONE-6;2TONE-7;2TONE-8;2REFORMED TONE-1;3TONE-2;3TONE-4;3TONE-5;3TONE-6;3TONE-8"),
    (0x16FE0, "0TANGUT ITERATION MARK;0NUSHU ITERATION MARK;0OLD CHINESE HOOK MARK"),
    (0x16FE3, "2ITERATION MARK;0KHITAN SMALL SCRIPT FILLER"),
    (0x16FF0, "0VIETNAMESE ALTERNATE READING MARK CA;4NHAY"),
    (0x18800, "0TANGUT COMPONENT-001;1COMPONENT-002;1COMPONENT-003;1COMPONENT-004;1COMPONENT-005"),
    (0x18805, "1COMPONENT-006;1COMPONENT-007;1COMPONENT-008;1COMPONENT-009;1COMPONENT-010"),
    (0x1880A, "1COMPONENT-011;1COMPONENT-012;1COMPONENT-013;1COMPONENT-014;1COMPONENT-015"),
    (0x1880F, "1COMPONENT-016;1COMPONENT-017;1COMPONENT-018;1COMPONENT-019;1COMPONENT-020"),
    (0x18814, "1COMPONENT-021;1COMPONENT-022;1COMPONENT-023;1COMPONENT-024;1COMPONENT-025"),
    (0x18819, "1COMPONENT-026;1COMPONENT-027;1COMPONENT-028;1COMPONENT-029;1COMPONENT-030"),
    (0x1881E, "1COMPONENT-031;1COMPONENT-032;1COMPONENT-033;1COMPONENT-034;1COMPONENT-035"),
    (0x18823, "1COMPONENT-036;1COMPONENT-037;1COMPONENT-038;1COMPONENT-039;1COMPONENT-040"),
    (0x18828, "1COMPONENT-041;1COMPONENT-042;1COMPONENT-043;1COMPONENT-044;1COMPONENT-045"),
    (0x1882D, "1COMPONENT-046;1COMPONENT-047;1COMPONENT-048;1COMPONENT-049;1COMPONENT-050"),
    (0x18832, "1COMPONENT-051;1COMPONENT-052;1COMPONENT-053;1COMPONENT-054;1COMPONENT-055"),
    (0x18837, "1COMPONENT-056;1COMPONENT-057;1COMPONENT-058;1COMPONENT-059;1COMPONENT-060"),
    (0x1883C, "1COMPONENT-061;1COMPONENT-062;1COMPONENT-063;1COMPONENT-064;1COMPONENT-065"),
    (0x18841, "1COMPONENT-066;1COMPONENT-067;1COMPONENT-068;1COMPONENT-069;1COMPONENT-070"),
    (0x18846, "1COMPONENT-071;1COMPONENT-072;1COMPONENT-073;1COMPONENT-074;1COMPONENT-075"),
    (0x1884B, "1COMPONENT-076;1COMPONENT-077;1COMPONENT-078;1COMPONENT-079;1COMPONENT-080"),
    (0x18850, "1COMPONENT-081;1COMPONENT-082;1COMPONENT-083;1COMPONENT-084;1COMPONENT-085"),
    (0x18855, "1COMPONENT-086;1COMPONENT-087;1COMPONENT-088;1COMPONENT-089;1COMPONENT-090"),
    (0x1885A, "1COMPONENT-091;1COMPONENT-092;1COMPONENT-093;1COMPONENT-094;1COMPONENT-095"),
    (0x1885F, "1COMPONENT-096;1COMPONENT-097;1COMPONENT-098;1COMPONENT-099;1COMPONENT-100"),
    (0x18864, "1COMPONENT-101;1COMPONENT-102;1COMPONENT-103;1COMPONENT-104;1COMPONENT-105"),
    (0x18869, "1COMPONENT-106;1COMPONENT-107;1COMPONENT-108;1COMPONENT-109;1COMPONENT-110"),
    (0x1886E, "1COMPONENT-111;1COMPONENT-112;1COMPONENT-113;1COMPONENT-114;1COMPONENT-115"),
    (0x18873, "1COMPONENT-116;1COMPONENT-117;1COMPONENT-118;1COMPONENT-119;1COMPONENT-120"),
    (0x18878, "1COMPONENT-121;1COMPONENT-122;1COMPONENT-123;1COMPONENT-124;1COMPONENT-125"),
    (0x1887D, "1COMPONENT-126;1COMPONENT-127;1COMPONENT-128;1COMPONENT-129;1COMPONENT-130"),
    (0x18882, "1COMPONENT-131;1COMPONENT-132;1COMPONENT-133;1COMPONENT-134;1COMPONENT-135"),
    (0x18887, "1COMPONENT-136;1COMPONENT-137;1COMPONENT-138;1COMPONENT-139;1COMPONENT-140"),
    (0x1888C, "1COMPONENT-141;1COMPONENT-142;1COMPONENT-143;1COMPONENT-144;1COMPONENT-145"),
    (0x18891, "1COMPONENT-146;1COMPONENT-147;1COMPONENT-148;1COMPONENT-149;1COMPONENT-150"),
    (0x18896, "1COMPONENT-151;1COMPONENT-152;1COMPONENT-153;1COMPONENT-154;1COMPONENT-155"),
    (0x1889B, "1COMPONENT-156;1COMPONENT-157;1COMPONENT-158;1COMPONENT-159;1COMPONENT-160"),
    (0x188A0, "1COMPONENT-161;1COMPONENT-162;1COMPONENT-163;1COMPONENT-164;1COMPONENT-165"),
    (0x188A5, "1COMPONENT-166;1COMPONENT-167;1COMPONENT-168;1COMPONENT-169;1COMPONENT-170"),
    (0x188AA, "1COMPONENT-171;1COMPONENT-172;1COMPONENT-173;1COMPONENT-174;1COMPONENT-175"),
    (0x188AF, "1COMPONENT-176;1COMPONENT-177;1COMPONENT-178;1COMPONENT-179;1COMPONENT-180"),
    (0x188B4, "1COMPONENT-181;1COMPONENT-182;1COMPONENT-183;1COMPONENT-184;1COMPONENT-185"),
    (0x188B9, "1COMPONENT-186;1COMPONENT-187;1COMPONENT-188;1COMPONENT-189;1COMPONENT-190"),
    (0x188BE, "1COMPONENT-191;1COMPONENT-192;1COMPONENT-193;1COMPONENT-194;1COMPONENT-195"),
    (0x188C3, "1COMPONENT-196;1COMPONENT-197;1COMPONENT-198;1COMPONENT-199;1COMPONENT-200"),
    (0x188C8, "1COMPONENT-201;1COMPONENT-202;1COMPONENT-203;1COMPONENT-204;1COMPONENT-205"),
    (0x188CD, "1COMPONENT-206;1COMPONENT-207;1COMPONENT-208;1COMPONENT-209;1COMPONENT-210"),
    (0x188D2, "1COMPONENT-211;1COMPONENT-212;1COMPONENT-213;1COMPONENT-214;1COMPONENT-215"),
    (0x188D7, "1COMPONENT-216;1COMPONENT-217;1COMPONENT-218;1COMPONENT-219;1COMPONENT-220"),
    (0x188DC, "1COMPONENT-221;1COMPONENT-222;1COMPONENT-223;1COMPONENT-224;1COMPONENT-225"),
    (0x188E1, "1COMPONENT-226;1COMPONENT-227;1COMPONENT-228;1COMPONENT-229;1COMPONENT-230"),
    (0x188E6, "1COMPONENT-231;1COMPONENT-232;1COMPONENT-233;1COMPONENT-234;1COMPONENT-235"),
    (0x188EB, "1COMPONENT-236;1COMPONENT-237;1COMPONENT-238;1COMPONENT-239;1COMPONENT-240"),
    (0x188F0, "1COMPONENT-241;1COMPONENT-242;1COMPONENT-243;1COMPONENT-244;1COMPONENT-245"),
    (0x188F5, "1COMPONENT-246;1COMPONENT-247;1COMPONENT-248;1COMPONENT-249;1COMPONENT-250"),
    (0x188FA, "1COMPONENT-251;1COMPONENT-252;1COMPONENT-253;1COMPONENT-254;1COMPONENT-255"),
    (0x188FF, "1COMPONENT-256;1COMPONENT-257;1COMPONENT-258;1COMPONENT-259;1COMPONENT-260"),
    (0x18904, "1COMPONENT-261;1COMPONENT-262;1COMPONENT-263;1COMPONENT-264;1COMPONENT-265"),
    (0x18909, "1COMPONENT-266;1COMPONENT-267;1COMPONENT-268;1COMPONENT-269;1COMPONENT-270"),
    (0x1890E, "1COMPONENT-271;1COMPONENT-272;1COMPONENT-273;1COMPONENT-274;1COMPONENT-275"),
    (0x18913, "1COMPONENT-276;1COMPONENT-277;1COMPONENT-278;1COMPONENT-279;1COMPONENT-280"),
    (0x18918, "1COMPONENT-281;1COMPONENT-282;1COMPONENT-283;1COMPONENT-284;1COMPONENT-285"),
    (0x1891D, "1COMPONENT-286;1COMPONENT-287;1COMPONENT-288;1COMPONENT-289;1COMPONENT-290"),
    (0x18922, "1COMPONENT-291;1COMPONENT-292;1COMPONENT-293;1COMPONENT-294;1COMPONENT-295"),
    (0x18927, "1COMPONENT-296;1COMPONENT-297;1COMPONENT-298;1COMPONENT-299;1COMPONENT-300"),
    (0x1892C, "1COMPONENT-301;1COMPONENT-302;1COMPONENT-303;1COMPONENT-304;1COMPONENT-305"),
    (0x18931, "1COMPONENT-306;1COMPONENT-307;1COMPONENT-308;1COMPONENT-309;1COMPONENT-310"),
    (0x18936, "1COMPONENT-311;1COMPONENT-312;1COMPONENT-313;1COMPONENT-314;1COMPONENT-315"),
    (0x1893B, "1COMPONENT-316;1COMPONENT-317;1COMPONENT-318;1COMPONENT-319;1COMPONENT-320"),
    (0x18940, "1COMPONENT-321;1COMPONENT-322;1COMPONENT-323;1COMPONENT-324;1COMPONENT-325"),
    (0x18945, "1COMPONENT-326;1COMPONENT-327;1COMPONENT-328;1COMPONENT-329;1COMPONENT-330"),
    (0x1894A, "1COMPONENT-331;1COMPONENT-332;1COMPONENT-333;1COMPONENT-334;1COMPONENT-335"),
    (0x1894F, "1COMPONENT-336;1COMPONENT-337;1COMPONENT-338;1COMPONENT-339;1COMPONENT-340"),
    (0x18954, "1COMPONENT-341;1COMPONENT-342;1COMPONENT-343;1COMPONENT-344;1COMPONENT-345"),
    (0x18959, "1COMPONENT-346;1COMPONENT-347;1COMPONENT-348;1COMPONENT-349;1COMPONENT-350"),
    (0x1895E, "1COMPONENT-351;1COMPONENT-352;1COMPONENT-353;1COMPONENT-354;1COMPONENT-355"),
    (0x18963, "1COMPONENT-356;1COMPONENT-357;1COMPONENT-358;1COMPONENT-359;1COMPONENT-360"),
    (0x18968, "1COMPONENT-361;1COMPONENT-362;1COMPONENT-363;1COMPONENT-364;1COMPONENT-365"),
    (0x1896D, "1COMPONENT-366;1COMPONENT-367;1COMPONENT-368;1COMPONENT-369;1COMPONENT-370"),
    (0x18972, "1COMPONENT-371;1COMPONENT-372;1COMPONENT-373;1COMPONENT-374;1COMPONENT-375"),
    (0x18977, "1COMPONENT-376;1COMPONENT-377;1COMPONENT-378;1COMPONENT-379;1COMPONENT-380"),
    (0x1897C, "1COMPONENT-381;1COMPONENT-382;1COMPONENT-383;1COMPONENT-384;1COMPONENT-385"),
    (0x18981, "1COMPONENT-386;1COMPONENT-387;1COMPONENT-388;1COMPONENT-389;1COMPONENT-390"),
    (0x18986, "1COMPONENT-391;1COMPONENT-392;1COMPONENT-393;1COMPONENT-394;1COMPONENT-395"),
    (0x1898B, "1COMPONENT-396;1COMPONENT-397;1COMPONENT-398;1COMPONENT-399;1COMPONENT-400"),
    (0x18990, "1COMPONENT-401;1COMPONENT-402;1COMPONENT-403;1COMPONENT-404;1COMPONENT-405"),
    (0x18995, "1COMPONENT-406;1COMPONENT-407;1COMPONENT-408;1COMPONENT-409;1COMPONENT-410"),
    (0x1899A, "1COMPONENT-411;1COMPONENT-412;1COMPONENT-413;1COMPONENT-414;1COMPONENT-415"),
    (0x1899F, "1COMPONENT-416;1COMPONENT-417;1COMPONENT-418;1COMPONENT-419;1COMPONENT-420"),
    (0x189A4, "1COMPONENT-421;1COMPONENT-422;1COMPONENT-423;1COMPONENT-424;1COMPONENT-425"),
    (0x189A9, "1COMPONENT-426;1COMPONENT-427;1COMPONENT-428;1COMPONENT-429;1COMPONENT-430"),
    (0x189AE, "1COMPONENT-431;1COMPONENT-432;1COMPONENT-433;1COMPONENT-434;1COMPONENT-435"),
    (0x189B3, "1COMPONENT-436;1COMPONENT-437;1COMPONENT-438;1COMPONENT-439;1COMPONENT-440"),
    (0x189B8, "1COMPONENT-441;1COMPONENT-442;1COMPONENT-443;1COMPONENT-444;1COMPONENT-445"),
    (0x189BD, "1COMPONENT-446;1COMPONENT-447;1COMPONENT-448;1COMPONENT-449;1COMPONENT-450"),
    (0x189C2, "1COMPONENT-451;1COMPONENT-452;1COMPONENT-453;1COMPONENT-454;1COMPONENT-455"),
    (0x189C7, "1COMPONENT-456;1COMPONENT-457;1COMPONENT-458;1COMPONENT-459;1COMPONENT-460"),
    (0x189CC, "1COMPONENT-461;1COMPONENT-462;1COMPONENT-463;1COMPONENT-464;1COMPONENT-465"),
    (0x189D1, "1COMPONENT-466;1COMPONENT-467;1COMPONENT-468;1COMPONENT-469;1COMPONENT-470"),
    (0x189D6, "1COMPONENT-471;1COMPONENT-472;1COMPONENT-473;1COMPONENT-474;1COMPONENT-475"),
    (0x189DB, "1COMPONENT-476;1COMPONENT-477;1COMPONENT-478;1COMPONENT-479;1COMPONENT-480"),
    (0x189E0, "1COMPONENT-481;1COMPONENT-482;1COMPONENT-483;1COMPONENT-484;1COMPONENT-485"),
    (0x189E5, "1COMPONENT-486;1COMPONENT-487;1COMPONENT-488;1COMPONENT-489;1COMPONENT-490"),
    (0x189EA, "1COMPONENT-491;1COMPONENT-492;1COMPONENT-493;1COMPONENT-494;1COMPONENT-495"),
    (0x189EF, "1COMPONENT-496;1COMPONENT-497;1COMPONENT-498;1COMPONENT-499;1COMPONENT-500"),
    (0x189F4, "1COMPONENT-501;1COMPONENT-502;1COMPONENT-503;1COMPONENT-504;1COMPONENT-505"),
    (0x189F9, "1COMPONENT-506;1COMPONENT-507;1COMPONENT-508;1COMPONENT-509;1COMPONENT-510"),
    (0x189FE, "1COMPONENT-511;1COMPONENT-512;1COMPONENT-513;1COMPONENT-514;1COMPONENT-515"),
    (0x18A03, "1COMPONENT-516;1COMPONENT-517;1COMPONENT-518;1COMPONENT-519;1COMPONENT-520"),
    (0x18A08, "1COMPONENT-521;1COMPONENT-522;1COMPONENT-523;1COMPONENT-524;1COMPONENT-525"),
    (0x18A0D, "1COMPONENT-526;1COMPONENT-527;1COMPONENT-528;1COMPONENT-529;1COMPONENT-530"),
    (0x18A12, "1COMPONENT-531;1COMPONENT-532;1COMPONENT-533;1COMPONENT-534;1COMPONENT-535"),
    (0x18A17, "1COMPONENT-536;1COMPONENT-537;1COMPONENT-538;1COMPONENT-539;1COMPONENT-540"),
    (0x18A1C, "1COMPONENT-541;1COMPONENT-542;1COMPONENT-543;1COMPONENT-544;1COMPONENT-545"),
    (0x18A21, "1COMPONENT-546;1COMPONENT-547;1COMPONENT-548;1COMPONENT-549;1COMPONENT-550"),
    (0x18A26, "1COMPONENT-551;1COMPONENT-552;1COMPONENT-553;1COMPONENT-554;1COMPONENT-555"),
    (0x18A2B, "1COMPONENT-556;1COMPONENT-557;1COMPONENT-558;1COMPONENT-559;1COMPONENT-560"),
    (0x18A30, "1COMPONENT-561;1COMPONENT-562;1COMPONENT-563;1COMPONENT-564;1COMPONENT-565"),
    (0x18A35, "1COMPONENT-566;1COMPONENT-567;1COMPONENT-568;1COMPONENT-569;1COMPONENT-570"),
    (0x18A3A, "1COMPONENT-571;1COMPONENT-572;1COMPONENT-573;1COMPONENT-574;1COMPONENT-575"),
    (0x18A3F, "1COMPONENT-576;1COMPONENT-577;1COMPONENT-578;1COMPONENT-579;1COMPONENT-580"),
    (0x18A44, "1COMPONENT-581;1COMPONENT-582;1COMPONENT-583;1COMPONENT-584;1COMPONENT-585"),
    (0x18A49, "1COMPONENT-586;1COMPONENT-587;1COMPONENT-588;1COMPONENT-589;1COMPONENT-590"),
    (0x18A4E, "1COMPONENT-591;1COMPONENT-592;1COMPONENT-593;1COMPONENT-594;1COMPONENT-595"),
    (0x18A53, "1COMPONENT-596;1COMPONENT-597;1COMPONENT-598;1COMPONENT-599;1COMPONENT-600"),
    (0x18A58, "1COMPONENT-601;1COMPONENT-602;1COMPONENT-603;1COMPONENT-604;1COMPONENT-605"),
    (0x18A5D, "1COMPONENT-606;1COMPONENT-607;1COMPONENT-608;1COMPONENT-609;1COMPONENT-610"),
    (0x18A62, "1COMPONENT-611;1COMPONENT-612;1COMPONENT-613;1COMPONENT-614;1COMPONENT-615"),
    (0x18A67, "1COMPONENT-616;1COMPONENT-617;1COMPONENT-618;1COMPONENT-619;1COMPONENT-620"),
    (0x18A6C, "1COMPONENT-621;1COMPONENT-622;1COMPONENT-623;1COMPONENT-624;1COMPONENT-625"),
    (0x18A71, "1COMPONENT-626;1COMPONENT-627;1COMPONENT-628;1COMPONENT-629;1COMPONENT-630"),
    (0x18A76, "1COMPONENT-631;1COMPONENT-632;1COMPONENT-633;1COMPONENT-634;1COMPONENT-635"),
    (0x18A7B, "1COMPONENT-636;1COMPONENT-637;1COMPONENT-638;1COMPONENT-639;1COMPONENT-640"),
    (0x18A80, "1COMPONENT-641;1COMPONENT-642;1COMPONENT-643;1COMPONENT-644;1COMPONENT-645"),
    (0x18A85, "1COMPONENT-646;1COMPONENT-647;1COMPONENT-648;1COMPONENT-649;1COMPONENT-650"),
    (0x18A8A, "1COMPONENT-651;1COMPONENT-652;1COMPONENT-653;1COMPONENT-654;1COMPONENT-655"),
    (0x18A8F, "1COMPONENT-656;1COMPONENT-657;1COMPONENT-658;1COMPONENT-659;1COMPONENT-660"),
    (0x18A94, "1COMPONENT-661;1COMPONENT-662;1COMPONENT-663;1COMPONENT-664;1COMPONENT-665"),
    (0x18A99, "1COMPONENT-666;1COMPONENT-667;1COMPONENT-668;1COMPONENT-669;1COMPONENT-670"),
    (0x18A9E, "1COMPONENT-671;1COMPONENT-672;1COMPONENT-673;1COMPONENT-674;1COMPONENT-675"),
    (0x18AA3, "1COMPONENT-676;1COMPONENT-677;1COMPONENT-678;1COMPONENT-679;1COMPONENT-680"),
    (0x18AA8, "1COMPONENT-681;1COMPONENT-682;1COMPONENT-683;1COMPONENT-684;1COMPONENT-685"),
    (0x18AAD, "1COMPONENT-686;1COMPONENT-687;1COMPONENT-688;1COMPONENT-689;1COMPONENT-690"),
    (0x18AB2, "1COMPONENT-691;1COMPONENT-692;1COMPONENT-693;1COMPONENT-694;1COMPONENT-695"),
    (0x18AB7, "1COMPONENT-696;1COMPONENT-697;1COMPONENT-698;1COMPONENT-699;1COMPONENT-700"),
    (0x18ABC, "1COMPONENT-701;1COMPONENT-702;1COMPONENT-703;1COMPONENT-704;1COMPONENT-705"),
    (0x18AC1, "1COMPONENT-706;1COMPONENT-707;1COMPONENT-708;1COMPONENT-709;1COMPONENT-710"),
    (0x18AC6, "1COMPONENT-711;1COMPONENT-712;1COMPONENT-713;1COMPONENT-714;1COMPONENT-715"),
    (0x18ACB, "1COMPONENT-716;1COMPONENT-717;1COMPONENT-718;1COMPONENT-719;1COMPONENT-720"),
    (0x18AD0, "1COMPONENT-721;1COMPONENT-722;1COMPONENT-723;1COMPONENT-724;1COMPONENT-725"),
    (0x18AD5, "1COMPONENT-726;1COMPONENT-727;1COMPONENT-728;1COMPONENT-729;1COMPONENT-730"),
    (0x18ADA, "1COMPONENT-731;1COMPONENT-732;1COMPONENT-733;1COMPONENT-734;1COMPONENT-735"),
    (0x18ADF, "1COMPONENT-736;1COMPONENT-737;1COMPONENT-738;1COMPONENT-739;1COMPONENT-740"),
    (0x18AE4, "1COMPONENT-741;1COMPONENT-742;1COMPONENT-743;1COMPONENT-744;1COMPONENT-745"),
    (0x18AE9, "1COMPONENT-746;1COMPONENT-747;1COMPONENT-748;1COMPONENT-749;1COMPONENT-750"),
    (0x18AEE, "1COMPONENT-751;1COMPONENT-752;1COMPONENT-753;1COMPONENT-754;1COMPONENT-755"),
    (0x18AF3, "1COMPONENT-756;1COMPONENT-757;1COMPONENT-758;1COMPONENT-759;1COMPONENT-760"),
    (0x18AF8, "1COMPONENT-761;1COMPONENT-762;1COMPONENT-763;1COMPONENT-764;1COMPONENT-765"),
    (0x18AFD, "1COMPONENT-766;1COMPONENT-767;1COMPONENT-768;0KHITAN SMALL SCRIPT CHARACTER-18B00"),
    (0x18B01, "3CHARACTER-18B01;3CHARACTER-18B02;3CHARACTER-18B03;3CHARACTER-18B04"),
    (0x18B05, "3CHARACTER-18B05;3CHARACTER-18B06;3CHARACTER-18B07;3CHARACTER-18B08"),
    (0x18B09, "3CHARACTER-18B09;3CHARACTER-18B0A;3CHARACTER-18B0B;3CHARACTER-18B0C"),
    (0x18B0D, "3CHARACTER-18B0D;3CHARACTER-18B0E;3CHARACTER-18B0F;3CHARACTER-18B10"),
    (0x18B11, "3CHARACTER-18B11;3CHARACTER-18B12;3CHARACTER-18B13;3CHARACTER-18B14"),
    (0x18B15, "3CHARACTER-18B15;3CHARACTER-18B16;3CHARACTER-18B17;3CHARACTER-18B18"),
    (0x18B19, "3CHARACTER-18B19;3CHARACTER-18B1A;3CHARACTER-18B1B;3CHARACTER-18B1C"),
    (0x18B1D, "3CHARACTER-18B1D;3CHARACTER-18B1E;3CHARACTER-18B1F;3CHARACTER-18B20"),
    (0x18B21, "3CHARACTER-18B21;3CHARACTER-18B22;3CHARACTER-18B23;3CHARACTER-18B24"),
    (0x18B25, "3CHARACTER-18B25;3CHARACTER-18B26;3CHARACTER-18B27;3CHARACTER-18B28"),
    (0x18B29, "3CHARACTER-18B29;3CHARACTER-18B2A;3CHARACTER-18B2B;3CHARACTER-18B2C"),
    (0x18B2D, "3CHARACTER-18B2D;3CHARACTER-18B2E;3CHARACTER-18B2F;3CHARACTER-18B30"),
    (0x18B31, "3CHARACTER-18B31;3CHARACTER-18B32;3CHARACTER-18B33;3CHARACTER-18B34"),
    (0x18B35, "3CHARACTER-18B35;3CHARACTER-18B36;3CHARACTER-18B37;3CHARACTER-18B38"),
    (0x18B39, "3CHARACTER-18B39;3CHARACTER-18B3A;3CHARACTER-18B3B;3CHARACTER-18B3C"),
    (0x18B3D, "3CHARACTER-18B3D;3CHARACTER-18B3E;3CHARACTER-18B3F;3CHARACTER-18B40"),
    (0x18B41, "3CHARACTER-18B41;3CHARACTER-18B42;3CHARACTER-18B43;3CHARACTER-18B44"),
    (0x18B45, "3CHARACTER-18B45;3CHARACTER-18B46;3CHARACTER-18B47;3CHARACTER-18B48"),
    (0x18B49, "3CHARACTER-18B49;3CHARACTER-18B4A;3CHARACTER-18B4B;3CHARACTER-18B4C"),
    (0x18B4D, "3CHARACTER-18B4D;3CHARACTER-18B4E;3CHARACTER-18B4F;3CHARACTER-18B50"),
    (0x18B51, "3CHARACTER-18B51;3CHARACTER-18B52;3CHARACTER-18B53;3CHARACTER-18B54"),
    (0x18B55, "3CHARACTER-18B55;3CHARACTER-18B56;3CHARACTER-18B57;3CHARACTER-18B58"),
    (0x18B59, "3CHARACTER-18B59;3CHARACTER-18B5A;3CHARACTER-18B5B;3CHARACTER-18B5C"),
    (0x18B5D, "3CHARACTER-18B5D;3CHARACTER-18B5E;3CHARACTER-18B5F;3CHARACTER-18B60"),
    (0x18B61, "3CHARACTER-18B61;3CHARACTER-18B62;3CHARACTER-18B63;3CHARACTER-18B64"),
    (0x18B65, "3CHARACTER-18B65;3CHARACTER-18B66;3CHARACTER-18B67;3CHARACTER-18B68"),
    (0x18B69, "3CHARACTER-18B69;3CHARACTER-18B6A;3CHARACTER-18B6B;3CHARACTER-18B6C"),
    (0x18B6D, "3CHARACTER-18B6D;3CHARACTER-18B6E;3CHARACTER-18B6F;3CHARACTER-18B70"),
    (0x18B71, "3CHARACTER-18B71;3CHARACTER-18B72;3CHARACTER-18B73;3CHARACTER-18B74"),
    (0x18B75, "3CHARACTER-18B75;3CHARACTER-18B76;3CHARACTER-18B77;3CHARACTER-18B78"),
    (0x18B79, "3CHARACTER-18B79;3CHARACTER-18B7A;3CHARACTER-18B7B;3CHARACTER-18B7C"),
    (0x18B7D, "3CHARACTER-18B7D;3CHARACTER-18B7E;3CHARACTER-18B7F;3CHARACTER-18B80"),
    (0x18B81, "3CHARACTER-18B81;3CHARACTER-18B82;3CHARACTER-18B83;3CHARACTER-18B84"),
    (0x18B85, "3CHARACTER-18B85;3CHARACTER-18B86;3CHARACTER-18B87;3CHARACTER-18B88"),
    (0x18B89, "3CHARACTER-18B89;3CHARACTER-18B8A;3CHARACTER-18B8B;3CHARACTER-18B8C"),
    (0x18B8D, "3CHARACTER-18B8D;3CHARACTER-18B8E;3CHARACTER-18B8F;3CHARACTER-18B90"),
    (0x18B91, "3CHARACTER-18B91;3CHARACTER-18B92;3CHARACTER-18B93;3CHARACTER-18B94"),
    (0x18B95, "3CHARACTER-18B95;3CHARACTER-18B96;3CHARACTER-18B97;3CHARACTER-18B98"),
    (0x18B99, "3CHARACTER-18B99;3CHARACTER-18B9A;3CHARACTER-18B9B;3CHARACTER-18B9C"),
    (0x18B9D, "3CHARACTER-18B9D;3CHARACTER-18B9E;3CHARACTER-18B9F;3CHARACTER-18BA0"),
    (0x18BA1, "3CHARACTER-18BA1;3CHARACTER-18BA2;3CHARACTER-18BA3;3CHARACTER-18BA4"),
    (0x18BA5, "3CHARACTER-18BA5;3CHARACTER-18BA6;3CHARACTER-18BA7;3CHARACTER-18BA8"),
    (0x18BA9, "3CHARACTER-18BA9;3CHARACTER-18BAA;3CHARACTER-18BAB;3CHARACTER-18BAC"),
    (0x18BAD, "3CHARACTER-18BAD;3CHARACTER-18BAE;3CHARACTER-18BAF;3CHARACTER-18BB0"),
    (0x18BB1, "3CHARACTER-18BB1;3CHARACTER-18BB2;3CHARACTER-18BB3;3CHARACTER-18BB4"),
    (0x18BB5, "3CHARACTER-18BB5;3CHARACTER-18BB6;3CHARACTER-18BB7;3CHARACTER-18BB8"),
    (0x18BB9, "3CHARACTER-18BB9;3CHARACTER-18BBA;3CHARACTER-18BBB;3CHARACTER-18BBC"),
    (0x18BBD, "3CHARACTER-18BBD;3CHARACTER-18BBE;3CHARACTER-18BBF;3CHARACTER-18BC0"),
    (0x18BC1, "3CHARACTER-18BC1;3CHARACTER-18BC2;3CHARACTER-18BC3;3CHARACTER-18BC4"),
    (0x18BC5, "3CHARACTER-18BC5;3CHARACTER-18BC6;3CHARACTER-18BC7;3CHARACTER-18BC8"),
    (0x18BC9, "3CHARACTER-18BC9;3CHARACTER-18BCA;3CHARACTER-18BCB;3CHARACTER-18BCC"),
    (0x18BCD, "3CHARACTER-18BCD;3CHARACTER-18BCE;3CHARACTER-18BCF;3CHARACTER-18BD0"),
    (0x18BD1, "3CHARACTER-18BD1;3CHARACTER-18BD2;3CHARACTER-18BD3;3CHARACTER-18BD4"),
    (0x18BD5, "3CHARACTER-18BD5;3CHARACTER-18BD6;3CHARACTER-18BD7;3CHARACTER-18BD8"),
    (0x18BD9, "3CHARACTER-18BD9;3CHARACTER-18BDA;3CHARACTER-18BDB;3CHARACTER-18BDC"),
    (0x18BDD, "3CHARACTER-18BDD;3CHARACTER-18BDE;3CHARACTER-18BDF;3CHARACTER-18BE0"),
    (0x18BE1, "3CHARACTER-18BE1;3CHARACTER-18BE2;3CHARACTER-18BE3;3CHARACTER-18BE4"),
    (0x18BE5, "3CHARACTER-18BE5;3CHARACTER-18BE6;3CHARACTER-18BE7;3CHARACTER-18BE8"),
    (0x18BE9, "3CHARACTER-18BE9;3CHARACTER-18BEA;3CHARACTER-18BEB;3CHARACTER-18BEC"),
    (0x18BED, "3CHARACTER-18BED;3CHARACTER-18BEE;3CHARACTER-18BEF;3CHARACTER-18BF0"),
    (0x18BF1, "3CHARACTER-18BF1;3CHARACTER-18BF2;3CHARACTER-18BF3;3CHARACTER-18BF4"),
    (0x18BF5, "3CHARACTER-18BF5;3CHARACTER-18BF6;3CHARACTER-18BF7;3CHARACTER-18BF8"),
    (0x18BF9, "3CHARACTER-18BF9;3CHARACTER-18BFA;3CHARACTER-18BFB;3CHARACTER-18BFC"),
    (0x18BFD, "3CHARACTER-18BFD;3CHARACTER-18BFE;3CHARACTER-18BFF;3CHARACTER-18C00"),
    (0x18C01, "3CHARACTER-18C01;3CHARACTER-18C02;3CHARACTER-18C03;3CHARACTER-18C04"),
    (0x18C05, "3CHARACTER-18C05;3CHARACTER-18C06;3CHARACTER-18C07;3CHARACTER-18C08"),
    (0x18C09, "3CHARACTER-18C09;3CHARACTER-18C0A;3CHARACTER-18C0B;3CHARACTER-18C0C"),
    (0x18C0D, "3CHARACTER-18C0D;3CHARACTER-18C0E;3CHARACTER-18C0F;3CHARACTER-18C10"),
    (0x18C11, "3CHARACTER-18C11;3CHARACTER-18C12;3CHARACTER-18C13;3CHARACTER-18C14"),
    (0x18C15, "3CHARACTER-18C15;3CHARACTER-18C16;3CHARACTER-18C17;3CHARACTER-18C18"),
    (0x18C19, "3CHARACTER-18C19;3CHARACTER-18C1A;3CHARACTER-18C1B;3CHARACTER-18C1C"),
    (0x18C1D, "3CHARACTER-18C1D;3CHARACTER-18C1E;3CHARACTER-18C1F;3CHARACTER-18C20"),
    (0x18C21, "3CHARACTER-18C21;3CHARACTER-18C22;3CHARACTER-18C23;3CHARACTER-18C24"),
    (0x18C25, "3CHARACTER-18C25;3CHARACTER-18C26;3CHARACTER-18C27;3CHARACTER-18C28"),
    (0x18C29, "3CHARACTER-18C29;3CHARACTER-18C2A;3CHARACTER-18C2B;3CHARACTER-18C2C"),
    (0x18C2D, "3CHARACTER-18C2D;3CHARACTER-18C2E;3CHARACTER-18C2F;3CHARACTER-18C30"),
    (0x18C31, "3CHARACTER-18C31;3CHARACTER-18C32;3CHARACTER-18C33;3CHARACTER-18C34"),
    (0x18C35, "3CHARACTER-18C35;3CHARACTER-18C36;3CHARACTER-18C37;3CHARACTER-18C38"),
    (0x18C39, "3CHARACTER-18C39;3CHARACTER-18C3A;3CHARACTER-18C3B;3CHARACTER-18C3C"),
    (0x18C3D, "3CHARACTER-18C3D;3CHARACTER-18C3E;3CHARACTER-18C3F;3CHARACTER-18C40"),
    (0x18C41, "3CHARACTER-18C41;3CHARACTER-18C42;3CHARACTER-18C43;3CHARACTER-18C44"),
    (0x18C45, "3CHARACTER-18C45;3CHARACTER-18C46;3CHARACTER-18C47;3CHARACTER-18C48"),
    (0x18C49, "3CHARACTER-18C49;3CHARACTER-18C4A;3CHARACTER-18C4B;3CHARACTER-18C4C"),
    (0x18C4D, "3CHARACTER-18C4D;3CHARACTER-18C4E;3CHARACTER-18C4F;3CHARACTER-18C50"),
    (0x18C51, "3CHARACTER-18C51;3CHARACTER-18C52;3CHARACTER-18C53;3CHARACTER-18C54"),
    (0x18C55, "3CHARACTER-18C55;3CHARACTER-18C56;3CHARACTER-18C57;3CHARACTER-18C58"),
    (0x18C59, "3CHARACTER-18C59;3CHARACTER-18C5A;3CHARACTER-18C5B;3CHARACTER-18C5C"),
    (0x18C5D, "3CHARACTER-18C5D;3CHARACTER-18C5E;3CHARACTER-18C5F;3CHARACTER-18C60"),
    (0x18C61, "3CHARACTER-18C61;3CHARACTER-18C62;3CHARACTER-18C63;3CHARACTER-18C64"),
    (0x18C65, "3CHARACTER-18C65;3CHARACTER-18C66;3CHARACTER-18C67;3CHARACTER-18C68"),
    (0x18C69, "3CHARACTER-18C69;3CHARACTER-18C6A;3CHARACTER-18C6B;3CHARACTER-18C6C"),
    (0x18C6D, "3CHARACTER-18C6D;3CHARACTER-18C6E;3CHARACTER-18C6F;3CHARACTER-18C70"),
    (0x18C71, "3CHARACTER-18C71;3CHARACTER-18C72;3CHARACTER-18C73;3CHARACTER-18C74"),
    (0x18C75, "3CHARACTER-18C75;3CHARACTER-18C76;3CHARACTER-18C77;3CHARACTER-18C78"),
    (0x18C79, "3CHARACTER-18C79;3CHARACTER-18C7A;3CHARACTER-18C7B;3CHARACTER-18C7C"),
    (0x18C7D, "3CHARACTER-18C7D;3CHARACTER-18C7E;3CHARACTER-18C7F;3CHARACTER-18C80"),
    (0x18C81, "3CHARACTER-18C81;3CHARACTER-18C82;3CHARACTER-18C83;3CHARACTER-18C84"),
    (0x18C85, "3CHARACTER-18C85;3CHARACTER-18C86;3CHARACTER-18C87;3CHARACTER-18C88"),
    (0x18C89, "3CHARACTER-18C89;3CHARACTER-18C8A;3CHARACTER-18C8B;3CHARACTER-18C8C"),
    (0x18C8D, "3CHARACTER-18C8D;3CHARACTER-18C8E;3CHARACTER-18C8F;3CHARACTER-18C90"),
    (0x18C91, "3CHARACTER-18C91;3CHARACTER-18C92;3CHARACTER-18C93;3CHARACTER-18C94"),
    (0x18C95, "3CHARACTER-18C95;3CHARACTER-18C96;3CHARACTER-18C97;3CHARACTER-18C98"),
    (0x18C99, "3CHARACTER-18C99;3CHARACTER-18C9A;3CHARACTER-18C9B;3CHARACTER-18C9C"),
    (0x18C9D, "3CHARACTER-18C9D;3CHARACTER-18C9E;3CHARACTER-18C9F;3CHARACTER-18CA0"),
    (0x18CA1, "3CHARACTER-18CA1;3CHARACTER-18CA2;3CHARACTER-18CA3;3CHARACTER-18CA4"),
    (0x18CA5, "3CHARACTER-18CA5;3CHARACTER-18CA6;3CHARACTER-18CA7;3CHARACTER-18CA8"),
    (0x18CA9, "3CHARACTER-18CA9;3CHARACTER-18CAA;3CHARACTER-18CAB;3CHARACTER-18CAC"),
    (0x18CAD, "3CHARACTER-18CAD;3CHARACTER-18CAE;3CHARACTER-18CAF;3CHARACTER-18CB0"),
    (0x18CB1, "3CHARACTER-18CB1;3CHARACTER-18CB2;3CHARACTER-18CB3;3CHARACTER-18CB4"),
    (0x18CB5, "3CHARACTER-18CB5;3CHARACTER-18CB6;3CHARACTER-18CB7;3CHARACTER-18CB8"),
    (0x18CB9, "3CHARACTER-18CB9;3CHARACTER-18CBA;3CHARACTER-18CBB;3CHARACTER-18CBC"),
    (0x18CBD, "3CHARACTER-18CBD;3CHARACTER-18CBE;3CHARACTER-18CBF;3CHARACTER-18CC0"),
    (0x18CC1, "3CHARACTER-18CC1;3CHARACTER-18CC2;3CHARACTER-18CC3;3CHARACTER-18CC4"),
    (0x18CC5, "3CHARACTER-18CC5;3CHARACTER-18CC6;3CHARACTER-18CC7;3CHARACTER-18CC8"),
    (0x18CC9, "3CHARACTER-18CC9;3CHARACTER-18CCA;3CHARACTER-18CCB;3CHARACTER-18CCC"),
    (0x18CCD, "3CHARACTER-18CCD;3CHARACTER-18CCE;3CHARACTER-18CCF;3CHARACTER-18CD0"),
    (0x18CD1, "3CHARACTER-18CD1;3CHARACTER-18CD2;3CHARACTER-18CD3;3CHARACTER-18CD4"),
    (0x18CD5, "3CHARACTER-18CD5"),
    (0x1AFF0, "0KATAKANA LETTER MINNAN TONE-2;3TONE-3;3TONE-4;3TONE-5"),
    (0x1AFF5, "3TONE-7;3TONE-8;3NASALIZED TONE-1;4TONE-2;4TONE-3;4TONE-4;4TONE-5"),
    (0x1AFFD, "4TONE-7;4TONE-8"),
    (0x1B000, "2ARCHAIC E;0HIRAGANA LETTER ARCHAIC YE;0HENTAIGANA LETTER A-1;2A-2;2A-3;2A-WO;2I-1"),
    (0x1B007, "2I-2;2I-3;2I-4;2U-1;2U-2;2U-3;2U-4;2U-5;2E-2;2E-3;2E-4;2E-5;2E-6;2O-1;2O-2;2O-3"),
    (0x1B017, "2KA-1;2KA-2;2KA-3;2KA-4;2KA-5;2KA-6;2KA-7;2KA-8;2KA-9;2KA-10;2KA-11;2KA-KE;2KI-1"),
    (0x1B024, "2KI-2;2KI-3;2KI-4;2KI-5;2KI-6;2KI-7;2KI-8;2KU-1;2KU-2;2KU-3;2KU-4;2KU-5;2KU-6"),
    (0x1B031, "2KU-7;2KE-1;2KE-2;2KE-3;2KE-4;2KE-5;2KE-6;2KO-1;2KO-2;2KO-3;2KO-KI;2SA-1;2SA-2"),
    (0x1B03E, "2SA-3;2SA-4;2SA-5;2SA-6;2SA-7;2SA-8;2SI-1;2SI-2;2SI-3;2SI-4;2SI-5;2SI-6;2SU-1"),
    (0x1B04B, "2SU-2;2SU-3;2SU-4;2SU-5;2SU-6;2SU-7;2SU-8;2SE-1;2SE-2;2SE-3;2SE-4;2SE-5;2SO-1"),
    (0x1B058, "2SO-2;2SO-3;2SO-4;2SO-5;2SO-6;2SO-7;2TA-1;2TA-2;2TA-3;2TA-4;2TI-1;2TI-2;2TI-3"),
    (0x1B065, "2TI-4;2TI-5;2TI-6;2TI-7;2TU-1;2TU-2;2TU-3;2TU-4;2TU-TO;2TE-1;2TE-2;2TE-3;2TE-4"),
    (0x1B072, "2TE-5;2TE-6;2TE-7;2TE-8;2TE-9;2TO-1;2TO-2;2TO-3;2TO-4;2TO-5;2TO-6;2TO-RA;2NA-1"),
    (0x1B07F, "2NA-2;2NA-3;2NA-4;2NA-5;2NA-6;2NA-7;2NA-8;2NA-9;2NI-1;2NI-2;2NI-3;2NI-4;2NI-5"),
    (0x1B08C, "2NI-6;2NI-7;2NI-TE;2NU-1;2NU-2;2NU-3;2NE-1;2NE-2;2NE-3;2NE-4;2NE-5;2NE-6;2NE-KO"),
    (0x1B099, "2NO-1;2NO-2;2NO-3;2NO-4;2NO-5;2HA-1;2HA-2;2HA-3;2HA-4;2HA-5;2HA-6;2HA-7;2HA-8"),
    (0x1B0A6, "2HA-9;2HA-10;2HA-11;2HI-1;2HI-2;2HI-3;2HI-4;2HI-5;2HI-6;2HI-7;2HU-1;2HU-2;2HU-3"),
    (0x1B0B3, "2HE-1;2HE-2;2HE-3;2HE-4;2HE-5;2HE-6;2HE-7;2HO-1;2HO-2;2HO-3;2HO-4;2HO-5;2HO-6"),
    (0x1B0C0, "2HO-7;2HO-8;2MA-1;2MA-2;2MA-3;2MA-4;2MA-5;2MA-6;2MA-7;2MI-1;2MI-2;2MI-3;2MI-4"),
    (0x1B0CD, "2MI-5;2MI-6;2MI-7;2MU-1;2MU-2;2MU-3;2MU-4;2ME-1;2ME-2;2ME-MA;2MO-1;2MO-2;2MO-3"),
    (0x1B0DA, "2MO-4;2MO-5;2MO-6;2YA-1;2YA-2;2YA-3;2YA-4;2YA-5;2YA-YO;2YU-1;2YU-2;2YU-3;2YU-4"),
    (0x1B0E7, "2YO-1;2YO-2;2YO-3;2YO-4;2YO-5;2YO-6;2RA-1;2RA-2;2RA-3;2RA-4;2RI-1;2RI-2;2RI-3"),
    (0x1B0F4, "2RI-4;2RI-5;2RI-6;2RI-7;2RU-1;2RU-2;2RU-3;2RU-4;2RU-5;2RU-6;2RE-1;2RE-2;2RE-3"),
    (0x1B101, "2RE-4;2RO-1;2RO-2;2RO-3;2RO-4;2RO-5;2RO-6;2WA-1;2WA-2;2WA-3;2WA-4;2WA-5;2WI-1"),
    (0x1B10E, "2WI-2;2WI-3;2WI-4;2WI-5;2WE-1;2WE-2;2WE-3;2WE-4;2WO-1;2WO-2;2WO-3;2WO-4;2WO-5"),
    (0x1B11B, "2WO-6;2WO-7;2N-MU-MO-1;2N-MU-MO-2;0HIRAGANA LETTER ARCHAIC WU"),
    (0x1B120, "0KATAKANA LETTER ARCHAIC YI;3YE;3WU"),
    (0x1B150, "0HIRAGANA LETTER SMALL WI;3WE;3WO"),
    (0x1B164, "0KATAKANA LETTER SMALL WI;3WE;3WO;3N"),
    (0x1B170, "0NUSHU CHARACTER-1B170;1CHARACTER-1B171;1CHARACTER-1B172;1CHARACTER-1B173"),
    (0x1B174, "1CHARACTER-1B174;1CHARACTER-1B175;1CHARACTER-1B176;1CHARACTER-1B177"),
    (0x1B178, "1CHARACTER-1B178;1CHARACTER-1B179;1CHARACTER-1B17A;1CHARACTER-1B17B"),
    (0x1B17C, "1CHARACTER-1B17C;1CHARACTER-1B17D;1CHARACTER-1B17E;1CHARACTER-1B17F"),
    (0x1B180, "1CHARACTER-1B180;1CHARACTER-1B181;1CHARACTER-1B182;1CHARACTER-1B183"),
    (0x1B184, "1CHARACTER-1B184;1CHARACTER-1B185;1CHARACTER-1B186;1CHARACTER-1B187"),
    (0x1B188, "1CHARACTER-1B188;1CHARACTER-1B189;1CHARACTER-1B18A;1CHARACTER-1B18B"),
    (0x1B18C, "1CHARACTER-1B18C;1CHARACTER-1B18D;1CHARACTER-1B18E;1CHARACTER-1B18F"),
    (0x1B190, "1CHARACTER-1B190;1CHARACTER-1B191;1CHARACTER-1B192;1CHARACTER-1B193"),
    (0x1B194, "1CHARACTER-1B194;1CHARACTER-1B195;1CHARACTER-1B196;1CHARACTER-1B197"),
    (0x1B198, "1CHARACTER-1B198;1CHARACTER-1B199;1CHARACTER-1B19A;1CHARACTER-1B19B"),
    (0x1B19C, "1CHARACTER-1B19C;1CHARACTER-1B19D;1CHARACTER-1B19E;1CHARACTER-1B19F"),
    (0x1B1A0, "1CHARACTER-1B1A0;1CHARACTER-1B1A1;1CHARACTER-1B1A2;1CHARACTER-1B1A3"),
    (0x1B1A4, "1CHARACTER-1B1A4;1CHARACTER-1B1A5;1CHARACTER-1B1A6;1CHARACTER-1B1A7"),
    (0x1B1A8, "1CHARACTER-1B1A8;1CHARACTER-1B1A9;1CHARACTER-1B1AA;1CHARACTER-1B1AB"),
    (0x1B1AC, "1CHARACTER-1B1AC;1CHARACTER-1B1AD;1CHARACTER-1B1AE;1CHARACTER-1B1AF"),
    (0x1B1B0, "1CHARACTER-1B1B0;1CHARACTER-1B1B1;1CHARACTER-1B1B2;1CHARACTER-1B1B3"),
    (0x1B1B4, "1CHARACTER-1B1B4;1CHARACTER-1B1B5;1CHARACTER-1B1B6;1CHARACTER-1B1B7"),
    (0x1B1B8, "1CHARACTER-1B1B8;1CHARACTER-1B1B9;1CHARACTER-1B1BA;1CHARACTER-1B1BB"),
    (0x1B1BC, "1CHARACTER-1B1BC;1CHARACTER-1B1BD;1CHARACTER-1B1BE;1CHARACTER-1B1BF"),
    (0x1B1C0, "1CHARACTER-1B1C0;1CHARACTER-1B1C1;1CHARACTER-1B1C2;1CHARACTER-1B1C3"),
    (0x1B1C4, "1CHARACTER-1B1C4;1CHARACTER-1B1C5;1CHARACTER-1B1C6;1CHARACTER-1B1C7"),
    (0x1B1C8, "1CHARACTER-1B1C8;1CHARACTER-1B1C9;1CHARACTER-1B1CA;1CHARACTER-1B1CB"),
    (0x1B1CC, "1CHARACTER-1B1CC;1CHARACTER-1B1CD;1CHARACTER-1B1CE;1CHARACTER-1B1CF"),
    (0x1B1D0, "1CHARACTER-1B1D0;1CHARACTER-1B1D1;1CHARACTER-1B1D2;1CHARACTER-1B1D3"),
    (0x1B1D4, "1CHARACTER-1B1D4;1CHARACTER-1B1D5;1CHARACTER-1B1D6;1CHARACTER-1B1D7"),
    (0x1B1D8, "1CHARACTER-1B1D8;1CHARACTER-1B1D9;1CHARACTER-1B1DA;1CHARACTER-1B1DB"),
    (0x1B1DC, "1CHARACTER-1B1DC;1CHARACTER-1B1DD;1CHARACTER-1B1DE;1CHARACTER-1B1DF"),
    (0x1B1E0, "1CHARACTER-1B1E0;1CHARACTER-1B1E1;1CHARACTER-1B1E2;1CHARACTER-1B1E3"),
    (0x1B1E4, "1CHARACTER-1B1E4;1CHARACTER-1B1E5;1CHARACTER-1B1E6;1CHARACTER-1B1E7"),
    (0x1B1E8, "1CHARACTER-1B1E8;1CHARACTER-1B1E9;1CHARACTER-1B1EA;1CHARACTER-1B1EB"),
    (0x1B1EC, "1CHARACTER-1B1EC;1CHARACTER-1B1ED;1CHARACTER-1B1EE;1CHARACTER-1B1EF"),
    (0x1B1F0, "1CHARACTER-1B1F0;1CHARACTER-1B1F1;1CHARACTER-1B1F2;1CHARACTER-1B1F3"),
    (0x1B1F4, "1CHARACTER-1B1F4;1CHARACTER-1B1F5;1CHARACTER-1B1F6;1CHARACTER-1B1F7"),
    (0x1B1F8, "1CHARACTER-1B1F8;1CHARACTER-1B1F9;1CHARACTER-1B1FA;1CHARACTER-1B1FB"),
    (0x1B1FC, "1CHARACTER-1B1FC;1CHARACTER-1B1FD;1CHARACTER-1B1FE;1CHARACTER-1B1FF"),
    (0x1B200, "1CHARACTER-1B200;1CHARACTER-1B201;1CHARACTER-1B202;1CHARACTER-1B203"),
    (0x1B204, "1CHARACTER-1B204;1CHARACTER-1B205;1CHARACTER-1B206;1CHARACTER-1B207"),
    (0x1B208, "1CHARACTER-1B208;1CHARACTER-1B209;1CHARACTER-1B20A;1CHARACTER-1B20B"),
    (0x1B20C, "1CHARACTER-1B20C;1CHARACTER-1B20D;1CHARACTER-1B20E;1CHARACTER-1B20F"),
    (0x1B210, "1CHARACTER-1B210;1CHARACTER-1B211;1CHARACTER-1B212;1CHARACTER-1B213"),
    (0x1B214, "1CHARACTER-1B214;1CHARACTER-1B215;1CHARACTER-1B216;1CHARACTER-1B217"),
    (0x1B218, "1CHARACTER-1B218;1CHARACTER-1B219;1CHARACTER-1B21A;1CHARACTER-1B21B"),
    (0x1B21C, "1CHARACTER-1B21C;1CHARACTER-1B21D;1CHARACTER-1B21E;1CHARACTER-1B21F"),
    (0x1B220, "1CHARACTER-1B220;1CHARACTER-1B221;1CHARACTER-1B222;1CHARACTER-1B223"),
    (0x1B224, "1CHARACTER-1B224;1CHARACTER-1B225;1CHARACTER-1B226;1CHARACTER-1B227"),
    (0x1B228, "1CHARACTER-1B228;1CHARACTER-1B229;1CHARACTER-1B22A;1CHARACTER-1B22B"),
    (0x1B22C, "1CHARACTER-1B22C;1CHARACTER-1B22D;1CHARACTER-1B22E;1CHARACTER-1B22F"),
    (0x1B230, "1CHARACTER-1B230;1CHARACTER-1B231;1CHARACTER-1B232;1CHARACTER-1B233"),
    (0x1B234, "1CHARACTER-1B234;1CHARACTER-1B235;1CHARACTER-1B236;1CHARACTER-1B237"),
    (0x1B238, "1CHARACTER-1B238;1CHARACTER-1B239;1CHARACTER-1B23A;1CHARACTER-1B23B"),
    (0x1B23C, "1CHARACTER-1B23C;1CHARACTER-1B23D;1CHARACTER-1B23E;1CHARACTER-1B23F"),
    (0x1B240, "1CHARACTER-1B240;1CHARACTER-1B241;1CHARACTER-1B242;1CHARACTER-1B243"),
    (0x1B244, "1CHARACTER-1B244;1CHARACTER-1B245;1CHARACTER-1B246;1CHARACTER-1B247"),
    (0x1B248, "1CHARACTER-1B248;1CHARACTER-1B249;1CHARACTER-1B24A;1CHARACTER-1B24B"),
    (0x1B24C, "1CHARACTER-1B24C;1CHARACTER-1B24D;1CHARACTER-1B24E;1CHARACTER-1B24F"),
    (0x1B250, "1CHARACTER-1B250;1CHARACTER-1B251;1CHARACTER-1B252;1CHARACTER-1B253"),
    (0x1B254, "1CHARACTER-1B254;1CHARACTER-1B255;1CHARACTER-1B256;1CHARACTER-1B257"),
    (0x1B258, "1CHARACTER-1B258;1CHARACTER-1B259;1CHARACTER-1B25A;1CHARACTER-1B25B"),
    (0x1B25C, "1CHARACTER-1B25C;1CHARACTER-1B25D;1CHARACTER-1B25E;1CHARACTER-1B25F"),
    (0x1B260, "1CHARACTER-1B260;1CHARACTER-1B261;1CHARACTER-1B262;1CHARACTER-1B263"),
    (0x1B264, "1CHARACTER-1B264;1CHARACTER-1B265;1CHARACTER-1B266;1CHARACTER-1B267"),
    (0x1B268, "1CHARACTER-1B268;1CHARACTER-1B269;1CHARACTER-1B26A;1CHARACTER-1B26B"),
    (0x1B26C, "1CHARACTER-1B26C;1CHARACTER-1B26D;1CHARACTER-1B26E;1CHARACTER-1B26F"),
    (0x1B270, "1CHARACTER-1B270;1CHARACTER-1B271;1CHARACTER-1B272;1CHARACTER-1B273"),
    (0x1B274, "1CHARACTER-1B274;1CHARACTER-1B275;1CHARACTER-1B276;1CHARACTER-1B277"),
    (0x1B278, "1CHARACTER-1B278;1CHARACTER-1B279;1CHARACTER-1B27A;1CHARACTER-1B27B"),
    (0x1B27C, "1CHARACTER-1B27C;1CHARACTER-1B27D;1CHARACTER-1B27E;1CHARACTER-1B27F"),
    (0x1B280, "1CHARACTER-1B280;1CHARACTER-1B281;1CHARACTER-1B282;1CHARACTER-1B283"),
    (0x1B284, "1CHARACTER-1B284;1CHARACTER-1B285;1CHARACTER-1B286;1CHARACTER-1B287"),
    (0x1B288, "1CHARACTER-1B288;1CHARACTER-1B289;1CHARACTER-1B28A;1CHARACTER-1B28B"),
    (0x1B28C, "1CHARACTER-1B28C;1CHARACTER-1B28D;1CHARACTER-1B28E;1CHARACTER-1B28F"),
    (0x1B290, "1CHARACTER-1B290;1CHARACTER-1B291;1CHARACTER-1B292;1CHARACTER-1B293"),
    (0x1B294, "1CHARACTER-1B294;1CHARACTER-1B295;1CHARACTER-1B296;1CHARACTER-1B297"),
    (0x1B298, "1CHARACTER-1B298;1CHARACTER-1B299;1CHARACTER-1B29A;1CHARACTER-1B29B"),
    (0x1B29C, "1CHARACTER-1B29C;1CHARACTER-1B29D;1CHARACTER-1B29E;1CHARACTER-1B29F"),
    (0x1B2A0, "1CHARACTER-1B2A0;1CHARACTER-1B2A1;1CHARACTER-1B2A2;1CHARACTER-1B2A3"),
    (0x1B2A4, "1CHARACTER-1B2A4;1CHARACTER-1B2A5;1CHARACTER-1B2A6;1CHARACTER-1B2A7"),
    (0x1B2A8, "1CHARACTER-1B2A8;1CHARACTER-1B2A9;1CHARACTER-1B2AA;1CHARACTER-1B2AB"),
    (0x1B2AC, "1CHARACTER-1B2AC;1CHARACTER-1B2AD;1CHARACTER-1B2AE;1CHARACTER-1B2AF"),
    (0x1B2B0, "1CHARACTER-1B2B0;1CHARACTER-1B2B1;1CHARACTER-1B2B2;1CHARACTER-1B2B3"),
    (0x1B2B4, "1CHARACTER-1B2B4;1CHARACTER-1B2B5;1CHARACTER-1B2B6;1CHARACTER-1B2B7"),
    (0x1B2B8, "1CHARACTER-1B2B8;1CHARACTER-1B2B9;1CHARACTER-1B2BA;1CHARACTER-1B2BB"),
    (0x1B2BC, "1CHARACTER-1B2BC;1CHARACTER-1B2BD;1CHARACTER-1B2BE;1CHARACTER-1B2BF"),
    (0x1B2C0, "1CHARACTER-1B2C0;1CHARACTER-1B2C1;1CHARACTER-1B2C2;1CHARACTER-1B2C3"),
    (0x1B2C4, "1CHARACTER-1B2C4;1CHARACTER-1B2C5;1CHARACTER-1B2C6;1CHARACTER-1B2C7"),
    (0x1B2C8, "1CHARACTER-1B2C8;1CHARACTER-1B2C9;1CHARACTER-1B2CA;1CHARACTER-1B2CB"),
    (0x1B2CC, "1CHARACTER-1B2CC;1CHARACTER-1B2CD;1CHARACTER-1B2CE;1CHARACTER-1B2CF"),
    (0x1B2D0, "1CHARACTER-1B2D0;1CHARACTER-1B2D1;1CHARACTER-1B2D2;1CHARACTER-1B2D3"),
    (0x1B2D4, "1CHARACTER-1B2D4;1CHARACTER-1B2D5;1CHARACTER-1B2D6;1CHARACTER-1B2D7"),
    (0x1B2D8, "1CHARACTER-1B2D8;1CHARACTER-1B2D9;1CHARACTER-1B2DA;1CHARACTER-1B2DB"),
    (0x1B2DC, "1CHARACTER-1B2DC;1CHARACTER-1B2DD;1CHARACTER-1B2DE;1CHARACTER-1B2DF"),
    (0x1B2E0, "1CHARACTER-1B2E0;1CHARACTER-1B2E1;1CHARACTER-1B2E2;1CHARACTER-1B2E3"),
    (0x1B2E4, "1CHARACTER-1B2E4;1CHARACTER-1B2E5;1CHARACTER-1B2E6;1CHARACTER-1B2E7"),
    (0x1B2E8, "1CHARACTER-1B2E8;1CHARACTER-1B2E9;1CHARACTER-1B2EA;1CHARACTER-1B2EB"),
    (0x1B2EC, "1CHARACTER-1B2EC;1CHARACTER-1B2ED;1CHARACTER-1B2EE;1CHARACTER-1B2EF"),
    (0x1B2F0, "1CHARACTER-1B2F0;1CHARACTER-1B2F1;1CHARACTER-1B2F2;1CHARACTER-1B2F3"),
    (0x1B2F4, "1CHARACTER-1B2F4;1CHARACTER-1B2F5;1CHARACTER-1B2F6;1CHARACTER-1B2F7"),
    (0x1B2F8, "1CHARACTER-1B2F8;1CHARACTER-1B2F9;1CHARACTER-1B2FA;1CHARACTER-1B2FB"),
    (0x1BC00, "0DUPLOYAN LETTER H;2X;2P;2T;2F;2K;2L;2B;2D;2V;2G;2R;2P N;2D S;2F N;2K M;2R S;2TH"),
    (0x1BC12, "2SLOAN DH;2DH;2KK;2SLOAN J;2HL;2LH;2RH;2M;2N;2J;2S;2M N;2N M;2J M;2S J;2M WITH DOT"),
    (0x1BC22, "2N WITH DOT;2J WITH DOT;4DOTS INSIDE AND ABOVE;2S WITH DOT;5BELOW;2M S;2N S;2J S"),
    (0x1BC2A, "2S S;2M N S;2N M S;2J M S;2S J S;2J S WITH DOT;3N;4S;2S T;4R;3P;4R;2T S;3R S;2W"),
    (0x1BC39, "2WH;2W R;2S N;3M;2K R S;2G R S;2S K;4R;2A;2SLOAN OW;2OA;2O;2AOU;2I;2E;2IE;2SHORT I"),
    (0x1BC4A, "2UI;2EE;2SLOAN EH;2ROMANIAN I;2SLOAN EE;2LONG I;2YE;2U;2EU;2XW;2U N;2LONG U"),
    (0x1BC56, "2ROMANIAN U;2UH;2SLOAN U;2OOH;2OW;2OU;2WA;2WO;2WI;2WEI;2WOW;2NASAL U;3O;3I;3A"),
    (0x1BC65, "2PERNIN AN;3AM;2SLOAN EN;3AN;3ON;2VOCALIC M"),
    (0x1BC70, "1AFFIX LEFT HORIZONTAL SECANT;2MID HORIZONTAL SECANT;2RIGHT HORIZONTAL SECANT"),
    (0x1BC73, "2LOW VERTICAL SECANT;2MID VERTICAL SECANT;2HIGH VERTICAL SECANT;2ATTACHED SECANT"),
    (0x1BC77, "3LEFT-TO-RIGHT SECANT;3TANGENT;3TAIL;3E HOOK;3I HOOK;3TANGENT HOOK"),
    (0x1BC80, "2HIGH ACUTE;3TIGHT ACUTE;3GRAVE;3LONG GRAVE;3DOT;3CIRCLE;3LINE;3WAVE;3VERTICAL"),
    (0x1BC90, "2LOW ACUTE;3TIGHT ACUTE;3GRAVE;3LONG GRAVE;3DOT;3CIRCLE;3LINE;3WAVE;3VERTICAL"),
    (0x1BC99, "3ARROW"),
    (0x1BC9C, "1SIGN O WITH CROSS;1THICK LETTER SELECTOR;1DOUBLE MARK"),
    (0x1BC9F, "1PUNCTUATION CHINOOK FULL STOP;0SHORTHAND FORMAT LETTER OVERLAP"),
    (0x1BCA1, "2CONTINUING OVERLAP;2DOWN STEP;2UP STEP"),
    (0x1CF00, "0ZNAMENNY COMBINING MARK GORAZDO NIZKO S KRYZHEM ON LEFT;3NIZKO S KRYZHEM ON LEFT"),
    (0x1CF02, "3TSATA ON LEFT;3GORAZDO NIZKO ON LEFT;3NIZKO ON LEFT;3SREDNE ON LEFT"),
    (0x1CF06, "3MALO POVYSHE ON LEFT;3POVYSHE ON LEFT;3VYSOKO ON LEFT"),
    (0x1CF09, "3MALO POVYSHE S KHOKHLOM ON LEFT;3POVYSHE S KHOKHLOM ON LEFT"),
    (0x1CF0B, "3VYSOKO S KHOKHLOM ON LEFT;3GORAZDO NIZKO S KRYZHEM ON RIGHT"),
    (0x1CF0D, "3NIZKO S KRYZHEM ON RIGHT;3TSATA ON RIGHT;3GORAZDO NIZKO ON RIGHT;3NIZKO ON RIGHT"),
    (0x1CF11, "3SREDNE ON RIGHT;3MALO POVYSHE ON RIGHT;3POVYSHE ON RIGHT;3VYSOKO ON RIGHT"),
    (0x1CF15, "3MALO POVYSHE S KHOKHLOM ON RIGHT;3POVYSHE S KHOKHLOM ON RIGHT"),
    (0x1CF17, "3VYSOKO S KHOKHLOM ON RIGHT;3TSATA S KRYZHEM;3MALO POVYSHE S KRYZHEM"),
    (0x1CF1A, "3STRANNO MALO POVYSHE;3POVYSHE S KRYZHEM;4STRANNO;3VYSOKO S KRYZHEM"),
    (0x1CF1E, "3MALO POVYSHE STRANNO;3GORAZDO VYSOKO;3ZELO;3ON;3RAVNO;3TIKHAYA;3BORZAYA;3UDARKA"),
    (0x1CF26, "3PODVERTKA;3LOMKA;3KUPNAYA;3KACHKA;3ZEVOK;3SKOBA;3RAZSEKA;3KRYZH ON LEFT"),
    (0x1CF30, "2TONAL RANGE MARK MRACHNO;5SVETLO;5TRESVETLO;2MARK ZADERZHKA"),
    (0x1CF34, "3DEMESTVENNY ZADERZHKA;3OTSECHKA;3PODCHASHIE;4WITH VERTICAL STROKE;3CHASHKA"),
    (0x1CF39, "4POLNAYA;3OBLACHKO;3SOROCHYA NOZHKA;3TOCHKA;3DVOETOCHIE;2ATTACHING VERTICAL OMET"),
    (0x1CF3F, "2MARK CURVED OMET;3KRYZH;2LOWER TONAL RANGE INDICATOR;1PRIZNAK MODIFIER LEVEL-2"),
    (0x1CF43, "3LEVEL-3;3DIRECTION FLIP;3KRYZH;3ROG"),
    (0x1CF50, "1NEUME KRYUK;3TIKHY;2PARAKLIT;2DVA V CHELNU;2KLYUCH;2ZANOZHEK;2STOPITSA;3S OCHKOM"),
    (0x1CF58, "2PEREVODKA;3NEPOSTOYANNAYA;2STOPITSA WITH SOROCHYA NOZHKA;2CHELYUSTKA;2PALKA"),
    (0x1CF5D, "2ZAPYATAYA;2GOLUBCHIK BORZY;3TIKHY;3MRACHNY;3SVETLY;3TRESVETLY;2VRAKHIYA PROSTAYA"),
    (0x1CF64, "3MRACHNAYA;3SVETLAYA;3TRESVETLAYA;3KLYUCHEVAYA PROSTAYA;4MRACHNAYA;4SVETLAYA"),
    (0x1CF6A, "4TRESVETLAYA;2DOUBLE ZAPYATAYA;2REVERSED CHELYUSTKA;2DERBITSA;2KHAMILO;2CHASHKA"),
    (0x1CF70, "2PODCHASHIE;2SKAMEYTSA MRACHNAYA;3SVETLAYA;3TRESVETLAYA;3TIKHAYA"),
    (0x1CF75, "2DEMESTVENNY KLYUCH;2SKAMEYTSA KLYUCHEVAYA SVETLAYA;3KLYUCHENEPOSTOYANNAYA"),
    (0x1CF78, "3KLYUCHEVAYA TIKHAYA;3DVOECHELNAYA PROSTAYA;4SVETLAYA;4NEPOSTOYANNAYA;4KLYUCHEVAYA"),
    (0x1CF7D, "2SLOZHITIE;3S ZAPYATOY;3ZAKRYTOE;3S KRYZHEM;2KRYZH;2ROG;2FITA;2KOBYLA;2ZMEYTSA"),
    (0x1CF86, "2STATYA;3S ZAPYATOY;4KRYZHEM;4ZAPYATOY I KRYZHEM;4KRYZHEM I ZAPYATOY;3ZAKRYTAYA"),
    (0x1CF8C, "4S ZAPYATOY;3S ROGOM;4DVUMYA ZAPYATYMI;4ZAPYATOY I PODCHASHIEM;2POLKULIZMY"),
    (0x1CF91, "2STATYA NEPOSTOYANNAYA;2STRELA PROSTAYA;3MRACHNOTIKHAYA;3KRYZHEVAYA;3POLUPOVODNAYA"),
    (0x1CF96, "3POVODNAYA;3NEPOSTOYANNAYA;3KLYUCHEPOVODNAYA;3KLYUCHENEPOSTOYANNAYA"),
    (0x1CF9A, "3TIKHAYA PUTNAYA;3DVOECHELNAYA;3DVOECHELNOKRYZHEVAYA;3DVOECHELNOPOVODNAYA"),
    (0x1CF9E, "3DVOECHELNAYA KLYUCHEVAYA;3DVOECHELNOPOVODNAYA KLYUCHEVAYA"),
    (0x1CFA0, "3GROMNAYA WITH SINGLE ZAPYATAYA;3GROMOPOVODNAYA WITH SINGLE ZAPYATAYA;3GROMNAYA"),
    (0x1CFA3, "3GROMOPOVODNAYA;4WITH DOUBLE ZAPYATAYA;3GROMOKRYZHEVAYA;4POVODNAYA;2MECHIK"),
    (0x1CFA8, "3POVODNY;3KLYUCHEVOY;3KLYUCHEPOVODNY;3KLYUCHENEPOSTOYANNY;2STRELA TRYASOGLASNAYA"),
    (0x1CFAD, "3TRYASOPOVODNAYA;3TRYASOSTRELNAYA;2OSOKA;3SVETLAYA;3TRESVETLAYA"),
    (0x1CFB2, "3KRYUKOVAYA SVETLAYA;3KLYUCHEVAYA SVETLAYA;4NEPOSTOYANNAYA;2STRELA KRYUKOVAYA"),
    (0x1CFB6, "4POVODNAYA;4GROMNAYA WITH SINGLE ZAPYATAYA;4GROMOPOVODNAYA WITH SINGLE ZAPYATAYA"),
    (0x1CFB9, "4GROMNAYA;4GROMOPOVODNAYA;5WITH DOUBLE ZAPYATAYA;4GROMOKRYZHEVAYA;5POVODNAYA"),
    (0x1CFBE, "4TRYASKA;2KUFISMA;2OBLAKO;2DUDA;2NEMKA;2PAUK")]

end ClusterMatrix.Text
