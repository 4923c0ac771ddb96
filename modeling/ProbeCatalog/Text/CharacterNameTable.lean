/-!
# Names of characters

The names of the characters of Unicode 14.0 and their alternative names, by their first
letters, with the numbers of the characters. Names are in alphabetical order. Each begins
with the number of words that it shares with the name before it, and only the other words
are written. The ideographs and syllables whose names follow a rule are not listed.
-/
namespace ProbeCatalog.CharacterNameTable

/-- Names that begin with `A`. -/
def namesA : String :=
  "0ABACUS=1f9ee 0AC_CURRENT=23e6 0ACCORDION=1fa97 0ACCOUNT_OF=2100 0ACK=6 0ACKNOWLEDGE=6
0ACTIVATE_ARABIC_FORM_SHAPING=206d 1SYMMETRIC_SWAPPING=206b 0ACUTE_ACCENT=b4 1ANGLE=299f
0ADDRESSED_TO_THE_SUBJECT=2101 0ADHESIVE_BANDAGE=1fa79 0ADI_SHAKTI=262c
0ADLAM_ALIF_LENGTHENER=1e944 1CAPITAL_LETTER_ALIF=1e900 3BA=1e904 3BHE=1e907 3CHI=1e915
3DAALI=1e901 3DHA=1e90d 3E=1e909 3FA=1e90a 3GA=1e918 3GBE=1e91e 3HA=1e916 3I=1e90b 3JIIM=1e914
3KAF=1e911 3KHA=1e91d 3KPO=1e920 3LAAM=1e902 3MIIM=1e903 3NHA=1e91b 3NUN=1e910 3NYA=1e919 3O=1e90c
3PE=1e906 3QAAF=1e917 3RA=1e908 3SHA=1e921 3SINNYIIYHE=1e905 3TU=1e91a 3U=1e913 3VA=1e91c
3WAW=1e90f 3YA=1e912 3YHE=1e90e 3ZAL=1e91f 1CONSONANT_MODIFIER=1e948 1DIGIT_EIGHT=1e958 2FIVE=1e955
2FOUR=1e954 2NINE=1e959 2ONE=1e951 2SEVEN=1e957 2SIX=1e956 2THREE=1e953 2TWO=1e952 2ZERO=1e950
1GEMINATE_CONSONANT_MODIFIER=1e949 1GEMINATION_MARK=1e946 1HAMZA=1e947
1INITIAL_EXCLAMATION_MARK=1e95e 2QUESTION_MARK=1e95f 1NASALIZATION_MARK=1e94b 1NUKTA=1e94a
1SMALL_LETTER_ALIF=1e922 3BA=1e926 3BHE=1e929 3CHI=1e937 3DAALI=1e923 3DHA=1e92f 3E=1e92b 3FA=1e92c
3GA=1e93a 3GBE=1e940 3HA=1e938 3I=1e92d 3JIIM=1e936 3KAF=1e933 3KHA=1e93f 3KPO=1e942 3LAAM=1e924
3MIIM=1e925 3NHA=1e93d 3NUN=1e932 3NYA=1e93b 3O=1e92e 3PE=1e928 3QAAF=1e939 3RA=1e92a 3SHA=1e943
3SINNYIIYHE=1e927 3TU=1e93c 3U=1e935 3VA=1e93e 3WAW=1e931 3YA=1e934 3YHE=1e930 3ZAL=1e941
1VOWEL_LENGTHENER=1e945 0ADMETOS=2be5 0ADMISSION_TICKETS=1f39f 0ADULT=1f9d1
0AEGEAN_CHECK_MARK=10102 1DRY_MEASURE_FIRST_SUBUNIT=1013c 1LIQUID_MEASURE_FIRST_SUBUNIT=1013d
1MEASURE_SECOND_SUBUNIT=1013e 2THIRD_SUBUNIT=1013f 1NUMBER_EIGHT=1010e 3HUNDRED=10120
3THOUSAND=10129 2EIGHTY=10117 3THOUSAND=10132 2FIFTY=10114 3THOUSAND=1012f 2FIVE=1010b
3HUNDRED=1011d 3THOUSAND=10126 2FORTY=10113 3THOUSAND=1012e 2FOUR=1010a 3HUNDRED=1011c
3THOUSAND=10125 2NINE=1010f 3HUNDRED=10121 3THOUSAND=1012a 2NINETY=10118 3THOUSAND=10133 2ONE=10107
3HUNDRED=10119 3THOUSAND=10122 2SEVEN=1010d 3HUNDRED=1011f 3THOUSAND=10128 2SEVENTY=10116
3THOUSAND=10131 2SIX=1010c 3HUNDRED=1011e 3THOUSAND=10127 2SIXTY=10115 3THOUSAND=10130 2TEN=10110
3THOUSAND=1012b 2THIRTY=10112 3THOUSAND=1012d 2THREE=10109 3HUNDRED=1011b 3THOUSAND=10124
2TWENTY=10111 3THOUSAND=1012c 2TWO=10108 3HUNDRED=1011a 3THOUSAND=10123 1WEIGHT_BASE_UNIT=10137
2FIRST_SUBUNIT=10138 2FOURTH_SUBUNIT=1013b 2SECOND_SUBUNIT=10139 2THIRD_SUBUNIT=1013a
1WORD_SEPARATOR_DOT=10101 3LINE=10100 0AERIAL_TRAMWAY=1f6a1 0AFGHANI_SIGN=60b
0AHOM_CONSONANT_SIGN_MEDIAL_LA=1171d 4LIGATING_RA=1171f 4RA=1171e 1DIGIT_EIGHT=11738 2FIVE=11735
2FOUR=11734 2NINE=11739 2ONE=11731 2SEVEN=11737 2SIX=11736 2THREE=11733 2TWO=11732 2ZERO=11730
1LETTER_A=11712 2ALTERNATE_BA=1171a 3GA=11716 3TA=11705 2BA=11708 2BHA=11718 2CA=11740 2CHA=1170b
2DA=11713 2DDA=11743 2DDHA=11744 2DHA=11714 2GA=11715 2GHA=11717 2HA=11711 2JA=1170a 2JHA=11719
2KA=11700 2KHA=11701 2LA=1170e 2LLA=11746 2MA=11709 2NA=11703 2NGA=11702 2NNA=11745 2NYA=11710
2PA=11706 2PHA=11707 2RA=1170d 2SA=1170f 2TA=11704 2THA=1170c 2TTA=11741 2TTHA=11742
1NUMBER_TEN=1173a 2TWENTY=1173b 1SIGN_KILLER=1172b 2RULAI=1173e 2SECTION=1173d 2SMALL_SECTION=1173c
1SYMBOL_VI=1173f 1VOWEL_SIGN_A=11720 3AA=11721 3AI=11729 3AM=1172a 3AW=11727 3E=11726 3I=11722
3II=11723 3O=11728 3U=11724 3UU=11725 0AIRPLANE=2708 1ARRIVING=1f6ec 1DEPARTURE=1f6eb
0AKTIESELSKAB=214d 0ALARM_CLOCK=23f0 0ALCHEMICAL_SYMBOL_FOR_AIR=1f701 3ALEMBIC=1f76a 3ALKALI=1f736
3ALKALI-2=1f737 3ALUM=1f745 3AMALGAM=1f75b 3ANTIMONY_ORE=1f72b 3AQUA_REGIA=1f706 4REGIA-2=1f707
4VITAE=1f708 4VITAE-2=1f709 3AQUAFORTIS=1f705 3ARSENIC=1f73a 3ASHES=1f757 3AURIPIGMENT=1f73d
3BATH_OF_MARY=1f76b 5VAPOURS=1f76c 3BISMUTH_ORE=1f73e 3BLACK_SULFUR=1f70f 3BORAX=1f742
3BORAX-2=1f743 3BORAX-3=1f744 3BRICK=1f759 3CADUCEUS=1f750 3CALX=1f74c 3CAPUT_MORTUUM=1f74e
3CINNABAR=1f713 3COPPER_ANTIMONIATE=1f725 4ORE=1f720 3CROCUS_OF_COPPER=1f723 5COPPER-2=1f724
5IRON=1f71e 3CRUCIBLE=1f765 3CRUCIBLE-2=1f766 3CRUCIBLE-3=1f767 3CRUCIBLE-4=1f768 3CRUCIBLE-5=1f769
3DAY-NIGHT=1f770 3DISSOLVE=1f761 3DISSOLVE-2=1f762 3DISTILL=1f760 3EARTH=1f703 3FIRE=1f702
3GOLD=1f71a 3GUM=1f749 3HALF_DRAM=1f772 4OUNCE=1f773 3HORSE_DUNG=1f756 3HOUR=1f76e 3IRON_ORE=1f71c
4ORE-2=1f71d 3IRON-COPPER_ORE=1f721 3LEAD_ORE=1f72a 3LODESTONE=1f753 3MARCASITE=1f738
3MERCURY_SUBLIMATE=1f710 4SUBLIMATE-2=1f711 4SUBLIMATE-3=1f712 3MONTH=1f771 3NIGHT=1f76f
3NITRE=1f715 3OIL=1f746 3PHILOSOPHERS_SULFUR=1f70e 3POT_ASHES=1f758 3POWDER=1f74b
3POWDERED_BRICK=1f75a 3PRECIPITATE=1f75f 3PURIFY=1f763 3PUTREFACTION=1f764 3QUICK_LIME=1f741
3QUINTESSENCE=1f700 3REALGAR=1f73b 3REALGAR-2=1f73c 3REGULUS=1f732 4OF_ANTIMONY=1f730
5ANTIMONY-2=1f731 5IRON=1f71f 3REGULUS-2=1f733 3REGULUS-3=1f734 3REGULUS-4=1f735 3RETORT=1f76d
3ROCK_SALT=1f718 4SALT-2=1f719 3SAL-AMMONIAC=1f739 3SALT=1f714 4OF_ANTIMONY=1f72d
5COPPER_ANTIMONIATE=1f726 3SCEPTER_OF_JOVE=1f74f 3SILVER=1f71b 3SOAP=1f754 3SPIRIT=1f747
3STARRED_TRIDENT=1f752 3STRATUM_SUPER_STRATUM=1f75c 5STRATUM-2=1f75d 3SUBLIMATE_OF_ANTIMONY=1f72c
5COPPER=1f722 5SALT_OF_ANTIMONY=1f72e 7COPPER=1f727 3SUBLIMATION=1f75e 3SULFUR=1f70d 3TARTAR=1f73f
3TARTAR-2=1f740 3TIN_ORE=1f729 3TINCTURE=1f748 3TRIDENT=1f751 3TUTTY=1f74d 3URINE=1f755
3VERDIGRIS=1f728 3VINEGAR=1f70a 4OF_ANTIMONY=1f72f 3VINEGAR-2=1f70b 3VINEGAR-3=1f70c 3VITRIOL=1f716
3VITRIOL-2=1f717 3WATER=1f704 3WAX=1f74a 0ALEF_SYMBOL=2135 0ALEMBIC=2697 0ALERT=7
0ALIEN_MONSTER=1f47e 0ALL_AROUND-PROFILE=232e 1EQUAL_TO=224c 0ALM=61c
0ALMOST_EQUAL_OR_EQUAL_TO=224a 2TO=2248 3WITH_CIRCUMFLEX_ACCENT=2a6f
0ALTERNATE_ONE-WAY_LEFT_WAY_TRAFFIC=26d5 0ALTERNATIVE_KEY_SYMBOL=2387
0AMALGAMATION_OR_COPRODUCT=2a3f 0AMBULANCE=1f691 0AMERICAN_FOOTBALL=1f3c8 0AMPERSAND=26
0AMPHORA=1f3fa 0ANATOLIAN_HIEROGLYPH_A001=14400 2A002=14401 2A003=14402 2A004=14403 2A005=14404
2A006=14405 2A007=14406 2A008=14407 2A009=14408 2A010=14409 2A010A=1440a 2A011=1440b 2A012=1440c
2A013=1440d 2A014=1440e 2A015=1440f 2A016=14410 2A017=14411 2A018=14412 2A019=14413 2A020=14414
2A021=14415 2A022=14416 2A023=14417 2A024=14418 2A025=14419 2A026=1441a 2A026A=1441b 2A027=1441c
2A028=1441d 2A029=1441e 2A030=1441f 2A031=14420 2A032=14421 2A033=14422 2A034=14423 2A035=14424
2A036=14425 2A037=14426 2A038=14427 2A039=14428 2A039A=14429 2A040=1442a 2A041=1442b 2A041A=1442c
2A042=1442d 2A043=1442e 2A044=1442f 2A045=14430 2A045A=14431 2A046=14432 2A046A=14433 2A046B=14434
2A047=14435 2A048=14436 2A049=14437 2A050=14438 2A051=14439 2A052=1443a 2A053=1443b 2A054=1443c
2A055=1443d 2A056=1443e 2A057=1443f 2A058=14440 2A059=14441 2A060=14442 2A061=14443 2A062=14444
2A063=14445 2A064=14446 2A065=14447 2A066=14448 2A066A=14449 2A066B=1444a 2A066C=1444b 2A067=1444c
2A068=1444d 2A069=1444e 2A070=1444f 2A071=14450 2A072=14451 2A073=14452 2A074=14453 2A075=14454
2A076=14455 2A077=14456 2A078=14457 2A079=14458 2A080=14459 2A081=1445a 2A082=1445b 2A083=1445c
2A084=1445d 2A085=1445e 2A086=1445f 2A087=14460 2A088=14461 2A089=14462 2A090=14463 2A091=14464
2A092=14465 2A093=14466 2A094=14467 2A095=14468 2A096=14469 2A097=1446a 2A097A=1446b 2A098=1446c
2A098A=1446d 2A099=1446e 2A100=1446f 2A100A=14470 2A101=14471 2A101A=14472 2A102=14473 2A102A=14474
2A103=14475 2A104=14476 2A104A=14477 2A104B=14478 2A104C=14479 2A105=1447a 2A105A=1447b
2A105B=1447c 2A106=1447d 2A107=1447e 2A107A=1447f 2A107B=14480 2A107C=14481 2A108=14482 2A109=14483
2A110=14484 2A110A=14485 2A110B=14486 2A111=14487 2A112=14488 2A113=14489 2A114=1448a 2A115=1448b
2A115A=1448c 2A116=1448d 2A117=1448e 2A118=1448f 2A119=14490 2A120=14491 2A121=14492 2A122=14493
2A123=14494 2A124=14495 2A125=14496 2A125A=14497 2A126=14498 2A127=14499 2A128=1449a 2A129=1449b
2A130=1449c 2A131=1449d 2A132=1449e 2A133=1449f 2A134=144a0 2A135=144a1 2A135A=144a2 2A136=144a3
2A137=144a4 2A138=144a5 2A139=144a6 2A140=144a7 2A141=144a8 2A142=144a9 2A143=144aa 2A144=144ab
2A145=144ac 2A146=144ad 2A147=144ae 2A148=144af 2A149=144b0 2A150=144b1 2A151=144b2 2A152=144b3
2A153=144b4 2A154=144b5 2A155=144b6 2A156=144b7 2A157=144b8 2A158=144b9 2A159=144ba 2A160=144bb
2A161=144bc 2A162=144bd 2A163=144be 2A164=144bf 2A165=144c0 2A166=144c1 2A167=144c2 2A168=144c3
2A169=144c4 2A170=144c5 2A171=144c6 2A172=144c7 2A173=144c8 2A174=144c9 2A175=144ca 2A176=144cb
2A177=144cc 2A178=144cd 2A179=144ce 2A180=144cf 2A181=144d0 2A182=144d1 2A183=144d2 2A184=144d3
2A185=144d4 2A186=144d5 2A187=144d6 2A188=144d7 2A189=144d8 2A190=144d9 2A191=144da 2A192=144db
2A193=144dc 2A194=144dd 2A195=144de 2A196=144df 2A197=144e0 2A198=144e1 2A199=144e2 2A200=144e3
2A201=144e4 2A202=144e5 2A202A=144e6 2A202B=144e7 2A203=144e8 2A204=144e9 2A205=144ea 2A206=144eb
2A207=144ec 2A207A=144ed 2A208=144ee 2A209=144ef 2A209A=144f0 2A210=144f1 2A211=144f2 2A212=144f3
2A213=144f4 2A214=144f5 2A215=144f6 2A215A=144f7 2A216=144f8 2A216A=144f9 2A217=144fa 2A218=144fb
2A219=144fc 2A220=144fd 2A221=144fe 2A222=144ff 2A223=14500 2A224=14501 2A225=14502 2A226=14503
2A227=14504 2A227A=14505 2A228=14506 2A229=14507 2A230=14508 2A231=14509 2A232=1450a 2A233=1450b
2A234=1450c 2A235=1450d 2A236=1450e 2A237=1450f 2A238=14510 2A239=14511 2A240=14512 2A241=14513
2A242=14514 2A243=14515 2A244=14516 2A245=14517 2A246=14518 2A247=14519 2A248=1451a 2A249=1451b
2A250=1451c 2A251=1451d 2A252=1451e 2A253=1451f 2A254=14520 2A255=14521 2A256=14522 2A257=14523
2A258=14524 2A259=14525 2A260=14526 2A261=14527 2A262=14528 2A263=14529 2A264=1452a 2A265=1452b
2A266=1452c 2A267=1452d 2A267A=1452e 2A268=1452f 2A269=14530 2A270=14531 2A271=14532 2A272=14533
2A273=14534 2A274=14535 2A275=14536 2A276=14537 2A277=14538 2A278=14539 2A279=1453a 2A280=1453b
2A281=1453c 2A282=1453d 2A283=1453e 2A284=1453f 2A285=14540 2A286=14541 2A287=14542 2A288=14543
2A289=14544 2A289A=14545 2A290=14546 2A291=14547 2A292=14548 2A293=14549 2A294=1454a 2A294A=1454b
2A295=1454c 2A296=1454d 2A297=1454e 2A298=1454f 2A299=14550 2A299A=14551 2A300=14552 2A301=14553
2A302=14554 2A303=14555 2A304=14556 2A305=14557 2A306=14558 2A307=14559 2A308=1455a 2A309=1455b
2A309A=1455c 2A310=1455d 2A311=1455e 2A312=1455f 2A313=14560 2A314=14561 2A315=14562 2A316=14563
2A317=14564 2A318=14565 2A319=14566 2A320=14567 2A321=14568 2A322=14569 2A323=1456a 2A324=1456b
2A325=1456c 2A326=1456d 2A327=1456e 2A328=1456f 2A329=14570 2A329A=14571 2A330=14572 2A331=14573
2A332A=14574 2A332B=14575 2A332C=14576 2A333=14577 2A334=14578 2A335=14579 2A336=1457a 2A336A=1457b
2A336B=1457c 2A336C=1457d 2A337=1457e 2A338=1457f 2A339=14580 2A340=14581 2A341=14582 2A342=14583
2A343=14584 2A344=14585 2A345=14586 2A346=14587 2A347=14588 2A348=14589 2A349=1458a 2A350=1458b
2A351=1458c 2A352=1458d 2A353=1458e 2A354=1458f 2A355=14590 2A356=14591 2A357=14592 2A358=14593
2A359=14594 2A359A=14595 2A360=14596 2A361=14597 2A362=14598 2A363=14599 2A364=1459a 2A364A=1459b
2A365=1459c 2A366=1459d 2A367=1459e 2A368=1459f 2A368A=145a0 2A369=145a1 2A370=145a2 2A371=145a3
2A371A=145a4 2A372=145a5 2A373=145a6 2A374=145a7 2A375=145a8 2A376=145a9 2A377=145aa 2A378=145ab
2A379=145ac 2A380=145ad 2A381=145ae 2A381A=145af 2A382=145b0 2A383_RA_OR_RI=145b1 2A383A=145b2
2A384=145b3 2A385=145b4 2A386=145b5 2A386A=145b6 2A387=145b7 2A388=145b8 2A389=145b9 2A390=145ba
2A391=145bb 2A392=145bc 2A393_EIGHT=145bd 2A394=145be 2A395=145bf 2A396=145c0 2A397=145c1
2A398=145c2 2A399=145c3 2A400=145c4 2A401=145c5 2A402=145c6 2A403=145c7 2A404=145c8 2A405=145c9
2A406=145ca 2A407=145cb 2A408=145cc 2A409=145cd 2A410_BEGIN_LOGOGRAM_MARK=145ce
2A410A_END_LOGOGRAM_MARK=145cf 2A411=145d0 2A412=145d1 2A413=145d2 2A414=145d3 2A415=145d4
2A416=145d5 2A417=145d6 2A418=145d7 2A419=145d8 2A420=145d9 2A421=145da 2A422=145db 2A423=145dc
2A424=145dd 2A425=145de 2A426=145df 2A427=145e0 2A428=145e1 2A429=145e2 2A430=145e3 2A431=145e4
2A432=145e5 2A433=145e6 2A434=145e7 2A435=145e8 2A436=145e9 2A437=145ea 2A438=145eb 2A439=145ec
2A440=145ed 2A441=145ee 2A442=145ef 2A443=145f0 2A444=145f1 2A445=145f2 2A446=145f3 2A447=145f4
2A448=145f5 2A449=145f6 2A450=145f7 2A450A=145f8 2A451=145f9 2A452=145fa 2A453=145fb 2A454=145fc
2A455=145fd 2A456=145fe 2A457=145ff 2A457A=14600 2A458=14601 2A459=14602 2A460=14603 2A461=14604
2A462=14605 2A463=14606 2A464=14607 2A465=14608 2A466=14609 2A467=1460a 2A468=1460b 2A469=1460c
2A470=1460d 2A471=1460e 2A472=1460f 2A473=14610 2A474=14611 2A475=14612 2A476=14613 2A477=14614
2A478=14615 2A479=14616 2A480=14617 2A481=14618 2A482=14619 2A483=1461a 2A484=1461b 2A485=1461c
2A486=1461d 2A487=1461e 2A488=1461f 2A489=14620 2A490=14621 2A491=14622 2A492=14623 2A493=14624
2A494=14625 2A495=14626 2A496=14627 2A497=14628 2A501=14629 2A502=1462a 2A503=1462b 2A504=1462c
2A505=1462d 2A506=1462e 2A507=1462f 2A508=14630 2A509=14631 2A510=14632 2A511=14633 2A512=14634
2A513=14635 2A514=14636 2A515=14637 2A516=14638 2A517=14639 2A518=1463a 2A519=1463b 2A520=1463c
2A521=1463d 2A522=1463e 2A523=1463f 2A524=14640 2A525=14641 2A526=14642 2A527=14643 2A528=14644
2A529=14645 2A530=14646 0ANATOMICAL_HEART=1fac0 0ANCHOR=2693 0AND_WITH_DOT=27d1 0ANGER_SYMBOL=1f4a2
0ANGLE=2220 1WITH_S_INSIDE=299e 2UNDERBAR=29a4 0ANGRY_FACE=1f620 0ANGSTROM_SIGN=212b
0ANGUISHED_FACE=1f627 0ANKH=2625 0ANT=1f41c 0ANTENNA_WITH_BARS=1f4f6
0ANTICLOCKWISE_CLOSED_CIRCLE_ARROW=2940 1CONTOUR_INTEGRAL=2233
1DOWNWARDS_AND_UPWARDS_OPEN_CIRCLE_ARROWS=1f504 1GAPPED_CIRCLE_ARROW=27f2 1INTEGRATION=2a11
1OPEN_CIRCLE_ARROW=21ba 1TOP_SEMICIRCLE_ARROW=21b6 1TRIANGLE-HEADED_BOTTOM_U-SHAPED_ARROW=2b8d
2LEFT_U-SHAPED_ARROW=2b8e 2OPEN_CIRCLE_ARROW=2b6f 2RIGHT_U-SHAPED_ARROW=2b8c
2TOP_U-SHAPED_ARROW=2b8f 0APC=9f 0APL_FUNCTIONAL_SYMBOL_ALPHA=237a 4UNDERBAR=2376
3BACKSLASH_BAR=2340 3CIRCLE_BACKSLASH=2349 4DIAERESIS=2365 4JOT=233e 4STAR=235f 4STILE=233d
4UNDERBAR=235c 3COMMA_BAR=236a 3DEL_DIAERESIS=2362 4STILE=2352 4TILDE=236b 3DELTA_STILE=234b
4UNDERBAR=2359 3DIAMOND_UNDERBAR=235a 3DOWN_CARET_TILDE=2371 4SHOE_STILE=2366 4TACK_JOT=234e
5UNDERBAR=234a 3DOWNWARDS_VANE=2356 3EPSILON_UNDERBAR=2377 3GREATER-THAN_DIAERESIS=2369
3I-BEAM=2336 3IOTA=2373 4UNDERBAR=2378 3JOT_DIAERESIS=2364 4UNDERBAR=235b 3LEFT_SHOE_STILE=2367
3LEFTWARDS_VANE=2345 3OMEGA=2375 4UNDERBAR=2379 3QUAD=2395 4BACKSLASH=2342 4CIRCLE=233c 4COLON=2360
4DEL=2354 4DELTA=234d 4DIAMOND=233a 4DIVIDE=2339 4DOWN_CARET=234c 4DOWNWARDS_ARROW=2357 4EQUAL=2338
4GREATER-THAN=2344 4JOT=233b 4LEFTWARDS_ARROW=2347 4LESS-THAN=2343 4NOT_EQUAL=236f 4QUESTION=2370
4RIGHTWARDS_ARROW=2348 4SLASH=2341 4UP_CARET=2353 4UPWARDS_ARROW=2350 3QUOTE_QUAD=235e
4UNDERBAR=2358 3RHO=2374 3RIGHTWARDS_VANE=2346 3SEMICOLON_UNDERBAR=236e 3SLASH_BAR=233f
3SQUISH_QUAD=2337 3STAR_DIAERESIS=2363 3STILE_TILDE=236d 3TILDE_DIAERESIS=2368 3UP_CARET_TILDE=2372
4SHOE_JOT=235d 4TACK_DIAERESIS=2361 5JOT=2355 5OVERBAR=2351 3UPWARDS_VANE=234f 3ZILDE=236c
0APOLLON=2be4 0APOSTROPHE=27 0APPLICATION_PROGRAM_COMMAND=9f 0APPROACHES_THE_LIMIT=2250
0APPROXIMATELY_BUT_NOT_ACTUALLY_EQUAL_TO=2246 1EQUAL_OR_EQUAL_TO=2a70 2TO=2245
3OR_THE_IMAGE_OF=2252 0AQUARIUS=2652 0ARABIC_BASELINE_ROUND_DOT=887 1COMMA=60c 1CURLY_DAMMA=8e5
2DAMMATAN=8e8 2FATHA=8e4 2FATHATAN=8e7 2KASRA=8e6 2KASRATAN=8e9 1DAMMA=64f 2ISOLATED_FORM=fe78
2MEDIAL_FORM=fe79 2WITH_DOT=8fe 1DAMMATAN=64c 2ISOLATED_FORM=fe72 1DATE_SEPARATOR=60d
1DECIMAL_SEPARATOR=66b 1DISPUTED_END_OF_AYAH=8e2 1DOUBLE_RIGHT_ARROWHEAD_ABOVE=8fb 5WITH_DOT=8fc
1DOUBLED_MADDA=89e 1EMPTY_CENTRE_HIGH_STOP=6eb 3LOW_STOP=6ea 1END_OF_AYAH=6dd 3TEXT_MARK=61d
1FATHA=64e 2ISOLATED_FORM=fe76 2MEDIAL_FORM=fe77 2WITH_DOT_ABOVE=8f5 3RING=8f4 3TWO_DOTS=65e
1FATHATAN=64b 2ISOLATED_FORM=fe70 1FIVE_POINTED_STAR=66d 1FOOTNOTE_MARKER=602 1FULL_STOP=6d4
1HALF_MADDA_OVER_MADDA=89f 1HAMZA_ABOVE=654 2BELOW=655 1INVERTED_DAMMA=657 1KASRA=650
2ISOLATED_FORM=fe7a 2MEDIAL_FORM=fe7b 2WITH_DOT_BELOW=8f6 1KASRATAN=64d 2ISOLATED_FORM=fe74
1LARGE_CIRCLE_BELOW=8d1 2ROUND_DOT_ABOVE=8ce 4BELOW=8cf 4INSIDE_CIRCLE_BELOW=8d2
1LEFT_ARROWHEAD_ABOVE=8f7 3BELOW=8f9 1LETTER_AE=6d5 2AFRICAN_FEH=8bb 3NOON=8bd 3QAF=8bc
4WITH_THREE_DOTS_ABOVE=8c4 2AIN=639 3FINAL_FORM=feca 3INITIAL_FORM=fecb 3ISOLATED_FORM=fec9
3MEDIAL_FORM=fecc 3WITH_THREE_DOTS_ABOVE=6a0 6BELOW=8b3 6POINTING_DOWNWARDS_ABOVE=75e
4TWO_DOTS_ABOVE=75d 6VERTICALLY_ABOVE=75f 2ALEF=627 3FINAL_FORM=fe8e 3ISOLATED_FORM=fe8d
3MAKSURA=649 4FINAL_FORM=fef0 4ISOLATED_FORM=feef 3WASLA=671 4FINAL_FORM=fb51 4ISOLATED_FORM=fb50
3WITH_ATTACHED_BOTTOM_RIGHT_KASRA=875 8AND_DOT_ABOVE=87d 9LEFT_RING=880 5FATHA=870 5KASRA=874
5LEFT_HAMZA=882 6ROUND_DOT=878 5RIGHT_HAMZA=881 6ROUND_DOT=877 5ROUND_DOT_ABOVE=876 7BELOW=879
5TOP_RIGHT_FATHA=871 8AND_DOT_ABOVE=87b 9LEFT_RING=87e 4DOT_ABOVE=87a
4EXTENDED_ARABIC-INDIC_DIGIT_THREE_ABOVE=774 7TWO_ABOVE=773 4HAMZA_ABOVE=623 6FINAL_FORM=fe84
6ISOLATED_FORM=fe83 5BELOW=625 6FINAL_FORM=fe88 6ISOLATED_FORM=fe87 4LEFT_MIDDLE_STROKE=873
4MADDA_ABOVE=622 6FINAL_FORM=fe82 6ISOLATED_FORM=fe81 4RIGHT_MIDDLE_STROKE=872 7AND_DOT_ABOVE=87c
8LEFT_RING=87f 4WAVY_HAMZA_ABOVE=672 6BELOW=673 2BEEH=67b 3FINAL_FORM=fb53 3INITIAL_FORM=fb54
3ISOLATED_FORM=fb52 3MEDIAL_FORM=fb55 2BEH=628 3FINAL_FORM=fe90 3INITIAL_FORM=fe91
3ISOLATED_FORM=fe8f 3MEDIAL_FORM=fe92 3WITH_DOT_BELOW_AND_THREE_DOTS_ABOVE=751 4HAMZA_ABOVE=8a1
4INVERTED_SMALL_V_BELOW=755 4SMALL_MEEM_ABOVE=8b6 5V=756 6BELOW=8a0
4THREE_DOTS_HORIZONTALLY_BELOW=750 6POINTING_UPWARDS_BELOW=752 9AND_TWO_DOTS_ABOVE=753
4TWO_DOTS_BELOW_AND_DOT_ABOVE=754 2BEHEH=680 3FINAL_FORM=fb5b 3INITIAL_FORM=fb5c
3ISOLATED_FORM=fb5a 3MEDIAL_FORM=fb5d 2DAD=636 3FINAL_FORM=febe 3INITIAL_FORM=febf
3ISOLATED_FORM=febd 3MEDIAL_FORM=fec0 3WITH_DOT_BELOW=6fb 2DAHAL=68c 3FINAL_FORM=fb85
3ISOLATED_FORM=fb84 2DAL=62f 3FINAL_FORM=feaa 3ISOLATED_FORM=fea9 3WITH_DOT_BELOW=68a
6AND_SMALL_TAH=68b 4FOUR_DOTS_ABOVE=690 4INVERTED_SMALL_V_BELOW=75a 5V=6ee 4RING=689
4THREE_DOTS_ABOVE_DOWNWARDS=68f 6BELOW=8ae 4TWO_DOTS_VERTICALLY_BELOW_AND_SMALL_TAH=759 2DDAHAL=68d
3FINAL_FORM=fb83 3ISOLATED_FORM=fb82 2DDAL=688 3FINAL_FORM=fb89 3ISOLATED_FORM=fb88
2DOTLESS_BEH=66e 3FEH=6a1 3QAF=66f 2DUL=68e 3FINAL_FORM=fb87 3ISOLATED_FORM=fb86 2DYEH=684
3FINAL_FORM=fb73 3INITIAL_FORM=fb74 3ISOLATED_FORM=fb72 3MEDIAL_FORM=fb75 2E=6d0 3FINAL_FORM=fbe5
3INITIAL_FORM=fbe6 3ISOLATED_FORM=fbe4 3MEDIAL_FORM=fbe7 2FARSI_YEH=6cc 4FINAL_FORM=fbfd
4INITIAL_FORM=fbfe 4ISOLATED_FORM=fbfc 4MEDIAL_FORM=fbff
4WITH_EXTENDED_ARABIC-INDIC_DIGIT_FOUR_BELOW=777 8THREE_ABOVE=776 8TWO_ABOVE=775 5INVERTED_V=63d
5THREE_DOTS_ABOVE=63f 5TWO_DOTS_ABOVE=63e 2FEH=641 3FINAL_FORM=fed2 3INITIAL_FORM=fed3
3ISOLATED_FORM=fed1 3MEDIAL_FORM=fed4 3WITH_DOT_BELOW=6a3 6AND_THREE_DOTS_ABOVE=8a4
5MOVED_BELOW=6a2 4THREE_DOTS_BELOW=6a5 6POINTING_UPWARDS_BELOW=761 4TWO_DOTS_BELOW=760 2GAF=6af
3FINAL_FORM=fb93 3INITIAL_FORM=fb94 3ISOLATED_FORM=fb92 3MEDIAL_FORM=fb95 3WITH_INVERTED_STROKE=8b0
4RING=6b0 4THREE_DOTS_ABOVE=6b4 4TWO_DOTS_BELOW=6b2 2GHAIN=63a 3FINAL_FORM=fece 3INITIAL_FORM=fecf
3ISOLATED_FORM=fecd 3MEDIAL_FORM=fed0 3WITH_DOT_BELOW=6fc 4THREE_DOTS_ABOVE=8c3 2GRAF=8c8 2GUEH=6b3
3FINAL_FORM=fb97 3INITIAL_FORM=fb98 3ISOLATED_FORM=fb96 3MEDIAL_FORM=fb99 2HAH=62d 3FINAL_FORM=fea2
3INITIAL_FORM=fea3 3ISOLATED_FORM=fea1 3MEDIAL_FORM=fea4
3WITH_EXTENDED_ARABIC-INDIC_DIGIT_FOUR_BELOW=77c 4HAMZA_ABOVE=681 4INVERTED_SMALL_V_BELOW=88a
4SMALL_ARABIC_LETTER_TAH_ABOVE=772 8AND_TWO_DOTS=76f 8BELOW=76e 4THREE_DOTS_ABOVE=685
6POINTING_UPWARDS_BELOW=758 4TWO_DOTS_ABOVE=757 6VERTICAL_ABOVE=682 2HAMZA=621 3ISOLATED_FORM=fe80
2HEH=647 3DOACHASHMEE=6be 4FINAL_FORM=fbab 4INITIAL_FORM=fbac 4ISOLATED_FORM=fbaa 4MEDIAL_FORM=fbad
3FINAL_FORM=feea 3GOAL=6c1 4FINAL_FORM=fba7 4INITIAL_FORM=fba8 4ISOLATED_FORM=fba6
4MEDIAL_FORM=fba9 4WITH_HAMZA_ABOVE=6c2 3INITIAL_FORM=feeb 3ISOLATED_FORM=fee9 3MEDIAL_FORM=feec
3WITH_INVERTED_V=6ff 4YEH_ABOVE=6c0 6FINAL_FORM=fba5 6ISOLATED_FORM=fba4 2HIGH_HAMZA=674 4ALEF=675
4WAW=676 4YEH=678 2JEEM=62c 3FINAL_FORM=fe9e 3INITIAL_FORM=fe9f 3ISOLATED_FORM=fe9d
3MEDIAL_FORM=fea0 3WITH_THREE_DOTS_ABOVE=8c5 6BELOW=8c6 4TWO_DOTS_ABOVE=8a2 2JEH=698
3FINAL_FORM=fb8b 3ISOLATED_FORM=fb8a 2KAF=643 3FINAL_FORM=feda 3INITIAL_FORM=fedb
3ISOLATED_FORM=fed9 3MEDIAL_FORM=fedc 3WITH_DOT_ABOVE=6ac 5BELOW=8b4 4RING=6ab
4THREE_DOTS_BELOW=6ae 4TWO_DOTS_ABOVE=77f 2KASHMIRI_YEH=620 2KEHEH=6a9 3FINAL_FORM=fb8f
3INITIAL_FORM=fb90 3ISOLATED_FORM=fb8e 3MEDIAL_FORM=fb91 3WITH_DOT_ABOVE=762 4SMALL_V=8c2
4THREE_DOTS_ABOVE=763 6BELOW=63c 6POINTING_UPWARDS_BELOW=764 4TWO_DOTS_ABOVE=63b
6VERTICALLY_BELOW=88d 2KHAH=62e 3FINAL_FORM=fea6 3INITIAL_FORM=fea7 3ISOLATED_FORM=fea5
3MEDIAL_FORM=fea8 2KIRGHIZ_OE=6c5 4FINAL_FORM=fbe1 4ISOLATED_FORM=fbe0 3YU=6c9 4FINAL_FORM=fbe3
4ISOLATED_FORM=fbe2 2LAM=644 3FINAL_FORM=fede 3INITIAL_FORM=fedf 3ISOLATED_FORM=fedd
3MEDIAL_FORM=fee0 3WITH_BAR=76a 4DOT_ABOVE=6b6 4DOUBLE_BAR=8a6 4SMALL_ARABIC_LETTER_TAH_ABOVE=8c7
5V=6b5 4THREE_DOTS_ABOVE=6b7 6BELOW=6b8 2LOW_ALEF=8ad 2MARK=61c 2MEEM=645 3FINAL_FORM=fee2
3INITIAL_FORM=fee3 3ISOLATED_FORM=fee1 3MEDIAL_FORM=fee4 3WITH_DOT_ABOVE=765 5BELOW=766
4THREE_DOTS_ABOVE=8a7 2NG=6ad 3FINAL_FORM=fbd4 3INITIAL_FORM=fbd5 3ISOLATED_FORM=fbd3
3MEDIAL_FORM=fbd6 2NGOEH=6b1 3FINAL_FORM=fb9b 3INITIAL_FORM=fb9c 3ISOLATED_FORM=fb9a
3MEDIAL_FORM=fb9d 2NOON=646 3FINAL_FORM=fee6 3GHUNNA=6ba 4FINAL_FORM=fb9f 4ISOLATED_FORM=fb9e
3INITIAL_FORM=fee7 3ISOLATED_FORM=fee5 3MEDIAL_FORM=fee8 3WITH_DOT_BELOW=6b9 4INVERTED_SMALL_V=889
4RING=6bc 4SMALL_TAH=768 5V=769 4THREE_DOTS_ABOVE=6bd 4TWO_DOTS_BELOW=767 2NYEH=683
3FINAL_FORM=fb77 3INITIAL_FORM=fb78 3ISOLATED_FORM=fb76 3MEDIAL_FORM=fb79 2OE=6c6 3FINAL_FORM=fbda
3ISOLATED_FORM=fbd9 2PEH=67e 3FINAL_FORM=fb57 3INITIAL_FORM=fb58 3ISOLATED_FORM=fb56
3MEDIAL_FORM=fb59 3WITH_SMALL_MEEM_ABOVE=8b7 5V=8be 2PEHEH=6a6 3FINAL_FORM=fb6f 3INITIAL_FORM=fb70
3ISOLATED_FORM=fb6e 3MEDIAL_FORM=fb71 2QAF=642 3FINAL_FORM=fed6 3INITIAL_FORM=fed7
3ISOLATED_FORM=fed5 3MEDIAL_FORM=fed8 3WITH_DOT_ABOVE=6a7 5BELOW=8a5 6AND_NO_DOTS_ABOVE=8b5
4THREE_DOTS_ABOVE=6a8 2REH=631 3FINAL_FORM=feae 3ISOLATED_FORM=fead 3WITH_DOT_BELOW=694
6AND_DOT_ABOVE=696 4FOUR_DOTS_ABOVE=699 4HAMZA_ABOVE=76c 4INVERTED_V=6ef 4LOOP=8aa 4RING=693
4SMALL_ARABIC_LETTER_TAH_AND_TWO_DOTS=771 5NOON_ABOVE=8b9 5V=692 6BELOW=695 4STROKE=75b
4TWO_DOTS_ABOVE=697 6VERTICALLY_ABOVE=76b 2RNOON=6bb 3FINAL_FORM=fba1 3INITIAL_FORM=fba2
3ISOLATED_FORM=fba0 3MEDIAL_FORM=fba3 2ROHINGYA_YEH=8ac 2RREH=691 3FINAL_FORM=fb8d
3ISOLATED_FORM=fb8c 2SAD=635 3FINAL_FORM=feba 3INITIAL_FORM=febb 3ISOLATED_FORM=feb9
3MEDIAL_FORM=febc 3WITH_THREE_DOTS_ABOVE=69e 6BELOW=8af 4TWO_DOTS_BELOW=69d 2SEEN=633
3FINAL_FORM=feb2 3INITIAL_FORM=feb3 3ISOLATED_FORM=feb1 3MEDIAL_FORM=feb4
3WITH_DOT_BELOW_AND_DOT_ABOVE=69a 4EXTENDED_ARABIC-INDIC_DIGIT_FOUR_ABOVE=77d 4FOUR_DOTS_ABOVE=75c
4INVERTED_V=77e 4SMALL_ARABIC_LETTER_TAH_AND_TWO_DOTS=770 4THREE_DOTS_BELOW=69b
7AND_THREE_DOTS_ABOVE=69c 4TWO_DOTS_VERTICALLY_ABOVE=76d 2SHEEN=634 3FINAL_FORM=feb6
3INITIAL_FORM=feb7 3ISOLATED_FORM=feb5 3MEDIAL_FORM=feb8 3WITH_DOT_BELOW=6fa 2STRAIGHT_WAW=8b1
2SUPERSCRIPT_ALEF=670 2SWASH_KAF=6aa 2TAH=637 3FINAL_FORM=fec2 3INITIAL_FORM=fec3
3ISOLATED_FORM=fec1 3MEDIAL_FORM=fec4 3WITH_DOT_BELOW=88b 4THREE_DOTS_ABOVE=69f 6BELOW=88c
4TWO_DOTS_ABOVE=8a3 2TCHEH=686 3FINAL_FORM=fb7b 3INITIAL_FORM=fb7c 3ISOLATED_FORM=fb7a
3MEDIAL_FORM=fb7d 3WITH_DOT_ABOVE=6bf 4SMALL_V=8c1 2TCHEHEH=687 3FINAL_FORM=fb7f 3INITIAL_FORM=fb80
3ISOLATED_FORM=fb7e 3MEDIAL_FORM=fb81 2TEH=62a 3FINAL_FORM=fe96 3INITIAL_FORM=fe97
3ISOLATED_FORM=fe95 3MARBUTA=629 4FINAL_FORM=fe94 4GOAL=6c3 4ISOLATED_FORM=fe93 3MEDIAL_FORM=fe98
3WITH_RING=67c 4SMALL_TEH_ABOVE=8b8 5V=8bf 4THREE_DOTS_ABOVE_DOWNWARDS=67d 2TEHEH=67f
3FINAL_FORM=fb63 3INITIAL_FORM=fb64 3ISOLATED_FORM=fb62 3MEDIAL_FORM=fb65 2THAL=630
3FINAL_FORM=feac 3ISOLATED_FORM=feab 2THEH=62b 3FINAL_FORM=fe9a 3INITIAL_FORM=fe9b
3ISOLATED_FORM=fe99 3MEDIAL_FORM=fe9c 2THIN_YEH=886 2TTEH=679 3FINAL_FORM=fb67 3INITIAL_FORM=fb68
3ISOLATED_FORM=fb66 3MEDIAL_FORM=fb69 3WITH_SMALL_V=8c0 2TTEHEH=67a 3FINAL_FORM=fb5f
3INITIAL_FORM=fb60 3ISOLATED_FORM=fb5e 3MEDIAL_FORM=fb61 2U=6c7 3FINAL_FORM=fbd8
3ISOLATED_FORM=fbd7 3WITH_HAMZA_ABOVE=677 6ISOLATED_FORM=fbdd
2UIGHUR_KAZAKH_KIRGHIZ_ALEF_MAKSURA_INITIAL_FORM=fbe8 7MEDIAL_FORM=fbe9 2VE=6cb 3FINAL_FORM=fbdf
3ISOLATED_FORM=fbde 2VEH=6a4 3FINAL_FORM=fb6b 3INITIAL_FORM=fb6c 3ISOLATED_FORM=fb6a
3MEDIAL_FORM=fb6d 2WAW=648 3FINAL_FORM=feee 3ISOLATED_FORM=feed 3WITH_DOT_ABOVE=6cf 5WITHIN=8ab
4EXTENDED_ARABIC-INDIC_DIGIT_THREE_ABOVE=779 7TWO_ABOVE=778 4HAMZA_ABOVE=624 6FINAL_FORM=fe86
6ISOLATED_FORM=fe85 4RING=6c4 4TWO_DOTS_ABOVE=6ca 2YEH=64a 3BARREE=6d2 4FINAL_FORM=fbaf
4ISOLATED_FORM=fbae 4WITH_EXTENDED_ARABIC-INDIC_DIGIT_THREE_ABOVE=77b 8TWO_ABOVE=77a
5HAMZA_ABOVE=6d3 7FINAL_FORM=fbb1 7ISOLATED_FORM=fbb0 3FINAL_FORM=fef2 3INITIAL_FORM=fef3
3ISOLATED_FORM=fef1 3MEDIAL_FORM=fef4 3WITH_HAMZA_ABOVE=626 6FINAL_FORM=fe8a 6INITIAL_FORM=fe8b
6ISOLATED_FORM=fe89 6MEDIAL_FORM=fe8c 4SMALL_V=6ce 4TAIL=6cd 4THREE_DOTS_BELOW=6d1
4TWO_DOTS_BELOW_AND_DOT_ABOVE=8a9 8HAMZA_ABOVE=8a8 8SMALL_NOON_ABOVE=8ba 2YU=6c8 3FINAL_FORM=fbdc
3ISOLATED_FORM=fbdb 2ZAH=638 3FINAL_FORM=fec6 3INITIAL_FORM=fec7 3ISOLATED_FORM=fec5
3MEDIAL_FORM=fec8 2ZAIN=632 3FINAL_FORM=feb0 3ISOLATED_FORM=feaf 3WITH_INVERTED_V_ABOVE=8b2
1LIGATURE_AIN_WITH_ALEF_MAKSURA_FINAL_FORM=fd13 6ISOLATED_FORM=fcf7 4JEEM_INITIAL_FORM=fcba
5ISOLATED_FORM=fc29 5WITH_MEEM_FINAL_FORM=fd75 7INITIAL_FORM=fdc4 4MEEM_INITIAL_FORM=fcbb
5ISOLATED_FORM=fc2a 5WITH_ALEF_MAKSURA_FINAL_FORM=fd78 6MEEM_FINAL_FORM=fd76 7INITIAL_FORM=fd77
6YEH_FINAL_FORM=fdb6 4YEH_FINAL_FORM=fd14 5ISOLATED_FORM=fcf8 2AKBAR_ISOLATED_FORM=fdf3
2ALAYHAA_AS-SALAAM=fd4d 2ALAYHE_ISOLATED_FORM=fdf7 2ALAYHI_AS-SALAAM=fd47
3AS-SALAATU_WAS-SALAAM=fd4a 2ALAYHIM_AS-SALAAM=fd48 2ALAYHIMAA_AS-SALAAM=fd49
2ALEF_MAKSURA_WITH_SUPERSCRIPT_ALEF_FINAL_FORM=fc90 7ISOLATED_FORM=fc5d
3WITH_FATHATAN_FINAL_FORM=fd3c 5ISOLATED_FORM=fd3d 2ALLAH_ISOLATED_FORM=fdf2 2AZZA_WA_JALL=fdff
2BEH_WITH_ALEF_MAKSURA_FINAL_FORM=fc6e 6ISOLATED_FORM=fc09 4HAH_INITIAL_FORM=fc9d
5ISOLATED_FORM=fc06 5WITH_YEH_FINAL_FORM=fdc2 4HEH_INITIAL_FORM=fca0 5MEDIAL_FORM=fce2
4JEEM_INITIAL_FORM=fc9c 5ISOLATED_FORM=fc05 4KHAH_INITIAL_FORM=fc9e 5ISOLATED_FORM=fc07
5WITH_YEH_FINAL_FORM=fd9e 4MEEM_FINAL_FORM=fc6c 5INITIAL_FORM=fc9f 5ISOLATED_FORM=fc08
5MEDIAL_FORM=fce1 4NOON_FINAL_FORM=fc6d 4REH_FINAL_FORM=fc6a 4YEH_FINAL_FORM=fc6f
5ISOLATED_FORM=fc0a 4ZAIN_FINAL_FORM=fc6b 2BISMILLAH_AR-RAHMAN_AR-RAHEEM=fdfd
2DAD_WITH_ALEF_MAKSURA_FINAL_FORM=fd23 6ISOLATED_FORM=fd07 4HAH_INITIAL_FORM=fcb5
5ISOLATED_FORM=fc23 5WITH_ALEF_MAKSURA_FINAL_FORM=fd6e 6YEH_FINAL_FORM=fdab 4JEEM_INITIAL_FORM=fcb4
5ISOLATED_FORM=fc22 4KHAH_INITIAL_FORM=fcb6 5ISOLATED_FORM=fc24 5WITH_MEEM_FINAL_FORM=fd6f
7INITIAL_FORM=fd70 4MEEM_INITIAL_FORM=fcb7 5ISOLATED_FORM=fc25 4REH_FINAL_FORM=fd2c
5ISOLATED_FORM=fd10 4YEH_FINAL_FORM=fd24 5ISOLATED_FORM=fd08 2FEH_WITH_ALEF_MAKSURA_FINAL_FORM=fc7c
6ISOLATED_FORM=fc31 4HAH_INITIAL_FORM=fcbf 5ISOLATED_FORM=fc2e 4JEEM_INITIAL_FORM=fcbe
5ISOLATED_FORM=fc2d 4KHAH_INITIAL_FORM=fcc0 5ISOLATED_FORM=fc2f 5WITH_MEEM_FINAL_FORM=fd7c
7INITIAL_FORM=fd7d 4MEEM_INITIAL_FORM=fcc1 5ISOLATED_FORM=fc30 5WITH_YEH_FINAL_FORM=fdc1
4YEH_FINAL_FORM=fc7d 5ISOLATED_FORM=fc32 2GHAIN_WITH_ALEF_MAKSURA_FINAL_FORM=fd15
6ISOLATED_FORM=fcf9 4JEEM_INITIAL_FORM=fcbc 5ISOLATED_FORM=fc2b 4MEEM_INITIAL_FORM=fcbd
5ISOLATED_FORM=fc2c 5WITH_ALEF_MAKSURA_FINAL_FORM=fd7b 6MEEM_FINAL_FORM=fd79 6YEH_FINAL_FORM=fd7a
4YEH_FINAL_FORM=fd16 5ISOLATED_FORM=fcfa 2HAH_WITH_ALEF_MAKSURA_FINAL_FORM=fd1b 6ISOLATED_FORM=fcff
4JEEM_INITIAL_FORM=fca9 5ISOLATED_FORM=fc17 5WITH_YEH_FINAL_FORM=fdbf 4MEEM_INITIAL_FORM=fcaa
5ISOLATED_FORM=fc18 5WITH_ALEF_MAKSURA_FINAL_FORM=fd5b 6YEH_FINAL_FORM=fd5a 4YEH_FINAL_FORM=fd1c
5ISOLATED_FORM=fd00 2HEH_WITH_ALEF_MAKSURA_ISOLATED_FORM=fc53 4JEEM_INITIAL_FORM=fcd7
5ISOLATED_FORM=fc51 4MEEM_INITIAL_FORM=fcd8 5ISOLATED_FORM=fc52 5WITH_JEEM_INITIAL_FORM=fd93
6MEEM_INITIAL_FORM=fd94 4SUPERSCRIPT_ALEF_INITIAL_FORM=fcd9 4YEH_ISOLATED_FORM=fc54
2JALLAJALALOUHOU=fdfb 2JEEM_WITH_ALEF_MAKSURA_FINAL_FORM=fd1d 6ISOLATED_FORM=fd01
4HAH_INITIAL_FORM=fca7 5ISOLATED_FORM=fc15 5WITH_ALEF_MAKSURA_FINAL_FORM=fda6 6YEH_FINAL_FORM=fdbe
4MEEM_INITIAL_FORM=fca8 5ISOLATED_FORM=fc16 5WITH_ALEF_MAKSURA_FINAL_FORM=fda7 6HAH_FINAL_FORM=fd58
7INITIAL_FORM=fd59 6YEH_FINAL_FORM=fda5 4YEH_FINAL_FORM=fd1e 5ISOLATED_FORM=fd02
2KAF_WITH_ALEF_FINAL_FORM=fc80 5ISOLATED_FORM=fc37 5MAKSURA_FINAL_FORM=fc83 6ISOLATED_FORM=fc3d
4HAH_INITIAL_FORM=fcc5 5ISOLATED_FORM=fc39 4JEEM_INITIAL_FORM=fcc4 5ISOLATED_FORM=fc38
4KHAH_INITIAL_FORM=fcc6 5ISOLATED_FORM=fc3a 4LAM_FINAL_FORM=fc81 5INITIAL_FORM=fcc7
5ISOLATED_FORM=fc3b 5MEDIAL_FORM=fceb 4MEEM_FINAL_FORM=fc82 5INITIAL_FORM=fcc8 5ISOLATED_FORM=fc3c
5MEDIAL_FORM=fcec 5WITH_MEEM_FINAL_FORM=fdbb 7INITIAL_FORM=fdc3 6YEH_FINAL_FORM=fdb7
4YEH_FINAL_FORM=fc84 5ISOLATED_FORM=fc3e 2KHAH_WITH_ALEF_MAKSURA_FINAL_FORM=fd1f
6ISOLATED_FORM=fd03 4HAH_ISOLATED_FORM=fc1a 4JEEM_INITIAL_FORM=fcab 5ISOLATED_FORM=fc19
4MEEM_INITIAL_FORM=fcac 5ISOLATED_FORM=fc1b 4YEH_FINAL_FORM=fd20 5ISOLATED_FORM=fd04
2LAM_WITH_ALEF_FINAL_FORM=fefc 5ISOLATED_FORM=fefb 5MAKSURA_FINAL_FORM=fc86 6ISOLATED_FORM=fc43
5WITH_HAMZA_ABOVE_FINAL_FORM=fef8 8ISOLATED_FORM=fef7 7BELOW_FINAL_FORM=fefa 8ISOLATED_FORM=fef9
6MADDA_ABOVE_FINAL_FORM=fef6 8ISOLATED_FORM=fef5 4HAH_INITIAL_FORM=fcca 5ISOLATED_FORM=fc40
5WITH_ALEF_MAKSURA_FINAL_FORM=fd82 6MEEM_FINAL_FORM=fd80 7INITIAL_FORM=fdb5 6YEH_FINAL_FORM=fd81
4HEH_INITIAL_FORM=fccd 4JEEM_INITIAL_FORM=fcc9 5ISOLATED_FORM=fc3f 5WITH_JEEM_FINAL_FORM=fd84
7INITIAL_FORM=fd83 6MEEM_FINAL_FORM=fdbc 7INITIAL_FORM=fdba 6YEH_FINAL_FORM=fdac
4KHAH_INITIAL_FORM=fccb 5ISOLATED_FORM=fc41 5WITH_MEEM_FINAL_FORM=fd85 7INITIAL_FORM=fd86
4MEEM_FINAL_FORM=fc85 5INITIAL_FORM=fccc 5ISOLATED_FORM=fc42 5MEDIAL_FORM=fced
5WITH_HAH_FINAL_FORM=fd87 7INITIAL_FORM=fd88 6YEH_FINAL_FORM=fdad 4YEH_FINAL_FORM=fc87
5ISOLATED_FORM=fc44 2MEEM_WITH_ALEF_FINAL_FORM=fc88 5MAKSURA_ISOLATED_FORM=fc49
4HAH_INITIAL_FORM=fccf 5ISOLATED_FORM=fc46 5WITH_JEEM_INITIAL_FORM=fd89 6MEEM_INITIAL_FORM=fd8a
6YEH_FINAL_FORM=fd8b 4JEEM_INITIAL_FORM=fcce 5ISOLATED_FORM=fc45 5WITH_HAH_INITIAL_FORM=fd8c
6KHAH_INITIAL_FORM=fd92 6MEEM_INITIAL_FORM=fd8d 6YEH_FINAL_FORM=fdc0 4KHAH_INITIAL_FORM=fcd0
5ISOLATED_FORM=fc47 5WITH_JEEM_INITIAL_FORM=fd8e 6MEEM_INITIAL_FORM=fd8f 6YEH_FINAL_FORM=fdb9
4MEEM_FINAL_FORM=fc89 5INITIAL_FORM=fcd1 5ISOLATED_FORM=fc48 5WITH_YEH_FINAL_FORM=fdb1
4YEH_ISOLATED_FORM=fc4a 2MOHAMMAD_ISOLATED_FORM=fdf4 2NOON_WITH_ALEF_MAKSURA_FINAL_FORM=fc8e
6ISOLATED_FORM=fc4f 4HAH_INITIAL_FORM=fcd3 5ISOLATED_FORM=fc4c 5WITH_ALEF_MAKSURA_FINAL_FORM=fd96
6MEEM_INITIAL_FORM=fd95 6YEH_FINAL_FORM=fdb3 4HEH_INITIAL_FORM=fcd6 5MEDIAL_FORM=fcef
4JEEM_INITIAL_FORM=fcd2 5ISOLATED_FORM=fc4b 5WITH_ALEF_MAKSURA_FINAL_FORM=fd99 6HAH_FINAL_FORM=fdbd
7INITIAL_FORM=fdb8 6MEEM_FINAL_FORM=fd97 7INITIAL_FORM=fd98 6YEH_FINAL_FORM=fdc7
4KHAH_INITIAL_FORM=fcd4 5ISOLATED_FORM=fc4d 4MEEM_FINAL_FORM=fc8c 5INITIAL_FORM=fcd5
5ISOLATED_FORM=fc4e 5MEDIAL_FORM=fcee 5WITH_ALEF_MAKSURA_FINAL_FORM=fd9b 6YEH_FINAL_FORM=fd9a
4NOON_FINAL_FORM=fc8d 4REH_FINAL_FORM=fc8a 4YEH_FINAL_FORM=fc8f 5ISOLATED_FORM=fc50
4ZAIN_FINAL_FORM=fc8b 2QAF_WITH_ALEF_MAKSURA_FINAL_FORM=fc7e 6ISOLATED_FORM=fc35
4HAH_INITIAL_FORM=fcc2 5ISOLATED_FORM=fc33 4MEEM_INITIAL_FORM=fcc3 5ISOLATED_FORM=fc34
5WITH_HAH_FINAL_FORM=fd7e 7INITIAL_FORM=fdb4 6MEEM_FINAL_FORM=fd7f 6YEH_FINAL_FORM=fdb2
4YEH_FINAL_FORM=fc7f 5ISOLATED_FORM=fc36 2QALA_USED_AS_KORANIC_STOP_SIGN_ISOLATED_FORM=fdf1
2QUDDISA_SIRRAH=fd4b 2RADI_ALLAAHU_ANH=fd41 4ANHAA=fd42 4ANHUM=fd43 4ANHUMAA=fd44 4ANHUNNA=fd45
2RAHIMAHU_ALLAAH=fd40 2RAHIMAHUM_ALLAAH=fd4f 2RASOUL_ISOLATED_FORM=fdf6
2REH_WITH_SUPERSCRIPT_ALEF_ISOLATED_FORM=fc5c 2SAD_WITH_ALEF_MAKSURA_FINAL_FORM=fd21
6ISOLATED_FORM=fd05 4HAH_INITIAL_FORM=fcb1 5ISOLATED_FORM=fc20 5WITH_HAH_FINAL_FORM=fd64
7INITIAL_FORM=fd65 6YEH_FINAL_FORM=fda9 4KHAH_INITIAL_FORM=fcb2 4MEEM_INITIAL_FORM=fcb3
5ISOLATED_FORM=fc21 5WITH_MEEM_FINAL_FORM=fd66 7INITIAL_FORM=fdc5 4REH_FINAL_FORM=fd2b
5ISOLATED_FORM=fd0f 4YEH_FINAL_FORM=fd22 5ISOLATED_FORM=fd06 2SALAAMUHU_ALAYNAA=fdcf
2SALAM_ISOLATED_FORM=fdf5 2SALLA_ISOLATED_FORM=fdf9 3USED_AS_KORANIC_STOP_SIGN_ISOLATED_FORM=fdf0
2SALLALLAAHU_ALAYHI_WA-AALIH=fd46 2SALLALLAHOU_ALAYHE_WASALLAM=fdfa
2SALLALLAHU_ALAYHI_WAAALIHEE_WA-SALLAM=fd4c 2SEEN_WITH_ALEF_MAKSURA_FINAL_FORM=fd17
6ISOLATED_FORM=fcfb 4HAH_INITIAL_FORM=fcae 5ISOLATED_FORM=fc1d 5MEDIAL_FORM=fd35
5WITH_JEEM_INITIAL_FORM=fd5c 4HEH_INITIAL_FORM=fd31 5MEDIAL_FORM=fce8 4JEEM_INITIAL_FORM=fcad
5ISOLATED_FORM=fc1c 5MEDIAL_FORM=fd34 5WITH_ALEF_MAKSURA_FINAL_FORM=fd5e 6HAH_INITIAL_FORM=fd5d
4KHAH_INITIAL_FORM=fcaf 5ISOLATED_FORM=fc1e 5MEDIAL_FORM=fd36 5WITH_ALEF_MAKSURA_FINAL_FORM=fda8
6YEH_FINAL_FORM=fdc6 4MEEM_INITIAL_FORM=fcb0 5ISOLATED_FORM=fc1f 5MEDIAL_FORM=fce7
5WITH_HAH_FINAL_FORM=fd5f 7INITIAL_FORM=fd60 6JEEM_INITIAL_FORM=fd61 6MEEM_FINAL_FORM=fd62
7INITIAL_FORM=fd63 4REH_FINAL_FORM=fd2a 5ISOLATED_FORM=fd0e 4YEH_FINAL_FORM=fd18
5ISOLATED_FORM=fcfc 2SHADDA_WITH_DAMMA_ISOLATED_FORM=fc61 5MEDIAL_FORM=fcf3
4DAMMATAN_ISOLATED_FORM=fc5e 4FATHA_ISOLATED_FORM=fc60 5MEDIAL_FORM=fcf2 4KASRA_ISOLATED_FORM=fc62
5MEDIAL_FORM=fcf4 4KASRATAN_ISOLATED_FORM=fc5f 4SUPERSCRIPT_ALEF_ISOLATED_FORM=fc63
2SHEEN_WITH_ALEF_MAKSURA_FINAL_FORM=fd19 6ISOLATED_FORM=fcfd 4HAH_FINAL_FORM=fd26
5INITIAL_FORM=fd2e 5ISOLATED_FORM=fd0a 5MEDIAL_FORM=fd38 5WITH_MEEM_FINAL_FORM=fd67
7INITIAL_FORM=fd68 6YEH_FINAL_FORM=fdaa 4HEH_INITIAL_FORM=fd32 5MEDIAL_FORM=fcea
4JEEM_FINAL_FORM=fd25 5INITIAL_FORM=fd2d 5ISOLATED_FORM=fd09 5MEDIAL_FORM=fd37
5WITH_YEH_FINAL_FORM=fd69 4KHAH_FINAL_FORM=fd27 5INITIAL_FORM=fd2f 5ISOLATED_FORM=fd0b
5MEDIAL_FORM=fd39 4MEEM_FINAL_FORM=fd28 5INITIAL_FORM=fd30 5ISOLATED_FORM=fd0c 5MEDIAL_FORM=fce9
5WITH_KHAH_FINAL_FORM=fd6a 7INITIAL_FORM=fd6b 6MEEM_FINAL_FORM=fd6c 7INITIAL_FORM=fd6d
4REH_FINAL_FORM=fd29 5ISOLATED_FORM=fd0d 4YEH_FINAL_FORM=fd1a 5ISOLATED_FORM=fcfe
2SUBHAANAHU_WA_TAAALAA=fdfe 2TABAARAKA_WA-TAAALAA=fd4e 2TAH_WITH_ALEF_MAKSURA_FINAL_FORM=fd11
6ISOLATED_FORM=fcf5 4HAH_INITIAL_FORM=fcb8 5ISOLATED_FORM=fc26 4MEEM_INITIAL_FORM=fd33
5ISOLATED_FORM=fc27 5MEDIAL_FORM=fd3a 5WITH_HAH_FINAL_FORM=fd71 7INITIAL_FORM=fd72
6MEEM_INITIAL_FORM=fd73 6YEH_FINAL_FORM=fd74 4YEH_FINAL_FORM=fd12 5ISOLATED_FORM=fcf6
2TEH_WITH_ALEF_MAKSURA_FINAL_FORM=fc74 6ISOLATED_FORM=fc0f 4HAH_INITIAL_FORM=fca2
5ISOLATED_FORM=fc0c 5WITH_JEEM_FINAL_FORM=fd51 7INITIAL_FORM=fd52 6MEEM_INITIAL_FORM=fd53
4HEH_INITIAL_FORM=fca5 5MEDIAL_FORM=fce4 4JEEM_INITIAL_FORM=fca1 5ISOLATED_FORM=fc0b
5WITH_ALEF_MAKSURA_FINAL_FORM=fda0 6MEEM_INITIAL_FORM=fd50 6YEH_FINAL_FORM=fd9f
4KHAH_INITIAL_FORM=fca3 5ISOLATED_FORM=fc0d 5WITH_ALEF_MAKSURA_FINAL_FORM=fda2
6MEEM_INITIAL_FORM=fd54 6YEH_FINAL_FORM=fda1 4MEEM_FINAL_FORM=fc72 5INITIAL_FORM=fca4
5ISOLATED_FORM=fc0e 5MEDIAL_FORM=fce3 5WITH_ALEF_MAKSURA_FINAL_FORM=fda4 6HAH_INITIAL_FORM=fd56
6JEEM_INITIAL_FORM=fd55 6KHAH_INITIAL_FORM=fd57 6YEH_FINAL_FORM=fda3 4NOON_FINAL_FORM=fc73
4REH_FINAL_FORM=fc70 4YEH_FINAL_FORM=fc75 5ISOLATED_FORM=fc10 4ZAIN_FINAL_FORM=fc71
2THAL_WITH_SUPERSCRIPT_ALEF_ISOLATED_FORM=fc5b 2THEH_WITH_ALEF_MAKSURA_FINAL_FORM=fc7a
6ISOLATED_FORM=fc13 4HEH_MEDIAL_FORM=fce6 4JEEM_ISOLATED_FORM=fc11 4MEEM_FINAL_FORM=fc78
5INITIAL_FORM=fca6 5ISOLATED_FORM=fc12 5MEDIAL_FORM=fce5 4NOON_FINAL_FORM=fc79 4REH_FINAL_FORM=fc76
4YEH_FINAL_FORM=fc7b 5ISOLATED_FORM=fc14 4ZAIN_FINAL_FORM=fc77
2UIGHUR_KIRGHIZ_YEH_WITH_HAMZA_ABOVE_WITH_ALEF_MAKSURA_FINAL_FORM=fbfa
9ALEF_MAKSURA_INITIAL_FORM=fbfb 9ALEF_MAKSURA_ISOLATED_FORM=fbf9 2WASALLAM_ISOLATED_FORM=fdf8
2YEH_WITH_ALEF_MAKSURA_FINAL_FORM=fc95 6ISOLATED_FORM=fc59 4HAH_INITIAL_FORM=fcdb
5ISOLATED_FORM=fc56 5WITH_YEH_FINAL_FORM=fdae 4HAMZA_ABOVE_WITH_AE_FINAL_FORM=fbed
8ISOLATED_FORM=fbec 7ALEF_FINAL_FORM=fbeb 8ISOLATED_FORM=fbea 8MAKSURA_FINAL_FORM=fc68
9ISOLATED_FORM=fc03 7E_FINAL_FORM=fbf7 8INITIAL_FORM=fbf8 8ISOLATED_FORM=fbf6
7HAH_INITIAL_FORM=fc98 8ISOLATED_FORM=fc01 7HEH_INITIAL_FORM=fc9b 8MEDIAL_FORM=fce0
7JEEM_INITIAL_FORM=fc97 8ISOLATED_FORM=fc00 7KHAH_INITIAL_FORM=fc99 7MEEM_FINAL_FORM=fc66
8INITIAL_FORM=fc9a 8ISOLATED_FORM=fc02 8MEDIAL_FORM=fcdf 7NOON_FINAL_FORM=fc67 7OE_FINAL_FORM=fbf3
8ISOLATED_FORM=fbf2 7REH_FINAL_FORM=fc64 7U_FINAL_FORM=fbf1 8ISOLATED_FORM=fbf0
7WAW_FINAL_FORM=fbef 8ISOLATED_FORM=fbee 7YEH_FINAL_FORM=fc69 8ISOLATED_FORM=fc04
7YU_FINAL_FORM=fbf5 8ISOLATED_FORM=fbf4 7ZAIN_FINAL_FORM=fc65 4HEH_INITIAL_FORM=fcde
5MEDIAL_FORM=fcf1 4JEEM_INITIAL_FORM=fcda 5ISOLATED_FORM=fc55 5WITH_YEH_FINAL_FORM=fdaf
4KHAH_INITIAL_FORM=fcdc 5ISOLATED_FORM=fc57 4MEEM_FINAL_FORM=fc93 5INITIAL_FORM=fcdd
5ISOLATED_FORM=fc58 5MEDIAL_FORM=fcf0 5WITH_MEEM_FINAL_FORM=fd9c 7INITIAL_FORM=fd9d
6YEH_FINAL_FORM=fdb0 4NOON_FINAL_FORM=fc94 4REH_FINAL_FORM=fc91 4YEH_FINAL_FORM=fc96
5ISOLATED_FORM=fc5a 4ZAIN_FINAL_FORM=fc92 2ZAH_WITH_MEEM_INITIAL_FORM=fcb9 5ISOLATED_FORM=fc28
5MEDIAL_FORM=fd3b 1MADDA_WAAJIB=89c 1MADDAH_ABOVE=653 1MARK_NOON_GHUNNA=658
2SIDEWAYS_NOON_GHUNNA=8ff 1MATHEMATICAL_AIN=1ee0f 2ALEF=1ee00 2BEH=1ee01 2DAD=1ee19 2DAL=1ee03
2DOTLESS_BEH=1ee1c 3FEH=1ee1e 3NOON=1ee1d 3QAF=1ee1f 2DOUBLE-STRUCK_AIN=1eeaf 3BEH=1eea1 3DAD=1eeb9
3DAL=1eea3 3FEH=1eeb0 3GHAIN=1eebb 3HAH=1eea7 3JEEM=1eea2 3KHAH=1eeb7 3LAM=1eeab 3MEEM=1eeac
3NOON=1eead 3QAF=1eeb2 3REH=1eeb3 3SAD=1eeb1 3SEEN=1eeae 3SHEEN=1eeb4 3TAH=1eea8 3TEH=1eeb5
3THAL=1eeb8 3THEH=1eeb6 3WAW=1eea5 3YEH=1eea9 3ZAH=1eeba 3ZAIN=1eea6 2FEH=1ee10 2GHAIN=1ee1b
2HAH=1ee07 2INITIAL_AIN=1ee2f 3BEH=1ee21 3DAD=1ee39 3FEH=1ee30 3GHAIN=1ee3b 3HAH=1ee27 3HEH=1ee24
3JEEM=1ee22 3KAF=1ee2a 3KHAH=1ee37 3LAM=1ee2b 3MEEM=1ee2c 3NOON=1ee2d 3QAF=1ee32 3SAD=1ee31
3SEEN=1ee2e 3SHEEN=1ee34 3TEH=1ee35 3THEH=1ee36 3YEH=1ee29 2JEEM=1ee02 2KAF=1ee0a 2KHAH=1ee17
2LAM=1ee0b 2LOOPED_AIN=1ee8f 3ALEF=1ee80 3BEH=1ee81 3DAD=1ee99 3DAL=1ee83 3FEH=1ee90 3GHAIN=1ee9b
3HAH=1ee87 3HEH=1ee84 3JEEM=1ee82 3KHAH=1ee97 3LAM=1ee8b 3MEEM=1ee8c 3NOON=1ee8d 3QAF=1ee92
3REH=1ee93 3SAD=1ee91 3SEEN=1ee8e 3SHEEN=1ee94 3TAH=1ee88 3TEH=1ee95 3THAL=1ee98 3THEH=1ee96
3WAW=1ee85 3YEH=1ee89 3ZAH=1ee9a 3ZAIN=1ee86 2MEEM=1ee0c 2NOON=1ee0d 2OPERATOR_HAH_WITH_DAL=1eef1
3MEEM_WITH_HAH_WITH_TATWEEL=1eef0 2QAF=1ee12 2REH=1ee13 2SAD=1ee11 2SEEN=1ee0e 2SHEEN=1ee14
2STRETCHED_AIN=1ee6f 3BEH=1ee61 3DAD=1ee79 3DOTLESS_BEH=1ee7c 4FEH=1ee7e 3FEH=1ee70 3GHAIN=1ee7b
3HAH=1ee67 3HEH=1ee64 3JEEM=1ee62 3KAF=1ee6a 3KHAH=1ee77 3MEEM=1ee6c 3NOON=1ee6d 3QAF=1ee72
3SAD=1ee71 3SEEN=1ee6e 3SHEEN=1ee74 3TAH=1ee68 3TEH=1ee75 3THEH=1ee76 3YEH=1ee69 3ZAH=1ee7a
2TAH=1ee08 2TAILED_AIN=1ee4f 3DAD=1ee59 3DOTLESS_NOON=1ee5d 4QAF=1ee5f 3GHAIN=1ee5b 3HAH=1ee47
3JEEM=1ee42 3KHAH=1ee57 3LAM=1ee4b 3NOON=1ee4d 3QAF=1ee52 3SAD=1ee51 3SEEN=1ee4e 3SHEEN=1ee54
3YEH=1ee49 2TEH=1ee15 2THAL=1ee18 2THEH=1ee16 2WAW=1ee05 2YEH=1ee09 2ZAH=1ee1a 2ZAIN=1ee06
1NUMBER_MARK_ABOVE=605 2SIGN=600 1OPEN_DAMMATAN=8f1 2FATHATAN=8f0 2KASRATAN=8f2 1PERCENT_SIGN=66a
1PIASTRE_MARK_ABOVE=891 1PLACE_OF_SAJDAH=6e9 1POETIC_VERSE_SIGN=60e 1POUND_MARK_ABOVE=890
1QUESTION_MARK=61f 1RAISED_ROUND_DOT=888 1RAY=608 1REVERSED_DAMMA=65d 1RIGHT_ARROWHEAD_ABOVE=8f8
4WITH_DOT=8fd 3BELOW=8fa 1ROUNDED_HIGH_STOP_WITH_FILLED_CENTRE=6ec 1SEMICOLON=61b 1SHADDA=651
2ISOLATED_FORM=fe7c 2MEDIAL_FORM=fe7d 1SIGN_ALAYHE_ASSALLAM=611 2MISRA=60f 2RADI_ALLAHOU_ANHU=613
2RAHMATULLAH_ALAYHE=612 2SAFHA=603 2SALLALLAHOU_ALAYHE_WASSALLAM=610 2SAMVAT=604 2SANAH=601
2SINDHI_AMPERSAND=6fd 3POSTPOSITION_MEN=6fe 2TAKHALLUS=614 1SMALL_DAMMA=619 2FARSI_YEH=8c9
2FATHA=618 2HIGH_AIN=8d6 3DOTLESS_HEAD_OF_KHAH=6e1 3FARSI_YEH=8ca 3FOOTNOTE_MARKER=8e0 3JEEM=6da
3LAM_ALEF=6d9 3LIGATURE_ALEF_WITH_LAM_WITH_YEH=616 4QAF_WITH_LAM_WITH_ALEF_MAKSURA=6d7
4SAD_WITH_LAM_WITH_ALEF_MAKSURA=6d6 3MADDA=6e4 3MEEM_INITIAL_FORM=6d8 4ISOLATED_FORM=6e2 3NOON=6e8
4WITH_KASRA=8d8 3QAF=8d7 3ROUNDED_ZERO=6df 3SAD=8d5 3SEEN=6dc 3SIGN_SAFHA=8e1 3TAH=615
3THREE_DOTS=6db 3UPRIGHT_RECTANGULAR_ZERO=6e0 3WAW=8f3 3WORD_AL-JUZ=898 4AN-NISF=8dc 4AR-RUB=8d4
4AS-SAJDA=8db 4ATH-THALATHA=8da 4QIF=8de 4SAH=8cc 4SAKTA=8dd 4WAQFA=8df 3YEH=6e7
4BARREE_WITH_TWO_DOTS_BELOW=8cb 3ZAH=8cd 3ZAIN=617 2KASRA=61a 2LOW_MEEM=6ed 3NOON_WITH_KASRA=8d9
3SEEN=6e3 3WAW=8d3 3WORD_IMAALA=89a 4ISHMAAM=899 4TASHEEL=89b 2WAW=6e5 2YEH=6e6
1START_OF_RUB_EL_HIZB=6de 1SUBSCRIPT_ALEF=656 1SUKUN=652 2BELOW=8d0 2ISOLATED_FORM=fe7e
2MEDIAL_FORM=fe7f 1SUPERSCRIPT_ALEF_MOKHASSAS=89d 1SYMBOL_DOT_ABOVE=fbb2 3BELOW=fbb3
2DOUBLE_VERTICAL_BAR_BELOW=fbbc 2FOUR_DOTS_ABOVE=fbba 4BELOW=fbbb 2RING=fbbf 2SMALL_TAH_ABOVE=fbc0
4BELOW=fbc1 2THREE_DOTS_ABOVE=fbb6 4BELOW=fbb7 4POINTING_DOWNWARDS_ABOVE=fbb8 6BELOW=fbb9
2TWO_DOTS_ABOVE=fbb4 4BELOW=fbb5 4VERTICALLY_ABOVE=fbbd 5BELOW=fbbe 2WASLA_ABOVE=fbc2
1TAIL_FRAGMENT=fe73 1TATWEEL=640 2WITH_FATHATAN_ABOVE=fe71 3OVERSTRUCK_HAMZA=883 4WAW=884
3TWO_DOTS_BELOW=885 1THOUSANDS_SEPARATOR=66c 1TONE_LOOP_ABOVE=8ec 3BELOW=8ef 2ONE_DOT_ABOVE=8ea
4BELOW=8ed 2TWO_DOTS_ABOVE=8eb 4BELOW=8ee 1TRIPLE_DOT_PUNCTUATION_MARK=61e 1TURNED_DAMMA_BELOW=8e3
1VERTICAL_TAIL=88e 1VOWEL_SIGN_DOT_BELOW=65c 3INVERTED_SMALL_V_ABOVE=65b 3SMALL_V_ABOVE=65a
1WAVY_HAMZA_BELOW=65f 1ZWARAKAY=659 0ARABIC-INDIC_CUBE_ROOT=606 1DIGIT_EIGHT=668 2FIVE=665
2FOUR=664 2NINE=669 2ONE=661 2SEVEN=667 2SIX=666 2THREE=663 2TWO=662 2ZERO=660 1FOURTH_ROOT=607
1PER_MILLE_SIGN=609 2TEN_THOUSAND_SIGN=60a 0ARC=2312 0ARIES=2648 0ARMENIAN_ABBREVIATION_MARK=55f
1APOSTROPHE=55a 1CAPITAL_LETTER_AYB=531 3BEN=532 3CA=53e 3CHA=549 3CHEH=543 3CO=551 3DA=534
3ECH=535 3EH=537 3ET=538 3FEH=556 3GHAD=542 3GIM=533 3HO=540 3INI=53b 3JA=541 3JHEH=54b 3KEH=554
3KEN=53f 3LIWN=53c 3MEN=544 3NOW=546 3OH=555 3PEH=54a 3PIWR=553 3RA=54c 3REH=550 3SEH=54d 3SHA=547
3TIWN=54f 3TO=539 3VEW=54e 3VO=548 3XEH=53d 3YI=545 3YIWN=552 3ZA=536 3ZHE=53a 1COMMA=55d
1DRAM_SIGN=58f 1EMPHASIS_MARK=55b 1EXCLAMATION_MARK=55c 1FULL_STOP=589 1HYPHEN=58a
1MODIFIER_LETTER_LEFT_HALF_RING=559 1QUESTION_MARK=55e 1SMALL_LETTER_AYB=561 3BEN=562 3CA=56e
3CHA=579 3CHEH=573 3CO=581 3DA=564 3ECH=565 3EH=567 3ET=568 3FEH=586 3GHAD=572 3GIM=563 3HO=570
3INI=56b 3JA=571 3JHEH=57b 3KEH=584 3KEN=56f 3LIWN=56c 3MEN=574 3NOW=576 3OH=585 3PEH=57a 3PIWR=583
3RA=57c 3REH=580 3SEH=57d 3SHA=577 3TIWN=57f 3TO=569 3TURNED_AYB=560 3VEW=57e 3VO=578 3XEH=56d
3YI=575 4WITH_STROKE=588 3YIWN=582 3ZA=566 3ZHE=56a 2LIGATURE_ECH_YIWN=587 3MEN_ECH=fb14 4INI=fb15
4NOW=fb13 4XEH=fb17 3VEW_NOW=fb16 0ARROW_POINTING_DOWNWARDS_THEN_CURVING_LEFTWARDS=2936
5RIGHTWARDS=2937 2RIGHTWARDS_THEN_CURVING_DOWNWARDS=2935 5SOUTH_WEST=1f8b1 5UPWARDS=2934
2UPWARDS_THEN_NORTH_WEST=1f8b0 0ARROWHEAD-SHAPED_POINTER=1fbb0 0ARTICULATED_LORRY=1f69b
0ARTIST_PALETTE=1f3a8 0ASCENDING_NODE=260a 0ASCIA_SYMBOL=1019c 0ASSERTION=22a6 0ASTERISK=2a
1OPERATOR=2217 0ASTERISM=2042 0ASTONISHED_FACE=1f632 0ASTRAEA=2bd9
0ASTRONOMICAL_SYMBOL_FOR_URANUS=26e2 0ASYMPTOTICALLY_EQUAL_TO=2243 0ATHLETIC_SHOE=1f45f
0ATOM_SYMBOL=269b 0AUBERGINE=1f346 0AUSTRAL_SIGN=20b3 0AUTO_RICKSHAW=1f6fa
0AUTOMATED_TELLER_MACHINE=1f3e7 0AUTOMOBILE=1f697 0AVESTAN_ABBREVIATION_MARK=10b39 1LETTER_A=10b00
2AA=10b01 2AAN=10b05 2AAO=10b03 2AE=10b06 2AEE=10b07 2AN=10b04 2AO=10b02 2BE=10b20 2BHE=10b21
2CE=10b17 2DE=10b1b 2DHE=10b1c 2E=10b08 2EE=10b09 2FE=10b1f 2GE=10b14 2GGE=10b15 2GHE=10b16
2HE=10b35 2HME=10b29 2I=10b0c 2II=10b0d 2JE=10b18 2KE=10b10 2LE=10b2e 2ME=10b28 2NE=10b25
2NGE=10b22 2NGVE=10b24 2NGYE=10b23 2NNE=10b27 2NYE=10b26 2O=10b0a 2OO=10b0b 2PE=10b1e 2RE=10b2d
2SE=10b2f 2SHE=10b31 2SHYE=10b33 2SSHE=10b34 2TE=10b19 2THE=10b1a 2TTE=10b1d 2U=10b0e 2UU=10b0f
2VE=10b2c 2XE=10b11 2XVE=10b13 2XYE=10b12 2YE=10b2b 2YYE=10b2a 2ZE=10b30 2ZHE=10b32 0AVOCADO=1f951
0AXE=1fa93"

/-- Names that begin with `B`. -/
def namesB : String :=
  "0BABY=1f476 1ANGEL=1f47c 1BOTTLE=1f37c 1CHICK=1f424 1SYMBOL=1f6bc 0BACK_OF_ENVELOPE=1f582
1WITH_LEFTWARDS_ARROW_ABOVE=1f519 0BACK-TILTED_SHADOWED_WHITE_RIGHTWARDS_ARROW=27ab
0BACKSLANTED_SOUTH_ARROW_WITH_HOOKED_TAIL=2b5b 4HORIZONTAL_TAIL=2b5d 0BACKSPACE=8 0BACON=1f953
0BACTRIAN_CAMEL=1f42b 0BADGER=1f9a1 0BADMINTON_RACQUET_AND_SHUTTLECOCK=1f3f8 0BAGEL=1f96f
0BAGGAGE_CLAIM=1f6c4 0BAGUETTE_BREAD=1f956 0BALINESE_ADEG_ADEG=1b44 1CARIK_PAMUNGKAH=1b5d
2PAREREN=1b5f 2SIKI=1b5e 1DIGIT_EIGHT=1b58 2FIVE=1b55 2FOUR=1b54 2NINE=1b59 2ONE=1b51 2SEVEN=1b57
2SIX=1b56 2THREE=1b53 2TWO=1b52 2ZERO=1b50 1LETTER_AIKARA=1b10 2AKARA=1b05 3TEDUNG=1b06
2ARCHAIC_JNYA=1b4c 2ASYURA_SASAK=1b4b 2BA=1b29 3KEMBANG=1b2a 2CA=1b18 3LACA=1b19 2DA=1b24
3MADU=1b25 3MURDA_ALPAPRANA=1b1f 4MAHAPRANA=1b20 2EF_SASAK=1b48 2EKARA=1b0f 2GA=1b15 3GORA=1b16
2HA=1b33 2IKARA=1b07 3TEDUNG=1b08 2JA=1b1a 3JERA=1b1b 2KA=1b13 3MAHAPRANA=1b14 2KAF_SASAK=1b45
2KHOT_SASAK=1b46 2LA=1b2e 3LENGA=1b0d 4TEDUNG=1b0e 2MA=1b2b 2NA=1b26 3RAMBAT=1b21 2NGA=1b17
2NYA=1b1c 2OKARA=1b11 3TEDUNG=1b12 2PA=1b27 3KAPAL=1b28 2RA=1b2d 3REPA=1b0b 4TEDUNG=1b0c 2SA=1b32
3SAGA=1b30 3SAPA=1b31 2TA=1b22 3LATIK=1b1d 3MURDA_MAHAPRANA=1b1e 3TAWA=1b23 2TZIR_SASAK=1b47
2UKARA=1b09 3TEDUNG=1b0a 2VE_SASAK=1b49 2WA=1b2f 2YA=1b2c 2ZAL_SASAK=1b4a
1MUSICAL_SYMBOL_COMBINING_BENDE=1b72 4ENDEP=1b6c 4GONG=1b73 4JEGOGAN=1b6f 4KEMPLI=1b6e
5WITH_JEGOGAN=1b71 4KEMPUL=1b6d 5WITH_JEGOGAN=1b70 4TEGEH=1b6b 3DAENG=1b67 3DAING=1b69 3DANG=1b64
4GEDE=1b6a 4SURANG=1b65 3DENG=1b62 3DEUNG=1b68 3DING=1b66 3DONG=1b61 3DUNG=1b63
3LEFT-HAND_CLOSED_PLAK=1b7a 5PLUK=1b7b 4OPEN_PANG=1b78 5PING=1b7c 5PUNG=1b79
3RIGHT-HAND_CLOSED_TAK=1b77 5TUK=1b76 4OPEN_DAG=1b75 5DUG=1b74 1PAMADA=1b5b 2LANTANG=1b7e
1PAMENENG=1b60 1PANTI=1b5a 2LANTANG=1b7d 1SIGN_BISAH=1b04 2CECEK=1b02 2REREKAN=1b34 2SURANG=1b03
2ULU_CANDRA=1b01 3RICEM=1b00 1VOWEL_SIGN_LA_LENGA=1b3c 5TEDUNG=1b3d 3PEPET=1b42 4TEDUNG=1b43
3RA_REPA=1b3a 5TEDUNG=1b3b 3SUKU=1b38 4ILUT=1b39 3TALING=1b3e 4REPA=1b3f 5TEDUNG=1b41 4TEDUNG=1b40
3TEDUNG=1b35 3ULU=1b36 4SARI=1b37 1WINDU=1b5c 0BALL_OF_YARN=1f9f6 0BALLET_SHOES=1fa70
0BALLOON=1f388 0BALLOON-SPOKED_ASTERISK=2749 0BALLOT_BOLD_SCRIPT_X=1f5f6 1BOX=2610
2WITH_BALLOT=1f5f3 3BOLD_CHECK=1f5f9 4SCRIPT_X=1f5f7 3CHECK=2611 3LIGHT_X=2bbd 3SCRIPT_X=1f5f5
3X=2612 1SCRIPT_X=1f5f4 1X=2717 0BAMUM_COLON=a6f4 1COMBINING_MARK_KOQNDON=a6f0 3TUKWENTIS=a6f1
1COMMA=a6f5 1FULL_STOP=a6f3 1LETTER_A=a6a0 2EE=a6a4 2FAAMAE=a6ed 2FEE=a6cb 2FOM=a6d9 2FU=a6d8
2I=a6a9 2KA=a6a1 2KEN=a6d2 2KET=a6bb 2KEUX=a6c4 2KI=a6e5 2KO=a6df 2KOGHOM=a6ef 2KOVUU=a6ee
2KPA=a6e9 2KU=a6a3 2KYEE=a6ba 2LA=a6aa 2LEEEE=a6ae 2LI=a6dc 2LOQ=a6de 2LU=a6cd 2M=a6b3 2MA=a6e3
2MBAA=a6e7 2MBEN=a6e0 2MEEEE=a6af 2MEN=a6e2 2MI=a6ce 2MO=a6e6 2MU=a6b5 2NA=a6db 2NDAA=a6b1
2NGA=a6d5 2NGGA=a6d4 2NGKWAEN=a6d3 2NI=a6cf 2NJAEM=a6b2 2NJEE=a6c6 2NJUAE=a6be 2NSHA=a6c3
2NTEE=a6c7 2NTUU=a6eb 2NU=a6bd 2NUAE=a6bc 2NYI=a6a8 2O=a6a7 2PA=a6ab 2PEE=a6ca 2PEUX=a6c5
2PHASE-A_FIRI=16839 3GBIEE_FON=16801 3GHEUAEGHEUAE=16821 3GHEUAERAE=1681c 3KAFA=16827 3KAQ=16850
3KET=16833 3KEUKEUTNDA=16813 3KPOQ=1683b 3KUOQ=16835 3LAPAQ=16817 3LET_KUT=16818 3LOMMAE=16838
3LU=16853 3LUAEP=1682f 3MAEKEUP=1681a 3MAEM=1684e 3MAEMBGBIEE=1680b 3MAEMKPEN=1682b 3MAEMVEUX=1680e
3MAENYI=16832 3MAESI=16846 3MANSUAE=1680f 3MAP_PIEET=1683d 3MBANYI=16848 3MBAQ=16856
3MEUNJOMNDEUQ=16825 3MGBASA=16824 3MON_NGGEUAET=1681e 3MOOMEUT=16836 3MOOMPUQ=16826
3MVEUAENGAM=16810 3NAA_MFON=16804 3NAQ=16855 3NDA_LEERAEWA=16829 3NDAANGGEUAET=16834 3NEN=16854
3NGANGU=1680d 3NGGEN=16845 3NGKUE_MFON=16800 3NGKUENZEUM=16816 3NIKA=1682c 3NJAM=16847
3NKAARAE=16843 3NKINDI=16814 3NSHA=16851 3NSHIEE=1684d 3NTAP=1683f 4MFAA=16819 4NTAA=16822
3NTOQPEN=16812 3NYET=16849 3NYI=1684f 3NYIT_MONGKEUAEQ=16841 3NZA_MFON=16807 3NZUN_MEUT=1681f
3PA_LEERAEWA=16828 3PAAM=1684c 3PAARAE=16842 3PAMSHAE=1681d 3PASHAE=1681b 3PET=1682a
3PON_MFON_PIPAEMBA=16803 5PIPAEMGBIEE=16802 4PA_NJI_PIPAEMBA=1680a 6PIPAEMGBIEE=16809 3PUP=1682d
3ROM=1683a 3SEUNYAM=16811 3SHINDA_PA_NJI=16808 3SHIRAE=1683e 3SHOQ_NSHUT_YUM=16840
3SHUENSHUET=16805 3SHUM=16837 3SISA=16823 3SONJAM=16830 3SOQ=1683c 3SOT=1684b 3SUU=16815
3TEUAEN=1684a 3TEUTEUWEN=16831 3TITA_MFON=16806 3TU_MAEMBA=1680c 3TUAEP=1682e 3U_YUQ_NAE=16820
3UNKNOWN=16844 3VEE=16852 2PHASE-B_FEE=16885 3FEUX=16883 3GHEUGHEN=1686f 3GHEUGHEUAEM=16866
3KAM=16860 3KEUAEM=16886 3KEUPUQ=1686e 3KEUYEUX=16870 3KIEEM=1685d 3KIQ=1688d 3LAANAE=16871
3LAM_NSHUT_NYAM=16863 3LET=16889 3LOM_NTEUM=1685b 3MA=1688c 4NJEUAENA=16887 4NJUQA=16888
3MBA_MAELEE=1685c 3MBAARAE=1685f 3MBEURI=1687e 3MBIT_MBAAKET=1686c 3MBUOQ=16884 3MEUQ=16879
3MEUT_NGGEET=16882 3MFIYAQ=1687c 3MFON_TEUAEQ=1686b 3MONTIEEN=1687f 3NDU_NJAA=16865 3NGGAAM=1688a
3NGGEU_MBU=16875 3NGGUOQ=1687a 4LARGE=1687b 3NGKINDI_MVOP=16874 3NGOM=1688e 3NSEN=1688b
3NSHUET=16857 3NTIEE_SHEUOQ=16864 3NYAEMAE=16880 3NYI_NTEUM=1686d 3PARUM=16872 3PEESHI=16861
3PIT=16867 3PUNGAAM=16881 3SAKEUAE=16877 3SET_TU=1685a 3SHET_NJAQ=16869 3SHEUAEQTU=1686a
3SIEE=16859 3SUE=1687d 3TAAM=16878 3TU_MAEMGBIEE=16858 4NSIEE=16868 3VEUM=16873 3WUAET=16876
3YAFU_LEERAEWA=16862 3YEURAE=1685e 2PHASE-C_BUNG=168c0 3FUE=168bc 3GBAYI=16898 3GHAP=168a0
3GHARAE=16896 3KAA=168a9 3KEN_FATIGUE=168ea 4LAW=168e9 3KET=168c9 3KEUKAQ=168a1 3KEUM=168e2
3KEUSEUX=168e0 3KEUSHEUAEP=1689f 3KPARAQ=168a8 3KUOP_NKAARAE=168d5 3KUT=168ce 3LAM=168c5 3LAP=168b6
3LIQ=168ed 3LU=168cd 3MA_KEUAERI=168b3 4NSIEE=168d8 3MAEMBA=168de 3MAESI=168cb
3MBAA_CABBAGE-TREE=1689e 4PICKET=168e3 3MBANYI=168df 3MBEEKEET=16897 3MBERAE=168c2 3MBEUM=1689b
3MBEUX=168e1 3MBI=168dd 3MBIRIEEN=168b7 3MBIT=168a6 3MBUAEM=168cc 3MBUE=168a4 3MGBASAQ=168b8
3MIEE=168e6 3MUAE=168e7 3NANSANAQ=168b2 3NAQ=168ec 3NDAM=168d7 3NDAP=168da 3NDEUAEREE=16894
3NDEUT=168bd 3NDIDA=168ab 3NDOMBU=1689d 3NGAQ=168eb 3NGGEN=16893 3NGGU=168ca 3NGGUAEN_NYAM=168b0
3NGGUEET=168d2 3NGGUM=168bb 3NGGUON=168b5 3NGKAQ=16895 3NGKUE_MAEMBA=1688f 3NGOM=168d0 3NJAEM=168c4
3NJAM=168cf 3NJEEEE=168c8 3NJEUX=168e5 3NJUEQ=168ad 3NSA=168be 3NSEUAEN=168a5 3NSHAQ=168bf
3NSOM=168d3 3NSUN=168d6 3NSUOT_NGOM=168c7 3NTAA=168b4 3NTEN=168d4 3NTEUNGBA=168b9 3NTU_MBIT=1689a
3NYIR_MKPARAQ_MEUN=16899 3NZA=16890 3NZEUM=168a3 3PEN=168ef 3PIN=168ee 3PIRIEEN=1689c 3RU=168c3
3SETFON=168dc 3SEUX=168aa 3SHIQ=168e8 3SHUEQ=168db 3SUAET=168af 3TAASHAE=168ac 3TET=168f0
3TEUTEUX=168ba 3TITA_YUE=168ae 3TITUAEP=168c6 3VEUAEPEN=168c1 3VEUX=168b1 3WANGKUOQ=16892
3WUP=168d1 3YAA=168d9 3YEUQ=168a7 3YU_MUOMAE=168a2 3YUM=16891 3YUWOQ=168e4 2PHASE-D_FAA=16965
3FEUFEUAET=16914 3GHAA=16912 3GHEUAE=16948 3KET=16904 3KEUAETMEUN=168ff 3KEUM=16926
3KEUOT_MBUAE=1690f 3KEUP=1692c 3KU=16949 3KUN=1693a 3KUOM=16906 3KUQ=1693f 3KWAET=16921 3KYEE=16956
3LEEEE=1694f 3LET=16930 3LEUAEP=16917 3LEUM=16944 3LIEE=168f6 3LOQ=1695f 3LUM=1691e 3M=16951
3MAENJET=16942 3MALEERI=1690a 3MBAA=16920 4SEVEN=16963 3MBUO=168f1 3MEEEE=16950 3MEUN=1693e
3MEUT=1690b 3MFEUAE=1692a 3MFEUT=16908 3MFIEE=16932 3MFO=1691d 3MFON=168f4 3MGBEUN=1691a
3MGBIEE=1691c 3MGBOFUM=16916 3MONI=16919 3MU=16953 3MVOP=1695e 3NDAM=16937 3NDEE=16915 3NDEUX=16909
3NDON=16918 3NGGAAM=16931 3NGGAAMAE=168f9 3NGGAP=16943 3NGGEUX=1693b 3NGGUOM=16945 3NGGWAEN=16933
3NGKAP=168fe 3NGKEUAEQ=16929 3NGKEURI=16910 3NGKIEE=1693c 3NGKUN=168fc 3NGKYEE=16913 3NI=1695b
3NJAP=16902 3NJEUAEM=1690e 3NJEUT=168f7 3NJI=168f3 3NJIEE=168f5 3NJUEQ=16947 3NSHEE=168f8
3NSHUT=16946 3NSIEEP=1691f 3NSIEET=1692b 3NSUM=16940 3NTEE=16959 3NTEUM=16938 3NTUU=16962 3NU=16957
3NYAM=168fa 3NYET=16922 3NYI=1694d 3NYUE=1692f 3PAP=16935 3PEE=1695a 3PEUTAE=1692e 3PIP=1692d
3PUQ=1695d 3PUUT=1691b 3RAEM=16927 3REN_MUCH=16960 4OLD=1694a 3RII=1694e 3SAP=16907 3SAQ=16964
3SEUAEQ=1690c 3SHEE=168fd 3SHEUAE=16901 3SHEUX=16955 3SHII=16954 3SHOQ=1695c 3SHU=16958 3SOT=16924
3SUAE=16939 3SUE=16903 3SUU=16952 3TAE=1694b 3TEEEE=16928 3TEUAEN=16923 3TEUN=16941 3TEUT=16900
3TI=16961 3TOQ=1694c 3TU=16911 3TUOT=1693d 3WAP=168f2 3WUAEN=168fb 3YAEMMAE=16905 3YEN=1690d
3YUOM=16934 3YUOP=16936 3YUWOQ=16925 2PHASE-E_A=169d5 3FA=169bb 3FAQ=16a01 3FEE=169eb 3FOM=169d3
3FU_CALL=169d2 4I=169c8 4REMEDY=169f5 3FUE=169b4 3FUET=169c4 3GBET=169a9 3GBEUX=169b5
3GHAAMAE=169a2 3GHET=169ba 3GHEUAE=169c7 3GHEUN=16995 3GHEUX=16988 3GHOM=16a02 3I=169d8 3KET=169b7
3KEUAE=1699a 3KEUX=169e6 3KI=169fe 3KO=169f9 3KPEUX=16974 3KUET=169ab 3KUOP=1697a 3KUT=169cc
3LAAM=1699f 3LAP=16969 3LAQ=169d9 3LEUAEM=169b3 3LOM=1697b 3LOON=1696b 3LOOT=1698c 3LOQ=169f8
3LU=169ed 3MA=169fb 3MAE=169b8 3MAEM=1697e 3MAP=1698b 3MAQ=169fc 3MBEE=169a6 3MBEUM=16968
3MEN=169fa 3MFEUQ=169af 3MGBA=16987 3MGBEN=169a5 3MI=169ee 3MIEE=169c3 3MON=169ff 3MUAE=169c6
3MVI=169c9 3NA=169f6 3NAE=169c5 3NDAA_MY_HOUSE=169dd 4SOFTNESS=16992 3NDAP=16966 3NDIAQ=169b0
3NDIQ=1698e 3NDUN=16970 3NGA=169f2 3NGEUREUT=169a3 3NGGEEEE=1698d 3NGGEUAE=169bf 3NGGEUAET=16977
3NGGUAESHAE_NYAM=16993 3NGGUP=169d0 3NGGURAE=16986 3NGKA=16973 3NGKAAMI=169b9 3NGKEUAEM=16989
3NGKEUX=1697f 3NGKUM=169cb 3NGKUP=169b6 3NGOP=1697d 3NGOQ=16980 3NGUAE=169e0 3NGUAET=169f1
3NJAEMLI=1698a 3NJEE=169d4 4EPOCH=169e8 3NJEUX=16983 3NKOM=169a8 3NSHIEE=1697c 3NSHUE=16981
3NSHUOP=1696f 3NTAP=169ce 3NTUM=169bc 3NYI_BETWEEN=169c0 4CLEAVER=169ad 3NZAQ=169a7 3NZUQ=169c1
3O=169d7 3PA_PEOPLE=169d1 4PLURAL=169da 3PAA=1696c 3PAAM=16978 3PEEM=16984 3PEUT=169bd 3PEUX=169e7
3PI=169f7 3PIEEQ=169b1 3PIET=169cd 3PO=16998 3POON=169c2 3PU=169a0 3PUAE=16971 3PUAQ=169ca
3PUE=169e9 3PUM=16991 3RAE=169f0 3RAQ=1696e 3REUX=169ef 3RIMGBA=16982 3SAA=16985 3SEE=16976
3SET=16990 3SHEUAEQ=169a4 3SHIQ=169de 3SHO=169f3 3SHOQ=169f4 3SOM=1696d 3SUAEN=1699b 3TAA=169db
3TAAQ=169a1 3TAEN_NTEUM=1698f 3TAM=16972 3TAQ=169dc 3TEN=16a00 3TEU=169fd 3TEUAEQ=1699c 3TOO=16979
3TOON=16967 3TOQ=169d6 3TUAE=16996 3TUM=169aa 3TUMAE=16999 3VEE=169ec 3VEUAE=1699d 3VOM=1696a
3WEUX=1699e 3WUE=169ea 3WUO=16975 3YAP=169ac 3YEUAE=16997 3YEUAET=169cf 3YEUM=169be 3YEUX=169df
3YIEE=16994 3YIT=169ae 3YOQ_COVER=169e3 4SWIMMING=169e2 3YUAEN=169e1 3YUEQ=169b2 3YUN=169e5
3YUQ=169e4 2PHASE-F_EE=16a06 3FOM=16a2b 3KA=16a03 3KEN=16a26 3KET=16a17 3KO=16a2f 3KPA=16a36
3KU=16a05 3KYEE=16a16 3LA=16a0a 3LI=16a2d 3LOQ=16a2e 3M=16a11 3MA=16a32 3MBAA=16a34 3MBEN=16a30
3MEEEE=16a0d 3MO=16a33 3NDAA=16a0f 3NGGA=16a28 3NGKWAEN=16a27 3NI=16a24 3NJAEM=16a10 3NJUAE=16a1a
3NSHA=16a1e 3NTEE=16a20 3NU=16a19 3NUAE=16a18 3NYI=16a09 3PEE=16a22 3PEUX=16a1f 3PUAE=16a2a
3REE=16a07 3REN=16a31 3REUX=16a25 3RIEE=16a0c 3RII=16a0b 3RU=16a23 3SAMBA=16a37 3SEUX=16a15
3SHII=16a13 3SHO=16a29 3SHU=16a1c 3SI=16a14 3SUU=16a12 3TAA=16a0e 3TAE=16a08 3TET=16a35 3U=16a04
3VUEQ=16a38 3WA=16a2c 3WUE=16a21 3YA=16a1d 3YOQ=16a1b 2PI=a6dd 2PUAE=a6d7 2PUE=a6c8 2RAE=a6d1
2REE=a6a5 2REN=a6e1 2REUX=a6d0 2RIEE=a6ad 2RII=a6ac 2RU=a6cc 2SAMBA=a6ec 2SEUX=a6b9 2SHEUX=a6b8
2SHII=a6b6 2SHO=a6d6 2SHU=a6c0 2SI=a6b7 2SUU=a6b4 2TAA=a6b0 2TAE=a6a6 2TEN=a6ea 2TET=a6e8 2TI=a6e4
2U=a6a2 2WA=a6da 2WUE=a6c9 2YA=a6c2 2YOQ=a6bf 2YUQ=a6c1 1NJAEMLI=a6f2 1QUESTION_MARK=a6f7
1SEMICOLON=a6f6 0BANANA=1f34c 0BANJO=1fa95 0BANK=1f3e6 0BANKNOTE_WITH_DOLLAR_SIGN=1f4b5
2EURO_SIGN=1f4b6 2POUND_SIGN=1f4b7 2YEN_SIGN=1f4b4 0BAR_CHART=1f4ca 1OF_SOAP=1f9fc
0BARBER_POLE=1f488 0BASEBALL=26be 0BASKET=1f9fa 0BASKETBALL_AND_HOOP=1f3c0
0BASSA_VAH_COMBINING_HIGH_TONE=16af0 3HIGH-LOW_TONE=16af4 3LOW_TONE=16af1 3LOW-MID_TONE=16af3
3MID_TONE=16af2 2FULL_STOP=16af5 2LETTER_A=16ae7 3BA=16ae2 3CE=16adf 3DHII=16ad7 3DO=16ade 3E=16aec
3EE=16aeb 3ENNI=16ad0 3FA=16ad3 3GAH=16ad6 3GBU=16add 3HWAH=16ada 3I=16aed 3JO=16ad9 3KA=16ad1
3KPAH=16ad8 3MBE=16ad4 3O=16ae8 3OO=16ae9 3PA=16ae5 3SE=16ad2 3TO=16ae1 3U=16aea 3UWU=16ae0
3VU=16ae3 3WA=16adb 3WADDA=16ae6 3YEIN=16ae4 3YIE=16ad5 3ZO=16adc 0BAT=1f987
0BATAK_CONSONANT_SIGN_H=1bf1 3NG=1bf0 1LETTER_A=1bc0 2BA=1bc5 2CA=1be1 2DA=1bd1 2GA=1bce 2HA=1bc2
2I=1be4 2JA=1bd0 2KARO_BA=1bc6 2LA=1bde 2MA=1bd4 2MANDAILING_HA=1bc4 3NA=1bca 3SA=1bda 2MBA=1be3
2NA=1bc9 2NDA=1be2 2NGA=1bdd 2NORTHERN_TA=1bd7 2NYA=1be0 2PA=1bc7 2PAKPAK_WA=1bcd 2RA=1bd2 2SA=1bd8
2SIMALUNGUN_A=1bc1 3GA=1bcf 3HA=1bc3 3LA=1bdf 3MA=1bd5 3PA=1bc8 3RA=1bd3 3SA=1bd9 3WA=1bcc 3YA=1bdc
2SOUTHERN_TA=1bd6 2U=1be5 2WA=1bcb 2YA=1bdb 1PANGOLAT=1bf2 1PANONGONAN=1bf3 1SIGN_TOMPI=1be6
1SYMBOL_BINDU_JUDUL=1bfe 3NA_METEK=1bfc 3PANGOLAT=1bff 3PINARBORAS=1bfd 1VOWEL_SIGN_E=1be7 3EE=1be9
3I=1bea 3KARO_I=1beb 4O=1bed 3O=1bec 3PAKPAK_E=1be8 3U=1bee 4FOR_SIMALUNGUN_SA=1bef 0BATH=1f6c0
0BATHTUB=1f6c1 0BATTERY=1f50b 0BEACH_WITH_UMBRELLA=1f3d6 0BEAMED_ASCENDING_MUSICAL_NOTES=1f39c
1DESCENDING_MUSICAL_NOTES=1f39d 1EIGHTH_NOTES=266b 1SIXTEENTH_NOTES=266c 0BEANS=1fad8
0BEAR_FACE=1f43b 0BEARDED_PERSON=1f9d4 0BEATING_HEART=1f493 0BEAVER=1f9ab 0BECAUSE=2235 0BED=1f6cf
0BEER_MUG=1f37a 0BEETLE=1fab2 0BEL=7 0BELL=1f514 1PEPPER=1fad1 1SYMBOL=237e
1WITH_CANCELLATION_STROKE=1f515 0BELLHOP_BELL=1f6ce 0BENGALI_ABBREVIATION_SIGN=9fd 1ANJI=980
1AU_LENGTH_MARK=9d7 1CURRENCY_DENOMINATOR_SIXTEEN=9f9 2NUMERATOR_FOUR=9f7 3ONE=9f4
4LESS_THAN_THE_DENOMINATOR=9f8 3THREE=9f6 3TWO=9f5 1DIGIT_EIGHT=9ee 2FIVE=9eb 2FOUR=9ea 2NINE=9ef
2ONE=9e7 2SEVEN=9ed 2SIX=9ec 2THREE=9e9 2TWO=9e8 2ZERO=9e6 1GANDA_MARK=9fb 1ISSHAR=9fa
1LETTER_A=985 2AA=986 2AI=990 2AU=994 2BA=9ac 2BHA=9ad 2CA=99a 2CHA=99b 2DA=9a6 2DDA=9a1 2DDHA=9a2
2DHA=9a7 2E=98f 2GA=997 2GHA=998 2HA=9b9 2I=987 2II=988 2JA=99c 2JHA=99d 2KA=995 2KHA=996
2KHANDA_TA=9ce 2LA=9b2 2MA=9ae 2NA=9a8 2NGA=999 2NNA=9a3 2NYA=99e 2O=993 2PA=9aa 2PHA=9ab 2RA=9b0
3WITH_LOWER_DIAGONAL=9f1 4MIDDLE_DIAGONAL=9f0 2RHA=9dd 2RRA=9dc 2SA=9b8 2SHA=9b6 2SSA=9b7 2TA=9a4
2THA=9a5 2TTA=99f 2TTHA=9a0 2U=989 2UU=98a 2VEDIC_ANUSVARA=9fc 2VOCALIC_L=98c 3LL=9e1 3R=98b
3RR=9e0 2YA=9af 2YYA=9df 1RUPEE_MARK=9f2 2SIGN=9f3 1SANDHI_MARK=9fe 1SIGN_ANUSVARA=982
2AVAGRAHA=9bd 2CANDRABINDU=981 2NUKTA=9bc 2VIRAMA=9cd 2VISARGA=983 1VOWEL_SIGN_AA=9be 3AI=9c8
3AU=9cc 3E=9c7 3I=9bf 3II=9c0 3O=9cb 3U=9c1 3UU=9c2 3VOCALIC_L=9e2 4LL=9e3 4R=9c3 4RR=9c4
0BENT_ARROW_POINTING_DOWNWARDS_THEN_NORTH_EAST=2b5e 0BENTO_BOX=1f371 0BENZENE_RING=232c
2WITH_CIRCLE=23e3 0BET_SYMBOL=2136 0BETWEEN=226c 0BEVERAGE_BOX=1f9c3 0BHAIKSUKI_DANDA=11c41
1DIGIT_EIGHT=11c58 2FIVE=11c55 2FOUR=11c54 2NINE=11c59 2ONE=11c51 2SEVEN=11c57 2SIX=11c56
2THREE=11c53 2TWO=11c52 2ZERO=11c50 1DOUBLE_DANDA=11c42 1GAP_FILLER-1=11c44 2FILLER-2=11c45
1HUNDREDS_UNIT_MARK=11c6c 1LETTER_A=11c00 2AA=11c01 2AI=11c0b 2AU=11c0d 2BA=11c24 2BHA=11c25
2CA=11c13 2CHA=11c14 2DA=11c1f 2DDA=11c1a 2DDHA=11c1b 2DHA=11c20 2E=11c0a 2GA=11c10 2GHA=11c11
2HA=11c2e 2I=11c02 2II=11c03 2JA=11c15 2JHA=11c16 2KA=11c0e 2KHA=11c0f 2LA=11c29 2MA=11c26
2NA=11c21 2NGA=11c12 2NNA=11c1c 2NYA=11c17 2O=11c0c 2PA=11c22 2PHA=11c23 2RA=11c28 2SA=11c2d
2SHA=11c2b 2SSA=11c2c 2TA=11c1d 2THA=11c1e 2TTA=11c18 2TTHA=11c19 2U=11c04 2UU=11c05 2VA=11c2a
2VOCALIC_L=11c08 3R=11c06 3RR=11c07 2YA=11c27 1NUMBER_EIGHT=11c61 2EIGHTY=11c6a 2FIFTY=11c67
2FIVE=11c5e 2FORTY=11c66 2FOUR=11c5d 2NINE=11c62 2NINETY=11c6b 2ONE=11c5a 2SEVEN=11c60
2SEVENTY=11c69 2SIX=11c5f 2SIXTY=11c68 2TEN=11c63 2THIRTY=11c65 2THREE=11c5c 2TWENTY=11c64
2TWO=11c5b 1SIGN_ANUSVARA=11c3d 2AVAGRAHA=11c40 2CANDRABINDU=11c3c 2VIRAMA=11c3f 2VISARGA=11c3e
1VOWEL_SIGN_AA=11c2f 3AI=11c39 3AU=11c3b 3E=11c38 3I=11c30 3II=11c31 3O=11c3a 3U=11c32 3UU=11c33
3VOCALIC_L=11c36 4R=11c34 4RR=11c35 1WORD_SEPARATOR=11c43 0BICYCLE=1f6b2 0BICYCLIST=1f6b4
0BIG_REVERSE_SOLIDUS=29f9 1SOLIDUS=29f8 0BIKINI=1f459 0BILLED_CAP=1f9e2 0BILLIARDS=1f3b1
0BIOHAZARD_SIGN=2623 0BIRD=1f426 0BIRTHDAY_CAKE=1f382 0BISON=1f9ac 0BITCOIN_SIGN=20bf
0BITING_LIP=1fae6 0BLACK_BOWTIE=29d3 1CENTRE_WHITE_STAR=272c 1CHESS_BISHOP=265d
3ROTATED_NINETY_DEGREES=1fa12 4TWO_HUNDRED_SEVENTY_DEGREES=1fa3c 2EQUIHOPPER=1fa49
3ROTATED_NINETY_DEGREES=1fa4c 2KING=265a 3ROTATED_NINETY_DEGREES=1fa0f
4TWO_HUNDRED_SEVENTY_DEGREES=1fa39 2KNIGHT=265e 3ROTATED_FORTY-FIVE_DEGREES=1fa07
4NINETY_DEGREES=1fa13 4ONE_HUNDRED_THIRTY-FIVE_DEGREES=1fa1c 4THREE_HUNDRED_FIFTEEN_DEGREES=1fa46
4TWO_HUNDRED_SEVENTY_DEGREES=1fa3d 6TWENTY-FIVE_DEGREES=1fa31 2KNIGHT-BISHOP=1fa53
2KNIGHT-QUEEN=1fa51 2KNIGHT-ROOK=1fa52 2PAWN=265f 3ROTATED_NINETY_DEGREES=1fa14
4TWO_HUNDRED_SEVENTY_DEGREES=1fa3e 2QUEEN=265b 3ROTATED_NINETY_DEGREES=1fa10
4TWO_HUNDRED_SEVENTY_DEGREES=1fa3a 2ROOK=265c 3ROTATED_NINETY_DEGREES=1fa11
4TWO_HUNDRED_SEVENTY_DEGREES=1fa3b 2TURNED_BISHOP=1fa27 3KING=1fa24 3KNIGHT=1fa28 3PAWN=1fa29
3QUEEN=1fa25 3ROOK=1fa26 1CIRCLE=25cf 2FOR_RECORD=23fa 2WITH_DOWN_ARROW=29ed 3TWO_WHITE_DOTS=2689
3WHITE_DOT_RIGHT=2688 1CLUB_SUIT=2663 1CROSS_ON_SHIELD=26e8
1CURVED_DOWNWARDS_AND_LEFTWARDS_ARROW=2ba8 4RIGHTWARDS_ARROW=2ba9
2LEFTWARDS_AND_DOWNWARDS_ARROW=2bae 4UPWARDS_ARROW=2bac 2RIGHTWARDS_AND_DOWNWARDS_ARROW=2baf
4UPWARDS_ARROW=2bad 2UPWARDS_AND_LEFTWARDS_ARROW=2baa 4RIGHTWARDS_ARROW=2bab 1DIAMOND=25c6
2CENTRED=2bc1 2MINUS_WHITE_X=2756 2ON_CROSS=2bde 2SUIT=2666 2WITH_DOWN_ARROW=29ea
1DOWN_POINTING_BACKHAND_INDEX=1f5a3 1DOWN-POINTING_DOUBLE_TRIANGLE=23ec
2ISOSCELES_RIGHT_TRIANGLE=1f783 2SMALL_TRIANGLE=25be 2TRIANGLE=25bc
1DOWNWARDS_EQUILATERAL_ARROWHEAD=2b9f 1DRAUGHTS_KING=26c3 2MAN=26c2 1DROPLET=1f322 1FLAG=2691
1FLORETTE=273f 1FOLDER=1f5bf 1FOUR_POINTED_STAR=2726 1HARD_SHELL_FLOPPY_DISK=1f5aa 1HEART=1f5a4
2SUIT=2665 1HEXAGON=2b22 1HORIZONTAL_ELLIPSE=2b2c 1HOURGLASS=29d7 1LARGE_CIRCLE=2b24 2SQUARE=2b1b
1LEFT_LANE_MERGE=26d8 2POINTING_BACKHAND_INDEX=1f59c 3INDEX=261a
1LEFT-POINTING_DOUBLE_TRIANGLE=23ea 4WITH_VERTICAL_BAR=23ee 2ISOSCELES_RIGHT_TRIANGLE=1f780
2POINTER=25c4 2SMALL_TRIANGLE=25c2 2TRIANGLE=25c0 1LEFTWARDS_BULLET=204c
2EQUILATERAL_ARROWHEAD=2b9c 1LOWER_LEFT_TRIANGLE=25e3 2RIGHT_TRIANGLE=25e2 1LOZENGE=29eb
1MEDIUM_DIAMOND=2b25 2DOWN-POINTING_TRIANGLE=23f7 4CENTRED=2bc6 2LEFT-POINTING_TRIANGLE=23f4
4CENTRED=2bc7 2LOZENGE=2b27 2RIGHT-POINTING_TRIANGLE=23f5 4CENTRED=2bc8 2SMALL_DIAMOND=1f799
3LOZENGE=1f79f 3SQUARE=25fe 2SQUARE=25fc 2UP-POINTING_TRIANGLE=23f6 4CENTRED=2bc5 1MOON_LILITH=26b8
1NIB=2712 1OCTAGON=2bc4 1PARALLELOGRAM=25b0 1PENNANT=1f3f2 1PENTAGON=2b1f 1PUSHPIN=1f588
1QUESTION_MARK_ORNAMENT=2753 1RECTANGLE=25ac 1RIGHT_POINTING_BACKHAND_INDEX=1f59d 3INDEX=261b
1RIGHT-POINTING_DOUBLE_TRIANGLE=23e9 4WITH_VERTICAL_BAR=23ed 2ISOSCELES_RIGHT_TRIANGLE=1f782
2PENTAGON=2b53 2POINTER=25ba 2SMALL_TRIANGLE=25b8 2TRIANGLE=25b6 3WITH_DOUBLE_VERTICAL_BAR=23ef
1RIGHTWARDS_ARROW=27a1 2ARROWHEAD=27a4 2BULLET=204d 2EQUILATERAL_ARROWHEAD=2b9e 1ROSETTE=1f3f6
1SAFETY_SCISSORS=2700 1SCISSORS=2702 1SHOGI_PIECE=2617 1SKULL_AND_CROSSBONES=1f571
1SLIGHTLY_SMALL_CIRCLE=1f784 3SQUARE=1f78d 1SMALL_DIAMOND=2b29 2LOZENGE=2b2a 2SQUARE=25aa
2STAR=2b51 1SMILING_FACE=263b 1SNOWMAN=26c7 1SPADE_SUIT=2660 1SQUARE=25a0 2BUTTON=1f532
2CENTRED=2bc0 2FOR_STOP=23f9 1STAR=2605 1SUN_WITH_RAYS=2600 1TELEPHONE=260e 1TINY_DIAMOND=1f797
2LOZENGE=1f79d 2SQUARE=1f78c 1TOUCHTONE_TELEPHONE=1f57f 1TRUCK=26df 1TWO-WAY_LEFT_WAY_TRAFFIC=26d6
1UNIVERSAL_RECYCLING_SYMBOL=267b 1UP_POINTING_BACKHAND_INDEX=1f5a2
1UP-POINTING_DOUBLE_TRIANGLE=23eb 2ISOSCELES_RIGHT_TRIANGLE=1f781 2SMALL_TRIANGLE=25b4
2TRIANGLE=25b2 1UPPER_LEFT_TRIANGLE=25e4 2RIGHT_TRIANGLE=25e5 1UPWARDS_EQUILATERAL_ARROWHEAD=2b9d
1VERTICAL_ELLIPSE=2b2e 2RECTANGLE=25ae 1VERY_SMALL_DIAMOND=1f798 3LOZENGE=1f79e 3SQUARE=2b1d
0BLACK-FEATHERED_NORTH_EAST_ARROW=27b6 1RIGHTWARDS_ARROW=27b5 1SOUTH_EAST_ARROW=27b4
0BLACK-LETTER_CAPITAL_C=212d 2H=210c 2I=2111 2R=211c 2Z=2128 0BLANK_SYMBOL=2422
0BLOCK_SEXTANT-1=1fb00 1SEXTANT-12=1fb02 1SEXTANT-123=1fb06 1SEXTANT-1234=1fb0e
1SEXTANT-12345=1fb1d 1SEXTANT-12346=1fb2c 1SEXTANT-1235=1fb15 1SEXTANT-12356=1fb34
1SEXTANT-1236=1fb25 1SEXTANT-124=1fb0a 1SEXTANT-1245=1fb19 1SEXTANT-12456=1fb38 1SEXTANT-1246=1fb28
1SEXTANT-125=1fb12 1SEXTANT-1256=1fb30 1SEXTANT-126=1fb21 1SEXTANT-13=1fb04 1SEXTANT-134=1fb0c
1SEXTANT-1345=1fb1b 1SEXTANT-13456=1fb3a 1SEXTANT-1346=1fb2a 1SEXTANT-1356=1fb32 1SEXTANT-136=1fb23
1SEXTANT-14=1fb08 1SEXTANT-145=1fb17 1SEXTANT-1456=1fb36 1SEXTANT-146=1fb27 1SEXTANT-15=1fb10
1SEXTANT-156=1fb2e 1SEXTANT-16=1fb1f 1SEXTANT-2=1fb01 1SEXTANT-23=1fb05 1SEXTANT-234=1fb0d
1SEXTANT-2345=1fb1c 1SEXTANT-23456=1fb3b 1SEXTANT-2346=1fb2b 1SEXTANT-235=1fb14 1SEXTANT-2356=1fb33
1SEXTANT-236=1fb24 1SEXTANT-24=1fb09 1SEXTANT-245=1fb18 1SEXTANT-2456=1fb37 1SEXTANT-25=1fb11
1SEXTANT-256=1fb2f 1SEXTANT-26=1fb20 1SEXTANT-3=1fb03 1SEXTANT-34=1fb0b 1SEXTANT-345=1fb1a
1SEXTANT-3456=1fb39 1SEXTANT-346=1fb29 1SEXTANT-35=1fb13 1SEXTANT-356=1fb31 1SEXTANT-36=1fb22
1SEXTANT-4=1fb07 1SEXTANT-45=1fb16 1SEXTANT-456=1fb35 1SEXTANT-46=1fb26 1SEXTANT-5=1fb0f
1SEXTANT-56=1fb2d 1SEXTANT-6=1fb1e 0BLOSSOM=1f33c 0BLOWFISH=1f421 0BLUE_BOOK=1f4d8 1HEART=1f499
0BLUEBERRIES=1fad0 0BOAR=1f417 0BOLD_EIGHT_SPOKED_ASTERISK=1f7bd 1FIVE_SPOKED_ASTERISK=1f7b1
1GREEK_CROSS=1f7a4 1SALTIRE=1f7ab 1SIX_SPOKED_ASTERISK=1f7b7 1WHITE_CIRCLE=1f786 2SQUARE=1f790
0BOM=feff 0BOMB=1f4a3 0BONE=1f9b4 0BOOK=1f56e 0BOOKMARK=1f516 1TABS=1f4d1 0BOOKS=1f4da
0BOOMERANG=1fa83 0BOPOMOFO_FINAL_LETTER_G=31bb 3H=31b7 3K=31b6 3P=31b4 3T=31b5 1LETTER_A=311a
2AH=31bf 2AI=311e 2AINN=31ae 2AM=31b0 2AN=3122 2ANG=3124 2ANN=31a9 2AU=3120 2AUNN=31af 2B=3105
2BU=31a0 2C=3118 2CH=3114 2D=3109 2E=311c 2EE=31a4 2EH=311d 2EI=311f 2EN=3123 2ENG=3125 2ENN=31a5
2ER=3126 2F=3108 2G=310d 2GH=31b8 2GN=312c 2GU=31a3 2GW=31bc 2H=310f 2I=3127 2IH=312d 2IM=31ac
2INN=31aa 2INNN=31b3 2IR=31a8 2IU=3129 2J=3110 2JI=31a2 2K=310e 2KW=31bd 2L=310c 2LH=31b9 2M=3107
2N=310b 2NG=312b 2NGG=31ad 2NN=312f 2O=311b 3WITH_DOT_ABOVE=312e 2OE=31be 2OM=31b1 2ONG=31b2
2ONN=31a7 2OO=31a6 2OU=3121 2P=3106 2Q=3111 2R=3116 2S=3119 2SH=3115 2T=310a 2U=3128 2UNN=31ab
2V=312a 2X=3112 2Z=3117 2ZH=3113 2ZI=31a1 2ZY=31ba 0BOTTLE_WITH_POPPING_CORK=1f37e
0BOTTOM_ARC_ANTICLOCKWISE_ARROW=293b 1CURLY_BRACKET=23df 1HALF_BLACK_CIRCLE=2bcb 2INTEGRAL=2321
2LEFT_PARENTHESIS=2e5b 2RIGHT_PARENTHESIS=2e5c 1LEFT_CORNER=231e 2CROP=230d 2HALF_BRACKET=2e24
1PARENTHESIS=23dd 1RIGHT_CORNER=231f 2CROP=230c 2HALF_BRACKET=2e25 1SQUARE_BRACKET=23b5
3OVER_TOP_SQUARE_BRACKET=23b6 1TORTOISE_SHELL_BRACKET=23e1 0BOUQUET=1f490 1OF_FLOWERS=1f395
0BOW_AND_ARROW=1f3f9 0BOWL_OF_HYGIEIA=1f54f 1WITH_SPOON=1f963 0BOWLING=1f3b3 0BOWTIE=22c8
1WITH_LEFT_HALF_BLACK=29d1 2RIGHT_HALF_BLACK=29d2 0BOX_DRAWINGS_DOUBLE_DOWN_AND_HORIZONTAL=2566
5LEFT=2557 5RIGHT=2554 3HORIZONTAL=2550 3UP_AND_HORIZONTAL=2569 5LEFT=255d 5RIGHT=255a
3VERTICAL=2551 4AND_HORIZONTAL=256c 5LEFT=2563 5RIGHT=2560 2DOWN_DOUBLE_AND_HORIZONTAL_SINGLE=2565
5LEFT_SINGLE=2556 5RIGHT_SINGLE=2553 3HEAVY_AND_HORIZONTAL_LIGHT=2530 5LEFT_LIGHT=2512
6UP_LIGHT=2527 5RIGHT_LIGHT=250e 6UP_LIGHT=251f 5UP_HORIZONTAL_LIGHT=2541
3LIGHT_AND_HORIZONTAL_HEAVY=252f 5LEFT_HEAVY=2511 6UP_HEAVY=2529 5RIGHT_HEAVY=250d 6UP_HEAVY=2521
5UP_HORIZONTAL_HEAVY=2547 3SINGLE_AND_HORIZONTAL_DOUBLE=2564 5LEFT_DOUBLE=2555 5RIGHT_DOUBLE=2552
2HEAVY_DOUBLE_DASH_HORIZONTAL=254d 5VERTICAL=254f 3DOWN=257b 4AND_HORIZONTAL=2533 5LEFT=2513
5RIGHT=250f 3HORIZONTAL=2501 3LEFT=2578 4AND_LIGHT_RIGHT=257e 3QUADRUPLE_DASH_HORIZONTAL=2509
5VERTICAL=250b 3RIGHT=257a 3TRIPLE_DASH_HORIZONTAL=2505 5VERTICAL=2507 3UP=2579
4AND_HORIZONTAL=253b 5LEFT=251b 5LIGHT_DOWN=257f 5RIGHT=2517 3VERTICAL=2503 4AND_HORIZONTAL=254b
5LEFT=252b 5RIGHT=2523 2LEFT_DOWN_HEAVY_AND_RIGHT_UP_LIGHT=2545 3HEAVY_AND_RIGHT_DOWN_LIGHT=252d
6UP_LIGHT=2535 6VERTICAL_LIGHT=253d 3LIGHT_AND_RIGHT_DOWN_HEAVY=2532 6UP_HEAVY=253a
6VERTICAL_HEAVY=254a 3UP_HEAVY_AND_RIGHT_DOWN_LIGHT=2543 2LIGHT_ARC_DOWN_AND_LEFT=256e 6RIGHT=256d
4UP_AND_LEFT=256f 6RIGHT=2570 3DIAGONAL_CROSS=2573 4DIAMOND=1fbae
4MIDDLE_LEFT_TO_LOWER_CENTRE=1fba2 9TO_MIDDLE_RIGHT=1fba6 7UPPER_CENTRE_TO_MIDDLE_RIGHT=1fba7
9TO_MIDDLE_RIGHT_TO_LOWER_CENTRE=1fbac 5RIGHT_TO_LOWER_CENTRE=1fba3
7UPPER_CENTRE_TO_MIDDLE_LEFT_TO_LOWER_CENTRE=1fbad 4UPPER_CENTRE_TO_MIDDLE_LEFT=1fba0
9AND_MIDDLE_RIGHT_TO_LOWER_CENTRE=1fba8 9TO_LOWER_CENTRE=1fba4
9TO_LOWER_CENTRE_TO_MIDDLE_RIGHT=1fbab 8RIGHT=1fba1 9AND_MIDDLE_LEFT_TO_LOWER_CENTRE=1fba9
9TO_LOWER_CENTRE=1fba5 9TO_LOWER_CENTRE_TO_MIDDLE_LEFT=1fbaa 5LEFT_TO_LOWER_RIGHT=2572
5RIGHT_TO_LOWER_LEFT=2571 3DOUBLE_DASH_HORIZONTAL=254c 5VERTICAL=254e 3DOWN=2577
4AND_HORIZONTAL=252c 5LEFT=2510 5RIGHT=250c 3HORIZONTAL=2500 4WITH_VERTICAL_STROKE=1fbaf 3LEFT=2574
4AND_HEAVY_RIGHT=257c 3QUADRUPLE_DASH_HORIZONTAL=2508 5VERTICAL=250a 3RIGHT=2576
3TRIPLE_DASH_HORIZONTAL=2504 5VERTICAL=2506 3UP=2575 4AND_HEAVY_DOWN=257d 5HORIZONTAL=2534
5LEFT=2518 5RIGHT=2514 3VERTICAL=2502 4AND_HORIZONTAL=253c 5LEFT=2524 5RIGHT=251c
2RIGHT_DOWN_HEAVY_AND_LEFT_UP_LIGHT=2546 3HEAVY_AND_LEFT_DOWN_LIGHT=252e 6UP_LIGHT=2536
6VERTICAL_LIGHT=253e 3LIGHT_AND_LEFT_DOWN_HEAVY=2531 6UP_HEAVY=2539 6VERTICAL_HEAVY=2549
3UP_HEAVY_AND_LEFT_DOWN_LIGHT=2544 2UP_DOUBLE_AND_HORIZONTAL_SINGLE=2568 5LEFT_SINGLE=255c
5RIGHT_SINGLE=2559 3HEAVY_AND_DOWN_HORIZONTAL_LIGHT=2540 5HORIZONTAL_LIGHT=2538
5LEFT_DOWN_LIGHT=2526 6LIGHT=251a 5RIGHT_DOWN_LIGHT=251e 6LIGHT=2516
3LIGHT_AND_DOWN_HORIZONTAL_HEAVY=2548 5HORIZONTAL_HEAVY=2537 5LEFT_DOWN_HEAVY=252a 6HEAVY=2519
5RIGHT_DOWN_HEAVY=2522 6HEAVY=2515 3SINGLE_AND_HORIZONTAL_DOUBLE=2567 5LEFT_DOUBLE=255b
5RIGHT_DOUBLE=2558 2VERTICAL_DOUBLE_AND_HORIZONTAL_SINGLE=256b 5LEFT_SINGLE=2562 5RIGHT_SINGLE=255f
3HEAVY_AND_HORIZONTAL_LIGHT=2542 5LEFT_LIGHT=2528 5RIGHT_LIGHT=2520
3LIGHT_AND_HORIZONTAL_HEAVY=253f 5LEFT_HEAVY=2525 5RIGHT_HEAVY=251d
3SINGLE_AND_HORIZONTAL_DOUBLE=256a 5LEFT_DOUBLE=2561 5RIGHT_DOUBLE=255e 0BOXING_GLOVE=1f94a
0BOY=1f466 0BOYS_SYMBOL=1f6c9 0BPH=82 0BRAHMI_DANDA=11047 1DIGIT_EIGHT=1106e 2FIVE=1106b
2FOUR=1106a 2NINE=1106f 2ONE=11067 2SEVEN=1106d 2SIX=1106c 2THREE=11069 2TWO=11068 2ZERO=11066
1DOUBLE_DANDA=11048 1LETTER_A=11005 2AA=11006 2AI=11010 2AU=11012 2BA=11029 2BHA=1102a 2CA=11018
2CHA=11019 2DA=11024 2DDA=1101f 2DDHA=11020 2DHA=11025 2E=1100f 2GA=11015 2GHA=11016 2HA=11033
2I=11007 2II=11008 2JA=1101a 2JHA=1101b 2KA=11013 2KHA=11014 2LA=1102e 2LLA=11034 2MA=1102b
2NA=11026 2NGA=11017 2NNA=11021 2NYA=1101c 2O=11011 2OLD_TAMIL_LLA=11075 4LLLA=11035 4NNNA=11037
4RRA=11036 4SHORT_E=11071 5O=11072 2PA=11027 2PHA=11028 2RA=1102d 2SA=11032 2SHA=11030 2SSA=11031
2TA=11022 2THA=11023 2TTA=1101d 2TTHA=1101e 2U=11009 2UU=1100a 2VA=1102f 2VOCALIC_L=1100d 3LL=1100e
3R=1100b 3RR=1100c 2YA=1102c 1NUMBER_EIGHT=11059 2EIGHTY=11062 2FIFTY=1105f 2FIVE=11056
2FORTY=1105e 2FOUR=11055 2JOINER=1107f 2NINE=1105a 2NINETY=11063 2ONE=11052 3HUNDRED=11064
3THOUSAND=11065 2SEVEN=11058 2SEVENTY=11061 2SIX=11057 2SIXTY=11060 2TEN=1105b 2THIRTY=1105d
2THREE=11054 2TWENTY=1105c 2TWO=11053 1PUNCTUATION_CRESCENT_BAR=1104c 2DOT=11049 2DOUBLE_DOT=1104a
2LINE=1104b 2LOTUS=1104d 1SIGN_ANUSVARA=11001 2CANDRABINDU=11000 2JIHVAMULIYA=11003
2OLD_TAMIL_VIRAMA=11070 2UPADHMANIYA=11004 2VISARGA=11002 1VIRAMA=11046 1VOWEL_SIGN_AA=11038
3AI=11043 3AU=11045 3BHATTIPROLU_AA=11039 3E=11042 3I=1103a 3II=1103b 3O=11044
3OLD_TAMIL_SHORT_E=11073 6O=11074 3U=1103c 3UU=1103d 3VOCALIC_L=11040 4LL=11041 4R=1103e 4RR=1103f
0BRAILLE_PATTERN_BLANK=2800 2DOTS-1=2801 2DOTS-12=2803 2DOTS-123=2807 2DOTS-1234=280f
2DOTS-12345=281f 2DOTS-123456=283f 2DOTS-1234567=287f 2DOTS-12345678=28ff 2DOTS-1234568=28bf
2DOTS-123457=285f 2DOTS-1234578=28df 2DOTS-123458=289f 2DOTS-12346=282f 2DOTS-123467=286f
2DOTS-1234678=28ef 2DOTS-123468=28af 2DOTS-12347=284f 2DOTS-123478=28cf 2DOTS-12348=288f
2DOTS-1235=2817 2DOTS-12356=2837 2DOTS-123567=2877 2DOTS-1235678=28f7 2DOTS-123568=28b7
2DOTS-12357=2857 2DOTS-123578=28d7 2DOTS-12358=2897 2DOTS-1236=2827 2DOTS-12367=2867
2DOTS-123678=28e7 2DOTS-12368=28a7 2DOTS-1237=2847 2DOTS-12378=28c7 2DOTS-1238=2887 2DOTS-124=280b
2DOTS-1245=281b 2DOTS-12456=283b 2DOTS-124567=287b 2DOTS-1245678=28fb 2DOTS-124568=28bb
2DOTS-12457=285b 2DOTS-124578=28db 2DOTS-12458=289b 2DOTS-1246=282b 2DOTS-12467=286b
2DOTS-124678=28eb 2DOTS-12468=28ab 2DOTS-1247=284b 2DOTS-12478=28cb 2DOTS-1248=288b 2DOTS-125=2813
2DOTS-1256=2833 2DOTS-12567=2873 2DOTS-125678=28f3 2DOTS-12568=28b3 2DOTS-1257=2853
2DOTS-12578=28d3 2DOTS-1258=2893 2DOTS-126=2823 2DOTS-1267=2863 2DOTS-12678=28e3 2DOTS-1268=28a3
2DOTS-127=2843 2DOTS-1278=28c3 2DOTS-128=2883 2DOTS-13=2805 2DOTS-134=280d 2DOTS-1345=281d
2DOTS-13456=283d 2DOTS-134567=287d 2DOTS-1345678=28fd 2DOTS-134568=28bd 2DOTS-13457=285d
2DOTS-134578=28dd 2DOTS-13458=289d 2DOTS-1346=282d 2DOTS-13467=286d 2DOTS-134678=28ed
2DOTS-13468=28ad 2DOTS-1347=284d 2DOTS-13478=28cd 2DOTS-1348=288d 2DOTS-135=2815 2DOTS-1356=2835
2DOTS-13567=2875 2DOTS-135678=28f5 2DOTS-13568=28b5 2DOTS-1357=2855 2DOTS-13578=28d5
2DOTS-1358=2895 2DOTS-136=2825 2DOTS-1367=2865 2DOTS-13678=28e5 2DOTS-1368=28a5 2DOTS-137=2845
2DOTS-1378=28c5 2DOTS-138=2885 2DOTS-14=2809 2DOTS-145=2819 2DOTS-1456=2839 2DOTS-14567=2879
2DOTS-145678=28f9 2DOTS-14568=28b9 2DOTS-1457=2859 2DOTS-14578=28d9 2DOTS-1458=2899 2DOTS-146=2829
2DOTS-1467=2869 2DOTS-14678=28e9 2DOTS-1468=28a9 2DOTS-147=2849 2DOTS-1478=28c9 2DOTS-148=2889
2DOTS-15=2811 2DOTS-156=2831 2DOTS-1567=2871 2DOTS-15678=28f1 2DOTS-1568=28b1 2DOTS-157=2851
2DOTS-1578=28d1 2DOTS-158=2891 2DOTS-16=2821 2DOTS-167=2861 2DOTS-1678=28e1 2DOTS-168=28a1
2DOTS-17=2841 2DOTS-178=28c1 2DOTS-18=2881 2DOTS-2=2802 2DOTS-23=2806 2DOTS-234=280e
2DOTS-2345=281e 2DOTS-23456=283e 2DOTS-234567=287e 2DOTS-2345678=28fe 2DOTS-234568=28be
2DOTS-23457=285e 2DOTS-234578=28de 2DOTS-23458=289e 2DOTS-2346=282e 2DOTS-23467=286e
2DOTS-234678=28ee 2DOTS-23468=28ae 2DOTS-2347=284e 2DOTS-23478=28ce 2DOTS-2348=288e 2DOTS-235=2816
2DOTS-2356=2836 2DOTS-23567=2876 2DOTS-235678=28f6 2DOTS-23568=28b6 2DOTS-2357=2856
2DOTS-23578=28d6 2DOTS-2358=2896 2DOTS-236=2826 2DOTS-2367=2866 2DOTS-23678=28e6 2DOTS-2368=28a6
2DOTS-237=2846 2DOTS-2378=28c6 2DOTS-238=2886 2DOTS-24=280a 2DOTS-245=281a 2DOTS-2456=283a
2DOTS-24567=287a 2DOTS-245678=28fa 2DOTS-24568=28ba 2DOTS-2457=285a 2DOTS-24578=28da
2DOTS-2458=289a 2DOTS-246=282a 2DOTS-2467=286a 2DOTS-24678=28ea 2DOTS-2468=28aa 2DOTS-247=284a
2DOTS-2478=28ca 2DOTS-248=288a 2DOTS-25=2812 2DOTS-256=2832 2DOTS-2567=2872 2DOTS-25678=28f2
2DOTS-2568=28b2 2DOTS-257=2852 2DOTS-2578=28d2 2DOTS-258=2892 2DOTS-26=2822 2DOTS-267=2862
2DOTS-2678=28e2 2DOTS-268=28a2 2DOTS-27=2842 2DOTS-278=28c2 2DOTS-28=2882 2DOTS-3=2804
2DOTS-34=280c 2DOTS-345=281c 2DOTS-3456=283c 2DOTS-34567=287c 2DOTS-345678=28fc 2DOTS-34568=28bc
2DOTS-3457=285c 2DOTS-34578=28dc 2DOTS-3458=289c 2DOTS-346=282c 2DOTS-3467=286c 2DOTS-34678=28ec
2DOTS-3468=28ac 2DOTS-347=284c 2DOTS-3478=28cc 2DOTS-348=288c 2DOTS-35=2814 2DOTS-356=2834
2DOTS-3567=2874 2DOTS-35678=28f4 2DOTS-3568=28b4 2DOTS-357=2854 2DOTS-3578=28d4 2DOTS-358=2894
2DOTS-36=2824 2DOTS-367=2864 2DOTS-3678=28e4 2DOTS-368=28a4 2DOTS-37=2844 2DOTS-378=28c4
2DOTS-38=2884 2DOTS-4=2808 2DOTS-45=2818 2DOTS-456=2838 2DOTS-4567=2878 2DOTS-45678=28f8
2DOTS-4568=28b8 2DOTS-457=2858 2DOTS-4578=28d8 2DOTS-458=2898 2DOTS-46=2828 2DOTS-467=2868
2DOTS-4678=28e8 2DOTS-468=28a8 2DOTS-47=2848 2DOTS-478=28c8 2DOTS-48=2888 2DOTS-5=2810
2DOTS-56=2830 2DOTS-567=2870 2DOTS-5678=28f0 2DOTS-568=28b0 2DOTS-57=2850 2DOTS-578=28d0
2DOTS-58=2890 2DOTS-6=2820 2DOTS-67=2860 2DOTS-678=28e0 2DOTS-68=28a0 2DOTS-7=2840 2DOTS-78=28c0
2DOTS-8=2880 0BRAIN=1f9e0 0BREAD=1f35e 0BREAK_PERMITTED_HERE=82 0BREAST-FEEDING=1f931 0BREVE=2d8
0BRICK=1f9f1 0BRIDE_WITH_VEIL=1f470 0BRIDGE_AT_NIGHT=1f309 0BRIEFCASE=1f4bc 0BRIEFS=1fa72
0BROCCOLI=1f966 0BROKEN_BAR=a6 1CIRCLE_WITH_NORTHWEST_ARROW=238b 1HEART=1f494 0BROOM=1f9f9
0BROWN_HEART=1f90e 0BS=8 0BUBBLE_TEA=1f9cb 0BUBBLES=1fae7 0BUCKET=1faa3 0BUG=1f41b
0BUGINESE_END_OF_SECTION=1a1f 1LETTER_A=1a15 2BA=1a05 2CA=1a0c 2DA=1a09 2GA=1a01 2HA=1a16 2JA=1a0d
2KA=1a00 2LA=1a12 2MA=1a06 2MPA=1a07 2NA=1a0a 2NGA=1a02 2NGKA=1a03 2NRA=1a0b 2NYA=1a0e 2NYCA=1a0f
2PA=1a04 2RA=1a11 2SA=1a14 2TA=1a08 2VA=1a13 2YA=1a10 1PALLAWA=1a1e 1VOWEL_SIGN_AE=1a1b 3E=1a19
3I=1a17 3O=1a1a 3U=1a18 0BUHID_LETTER_A=1740 2BA=174a 2DA=1747 2GA=1744 2HA=1751 2I=1741 2KA=1743
2LA=174e 2MA=174b 2NA=1748 2NGA=1745 2PA=1749 2RA=174d 2SA=1750 2TA=1746 2U=1742 2WA=174f 2YA=174c
1VOWEL_SIGN_I=1752 3U=1753 0BUILDING_CONSTRUCTION=1f3d7 0BULLET=2022 1OPERATOR=2219 0BULLHORN=1f56b
1WITH_SOUND_WAVES=1f56c 0BULLSEYE=25ce 0BURRITO=1f32f 0BUS=1f68c 1STOP=1f68f
0BUST_IN_SILHOUETTE=1f464 0BUSTS_IN_SILHOUETTE=1f465 0BUTTER=1f9c8 0BUTTERFLY=1f98b
0BYTE_ORDER_MARK=feff 0BYZANTINE_MUSICAL_SYMBOL_AGOGI_ARGI=1d09c 4ARGOTERI=1d09b 4GORGI=1d09f
4GORGOTERI=1d0a0 4MESI=1d09e 4METRIA=1d09d 4POLI_ARGI=1d09a 5GORGI=1d0a1 3ANATRICHISMA=1d028
3ANTIKENOKYLISMA=1d062 3ANTIKENOMA=1d05c 3APESO_EKFONITIKON=1d00d 4EXO_NEO=1d033 3APLI=1d085
3APODERMA_ARCHAION=1d022 4NEO=1d084 3APOSTROFOI_SYNDESMOS_NEO=1d052 4TELOUS_ICHIMATOS=1d0ad
3APOSTROFOS=1d011 4DIPLI=1d012 4NEO=1d051 3APOTHEMA=1d023 3ARGON=1d097 3ARGOSYNTHETON=1d073
3ARKTIKO_DI=1d0ec 4GA=1d0eb 4KE=1d0ed 4NI=1d0ef 4PA=1d0e9 4VOU=1d0ea 4ZO=1d0ee 3CHAMILI=1d056
3CHAMILON=1d018 3CHOREVMA_ARCHAION=1d03b 4NEO=1d067 3CHROA_KLITON=1d0c9 4SPATHI=1d0ca 4ZYGOS=1d0c8
3DASEIA=1d001 3DIARGON=1d099 3DIASTOLI_APLI_MEGALI=1d0db 5MIKRI=1d0da 4DIPLI=1d0dc 4THESEOS=1d0dd
3DIESIS_APLI_DYO_DODEKATA=1d0d0 4DIGRAMMOS_EX_DODEKATA=1d0d2 4MONOGRAMMOS_TESSERA_DODEKATA=1d0d1
4TETARTIMORION=1d0cf 4TRIGRAMMOS_OKTO_DODEKATA=1d0d3 4TRITIMORION=1d0ce 3DIFTOGGOS_OU=1d0e7
3DIGORGON=1d092 4PARESTIGMENON_ARISTERA_ANO=1d094 6KATO=1d093 5DEXIA=1d095 3DIGRAMMA_GG=1d0e6
3DIPLI=1d086 4ARCHAION=1d080 3DYO=1d02f 3EKSTREPTON=1d064 3ELAFRON=1d055
3ENARXIS_KAI_FTHORA_VOU=1d0b6 3ENDOFONON=1d07b 3EPEGERMA=1d068 3ETERON_ARGOSYNTHETON=1d074
4PARAKALESMA=1d060 3EXO_EKFONITIKON=1d00e 3FANEROSIS_DIFONIAS=1d0b0 4MONOFONIAS=1d0af
4TETRAFONIAS=1d0ae 3FHTORA_SKLIRON_CHROMA_VASIS=1d0c5 3FTHORA_ARCHAION=1d034 5DEYTEROU_ICHOU=1d0b9
4DIATONIKI_DI=1d0bd 5KE=1d0bf 5NANA=1d0bb 5NI_ANO=1d0c2 6KATO=1d0c1 5PA=1d0ba 5ZO=1d0c0
4ENARMONIOS_ANTIFONIA=1d0cc 4I_YFESIS_TETARTIMORION=1d0cb 4MALAKON_CHROMA_DIFONIAS=1d0c3
6MONOFONIAS=1d0c4 4NAOS_ICHOS=1d0bc 4NENANO=1d0c7 4SKLIRON_CHROMA_SYNAFI=1d0c6 6VASIS=1d0c5
5DIATONON_DI=1d0be 3GENIKI_DIESIS=1d0d8 4YFESIS=1d0d9 3GORGON_ARCHAION=1d016 4NEO_ANO=1d08f
5KATO=1d0f5 4PARESTIGMENON_ARISTERA=1d090 5DEXIA=1d091 3GORGOSYNTHETON=1d072
3GORTHMIKON_N_APLOUN=1d0b4 5DIPLOUN=1d0b5 3GRONTHISMATA=1d045 3ICHADIN=1d03f 3IMIDIARGON=1d098
3IMIFONON=1d0b7 3IMIFTHORA=1d035 3IMIFTHORON=1d0b8 3ISAKIA_TELOUS_ICHIMATOS=1d0ac
3ISON_ARCHAION=1d01a 4NEO=1d046 3KATAVA_TROMIKON=1d037 3KATAVASMA=1d07a 3KATHISTI=1d007
3KENTIMA_ARCHAION=1d01b 4NEO_ANO=1d04f 5KATO=1d0f3 5MESO=1d0f1 3KENTIMATA=1d010 4ARCHAION=1d01c
4NEO_ANO=1d04e 5KATO=1d0f2 5MESO=1d0f0 3KLASMA=1d024 4ANO=1d07f 4KATO=1d0f4 3KONTEVMA=1d03a
4ALLO=1d042 3KORONIS=1d089 3KOUFISMA=1d04a 3KRATIMA_ALLO=1d082 4ARCHAION=1d081 4NEO=1d083
3KRATIMATA=1d032 3KRATIMOKOUFISMA=1d04c 3KRATIMOYPORROON=1d054 3KREMASTI=1d00c 3KYLISMA=1d061
3LEIMMA_DYO_CHRONON=1d08b 4ENOS_CHRONOU=1d08a 4IMISEOS_CHRONOU=1d08e 4TESSARON_CHRONON=1d08d
4TRION_CHRONON=1d08c 3LEMOI=1d02e 3LYGISMA=1d05d 3MARTYRIA_ALLI_DEYTEROS_ICHOS=1d0a5
5PROTOS_ICHOS=1d0a3 4DEYTEROS_ICHOS=1d0a4 4LEGETOS_ICHOS=1d0aa 4PLAGIOS_ICHOS=1d0ab
5TETARTOS_ICHOS=1d0b3 4PROTOS_ICHOS=1d0a2 4PROTOVARYS_ICHOS=1d0b2 4TETARTOS_ICHOS=1d0a8
5LEGETOS_ICHOS=1d0a9 4TRIFONIAS=1d0a7 4TRITOS_ICHOS=1d0a6 4VARYS_ICHOS=1d0b1 3MIKRON_ISON=1d057
3NANA=1d040 3OLIGON_ARCHAION=1d015 4NEO=1d047 3OMALON=1d05b 3OXEIA_DIPLI=1d004 4EKFONITIKON=1d003
4NEO=1d048 3OXEIAI_ARCHAION=1d020 3OYRANISMA_ARCHAION=1d02c 4NEO=1d075 3PARAKALESMA_ARCHAION=1d03d
4NEO=1d05f 3PARAKLITIKI=1d009 4ARCHAION=1d03e 4NEO=1d05e 3PARICHON=1d01e 3PELASTON=1d038 4NEO=1d04d
3PERISPOMENI=1d002 3PETASMA=1d041 3PETASTI=1d049 3PETASTOKOUFISMA=1d04b 3PIASMA_ARCHAION=1d026
4NEO=1d059 3PSIFISTOLYGISMA=1d06c 3PSIFISTON=1d039 4NEO=1d05a 3PSIFISTOPARAKALESMA=1d06f
3PSIFISTOSYNAGMA=1d071 3PSILI=1d000 3PSILON=1d017 3RAPISMA=1d03c 3REVMA=1d025 3SAXIMATA=1d01d
3SEISMA=1d029 4NEO=1d069 3SIMANSIS_ARSEOS=1d0e2 5DISIMOU=1d0e3 5TETRASIMOU=1d0e5 5TRISIMOU=1d0e4
4THESEOS=1d0de 5DISIMOU=1d0df 5TETRASIMOU=1d0e1 5TRISIMOU=1d0e0 3STAVROS=1d07e 4APODEXIA=1d01f
3STIGMA=1d0e8 3STRAGGISMATA=1d044 3SYNAGMA_ARCHAION=1d02a 4META_STAVROU=1d02b 4NEO=1d065
3SYNEVMA=1d013 3SYRMA=1d066 3SYRMATIKI=1d008 3TELEIA=1d00f 3TESSERA=1d031 3TETRAPLI=1d088
3THEMA=1d02d 4APLOUN=1d078 3THEMATISMOS_ESO=1d076 4EXO=1d077 3THES_KAI_APOTHES=1d079 3THITA=1d014
3TINAGMA=1d027 3TRIA=1d030 3TRIGORGON=1d096 3TRIPLI=1d087 3TROMIKOLYGISMA=1d06d
3TROMIKON_ALLO=1d043 4ARCHAION=1d036 4NEO=1d063 3TROMIKOPARAKALESMA=1d06e 3TROMIKOPSIFISTON=1d06b
3TROMIKOSYNAGMA=1d070 3VAREIA_DIPLI=1d006 4EKFONITIKON=1d005 4NEO=1d058 3VAREIAI_ARCHAION=1d021
3VATHY=1d019 3XIRON_KLASMA=1d06a 3YFEN_ANO=1d07d 4KATO=1d07c 3YFESIS_APLI_DYO_DODEKATA=1d0d4
4DIGRAMMOS_EX_DODEKATA=1d0d6 4MONOGRAMMOS_TESSERA_DODEKATA=1d0d5 4TRIGRAMMOS_OKTO_DODEKATA=1d0d7
4TRITIMORION=1d0cd 3YPOKRISIS=1d00a 4DIPLI=1d00b 3YPORROI=1d053 3YPSILI=1d050"

/-- Names that begin with `C`. -/
def namesC : String :=
  "0CACTUS=1f335 0CADA_UNA=2106 0CADUCEUS=2624 0CALENDAR=1f4c5 0CALL_ME_HAND=1f919 0CAMERA=1f4f7
1WITH_FLASH=1f4f8 0CAMPING=1f3d5 0CAN=18 0CANADIAN_SYLLABICS_A=140a 2AA=140b 2AAI=1402 2AAY=18b2
2AI=141c 2AIVILIK_B=15af 2AN=142e 2ATHAPASCAN_M=14be 3S=1506 2AY=18b1 2BEAVER_DENE_L=18f3 4R=18f4
2BIBLE-CREE_Y=153f 2BLACKFOOT_A=15b3 3E=15b0 3I=15b1 3KA=15bf 3KE=15bc 3KI=15bd 3KO=15be 3NA=15bb
3NE=15b8 3NI=15b9 3NO=15ba 3O=15b2 3S=1508 3W=167f 3WA=15b7 3WE=15b4 3WI=15b5 3WO=15b6 2C=14a1
2CA=1490 2CAA=1491 2CAAI=148a 2CARRIER_CHA=1666 3CHE=1663 3CHEE=1664 3CHI=1665 3CHO=1662 3CHU=1661
3DEE=1453 3DENE_GEE=18ee 3DENTAL_S=18f5 3DI=1454 3DLA=162d 3DLE=162a 3DLEE=162b 3DLI=162c 3DLO=1629
3DLU=1628 3DZA=164d 3DZE=164a 3DZEE=164b 3DZI=164c 3DZO=1649 3DZU=1648 3EE=1408 3GA=15f4 3GAA=18ef
3GE=15f1 3GEE=15f2 3GHA=15c9 3GHE=15c6 3GHEE=15c7 3GHI=15c8 3GHO=15c5 3GHU=15c4 3GI=15f3 3GO=15f0
3GU=15ef 3GWA=18f0 3GWU=18ed 3H=144b 3HEE=1436 3HI=1437 3HWA=15db 3HWE=15d8 3HWEE=15d9 3HWI=15da
3HWO=15d7 3HWU=15d6 3I=1409 3INITIAL_Z=1647 3JA=161b 3JE=1617 3JEE=1618 3JI=1619 3JJA=1621
3JJE=161e 3JJEE=161f 3JJI=1620 3JJO=161d 3JJU=161c 3JO=1616 3JU=1614 3JWA=18f2 3KHA=15fa 3KHE=15f7
3KHEE=15f8 3KHI=15f9 3KHO=15f6 3KHU=15f5 3KK=1601 3KKA=1600 3KKE=15fd 3KKEE=15fe 3KKI=15ff
3KKO=15fc 3KKU=15fb 3LA=1627 3LE=1624 3LEE=1625 3LHA=1633 3LHE=1630 3LHEE=1631 3LHI=1632 3LHO=162f
3LHU=162e 3LI=1626 3LO=1623 3LU=1622 3MA=160d 3ME=160a 3MEE=160b 3MI=160c 3MO=1609 3MU=1608
3NA=1607 3NE=1604 3NEE=1605 3NG=14d1 3NI=1606 3NO=1603 3NU=1602 3P=15ee 3PA=15ed 3PE=15ea 3PEE=15eb
3PI=15ec 3PO=15e9 3PU=15e8 3RA=15cf 3RE=15cc 3REE=15cd 3RI=15ce 3RO=15cb 3RU=15ca 3SA=1653 3SE=1650
3SEE=1651 3SH=165a 3SHA=1659 3SHE=1656 3SHEE=1657 3SHI=1658 3SHO=1655 3SHU=1654 3SI=1652 3SO=164f
3SU=164e 3THA=15e1 3THE=15de 3THEE=15df 3THI=15e0 3THO=15dd 3THU=15dc 3TLA=163f 3TLE=163c
3TLEE=163d 3TLHA=1639 3TLHE=1636 3TLHEE=1637 3TLHI=1638 3TLHO=1635 3TLHU=1634 3TLI=163e 3TLO=163b
3TLU=163a 3TSA=1660 3TSE=165d 3TSEE=165e 3TSI=165f 3TSO=165c 3TSU=165b 3TTA=15e7 3TTE=15e4
3TTEE=15e5 3TTI=15e6 3TTO=15e3 3TTSA=166c 3TTSE=1669 3TTSEE=166a 3TTSI=166b 3TTSO=1668 3TTSU=1667
3TTU=15e2 3WA=15d5 3WE=15d2 3WEE=15d3 3WI=15d4 3WO=15d1 3WU=15d0 3YA=1613 3YE=1610 3YEE=1611
3YI=1612 3YO=160f 3YU=160e 3Z=1646 3ZA=1645 3ZE=1642 3ZEE=1643 3ZI=1644 3ZO=1641 3ZU=1640 2CE=1489
2CHI_SIGN=166d 2CI=148b 2CII=148c 2CO=148d 2COO=148e 2CWA=149c 2CWAA=149e 2CWE=1492 2CWI=1494
2CWII=1496 2CWO=1498 2CWOO=149a 2E=1401 2EASTERN_W=18dc 2EN=142b 2F=155d 2FA=1559 2FAA=155a
2FAAI=1554 2FE=1553 2FI=1555 2FII=1556 2FINAL_ACUTE=141f 3BOTTOM_HALF_RING=1421 3DOUBLE_ACUTE=1425
4SHORT_VERTICAL_STROKES=1426 3DOWN_TACK=142a 3GRAVE=1420 3MIDDLE_DOT=1427 3PLUS=1429
3RAISED_DOT=18df 3RIGHT_HALF_RING=1423 3RING=1424 3SHORT_HORIZONTAL_STROKE=1428 3SMALL_RING=18de
3TOP_HALF_RING=1422 2FO=1557 2FOO=1558 2FULL_STOP=166e 2FWAA=155b 2GLOTTAL_STOP=141e 2HK=157d
2HYPHEN=1400 2I=1403 2II=1404 2IN=142c 2K=1483 2KA=1472 2KAA=1473 2KAAI=146c 2KAY=18b8 2KE=146b
2KI=146d 2KII=146e 2KO=146f 2KOO=1470 2KW=1484 2KWA=147e 2KWAA=1480 2KWAY=18b9 2KWE=1474 2KWI=1476
2KWII=1478 2KWO=147a 2KWOO=147c 2L=14ea 2LA=14da 2LAA=14db 2LAAI=14d4 2LAY=18bd 2LE=14d3 2LH=15a6
2LHA=15a4 2LHAA=15a5 2LHI=15a0 2LHII=15a1 2LHO=15a2 2LHOO=15a3 2LI=14d5 2LII=14d6 2LO=14d7
2LOO=14d8 2LWA=14e6 2LWAA=14e8 2LWE=14dc 2LWI=14de 2LWII=14e0 2LWO=14e2 2LWOO=14e4 2M=14bb 2MA=14aa
2MAA=14ab 2MAAI=14a4 2MAY=18ba 2ME=14a3 2MEDIAL_L=14ec 3R=1552 2MH=14bd 2MI=14a5 2MII=14a6 2MO=14a7
2MOO=14a8 2MOOSE-CREE_SK=1509 2MWA=14b6 2MWAA=14b8 2MWE=14ac 2MWI=14ae 2MWII=14b0 2MWO=14b2
2MWOO=14b4 2N=14d0 2N-CREE_THE=155f 3THI=1561 3THII=1563 2NA=14c7 2NAA=14c8 2NAAI=14c1
2NASKAPI_CWAA=14a0 3KWAA=1482 3MWAA=14ba 3NWAA=14cf 3S-W=150b 3SCWA=150f 3SKW=150a 3SKWA=150e
3SPWA=150c 3STWA=150d 3SWAA=1504 3TWAA=1465 3WAA=141b 3WOO=1416 3YWAA=153d 2NATTILIK_HA=11ab4
3HAA=11ab5 3HI=11ab0 3HII=11ab1 3HO=11ab2 3HOO=11ab3 3SHRA=11aba 3SHRAA=11abb 3SHRI=11ab6
3SHRII=11ab7 3SHRO=11ab8 3SHROO=11ab9 2NAY=18bc 2NE=14c0 2NG=1595 2NGA=1593 2NGAA=1594 2NGAAI=158e
2NGAI=1670 2NGI=158f 2NGII=1590 2NGO=1591 2NGOO=1592 2NH=14d2 2NI=14c2 2NII=14c3 2NNG=1596
2NNGA=1675 2NNGAA=1676 2NNGI=1671 2NNGII=1672 2NNGO=1673 2NNGOO=1674 2NO=14c4 2NOO=14c5 2NOY=18bb
2NUNAVIK_H=157b 3HA=1579 3HAA=157a 3HE=1574 3HI=1575 3HII=1576 3HO=1577 3HOO=1578 2NUNAVUT_H=157c
2NWA=14cb 2NWAA=14cd 2NWE=14c9 2NWI=18c6 2NWII=18c8 2NWO=18ca 2NWOO=18cc 2O=1405 2OJIBWAY_C=18d7
3K=18d6 3M=18d8 3N=18d9 3NWI=18c7 3NWII=18c9 3NWO=18cb 3NWOO=18cd 3P=18d4 3S=18da 3SH=18db 3T=18d5
2ON=142d 2OO=1406 2OY=18b0 2P=1449 2PA=1438 2PAA=1439 2PAAI=1430 2PAY=18b5 2PE=142f 2PI=1431
2PII=1432 2PO=1433 2POO=1434 2POY=18b4 2PWA=1444 2PWAA=1446 2PWE=143a 2PWI=143c 2PWII=143e
2PWO=1440 2PWOO=1442 2PWOY=18b6 2Q=1585 2QA=1583 2QAA=1584 2QAAI=157e 2QAI=166f 2QI=157f 2QII=1580
2QO=1581 2QOO=1582 2R=1550 2R-CREE_RE=1543 3RWE=18e0 2RA=154b 2RAA=154c 2RAAI=1545 2RAY=18c5
2RE=1542 2RI=1546 2RII=1547 2RO=1548 2ROO=1549 2RWA=18d3 2RWAA=154e 2RWEE=18ce 2RWI=18cf 2RWII=18d0
2RWO=18d1 2RWOO=18d2 2S=1505 2SA=14f4 2SAA=14f5 2SAAI=14ee 2SAY=18bf 2SAYISI_HA=15c3 3HE=15c0
3HI=15c1 3HO=15c2 3HOO=18ec 3JI=161a 3JU=1615 3JUU=18f1 3M=14bf 3SHA=159a 3SHE=1597 3SHI=1598
3SHO=1599 3SHOO=18eb 3SHWE=18ea 3TH=14a2 3YI=1541 2SE=14ed 2SH=1525 2SHA=1515 2SHAA=1516 2SHAY=18c1
2SHE=1510 2SHI=1511 2SHII=1512 2SHO=1513 2SHOO=1514 2SHOY=18c0 2SHWA=1521 2SHWAA=1523 2SHWE=1517
2SHWI=1519 2SHWII=151b 2SHWO=151d 2SHWOO=151f 2SHWOY=18c2 2SI=14ef 2SII=14f0 2SO=14f1 2SOO=14f2
2SOUTH-SLAVEY_KAH=1488 3KEH=1485 3KIH=1486 3KOH=1487 2SOY=18be 2SPA=11abf 2SPE=11abc 2SPI=11abd
2SPO=11abe 2SW=1507 2SWA=1500 2SWAA=1502 2SWE=14f6 2SWI=14f8 2SWII=14fa 2SWO=14fc 2SWOO=14fe
2T=1466 2TA=1455 2TAA=1456 2TAAI=144d 2TAY=18b7 2TE=144c 2TH=156a 2TH-CREE_TH=15ae 3THA=15ac
3THAA=15ad 3THE=15a7 3THI=15a8 3THII=15a9 3THO=15aa 3THOO=15ab 2THA=1566 2THAA=1567 2THE=155e
2THI=1560 2THII=1562 2THO=1564 2THOO=1565 2THWA=18e4 2THWAA=1568 2THWE=18e3 2TI=144e 2TII=144f
2TLHA=1589 2TLHE=1586 2TLHI=1587 2TLHO=1588 2TLHOO=18e9 2TLHWE=18e8 2TO=1450 2TOO=1451 2TTA=146a
2TTE=1467 2TTH=156f 2TTHA=156e 2TTHAA=18e7 2TTHE=156b 2TTHI=156c 2TTHO=156d 2TTHOO=18e6 2TTHWE=18e5
2TTI=1468 2TTO=1469 2TWA=1461 2TWAA=1463 2TWE=1457 2TWI=1459 2TWII=145b 2TWO=145d 2TWOO=145f
2TYA=1573 2TYE=1570 2TYI=1571 2TYO=1572 2WA=1417 2WAA=1419 2WAY=18b3 2WE=140c 2WEST-CREE_CWA=149d
3CWAA=149f 3CWE=1493 3CWI=1495 3CWII=1497 3CWO=1499 3CWOO=149b 3FWAA=155c 3KWA=147f 3KWAA=1481
3KWE=1475 3KWI=1477 3KWII=1479 3KWO=147b 3KWOO=147d 3L=14eb 3LA=154d 3LAA=18e2 3LE=1544 3LO=154a
3LOO=18e1 3LWA=14e7 3LWAA=14e9 3LWE=14dd 3LWI=14df 3LWII=14e1 3LWO=14e3 3LWOO=14e5 3M=14bc
3MWA=14b7 3MWAA=14b9 3MWE=14ad 3MWI=14af 3MWII=14b1 3MWO=14b3 3MWOO=14b5 3NWA=14cc 3NWAA=14ce
3NWE=14ca 3P=144a 3PWA=1445 3PWAA=1447 3PWE=143b 3PWI=143d 3PWII=143f 3PWO=1441 3PWOO=1443 3R=1551
3RA=158d 3RE=158a 3RI=158b 3RO=158c 3RWAA=154f 3SHWA=1522 3SHWAA=1524 3SHWE=1518 3SHWI=151a
3SHWII=151c 3SHWO=151e 3SHWOO=1520 3SWA=1501 3SWAA=1503 3SWE=14f7 3SWI=14f9 3SWII=14fb 3SWO=14fd
3SWOO=14ff 3THWAA=1569 3TWA=1462 3TWAA=1464 3TWE=1458 3TWI=145a 3TWII=145c 3TWO=145e 3TWOO=1460
3WA=1418 3WAA=141a 3WE=140d 3WI=140f 3WII=1411 3WO=1413 3WOO=1415 3Y=1540 3YWA=153a 3YWAA=153c
3YWE=1530 3YWI=1532 3YWII=1534 3YWO=1536 3YWOO=1538 2WESTERN_W=18dd 2WI=140e 2WII=1410 2WO=1412
2WOO=1414 2WOODS-CREE_FINAL_TH=167e 3TH=159f 3THA=159e 3THE=159b 3THI=159c 3THO=159d 3THWA=167c
3THWAA=167d 3THWEE=1677 3THWI=1678 3THWII=1679 3THWO=167a 3THWOO=167b 2Y=153e 2Y-CREE_COO=148f
3KOO=1471 3LOO=14d9 3MOO=14a9 3NOO=14c6 3OO=1407 3POO=1435 3PWAA=1448 3SOO=14f3 3TOO=1452 3W=141d
3YOO=152c 2YA=152d 2YAA=152e 2YAAI=1527 2YAY=18c4 2YE=1526 2YI=1528 2YII=1529 2YO=152a 2YOO=152b
2YOY=18c3 2YWA=1539 2YWAA=153b 2YWE=152f 2YWI=1531 2YWII=1533 2YWO=1535 2YWOO=1537 0CANCEL=18
1CHARACTER=94 1TAG=e007f 0CANCELLATION_X=1f5d9 0CANCER=264b 0CANDLE=1f56f 0CANDY=1f36c
0CANNED_FOOD=1f96b 0CANOE=1f6f6 0CAPITULUM=2e3f 0CAPRICORN=2651 0CAR_SLIDING=26d0
0CARD_FILE_BOX=1f5c3 1INDEX=1f4c7 2DIVIDERS=1f5c2 0CARE_OF=2105 0CARET=2038 1INSERTION_POINT=2041
0CARIAN_LETTER_A=102a0 2A2=102a7 2B=102a9 2C-18=102b1 2C-39=102c6 2D=102a2 2D2=102ac 2E=102ba
2E2=102cf 2G=102c0 2G2=102c1 2I=102b9 2II=102c5 2K=102bc 2K2=102bd 2L=102a3 2LD=102a6 2LD2=102ce
2M=102aa 2MB=102ca 2MB2=102cb 2MB3=102cc 2MB4=102cd 2N=102b5 2ND=102be 2NG=102c4 2NN=102b3 2O=102ab
2P=102b7 2P2=102a1 2Q=102a8 2R=102a5 2RR=102c9 2S=102b0 2SH=102ae 2SH2=102af 2SS=102b8 2ST=102c2
2ST2=102c3 2T=102ad 2TT=102c7 2TT2=102b6 2U=102b2 2UU=102bf 2UUU=102a4 2UUU2=102c8 2UUU3=102d0
2UUUU=102bb 2X=102b4 0CARON=2c7 0CAROUSEL_HORSE=1f3a0 0CARP_STREAMER=1f38f 0CARPENTRY_SAW=1fa9a
0CARRIAGE_RETURN=d 0CARROT=1f955 0CASTLE=26eb 0CAT=1f408 1FACE=1f431 2WITH_TEARS_OF_JOY=1f639
3WRY_SMILE=1f63c 0CAUCASIAN_ALBANIAN_CITATION_MARK=1056f 2LETTER_ALT=10530 3AOR=10548 3BET=10531
3CAR=10542 3CAYN=10560 3CHA=10539 3CHAT=10556 3CHI=1054a 3CHOY=10549 3CYAW=1055f 3CYAY=1054b
3DAT=10533 3DYAN=10541 3DZAY=10555 3DZYAY=1054f 3EB=10534 3EYN=10536 3FAM=10554 3GHEYS=10558
3GIM=10532 3HEYT=10546 3INYA=1053f 3IRB=1053c 3IWN=1055e 3JAYN=10551 3JHOX=10543 3KAR=10544
3KIW=10563 3LAN=1053e 3LYIT=10545 3MAQ=1054c 3NOWC=1054e 3ON=10552 3PEN=10557 3PIWR=10562
3QAR=1054d 3QAY=10547 3RAT=10559 3SEYK=1055a 3SHA=1053d 3SHAK=10550 3SHOY=1055d 3TAS=10538
3TIWR=1055c 3TYAY=10553 3VEYZ=1055b 3XEYN=10540 3YAYD=10561 3YOWD=1053a 3ZARL=10535 3ZHA=1053b
3ZHIL=10537 0CAUTION_SIGN=2621 0CCH=94 0CEDI_SIGN=20b5 0CEDILLA=b8 0CELTIC_CROSS=1f548
0CENT_SIGN=a2 0CENTRE_LINE_SYMBOL=2104 0CENTRELINE_LOW_LINE=fe4e 1OVERLINE=fe4a 0CERES=26b3
0CGJ=34f 0CHAINS=26d3 0CHAIR=1fa91 0CHAKMA_AU_MARK=11132 1DANDA=11141 1DIGIT_EIGHT=1113e
2FIVE=1113b 2FOUR=1113a 2NINE=1113f 2ONE=11137 2SEVEN=1113d 2SIX=1113c 2THREE=11139 2TWO=11138
2ZERO=11136 1DOUBLE_DANDA=11142 1LETTER_AA=11103 2BAA=1111d 2BHAA=1111e 2CAA=1110c 2CHAA=1110d
2DAA=11118 2DDAA=11113 2DDHAA=11114 2DHAA=11119 2E=11106 2GAA=11109 2GHAA=1110a 2HAA=11126 2I=11104
2JAA=1110e 2JHAA=1110f 2KAA=11107 2KHAA=11108 2LAA=11123 2LHAA=11144 2MAA=1111f 2NAA=1111a
2NGAA=1110b 2NNAA=11115 2NYAA=11110 2PAA=1111b 2PHAA=1111c 2RAA=11122 2SAA=11125 2TAA=11116
2THAA=11117 2TTAA=11111 2TTHAA=11112 2U=11105 2VAA=11147 2WAA=11124 2YAA=11121 2YYAA=11120
1MAAYYAA=11134 1O_MARK=11131 1QUESTION_MARK=11143 1SECTION_MARK=11140 1SIGN_ANUSVARA=11101
2CANDRABINDU=11100 2VISARGA=11102 1VIRAMA=11133 1VOWEL_SIGN_A=11127 3AA=11145 3AI=1112d 3AU=1112f
3E=1112c 3EI=11146 3I=11128 3II=11129 3O=1112e 3OI=11130 3U=1112a 3UU=1112b
0CHAM_CONSONANT_SIGN_FINAL_H=aa4d 4M=aa4c 4NG=aa43 3LA=aa35 3RA=aa34 3WA=aa36 3YA=aa33
1DIGIT_EIGHT=aa58 2FIVE=aa55 2FOUR=aa54 2NINE=aa59 2ONE=aa51 2SEVEN=aa57 2SIX=aa56 2THREE=aa53
2TWO=aa52 2ZERO=aa50 1LETTER_A=aa00 2AI=aa04 2BA=aa1d 2BBA=aa21 2BHA=aa1e 2CHA=aa0c 2CHHA=aa0d
2DA=aa15 2DDA=aa19 2DHA=aa16 2E=aa03 2FINAL_CH=aa44 3G=aa41 3K=aa40 3L=aa4a 3N=aa46 3NG=aa42
3P=aa47 3R=aa49 3SS=aa4b 3T=aa45 3Y=aa48 2GA=aa08 2GHA=aa09 2HA=aa28 2I=aa01 2JA=aa0e 2JHA=aa0f
2KA=aa06 2KHA=aa07 2LA=aa24 2MA=aa20 2MUE=aa1f 2NA=aa18 2NGA=aa0b 2NGUE=aa0a 2NHA=aa11 2NHJA=aa12
2NHUE=aa10 2NUE=aa17 2O=aa05 2PA=aa1a 2PHA=aa1c 2PPA=aa1b 2RA=aa23 2SA=aa27 2SSA=aa26 2TA=aa13
2THA=aa14 2U=aa02 2VA=aa25 2YA=aa22 1PUNCTUATION_DANDA=aa5d 2DOUBLE_DANDA=aa5e 2SPIRAL=aa5c
2TRIPLE_DANDA=aa5f 1VOWEL_SIGN_AA=aa29 3AI=aa30 3AU=aa31 3EI=aa2c 3I=aa2a 3II=aa2b 3O=aa2f 3OE=aa2e
3U=aa2d 3UE=aa32 0CHARACTER_TABULATION=9 2SET=88 2WITH_JUSTIFICATION=89 1TIE=2040
0CHART_WITH_DOWNWARDS_TREND=1f4c9 2UPWARDS_TREND=1f4c8 4AND_YEN_SIGN=1f4b9 0CHECK_MARK=2713
0CHECKER_BOARD=1f67e 2FILL=1fb95 0CHEERING_MEGAPHONE=1f4e3 0CHEESE_WEDGE=1f9c0
0CHEQUERED_FLAG=1f3c1 0CHEROKEE_LETTER_A=13a0 2DA=13d3 2DE=13d5 2DI=13d7 2DLA=13dc 2DO=13d9
2DU=13da 2DV=13db 2E=13a1 2GA=13a6 2GE=13a8 2GI=13a9 2GO=13aa 2GU=13ab 2GV=13ac 2HA=13ad 2HE=13ae
2HI=13af 2HNA=13bf 2HO=13b0 2HU=13b1 2HV=13b2 2I=13a2 2KA=13a7 2LA=13b3 2LE=13b4 2LI=13b5 2LO=13b6
2LU=13b7 2LV=13b8 2MA=13b9 2ME=13ba 2MI=13bb 2MO=13bc 2MU=13bd 2MV=13f5 2NA=13be 2NAH=13c0 2NE=13c1
2NI=13c2 2NO=13c3 2NU=13c4 2NV=13c5 2O=13a3 2QUA=13c6 2QUE=13c7 2QUI=13c8 2QUO=13c9 2QUU=13ca
2QUV=13cb 2S=13cd 2SA=13cc 2SE=13ce 2SI=13cf 2SO=13d0 2SU=13d1 2SV=13d2 2TA=13d4 2TE=13d6 2TI=13d8
2TLA=13dd 2TLE=13de 2TLI=13df 2TLO=13e0 2TLU=13e1 2TLV=13e2 2TSA=13e3 2TSE=13e4 2TSI=13e5 2TSO=13e6
2TSU=13e7 2TSV=13e8 2U=13a4 2V=13a5 2WA=13e9 2WE=13ea 2WI=13eb 2WO=13ec 2WU=13ed 2WV=13ee 2YA=13ef
2YE=13f0 2YI=13f1 2YO=13f2 2YU=13f3 2YV=13f4 1SMALL_LETTER_A=ab70 3DA=aba3 3DE=aba5 3DI=aba7
3DLA=abac 3DO=aba9 3DU=abaa 3DV=abab 3E=ab71 3GA=ab76 3GE=ab78 3GI=ab79 3GO=ab7a 3GU=ab7b 3GV=ab7c
3HA=ab7d 3HE=ab7e 3HI=ab7f 3HNA=ab8f 3HO=ab80 3HU=ab81 3HV=ab82 3I=ab72 3KA=ab77 3LA=ab83 3LE=ab84
3LI=ab85 3LO=ab86 3LU=ab87 3LV=ab88 3MA=ab89 3ME=ab8a 3MI=ab8b 3MO=ab8c 3MU=ab8d 3MV=13fd 3NA=ab8e
3NAH=ab90 3NE=ab91 3NI=ab92 3NO=ab93 3NU=ab94 3NV=ab95 3O=ab73 3QUA=ab96 3QUE=ab97 3QUI=ab98
3QUO=ab99 3QUU=ab9a 3QUV=ab9b 3S=ab9d 3SA=ab9c 3SE=ab9e 3SI=ab9f 3SO=aba0 3SU=aba1 3SV=aba2
3TA=aba4 3TE=aba6 3TI=aba8 3TLA=abad 3TLE=abae 3TLI=abaf 3TLO=abb0 3TLU=abb1 3TLV=abb2 3TSA=abb3
3TSE=abb4 3TSI=abb5 3TSO=abb6 3TSU=abb7 3TSV=abb8 3U=ab74 3V=ab75 3WA=abb9 3WE=abba 3WI=abbb
3WO=abbc 3WU=abbd 3WV=abbe 3YA=abbf 3YE=13f8 3YI=13f9 3YO=13fa 3YU=13fb 3YV=13fc 0CHERRIES=1f352
0CHERRY_BLOSSOM=1f338 0CHESTNUT=1f330 0CHI_RHO=2627 0CHICKEN=1f414 0CHILD=1f9d2
0CHILDREN_CROSSING=1f6b8 0CHIPMUNK=1f43f 0CHIRON=26b7 0CHOCOLATE_BAR=1f36b 0CHOPSTICKS=1f962
0CHORASMIAN_LETTER_ALEPH=10fb0 2AYIN=10fc0 2BETH=10fb2 2CURLED_WAW=10fb7 2DALETH=10fb4 2GIMEL=10fb3
2HE=10fb5 2HETH=10fb9 2KAPH=10fbb 2LAMEDH=10fbc 2MEM=10fbd 2NUN=10fbe 2PE=10fc1 2RESH=10fc2
2SAMEKH=10fbf 2SHIN=10fc3 2SMALL_ALEPH=10fb1 2TAW=10fc4 2WAW=10fb6 2YODH=10fba 2ZAYIN=10fb8
1NUMBER_FOUR=10fc8 2ONE=10fc5 3HUNDRED=10fcb 2TEN=10fc9 2THREE=10fc7 2TWENTY=10fca 2TWO=10fc6
0CHRISTMAS_TREE=1f384 0CHURCH=26ea 0CINEMA=1f3a6
0CIRCLE_DIVIDED_BY_HORIZONTAL_BAR_AND_TOP_HALF_DIVIDED_BY_VERTICAL_BAR=29ba
1WITH_ALL_BUT_UPPER_LEFT_QUADRANT_BLACK=25d5 2HORIZONTAL_BAR=29b5 2LEFT_HALF_BLACK=25d0
2LOWER_HALF_BLACK=25d2 2RIGHT_HALF_BLACK=25d1 2SMALL_CIRCLE_TO_THE_RIGHT=29c2 2SUPERIMPOSED_X=29bb
2TWO_HORIZONTAL_STROKES_TO_THE_RIGHT=29c3 2UPPER_HALF_BLACK=25d3 3RIGHT_QUADRANT_BLACK=25d4
2VERTICAL_FILL=25cd 0CIRCLED_ANTICLOCKWISE_ARROW=1f10e 1ANTICLOCKWISE-ROTATED_DIVISION_SIGN=29bc
1ASTERISK_OPERATOR=229b 1BOLD_X=2bbf 1BULLET=29bf 1C_WITH_OVERLAID_BACKSLASH=1f16e 1CC=1f16d
1CD=1f12d 1CROSS_FORMEE=1f902 3WITH_FOUR_DOTS=1f900 4TWO_DOTS=1f901 2POMMEE=1f540
1CROSSING_LANES=26d2 1DASH=229d 1DIGIT_EIGHT=2467 2FIVE=2464 2FOUR=2463 2NINE=2468 2ONE=2460
2SEVEN=2466 2SIX=2465 2THREE=2462 2TWO=2461 2ZERO=24ea 1DIVISION_SIGN=2a38 2SLASH=2298
1DOLLAR_SIGN_WITH_OVERLAID_BACKSLASH=1f10f 1DOT_OPERATOR=2299 1EQUALS=229c 1GREATER-THAN=29c1
1HANGUL_CHIEUCH=3269 3A=3277 2CIEUC=3268 3A=3276 2HIEUH=326d 3A=327b 2IEUNG=3267 3A=3275 3U=327e
2KHIEUKH=326a 3A=3278 2KIYEOK=3260 3A=326e 2MIEUM=3264 3A=3272 2NIEUN=3261 3A=326f 2PHIEUPH=326c
3A=327a 2PIEUP=3265 3A=3273 2RIEUL=3263 3A=3271 2SIOS=3266 3A=3274 2THIEUTH=326b 3A=3279
2TIKEUT=3262 3A=3270 1HEAVY_WHITE_RIGHTWARDS_ARROW=27b2 1HORIZONTAL_BAR_WITH_NOTCH=2389
1HUMAN_FIGURE=1f16f 1IDEOGRAPH_ACCEPT=1f251 2ADVANTAGE=1f250 2ALLIANCE=32af 2ATTENTION=329f
2CENTRE=32a5 2CONGRATULATION=3297 2COPY=32a2 2CORRECT=32a3 2EARTH=328f 2EIGHT=3287 2ENTERPRISE=32ad
2EXCELLENT=329d 2FEMALE=329b 2FINANCIAL=3296 2FIRE=328b 2FIVE=3284 2FOUR=3283 2HAVE=3292 2HIGH=32a4
2ITEM=32a0 2KINDERGARTEN=3245 2KOTO=3247 2LABOR=3298 2LEFT=32a7 2LOW=32a6 2MALE=329a 2MEDICINE=32a9
2METAL=328e 2MOON=328a 2NAME=3294 2NIGHT=32b0 2NINE=3288 2ONE=3280 2PRINT=329e 2QUESTION=3244
2RELIGION=32aa 2RESOURCE=32ae 2REST=32a1 2RIGHT=32a8 2SCHOOL=3246 2SECRET=3299 2SEVEN=3286
2SIX=3285 2SOCIETY=3293 2SPECIAL=3295 2STOCK=3291 2STUDY=32ab 2SUITABLE=329c 2SUN=3290
2SUPERVISE=32ac 2TEN=3289 2THREE=3282 2TWO=3281 2WATER=328c 2WOOD=328d 1INFORMATION_SOURCE=1f6c8
1ITALIC_LATIN_CAPITAL_LETTER_C=1f12b 5R=1f12c 1KATAKANA_A=32d0 2E=32d3 2HA=32e9 2HE=32ec 2HI=32ea
2HO=32ed 2HU=32eb 2I=32d1 2KA=32d5 2KE=32d8 2KI=32d6 2KO=32d9 2KU=32d7 2MA=32ee 2ME=32f1 2MI=32ef
2MO=32f2 2MU=32f0 2NA=32e4 2NE=32e7 2NI=32e5 2NO=32e8 2NU=32e6 2O=32d4 2RA=32f6 2RE=32f9 2RI=32f7
2RO=32fa 2RU=32f8 2SA=32da 2SE=32dd 2SI=32db 2SO=32de 2SU=32dc 2TA=32df 2TE=32e2 2TI=32e0 2TO=32e3
2TU=32e1 2U=32d2 2WA=32fb 2WE=32fd 2WI=32fc 2WO=32fe 2YA=32f3 2YO=32f5 2YU=32f4
1KOREAN_CHARACTER_CHAMKO=327c 3JUEUI=327d 1LATIN_CAPITAL_LETTER_A=24b6 4B=24b7 4C=24b8 4D=24b9
4E=24ba 4F=24bb 4G=24bc 4H=24bd 4I=24be 4J=24bf 4K=24c0 4L=24c1 4M=24c2 4N=24c3 4O=24c4 4P=24c5
4Q=24c6 4R=24c7 4S=24c8 4T=24c9 4U=24ca 4V=24cb 4W=24cc 4X=24cd 4Y=24ce 4Z=24cf
2SMALL_LETTER_A=24d0 4B=24d1 4C=24d2 4D=24d3 4E=24d4 4F=24d5 4G=24d6 4H=24d7 4I=24d8 4J=24d9
4K=24da 4L=24db 4M=24dc 4N=24dd 4O=24de 4P=24df 4Q=24e0 4R=24e1 4S=24e2 4T=24e3 4U=24e4 4V=24e5
4W=24e6 4X=24e7 4Y=24e8 4Z=24e9 1LESS-THAN=29c0 1MINUS=2296
1MULTIPLICATION_SIGN_WITH_CIRCUMFLEX_ACCENT=2a36 1NUMBER_EIGHTEEN=2471 2EIGHTY_ON_BLACK_SQUARE=324f
2ELEVEN=246a 2FIFTEEN=246e 2FIFTY=32bf 3ON_BLACK_SQUARE=324c 2FORTY=32b5 3EIGHT=32bd 3FIVE=32ba
3FOUR=32b9 3NINE=32be 3ON_BLACK_SQUARE=324b 3ONE=32b6 3SEVEN=32bc 3SIX=32bb 3THREE=32b8 3TWO=32b7
2FOURTEEN=246d 2NINETEEN=2472 2SEVENTEEN=2470 2SEVENTY_ON_BLACK_SQUARE=324e 2SIXTEEN=246f
2SIXTY_ON_BLACK_SQUARE=324d 2TEN=2469 3ON_BLACK_SQUARE=3248 2THIRTEEN=246c 2THIRTY=325a 3EIGHT=32b3
3FIVE=325f 3FOUR=325e 3NINE=32b4 3ON_BLACK_SQUARE=324a 3ONE=325b 3SEVEN=32b2 3SIX=32b1 3THREE=325d
3TWO=325c 2TWELVE=246b 2TWENTY=2473 3EIGHT=3258 3FIVE=3255 3FOUR=3254 3NINE=3259
3ON_BLACK_SQUARE=3249 3ONE=3251 3SEVEN=3257 3SIX=3256 3THREE=3253 3TWO=3252
1OPEN_CENTRE_EIGHT_POINTED_STAR=2742 1PARALLEL=29b7 1PERPENDICULAR=29b9 1PLUS=2295
1POSTAL_MARK=3036 1REVERSE_SOLIDUS=29b8 1RING_OPERATOR=229a 1SQUARE=1f7d7 1TIMES=2297
1TRIANGLE=1f7d5 2DOWN=238a 1VERTICAL_BAR=29b6 1WHITE_BULLET=29be 2STAR=272a 1WZ=1f12e 1X=2bbe
1ZERO_WITH_SLASH=1f10d 0CIRCULATION_FUNCTION=2a10 0CIRCUMFLEX_ACCENT=5e 0CIRCUS_TENT=1f3aa
0CITYSCAPE=1f3d9 1AT_DUSK=1f306 0CJK_COMPATIBILITY_IDEOGRAPH-2F800=2f800 2IDEOGRAPH-2F801=2f801
2IDEOGRAPH-2F802=2f802 2IDEOGRAPH-2F803=2f803 2IDEOGRAPH-2F804=2f804 2IDEOGRAPH-2F805=2f805
2IDEOGRAPH-2F806=2f806 2IDEOGRAPH-2F807=2f807 2IDEOGRAPH-2F808=2f808 2IDEOGRAPH-2F809=2f809
2IDEOGRAPH-2F80A=2f80a 2IDEOGRAPH-2F80B=2f80b 2IDEOGRAPH-2F80C=2f80c 2IDEOGRAPH-2F80D=2f80d
2IDEOGRAPH-2F80E=2f80e 2IDEOGRAPH-2F80F=2f80f 2IDEOGRAPH-2F810=2f810 2IDEOGRAPH-2F811=2f811
2IDEOGRAPH-2F812=2f812 2IDEOGRAPH-2F813=2f813 2IDEOGRAPH-2F814=2f814 2IDEOGRAPH-2F815=2f815
2IDEOGRAPH-2F816=2f816 2IDEOGRAPH-2F817=2f817 2IDEOGRAPH-2F818=2f818 2IDEOGRAPH-2F819=2f819
2IDEOGRAPH-2F81A=2f81a 2IDEOGRAPH-2F81B=2f81b 2IDEOGRAPH-2F81C=2f81c 2IDEOGRAPH-2F81D=2f81d
2IDEOGRAPH-2F81E=2f81e 2IDEOGRAPH-2F81F=2f81f 2IDEOGRAPH-2F820=2f820 2IDEOGRAPH-2F821=2f821
2IDEOGRAPH-2F822=2f822 2IDEOGRAPH-2F823=2f823 2IDEOGRAPH-2F824=2f824 2IDEOGRAPH-2F825=2f825
2IDEOGRAPH-2F826=2f826 2IDEOGRAPH-2F827=2f827 2IDEOGRAPH-2F828=2f828 2IDEOGRAPH-2F829=2f829
2IDEOGRAPH-2F82A=2f82a 2IDEOGRAPH-2F82B=2f82b 2IDEOGRAPH-2F82C=2f82c 2IDEOGRAPH-2F82D=2f82d
2IDEOGRAPH-2F82E=2f82e 2IDEOGRAPH-2F82F=2f82f 2IDEOGRAPH-2F830=2f830 2IDEOGRAPH-2F831=2f831
2IDEOGRAPH-2F832=2f832 2IDEOGRAPH-2F833=2f833 2IDEOGRAPH-2F834=2f834 2IDEOGRAPH-2F835=2f835
2IDEOGRAPH-2F836=2f836 2IDEOGRAPH-2F837=2f837 2IDEOGRAPH-2F838=2f838 2IDEOGRAPH-2F839=2f839
2IDEOGRAPH-2F83A=2f83a 2IDEOGRAPH-2F83B=2f83b 2IDEOGRAPH-2F83C=2f83c 2IDEOGRAPH-2F83D=2f83d
2IDEOGRAPH-2F83E=2f83e 2IDEOGRAPH-2F83F=2f83f 2IDEOGRAPH-2F840=2f840 2IDEOGRAPH-2F841=2f841
2IDEOGRAPH-2F842=2f842 2IDEOGRAPH-2F843=2f843 2IDEOGRAPH-2F844=2f844 2IDEOGRAPH-2F845=2f845
2IDEOGRAPH-2F846=2f846 2IDEOGRAPH-2F847=2f847 2IDEOGRAPH-2F848=2f848 2IDEOGRAPH-2F849=2f849
2IDEOGRAPH-2F84A=2f84a 2IDEOGRAPH-2F84B=2f84b 2IDEOGRAPH-2F84C=2f84c 2IDEOGRAPH-2F84D=2f84d
2IDEOGRAPH-2F84E=2f84e 2IDEOGRAPH-2F84F=2f84f 2IDEOGRAPH-2F850=2f850 2IDEOGRAPH-2F851=2f851
2IDEOGRAPH-2F852=2f852 2IDEOGRAPH-2F853=2f853 2IDEOGRAPH-2F854=2f854 2IDEOGRAPH-2F855=2f855
2IDEOGRAPH-2F856=2f856 2IDEOGRAPH-2F857=2f857 2IDEOGRAPH-2F858=2f858 2IDEOGRAPH-2F859=2f859
2IDEOGRAPH-2F85A=2f85a 2IDEOGRAPH-2F85B=2f85b 2IDEOGRAPH-2F85C=2f85c 2IDEOGRAPH-2F85D=2f85d
2IDEOGRAPH-2F85E=2f85e 2IDEOGRAPH-2F85F=2f85f 2IDEOGRAPH-2F860=2f860 2IDEOGRAPH-2F861=2f861
2IDEOGRAPH-2F862=2f862 2IDEOGRAPH-2F863=2f863 2IDEOGRAPH-2F864=2f864 2IDEOGRAPH-2F865=2f865
2IDEOGRAPH-2F866=2f866 2IDEOGRAPH-2F867=2f867 2IDEOGRAPH-2F868=2f868 2IDEOGRAPH-2F869=2f869
2IDEOGRAPH-2F86A=2f86a 2IDEOGRAPH-2F86B=2f86b 2IDEOGRAPH-2F86C=2f86c 2IDEOGRAPH-2F86D=2f86d
2IDEOGRAPH-2F86E=2f86e 2IDEOGRAPH-2F86F=2f86f 2IDEOGRAPH-2F870=2f870 2IDEOGRAPH-2F871=2f871
2IDEOGRAPH-2F872=2f872 2IDEOGRAPH-2F873=2f873 2IDEOGRAPH-2F874=2f874 2IDEOGRAPH-2F875=2f875
2IDEOGRAPH-2F876=2f876 2IDEOGRAPH-2F877=2f877 2IDEOGRAPH-2F878=2f878 2IDEOGRAPH-2F879=2f879
2IDEOGRAPH-2F87A=2f87a 2IDEOGRAPH-2F87B=2f87b 2IDEOGRAPH-2F87C=2f87c 2IDEOGRAPH-2F87D=2f87d
2IDEOGRAPH-2F87E=2f87e 2IDEOGRAPH-2F87F=2f87f 2IDEOGRAPH-2F880=2f880 2IDEOGRAPH-2F881=2f881
2IDEOGRAPH-2F882=2f882 2IDEOGRAPH-2F883=2f883 2IDEOGRAPH-2F884=2f884 2IDEOGRAPH-2F885=2f885
2IDEOGRAPH-2F886=2f886 2IDEOGRAPH-2F887=2f887 2IDEOGRAPH-2F888=2f888 2IDEOGRAPH-2F889=2f889
2IDEOGRAPH-2F88A=2f88a 2IDEOGRAPH-2F88B=2f88b 2IDEOGRAPH-2F88C=2f88c 2IDEOGRAPH-2F88D=2f88d
2IDEOGRAPH-2F88E=2f88e 2IDEOGRAPH-2F88F=2f88f 2IDEOGRAPH-2F890=2f890 2IDEOGRAPH-2F891=2f891
2IDEOGRAPH-2F892=2f892 2IDEOGRAPH-2F893=2f893 2IDEOGRAPH-2F894=2f894 2IDEOGRAPH-2F895=2f895
2IDEOGRAPH-2F896=2f896 2IDEOGRAPH-2F897=2f897 2IDEOGRAPH-2F898=2f898 2IDEOGRAPH-2F899=2f899
2IDEOGRAPH-2F89A=2f89a 2IDEOGRAPH-2F89B=2f89b 2IDEOGRAPH-2F89C=2f89c 2IDEOGRAPH-2F89D=2f89d
2IDEOGRAPH-2F89E=2f89e 2IDEOGRAPH-2F89F=2f89f 2IDEOGRAPH-2F8A0=2f8a0 2IDEOGRAPH-2F8A1=2f8a1
2IDEOGRAPH-2F8A2=2f8a2 2IDEOGRAPH-2F8A3=2f8a3 2IDEOGRAPH-2F8A4=2f8a4 2IDEOGRAPH-2F8A5=2f8a5
2IDEOGRAPH-2F8A6=2f8a6 2IDEOGRAPH-2F8A7=2f8a7 2IDEOGRAPH-2F8A8=2f8a8 2IDEOGRAPH-2F8A9=2f8a9
2IDEOGRAPH-2F8AA=2f8aa 2IDEOGRAPH-2F8AB=2f8ab 2IDEOGRAPH-2F8AC=2f8ac 2IDEOGRAPH-2F8AD=2f8ad
2IDEOGRAPH-2F8AE=2f8ae 2IDEOGRAPH-2F8AF=2f8af 2IDEOGRAPH-2F8B0=2f8b0 2IDEOGRAPH-2F8B1=2f8b1
2IDEOGRAPH-2F8B2=2f8b2 2IDEOGRAPH-2F8B3=2f8b3 2IDEOGRAPH-2F8B4=2f8b4 2IDEOGRAPH-2F8B5=2f8b5
2IDEOGRAPH-2F8B6=2f8b6 2IDEOGRAPH-2F8B7=2f8b7 2IDEOGRAPH-2F8B8=2f8b8 2IDEOGRAPH-2F8B9=2f8b9
2IDEOGRAPH-2F8BA=2f8ba 2IDEOGRAPH-2F8BB=2f8bb 2IDEOGRAPH-2F8BC=2f8bc 2IDEOGRAPH-2F8BD=2f8bd
2IDEOGRAPH-2F8BE=2f8be 2IDEOGRAPH-2F8BF=2f8bf 2IDEOGRAPH-2F8C0=2f8c0 2IDEOGRAPH-2F8C1=2f8c1
2IDEOGRAPH-2F8C2=2f8c2 2IDEOGRAPH-2F8C3=2f8c3 2IDEOGRAPH-2F8C4=2f8c4 2IDEOGRAPH-2F8C5=2f8c5
2IDEOGRAPH-2F8C6=2f8c6 2IDEOGRAPH-2F8C7=2f8c7 2IDEOGRAPH-2F8C8=2f8c8 2IDEOGRAPH-2F8C9=2f8c9
2IDEOGRAPH-2F8CA=2f8ca 2IDEOGRAPH-2F8CB=2f8cb 2IDEOGRAPH-2F8CC=2f8cc 2IDEOGRAPH-2F8CD=2f8cd
2IDEOGRAPH-2F8CE=2f8ce 2IDEOGRAPH-2F8CF=2f8cf 2IDEOGRAPH-2F8D0=2f8d0 2IDEOGRAPH-2F8D1=2f8d1
2IDEOGRAPH-2F8D2=2f8d2 2IDEOGRAPH-2F8D3=2f8d3 2IDEOGRAPH-2F8D4=2f8d4 2IDEOGRAPH-2F8D5=2f8d5
2IDEOGRAPH-2F8D6=2f8d6 2IDEOGRAPH-2F8D7=2f8d7 2IDEOGRAPH-2F8D8=2f8d8 2IDEOGRAPH-2F8D9=2f8d9
2IDEOGRAPH-2F8DA=2f8da 2IDEOGRAPH-2F8DB=2f8db 2IDEOGRAPH-2F8DC=2f8dc 2IDEOGRAPH-2F8DD=2f8dd
2IDEOGRAPH-2F8DE=2f8de 2IDEOGRAPH-2F8DF=2f8df 2IDEOGRAPH-2F8E0=2f8e0 2IDEOGRAPH-2F8E1=2f8e1
2IDEOGRAPH-2F8E2=2f8e2 2IDEOGRAPH-2F8E3=2f8e3 2IDEOGRAPH-2F8E4=2f8e4 2IDEOGRAPH-2F8E5=2f8e5
2IDEOGRAPH-2F8E6=2f8e6 2IDEOGRAPH-2F8E7=2f8e7 2IDEOGRAPH-2F8E8=2f8e8 2IDEOGRAPH-2F8E9=2f8e9
2IDEOGRAPH-2F8EA=2f8ea 2IDEOGRAPH-2F8EB=2f8eb 2IDEOGRAPH-2F8EC=2f8ec 2IDEOGRAPH-2F8ED=2f8ed
2IDEOGRAPH-2F8EE=2f8ee 2IDEOGRAPH-2F8EF=2f8ef 2IDEOGRAPH-2F8F0=2f8f0 2IDEOGRAPH-2F8F1=2f8f1
2IDEOGRAPH-2F8F2=2f8f2 2IDEOGRAPH-2F8F3=2f8f3 2IDEOGRAPH-2F8F4=2f8f4 2IDEOGRAPH-2F8F5=2f8f5
2IDEOGRAPH-2F8F6=2f8f6 2IDEOGRAPH-2F8F7=2f8f7 2IDEOGRAPH-2F8F8=2f8f8 2IDEOGRAPH-2F8F9=2f8f9
2IDEOGRAPH-2F8FA=2f8fa 2IDEOGRAPH-2F8FB=2f8fb 2IDEOGRAPH-2F8FC=2f8fc 2IDEOGRAPH-2F8FD=2f8fd
2IDEOGRAPH-2F8FE=2f8fe 2IDEOGRAPH-2F8FF=2f8ff 2IDEOGRAPH-2F900=2f900 2IDEOGRAPH-2F901=2f901
2IDEOGRAPH-2F902=2f902 2IDEOGRAPH-2F903=2f903 2IDEOGRAPH-2F904=2f904 2IDEOGRAPH-2F905=2f905
2IDEOGRAPH-2F906=2f906 2IDEOGRAPH-2F907=2f907 2IDEOGRAPH-2F908=2f908 2IDEOGRAPH-2F909=2f909
2IDEOGRAPH-2F90A=2f90a 2IDEOGRAPH-2F90B=2f90b 2IDEOGRAPH-2F90C=2f90c 2IDEOGRAPH-2F90D=2f90d
2IDEOGRAPH-2F90E=2f90e 2IDEOGRAPH-2F90F=2f90f 2IDEOGRAPH-2F910=2f910 2IDEOGRAPH-2F911=2f911
2IDEOGRAPH-2F912=2f912 2IDEOGRAPH-2F913=2f913 2IDEOGRAPH-2F914=2f914 2IDEOGRAPH-2F915=2f915
2IDEOGRAPH-2F916=2f916 2IDEOGRAPH-2F917=2f917 2IDEOGRAPH-2F918=2f918 2IDEOGRAPH-2F919=2f919
2IDEOGRAPH-2F91A=2f91a 2IDEOGRAPH-2F91B=2f91b 2IDEOGRAPH-2F91C=2f91c 2IDEOGRAPH-2F91D=2f91d
2IDEOGRAPH-2F91E=2f91e 2IDEOGRAPH-2F91F=2f91f 2IDEOGRAPH-2F920=2f920 2IDEOGRAPH-2F921=2f921
2IDEOGRAPH-2F922=2f922 2IDEOGRAPH-2F923=2f923 2IDEOGRAPH-2F924=2f924 2IDEOGRAPH-2F925=2f925
2IDEOGRAPH-2F926=2f926 2IDEOGRAPH-2F927=2f927 2IDEOGRAPH-2F928=2f928 2IDEOGRAPH-2F929=2f929
2IDEOGRAPH-2F92A=2f92a 2IDEOGRAPH-2F92B=2f92b 2IDEOGRAPH-2F92C=2f92c 2IDEOGRAPH-2F92D=2f92d
2IDEOGRAPH-2F92E=2f92e 2IDEOGRAPH-2F92F=2f92f 2IDEOGRAPH-2F930=2f930 2IDEOGRAPH-2F931=2f931
2IDEOGRAPH-2F932=2f932 2IDEOGRAPH-2F933=2f933 2IDEOGRAPH-2F934=2f934 2IDEOGRAPH-2F935=2f935
2IDEOGRAPH-2F936=2f936 2IDEOGRAPH-2F937=2f937 2IDEOGRAPH-2F938=2f938 2IDEOGRAPH-2F939=2f939
2IDEOGRAPH-2F93A=2f93a 2IDEOGRAPH-2F93B=2f93b 2IDEOGRAPH-2F93C=2f93c 2IDEOGRAPH-2F93D=2f93d
2IDEOGRAPH-2F93E=2f93e 2IDEOGRAPH-2F93F=2f93f 2IDEOGRAPH-2F940=2f940 2IDEOGRAPH-2F941=2f941
2IDEOGRAPH-2F942=2f942 2IDEOGRAPH-2F943=2f943 2IDEOGRAPH-2F944=2f944 2IDEOGRAPH-2F945=2f945
2IDEOGRAPH-2F946=2f946 2IDEOGRAPH-2F947=2f947 2IDEOGRAPH-2F948=2f948 2IDEOGRAPH-2F949=2f949
2IDEOGRAPH-2F94A=2f94a 2IDEOGRAPH-2F94B=2f94b 2IDEOGRAPH-2F94C=2f94c 2IDEOGRAPH-2F94D=2f94d
2IDEOGRAPH-2F94E=2f94e 2IDEOGRAPH-2F94F=2f94f 2IDEOGRAPH-2F950=2f950 2IDEOGRAPH-2F951=2f951
2IDEOGRAPH-2F952=2f952 2IDEOGRAPH-2F953=2f953 2IDEOGRAPH-2F954=2f954 2IDEOGRAPH-2F955=2f955
2IDEOGRAPH-2F956=2f956 2IDEOGRAPH-2F957=2f957 2IDEOGRAPH-2F958=2f958 2IDEOGRAPH-2F959=2f959
2IDEOGRAPH-2F95A=2f95a 2IDEOGRAPH-2F95B=2f95b 2IDEOGRAPH-2F95C=2f95c 2IDEOGRAPH-2F95D=2f95d
2IDEOGRAPH-2F95E=2f95e 2IDEOGRAPH-2F95F=2f95f 2IDEOGRAPH-2F960=2f960 2IDEOGRAPH-2F961=2f961
2IDEOGRAPH-2F962=2f962 2IDEOGRAPH-2F963=2f963 2IDEOGRAPH-2F964=2f964 2IDEOGRAPH-2F965=2f965
2IDEOGRAPH-2F966=2f966 2IDEOGRAPH-2F967=2f967 2IDEOGRAPH-2F968=2f968 2IDEOGRAPH-2F969=2f969
2IDEOGRAPH-2F96A=2f96a 2IDEOGRAPH-2F96B=2f96b 2IDEOGRAPH-2F96C=2f96c 2IDEOGRAPH-2F96D=2f96d
2IDEOGRAPH-2F96E=2f96e 2IDEOGRAPH-2F96F=2f96f 2IDEOGRAPH-2F970=2f970 2IDEOGRAPH-2F971=2f971
2IDEOGRAPH-2F972=2f972 2IDEOGRAPH-2F973=2f973 2IDEOGRAPH-2F974=2f974 2IDEOGRAPH-2F975=2f975
2IDEOGRAPH-2F976=2f976 2IDEOGRAPH-2F977=2f977 2IDEOGRAPH-2F978=2f978 2IDEOGRAPH-2F979=2f979
2IDEOGRAPH-2F97A=2f97a 2IDEOGRAPH-2F97B=2f97b 2IDEOGRAPH-2F97C=2f97c 2IDEOGRAPH-2F97D=2f97d
2IDEOGRAPH-2F97E=2f97e 2IDEOGRAPH-2F97F=2f97f 2IDEOGRAPH-2F980=2f980 2IDEOGRAPH-2F981=2f981
2IDEOGRAPH-2F982=2f982 2IDEOGRAPH-2F983=2f983 2IDEOGRAPH-2F984=2f984 2IDEOGRAPH-2F985=2f985
2IDEOGRAPH-2F986=2f986 2IDEOGRAPH-2F987=2f987 2IDEOGRAPH-2F988=2f988 2IDEOGRAPH-2F989=2f989
2IDEOGRAPH-2F98A=2f98a 2IDEOGRAPH-2F98B=2f98b 2IDEOGRAPH-2F98C=2f98c 2IDEOGRAPH-2F98D=2f98d
2IDEOGRAPH-2F98E=2f98e 2IDEOGRAPH-2F98F=2f98f 2IDEOGRAPH-2F990=2f990 2IDEOGRAPH-2F991=2f991
2IDEOGRAPH-2F992=2f992 2IDEOGRAPH-2F993=2f993 2IDEOGRAPH-2F994=2f994 2IDEOGRAPH-2F995=2f995
2IDEOGRAPH-2F996=2f996 2IDEOGRAPH-2F997=2f997 2IDEOGRAPH-2F998=2f998 2IDEOGRAPH-2F999=2f999
2IDEOGRAPH-2F99A=2f99a 2IDEOGRAPH-2F99B=2f99b 2IDEOGRAPH-2F99C=2f99c 2IDEOGRAPH-2F99D=2f99d
2IDEOGRAPH-2F99E=2f99e 2IDEOGRAPH-2F99F=2f99f 2IDEOGRAPH-2F9A0=2f9a0 2IDEOGRAPH-2F9A1=2f9a1
2IDEOGRAPH-2F9A2=2f9a2 2IDEOGRAPH-2F9A3=2f9a3 2IDEOGRAPH-2F9A4=2f9a4 2IDEOGRAPH-2F9A5=2f9a5
2IDEOGRAPH-2F9A6=2f9a6 2IDEOGRAPH-2F9A7=2f9a7 2IDEOGRAPH-2F9A8=2f9a8 2IDEOGRAPH-2F9A9=2f9a9
2IDEOGRAPH-2F9AA=2f9aa 2IDEOGRAPH-2F9AB=2f9ab 2IDEOGRAPH-2F9AC=2f9ac 2IDEOGRAPH-2F9AD=2f9ad
2IDEOGRAPH-2F9AE=2f9ae 2IDEOGRAPH-2F9AF=2f9af 2IDEOGRAPH-2F9B0=2f9b0 2IDEOGRAPH-2F9B1=2f9b1
2IDEOGRAPH-2F9B2=2f9b2 2IDEOGRAPH-2F9B3=2f9b3 2IDEOGRAPH-2F9B4=2f9b4 2IDEOGRAPH-2F9B5=2f9b5
2IDEOGRAPH-2F9B6=2f9b6 2IDEOGRAPH-2F9B7=2f9b7 2IDEOGRAPH-2F9B8=2f9b8 2IDEOGRAPH-2F9B9=2f9b9
2IDEOGRAPH-2F9BA=2f9ba 2IDEOGRAPH-2F9BB=2f9bb 2IDEOGRAPH-2F9BC=2f9bc 2IDEOGRAPH-2F9BD=2f9bd
2IDEOGRAPH-2F9BE=2f9be 2IDEOGRAPH-2F9BF=2f9bf 2IDEOGRAPH-2F9C0=2f9c0 2IDEOGRAPH-2F9C1=2f9c1
2IDEOGRAPH-2F9C2=2f9c2 2IDEOGRAPH-2F9C3=2f9c3 2IDEOGRAPH-2F9C4=2f9c4 2IDEOGRAPH-2F9C5=2f9c5
2IDEOGRAPH-2F9C6=2f9c6 2IDEOGRAPH-2F9C7=2f9c7 2IDEOGRAPH-2F9C8=2f9c8 2IDEOGRAPH-2F9C9=2f9c9
2IDEOGRAPH-2F9CA=2f9ca 2IDEOGRAPH-2F9CB=2f9cb 2IDEOGRAPH-2F9CC=2f9cc 2IDEOGRAPH-2F9CD=2f9cd
2IDEOGRAPH-2F9CE=2f9ce 2IDEOGRAPH-2F9CF=2f9cf 2IDEOGRAPH-2F9D0=2f9d0 2IDEOGRAPH-2F9D1=2f9d1
2IDEOGRAPH-2F9D2=2f9d2 2IDEOGRAPH-2F9D3=2f9d3 2IDEOGRAPH-2F9D4=2f9d4 2IDEOGRAPH-2F9D5=2f9d5
2IDEOGRAPH-2F9D6=2f9d6 2IDEOGRAPH-2F9D7=2f9d7 2IDEOGRAPH-2F9D8=2f9d8 2IDEOGRAPH-2F9D9=2f9d9
2IDEOGRAPH-2F9DA=2f9da 2IDEOGRAPH-2F9DB=2f9db 2IDEOGRAPH-2F9DC=2f9dc 2IDEOGRAPH-2F9DD=2f9dd
2IDEOGRAPH-2F9DE=2f9de 2IDEOGRAPH-2F9DF=2f9df 2IDEOGRAPH-2F9E0=2f9e0 2IDEOGRAPH-2F9E1=2f9e1
2IDEOGRAPH-2F9E2=2f9e2 2IDEOGRAPH-2F9E3=2f9e3 2IDEOGRAPH-2F9E4=2f9e4 2IDEOGRAPH-2F9E5=2f9e5
2IDEOGRAPH-2F9E6=2f9e6 2IDEOGRAPH-2F9E7=2f9e7 2IDEOGRAPH-2F9E8=2f9e8 2IDEOGRAPH-2F9E9=2f9e9
2IDEOGRAPH-2F9EA=2f9ea 2IDEOGRAPH-2F9EB=2f9eb 2IDEOGRAPH-2F9EC=2f9ec 2IDEOGRAPH-2F9ED=2f9ed
2IDEOGRAPH-2F9EE=2f9ee 2IDEOGRAPH-2F9EF=2f9ef 2IDEOGRAPH-2F9F0=2f9f0 2IDEOGRAPH-2F9F1=2f9f1
2IDEOGRAPH-2F9F2=2f9f2 2IDEOGRAPH-2F9F3=2f9f3 2IDEOGRAPH-2F9F4=2f9f4 2IDEOGRAPH-2F9F5=2f9f5
2IDEOGRAPH-2F9F6=2f9f6 2IDEOGRAPH-2F9F7=2f9f7 2IDEOGRAPH-2F9F8=2f9f8 2IDEOGRAPH-2F9F9=2f9f9
2IDEOGRAPH-2F9FA=2f9fa 2IDEOGRAPH-2F9FB=2f9fb 2IDEOGRAPH-2F9FC=2f9fc 2IDEOGRAPH-2F9FD=2f9fd
2IDEOGRAPH-2F9FE=2f9fe 2IDEOGRAPH-2F9FF=2f9ff 2IDEOGRAPH-2FA00=2fa00 2IDEOGRAPH-2FA01=2fa01
2IDEOGRAPH-2FA02=2fa02 2IDEOGRAPH-2FA03=2fa03 2IDEOGRAPH-2FA04=2fa04 2IDEOGRAPH-2FA05=2fa05
2IDEOGRAPH-2FA06=2fa06 2IDEOGRAPH-2FA07=2fa07 2IDEOGRAPH-2FA08=2fa08 2IDEOGRAPH-2FA09=2fa09
2IDEOGRAPH-2FA0A=2fa0a 2IDEOGRAPH-2FA0B=2fa0b 2IDEOGRAPH-2FA0C=2fa0c 2IDEOGRAPH-2FA0D=2fa0d
2IDEOGRAPH-2FA0E=2fa0e 2IDEOGRAPH-2FA0F=2fa0f 2IDEOGRAPH-2FA10=2fa10 2IDEOGRAPH-2FA11=2fa11
2IDEOGRAPH-2FA12=2fa12 2IDEOGRAPH-2FA13=2fa13 2IDEOGRAPH-2FA14=2fa14 2IDEOGRAPH-2FA15=2fa15
2IDEOGRAPH-2FA16=2fa16 2IDEOGRAPH-2FA17=2fa17 2IDEOGRAPH-2FA18=2fa18 2IDEOGRAPH-2FA19=2fa19
2IDEOGRAPH-2FA1A=2fa1a 2IDEOGRAPH-2FA1B=2fa1b 2IDEOGRAPH-2FA1C=2fa1c 2IDEOGRAPH-2FA1D=2fa1d
2IDEOGRAPH-F900=f900 2IDEOGRAPH-F901=f901 2IDEOGRAPH-F902=f902 2IDEOGRAPH-F903=f903
2IDEOGRAPH-F904=f904 2IDEOGRAPH-F905=f905 2IDEOGRAPH-F906=f906 2IDEOGRAPH-F907=f907
2IDEOGRAPH-F908=f908 2IDEOGRAPH-F909=f909 2IDEOGRAPH-F90A=f90a 2IDEOGRAPH-F90B=f90b
2IDEOGRAPH-F90C=f90c 2IDEOGRAPH-F90D=f90d 2IDEOGRAPH-F90E=f90e 2IDEOGRAPH-F90F=f90f
2IDEOGRAPH-F910=f910 2IDEOGRAPH-F911=f911 2IDEOGRAPH-F912=f912 2IDEOGRAPH-F913=f913
2IDEOGRAPH-F914=f914 2IDEOGRAPH-F915=f915 2IDEOGRAPH-F916=f916 2IDEOGRAPH-F917=f917
2IDEOGRAPH-F918=f918 2IDEOGRAPH-F919=f919 2IDEOGRAPH-F91A=f91a 2IDEOGRAPH-F91B=f91b
2IDEOGRAPH-F91C=f91c 2IDEOGRAPH-F91D=f91d 2IDEOGRAPH-F91E=f91e 2IDEOGRAPH-F91F=f91f
2IDEOGRAPH-F920=f920 2IDEOGRAPH-F921=f921 2IDEOGRAPH-F922=f922 2IDEOGRAPH-F923=f923
2IDEOGRAPH-F924=f924 2IDEOGRAPH-F925=f925 2IDEOGRAPH-F926=f926 2IDEOGRAPH-F927=f927
2IDEOGRAPH-F928=f928 2IDEOGRAPH-F929=f929 2IDEOGRAPH-F92A=f92a 2IDEOGRAPH-F92B=f92b
2IDEOGRAPH-F92C=f92c 2IDEOGRAPH-F92D=f92d 2IDEOGRAPH-F92E=f92e 2IDEOGRAPH-F92F=f92f
2IDEOGRAPH-F930=f930 2IDEOGRAPH-F931=f931 2IDEOGRAPH-F932=f932 2IDEOGRAPH-F933=f933
2IDEOGRAPH-F934=f934 2IDEOGRAPH-F935=f935 2IDEOGRAPH-F936=f936 2IDEOGRAPH-F937=f937
2IDEOGRAPH-F938=f938 2IDEOGRAPH-F939=f939 2IDEOGRAPH-F93A=f93a 2IDEOGRAPH-F93B=f93b
2IDEOGRAPH-F93C=f93c 2IDEOGRAPH-F93D=f93d 2IDEOGRAPH-F93E=f93e 2IDEOGRAPH-F93F=f93f
2IDEOGRAPH-F940=f940 2IDEOGRAPH-F941=f941 2IDEOGRAPH-F942=f942 2IDEOGRAPH-F943=f943
2IDEOGRAPH-F944=f944 2IDEOGRAPH-F945=f945 2IDEOGRAPH-F946=f946 2IDEOGRAPH-F947=f947
2IDEOGRAPH-F948=f948 2IDEOGRAPH-F949=f949 2IDEOGRAPH-F94A=f94a 2IDEOGRAPH-F94B=f94b
2IDEOGRAPH-F94C=f94c 2IDEOGRAPH-F94D=f94d 2IDEOGRAPH-F94E=f94e 2IDEOGRAPH-F94F=f94f
2IDEOGRAPH-F950=f950 2IDEOGRAPH-F951=f951 2IDEOGRAPH-F952=f952 2IDEOGRAPH-F953=f953
2IDEOGRAPH-F954=f954 2IDEOGRAPH-F955=f955 2IDEOGRAPH-F956=f956 2IDEOGRAPH-F957=f957
2IDEOGRAPH-F958=f958 2IDEOGRAPH-F959=f959 2IDEOGRAPH-F95A=f95a 2IDEOGRAPH-F95B=f95b
2IDEOGRAPH-F95C=f95c 2IDEOGRAPH-F95D=f95d 2IDEOGRAPH-F95E=f95e 2IDEOGRAPH-F95F=f95f
2IDEOGRAPH-F960=f960 2IDEOGRAPH-F961=f961 2IDEOGRAPH-F962=f962 2IDEOGRAPH-F963=f963
2IDEOGRAPH-F964=f964 2IDEOGRAPH-F965=f965 2IDEOGRAPH-F966=f966 2IDEOGRAPH-F967=f967
2IDEOGRAPH-F968=f968 2IDEOGRAPH-F969=f969 2IDEOGRAPH-F96A=f96a 2IDEOGRAPH-F96B=f96b
2IDEOGRAPH-F96C=f96c 2IDEOGRAPH-F96D=f96d 2IDEOGRAPH-F96E=f96e 2IDEOGRAPH-F96F=f96f
2IDEOGRAPH-F970=f970 2IDEOGRAPH-F971=f971 2IDEOGRAPH-F972=f972 2IDEOGRAPH-F973=f973
2IDEOGRAPH-F974=f974 2IDEOGRAPH-F975=f975 2IDEOGRAPH-F976=f976 2IDEOGRAPH-F977=f977
2IDEOGRAPH-F978=f978 2IDEOGRAPH-F979=f979 2IDEOGRAPH-F97A=f97a 2IDEOGRAPH-F97B=f97b
2IDEOGRAPH-F97C=f97c 2IDEOGRAPH-F97D=f97d 2IDEOGRAPH-F97E=f97e 2IDEOGRAPH-F97F=f97f
2IDEOGRAPH-F980=f980 2IDEOGRAPH-F981=f981 2IDEOGRAPH-F982=f982 2IDEOGRAPH-F983=f983
2IDEOGRAPH-F984=f984 2IDEOGRAPH-F985=f985 2IDEOGRAPH-F986=f986 2IDEOGRAPH-F987=f987
2IDEOGRAPH-F988=f988 2IDEOGRAPH-F989=f989 2IDEOGRAPH-F98A=f98a 2IDEOGRAPH-F98B=f98b
2IDEOGRAPH-F98C=f98c 2IDEOGRAPH-F98D=f98d 2IDEOGRAPH-F98E=f98e 2IDEOGRAPH-F98F=f98f
2IDEOGRAPH-F990=f990 2IDEOGRAPH-F991=f991 2IDEOGRAPH-F992=f992 2IDEOGRAPH-F993=f993
2IDEOGRAPH-F994=f994 2IDEOGRAPH-F995=f995 2IDEOGRAPH-F996=f996 2IDEOGRAPH-F997=f997
2IDEOGRAPH-F998=f998 2IDEOGRAPH-F999=f999 2IDEOGRAPH-F99A=f99a 2IDEOGRAPH-F99B=f99b
2IDEOGRAPH-F99C=f99c 2IDEOGRAPH-F99D=f99d 2IDEOGRAPH-F99E=f99e 2IDEOGRAPH-F99F=f99f
2IDEOGRAPH-F9A0=f9a0 2IDEOGRAPH-F9A1=f9a1 2IDEOGRAPH-F9A2=f9a2 2IDEOGRAPH-F9A3=f9a3
2IDEOGRAPH-F9A4=f9a4 2IDEOGRAPH-F9A5=f9a5 2IDEOGRAPH-F9A6=f9a6 2IDEOGRAPH-F9A7=f9a7
2IDEOGRAPH-F9A8=f9a8 2IDEOGRAPH-F9A9=f9a9 2IDEOGRAPH-F9AA=f9aa 2IDEOGRAPH-F9AB=f9ab
2IDEOGRAPH-F9AC=f9ac 2IDEOGRAPH-F9AD=f9ad 2IDEOGRAPH-F9AE=f9ae 2IDEOGRAPH-F9AF=f9af
2IDEOGRAPH-F9B0=f9b0 2IDEOGRAPH-F9B1=f9b1 2IDEOGRAPH-F9B2=f9b2 2IDEOGRAPH-F9B3=f9b3
2IDEOGRAPH-F9B4=f9b4 2IDEOGRAPH-F9B5=f9b5 2IDEOGRAPH-F9B6=f9b6 2IDEOGRAPH-F9B7=f9b7
2IDEOGRAPH-F9B8=f9b8 2IDEOGRAPH-F9B9=f9b9 2IDEOGRAPH-F9BA=f9ba 2IDEOGRAPH-F9BB=f9bb
2IDEOGRAPH-F9BC=f9bc 2IDEOGRAPH-F9BD=f9bd 2IDEOGRAPH-F9BE=f9be 2IDEOGRAPH-F9BF=f9bf
2IDEOGRAPH-F9C0=f9c0 2IDEOGRAPH-F9C1=f9c1 2IDEOGRAPH-F9C2=f9c2 2IDEOGRAPH-F9C3=f9c3
2IDEOGRAPH-F9C4=f9c4 2IDEOGRAPH-F9C5=f9c5 2IDEOGRAPH-F9C6=f9c6 2IDEOGRAPH-F9C7=f9c7
2IDEOGRAPH-F9C8=f9c8 2IDEOGRAPH-F9C9=f9c9 2IDEOGRAPH-F9CA=f9ca 2IDEOGRAPH-F9CB=f9cb
2IDEOGRAPH-F9CC=f9cc 2IDEOGRAPH-F9CD=f9cd 2IDEOGRAPH-F9CE=f9ce 2IDEOGRAPH-F9CF=f9cf
2IDEOGRAPH-F9D0=f9d0 2IDEOGRAPH-F9D1=f9d1 2IDEOGRAPH-F9D2=f9d2 2IDEOGRAPH-F9D3=f9d3
2IDEOGRAPH-F9D4=f9d4 2IDEOGRAPH-F9D5=f9d5 2IDEOGRAPH-F9D6=f9d6 2IDEOGRAPH-F9D7=f9d7
2IDEOGRAPH-F9D8=f9d8 2IDEOGRAPH-F9D9=f9d9 2IDEOGRAPH-F9DA=f9da 2IDEOGRAPH-F9DB=f9db
2IDEOGRAPH-F9DC=f9dc 2IDEOGRAPH-F9DD=f9dd 2IDEOGRAPH-F9DE=f9de 2IDEOGRAPH-F9DF=f9df
2IDEOGRAPH-F9E0=f9e0 2IDEOGRAPH-F9E1=f9e1 2IDEOGRAPH-F9E2=f9e2 2IDEOGRAPH-F9E3=f9e3
2IDEOGRAPH-F9E4=f9e4 2IDEOGRAPH-F9E5=f9e5 2IDEOGRAPH-F9E6=f9e6 2IDEOGRAPH-F9E7=f9e7
2IDEOGRAPH-F9E8=f9e8 2IDEOGRAPH-F9E9=f9e9 2IDEOGRAPH-F9EA=f9ea 2IDEOGRAPH-F9EB=f9eb
2IDEOGRAPH-F9EC=f9ec 2IDEOGRAPH-F9ED=f9ed 2IDEOGRAPH-F9EE=f9ee 2IDEOGRAPH-F9EF=f9ef
2IDEOGRAPH-F9F0=f9f0 2IDEOGRAPH-F9F1=f9f1 2IDEOGRAPH-F9F2=f9f2 2IDEOGRAPH-F9F3=f9f3
2IDEOGRAPH-F9F4=f9f4 2IDEOGRAPH-F9F5=f9f5 2IDEOGRAPH-F9F6=f9f6 2IDEOGRAPH-F9F7=f9f7
2IDEOGRAPH-F9F8=f9f8 2IDEOGRAPH-F9F9=f9f9 2IDEOGRAPH-F9FA=f9fa 2IDEOGRAPH-F9FB=f9fb
2IDEOGRAPH-F9FC=f9fc 2IDEOGRAPH-F9FD=f9fd 2IDEOGRAPH-F9FE=f9fe 2IDEOGRAPH-F9FF=f9ff
2IDEOGRAPH-FA00=fa00 2IDEOGRAPH-FA01=fa01 2IDEOGRAPH-FA02=fa02 2IDEOGRAPH-FA03=fa03
2IDEOGRAPH-FA04=fa04 2IDEOGRAPH-FA05=fa05 2IDEOGRAPH-FA06=fa06 2IDEOGRAPH-FA07=fa07
2IDEOGRAPH-FA08=fa08 2IDEOGRAPH-FA09=fa09 2IDEOGRAPH-FA0A=fa0a 2IDEOGRAPH-FA0B=fa0b
2IDEOGRAPH-FA0C=fa0c 2IDEOGRAPH-FA0D=fa0d 2IDEOGRAPH-FA0E=fa0e 2IDEOGRAPH-FA0F=fa0f
2IDEOGRAPH-FA10=fa10 2IDEOGRAPH-FA11=fa11 2IDEOGRAPH-FA12=fa12 2IDEOGRAPH-FA13=fa13
2IDEOGRAPH-FA14=fa14 2IDEOGRAPH-FA15=fa15 2IDEOGRAPH-FA16=fa16 2IDEOGRAPH-FA17=fa17
2IDEOGRAPH-FA18=fa18 2IDEOGRAPH-FA19=fa19 2IDEOGRAPH-FA1A=fa1a 2IDEOGRAPH-FA1B=fa1b
2IDEOGRAPH-FA1C=fa1c 2IDEOGRAPH-FA1D=fa1d 2IDEOGRAPH-FA1E=fa1e 2IDEOGRAPH-FA1F=fa1f
2IDEOGRAPH-FA20=fa20 2IDEOGRAPH-FA21=fa21 2IDEOGRAPH-FA22=fa22 2IDEOGRAPH-FA23=fa23
2IDEOGRAPH-FA24=fa24 2IDEOGRAPH-FA25=fa25 2IDEOGRAPH-FA26=fa26 2IDEOGRAPH-FA27=fa27
2IDEOGRAPH-FA28=fa28 2IDEOGRAPH-FA29=fa29 2IDEOGRAPH-FA2A=fa2a 2IDEOGRAPH-FA2B=fa2b
2IDEOGRAPH-FA2C=fa2c 2IDEOGRAPH-FA2D=fa2d 2IDEOGRAPH-FA2E=fa2e 2IDEOGRAPH-FA2F=fa2f
2IDEOGRAPH-FA30=fa30 2IDEOGRAPH-FA31=fa31 2IDEOGRAPH-FA32=fa32 2IDEOGRAPH-FA33=fa33
2IDEOGRAPH-FA34=fa34 2IDEOGRAPH-FA35=fa35 2IDEOGRAPH-FA36=fa36 2IDEOGRAPH-FA37=fa37
2IDEOGRAPH-FA38=fa38 2IDEOGRAPH-FA39=fa39 2IDEOGRAPH-FA3A=fa3a 2IDEOGRAPH-FA3B=fa3b
2IDEOGRAPH-FA3C=fa3c 2IDEOGRAPH-FA3D=fa3d 2IDEOGRAPH-FA3E=fa3e 2IDEOGRAPH-FA3F=fa3f
2IDEOGRAPH-FA40=fa40 2IDEOGRAPH-FA41=fa41 2IDEOGRAPH-FA42=fa42 2IDEOGRAPH-FA43=fa43
2IDEOGRAPH-FA44=fa44 2IDEOGRAPH-FA45=fa45 2IDEOGRAPH-FA46=fa46 2IDEOGRAPH-FA47=fa47
2IDEOGRAPH-FA48=fa48 2IDEOGRAPH-FA49=fa49 2IDEOGRAPH-FA4A=fa4a 2IDEOGRAPH-FA4B=fa4b
2IDEOGRAPH-FA4C=fa4c 2IDEOGRAPH-FA4D=fa4d 2IDEOGRAPH-FA4E=fa4e 2IDEOGRAPH-FA4F=fa4f
2IDEOGRAPH-FA50=fa50 2IDEOGRAPH-FA51=fa51 2IDEOGRAPH-FA52=fa52 2IDEOGRAPH-FA53=fa53
2IDEOGRAPH-FA54=fa54 2IDEOGRAPH-FA55=fa55 2IDEOGRAPH-FA56=fa56 2IDEOGRAPH-FA57=fa57
2IDEOGRAPH-FA58=fa58 2IDEOGRAPH-FA59=fa59 2IDEOGRAPH-FA5A=fa5a 2IDEOGRAPH-FA5B=fa5b
2IDEOGRAPH-FA5C=fa5c 2IDEOGRAPH-FA5D=fa5d 2IDEOGRAPH-FA5E=fa5e 2IDEOGRAPH-FA5F=fa5f
2IDEOGRAPH-FA60=fa60 2IDEOGRAPH-FA61=fa61 2IDEOGRAPH-FA62=fa62 2IDEOGRAPH-FA63=fa63
2IDEOGRAPH-FA64=fa64 2IDEOGRAPH-FA65=fa65 2IDEOGRAPH-FA66=fa66 2IDEOGRAPH-FA67=fa67
2IDEOGRAPH-FA68=fa68 2IDEOGRAPH-FA69=fa69 2IDEOGRAPH-FA6A=fa6a 2IDEOGRAPH-FA6B=fa6b
2IDEOGRAPH-FA6C=fa6c 2IDEOGRAPH-FA6D=fa6d 2IDEOGRAPH-FA70=fa70 2IDEOGRAPH-FA71=fa71
2IDEOGRAPH-FA72=fa72 2IDEOGRAPH-FA73=fa73 2IDEOGRAPH-FA74=fa74 2IDEOGRAPH-FA75=fa75
2IDEOGRAPH-FA76=fa76 2IDEOGRAPH-FA77=fa77 2IDEOGRAPH-FA78=fa78 2IDEOGRAPH-FA79=fa79
2IDEOGRAPH-FA7A=fa7a 2IDEOGRAPH-FA7B=fa7b 2IDEOGRAPH-FA7C=fa7c 2IDEOGRAPH-FA7D=fa7d
2IDEOGRAPH-FA7E=fa7e 2IDEOGRAPH-FA7F=fa7f 2IDEOGRAPH-FA80=fa80 2IDEOGRAPH-FA81=fa81
2IDEOGRAPH-FA82=fa82 2IDEOGRAPH-FA83=fa83 2IDEOGRAPH-FA84=fa84 2IDEOGRAPH-FA85=fa85
2IDEOGRAPH-FA86=fa86 2IDEOGRAPH-FA87=fa87 2IDEOGRAPH-FA88=fa88 2IDEOGRAPH-FA89=fa89
2IDEOGRAPH-FA8A=fa8a 2IDEOGRAPH-FA8B=fa8b 2IDEOGRAPH-FA8C=fa8c 2IDEOGRAPH-FA8D=fa8d
2IDEOGRAPH-FA8E=fa8e 2IDEOGRAPH-FA8F=fa8f 2IDEOGRAPH-FA90=fa90 2IDEOGRAPH-FA91=fa91
2IDEOGRAPH-FA92=fa92 2IDEOGRAPH-FA93=fa93 2IDEOGRAPH-FA94=fa94 2IDEOGRAPH-FA95=fa95
2IDEOGRAPH-FA96=fa96 2IDEOGRAPH-FA97=fa97 2IDEOGRAPH-FA98=fa98 2IDEOGRAPH-FA99=fa99
2IDEOGRAPH-FA9A=fa9a 2IDEOGRAPH-FA9B=fa9b 2IDEOGRAPH-FA9C=fa9c 2IDEOGRAPH-FA9D=fa9d
2IDEOGRAPH-FA9E=fa9e 2IDEOGRAPH-FA9F=fa9f 2IDEOGRAPH-FAA0=faa0 2IDEOGRAPH-FAA1=faa1
2IDEOGRAPH-FAA2=faa2 2IDEOGRAPH-FAA3=faa3 2IDEOGRAPH-FAA4=faa4 2IDEOGRAPH-FAA5=faa5
2IDEOGRAPH-FAA6=faa6 2IDEOGRAPH-FAA7=faa7 2IDEOGRAPH-FAA8=faa8 2IDEOGRAPH-FAA9=faa9
2IDEOGRAPH-FAAA=faaa 2IDEOGRAPH-FAAB=faab 2IDEOGRAPH-FAAC=faac 2IDEOGRAPH-FAAD=faad
2IDEOGRAPH-FAAE=faae 2IDEOGRAPH-FAAF=faaf 2IDEOGRAPH-FAB0=fab0 2IDEOGRAPH-FAB1=fab1
2IDEOGRAPH-FAB2=fab2 2IDEOGRAPH-FAB3=fab3 2IDEOGRAPH-FAB4=fab4 2IDEOGRAPH-FAB5=fab5
2IDEOGRAPH-FAB6=fab6 2IDEOGRAPH-FAB7=fab7 2IDEOGRAPH-FAB8=fab8 2IDEOGRAPH-FAB9=fab9
2IDEOGRAPH-FABA=faba 2IDEOGRAPH-FABB=fabb 2IDEOGRAPH-FABC=fabc 2IDEOGRAPH-FABD=fabd
2IDEOGRAPH-FABE=fabe 2IDEOGRAPH-FABF=fabf 2IDEOGRAPH-FAC0=fac0 2IDEOGRAPH-FAC1=fac1
2IDEOGRAPH-FAC2=fac2 2IDEOGRAPH-FAC3=fac3 2IDEOGRAPH-FAC4=fac4 2IDEOGRAPH-FAC5=fac5
2IDEOGRAPH-FAC6=fac6 2IDEOGRAPH-FAC7=fac7 2IDEOGRAPH-FAC8=fac8 2IDEOGRAPH-FAC9=fac9
2IDEOGRAPH-FACA=faca 2IDEOGRAPH-FACB=facb 2IDEOGRAPH-FACC=facc 2IDEOGRAPH-FACD=facd
2IDEOGRAPH-FACE=face 2IDEOGRAPH-FACF=facf 2IDEOGRAPH-FAD0=fad0 2IDEOGRAPH-FAD1=fad1
2IDEOGRAPH-FAD2=fad2 2IDEOGRAPH-FAD3=fad3 2IDEOGRAPH-FAD4=fad4 2IDEOGRAPH-FAD5=fad5
2IDEOGRAPH-FAD6=fad6 2IDEOGRAPH-FAD7=fad7 2IDEOGRAPH-FAD8=fad8 2IDEOGRAPH-FAD9=fad9
1RADICAL_BAMBOO=2eae 2BLUE=2ed8 2BOLT_OF_CLOTH=2eaa 2BONE=2ee3 2BOX=2e86 2BRUSH_ONE=2eba 3TWO=2ebb
2C-SIMPLIFIED_BIRD=2ee6 3CART=2ecb 3DRAGON=2ef0 3EAT=2ee0 3EVEN=2eec 3FISH=2ee5 3FLY=2edc
3FROG=2eea 3GATE=2ed4 3GOLD=2ed0 3HORSE=2ee2 3LEAF=2eda 3LONG=2ed3 3SALT=2ee7 3SEE=2ec5 3SHELL=2ec9
3SILK=2eb0 3SPEECH=2ec8 3TANNED_LEATHER=2ed9 3TOOTH=2eee 3TURTLE=2ef3 3WIND=2edb 2CHOKE=2e9b
2CITY=2ecf 2CIVILIAN=2ea0 2CLIFF=2e81 2CLOTHES=2ec2 2COW=2ea7 2DEATH=2e9e 2DIVINATION=2e8a
2DOG=2ea8 2EAT_ONE=2edd 3THREE=2edf 3TWO=2ede 2EWE=2eb8 2EYE=2eab 2FIRE=2ea3 2FOOT=2eca 2GHOST=2ee4
2GRASS_ONE=2ebe 3THREE=2ec0 3TWO=2ebf 2HAND=2e98 2HEAD=2ee1 2HEART_ONE=2e96 3TWO=2e97 2HORN=2ec7
2J-SIMPLIFIED_DRAGON=2eef 3EVEN=2eeb 3TOOTH=2eed 3TURTLE=2ef2 2JADE=2ea9 2KNIFE_ONE=2e88 3TWO=2e89
2LAME_FOUR=2e91 3ONE=2e8e 3THREE=2e90 3TWO=2e8f 2LONG_ONE=2ed1 3TWO=2ed2 2MEAT=2ebc 2MESH=2eb5
2MOON=2e9d 2MORTAR=2ebd 2MOTHER=2e9f 2MOUND_ONE=2ed5 3TWO=2ed6 2NET_FOUR=2eb4 3ONE=2eb1 3THREE=2eb3
3TWO=2eb2 2OLD=2eb9 2PAW_ONE=2ea4 3TWO=2ea5 2PERSON=2e85 2RAIN=2ed7 2RAM=2eb7 2RAP=2e99
2REPEAT=2e80 2SEAL=2e8b 2SECOND_ONE=2e82 3THREE=2e84 3TWO=2e83 2SHEEP=2eb6 2SILK=2eaf
2SIMPLIFIED_HALF_TREE_TRUNK=2ea6 3HORN=2ec6 3WALK=2ecc 3WHEAT=2ee8 3YELLOW=2ee9 2SMALL_ONE=2e8c
3TWO=2e8d 2SNAKE=2e92 2SNOUT_ONE=2e94 3TWO=2e95 2SPIRIT_ONE=2eac 3TWO=2ead 2SUN=2e9c 2TABLE=2e87
2THREAD=2e93 2TIGER=2ec1 2TURTLE=2ef1 2WALK_ONE=2ecd 3TWO=2ece 2WATER_ONE=2ea1 3TWO=2ea2
2WEST_ONE=2ec3 3TWO=2ec4 1STROKE_BXG=31c3 2D=31d4 2H=31d0 2HG=31d6 2HP=31c7 2HPWG=31cc 2HXWG=31e0
2HZ=31d5 2HZG=31c6 2HZT=31ca 2HZW=31cd 2HZWG=31c8 2HZZ=31c5 2HZZP=31cb 2HZZZ=31ce 2HZZZG=31e1
2N=31cf 2P=31d2 2PD=31db 2PG=31e2 2PZ=31dc 2Q=31e3 2S=31d1 2SG=31da 2SP=31d3 2ST=31d9 2SW=31c4
2SWG=31df 2SWZ=31d8 2SZ=31d7 2SZWG=31c9 2SZZ=31de 2T=31c0 2TN=31dd 2WG=31c1 2XG=31c2
0CLAMSHELL_MOBILE_PHONE=1f581 0CLAPPER_BOARD=1f3ac 0CLAPPING_HANDS_SIGN=1f44f
0CLASSICAL_BUILDING=1f3db 0CLEAR_SCREEN_SYMBOL=239a 0CLINKING_BEER_MUGS=1f37b 1GLASSES=1f942
0CLIPBOARD=1f4cb 0CLOCK_FACE_EIGHT_OCLOCK=1f557 2EIGHT-THIRTY=1f563 2ELEVEN_OCLOCK=1f55a
2ELEVEN-THIRTY=1f566 2FIVE_OCLOCK=1f554 2FIVE-THIRTY=1f560 2FOUR_OCLOCK=1f553 2FOUR-THIRTY=1f55f
2NINE_OCLOCK=1f558 2NINE-THIRTY=1f564 2ONE_OCLOCK=1f550 2ONE-THIRTY=1f55c 2SEVEN_OCLOCK=1f556
2SEVEN-THIRTY=1f562 2SIX_OCLOCK=1f555 2SIX-THIRTY=1f561 2TEN_OCLOCK=1f559 2TEN-THIRTY=1f565
2THREE_OCLOCK=1f552 2THREE-THIRTY=1f55e 2TWELVE_OCLOCK=1f55b 2TWELVE-THIRTY=1f567 2TWO_OCLOCK=1f551
2TWO-THIRTY=1f55d 0CLOCKWISE_CLOSED_CIRCLE_ARROW=2941 1CONTOUR_INTEGRAL=2232
1DOWNWARDS_AND_UPWARDS_OPEN_CIRCLE_ARROWS=1f503 1GAPPED_CIRCLE_ARROW=27f3 1INTEGRAL=2231
1OPEN_CIRCLE_ARROW=21bb 1RIGHT_AND_LEFT_SEMICIRCLE_ARROWS=1f5d8
1RIGHTWARDS_AND_LEFTWARDS_OPEN_CIRCLE_ARROWS=1f501 7WITH_CIRCLED_ONE_OVERLAY=1f502
1TOP_SEMICIRCLE_ARROW=21b7 1TRIANGLE-HEADED_OPEN_CIRCLE_ARROW=2b6e 0CLOSE_UP=2050
0CLOSED_BOOK=1f4d5 1INTERSECTION_WITH_SERIFS=2a4d 1LOCK_WITH_KEY=1f510
1MAILBOX_WITH_LOWERED_FLAG=1f4ea 3RAISED_FLAG=1f4eb 1SUBSET=2acf 2OR_EQUAL_TO=2ad1 1SUPERSET=2ad0
2OR_EQUAL_TO=2ad2 1UMBRELLA=1f302 1UNION_WITH_SERIFS=2a4c 4AND_SMASH_PRODUCT=2a50 0CLOUD=2601
1WITH_LIGHTNING=1f329 2RAIN=1f327 2SNOW=1f328 2TORNADO=1f32a 0CLOWN_FACE=1f921 0COAT=1f9e5
0COCKROACH=1fab3 0COCKTAIL_GLASS=1f378 0COCONUT=1f965 0COFFIN=26b0 0COIN=1fa99
0COLLISION_SYMBOL=1f4a5 0COLON=3a 1EQUALS=2254 1SIGN=20a1 0COMBINING_ACUTE_ACCENT=301 3BELOW=317
2TONE_MARK=341 1ACUTE-GRAVE-ACUTE=1dc9 1ACUTE-MACRON=1dc7 1ALMOST_EQUAL_TO_ABOVE=34c 4BELOW=1dfd
1ANNUITY_SYMBOL=20e7 1ANTICLOCKWISE_ARROW_ABOVE=20d4 2RING_OVERLAY=20da 1ASTERISK_ABOVE=20f0
2BELOW=359 1BINDU_BELOW=1133b 1BREVE=306 2BELOW=32e 1BREVE-MACRON=1dcb 1BRIDGE_ABOVE=346 2BELOW=32a
1CANDRABINDU=310 1CARON=30c 2BELOW=32c 1CEDILLA=327 1CIRCUMFLEX_ACCENT=302 3BELOW=32d
1CLOCKWISE_ARROW_ABOVE=20d5 2RING_OVERLAY=20d9 1COMMA_ABOVE=313 3RIGHT=315 2BELOW=326
1CONJOINING_MACRON=fe26 3BELOW=fe2d 1CYRILLIC_DASIA_PNEUMATA=485 2HUNDRED_MILLIONS_SIGN=a671
3THOUSANDS_SIGN=488 2KAVYKA=a67c 2LETTER_A=2df6 3BE=2de0 3BIG_YUS=2dfe 3CHE=2df1 3DE=2de3
3DJERV=2df8 3EF=a69e 3EL=2de7 3EM=2de8 3EN=2de9 3ER=2dec 3ES=2ded 3ES-TE=2df5 3FITA=2df4 3GHE=2de2
3HA=2def 3HARD_SIGN=a678 3I=a675 3IE=2df7 3IOTIFIED_A=2dfc 4BIG_YUS=2dff 4E=a69f 3KA=2de6
3LITTLE_YUS=2dfd 3MONOGRAPH_UK=2df9 3O=2dea 3OMEGA=a67b 3PE=2deb 3SHA=2df2 3SHCHA=2df3
3SOFT_SIGN=a67a 3TE=2dee 3TSE=2df0 3U=a677 3UKRAINIAN_IE=a674 3VE=2de1 3YAT=2dfa 3YERU=a679
3YI=a676 3YU=2dfb 3ZE=2de5 3ZHE=2de4 2MILLIONS_SIGN=489 2PALATALIZATION=484 2PAYEROK=a67d
2POKRYTIE=487 2PSILI_PNEUMATA=486 2TEN_MILLIONS_SIGN=a670 2THOUSAND_MILLIONS_SIGN=a672 2TITLO=483
3LEFT_HALF=fe2e 3RIGHT_HALF=fe2f 2VZMET=a66f 1DELETION_MARK=1dfb 1DEVANAGARI_DIGIT_EIGHT=a8e8
3FIVE=a8e5 3FOUR=a8e4 3NINE=a8e9 3ONE=a8e1 3SEVEN=a8e7 3SIX=a8e6 3THREE=a8e3 3TWO=a8e2 3ZERO=a8e0
2LETTER_A=a8ea 3KA=a8ec 3NA=a8ed 3PA=a8ee 3RA=a8ef 3U=a8eb 3VI=a8f0 2SIGN_AVAGRAHA=a8f1
1DIAERESIS=308 2BELOW=324 1DIAERESIS-RING=1ab1 1DOT_ABOVE=307 3LEFT=1df8 3RIGHT=358 2BELOW=323
3LEFT=1dfa 1DOTTED_ACUTE_ACCENT=1dc1 2GRAVE_ACCENT=1dc0 1DOUBLE_ACUTE_ACCENT=30b 2BREVE=35d
3BELOW=35c 2CIRCUMFLEX_ABOVE=1dcd 2GRAVE_ACCENT=30f 2INVERTED_BREVE=361 4BELOW=1dfc 2LOW_LINE=333
2MACRON=35e 3BELOW=35f 2OPEN_MARK_BELOW=1ab8 2OVERLINE=33f 2PARENTHESES_ABOVE=1abc
2PLUS_SIGN_ABOVE=1ac9 4BELOW=1aca 2RIGHTWARDS_ARROW_BELOW=362 2RING_BELOW=35a 2TILDE=360
3LEFT_HALF=fe22 3RIGHT_HALF=fe23 2VERTICAL_LINE_ABOVE=30e 4BELOW=348 3STROKE_OVERLAY=20e6
1DOUBLED_CIRCUMFLEX_ACCENT=1ab0 1DOWN_TACK_BELOW=31e 1DOWNWARDS_ARROW=1ab3 1ENCLOSING_CIRCLE=20dd
3BACKSLASH=20e0 2DIAMOND=20df 2KEYCAP=20e3 2SCREEN=20e2 2SQUARE=20de 2UPWARD_POINTING_TRIANGLE=20e4
1EQUALS_SIGN_BELOW=347 1FERMATA=352 1FOUR_DOTS_ABOVE=20dc 1GLAGOLITIC_LETTER_AZU=1e000
3BIG_YUS=1e028 3BUKY=1e001 3CHRIVI=1e01d 3DJERVI=1e00c 3DOBRO=1e004 3FITA=1e02a 3FRITU=1e017
3GLAGOLI=1e003 3HERU=1e018 3I=1e00b 3INITIAL_IZHE=1e00a 3IOTATED_BIG_YUS=1e029 4SMALL_YUS=1e027
3IZHE=1e009 3KAKO=1e00d 3LJUDIJE=1e00e 3MYSLITE=1e00f 3NASHI=1e010 3ONU=1e011 3POKOJI=1e012
3RITSI=1e013 3SHA=1e01e 3SHTA=1e01b 3SLOVO=1e014 3SMALL_YUS=1e024 3TSI=1e01c 3TVRIDO=1e015
3UKU=1e016 3VEDE=1e002 3YATI=1e021 3YERI=1e020 3YERU=1e01f 3YESTU=1e005 3YO=1e026 3YU=1e023
3ZEMLJA=1e008 3ZHIVETE=1e006 1GRANTHA_DIGIT_FIVE=1136b 3FOUR=1136a 3ONE=11367 3SIX=1136c
3THREE=11369 3TWO=11368 3ZERO=11366 2LETTER_A=11370 3KA=11371 3NA=11372 3PA=11374 3VI=11373
1GRAPHEME_JOINER=34f 1GRAVE_ACCENT=300 3BELOW=316 2TONE_MARK=340 1GRAVE-ACUTE-GRAVE=1dc8
1GRAVE-MACRON=1dc5 1GREEK_DIALYTIKA_TONOS=344 2KORONIS=343 2MUSICAL_PENTASEME=1d244
3TETRASEME=1d243 3TRISEME=1d242 2PERISPOMENI=342 2YPOGEGRAMMENI=345 1HOMOTHETIC_ABOVE=34b
1HOOK_ABOVE=309 1HORN=31b 1INFINITY=1ab2 1INVERTED_BREVE=311 3BELOW=32f 2BRIDGE_BELOW=33a
2DOUBLE_ARCH_ABOVE=1ac7 4BELOW=32b 1IS_BELOW=1dd0 1KATAKANA-HIRAGANA_SEMI-VOICED_SOUND_MARK=309a
2VOICED_SOUND_MARK=3099 1KAVYKA_ABOVE_LEFT=1df7 3RIGHT=1df6 1LATIN_LETTER_SMALL_CAPITAL_G=1ddb
5L=1dde 5M=1ddf 5N=1de1 5R=1de2 2SMALL_LETTER_A=363 5WITH_DIAERESIS=1df2 4AE=1dd4 4ALPHA=1de7
4AO=1dd5 4AV=1dd6 4B=1de8 4BETA=1de9 4C=368 5CEDILLA=1dd7 4D=369 4E=364 4ESH=1def 4ETH=1dd9 4F=1deb
4FLATTENED_OPEN_A_ABOVE=1dd3 4G=1dda 4H=36a 4I=365 4INSULAR_D=1dd8 5G=1acc 5R=1acd 5T=1ace 4K=1ddc
4L=1ddd 5WITH_DOUBLE_MIDDLE_TILDE=1dec 4LONG_S=1de5 4M=36b 4N=1de0 4O=366 5WITH_DIAERESIS=1df3
6LIGHT_CENTRALIZATION_STROKE=1ded 4P=1dee 4R=36c 5BELOW=1dca 5ROTUNDA=1de3 4S=1de4 4SCHWA=1dea
4T=36d 4TURNED_W_BELOW=1ac0 4U=367 5WITH_DIAERESIS=1df4 6LIGHT_CENTRALIZATION_STROKE=1df0 4V=36e
4W=1df1 5BELOW=1abf 4X=36f 4Z=1de6 1LEFT_ANGLE_ABOVE=31a 3BELOW=349 2ARROW_ABOVE=20d6 3BELOW=20ee
2ARROWHEAD_ABOVE=1dfe 3BELOW=354 2HALF_RING_ABOVE=351 4BELOW=31c 2HARPOON_ABOVE=20d0
2PARENTHESIS_ABOVE_LEFT=1ac1 3BELOW_LEFT=1ac3 2RIGHT_ARROW_ABOVE=20e1 4BELOW=34d 2TACK_BELOW=318
1LEFTWARDS_ARROW_OVERLAY=20ea 2HARPOON_WITH_BARB_DOWNWARDS=20ed 1LIGATURE_LEFT_HALF=fe20
4BELOW=fe27 2RIGHT_HALF=fe21 4BELOW=fe28 1LIGHT_CENTRALIZATION_STROKE_BELOW=1ab9
1LONG_DOUBLE_SOLIDUS_OVERLAY=20eb 2SOLIDUS_OVERLAY=338 2STROKE_OVERLAY=336
2VERTICAL_LINE_OVERLAY=20d2 1LOW_LINE=332 1MACRON=304 2BELOW=331 2LEFT_HALF=fe24 4BELOW=fe2b
2RIGHT_HALF=fe25 4BELOW=fe2c 1MACRON-ACUTE=1dc4 1MACRON-BREVE=1dcc 1MACRON-GRAVE=1dc6
1MINUS_SIGN_BELOW=320 1NOT_TILDE_ABOVE=34a 1NUMBER_SIGN_ABOVE=1ac6 1OGONEK=328 2ABOVE=1dce
1OLD_PERMIC_LETTER_AN=10376 4DOI=10377 4NENOE=10379 4SII=1037a 4ZATA=10378 1OPEN_MARK_BELOW=1ab7
1OVERLINE=305 1PALATALIZED_HOOK_BELOW=321 1PARENTHESES_ABOVE=1abb 2BELOW=1abd 2OVERLAY=1abe
1PLUS_SIGN_ABOVE=1ac8 3BELOW=31f 1RETROFLEX_HOOK_BELOW=322 1REVERSE_SOLIDUS_OVERLAY=20e5
1REVERSED_COMMA_ABOVE=314 1RIGHT_ARROW_ABOVE=20d7 3BELOW=20ef 2ARROWHEAD_ABOVE=350
3AND_DOWN_ARROWHEAD_BELOW=1dff 4UP_ARROWHEAD_BELOW=356 3BELOW=355 2HALF_RING_ABOVE=357 4BELOW=339
2HARPOON_ABOVE=20d1 2PARENTHESIS_ABOVE_RIGHT=1ac2 3BELOW_RIGHT=1ac4 2TACK_BELOW=319
1RIGHTWARDS_HARPOON_WITH_BARB_DOWNWARDS=20ec 1RING_ABOVE=30a 2BELOW=325 2OVERLAY=20d8
1SEAGULL_BELOW=33c 1SHORT_SOLIDUS_OVERLAY=337 2STROKE_OVERLAY=335 2VERTICAL_LINE_OVERLAY=20d3
1SNAKE_BELOW=1dc2 1SQUARE_BELOW=33b 2BRACKETS_ABOVE=1ac5 1STRONG_CENTRALIZATION_STROKE_BELOW=1aba
1SUSPENSION_MARK=1dc3 1THREE_DOTS_ABOVE=20db 1TILDE=303 2BELOW=330 2LEFT_HALF_BELOW=fe29
2OVERLAY=334 2RIGHT_HALF_BELOW=fe2a 1TRIPLE_ACUTE_ACCENT=1acb 2DOT=1ab4 2UNDERDOT=20e8
1TURNED_COMMA_ABOVE=312 1UP_TACK_ABOVE=1df5 3BELOW=31d 1UPWARDS_ARROW_BELOW=34e 1UR_ABOVE=1dd1
1US_ABOVE=1dd2 1VERTICAL_LINE_ABOVE=30d 3BELOW=329 2TILDE=33e 1WIDE_BRIDGE_ABOVE=20e9
2INVERTED_BRIDGE_BELOW=1df9 1WIGGLY_LINE_BELOW=1ab6 1X_ABOVE=33d 2BELOW=353 1X-X_BELOW=1ab5
1ZIGZAG_ABOVE=35b 2BELOW=1dcf 0COMET=2604 0COMMA=2c 0COMMERCIAL_AT=40 1MINUS_SIGN=2052
0COMPASS=1f9ed 0COMPLEMENT=2201 0COMPOSITION_SYMBOL=2384 0COMPRESSION=1f5dc 0CONFETTI_BALL=1f38a
0CONFOUNDED_FACE=1f616 0CONFUSED_FACE=1f615 0CONGRUENT_WITH_DOT_ABOVE=2a6d 0CONICAL_TAPER=2332
0CONJUNCTION=260c 0CONSTRUCTION_SIGN=1f6a7 1WORKER=1f477 0CONTAINS_AS_MEMBER=220b
2NORMAL_SUBGROUP=22b3 4OR_EQUAL_TO=22b5 1WITH_LONG_HORIZONTAL_STROKE=22fa 2OVERBAR=22fd
2VERTICAL_BAR_AT_END_OF_HORIZONTAL_STROKE=22fb 0CONTINUOUS_UNDERLINE_SYMBOL=2381
0CONTOUR_INTEGRAL=222e 0CONTROL_KNOBS=1f39b 1SEQUENCE_INTRODUCER=9b 0CONVENIENCE_STORE=1f3ea
0COOKED_RICE=1f35a 0COOKIE=1f36a 0COOKING=1f373 0COPTIC_CAPITAL_LETTER_AKHMIMIC_KHEI=2cc8
3ALFA=2c80 3BOHAIRIC_KHEI=2cf2 3CROSSED_SHEI=2cc2 3CRYPTOGRAMMIC_EIE=2cb6 4GANGIA=2ced 4NI=2cbc
4SHEI=2ceb 3DALDA=2c86 3DEI=3ee 3DIALECT-P_ALEF=2cb2 4HORI=2cca 4KAPA=2cb8 4NI=2cba 3EIE=2c88
3FEI=3e4 3FI=2caa 3GAMMA=2c84 3GANGIA=3ea 3HATE=2c8e 3HORI=3e8 3IAUDA=2c92 3KAPA=2c94 3KHEI=3e6
3KHI=2cac 3KSI=2c9c 3L-SHAPED_HA=2cd0 3LAULA=2c96 3MI=2c98 3NI=2c9a 3O=2c9e 3OLD_COPTIC_AIN=2cb4
5DJA=2cd8 5ESH=2cc6 5GANGIA=2cd6 5HA=2cce 5HAT=2cd4 5HEI=2cd2 5HORI=2ccc 5OOU=2cbe 5SHEI=2cc4
5SHIMA=2cda 4NUBIAN_NGI=2cde 5NYI=2ce0 5SHIMA=2cdc 5WAU=2ce2 3OOU=2cb0 3PI=2ca0 3PSI=2cae 3RO=2ca2
3SAMPI=2cc0 3SHEI=3e2 3SHIMA=3ec 3SIMA=2ca4 3SOU=2c8a 3TAU=2ca6 3THETHE=2c90 3UA=2ca8 3VIDA=2c82
3ZATA=2c8c 1COMBINING_NI_ABOVE=2cef 2SPIRITUS_ASPER=2cf0 3LENIS=2cf1 1EPACT_DIGIT_EIGHT=102e8
3FIVE=102e5 3FOUR=102e4 3NINE=102e9 3ONE=102e1 3SEVEN=102e7 3SIX=102e6 3THREE=102e3 3TWO=102e2
2NUMBER_EIGHT_HUNDRED=102fa 3EIGHTY=102f1 3FIFTY=102ee 3FIVE_HUNDRED=102f7 3FORTY=102ed
3FOUR_HUNDRED=102f6 3NINE_HUNDRED=102fb 3NINETY=102f2 3ONE_HUNDRED=102f3 3SEVEN_HUNDRED=102f9
3SEVENTY=102f0 3SIX_HUNDRED=102f8 3SIXTY=102ef 3TEN=102ea 3THIRTY=102ec 3THREE_HUNDRED=102f5
3TWENTY=102eb 3TWO_HUNDRED=102f4 2THOUSANDS_MARK=102e0 1FRACTION_ONE_HALF=2cfd 1FULL_STOP=2cfe
1MORPHOLOGICAL_DIVIDER=2cff 1OLD_NUBIAN_DIRECT_QUESTION_MARK=2cfa 3FULL_STOP=2cf9
3INDIRECT_QUESTION_MARK=2cfb 3VERSE_DIVIDER=2cfc 1SMALL_LETTER_AKHMIMIC_KHEI=2cc9 3ALFA=2c81
3BOHAIRIC_KHEI=2cf3 3CROSSED_SHEI=2cc3 3CRYPTOGRAMMIC_EIE=2cb7 4GANGIA=2cee 4NI=2cbd 4SHEI=2cec
3DALDA=2c87 3DEI=3ef 3DIALECT-P_ALEF=2cb3 4HORI=2ccb 4KAPA=2cb9 4NI=2cbb 3EIE=2c89 3FEI=3e5
3FI=2cab 3GAMMA=2c85 3GANGIA=3eb 3HATE=2c8f 3HORI=3e9 3IAUDA=2c93 3KAPA=2c95 3KHEI=3e7 3KHI=2cad
3KSI=2c9d 3L-SHAPED_HA=2cd1 3LAULA=2c97 3MI=2c99 3NI=2c9b 3O=2c9f 3OLD_COPTIC_AIN=2cb5 5DJA=2cd9
5ESH=2cc7 5GANGIA=2cd7 5HA=2ccf 5HAT=2cd5 5HEI=2cd3 5HORI=2ccd 5OOU=2cbf 5SHEI=2cc5 5SHIMA=2cdb
4NUBIAN_NGI=2cdf 5NYI=2ce1 5SHIMA=2cdd 5WAU=2ce3 3OOU=2cb1 3PI=2ca1 3PSI=2caf 3RO=2ca3 3SAMPI=2cc1
3SHEI=3e3 3SHIMA=3ed 3SIMA=2ca5 3SOU=2c8b 3TAU=2ca7 3THETHE=2c91 3UA=2ca9 3VIDA=2c83 3ZATA=2c8d
1SYMBOL_KAI=2ce4 2KHI_RO=2ce9 2MI_RO=2ce5 2PI_RO=2ce6 2SHIMA_SIMA=2cea 2STAUROS=2ce7 2TAU_RO=2ce8
0COPYLEFT_SYMBOL=1f12f 0COPYRIGHT_SIGN=a9 0CORAL=1fab8 0CORNISH_VERSE_DIVIDER=2e4f
0CORRESPONDS_TO=2258 0COUCH_AND_LAMP=1f6cb 0COUNTERBORE=2334 0COUNTERSINK=2335
0COUNTING_ROD_TENS_DIGIT_EIGHT=1d370 4FIVE=1d36d 4FOUR=1d36c 4NINE=1d371 4ONE=1d369 4SEVEN=1d36f
4SIX=1d36e 4THREE=1d36b 4TWO=1d36a 2UNIT_DIGIT_EIGHT=1d367 4FIVE=1d364 4FOUR=1d363 4NINE=1d368
4ONE=1d360 4SEVEN=1d366 4SIX=1d365 4THREE=1d362 4TWO=1d361 0COUPLE_WITH_HEART=1f491 0COW=1f404
1FACE=1f42e 0CR=d 0CRAB=1f980 0CREDIT_CARD=1f4b3 0CRESCENT_MOON=1f319 0CRICKET=1f997
1BAT_AND_BALL=1f3cf 0CROCODILE=1f40a 0CROISSANT=1f950 0CROSS_MARK=274c 1OF_JERUSALEM=2629
2LORRAINE=2628 1PATTY_WITH_LEFT_CROSSBAR=2e51 3RIGHT_CROSSBAR=2e50 1POMMEE=1f542
2WITH_HALF-CIRCLE_BELOW=1f541 0CROSSED_FLAGS=1f38c 1NEGATIVE_SQUARED_LATIN_CAPITAL_LETTER_P=1f18a
1SWORDS=2694 0CROSSING_LANES=26cc 0CROWN=1f451 0CRUTCH=1fa7c 0CRUZEIRO_SIGN=20a2
0CRYING_CAT_FACE=1f63f 1FACE=1f622 0CRYSTAL_BALL=1f52e 0CSI=9b 0CUBE_ROOT=221b 0CUCUMBER=1f952
0CUNEIFORM_NUMERIC_SIGN_EIGHT_ASH=12406 4DISH=1240d 4GESH2=1241c 4SHAR2=1242a 4U=12413
5VARIANT_FORM=1246d 4VARIANT_FORM_USSU=12444 6USSU3=12445 3ELAMITE_FIFTY=12468 4FORTY=12467
4ONE_THIRD=12465 4TWO_THIRDS=12466 3FIVE_ASH=12403 5TENU=1244d 4BAN2=12454 5VARIANT_FORM=12455
4BURU=12439 4DISH=1240a 4GESH2=12419 4GESHU=12422 4SHAR2=12427 4SHARU=12431 4SIXTHS_DISH=1245c
4U=12410 5VARIANT_FORM=1246a 3FOUR_ASH=12402 5TENU=1244c 4BAN2=12452 5VARIANT_FORM=12453
4BURU=12438 4DISH=12409 4GESH2=12418 4GESHU=12421 4SHAR2=12426 4SHARU=12430 4U=1240f
5VARIANT_FORM=12469 4VARIANT_FORM_LIMMU=1243c 7A=1243e 7B=1243f 6LIMMU4=1243d 3NIGIDAESH=12457
3NIGIDAMIN=12456 3NINE_ASH=12407 4DISH=1240e 4GESH2=1241d 4SHAR2=1242b 4U=12414 5VARIANT_FORM=1246e
4VARIANT_FORM_ILIMMU=12446 7A=12449 6ILIMMU3=12447 6ILIMMU4=12448 3OLD_ASSYRIAN_ONE_QUARTER=12462
6SIXTH=12461 3ONE_BAN2=1244f 4BURU=12434 4EIGHTH_ASH=1245f 4ESHE3=12458 4GESH2=12415 4GESHU=1241e
4HALF_GUR=12464 4QUARTER_ASH=12460 5GUR=12463 4SHARU=1242c 4THIRD_DISH=1245a 5VARIANT_FORM_A=1245d
3SEVEN_ASH=12405 4DISH=1240c 4GESH2=1241b 4SHAR2=12429 4U=12412 5VARIANT_FORM=1246c
4VARIANT_FORM_IMIN_A=12442 7B=12443 6IMIN3=12441 3SHAR2_TIMES_GAL_PLUS_DISH=12432 7MIN=12433
3SIX_ASH=12404 5TENU=1244e 4DISH=1240b 4GESH2=1241a 4SHAR2=12428 4U=12411 5VARIANT_FORM=1246b
4VARIANT_FORM_ASH9=12440 3THREE_ASH=12401 5TENU=1244b 4BAN2=12451 4BURU=12436 5VARIANT_FORM=12437
4DISH=12408 4GESH2=12417 4GESHU=12420 4SHAR2=12424 5VARIANT_FORM=12425 4SHARU=1242e
5VARIANT_FORM=1242f 4VARIANT_FORM_ESH16=1243a 6ESH21=1243b 3TWO_ASH=12400 5TENU=1244a 4BAN2=12450
4BURU=12435 4ESHE3=12459 4GESH2=12416 4GESHU=1241f 4SHAR2=12423 4SHARU=1242d 4THIRDS_DISH=1245b
5VARIANT_FORM_A=1245e 1PUNCTUATION_SIGN_DIAGONAL_COLON=12472 4QUADCOLON=12474 4TRICOLON=12473
3OLD_ASSYRIAN_WORD_DIVIDER=12470 3VERTICAL_COLON=12471 1SIGN_A=12000 3TIMES_A=12001 4BAD=12002
4GAN2_TENU=12003 4HA=12004 4IGI=12005 4LAGAR_GUNU=12006 4MUSH=12007 4SAG=12008 2A2=12009 2AB=1200a
3GUNU=12015 3TIMES_ASH2=1200b 4DUN3_GUNU=1200c 4GAL=1200d 4GAN2_TENU=1200e 4HA=1200f
4IGI_GUNU=12010 4IMIN=12011 4LAGAB=12012 4NUN=12370 5TENU=12480 4SHESH=12013 4SHU2=12481
4U_PLUS_U_PLUS_U=12014 2AB2=12016 3TIMES_A=12371 4BALAG=12017 4GAN2_TENU=12018 4ME_PLUS_EN=12019
4SHA3=1201a 4TAK4=1201b 2AD=1201c 3TIMES_ESH2=12482 2AK=1201d 3TIMES_ERIN2=1201e
4SHITA_PLUS_GISH=1201f 2AL=12020 3TIMES_AL=12021 4DIM2=12022 4GISH=12023 4HA=12024 4KAD3=12025
4KI=12026 4SHE=12027 4USH=12028 2ALAN=12029 2ALEPH=1202a 2AMAR=1202b 3TIMES_KUG=12372 4SHE=1202c
2AN=1202d 3OVER_AN=1202e 3PLUS_NAGA_OPPOSING_AN_PLUS_NAGA=12030 5SQUARED=12031 3THREE_TIMES=1202f
2ANSHE=12032 2APIN=12033 2ARAD=12034 3TIMES_KUR=12035 2ARKAB=12036 2ASAL2=12037 2ASH=12038
3KABA_TENU=1203a 3OVER_ASH_OVER_ASH=1203c 7CROSSING_ASH_OVER_ASH_OVER_ASH=1203d
5TUG2_OVER_TUG2_TUG2_OVER_TUG2_PAP=1203b 3ZIDA_TENU=12039 2ASH2=1203e 2ASHGAB=1203f 2BA=12040
2BAD=12041 3TIMES_DISH_TENU=12483 2BAG3=12042 2BAHAR2=12043 3TIMES_AB2=12484 4NI=12485 4ZA=12486
2BAL=12044 3OVER_BAL=12045 2BALAG=12046 2BAR=12047 2BARA2=12048 2BI=12049 3TIMES_A=1204a 4GAR=1204b
4IGI_GUNU=1204c 2BU=1204d 3CROSSING_BU=12050 3OVER_BU_AB=1204e 5TIMES_NA2=12487 5UN=1204f
2BULUG=12051 3OVER_BULUG=12052 2BUR=12053 2BUR2=12054 2DA=12055 3TIMES_TAK4=12488 2DAG=12056
3KISIM5_TIMES_A_PLUS_MASH=12057 5AMAR=12058 5BALAG=12059 5BI=1205a 5GA=1205b 6PLUS_MASH=1205c
5GI=1205d 5GIR2=1205e 5GUD=1205f 5HA=12060 5IR=12061 6PLUS_LU=12062 5KAK=12063 5LA=12064 5LU=12065
6PLUS_MASH2=12066 5LUM=12067 5NE=12068 5PAP_PLUS_PAP=12069 5SI=1206a 5TAK4=1206b
5U2_PLUS_GIR2=1206c 7MASH=12373 5USH=1206d 3TIMES_KUR=12489 2DAG3=12374 2DAM=1206e 2DAR=1206f
2DARA3=12070 2DARA4=12071 2DI=12072 2DIB=12073 2DIM=12074 3TIMES_IGI=1248a 4SHE=12075 4U_U_U=1248b
2DIM2=12076 3TIMES_UD=1248c 2DIN=12077 3KASKAL_U_GUNU_DISH=12078 2DISH=12079 3PLUS_SHU=12375
2DU=1207a 3GUNU=1207c 3OVER_DU=1207b 3SHESHIG=1207d 2DUB=1207e 3TIMES_ESH2=1207f 4SHE=12376
2DUB2=12080 2DUG=12081 3TIMES_ANSHE=1248d 4ASH=1248e 5AT_LEFT=1248f 4DIN=12490 4DUN=12491
4ERIN2=12492 4GA=12493 4GI=12494 4GIR2_GUNU=12495 4GISH=12496 4HA=12497 4HI=12498 4IGI_GUNU=12499
4KASKAL=1249a 4KUR=1249b 4KUSHU2=1249c 5PLUS_KASKAL=1249d 4LAK-020=1249e 4LAM=1249f
5TIMES_KUR=124a0 4LUH_PLUS_GISH=124a1 4MASH=124a2 4MES=124a3 4MI=124a4 4NI=124a5 4PI=124a6
4SHE=124a7 4SI_GUNU=124a8 2DUGUD=12082 2DUH=12083 2DUN=12084 2DUN3=12085 3GUNU=12086 4GUNU=12087
2DUN4=12088 2DUR2=12089 2E=1208a 3OVER_E_NUN_OVER_NUN=1208c 3TIMES_PAP=1208b 2E2=1208d
3TIMES_A_PLUS_HA_PLUS_DA=1208e 4GAR=1208f 4KUR=124a9 4MI=12090 4PAP=124aa 4SAL=12091 4SHE=12092
4U=12093 2EDIN=12094 2EGIR=12095 2EL=12096 2EN=12097 3CROSSING_EN=1209b 3OPPOSING_EN=1209c
3SQUARED=1209d 3TIMES_GAN2=12098 5TENU=12099 4ME=1209a 2EREN=1209e 2ERIN2=1209f 3X=124ab
2ESH2=120a0 3CROSSING_ESH2=124ac 2EZEN=120a1 3SHESHIG_TIMES_ASH=124ad 5HI=124ae 5IGI_GUNU=124af
5LA=124b0 5LAL=124b1 5ME=124b2 5MES=124b3 5SU=124b4 3TIMES_A=120a2 5PLUS_LAL=120a3 7TIMES_LAL=120a4
4AN=120a5 4BAD=120a6 4DUN3_GUNU=120a7 6GUNU=120a8 4GUD=12377 4HA=120a9 5GUNU=120aa 4IGI_GUNU=120ab
4KASKAL=120ac 5SQUARED=120ad 4KU3=120ae 4LA=120af 4LAL_TIMES_LAL=120b0 4LI=120b1 4LU=120b2
4SHE=12378 4SU=124b5 4U2=120b3 4UD=120b4 2GA=120b5 3GUNU=120b6 2GA2=120b7 3OVER_GA2=120ed
3TIMES_A_PLUS_DA_PLUS_HA=120b8 6HA=120b9 6IGI=120ba 4AB2_TENU_PLUS_TAB=120bb 4AN=120bc
5PLUS_KAK_PLUS_A=12379 4ASH=120bd 4ASH2=1237a 5PLUS_GAL=120be 4BAD=120bf 4BAHAR2=124b6
4BAR_PLUS_RA=120c0 4BUR=120c1 5PLUS_RA=120c2 4DA=120c3 4DI=120c4 4DIM_GUNU=124b7 5TIMES_SHE=120c5
4DUB=120c6 4DUG_TIMES_IGI_GUNU=124b8 6KASKAL=124b9 4EL=120c7 5PLUS_LA=120c8 4EN=120c9
5TIMES_GAN2_TENU=120ca 4EREN=124ba 4GA=124bb 4GAN2_TENU=120cb 4GAR=120cc 5PLUS_DI=124bc 6NE=124bd
4GI=120cd 4GI4=120ce 5PLUS_A=120cf 4GIR2_PLUS_SU=120d0 4HA_PLUS_A=124be 6LU_PLUS_ESH2=120d1
4HAL=120d2 5PLUS_LA=120d3 4HI_PLUS_LI=120d4 4HUB2=120d5 4IGI_GUNU=120d6 4ISH_PLUS_HU_PLUS_ASH=120d7
4KAK=120d8 4KASKAL=120d9 4KID=120da 5PLUS_LAL=120db 4KU3_PLUS_AN=120dc 4KUSHU2_PLUS_KASKAL=124bf
4LA=120dd 4LAM=124c0 5TIMES_KUR=124c1 4LUH=124c2 4ME_PLUS_EN=120de 4MI=120df 4MUSH=124c3 4NE=124c4
5PLUS_E2=124c5 6GI=124c6 4NUN=120e0 5OVER_NUN=120e1 4PA=120e2 4SAL=120e3 4SAR=120e4 4SHE=120e5
5PLUS_TUR=120e6 4SHID=120e7 4SHIM=124c7 4SUM=120e8 4TAK4=120e9 4U=120ea 4UD=120eb 5PLUS_DU=120ec
4ZIZ2=124c8 2GABA=120ee 3CROSSING_GABA=120ef 3ROTATED_NINETY_DEGREES=124c9 2GAD=120f0
3OVER_GAD_GAR_OVER_GAR=120f1 2GAL=120f2 3GAD_OVER_GAD_GAR_OVER_GAR=120f3 2GALAM=120f4 2GAM=120f5
2GAN=120f6 2GAN2=120f7 3CROSSING_GAN2=120fa 3OVER_GAN2=120f9 3TENU=120f8 2GAR=120fb 2GAR3=120fc
2GASHAN=120fd 2GE22=1237b 2GESHTIN=120fe 3TIMES_KUR=120ff 4U=124ca 2GI=12100 3CROSSING_GI=12103
3TIMES_E=12101 4U=12102 2GI4=12104 3CROSSING_GI4=12106 3OVER_GI4=12105 2GIDIM=12107 2GIG=1237c
2GIR2=12108 3GUNU=12109 2GIR3=1210a 3TIMES_A_PLUS_IGI=1210b 4GAN2_TENU=1210c 4IGI=1210d
4LU_PLUS_IGI=1210e 4PA=1210f 2GISAL=12110 2GISH=12111 3CROSSING_GISH=12112 3TENU=12115
3TIMES_BAD=12113 4GISH_CROSSING_GISH=124cb 4TAK4=12114 2GU=12116 3CROSSING_GU=12117 2GU2=12118
3GUNU=1211d 3TIMES_IGI_GUNU=124cc 4KAK=12119 5TIMES_IGI_GUNU=1211a 4NUN=1211b 4SAL_PLUS_TUG2=1211c
2GUD=1211e 3OVER_GUD_LUGAL=12121 3PLUS_GISH_TIMES_TAK4=124cd 3TIMES_A_PLUS_KUR=1211f 4KUR=12120
2GUL=12122 2GUM=12123 3TIMES_SHE=12124 2GUR=12125 2GUR7=12126 2GURUN=12127 2GURUSH=12128 2HA=12129
3GUNU=1212b 3TENU=1212a 4GUNU=124ce 2HAL=1212c 2HI=1212d 3TIMES_ASH=1212e 5OVER_HI_TIMES_ASH=124cf
4ASH2=1212f 4BAD=12130 4DISH=12131 4GAD=12132 4KIN=12133 4NUN=12134 4SHE=12135 4U=12136 2HU=12137
2HUB2=12138 3TIMES_AN=12139 4HAL=1213a 4KASKAL=1213b 4LISH=1213c 4UD=1213d 2HUL2=1213e 2HUSH=1237d
2I=1213f 3A=12140 2IB=12141 2IDIM=12142 3OVER_IDIM_BUR=12143 5SQUARED=12144 2IG=12145 2IGI=12146
3DIB=12147 3GUNU=1214a 3OVER_IGI_SHIR_OVER_SHIR_UD_OVER_UD=12149 3RI=12148 2IL=1214b
3TIMES_GAN2_TENU=1214c 2IL2=1214d 2IM=1214e 3CROSSING_IM=12150 3OPPOSING_IM=12151 3SQUARED=12152
3TIMES_TAK4=1214f 2IMIN=12153 2IN=12154 2IR=12155 2ISH=12156 2KA=12157 3TIMES_A=12158 4AD=12159
5PLUS_KU3=1215a 4ANSHE=1237e 4ASH2=1215b 4ASH3=1237f 4BAD=1215c 4BALAG=1215d 4BAR=1215e 4BI=1215f
4BU=124d0 4ERIN2=12160 4ESH2=12161 4GA=12162 4GAL=12163 4GAN2_TENU=12164 4GAR=12165
5PLUS_SHA3_PLUS_A=12166 4GI=12167 4GIR2=12168 4GISH=12380 5CROSSING_GISH=1216a 5PLUS_SAR=12169
4GU=1216b 4GUD=12381 4GUR7=1216c 4HI_TIMES_ASH2=12382 4IGI=1216d 4IM=1216e 4KA=124d1 4KAK=1216f
4KI=12170 4KID=12171 4LI=12172 4LU=12173 4LUM=12383 4ME=12174 5PLUS_DU=12175 6GI=12176 6TE=12177
4MI=12178 5PLUS_NUNUZ=12179 4NE=1217a 4NUN=1217b 4PA=12384 4PI=1217c 4RU=1217d 4SA=1217e 4SAR=1217f
4SHA=12180 4SHE=12181 4SHID=12182 4SHU=12183 4SHUL=12385 4SIG=12184 4SUHUR=12185 4TAR=12186
4TU=12386 4U=12187 5U_U=124d2 4U2=12188 4UD=12189 4UMUM_TIMES_PA=1218a 4UR=124d3 4UR2=12387
4USH=1218b 4ZI=1218c 2KA2=1218d 3CROSSING_KA2=1218e 2KAB=1218f 2KAD2=12190 2KAD3=12191 2KAD4=12192
2KAD5=12193 3OVER_KAD5=12194 2KAK=12195 3TIMES_IGI_GUNU=12196 2KAL=12197 3CROSSING_KAL=12199
3TIMES_BAD=12198 2KAM2=1219a 2KAM4=1219b 2KAP_ELAMITE=1236f 2KASKAL=1219c
3LAGAB_TIMES_U_OVER_LAGAB_TIMES_U=1219d 3OVER_KASKAL_LAGAB_TIMES_U_OVER_LAGAB_TIMES_U=1219e
2KESH2=1219f 2KI=121a0 3TIMES_BAD=121a1 4U=121a2 4UD=121a3 2KID=121a4 2KIN=121a5 2KISAL=121a6
2KISH=121a7 2KISIM5=121a8 3OVER_KISIM5=121a9 2KU=121aa
3OVER_HI_TIMES_ASH2_KU_OVER_HI_TIMES_ASH2=121ab 2KU3=121ac 2KU4=121ad 3VARIANT_FORM=121ae
2KU7=121af 2KUL=121b0 3GUNU=121b1 2KUN=121b2 2KUR=121b3 3OPPOSING_KUR=121b4 2KUSHU2=121b5
2KWU318=121b6 2LA=121b7 2LAGAB=121b8 3SQUARED=121eb 3TIMES_A=121b9 5PLUS_DA_PLUS_HA=121ba
6GAR=121bb 6LAL=121bc 4AL=121bd 4AN=121be 4ASH_ZIDA_TENU=121bf 4BAD=121c0 4BI=121c1 4DAR=121c2
4EN=121c3 4GA=121c4 4GAR=121c5 4GI=12388 4GUD=121c6 5PLUS_GUD=121c7 4HA=121c8 4HAL=121c9
4HI_TIMES_NUN=121ca 4IGI_GUNU=121cb 4IM=121cc 5PLUS_HA=121cd 6LU=121ce 4KI=121cf 4KIN=121d0
4KU3=121d1 4KUL=121d2 5PLUS_HI_PLUS_A=121d3 4LAGAB=121d4 4LISH=121d5 4LU=121d6 4LUL=121d7 4ME=121d8
5PLUS_EN=121d9 4MUSH=121da 4NE=121db 4SHE_PLUS_SUM=121dc 4SHITA_PLUS_GISH_PLUS_ERIN2=121dd
7TENU=121de 4SHU2=121df 5PLUS_SHU2=121e0 4SUM=121e1 4TAG=121e2 4TAK4=121e3
4TE_PLUS_A_PLUS_SU_PLUS_NA=121e4 4U=121e5 5PLUS_A=121e6 6U_PLUS_U=121e7 4U2_PLUS_ASH=121e8
4UD=121e9 4USH=121ea 4ZU_OVER_ZU=124d4 2LAGAR=121ec 3GUNU=121ef 4OVER_LAGAR_GUNU_SHE=121f0
3TIMES_SHE=121ed 5PLUS_SUM=121ee 2LAHSHU=121f1 2LAK-003=124d5 2LAK-021=124d6 2LAK-025=124d7
2LAK-030=124d8 2LAK-050=124d9 2LAK-051=124da 2LAK-062=124db 2LAK-079_OVER_LAK-079_GUNU=124dc
2LAK-080=124dd 2LAK-081_OVER_LAK-081=124de 2LAK-092=124df 2LAK-130=124e0 2LAK-142=124e1
2LAK-210=124e2 2LAK-219=124e3 2LAK-220=124e4 2LAK-225=124e5 2LAK-228=124e6 2LAK-238=124e7
2LAK-265=124e8 2LAK-266=124e9 2LAK-343=124ea 2LAK-347=124eb 2LAK-348=124ec 2LAK-383=124ed
2LAK-384=124ee 2LAK-390=124ef 2LAK-441=124f0 2LAK-449=124f1 3TIMES_GU=124f2 4IGI=124f3
4PAP_PLUS_LU3=124f4 6PAP_PLUS_LU3=124f5 4U2_PLUS_BA=124f6 2LAK-450=124f7 2LAK-457=124f8
2LAK-470=124f9 2LAK-483=124fa 2LAK-490=124fb 2LAK-492=124fc 2LAK-493=124fd 2LAK-495=124fe
2LAK-550=124ff 2LAK-608=12500 2LAK-617=12501 3TIMES_ASH=12502 4BAD=12503 4DUN3_GUNU_GUNU=12504
4KU3=12505 4LA=12506 4TAR=12507 4TE=12508 4U2=12509 4UD=1250a 4URUDA=1250b 2LAK-636=1250c
2LAK-648=1250d 3TIMES_DUB=1250e 4GA=1250f 4IGI=12510 5GUNU=12511 4NI=12512
4PAP_PLUS_PAP_PLUS_LU3=12513 4SHESH_PLUS_KI=12514 4UD=12515 4URUDA=12516 2LAK-724=12517
2LAK-749=12518 2LAL=121f2 3TIMES_LAL=121f3 2LAM=121f4 3TIMES_KUR=121f5 5PLUS_RU=121f6 2LI=121f7
2LIL=121f8 2LIMMU2=121f9 2LISH=121fa 2LU=121fb 3TIMES_BAD=121fc 2LU2=121fd 3CROSSING_LU2=12212
3GUNU_TIMES_ASH=12519 3OPPOSING_LU2=12213 3SHESHIG=12215 4TIMES_BAD=12389 3SQUARED=12214
3TENU=12211 3TIMES_AL=121fe 4BAD=121ff 4DISH=1251a 4ESH2=12200 5PLUS_LAL=1238a 5TENU=12201
4GAN2_TENU=12202 4HAL=1251b 4HI_TIMES_BAD=12203 4IM=12204 4KAD2=12205 4KAD3=12206 5PLUS_ASH=12207
4KI=12208 4LA_PLUS_ASH=12209 4LAGAB=1220a 4ME_PLUS_EN=1220b 4NE=1220c 4NU=1220d 4PAP=1251c
5PLUS_PAP_PLUS_LU3=1251d 4SHU=1238b 4SI_PLUS_ASH=1220e 4SIK2_PLUS_BU=1220f 4TAK4=1251e 4TUG2=12210
2LU3=12216 2LUGAL=12217 3OPPOSING_LUGAL=12219 3OVER_LUGAL=12218 3SHESHIG=1221a 2LUH=1221b
2LUL=1221c 2LUM=1221d 3OVER_LUM=1221e 5GAR_OVER_GAR=1221f 2MA=12220 3GUNU=12222 3TIMES_TAK4=12221
2MA2=12223 2MAH=12224 2MAR=12225 2MASH=12226 2MASH2=12227 2ME=12228 2MES=12229 2MESH=1238c
2MI=1222a 3PLUS_ZA7=1251f 2MIN=1222b 2MU=1222c 3OVER_MU=1222d 2MUG=1222e 3GUNU=1222f 2MUNSUB=12230
2MURGU2=12231 2MUSH=12232 3CROSSING_MUSH=12238 3OVER_MUSH=12236 5TIMES_A_PLUS_NA=12237 6GA=12520
6KAK=12521 3TIMES_A=12233 4KUR=12234 4ZA=12235 2MUSH3=12239 3GUNU=1223d 3TIMES_A=1223a
5PLUS_DI=1223b 4DI=1223c 4ZA=1238d 2NA=1223e 2NA2=1223f 2NA4=1238e 2NAGA=12240 3INVERTED=12241
3OPPOSING_NAGA=12243 3TIMES_SHU_TENU=12242 2NAGAR=12244 2NAM=12246 3NUTILLU=12245 2NAM2=12247
2NE=12248 3SHESHIG=1224b 3TIMES_A=12249 4UD=1224a 2NI=1224c 3TIMES_E=1224d 2NI2=1224e 2NIM=1224f
3TIMES_GAN2_TENU=12250 4GAR_PLUS_GAN2_TENU=12251 2NIN=1238f 2NIN9=12390 2NINDA2=12252
3TIMES_AN=12253 4ASH=12254 5PLUS_ASH=12255 4BAL=12391 4DIM_GUNU=12522 4GI=12392 4GISH=12523
4GUD=12256 4GUL=12524 4HI=12525 4KESH2=12526 4LAK-050=12527 4MASH=12528 4ME_PLUS_GAN2_TENU=12257
4NE=12258 4NUN=12259 4PAP_PLUS_PAP=12529 4SHE=1225a 5PLUS_A_AN=1225b 6ASH=1225c 7PLUS_ASH=1225d
4U=1252a 5PLUS_U=1252b 4U2_PLUS_ASH=1225e 4URUDA=1252c 4USH=1225f 2NISAG=12260 2NU=12261
2NU11=12262 3OVER_NU11_BUR_OVER_BUR=122d5 3ROTATED_NINETY_DEGREES=12393 3TENU=122d4 2NUN=12263
3CROSSING_NUN=1226b 5LAGAR_OVER_LAGAR=1226c 3LAGAR_TIMES_GAR=12264 5MASH=12265 5SAL=12266
6OVER_NUN_LAGAR_TIMES_SAL=12267 5USH=12268 3OVER_NUN=1226a 3TENU=12269 2NUNUZ=1226d
3AB2_TIMES_ASHGAB=1226e 5BI=1226f 5DUG=12270 5GUD=12271 5IGI_GUNU=12272 5KAD3=12273 5LA=12274
5NE=12275 5SILA3=12276 5U2=12277 3KISIM5_TIMES_BI=12278 6U=12279 2PA=1227a 2PAD=1227b 2PAN=1227c
2PAP=1227d 2PESH2=1227e 3ASTERISK=12394 2PI=1227f 3CROSSING_PI=12289 3TIMES_A=12280 4AB=12281
4BI=12282 4BU=12283 4E=12284 4I=12285 4IB=12286 4U=12287 4U2=12288 2PIR2=12395 2PIRIG=1228a
3OPPOSING_PIRIG=1228e 3TIMES_KAL=1228b 4UD=1228c 4ZA=1228d 2RA=1228f 2RAB=12290 2RI=12291 2RU=12292
2SA=12293 2SAG=12295 3GUNU=122a8 4TIMES_HA=1252d 3NUTILLU=12294 3OVER_SAG=122a7 3TIMES_A=12296
4DU=12297 4DUB=12298 4EN=1252e 4HA=12299 4IGI_GUNU=12396 4KAK=1229a 4KUR=1229b 4LUM=1229c 4MI=1229d
4NUN=1229e 4SAL=1229f 4SHE_AT_LEFT=1252f 4SHID=122a0 4TAB=122a1 4TAK4=12530 4U2=122a2 4UB=122a3
4UM=122a4 4UR=122a5 4USH=122a6 2SAL=122a9 3LAGAB_TIMES_ASH2=122aa 2SANGA2=122ab 2SAR=122ac
2SHA=122ad 2SHA3=122ae 3TIMES_A=122af 4BAD=122b0 4GISH=122b1 4NE=122b2 4SHU2=122b3 4TUR=122b4
4U=122b5 5PLUS_A=122b6 2SHA6=122b7 3TENU=12531 2SHAB6=122b8 2SHAR2=122b9 2SHE=122ba 3HU=122bb
3OVER_SHE=12532 5GAD_OVER_GAD_GAR_OVER_GAR=122bc 5TAB_OVER_TAB_GAR_OVER_GAR=122bd 3PLUS_HUB2=12533
4NAM2=12534 4SAR=12535 2SHEG9=122be 2SHEN=122bf 2SHESH=122c0 2SHESH2=122c1 2SHESHLAM=122c2
2SHID=122c3 3TIMES_A=122c4 4IM=122c5 2SHIM=122c6 3TIMES_A=122c7 4BAL=122c8 4BULUG=122c9 4DIN=122ca
4GAR=122cb 4IGI=122cc 5GUNU=122cd 4KUSHU2=122ce 4LUL=122cf 4MUG=122d0 4SAL=122d1 2SHINIG=122d2
2SHIR=122d3 3OVER_SHIR_BUR_OVER_BUR=122d5 3TENU=122d4 2SHITA=122d6 2SHU=122d7
3OVER_INVERTED_SHU=122d8 2SHU2=122d9 3PLUS_DUG_TIMES_NI=12536 4E2_TIMES_AN=12537 2SHUBUR=122da
2SI=122db 3GUNU=122dc 3TIMES_TAK4=12538 2SIG=122dd 2SIG4=122de 3OVER_SIG4_SHU2=122df 2SIK2=122e0
2SILA3=122e1 2SU=122e2 3OVER_SU=122e3 2SUD=122e4 2SUD2=122e5 2SUHUR=122e6 2SUM=122e7 2SUMASH=122e8
2SUR=122e9 2SUR9=122ea 2TA=122eb 3ASTERISK=122ec 3GUNU=122ef 3TIMES_HI=122ed 4MI=122ee 2TAB=122f0
3OVER_TAB_NI_OVER_NI_DISH_OVER_DISH=122f1 3SQUARED=122f2 2TAG=122f3 3TIMES_BI=122f4 4GUD=122f5
4SHE=122f6 4SHU=122f7 4TUG2=122f8 4UD=122f9 2TAK4=122fa 3PLUS_SAG=12539 2TAR=122fb 2TE=122fc
3GUNU=122fd 2TI=122fe 3TENU=122ff 2TI2=12397 2TIL=12300 2TIR=12301 3OVER_TIR=12303
5GAD_OVER_GAD_GAR_OVER_GAR=12304 3TIMES_TAK4=12302 2TU=12305 2TUG2=12306 2TUK=12307 2TUM=12308
3TIMES_GAN2_TENU=1253a 4THREE_DISH=1253b 2TUR=12309 3OVER_TUR_ZA_OVER_ZA=1230a 2U=1230b 3GUD=1230c
3OVER_U_PA_OVER_PA_GAR_OVER_GAR=1230e 5SUR_OVER_SUR=1230f 5U_REVERSED_OVER_U_REVERSED=12310
3U=12399 4U=1230d 2U2=12311 2UB=12312 2UD=12313 3GUNU=12319 3KUSHU2=12314 3SHESHIG=1231a
4TIMES_BAD=1231b 3TIMES_BAD=12315 4MI=12316 4U_PLUS_U_PLUS_U=12317 9GUNU=12318 2UDUG=1231c
2UM=1231d 3TIMES_LAGAB=1231e 4ME=12398 5PLUS_DA=1231f 4SHA3=12320 4U=12321 2UMBIN=12322 2UMUM=12323
3TIMES_KASKAL=12324 4PA=12325 2UN=12326 3GUNU=12327 2UR=12328 3CROSSING_UR=12329 3SHESHIG=1232a
2UR2=1232b 3INVERTED=1253c 3TIMES_A_PLUS_HA=1232c 6NA=1232d 4AL=1232e 4HA=1232f 4NUN=12330
4U2=12331 5PLUS_ASH=12332 6BI=12333 4UD=1253d 2UR4=12334 2URI=12335 2URI3=12336 2URU=12337
3TIMES_A=12338 4ASHGAB=12339 4BAR=1233a 4DARA3=1253e 4DUN=1233b 4GA=1233c 4GAL=1233d
4GAN2_TENU=1233e 4GAR=1233f 4GU=12340 4HA=12341 4IGI=12342 4IM=12343 4ISH=12344 4KI=12345
4LAK-668=1253f 4LU3=12540 4LUM=12346 4MIN=12347 4PA=12348 4SHE=12349 4SIG4=1234a 4TU=1234b
4U_PLUS_GUD=1234c 4UD=1234d 4URUDA=1234e 2URUDA=1234f 3TIMES_U=12350 2USH=12351 3TIMES_A=12352
4KU=12353 4KUR=12354 4TAK4=12355 2USH2=12357 2USHUMX=12358 2USHX=12356 2UTUKI=12359 2UZ3=1235a
3TIMES_KASKAL=1235b 2UZU=1235c 2ZA=1235d 3SQUARED_TIMES_KUR=1235f 3TENU=1235e 2ZA7=12541 2ZAG=12360
2ZAMX=12361 2ZE2=12362 2ZI=12363 3OVER_ZI=12364 2ZI3=12365 2ZIB=12366 3KABA_TENU=12367 2ZIG=12368
2ZIZ2=12369 2ZU=1236a 3OVER_ZU_PLUS_SAR=12542 2ZU5=1236b 3TIMES_A=1236c 4THREE_DISH_TENU=12543
2ZUBUR=1236d 2ZUM=1236e 0CUP_ON_BLACK_SQUARE=26fe 1WITH_STRAW=1f964 0CUPCAKE=1f9c1 0CUPIDO=2be0
0CURLING_STONE=1f94c 0CURLY_BRACKET_EXTENSION=23aa 1LOGICAL_AND=22cf 2OR=22ce 1LOOP=27b0
0CURRENCY_EXCHANGE=1f4b1 1SIGN=a4 0CURRY_AND_RICE=1f35b 0CURVED_STEM_PARAGRAPH_SIGN_ORNAMENT=2761
0CUSTARD=1f36e 0CUSTOMS=1f6c3 0CUT_OF_MEAT=1f969 0CYCLONE=1f300 0CYLINDRICITY=232d
0CYPRIOT_SYLLABLE_A=10800 2E=10801 2I=10802 2JA=10805 2JO=10808 2KA=1080a 2KE=1080b 2KI=1080c
2KO=1080d 2KU=1080e 2LA=1080f 2LE=10810 2LI=10811 2LO=10812 2LU=10813 2MA=10814 2ME=10815 2MI=10816
2MO=10817 2MU=10818 2NA=10819 2NE=1081a 2NI=1081b 2NO=1081c 2NU=1081d 2O=10803 2PA=1081e 2PE=1081f
2PI=10820 2PO=10821 2PU=10822 2RA=10823 2RE=10824 2RI=10825 2RO=10826 2RU=10827 2SA=10828 2SE=10829
2SI=1082a 2SO=1082b 2SU=1082c 2TA=1082d 2TE=1082e 2TI=1082f 2TO=10830 2TU=10831 2U=10804 2WA=10832
2WE=10833 2WI=10834 2WO=10835 2XA=10837 2XE=10838 2ZA=1083c 2ZO=1083f
0CYPRO-MINOAN_SIGN_CM001=12f90 2CM002=12f91 2CM004=12f92 2CM005=12f93 2CM006=12f94 2CM007=12f95
2CM008=12f96 2CM009=12f97 2CM010=12f98 2CM011=12f99 2CM012=12f9a 2CM012B=12f9b 2CM013=12f9c
2CM015=12f9d 2CM017=12f9e 2CM019=12f9f 2CM021=12fa0 2CM023=12fa1 2CM024=12fa2 2CM025=12fa3
2CM026=12fa4 2CM027=12fa5 2CM028=12fa6 2CM029=12fa7 2CM030=12fa8 2CM033=12fa9 2CM034=12faa
2CM035=12fab 2CM036=12fac 2CM037=12fad 2CM038=12fae 2CM039=12faf 2CM040=12fb0 2CM041=12fb1
2CM044=12fb2 2CM046=12fb3 2CM047=12fb4 2CM049=12fb5 2CM050=12fb6 2CM051=12fb7 2CM052=12fb8
2CM053=12fb9 2CM054=12fba 2CM055=12fbb 2CM056=12fbc 2CM058=12fbd 2CM059=12fbe 2CM060=12fbf
2CM061=12fc0 2CM062=12fc1 2CM063=12fc2 2CM064=12fc3 2CM066=12fc4 2CM067=12fc5 2CM068=12fc6
2CM069=12fc7 2CM070=12fc8 2CM071=12fc9 2CM072=12fca 2CM073=12fcb 2CM074=12fcc 2CM075=12fcd
2CM075B=12fce 2CM076=12fcf 2CM078=12fd0 2CM079=12fd1 2CM080=12fd2 2CM081=12fd3 2CM082=12fd4
2CM083=12fd5 2CM084=12fd6 2CM085=12fd7 2CM086=12fd8 2CM087=12fd9 2CM088=12fda 2CM089=12fdb
2CM090=12fdc 2CM091=12fdd 2CM092=12fde 2CM094=12fdf 2CM095=12fe0 2CM096=12fe1 2CM097=12fe2
2CM098=12fe3 2CM099=12fe4 2CM100=12fe5 2CM101=12fe6 2CM102=12fe7 2CM103=12fe8 2CM104=12fe9
2CM105=12fea 2CM107=12feb 2CM108=12fec 2CM109=12fed 2CM110=12fee 2CM112=12fef 2CM114=12ff0
2CM301=12ff1 2CM302=12ff2 0CYRILLIC_CAPITAL_LETTER_A=410 4WITH_BREVE=4d0 5DIAERESIS=4d2
3ABKHASIAN_CHE=4bc 5WITH_DESCENDER=4be 4DZE=4e0 4HA=4a8 3ALEUT_KA=51e 3BARRED_O=4e8
5WITH_DIAERESIS=4ea 3BASHKIR_KA=4a0 3BE=411 3BIG_YUS=46a 3BINOCULAR_O=a66a 3BLENDED_YUS=a65a
3BROAD_OMEGA=a64c 3BYELORUSSIAN-UKRAINIAN_I=406 3CCHE=a686 3CHE=427 4WITH_DESCENDER=4b6
5DIAERESIS=4f4 5VERTICAL_STROKE=4b8 3CLOSED_LITTLE_YUS=a658 3CROSSED_O=a69a 3DCHE=52c 3DE=414
3DJE=402 3DJERV=a648 3DOUBLE_MONOCULAR_O=a66c 4O=a698 3DWE=a680 3DZE=405 3DZELO=a642 3DZHE=40f
3DZWE=a682 3DZZE=a688 3DZZHE=52a 3E=42d 4WITH_DIAERESIS=4ec 3EF=424 3EL=41b 4WITH_DESCENDER=52e
5HOOK=512 5MIDDLE_HOOK=520 5TAIL=4c5 3EM=41c 4WITH_TAIL=4cd 3EN=41d 4WITH_DESCENDER=4a2 5HOOK=4c7
5LEFT_HOOK=528 5MIDDLE_HOOK=522 5TAIL=4c9 3ER=420 4WITH_TICK=48e 3ES=421 4WITH_DESCENDER=4aa
3FITA=472 3GHE=413 4WITH_DESCENDER=4f6 5MIDDLE_HOOK=494 5STROKE=492 6AND_HOOK=4fa 5UPTURN=490
3GJE=403 3HA=425 4WITH_DESCENDER=4b2 5HOOK=4fc 5STROKE=4fe 3HARD_SIGN=42a 3HWE=a694 3I=418
4WITH_DIAERESIS=4e4 5GRAVE=40d 5MACRON=4e2 3IE=415 4WITH_BREVE=4d6 5GRAVE=400 3IO=401 3IOTA=a646
3IOTIFIED_A=a656 4BIG_YUS=46c 4CLOSED_LITTLE_YUS=a65c 4E=464 4LITTLE_YUS=468 4YAT=a652 3IZHITSA=474
4WITH_DOUBLE_GRAVE_ACCENT=476 3JE=408 3KA=41a 4WITH_DESCENDER=49a 5HOOK=4c3 5STROKE=49e
5VERTICAL_STROKE=49c 3KHAKASSIAN_CHE=4cb 3KJE=40c 3KOMI_DE=500 4DJE=502 4DZJE=506 4LJE=508 4NJE=50a
4SJE=50c 4TJE=50e 4ZJE=504 3KOPPA=480 3KSI=46e 3LHA=514 3LITTLE_YUS=466 3LJE=409 3MONOCULAR_O=a668
3MONOGRAPH_UK=a64a 3NEUTRAL_YER=a64e 3NJE=40a 3O=41e 4WITH_DIAERESIS=4e6 3OMEGA=460 4WITH_TITLO=47c
3OT=47e 3PE=41f 4WITH_DESCENDER=524 5MIDDLE_HOOK=4a6 3PSI=470 3QA=51a 3REVERSED_DZE=a644 4TSE=a660
4YU=a654 4ZE=510 3RHA=516 3ROUND_OMEGA=47a 3SCHWA=4d8 4WITH_DIAERESIS=4da 3SEMISOFT_SIGN=48c
3SHA=428 3SHCHA=429 3SHHA=4ba 4WITH_DESCENDER=526 3SHORT_I=419 5WITH_TAIL=48a 4U=40e 3SHWE=a696
3SOFT_DE=a662 4EL=a664 4EM=a666 4SIGN=42c 3STRAIGHT_U=4ae 5WITH_STROKE=4b0 3TCHE=a692 3TE=422
4WITH_DESCENDER=4ac 5MIDDLE_HOOK=a68a 3TSE=426 3TSHE=40b 3TSSE=a690 3TSWE=a68e 3TWE=a68c 3U=423
4WITH_DIAERESIS=4f0 5DOUBLE_ACUTE=4f2 5MACRON=4ee 3UK=478 3UKRAINIAN_IE=404 3VE=412 3WE=51c 3YA=42f
3YAE=518 3YAT=462 3YERU=42b 4WITH_BACK_YER=a650 5DIAERESIS=4f8 3YI=407 3YN=a65e 3YU=42e 3ZE=417
4WITH_DESCENDER=498 5DIAERESIS=4de 3ZEMLYA=a640 3ZHE=416 4WITH_BREVE=4c1 5DESCENDER=496
5DIAERESIS=4dc 3ZHWE=a684 2LIGATURE_A_IE=4d4 3EN_GHE=4a4 3TE_TSE=4b4 1KAVYKA=a67e
1LETTER_MULTIOCULAR_O=a66e 2PALOCHKA=4c0 2SMALL_CAPITAL_EL=1d2b 1PAYEROK=a67f 1SMALL_LETTER_A=430
4WITH_BREVE=4d1 5DIAERESIS=4d3 3ABKHASIAN_CHE=4bd 5WITH_DESCENDER=4bf 4DZE=4e1 4HA=4a9
3ALEUT_KA=51f 3BARRED_O=4e9 5WITH_DIAERESIS=4eb 3BASHKIR_KA=4a1 3BE=431 3BIG_YUS=46b
3BINOCULAR_O=a66b 3BLENDED_YUS=a65b 3BROAD_OMEGA=a64d 3BYELORUSSIAN-UKRAINIAN_I=456 3CCHE=a687
3CHE=447 4WITH_DESCENDER=4b7 5DIAERESIS=4f5 5VERTICAL_STROKE=4b9 3CLOSED_LITTLE_YUS=a659
3CROSSED_O=a69b 3DCHE=52d 3DE=434 3DJE=452 3DJERV=a649 3DOUBLE_MONOCULAR_O=a66d 4O=a699 3DWE=a681
3DZE=455 3DZELO=a643 3DZHE=45f 3DZWE=a683 3DZZE=a689 3DZZHE=52b 3E=44d 4WITH_DIAERESIS=4ed 3EF=444
3EL=43b 4WITH_DESCENDER=52f 5HOOK=513 5MIDDLE_HOOK=521 5TAIL=4c6 3EM=43c 4WITH_TAIL=4ce 3EN=43d
4WITH_DESCENDER=4a3 5HOOK=4c8 5LEFT_HOOK=529 5MIDDLE_HOOK=523 5TAIL=4ca 3ER=440 4WITH_TICK=48f
3ES=441 4WITH_DESCENDER=4ab 3FITA=473 3GHE=433 4WITH_DESCENDER=4f7 5MIDDLE_HOOK=495 5STROKE=493
6AND_HOOK=4fb 5UPTURN=491 3GJE=453 3HA=445 4WITH_DESCENDER=4b3 5HOOK=4fd 5STROKE=4ff 3HARD_SIGN=44a
3HWE=a695 3I=438 4WITH_DIAERESIS=4e5 5GRAVE=45d 5MACRON=4e3 3IE=435 4WITH_BREVE=4d7 5GRAVE=450
3IO=451 3IOTA=a647 3IOTIFIED_A=a657 4BIG_YUS=46d 4CLOSED_LITTLE_YUS=a65d 4E=465 4LITTLE_YUS=469
4YAT=a653 3IZHITSA=475 4WITH_DOUBLE_GRAVE_ACCENT=477 3JE=458 3KA=43a 4WITH_DESCENDER=49b 5HOOK=4c4
5STROKE=49f 5VERTICAL_STROKE=49d 3KHAKASSIAN_CHE=4cc 3KJE=45c 3KOMI_DE=501 4DJE=503 4DZJE=507
4LJE=509 4NJE=50b 4SJE=50d 4TJE=50f 4ZJE=505 3KOPPA=481 3KSI=46f 3LHA=515 3LITTLE_YUS=467 3LJE=459
3LONG-LEGGED_DE=1c81 3MONOCULAR_O=a669 3MONOGRAPH_UK=a64b 3NARROW_O=1c82 3NEUTRAL_YER=a64f 3NJE=45a
3O=43e 4WITH_DIAERESIS=4e7 3OMEGA=461 4WITH_TITLO=47d 3OT=47f 3PALOCHKA=4cf 3PE=43f
4WITH_DESCENDER=525 5MIDDLE_HOOK=4a7 3PSI=471 3QA=51b 3REVERSED_DZE=a645 4TSE=a661 4YU=a655 4ZE=511
3RHA=517 3ROUND_OMEGA=47b 3ROUNDED_VE=1c80 3SCHWA=4d9 4WITH_DIAERESIS=4db 3SEMISOFT_SIGN=48d
3SHA=448 3SHCHA=449 3SHHA=4bb 4WITH_DESCENDER=527 3SHORT_I=439 5WITH_TAIL=48b 4U=45e 3SHWE=a697
3SOFT_DE=a663 4EL=a665 4EM=a667 4SIGN=44c 3STRAIGHT_U=4af 5WITH_STROKE=4b1 3TALL_HARD_SIGN=1c86
4TE=1c84 4YAT=1c87 3TCHE=a693 3TE=442 4WITH_DESCENDER=4ad 5MIDDLE_HOOK=a68b 3THREE-LEGGED_TE=1c85
3TSE=446 3TSHE=45b 3TSSE=a691 3TSWE=a68f 3TWE=a68d 3U=443 4WITH_DIAERESIS=4f1 5DOUBLE_ACUTE=4f3
5MACRON=4ef 3UK=479 3UKRAINIAN_IE=454 3UNBLENDED_UK=1c88 3VE=432 3WE=51d 3WIDE_ES=1c83 3YA=44f
3YAE=519 3YAT=463 3YERU=44b 4WITH_BACK_YER=a651 5DIAERESIS=4f9 3YI=457 3YN=a65f 3YU=44e 3ZE=437
4WITH_DESCENDER=499 5DIAERESIS=4df 3ZEMLYA=a641 3ZHE=436 4WITH_BREVE=4c2 5DESCENDER=497
5DIAERESIS=4dd 3ZHWE=a685 2LIGATURE_A_IE=4d5 3EN_GHE=4a5 3TE_TSE=4b5 1THOUSANDS_SIGN=482"

/-- Names that begin with `D`. -/
def namesD : String :=
  "0DAGGER=2020 1KNIFE=1f5e1 1WITH_LEFT_GUARD=2e36 2RIGHT_GUARD=2e37 0DALET_SYMBOL=2138
0DANCER=1f483 0DANGO=1f361 0DARK_SHADE=2593 1SUNGLASSES=1f576 0DASH_SYMBOL=1f4a8
1WITH_LEFT_UPTURN=2e43 0DASHED_LOW_LINE=fe4d 1OVERLINE=fe49 1TRIANGLE-HEADED_RIGHTWARDS_ARROW=279f
0DATA_LINK_ESCAPE=10 0DC1=11 0DC2=12 0DC3=13 0DC4=14 0DCS=90 0DEAF_PERSON=1f9cf
0DECIDUOUS_TREE=1f333 0DECIMAL_EXPONENT_SYMBOL=23e8 1SEPARATOR_KEY_SYMBOL=2396
0DECREASE_FONT_SIZE_SYMBOL=1f5db 0DEER=1f98c 0DEGREE_CELSIUS=2103 1FAHRENHEIT=2109 1SIGN=b0 0DEL=7f
0DELETE=7f 0DELIVERY_TRUCK=1f69a 0DELTA_EQUAL_TO=225c
0DENTISTRY_SYMBOL_LIGHT_DOWN_AND_HORIZONTAL=23c9 6WITH_CIRCLE=23c1 7TRIANGLE=23c4 7WAVE=23c7
3UP_AND_HORIZONTAL=23ca 6WITH_CIRCLE=23c2 7TRIANGLE=23c5 7WAVE=23c8 3VERTICAL_AND_BOTTOM_LEFT=23cc
6RIGHT=23bf 5TOP_LEFT=23cb 6RIGHT=23be 5WAVE=23c6 4WITH_CIRCLE=23c0 5TRIANGLE=23c3
0DEPARTMENT_STORE=1f3ec 0DERELICT_HOUSE_BUILDING=1f3da 0DESCENDING_NODE=260b
0DESERET_CAPITAL_LETTER_AY=1040c 3BEE=10412 3CHEE=10415 3DEE=10414 3EF=10419 3EL=10422 3EM=10423
3EN=10424 3ENG=10425 3ER=10421 3ES=1041d 3ESH=1041f 3ETH=1041b 3EW=10427 3GAY=10418 3H=10410
3JEE=10416 3KAY=10417 3LONG_A=10402 4AH=10403 4E=10401 4I=10400 4O=10404 4OO=10405 3OI=10426
3OW=1040d 3PEE=10411 3SHORT_A=10408 4AH=10409 4E=10407 4I=10406 4O=1040a 4OO=1040b 3TEE=10413
3THEE=1041c 3VEE=1041a 3WU=1040e 3YEE=1040f 3ZEE=1041e 3ZHEE=10420 1SMALL_LETTER_AY=10434
3BEE=1043a 3CHEE=1043d 3DEE=1043c 3EF=10441 3EL=1044a 3EM=1044b 3EN=1044c 3ENG=1044d 3ER=10449
3ES=10445 3ESH=10447 3ETH=10443 3EW=1044f 3GAY=10440 3H=10438 3JEE=1043e 3KAY=1043f 3LONG_A=1042a
4AH=1042b 4E=10429 4I=10428 4O=1042c 4OO=1042d 3OI=1044e 3OW=10435 3PEE=10439 3SHORT_A=10430
4AH=10431 4E=1042f 4I=1042e 4O=10432 4OO=10433 3TEE=1043b 3THEE=10444 3VEE=10442 3WU=10436
3YEE=10437 3ZEE=10446 3ZHEE=10448 0DESERT=1f3dc 1ISLAND=1f3dd 0DESKTOP_COMPUTER=1f5a5 1WINDOW=1f5d4
0DEVANAGARI_ABBREVIATION_SIGN=970 1ACUTE_ACCENT=954 1CARET=a8fa 1DANDA=964 1DIGIT_EIGHT=96e
2FIVE=96b 2FOUR=96a 2NINE=96f 2ONE=967 2SEVEN=96d 2SIX=96c 2THREE=969 2TWO=968 2ZERO=966
1DOUBLE_DANDA=965 1GAP_FILLER=a8f9 1GRAVE_ACCENT=953 1HEADSTROKE=a8fb 1JAIN_OM=a8fd 1LETTER_A=905
2AA=906 2AI=910 2AU=914 2AW=975 2AY=a8fe 2BA=92c 2BBA=97f 2BHA=92d 2CA=91a 2CANDRA_A=972 3E=90d
3O=911 2CHA=91b 2DA=926 2DDA=921 2DDDA=97e 2DDDHA=95c 2DDHA=922 2DHA=927 2E=90f 2FA=95e 2GA=917
2GGA=97b 2GHA=918 2GHHA=95a 2GLOTTAL_STOP=97d 2HA=939 2HEAVY_YA=97a 2I=907 2II=908 2JA=91c 2JHA=91d
2JJA=97c 2KA=915 2KHA=916 2KHHA=959 2LA=932 2LLA=933 2LLLA=934 2MA=92e 2MARWARI_DDA=978 2NA=928
2NGA=919 2NNA=923 2NNNA=929 2NYA=91e 2O=913 2OE=973 2OOE=974 2PA=92a 2PHA=92b 2QA=958 2RA=930
2RHA=95d 2RRA=931 2SA=938 2SHA=936 2SHORT_A=904 3E=90e 3O=912 2SSA=937 2TA=924 2THA=925 2TTA=91f
2TTHA=920 2U=909 2UE=976 2UU=90a 2UUE=977 2VA=935 2VOCALIC_L=90c 3LL=961 3R=90b 3RR=960 2YA=92f
2YYA=95f 2ZA=95b 2ZHA=979 1OM=950 1SIGN_ANUSVARA=902 2AVAGRAHA=93d 2CANDRABINDU=901 3AVAGRAHA=a8f7
3THREE=a8f6 3TWO=a8f5 3VIRAMA=a8f3 2DOUBLE_CANDRABINDU_VIRAMA=a8f4 2HIGH_SPACING_DOT=971
2INVERTED_CANDRABINDU=900 2NUKTA=93c 2PUSHPIKA=a8f8 2SIDDHAM=a8fc 2SPACING_CANDRABINDU=a8f2
2VIRAMA=94d 2VISARGA=903 1STRESS_SIGN_ANUDATTA=952 3UDATTA=951 1VOWEL_SIGN_AA=93e 3AI=948 3AU=94c
3AW=94f 3AY=a8ff 3CANDRA_E=945 4LONG_E=955 4O=949 3E=947 3I=93f 3II=940 3O=94b 3OE=93a 3OOE=93b
3PRISHTHAMATRA_E=94e 3SHORT_E=946 4O=94a 3U=941 3UE=956 3UU=942 3UUE=957 3VOCALIC_L=962 4LL=963
4R=943 4RR=944 0DEVICE_CONTROL_FOUR=14 2ONE=11 2STRING=90 2THREE=13 2TWO=12 0DIAERESIS=a8
0DIAMETER_SIGN=2300 0DIAMOND_OPERATOR=22c4 1SHAPE_WITH_A_DOT_INSIDE=1f4a0 1TARGET=1f79c
1WITH_BOTTOM_HALF_BLACK=2b19 2LEFT_HALF_BLACK=2b16 2RIGHT_HALF_BLACK=2b17 2TOP_HALF_BLACK=2b18
0DIE_FACE-1=2680 1FACE-2=2681 1FACE-3=2682 1FACE-4=2683 1FACE-5=2684 1FACE-6=2685
0DIESEL_LOCOMOTIVE=1f6f2 0DIFFERENCE_BETWEEN=224f 0DIGIT_EIGHT=38 2COMMA=1f109 2FULL_STOP=248f
1FIVE=35 2COMMA=1f106 2FULL_STOP=248c 1FOUR=34 2COMMA=1f105 2FULL_STOP=248b 1NINE=39 2COMMA=1f10a
2FULL_STOP=2490 1ONE=31 2COMMA=1f102 2FULL_STOP=2488 1SEVEN=37 2COMMA=1f108 2FULL_STOP=248e 1SIX=36
2COMMA=1f107 2FULL_STOP=248d 1THREE=33 2COMMA=1f104 2FULL_STOP=248a 1TWO=32 2COMMA=1f103
2FULL_STOP=2489 1ZERO=30 2COMMA=1f101 2FULL_STOP=1f100 0DIGRAM_FOR_EARTH=1d305
2EARTHLY_HEAVEN=1d303 3HUMAN=1d304 2GREATER_YANG=268c 3YIN=268f 2HEAVENLY_EARTH=1d301
2HUMAN_EARTH=1d302 2LESSER_YANG=268e 3YIN=268d 0DIMENSION_ORIGIN=2331
0DINGBAT_CIRCLED_SANS-SERIF_DIGIT_EIGHT=2787 4FIVE=2784 4FOUR=2783 4NINE=2788 4ONE=2780 4SEVEN=2786
4SIX=2785 4THREE=2782 4TWO=2781 4ZERO=1f10b 3NUMBER_TEN=2789 1NEGATIVE_CIRCLED_DIGIT_EIGHT=277d
4FIVE=277a 4FOUR=2779 4NINE=277e 4ONE=2776 4SEVEN=277c 4SIX=277b 4THREE=2778 4TWO=2777
3NUMBER_TEN=277f 3SANS-SERIF_DIGIT_EIGHT=2791 5FIVE=278e 5FOUR=278d 5NINE=2792 5ONE=278a
5SEVEN=2790 5SIX=278f 5THREE=278c 5TWO=278b 5ZERO=1f10c 4NUMBER_TEN=2793
0DIRECT_CURRENT_SYMBOL_FORM_TWO=2393 1HIT=1f3af 0DISABLED_CAR=26cd
0DISAPPOINTED_BUT_RELIEVED_FACE=1f625 1FACE=1f61e 0DISCONTINUOUS_UNDERLINE_SYMBOL=2382
0DISGUISED_FACE=1f978 0DITTO_MARK=3003 0DIVES_AKURU_DIGIT_EIGHT=11958 3FIVE=11955 3FOUR=11954
3NINE=11959 3ONE=11951 3SEVEN=11957 3SIX=11956 3THREE=11953 3TWO=11952 3ZERO=11950
2DOUBLE_DANDA=11944 2END_OF_TEXT_MARK=11946 2GAP_FILLER=11945 2INITIAL_RA=11941 2LETTER_A=11900
3AA=11901 3BA=11922 3BHA=11923 3CA=11911 3CHA=11912 3DA=1191d 3DDA=11918 3DDHA=11919 3DHA=1191e
3E=11906 3GA=1190e 3GHA=1190f 3HA=1192d 3I=11902 3II=11903 3JA=11913 3KA=1190c 3KHA=1190d 3LA=11928
3LLA=1192e 3MA=11924 3NA=1191f 3NGA=11910 3NNA=1191a 3NYA=11915 3O=11909 3PA=11920 3PHA=11921
3RA=11927 3SA=1192c 3SHA=1192a 3SSA=1192b 3TA=1191b 3THA=1191c 3TTA=11916 3U=11904 3UU=11905
3VA=11929 3YA=11925 3YYA=11926 3ZA=1192f 2MEDIAL_RA=11942 3YA=11940 2PREFIXED_NASAL_SIGN=1193f
2SIGN_ANUSVARA=1193b 3CANDRABINDU=1193c 3HALANTA=1193d 3NUKTA=11943 2VIRAMA=1193e
2VOWEL_SIGN_AA=11930 4AI=11937 4E=11935 4I=11931 4II=11932 4O=11938 4U=11933 4UU=11934
0DIVIDES=2223 0DIVING_MASK=1f93f 0DIVISION_SIGN=f7 1SLASH=2215 1TIMES=22c7 0DIVORCE_SYMBOL=26ae
0DIYA_LAMP=1fa94 0DIZZY_FACE=1f635 1SYMBOL=1f4ab 0DLE=10 0DNA_DOUBLE_HELIX=1f9ec
0DO_NOT_LITTER_SYMBOL=1f6af 0DOCUMENT=1f5ce 1WITH_PICTURE=1f5bb 2TEXT=1f5b9 3AND_PICTURE=1f5ba
0DODO=1f9a4 0DOES_NOT_CONTAIN_AS_MEMBER=220c 4NORMAL_SUBGROUP=22eb 6OR_EQUAL=22ed 2DIVIDE=2224
3WITH_REVERSED_NEGATION_SLASH=2aee 2FORCE=22ae 2PRECEDE=2280 3OR_EQUAL=22e0 2PROVE=22ac
2SUCCEED=2281 3OR_EQUAL=22e1 0DOG=1f415 1FACE=1f436 0DOGRA_ABBREVIATION_SIGN=1183b 1LETTER_A=11800
2AA=11801 2AI=11807 2AU=11809 2BA=11820 2BHA=11821 2CA=1180f 2CHA=11810 2DA=1181b 2DDA=11816
2DDHA=11817 2DHA=1181c 2E=11806 2GA=1180c 2GHA=1180d 2HA=1182a 2I=11802 2II=11803 2JA=11811
2JHA=11812 2KA=1180a 2KHA=1180b 2LA=11825 2MA=11822 2NA=1181d 2NGA=1180e 2NNA=11818 2NYA=11813
2O=11808 2PA=1181e 2PHA=1181f 2RA=11824 2RRA=1182b 2SA=11829 2SHA=11827 2SSA=11828 2TA=11819
2THA=1181a 2TTA=11814 2TTHA=11815 2U=11804 2UU=11805 2VA=11826 2YA=11823 1SIGN_ANUSVARA=11837
2NUKTA=1183a 2VIRAMA=11839 2VISARGA=11838 1VOWEL_SIGN_AA=1182c 3AI=11834 3AU=11836 3E=11833
3I=1182d 3II=1182e 3O=11835 3U=1182f 3UU=11830 3VOCALIC_R=11831 4RR=11832 0DOLLAR_SIGN=24
0DOLPHIN=1f42c 0DOMINO_TILE_HORIZONTAL_BACK=1f030 2HORIZONTAL-00-00=1f031 2HORIZONTAL-00-01=1f032
2HORIZONTAL-00-02=1f033 2HORIZONTAL-00-03=1f034 2HORIZONTAL-00-04=1f035 2HORIZONTAL-00-05=1f036
2HORIZONTAL-00-06=1f037 2HORIZONTAL-01-00=1f038 2HORIZONTAL-01-01=1f039 2HORIZONTAL-01-02=1f03a
2HORIZONTAL-01-03=1f03b 2HORIZONTAL-01-04=1f03c 2HORIZONTAL-01-05=1f03d 2HORIZONTAL-01-06=1f03e
2HORIZONTAL-02-00=1f03f 2HORIZONTAL-02-01=1f040 2HORIZONTAL-02-02=1f041 2HORIZONTAL-02-03=1f042
2HORIZONTAL-02-04=1f043 2HORIZONTAL-02-05=1f044 2HORIZONTAL-02-06=1f045 2HORIZONTAL-03-00=1f046
2HORIZONTAL-03-01=1f047 2HORIZONTAL-03-02=1f048 2HORIZONTAL-03-03=1f049 2HORIZONTAL-03-04=1f04a
2HORIZONTAL-03-05=1f04b 2HORIZONTAL-03-06=1f04c 2HORIZONTAL-04-00=1f04d 2HORIZONTAL-04-01=1f04e
2HORIZONTAL-04-02=1f04f 2HORIZONTAL-04-03=1f050 2HORIZONTAL-04-04=1f051 2HORIZONTAL-04-05=1f052
2HORIZONTAL-04-06=1f053 2HORIZONTAL-05-00=1f054 2HORIZONTAL-05-01=1f055 2HORIZONTAL-05-02=1f056
2HORIZONTAL-05-03=1f057 2HORIZONTAL-05-04=1f058 2HORIZONTAL-05-05=1f059 2HORIZONTAL-05-06=1f05a
2HORIZONTAL-06-00=1f05b 2HORIZONTAL-06-01=1f05c 2HORIZONTAL-06-02=1f05d 2HORIZONTAL-06-03=1f05e
2HORIZONTAL-06-04=1f05f 2HORIZONTAL-06-05=1f060 2HORIZONTAL-06-06=1f061 2VERTICAL_BACK=1f062
2VERTICAL-00-00=1f063 2VERTICAL-00-01=1f064 2VERTICAL-00-02=1f065 2VERTICAL-00-03=1f066
2VERTICAL-00-04=1f067 2VERTICAL-00-05=1f068 2VERTICAL-00-06=1f069 2VERTICAL-01-00=1f06a
2VERTICAL-01-01=1f06b 2VERTICAL-01-02=1f06c 2VERTICAL-01-03=1f06d 2VERTICAL-01-04=1f06e
2VERTICAL-01-05=1f06f 2VERTICAL-01-06=1f070 2VERTICAL-02-00=1f071 2VERTICAL-02-01=1f072
2VERTICAL-02-02=1f073 2VERTICAL-02-03=1f074 2VERTICAL-02-04=1f075 2VERTICAL-02-05=1f076
2VERTICAL-02-06=1f077 2VERTICAL-03-00=1f078 2VERTICAL-03-01=1f079 2VERTICAL-03-02=1f07a
2VERTICAL-03-03=1f07b 2VERTICAL-03-04=1f07c 2VERTICAL-03-05=1f07d 2VERTICAL-03-06=1f07e
2VERTICAL-04-00=1f07f 2VERTICAL-04-01=1f080 2VERTICAL-04-02=1f081 2VERTICAL-04-03=1f082
2VERTICAL-04-04=1f083 2VERTICAL-04-05=1f084 2VERTICAL-04-06=1f085 2VERTICAL-05-00=1f086
2VERTICAL-05-01=1f087 2VERTICAL-05-02=1f088 2VERTICAL-05-03=1f089 2VERTICAL-05-04=1f08a
2VERTICAL-05-05=1f08b 2VERTICAL-05-06=1f08c 2VERTICAL-06-00=1f08d 2VERTICAL-06-01=1f08e
2VERTICAL-06-02=1f08f 2VERTICAL-06-03=1f090 2VERTICAL-06-04=1f091 2VERTICAL-06-05=1f092
2VERTICAL-06-06=1f093 0DONG_SIGN=20ab 0DOOR=1f6aa 0DOT_ABOVE=2d9 1MINUS=2238 1OPERATOR=22c5
1PLUS=2214 0DOTTED_CIRCLE=25cc 1CROSS=205c 1FENCE=2999 1LINE_FACE=1fae5 1OBELOS=2e13
1RIGHT-POINTING_ANGLE=2e16 1SOLIDUS=2e4a 1SQUARE=2b1a 1TRANSPOSITION_MARKER=2e08
0DOUBLE_ACUTE_ACCENT=2dd 1CIRCLED_DIGIT_EIGHT=24fc 3FIVE=24f9 3FOUR=24f8 3NINE=24fd 3ONE=24f5
3SEVEN=24fb 3SIX=24fa 3THREE=24f7 3TWO=24f6 2NUMBER_TEN=24fe 1COLON_EQUAL=2a74 1CURLY_LOOP=27bf
1DAGGER=2021 1DOWN_TACK=2aea 1EXCLAMATION_MARK=203c 1HIGH-REVERSED-9_QUOTATION_MARK=201f
1HYPHEN=2e40 1INTEGRAL=222c 1INTERSECTION=22d2 1LEFT_ARC_GREATER-THAN_BRACKET=2995
1LOGICAL_AND=2a53 2OR=2a54 1LOW_LINE=2017 1LOW-9_QUOTATION_MARK=201e
1LOW-REVERSED-9_QUOTATION_MARK=2e42 1NESTED_GREATER-THAN=2aa2 2LESS-THAN=2aa1 3WITH_UNDERBAR=2aa3
1OBLIQUE_HYPHEN=2e17 1PLUS=29fa 1PRECEDES=2abb 1PRIME=2033 2QUOTATION_MARK=301e 1QUESTION_MARK=2047
1RIGHT_ARC_LESS-THAN_BRACKET=2996 1SOLIDUS_OPERATOR=2afd 1SQUARE_INTERSECTION=2a4e 2UNION=2a4f
1STACKED_COMMA=2e49 1STROKE_NOT_SIGN=2aec 1SUBSET=22d0 1SUCCEEDS=2abc 1SUPERSET=22d1
1SUSPENSION_MARK=2e44 1UNION=22d3 1UP_TACK=2aeb 1VERTICAL_BAR=23f8 3DOUBLE_LEFT_TURNSTILE=2ae5
4RIGHT_TURNSTILE=22ab 3LEFT_TURNSTILE=2ae3 2LINE=2016 1WAVY_OVERLINE=fe4c
0DOUBLE-ENDED_MULTIMAP=29df 0DOUBLE-LINE_EQUAL_TO_OR_GREATER-THAN=2a9a 4LESS-THAN=2a99
1SLANTED_EQUAL_TO_OR_GREATER-THAN=2a9c 5LESS-THAN=2a9b 2GREATER-THAN_OR_EQUAL_TO=2afa
2LESS-THAN_OR_EQUAL_TO=2af9 0DOUBLE-STRUCK_CAPITAL_C=2102 2GAMMA=213e 2H=210d 2N=2115 2P=2119
2PI=213f 2Q=211a 2R=211d 2Z=2124 1ITALIC_CAPITAL_D=2145 2SMALL_D=2146 3E=2147 3I=2148 3J=2149
1N-ARY_SUMMATION=2140 1SMALL_GAMMA=213d 2PI=213c 0DOUBLED_FEMALE_SIGN=26a2 1MALE_SIGN=26a3
1SYMBOL=2bfc 0DOUGHNUT=1f369 0DOVE_OF_PEACE=1f54a 0DOWN_ARROWHEAD=2304 1FISH_TAIL=297f
1RIGHT_DIAGONAL_ELLIPSIS=22f1 1TACK=22a4 2WITH_CIRCLE_BELOW=2af1 0DOWN-POINTING_RED_TRIANGLE=1f53b
1SMALL_RED_TRIANGLE=1f53d 1TRIANGLE_WITH_LEFT_HALF_BLACK=29e8 3RIGHT_HALF_BLACK=29e9
0DOWNWARD_FACING_HOOK=1f908 3WITH_DOT=1f90a 2NOTCHED_HOOK=1f909 4WITH_DOT=1f90b
0DOWNWARDS_ANCORA=2e14 1ARROW=2193 2AND_RIGHT_ONE_EIGHTH_BLOCK=1fbb7 2FROM_BAR=21a7
2LEFTWARDS_OF_UPWARDS_ARROW=21f5 2TO_BAR=2913 2WITH_CORNER_LEFTWARDS=21b5 3DOUBLE_STROKE=21df
3EQUILATERAL_ARROWHEAD=1f817 3HORIZONTAL_STROKE=2908 3LARGE_TRIANGLE_ARROWHEAD=1f80b
3MEDIUM_TRIANGLE_ARROWHEAD=1f807 3NOTCHED_TAIL=1f89b 3SMALL_EQUILATERAL_ARROWHEAD=1f813
4TRIANGLE_ARROWHEAD=1f803 3TIP_LEFTWARDS=21b2 4RIGHTWARDS=21b3 1BLACK_ARROW=2b07
2CIRCLED_WHITE_ARROW=2b8b 1COMPRESSED_ARROW=1f83f 1DASHED_ARROW=21e3 1DOUBLE_ARROW=21d3
1FINGER-POST_ARROW=1f837 1HARPOON_WITH_BARB_LEFT_BESIDE_DOWNWARDS_HARPOON_WITH_BARB_RIGHT=2965
6UPWARDS_HARPOON_WITH_BARB_RIGHT=296f 5FROM_BAR=2961 5TO_BAR=2959 4LEFTWARDS=21c3
4RIGHT_FROM_BAR=295d 5TO_BAR=2955 4RIGHTWARDS=21c2 1HEAVY_ARROW=1f847 2COMPRESSED_ARROW=1f843
1PAIRED_ARROWS=21ca 1QUADRUPLE_ARROW=27f1 1ROCKET=1f66f 1SANS-SERIF_ARROW=1f853
1SQUARED_ARROW=1f83b 1TRIANGLE_ARROWHEAD=1f893 1TRIANGLE-HEADED_ARROW=2b63
3LEFTWARDS_OF_UPWARDS_TRIANGLE-HEADED_ARROW=2b83 3TO_BAR=2b73 3WITH_BOLD_SHAFT=1f82b
4DOUBLE_HORIZONTAL_STROKE=2b7d 4HEAVY_SHAFT=1f82f 4LONG_TIP_LEFTWARDS=2ba0 6RIGHTWARDS=2ba1
4MEDIUM_SHAFT=1f827 4NARROW_SHAFT=1f823 4VERY_HEAVY_SHAFT=1f833 2DASHED_ARROW=2b6d
2PAIRED_ARROWS=2b87 2ZIGZAG_ARROW=2b4d 1TRIPLE_ARROW=290b 1TWO_HEADED_ARROW=21a1
1TWO-HEADED_ARROW_WITH_TRIANGLE_ARROWHEADS=2bef 1WHITE_ARROW=21e9 3WITHIN_TRIANGLE_ARROWHEAD=1f897
1ZIGZAG_ARROW=21af 0DRACHMA_SIGN=20af 0DRAFTING_POINT_RIGHTWARDS_ARROW=279b 0DRAGON=1f409
1FACE=1f432 0DRESS=1f457 0DRIVE_SLOW_SIGN=26da 0DROMEDARY_CAMEL=1f42a 0DROOLING_FACE=1f924
0DROP_OF_BLOOD=1fa78 0DROPLET=1f4a7 0DRUM_WITH_DRUMSTICKS=1f941 0DUCK=1f986 0DUMPLING=1f95f
0DUPLOYAN_AFFIX_ATTACHED_E_HOOK=1bc7a 3I_HOOK=1bc7b 3LEFT-TO-RIGHT_SECANT=1bc77 3SECANT=1bc76
3TAIL=1bc79 3TANGENT=1bc78 4HOOK=1bc7c 2HIGH_ACUTE=1bc80 3CIRCLE=1bc85 3DOT=1bc84 3GRAVE=1bc82
3LINE=1bc86 3LONG_GRAVE=1bc83 3TIGHT_ACUTE=1bc81 3VERTICAL=1bc88 4SECANT=1bc75 3WAVE=1bc87
2LEFT_HORIZONTAL_SECANT=1bc70 2LOW_ACUTE=1bc90 3ARROW=1bc99 3CIRCLE=1bc95 3DOT=1bc94 3GRAVE=1bc92
3LINE=1bc96 3LONG_GRAVE=1bc93 3TIGHT_ACUTE=1bc91 3VERTICAL=1bc98 4SECANT=1bc73 3WAVE=1bc97
2MID_HORIZONTAL_SECANT=1bc71 3VERTICAL_SECANT=1bc74 2RIGHT_HORIZONTAL_SECANT=1bc72
1DOUBLE_MARK=1bc9e 1LETTER_A=1bc41 2AOU=1bc45 2B=1bc07 2D=1bc08 3S=1bc0d 2DH=1bc13 2E=1bc47
2EE=1bc4b 2EU=1bc52 2F=1bc04 3N=1bc0e 2G=1bc0a 3R_S=1bc3e 2H=1bc00 2HL=1bc16 2I=1bc46 2IE=1bc48
2J=1bc1b 3M=1bc1f 4S=1bc2d 3N=1bc30 4S=1bc31 3S=1bc29 4WITH_DOT=1bc2f 3WITH_DOT=1bc23
4DOTS_INSIDE_AND_ABOVE=1bc24 2K=1bc05 3M=1bc0f 3R_S=1bc3d 2KK=1bc14 2L=1bc06 2LH=1bc17
2LONG_I=1bc4f 3U=1bc55 2M=1bc19 3N=1bc1d 4S=1bc2b 3S=1bc27 3WITH_DOT=1bc21 2N=1bc1a 3M=1bc1e
4S=1bc2c 3S=1bc28 3WITH_DOT=1bc22 2NASAL_A=1bc64 3I=1bc63 3O=1bc62 3U=1bc61 2O=1bc44 2OA=1bc43
2OOH=1bc59 2OU=1bc5b 2OW=1bc5a 2P=1bc02 3N=1bc0c 2PERNIN_AM=1bc66 3AN=1bc65 2R=1bc0b 3S=1bc10
2RH=1bc18 2ROMANIAN_I=1bc4d 3U=1bc56 2S=1bc1c 3J=1bc20 4S=1bc2e 3K=1bc3f 4R=1bc40 3M=1bc3c 3N=1bc3b
3P=1bc34 4R=1bc35 3S=1bc2a 3T=1bc32 4R=1bc33 3WITH_DOT=1bc25 5BELOW=1bc26 2SHORT_I=1bc49
2SLOAN_AN=1bc68 3DH=1bc12 3EE=1bc4e 3EH=1bc4c 3EN=1bc67 3J=1bc15 3ON=1bc69 3OW=1bc42 3U=1bc58
2T=1bc03 3R_S=1bc37 3S=1bc36 2TH=1bc11 2U=1bc51 3N=1bc54 2UH=1bc57 2UI=1bc4a 2V=1bc09
2VOCALIC_M=1bc6a 2W=1bc38 3R=1bc3a 2WA=1bc5c 2WEI=1bc5f 2WH=1bc39 2WI=1bc5e 2WO=1bc5d 2WOW=1bc60
2X=1bc01 2XW=1bc53 2YE=1bc50 1PUNCTUATION_CHINOOK_FULL_STOP=1bc9f 1SIGN_O_WITH_CROSS=1bc9c
1THICK_LETTER_SELECTOR=1bc9d 0DVD=1f4c0"

/-- Names that begin with `E`. -/
def namesE : String :=
  "0E-MAIL_SYMBOL=1f4e7 0EAGLE=1f985 0EAR=1f442 1OF_MAIZE=1f33d 2RICE=1f33e 1WITH_HEARING_AID=1f9bb
0EARTH=2641 1GLOBE_AMERICAS=1f30e 2ASIA-AUSTRALIA=1f30f 2EUROPE-AFRICA=1f30d 1GROUND=23da
0EAST_SYRIAC_CROSS=2671 0EDITORIAL_CORONIS=2e0e 0EGG=1f95a 0EGYPTIAN_HIEROGLYPH_A001=13000
2A002=13001 2A003=13002 2A004=13003 2A005=13004 2A005A=13005 2A006=13006 2A006A=13007 2A006B=13008
2A007=13009 2A008=1300a 2A009=1300b 2A010=1300c 2A011=1300d 2A012=1300e 2A013=1300f 2A014=13010
2A014A=13011 2A015=13012 2A016=13013 2A017=13014 2A017A=13015 2A018=13016 2A019=13017 2A020=13018
2A021=13019 2A022=1301a 2A023=1301b 2A024=1301c 2A025=1301d 2A026=1301e 2A027=1301f 2A028=13020
2A029=13021 2A030=13022 2A031=13023 2A032=13024 2A032A=13025 2A033=13026 2A034=13027 2A035=13028
2A036=13029 2A037=1302a 2A038=1302b 2A039=1302c 2A040=1302d 2A040A=1302e 2A041=1302f 2A042=13030
2A042A=13031 2A043=13032 2A043A=13033 2A044=13034 2A045=13035 2A045A=13036 2A046=13037 2A047=13038
2A048=13039 2A049=1303a 2A050=1303b 2A051=1303c 2A052=1303d 2A053=1303e 2A054=1303f 2A055=13040
2A056=13041 2A057=13042 2A058=13043 2A059=13044 2A060=13045 2A061=13046 2A062=13047 2A063=13048
2A064=13049 2A065=1304a 2A066=1304b 2A067=1304c 2A068=1304d 2A069=1304e 2A070=1304f 2AA001=1340d
2AA002=1340e 2AA003=1340f 2AA004=13410 2AA005=13411 2AA006=13412 2AA007=13413 2AA007A=13414
2AA007B=13415 2AA008=13416 2AA009=13417 2AA010=13418 2AA011=13419 2AA012=1341a 2AA013=1341b
2AA014=1341c 2AA015=1341d 2AA016=1341e 2AA017=1341f 2AA018=13420 2AA019=13421 2AA020=13422
2AA021=13423 2AA022=13424 2AA023=13425 2AA024=13426 2AA025=13427 2AA026=13428 2AA027=13429
2AA028=1342a 2AA029=1342b 2AA030=1342c 2AA031=1342d 2AA032=1342e 2B001=13050 2B002=13051
2B003=13052 2B004=13053 2B005=13054 2B005A=13055 2B006=13056 2B007=13057 2B008=13058 2B009=13059
2BEGIN_SEGMENT=13437 2C001=1305a 2C002=1305b 2C002A=1305c 2C002B=1305d 2C002C=1305e 2C003=1305f
2C004=13060 2C005=13061 2C006=13062 2C007=13063 2C008=13064 2C009=13065 2C010=13066 2C010A=13067
2C011=13068 2C012=13069 2C013=1306a 2C014=1306b 2C015=1306c 2C016=1306d 2C017=1306e 2C018=1306f
2C019=13070 2C020=13071 2C021=13072 2C022=13073 2C023=13074 2C024=13075 2D001=13076 2D002=13077
2D003=13078 2D004=13079 2D005=1307a 2D006=1307b 2D007=1307c 2D008=1307d 2D008A=1307e 2D009=1307f
2D010=13080 2D011=13081 2D012=13082 2D013=13083 2D014=13084 2D015=13085 2D016=13086 2D017=13087
2D018=13088 2D019=13089 2D020=1308a 2D021=1308b 2D022=1308c 2D023=1308d 2D024=1308e 2D025=1308f
2D026=13090 2D027=13091 2D027A=13092 2D028=13093 2D029=13094 2D030=13095 2D031=13096 2D031A=13097
2D032=13098 2D033=13099 2D034=1309a 2D034A=1309b 2D035=1309c 2D036=1309d 2D037=1309e 2D038=1309f
2D039=130a0 2D040=130a1 2D041=130a2 2D042=130a3 2D043=130a4 2D044=130a5 2D045=130a6 2D046=130a7
2D046A=130a8 2D047=130a9 2D048=130aa 2D048A=130ab 2D049=130ac 2D050=130ad 2D050A=130ae 2D050B=130af
2D050C=130b0 2D050D=130b1 2D050E=130b2 2D050F=130b3 2D050G=130b4 2D050H=130b5 2D050I=130b6
2D051=130b7 2D052=130b8 2D052A=130b9 2D053=130ba 2D054=130bb 2D054A=130bc 2D055=130bd 2D056=130be
2D057=130bf 2D058=130c0 2D059=130c1 2D060=130c2 2D061=130c3 2D062=130c4 2D063=130c5 2D064=130c6
2D065=130c7 2D066=130c8 2D067=130c9 2D067A=130ca 2D067B=130cb 2D067C=130cc 2D067D=130cd
2D067E=130ce 2D067F=130cf 2D067G=130d0 2D067H=130d1 2E001=130d2 2E002=130d3 2E003=130d4 2E004=130d5
2E005=130d6 2E006=130d7 2E007=130d8 2E008=130d9 2E008A=130da 2E009=130db 2E009A=130dc 2E010=130dd
2E011=130de 2E012=130df 2E013=130e0 2E014=130e1 2E015=130e2 2E016=130e3 2E016A=130e4 2E017=130e5
2E017A=130e6 2E018=130e7 2E019=130e8 2E020=130e9 2E020A=130ea 2E021=130eb 2E022=130ec 2E023=130ed
2E024=130ee 2E025=130ef 2E026=130f0 2E027=130f1 2E028=130f2 2E028A=130f3 2E029=130f4 2E030=130f5
2E031=130f6 2E032=130f7 2E033=130f8 2E034=130f9 2E034A=130fa 2E036=130fb 2E037=130fc 2E038=130fd
2END_SEGMENT=13438 2F001=130fe 2F001A=130ff 2F002=13100 2F003=13101 2F004=13102 2F005=13103
2F006=13104 2F007=13105 2F008=13106 2F009=13107 2F010=13108 2F011=13109 2F012=1310a 2F013=1310b
2F013A=1310c 2F014=1310d 2F015=1310e 2F016=1310f 2F017=13110 2F018=13111 2F019=13112 2F020=13113
2F021=13114 2F021A=13115 2F022=13116 2F023=13117 2F024=13118 2F025=13119 2F026=1311a 2F027=1311b
2F028=1311c 2F029=1311d 2F030=1311e 2F031=1311f 2F031A=13120 2F032=13121 2F033=13122 2F034=13123
2F035=13124 2F036=13125 2F037=13126 2F037A=13127 2F038=13128 2F038A=13129 2F039=1312a 2F040=1312b
2F041=1312c 2F042=1312d 2F043=1312e 2F044=1312f 2F045=13130 2F045A=13131 2F046=13132 2F046A=13133
2F047=13134 2F047A=13135 2F048=13136 2F049=13137 2F050=13138 2F051=13139 2F051A=1313a 2F051B=1313b
2F051C=1313c 2F052=1313d 2F053=1313e 2G001=1313f 2G002=13140 2G003=13141 2G004=13142 2G005=13143
2G006=13144 2G006A=13145 2G007=13146 2G007A=13147 2G007B=13148 2G008=13149 2G009=1314a 2G010=1314b
2G011=1314c 2G011A=1314d 2G012=1314e 2G013=1314f 2G014=13150 2G015=13151 2G016=13152 2G017=13153
2G018=13154 2G019=13155 2G020=13156 2G020A=13157 2G021=13158 2G022=13159 2G023=1315a 2G024=1315b
2G025=1315c 2G026=1315d 2G026A=1315e 2G027=1315f 2G028=13160 2G029=13161 2G030=13162 2G031=13163
2G032=13164 2G033=13165 2G034=13166 2G035=13167 2G036=13168 2G036A=13169 2G037=1316a 2G037A=1316b
2G038=1316c 2G039=1316d 2G040=1316e 2G041=1316f 2G042=13170 2G043=13171 2G043A=13172 2G044=13173
2G045=13174 2G045A=13175 2G046=13176 2G047=13177 2G048=13178 2G049=13179 2G050=1317a 2G051=1317b
2G052=1317c 2G053=1317d 2G054=1317e 2H001=1317f 2H002=13180 2H003=13181 2H004=13182 2H005=13183
2H006=13184 2H006A=13185 2H007=13186 2H008=13187 2HORIZONTAL_JOINER=13431 2I001=13188 2I002=13189
2I003=1318a 2I004=1318b 2I005=1318c 2I005A=1318d 2I006=1318e 2I007=1318f 2I008=13190 2I009=13191
2I009A=13192 2I010=13193 2I010A=13194 2I011=13195 2I011A=13196 2I012=13197 2I013=13198 2I014=13199
2I015=1319a 2INSERT_AT_BOTTOM_END=13435 5START=13433 4TOP_END=13434 5START=13432 2K001=1319b
2K002=1319c 2K003=1319d 2K004=1319e 2K005=1319f 2K006=131a0 2K007=131a1 2K008=131a2 2L001=131a3
2L002=131a4 2L002A=131a5 2L003=131a6 2L004=131a7 2L005=131a8 2L006=131a9 2L006A=131aa 2L007=131ab
2L008=131ac 2M001=131ad 2M001A=131ae 2M001B=131af 2M002=131b0 2M003=131b1 2M003A=131b2 2M004=131b3
2M005=131b4 2M006=131b5 2M007=131b6 2M008=131b7 2M009=131b8 2M010=131b9 2M010A=131ba 2M011=131bb
2M012=131bc 2M012A=131bd 2M012B=131be 2M012C=131bf 2M012D=131c0 2M012E=131c1 2M012F=131c2
2M012G=131c3 2M012H=131c4 2M013=131c5 2M014=131c6 2M015=131c7 2M015A=131c8 2M016=131c9 2M016A=131ca
2M017=131cb 2M017A=131cc 2M018=131cd 2M019=131ce 2M020=131cf 2M021=131d0 2M022=131d1 2M022A=131d2
2M023=131d3 2M024=131d4 2M024A=131d5 2M025=131d6 2M026=131d7 2M027=131d8 2M028=131d9 2M028A=131da
2M029=131db 2M030=131dc 2M031=131dd 2M031A=131de 2M032=131df 2M033=131e0 2M033A=131e1 2M033B=131e2
2M034=131e3 2M035=131e4 2M036=131e5 2M037=131e6 2M038=131e7 2M039=131e8 2M040=131e9 2M040A=131ea
2M041=131eb 2M042=131ec 2M043=131ed 2M044=131ee 2N001=131ef 2N002=131f0 2N003=131f1 2N004=131f2
2N005=131f3 2N006=131f4 2N007=131f5 2N008=131f6 2N009=131f7 2N010=131f8 2N011=131f9 2N012=131fa
2N013=131fb 2N014=131fc 2N015=131fd 2N016=131fe 2N017=131ff 2N018=13200 2N018A=13201 2N018B=13202
2N019=13203 2N020=13204 2N021=13205 2N022=13206 2N023=13207 2N024=13208 2N025=13209 2N025A=1320a
2N026=1320b 2N027=1320c 2N028=1320d 2N029=1320e 2N030=1320f 2N031=13210 2N032=13211 2N033=13212
2N033A=13213 2N034=13214 2N034A=13215 2N035=13216 2N035A=13217 2N036=13218 2N037=13219 2N037A=1321a
2N038=1321b 2N039=1321c 2N040=1321d 2N041=1321e 2N042=1321f 2NL001=13220 2NL002=13221 2NL003=13222
2NL004=13223 2NL005=13224 2NL005A=13225 2NL006=13226 2NL007=13227 2NL008=13228 2NL009=13229
2NL010=1322a 2NL011=1322b 2NL012=1322c 2NL013=1322d 2NL014=1322e 2NL015=1322f 2NL016=13230
2NL017=13231 2NL017A=13232 2NL018=13233 2NL019=13234 2NL020=13235 2NU001=13236 2NU002=13237
2NU003=13238 2NU004=13239 2NU005=1323a 2NU006=1323b 2NU007=1323c 2NU008=1323d 2NU009=1323e
2NU010=1323f 2NU010A=13240 2NU011=13241 2NU011A=13242 2NU012=13243 2NU013=13244 2NU014=13245
2NU015=13246 2NU016=13247 2NU017=13248 2NU018=13249 2NU018A=1324a 2NU019=1324b 2NU020=1324c
2NU021=1324d 2NU022=1324e 2NU022A=1324f 2O001=13250 2O001A=13251 2O002=13252 2O003=13253
2O004=13254 2O005=13255 2O005A=13256 2O006=13257 2O006A=13258 2O006B=13259 2O006C=1325a
2O006D=1325b 2O006E=1325c 2O006F=1325d 2O007=1325e 2O008=1325f 2O009=13260 2O010=13261 2O010A=13262
2O010B=13263 2O010C=13264 2O011=13265 2O012=13266 2O013=13267 2O014=13268 2O015=13269 2O016=1326a
2O017=1326b 2O018=1326c 2O019=1326d 2O019A=1326e 2O020=1326f 2O020A=13270 2O021=13271 2O022=13272
2O023=13273 2O024=13274 2O024A=13275 2O025=13276 2O025A=13277 2O026=13278 2O027=13279 2O028=1327a
2O029=1327b 2O029A=1327c 2O030=1327d 2O030A=1327e 2O031=1327f 2O032=13280 2O033=13281 2O033A=13282
2O034=13283 2O035=13284 2O036=13285 2O036A=13286 2O036B=13287 2O036C=13288 2O036D=13289 2O037=1328a
2O038=1328b 2O039=1328c 2O040=1328d 2O041=1328e 2O042=1328f 2O043=13290 2O044=13291 2O045=13292
2O046=13293 2O047=13294 2O048=13295 2O049=13296 2O050=13297 2O050A=13298 2O050B=13299 2O051=1329a
2OVERLAY_MIDDLE=13436 2P001=1329b 2P001A=1329c 2P002=1329d 2P003=1329e 2P003A=1329f 2P004=132a0
2P005=132a1 2P006=132a2 2P007=132a3 2P008=132a4 2P009=132a5 2P010=132a6 2P011=132a7 2Q001=132a8
2Q002=132a9 2Q003=132aa 2Q004=132ab 2Q005=132ac 2Q006=132ad 2Q007=132ae 2R001=132af 2R002=132b0
2R002A=132b1 2R003=132b2 2R003A=132b3 2R003B=132b4 2R004=132b5 2R005=132b6 2R006=132b7 2R007=132b8
2R008=132b9 2R009=132ba 2R010=132bb 2R010A=132bc 2R011=132bd 2R012=132be 2R013=132bf 2R014=132c0
2R015=132c1 2R016=132c2 2R016A=132c3 2R017=132c4 2R018=132c5 2R019=132c6 2R020=132c7 2R021=132c8
2R022=132c9 2R023=132ca 2R024=132cb 2R025=132cc 2R026=132cd 2R027=132ce 2R028=132cf 2R029=132d0
2S001=132d1 2S002=132d2 2S002A=132d3 2S003=132d4 2S004=132d5 2S005=132d6 2S006=132d7 2S006A=132d8
2S007=132d9 2S008=132da 2S009=132db 2S010=132dc 2S011=132dd 2S012=132de 2S013=132df 2S014=132e0
2S014A=132e1 2S014B=132e2 2S015=132e3 2S016=132e4 2S017=132e5 2S017A=132e6 2S018=132e7 2S019=132e8
2S020=132e9 2S021=132ea 2S022=132eb 2S023=132ec 2S024=132ed 2S025=132ee 2S026=132ef 2S026A=132f0
2S026B=132f1 2S027=132f2 2S028=132f3 2S029=132f4 2S030=132f5 2S031=132f6 2S032=132f7 2S033=132f8
2S034=132f9 2S035=132fa 2S035A=132fb 2S036=132fc 2S037=132fd 2S038=132fe 2S039=132ff 2S040=13300
2S041=13301 2S042=13302 2S043=13303 2S044=13304 2S045=13305 2S046=13306 2T001=13307 2T002=13308
2T003=13309 2T003A=1330a 2T004=1330b 2T005=1330c 2T006=1330d 2T007=1330e 2T007A=1330f 2T008=13310
2T008A=13311 2T009=13312 2T009A=13313 2T010=13314 2T011=13315 2T011A=13316 2T012=13317 2T013=13318
2T014=13319 2T015=1331a 2T016=1331b 2T016A=1331c 2T017=1331d 2T018=1331e 2T019=1331f 2T020=13320
2T021=13321 2T022=13322 2T023=13323 2T024=13324 2T025=13325 2T026=13326 2T027=13327 2T028=13328
2T029=13329 2T030=1332a 2T031=1332b 2T032=1332c 2T032A=1332d 2T033=1332e 2T033A=1332f 2T034=13330
2T035=13331 2T036=13332 2U001=13333 2U002=13334 2U003=13335 2U004=13336 2U005=13337 2U006=13338
2U006A=13339 2U006B=1333a 2U007=1333b 2U008=1333c 2U009=1333d 2U010=1333e 2U011=1333f 2U012=13340
2U013=13341 2U014=13342 2U015=13343 2U016=13344 2U017=13345 2U018=13346 2U019=13347 2U020=13348
2U021=13349 2U022=1334a 2U023=1334b 2U023A=1334c 2U024=1334d 2U025=1334e 2U026=1334f 2U027=13350
2U028=13351 2U029=13352 2U029A=13353 2U030=13354 2U031=13355 2U032=13356 2U032A=13357 2U033=13358
2U034=13359 2U035=1335a 2U036=1335b 2U037=1335c 2U038=1335d 2U039=1335e 2U040=1335f 2U041=13360
2U042=13361 2V001=13362 2V001A=13363 2V001B=13364 2V001C=13365 2V001D=13366 2V001E=13367
2V001F=13368 2V001G=13369 2V001H=1336a 2V001I=1336b 2V002=1336c 2V002A=1336d 2V003=1336e
2V004=1336f 2V005=13370 2V006=13371 2V007=13372 2V007A=13373 2V007B=13374 2V008=13375 2V009=13376
2V010=13377 2V011=13378 2V011A=13379 2V011B=1337a 2V011C=1337b 2V012=1337c 2V012A=1337d
2V012B=1337e 2V013=1337f 2V014=13380 2V015=13381 2V016=13382 2V017=13383 2V018=13384 2V019=13385
2V020=13386 2V020A=13387 2V020B=13388 2V020C=13389 2V020D=1338a 2V020E=1338b 2V020F=1338c
2V020G=1338d 2V020H=1338e 2V020I=1338f 2V020J=13390 2V020K=13391 2V020L=13392 2V021=13393
2V022=13394 2V023=13395 2V023A=13396 2V024=13397 2V025=13398 2V026=13399 2V027=1339a 2V028=1339b
2V028A=1339c 2V029=1339d 2V029A=1339e 2V030=1339f 2V030A=133a0 2V031=133a1 2V031A=133a2 2V032=133a3
2V033=133a4 2V033A=133a5 2V034=133a6 2V035=133a7 2V036=133a8 2V037=133a9 2V037A=133aa 2V038=133ab
2V039=133ac 2V040=133ad 2V040A=133ae 2VERTICAL_JOINER=13430 2W001=133af 2W002=133b0 2W003=133b1
2W003A=133b2 2W004=133b3 2W005=133b4 2W006=133b5 2W007=133b6 2W008=133b7 2W009=133b8 2W009A=133b9
2W010=133ba 2W010A=133bb 2W011=133bc 2W012=133bd 2W013=133be 2W014=133bf 2W014A=133c0 2W015=133c1
2W016=133c2 2W017=133c3 2W017A=133c4 2W018=133c5 2W018A=133c6 2W019=133c7 2W020=133c8 2W021=133c9
2W022=133ca 2W023=133cb 2W024=133cc 2W024A=133cd 2W025=133ce 2X001=133cf 2X002=133d0 2X003=133d1
2X004=133d2 2X004A=133d3 2X004B=133d4 2X005=133d5 2X006=133d6 2X006A=133d7 2X007=133d8 2X008=133d9
2X008A=133da 2Y001=133db 2Y001A=133dc 2Y002=133dd 2Y003=133de 2Y004=133df 2Y005=133e0 2Y006=133e1
2Y007=133e2 2Y008=133e3 2Z001=133e4 2Z002=133e5 2Z002A=133e6 2Z002B=133e7 2Z002C=133e8 2Z002D=133e9
2Z003=133ea 2Z003A=133eb 2Z003B=133ec 2Z004=133ed 2Z004A=133ee 2Z005=133ef 2Z005A=133f0 2Z006=133f1
2Z007=133f2 2Z008=133f3 2Z009=133f4 2Z010=133f5 2Z011=133f6 2Z012=133f7 2Z013=133f8 2Z014=133f9
2Z015=133fa 2Z015A=133fb 2Z015B=133fc 2Z015C=133fd 2Z015D=133fe 2Z015E=133ff 2Z015F=13400
2Z015G=13401 2Z015H=13402 2Z015I=13403 2Z016=13404 2Z016A=13405 2Z016B=13406 2Z016C=13407
2Z016D=13408 2Z016E=13409 2Z016F=1340a 2Z016G=1340b 2Z016H=1340c
0EIGHT_PETALLED_OUTLINED_BLACK_FLORETTE=2741 1POINTED_BLACK_STAR=2734 2PINWHEEL_STAR=2735
2RECTILINEAR_BLACK_STAR=2737 1SPOKED_ASTERISK=2733 1TEARDROP-SPOKED_PROPELLER_ASTERISK=274a
0EIGHTH_NOTE=266a 0EJECT_SYMBOL=23cf 0ELBASAN_LETTER_A=10500 2BE=10501 2CE=10502 2CHE=10503
2DE=10504 2DHE=10506 2E=10508 2EI=10507 2FE=10509 2GE=1050a 2GHAMMA=10526 2GHE=10525 2GJE=1050b
2HE=1050c 2I=1050d 2JE=1050e 2KE=1050f 2KHE=10527 2LE=10510 2LLE=10511 2ME=10512 2NA=10514
2NDE=10505 2NE=10513 2NJE=10515 2O=10516 2PE=10517 2QE=10518 2RE=10519 2RRE=1051a 2SE=1051b
2SHE=1051c 2TE=1051d 2THE=1051e 2U=1051f 2VE=10520 2XE=10521 2Y=10522 2ZE=10523 2ZHE=10524
0ELECTRIC_ARROW=2301 1LIGHT_BULB=1f4a1 1PLUG=1f50c 1TORCH=1f526 0ELECTRICAL_INTERSECTION=23e7
0ELEMENT_OF=2208 2OPENING_DOWNWARDS=2ad9 3UPWARDS=27d2 2WITH_DOT_ABOVE=22f5
3LONG_HORIZONTAL_STROKE=22f2 3OVERBAR=22f6 3TWO_HORIZONTAL_STROKES=22f9 3UNDERBAR=22f8
3VERTICAL_BAR_AT_END_OF_HORIZONTAL_STROKE=22f3 0ELEPHANT=1f418 0ELEVATOR=1f6d7 0ELF=1f9dd
0ELYMAIC_LETTER_ALEPH=10fe0 2AYIN=10fef 2BETH=10fe1 2DALETH=10fe3 2GIMEL=10fe2 2HE=10fe4
2HETH=10fe7 2KAPH=10fea 2LAMEDH=10feb 2MEM=10fec 2NUN=10fed 2PE=10ff0 2QOPH=10ff2 2RESH=10ff3
2SADHE=10ff1 2SAMEKH=10fee 2SHIN=10ff4 2TAW=10ff5 2TETH=10fe8 2WAW=10fe5 2YODH=10fe9 2ZAYIN=10fe6
1LIGATURE_ZAYIN-YODH=10ff6 0EM_DASH=2014 1QUAD=2001 1SPACE=2003 0EMOJI_COMPONENT_BALD=1f9b2
2CURLY_HAIR=1f9b1 2RED_HAIR=1f9b0 2WHITE_HAIR=1f9b3 1MODIFIER_FITZPATRICK_TYPE-1-2=1f3fb
3TYPE-3=1f3fc 3TYPE-4=1f3fd 3TYPE-5=1f3fe 3TYPE-6=1f3ff 0EMPHASIS_SYMBOL=2383 0EMPTY_DOCUMENT=1f5cb
1NEST=1fab9 1NOTE=1f5c5 2PAD=1f5c7 2PAGE=1f5c6 1PAGE=1f5cc 1PAGES=1f5cd 1SET=2205
2WITH_LEFT_ARROW_ABOVE=29b4 3OVERBAR=29b1 3RIGHT_ARROW_ABOVE=29b3 3SMALL_CIRCLE_ABOVE=29b2
0EN_DASH=2013 1QUAD=2000 1SPACE=2002 0END_OF_GUARDED_AREA=97 2LINE=a 2MEDIUM=19 2PROOF=220e
2PROTECTED_AREA=97 2SELECTED_AREA=87 2TEXT=3 2TRANSMISSION=4 3BLOCK=17
1WITH_LEFTWARDS_ARROW_ABOVE=1f51a 0ENQ=5 0ENQUIRY=5 0ENTER_SYMBOL=2386 0ENVELOPE=2709
1WITH_DOWNWARDS_ARROW_ABOVE=1f4e9 2LIGHTNING=1f584 0EOL=a 0EOM=19 0EOT=4 0EPA=97
0EQUAL_AND_PARALLEL_TO=22d5 1TO_BY_DEFINITION=225d 2OR_GREATER-THAN=22dd 3LESS-THAN=22dc
3PRECEDES=22de 3SUCCEEDS=22df 0EQUALS_COLON=2255 1SIGN=3d 2ABOVE_LEFTWARDS_ARROW=2b40
3PLUS_SIGN=2a71 3RIGHTWARDS_ARROW=2971 3TILDE_OPERATOR=2a73 2AND_SLANTED_PARALLEL=29e3
5WITH_TILDE_ABOVE=29e4 2WITH_BUMPY_ABOVE=2aae 3DOT_BELOW=2a66 3INFINITY_BELOW=2bf9
3TWO_DOTS_ABOVE_AND_TWO_DOTS_BELOW=2a77 1WITH_ASTERISK=2a6e 0EQUIANGULAR_TO=225a
0EQUIVALENT_TO=224d 1WITH_FOUR_DOTS_ABOVE=2a78 0ERASE_TO_THE_LEFT=232b 3RIGHT=2326
0ERIS_FORM_ONE=2bf0 2TWO=2bf1 0ERROR-BARRED_BLACK_CIRCLE=29f3 2DIAMOND=29f1 2SQUARE=29ef
1WHITE_CIRCLE=29f2 2DIAMOND=29f0 2SQUARE=29ee 0ESA=87 0ESC=1b 0ESCAPE=1b 0ESTIMATED_SYMBOL=212e
0ESTIMATES=2259 0ETB=17 0ETHIOPIC_COLON=1365 1COMBINING_GEMINATION_AND_VOWEL_LENGTH_MARK=135d
3MARK=135f 2VOWEL_LENGTH_MARK=135e 1COMMA=1363 1DIGIT_EIGHT=1370 2FIVE=136d 2FOUR=136c 2NINE=1371
2ONE=1369 2SEVEN=136f 2SIX=136e 2THREE=136b 2TWO=136a 1FULL_STOP=1362 1NUMBER_EIGHTY=1379
2FIFTY=1376 2FORTY=1375 2HUNDRED=137b 2NINETY=137a 2SEVENTY=1378 2SIXTY=1377 2TEN=1372
3THOUSAND=137c 2THIRTY=1374 2TWENTY=1373 1PARAGRAPH_SEPARATOR=1368 1PREFACE_COLON=1366
1QUESTION_MARK=1367 1SECTION_MARK=1360 1SEMICOLON=1364 1SYLLABLE_BA=1260 2BAA=1263 2BBA=ab28
2BBAA=ab2b 2BBE=ab2d 2BBEE=ab2c 2BBI=ab2a 2BBO=ab2e 2BBU=ab29 2BE=1265 2BEE=1264 2BI=1262 2BO=1266
2BOA=2d85 2BU=1261 2BWA=1267 2BWE=1387 2BWEE=1386 2BWI=1385 2CA=1278 2CAA=127b 2CCA=2da8 2CCAA=2dab
2CCE=2dad 2CCEE=2dac 2CCHA=2db8 2CCHAA=2dbb 2CCHE=2dbd 2CCHEE=2dbc 2CCHHA=ab20 2CCHHAA=ab23
2CCHHE=ab25 2CCHHEE=ab24 2CCHHI=ab22 2CCHHO=ab26 2CCHHU=ab21 2CCHI=2dba 2CCHO=2dbe 2CCHU=2db9
2CCI=2daa 2CCO=2dae 2CCU=2da9 2CE=127d 2CEE=127c 2CHA=1328 2CHAA=132b 2CHE=132d 2CHEE=132c
2CHI=132a 2CHO=132e 2CHOA=2d90 2CHU=1329 2CHWA=132f 2CI=127a 2CO=127e 2COA=2d87 2CU=1279 2CWA=127f
2DA=12f0 2DAA=12f3 2DDA=12f8 2DDAA=12fb 2DDE=12fd 2DDEE=12fc 2DDHAA=ab0b 2DDHE=ab0d 2DDHEE=ab0c
2DDHI=ab0a 2DDHO=ab0e 2DDHU=ab09 2DDI=12fa 2DDO=12fe 2DDOA=2d8d 2DDU=12f9 2DDWA=12ff 2DE=12f5
2DEE=12f4 2DI=12f2 2DO=12f6 2DOA=2d8c 2DU=12f1 2DWA=12f7 2DZAA=ab13 2DZE=ab15 2DZEE=ab14 2DZI=ab12
2DZO=ab16 2DZU=ab11 2FA=1348 2FAA=134b 2FE=134d 2FEE=134c 2FI=134a 2FO=134e 2FU=1349 2FWA=134f
2FWE=138b 2FWEE=138a 2FWI=1389 2FYA=135a 2GA=1308 2GAA=130b 2GE=130d 2GEE=130c 2GGA=1318 2GGAA=131b
2GGE=131d 2GGEE=131c 2GGI=131a 2GGO=131e 2GGU=1319 2GGWA=2d93 2GGWAA=131f 2GGWE=2d96 2GGWEE=2d95
2GGWI=2d94 2GI=130a 2GLOTTAL_A=12a0 3AA=12a3 3E=12a5 3EE=12a4 3I=12a2 3O=12a6 3OA=2d8a 3U=12a1
3WA=12a7 2GO=130e 2GOA=130f 2GU=1309 2GURAGE_BWEE=1e7f4 3BWI=1e7f3 3FWEE=1e7fc 3FWI=1e7fb
3GWE=1e7fa 3GWEE=1e7f9 3GWI=1e7f8 3HHWA=1e7e8 3KWE=1e7f7 3KWEE=1e7f6 3KWI=1e7f5 3MWEE=1e7ee
3MWI=1e7ed 3PWEE=1e7fe 3PWI=1e7fd 3QWE=1e7f2 3QWEE=1e7f1 3QWI=1e7f0 2GWA=1310 2GWAA=1313 2GWE=1315
2GWEE=1314 2GWI=1312 2GYA=2dd8 2GYAA=2ddb 2GYE=2ddd 2GYEE=2ddc 2GYI=2dda 2GYO=2dde 2GYU=2dd9
2HA=1200 2HAA=1203 2HE=1205 2HEE=1204 2HHA=1210 2HHAA=1213 2HHE=1215 2HHEE=1214 2HHI=1212 2HHO=1216
2HHU=1211 2HHWA=1217 2HHWE=1e7eb 2HHWEE=1e7ea 2HHWI=1e7e9 2HHYA=1e7e0 2HHYAA=1e7e3 2HHYE=1e7e5
2HHYEE=1e7e4 2HHYI=1e7e2 2HHYO=1e7e6 2HHYU=1e7e1 2HI=1202 2HO=1206 2HOA=1207 2HU=1201 2JA=1300
2JAA=1303 2JE=1305 2JEE=1304 2JI=1302 2JO=1306 2JOA=2d8e 2JU=1301 2JWA=1307 2KA=12a8 2KAA=12ab
2KE=12ad 2KEE=12ac 2KI=12aa 2KO=12ae 2KOA=12af 2KU=12a9 2KWA=12b0 2KWAA=12b3 2KWE=12b5 2KWEE=12b4
2KWI=12b2 2KXA=12b8 2KXAA=12bb 2KXE=12bd 2KXEE=12bc 2KXI=12ba 2KXO=12be 2KXU=12b9 2KXWA=12c0
2KXWAA=12c3 2KXWE=12c5 2KXWEE=12c4 2KXWI=12c2 2KYA=2dc8 2KYAA=2dcb 2KYE=2dcd 2KYEE=2dcc 2KYI=2dca
2KYO=2dce 2KYU=2dc9 2LA=1208 2LAA=120b 2LE=120d 2LEE=120c 2LI=120a 2LO=120e 2LOA=2d80 2LU=1209
2LWA=120f 2MA=1218 2MAA=121b 2ME=121d 2MEE=121c 2MI=121a 2MO=121e 2MOA=2d81 2MU=1219 2MWA=121f
2MWE=1383 2MWEE=1382 2MWI=1381 2MYA=1359 2NA=1290 2NAA=1293 2NE=1295 2NEE=1294 2NI=1292 2NO=1296
2NOA=2d88 2NU=1291 2NWA=1297 2NYA=1298 2NYAA=129b 2NYE=129d 2NYEE=129c 2NYI=129a 2NYO=129e
2NYOA=2d89 2NYU=1299 2NYWA=129f 2PA=1350 2PAA=1353 2PE=1355 2PEE=1354 2PHA=1330 2PHAA=1333
2PHARYNGEAL_A=12d0 3AA=12d3 3E=12d5 3EE=12d4 3I=12d2 3O=12d6 3U=12d1 2PHE=1335 2PHEE=1334 2PHI=1332
2PHO=1336 2PHOA=2d91 2PHU=1331 2PHWA=1337 2PI=1352 2PO=1356 2POA=2d92 2PU=1351 2PWA=1357 2PWE=138f
2PWEE=138e 2PWI=138d 2QA=1240 2QAA=1243 2QE=1245 2QEE=1244 2QHA=1250 2QHAA=1253 2QHE=1255
2QHEE=1254 2QHI=1252 2QHO=1256 2QHU=1251 2QHWA=1258 2QHWAA=125b 2QHWE=125d 2QHWEE=125c 2QHWI=125a
2QI=1242 2QO=1246 2QOA=1247 2QU=1241 2QWA=1248 2QWAA=124b 2QWE=124d 2QWEE=124c 2QWI=124a 2QYA=2dc0
2QYAA=2dc3 2QYE=2dc5 2QYEE=2dc4 2QYI=2dc2 2QYO=2dc6 2QYU=2dc1 2RA=1228 2RAA=122b 2RE=122d 2REE=122c
2RI=122a 2RO=122e 2ROA=2d82 2RU=1229 2RWA=122f 2RYA=1358 2SA=1230 2SAA=1233 2SE=1235
2SEBATBEIT_BWA=1384 3FWA=1388 3MWA=1380 3PWA=138c 2SEE=1234 2SHA=1238 2SHAA=123b 2SHE=123d
2SHEE=123c 2SHI=123a 2SHO=123e 2SHOA=2d84 2SHU=1239 2SHWA=123f 2SI=1232 2SO=1236 2SOA=2d83
2SSA=2da0 2SSAA=2da3 2SSE=2da5 2SSEE=2da4 2SSI=2da2 2SSO=2da6 2SSU=2da1 2SU=1231 2SWA=1237
2SZA=1220 2SZAA=1223 2SZE=1225 2SZEE=1224 2SZI=1222 2SZO=1226 2SZU=1221 2SZWA=1227 2TA=1270
2TAA=1273 2TE=1275 2TEE=1274 2THA=1320 2THAA=1323 2THE=1325 2THEE=1324 2THI=1322 2THO=1326
2THOA=2d8f 2THU=1321 2THWA=1327 2TI=1272 2TO=1276 2TOA=2d86 2TSA=1338 2TSAA=133b 2TSE=133d
2TSEE=133c 2TSI=133a 2TSO=133e 2TSU=1339 2TSWA=133f 2TTHAA=ab03 2TTHE=ab05 2TTHEE=ab04 2TTHI=ab02
2TTHO=ab06 2TTHU=ab01 2TU=1271 2TWA=1277 2TZA=1340 2TZAA=1343 2TZE=1345 2TZEE=1344 2TZI=1342
2TZO=1346 2TZOA=1347 2TZU=1341 2VA=1268 2VAA=126b 2VE=126d 2VEE=126c 2VI=126a 2VO=126e 2VU=1269
2VWA=126f 2WA=12c8 2WAA=12cb 2WE=12cd 2WEE=12cc 2WI=12ca 2WO=12ce 2WOA=12cf 2WU=12c9 2XA=1280
2XAA=1283 2XE=1285 2XEE=1284 2XI=1282 2XO=1286 2XOA=1287 2XU=1281 2XWA=1288 2XWAA=128b 2XWE=128d
2XWEE=128c 2XWI=128a 2XYA=2dd0 2XYAA=2dd3 2XYE=2dd5 2XYEE=2dd4 2XYI=2dd2 2XYO=2dd6 2XYU=2dd1
2YA=12e8 2YAA=12eb 2YE=12ed 2YEE=12ec 2YI=12ea 2YO=12ee 2YOA=12ef 2YU=12e9 2ZA=12d8 2ZAA=12db
2ZE=12dd 2ZEE=12dc 2ZHA=12e0 2ZHAA=12e3 2ZHE=12e5 2ZHEE=12e4 2ZHI=12e2 2ZHO=12e6 2ZHU=12e1
2ZHWA=12e7 2ZI=12da 2ZO=12de 2ZOA=2d8b 2ZU=12d9 2ZWA=12df 2ZZA=2db0 2ZZAA=2db3 2ZZE=2db5 2ZZEE=2db4
2ZZI=2db2 2ZZO=2db6 2ZZU=2db1 1TONAL_MARK_CHIRET=1396 3DERET=1391 3DERET-HIDET=1398 3DIFAT=1394
3HIDET=1397 3KENAT=1395 3KURT=1399 3RIKRIK=1392 3SHORT_RIKRIK=1393 3YIZET=1390 1WORDSPACE=1361
0ETX=3 0EULER_CONSTANT=2107 0EURO_SIGN=20ac 0EURO-CURRENCY_SIGN=20a0 0EUROPEAN_CASTLE=1f3f0
1POST_OFFICE=1f3e4 0EVERGREEN_TREE=1f332 0EXCESS=2239 0EXCLAMATION_MARK=21 1QUESTION_MARK=2049
0EXPRESSIONLESS_FACE=1f611 0EXTENDED_ARABIC-INDIC_DIGIT_EIGHT=6f8 3FIVE=6f5 3FOUR=6f4 3NINE=6f9
3ONE=6f1 3SEVEN=6f7 3SIX=6f6 3THREE=6f3 3TWO=6f2 3ZERO=6f0 0EXTRATERRESTRIAL_ALIEN=1f47d
0EXTREMELY_HEAVY_FIVE_SPOKED_ASTERISK=1f7b4 2GREEK_CROSS=1f7a7 2SALTIRE=1f7ae
2SIX_SPOKED_ASTERISK=1f7ba 2WHITE_CIRCLE=1f789 3SQUARE=1f793 0EYE=1f441 0EYEGLASSES=1f453
0EYES=1f440"

/-- Names that begin with `F`. -/
def namesF : String :=
  "0FACE_HOLDING_BACK_TEARS=1f979 1MASSAGE=1f486 1PALM=1f926 1SAVOURING_DELICIOUS_FOOD=1f60b
1SCREAMING_IN_FEAR=1f631 1THROWING_A_KISS=1f618 1WITH_COLD_SWEAT=1f613 2COWBOY_HAT=1f920
2DIAGONAL_MOUTH=1fae4 2FINGER_COVERING_CLOSED_LIPS=1f92b 2HEAD-BANDAGE=1f915 2LOOK_OF_TRIUMPH=1f624
2MEDICAL_MASK=1f637 2MONOCLE=1f9d0 2NO_GOOD_GESTURE=1f645 2OK_GESTURE=1f646
2ONE_EYEBROW_RAISED=1f928 2OPEN_EYES_AND_HAND_OVER_MOUTH=1fae2 3MOUTH=1f62e 4AND_COLD_SWEAT=1f630
4VOMITING=1f92e 2PARTY_HORN_AND_PARTY_HAT=1f973 2PEEKING_EYE=1fae3 2PLEADING_EYES=1f97a
2ROLLING_EYES=1f644 2STUCK-OUT_TONGUE=1f61b 4AND_TIGHTLY-CLOSED_EYES=1f61d 5WINKING_EYE=1f61c
2TEARS_OF_JOY=1f602 2THERMOMETER=1f912 2UNEVEN_EYES_AND_WAVY_MOUTH=1f974 1WITHOUT_MOUTH=1f636
0FACSIMILE_SIGN=213b 0FACTORY=1f3ed 0FAIRY=1f9da 0FALAFEL=1f9c6 0FALLEN_LEAF=1f342
0FALLING_DIAGONAL_CROSSING_NORTH_EAST_ARROW=292f 3RISING_DIAGONAL=292c
2IN_WHITE_CIRCLE_IN_BLACK_SQUARE=26de 0FAMILY=1f46a 0FARSI_SYMBOL=262b 0FATHER_CHRISTMAS=1f385
0FAX_ICON=1f5b7 1MACHINE=1f4e0 0FEARFUL_FACE=1f628 0FEATHER=1fab6 0FEMALE_SIGN=2640
0FEMININE_ORDINAL_INDICATOR=aa 0FENCER=1f93a 0FERRIS_WHEEL=1f3a1 0FERRY=26f4 0FF=c
0FIELD_HOCKEY_STICK_AND_BALL=1f3d1 0FIGURE_DASH=2012 1SPACE=2007 0FILE_CABINET=1f5c4 1FOLDER=1f4c1
1SEPARATOR=1c 0FILM_FRAMES=1f39e 1PROJECTOR=1f4fd 0FINITE_PART_INTEGRAL=2a0d 0FIRE=1f525
1ENGINE=1f692 1EXTINGUISHER=1f9ef 0FIRECRACKER=1f9e8 0FIREWORK_SPARKLER=1f387 0FIREWORKS=1f386
0FIRST_PLACE_MEDAL=1f947 1QUARTER_MOON=263d 3SYMBOL=1f313 3WITH_FACE=1f31b 1STRONG_ISOLATE=2068
0FISH=1f41f 1CAKE_WITH_SWIRL_DESIGN=1f365 0FISHEYE=25c9 0FISHING_POLE_AND_FISH=1f3a3
0FISTED_HAND_SIGN=1f44a 0FIVE_DOT_MARK=2e2d 2PUNCTUATION=2059 0FLAG_IN_HOLE=26f3 0FLAMINGO=1f9a9
0FLAT_SHOE=1f97f 0FLATBREAD=1fad3 0FLATNESS=23e5 0FLEUR-DE-LIS=269c 0FLEXED_BICEPS=1f4aa
0FLOPPY_DISK=1f4be 0FLORAL_HEART=2766 0FLOWER=2698 1PLAYING_CARDS=1f3b4 1PUNCTUATION_MARK=2055
0FLUSHED_FACE=1f633 0FLY=1fab0 0FLYING_DISC=1f94f 1ENVELOPE=1f585 1SAUCER=1f6f8 0FOG=1f32b
0FOGGY=1f301 0FOLDER=1f5c0 0FONDUE=1fad5 0FOOT=1f9b6 0FOOTPRINTS=1f463 0FOR_ALL=2200 0FORCES=22a9
0FORK_AND_KNIFE=1f374 3WITH_PLATE=1f37d 0FORKED_PARAGRAPHOS=2e10 0FORKING=2adc 0FORM_FEED=c
0FORTUNE_COOKIE=1f960 0FOUNTAIN=26f2 0FOUR_BALLOON-SPOKED_ASTERISK=2723 1CLUB-SPOKED_ASTERISK=2725
1CORNER_ARROWS_CIRCLING_ANTICLOCKWISE=2b94 1DOT_MARK=205b 2PUNCTUATION=2058 1LEAF_CLOVER=1f340
1POINTED_BLACK_STAR=1f7c6 1TEARDROP-SPOKED_ASTERISK=2722 0FOUR-PER-EM_SPACE=2005 0FOURTH_ROOT=221c
0FOX_FACE=1f98a 0FRACTION_NUMERATOR_ONE=215f 1SLASH=2044 0FRAME_WITH_AN_X=1f5be 2PICTURE=1f5bc
2TILES=1f5bd 0FREEZING_FACE=1f976 0FRENCH_FRANC_SIGN=20a3 1FRIES=1f35f 0FRIED_SHRIMP=1f364
0FROG_FACE=1f438 0FRONT-FACING_BABY_CHICK=1f425 0FRONT-TILTED_SHADOWED_WHITE_RIGHTWARDS_ARROW=27ac
0FROWN=2322 0FROWNING_FACE_WITH_OPEN_MOUTH=1f626 0FS=1c 0FSI=2068 0FUEL_PUMP=26fd 0FULL_BLOCK=2588
1MOON_SYMBOL=1f315 2WITH_FACE=1f31d 1OUTER_JOIN=27d7 1STOP=2e 0FULLWIDTH_AMPERSAND=ff06
1APOSTROPHE=ff07 1ASTERISK=ff0a 1BROKEN_BAR=ffe4 1CENT_SIGN=ffe0 1CIRCUMFLEX_ACCENT=ff3e
1COLON=ff1a 1COMMA=ff0c 1COMMERCIAL_AT=ff20 1DIGIT_EIGHT=ff18 2FIVE=ff15 2FOUR=ff14 2NINE=ff19
2ONE=ff11 2SEVEN=ff17 2SIX=ff16 2THREE=ff13 2TWO=ff12 2ZERO=ff10 1DOLLAR_SIGN=ff04
1EQUALS_SIGN=ff1d 1EXCLAMATION_MARK=ff01 1FULL_STOP=ff0e 1GRAVE_ACCENT=ff40 1GREATER-THAN_SIGN=ff1e
1HYPHEN-MINUS=ff0d 1LATIN_CAPITAL_LETTER_A=ff21 4B=ff22 4C=ff23 4D=ff24 4E=ff25 4F=ff26 4G=ff27
4H=ff28 4I=ff29 4J=ff2a 4K=ff2b 4L=ff2c 4M=ff2d 4N=ff2e 4O=ff2f 4P=ff30 4Q=ff31 4R=ff32 4S=ff33
4T=ff34 4U=ff35 4V=ff36 4W=ff37 4X=ff38 4Y=ff39 4Z=ff3a 2SMALL_LETTER_A=ff41 4B=ff42 4C=ff43
4D=ff44 4E=ff45 4F=ff46 4G=ff47 4H=ff48 4I=ff49 4J=ff4a 4K=ff4b 4L=ff4c 4M=ff4d 4N=ff4e 4O=ff4f
4P=ff50 4Q=ff51 4R=ff52 4S=ff53 4T=ff54 4U=ff55 4V=ff56 4W=ff57 4X=ff58 4Y=ff59 4Z=ff5a
1LEFT_CURLY_BRACKET=ff5b 2PARENTHESIS=ff08 2SQUARE_BRACKET=ff3b 2WHITE_PARENTHESIS=ff5f
1LESS-THAN_SIGN=ff1c 1LOW_LINE=ff3f 1MACRON=ffe3 1NOT_SIGN=ffe2 1NUMBER_SIGN=ff03
1PERCENT_SIGN=ff05 1PLUS_SIGN=ff0b 1POUND_SIGN=ffe1 1QUESTION_MARK=ff1f 1QUOTATION_MARK=ff02
1REVERSE_SOLIDUS=ff3c 1RIGHT_CURLY_BRACKET=ff5d 2PARENTHESIS=ff09 2SQUARE_BRACKET=ff3d
2WHITE_PARENTHESIS=ff60 1SEMICOLON=ff1b 1SOLIDUS=ff0f 1TILDE=ff5e 1VERTICAL_LINE=ff5c
1WON_SIGN=ffe6 1YEN_SIGN=ffe5 0FUNCTION_APPLICATION=2061 0FUNERAL_URN=26b1 0FUSE=23db 0FVS1=180b
0FVS2=180c 0FVS3=180d 0FVS4=180f"

/-- Names that begin with `G`. -/
def namesG : String :=
  "0GAME_DIE=1f3b2 0GARLIC=1f9c4 0GEAR=2699 1WITH_HANDLES=26ee 1WITHOUT_HUB=26ed 0GEM_STONE=1f48e
0GEMINI=264a 0GENIE=1f9de 0GEOMETRIC_PROPORTION=223a 0GEOMETRICALLY_EQUAL_TO=2251
1EQUIVALENT_TO=224e 0GEORGIAN_CAPITAL_LETTER_AEN=10cd 3AN=10a0 3BAN=10a1 3CAN=10ba 3CHAR=10bd
3CHIN=10b9 3CIL=10bc 3DON=10a3 3EN=10a4 3GAN=10a2 3GHAN=10b6 3HAE=10c0 3HAR=10c4 3HE=10c1 3HIE=10c2
3HOE=10c5 3IN=10a8 3JHAN=10bf 3JIL=10bb 3KAN=10a9 3KHAR=10b5 3LAS=10aa 3MAN=10ab 3NAR=10ac 3ON=10ad
3PAR=10ae 3PHAR=10b4 3QAR=10b7 3RAE=10b0 3SAN=10b1 3SHIN=10b8 3TAN=10a7 3TAR=10b2 3UN=10b3
3VIN=10a5 3WE=10c3 3XAN=10be 3YN=10c7 3ZEN=10a6 3ZHAR=10af 1LETTER_AEN=10fd 2AIN=10fa 2AN=10d0
2BAN=10d1 2CAN=10ea 2CHAR=10ed 2CHIN=10e9 2CIL=10ec 2DON=10d3 2ELIFI=10f8 2EN=10d4 2FI=10f6
2GAN=10d2 2GHAN=10e6 2HAE=10f0 2HAR=10f4 2HARD_SIGN=10fe 2HE=10f1 2HIE=10f2 2HOE=10f5 2IN=10d8
2JHAN=10ef 2JIL=10eb 2KAN=10d9 2KHAR=10e5 2LABIAL_SIGN=10ff 2LAS=10da 2MAN=10db 2NAR=10dc 2ON=10dd
2PAR=10de 2PHAR=10e4 2QAR=10e7 2RAE=10e0 2SAN=10e1 2SHIN=10e8 2TAN=10d7 2TAR=10e2 2TURNED_GAN=10f9
2UN=10e3 2VIN=10d5 2WE=10f3 2XAN=10ee 2YN=10f7 2ZEN=10d6 2ZHAR=10df
1MTAVRULI_CAPITAL_LETTER_AEN=1cbd 4AIN=1cba 4AN=1c90 4BAN=1c91 4CAN=1caa 4CHAR=1cad 4CHIN=1ca9
4CIL=1cac 4DON=1c93 4ELIFI=1cb8 4EN=1c94 4FI=1cb6 4GAN=1c92 4GHAN=1ca6 4HAE=1cb0 4HAR=1cb4
4HARD_SIGN=1cbe 4HE=1cb1 4HIE=1cb2 4HOE=1cb5 4IN=1c98 4JHAN=1caf 4JIL=1cab 4KAN=1c99 4KHAR=1ca5
4LABIAL_SIGN=1cbf 4LAS=1c9a 4MAN=1c9b 4NAR=1c9c 4ON=1c9d 4PAR=1c9e 4PHAR=1ca4 4QAR=1ca7 4RAE=1ca0
4SAN=1ca1 4SHIN=1ca8 4TAN=1c97 4TAR=1ca2 4TURNED_GAN=1cb9 4UN=1ca3 4VIN=1c95 4WE=1cb3 4XAN=1cae
4YN=1cb7 4ZEN=1c96 4ZHAR=1c9f 1PARAGRAPH_SEPARATOR=10fb 1SMALL_LETTER_AEN=2d2d 3AN=2d00 3BAN=2d01
3CAN=2d1a 3CHAR=2d1d 3CHIN=2d19 3CIL=2d1c 3DON=2d03 3EN=2d04 3GAN=2d02 3GHAN=2d16 3HAE=2d20
3HAR=2d24 3HE=2d21 3HIE=2d22 3HOE=2d25 3IN=2d08 3JHAN=2d1f 3JIL=2d1b 3KAN=2d09 3KHAR=2d15 3LAS=2d0a
3MAN=2d0b 3NAR=2d0c 3ON=2d0d 3PAR=2d0e 3PHAR=2d14 3QAR=2d17 3RAE=2d10 3SAN=2d11 3SHIN=2d18
3TAN=2d07 3TAR=2d12 3UN=2d13 3VIN=2d05 3WE=2d23 3XAN=2d1e 3YN=2d27 3ZEN=2d06 3ZHAR=2d0f
0GERMAN_PENNY_SIGN=20b0 0GETA_MARK=3013 0GHOST=1f47b 0GIMEL_SYMBOL=2137 0GIRAFFE_FACE=1f992
0GIRL=1f467 0GIRLS_SYMBOL=1f6ca 0GLAGOLITIC_CAPITAL_LETTER_AZU=2c00 3BIG_YUS=2c28 3BUKY=2c01
3CAUDATE_CHRIVI=2c2f 3CHRIVI=2c1d 3DJERVI=2c0c 3DOBRO=2c04 3DZELO=2c07 3FITA=2c2a 3FRITU=2c17
3GLAGOLI=2c03 3HERU=2c18 3I=2c0b 3INITIAL_IZHE=2c0a 3IOTATED_BIG_YUS=2c29 4SMALL_YUS=2c27
3IZHE=2c09 3IZHITSA=2c2b 3KAKO=2c0d 3LATINATE_MYSLITE=2c2e 3LJUDIJE=2c0e 3MYSLITE=2c0f 3NASHI=2c10
3ONU=2c11 3OTU=2c19 3PE=2c1a 3POKOJI=2c12 3RITSI=2c13 3SHA=2c1e 3SHTA=2c1b 3SHTAPIC=2c2c
3SLOVO=2c14 3SMALL_YUS=2c24 5WITH_TAIL=2c25 3SPIDERY_HA=2c22 3TROKUTASTI_A=2c2d 3TSI=2c1c
3TVRIDO=2c15 3UKU=2c16 3VEDE=2c02 3YATI=2c21 3YERI=2c20 3YERU=2c1f 3YESTU=2c05 3YO=2c26 3YU=2c23
3ZEMLJA=2c08 3ZHIVETE=2c06 1SMALL_LETTER_AZU=2c30 3BIG_YUS=2c58 3BUKY=2c31 3CAUDATE_CHRIVI=2c5f
3CHRIVI=2c4d 3DJERVI=2c3c 3DOBRO=2c34 3DZELO=2c37 3FITA=2c5a 3FRITU=2c47 3GLAGOLI=2c33 3HERU=2c48
3I=2c3b 3INITIAL_IZHE=2c3a 3IOTATED_BIG_YUS=2c59 4SMALL_YUS=2c57 3IZHE=2c39 3IZHITSA=2c5b
3KAKO=2c3d 3LATINATE_MYSLITE=2c5e 3LJUDIJE=2c3e 3MYSLITE=2c3f 3NASHI=2c40 3ONU=2c41 3OTU=2c49
3PE=2c4a 3POKOJI=2c42 3RITSI=2c43 3SHA=2c4e 3SHTA=2c4b 3SHTAPIC=2c5c 3SLOVO=2c44 3SMALL_YUS=2c54
5WITH_TAIL=2c55 3SPIDERY_HA=2c52 3TROKUTASTI_A=2c5d 3TSI=2c4c 3TVRIDO=2c45 3UKU=2c46 3VEDE=2c32
3YATI=2c51 3YERI=2c50 3YERU=2c4f 3YESTU=2c35 3YO=2c56 3YU=2c53 3ZEMLJA=2c38 3ZHIVETE=2c36
0GLASS_OF_MILK=1f95b 0GLEICH_STARK=29e6 0GLOBE_WITH_MERIDIANS=1f310 0GLOVES=1f9e4
0GLOWING_STAR=1f31f 0GOAL_NET=1f945 0GOAT=1f410 0GOGGLES=1f97d 0GOLFER=1f3cc 0GORILLA=1f98d
0GOTHIC_LETTER_AHSA=10330 2AIHVUS=10334 2BAIRKAN=10331 2DAGS=10333 2EIS=10339 2FAIHU=10346
2GIBA=10332 2HAGL=10337 2HWAIR=10348 2IGGWS=10347 2IUJA=10336 2JER=1033e 2KUSMA=1033a 2LAGUS=1033b
2MANNA=1033c 2NAUTHS=1033d 2NINE_HUNDRED=1034a 2NINETY=10341 2OTHAL=10349 2PAIRTHRA=10340
2QAIRTHRA=10335 2RAIDA=10342 2SAUIL=10343 2TEIWS=10344 2THIUTH=10338 2URUS=1033f 2WINJA=10345
0GRADUATION_CAP=1f393 0GRANTHA_AU_LENGTH_MARK=11357 1LETTER_A=11305 2AA=11306 2AI=11310 2AU=11314
2BA=1132c 2BHA=1132d 2CA=1131a 2CHA=1131b 2DA=11326 2DDA=11321 2DDHA=11322 2DHA=11327 2EE=1130f
2GA=11317 2GHA=11318 2HA=11339 2I=11307 2II=11308 2JA=1131c 2JHA=1131d 2KA=11315 2KHA=11316
2LA=11332 2LLA=11333 2MA=1132e 2NA=11328 2NGA=11319 2NNA=11323 2NYA=1131e 2OO=11313 2PA=1132a
2PHA=1132b 2RA=11330 2SA=11338 2SHA=11336 2SSA=11337 2TA=11324 2THA=11325 2TTA=1131f 2TTHA=11320
2U=11309 2UU=1130a 2VA=11335 2VEDIC_ANUSVARA=1135e 3DOUBLE_ANUSVARA=1135f 2VOCALIC_L=1130c
3LL=11361 3R=1130b 3RR=11360 2YA=1132f 1OM=11350 1SIGN_ANUSVARA=11302 2AVAGRAHA=1133d
2CANDRABINDU=11301 2COMBINING_ANUSVARA_ABOVE=11300 2NUKTA=1133c 2PLUTA=1135d 2VIRAMA=1134d
2VISARGA=11303 1VOWEL_SIGN_AA=1133e 3AI=11348 3AU=1134c 3EE=11347 3I=1133f 3II=11340 3OO=1134b
3U=11341 3UU=11342 3VOCALIC_L=11362 4LL=11363 4R=11343 4RR=11344 0GRAPES=1f347 0GRAVE_ACCENT=60
0GREATER-THAN_ABOVE_DOUBLE-LINE_EQUAL_ABOVE_LESS-THAN=2a8c 2LESS-THAN_ABOVE_DOUBLE-LINE_EQUAL=2a92
2RIGHTWARDS_ARROW=2978 2SIMILAR_ABOVE_LESS-THAN=2a90 3OR_EQUAL=2a8e
2SLANTED_EQUAL_ABOVE_LESS-THAN_ABOVE_SLANTED_EQUAL=2a94 1AND_NOT_APPROXIMATE=2a8a
2SINGLE-LINE_NOT_EQUAL_TO=2a88 1BESIDE_LESS-THAN=2aa5 1BUT_NOT_EQUAL_TO=2269 3EQUIVALENT_TO=22e7
1CLOSED_BY_CURVE=2aa7 4ABOVE_SLANTED_EQUAL=2aa9 1EQUAL_TO_OR_LESS-THAN=22db 1OR_APPROXIMATE=2a86
2EQUAL_TO=2265 2EQUIVALENT_TO=2273 2LESS-THAN=2277 2SLANTED_EQUAL_TO=2a7e 5WITH_DOT_ABOVE=2a82
8LEFT=2a84 7INSIDE=2a80 1OVER_EQUAL_TO=2267 1OVERLAPPING_LESS-THAN=2aa4 1SIGN=3e
1WITH_CIRCLE_INSIDE=2a7a 2DOT=22d7 2QUESTION_MARK_ABOVE=2a7c 0GREEK_ACROPHONIC_ATTIC_FIFTY=10144
4STATERS=10151 4TALENTS=1014a 4THOUSAND=10147 5STATERS=10156 3FIVE=10143 4HUNDRED=10145
5STATERS=10153 5TALENTS=1014c 4STATERS=1014f 4TALENTS=10148 4THOUSAND=10146 5TALENTS=1014e
3ONE_DRACHMA=10142 4HALF=10141 4HUNDRED_STATERS=10152 5TALENTS=1014b 4QUARTER=10140
4THOUSAND_STATERS=10154 5TALENTS=1014d 3TEN_MNAS=10157 4STATERS=10150 4TALENTS=10149
4THOUSAND_STATERS=10155 2CARYSTIAN_FIVE_HUNDRED=1016f 2CYRENAIC_TWO_DRACHMAS=1015d
2DELPHIC_FIVE_MNAS=10173 2EPIDAUREAN_FIVE_HUNDRED=1016c 3TWO=1015b 4DRACHMAS=1015e
2HERAEUM_ONE_PLETHRON=10158 2HERMIONIAN_FIFTY=10168 3ONE=1015a 3TEN=10162 2MESSENIAN_TEN=10163
2NAXIAN_FIVE_HUNDRED=10170 2STRATIAN_FIFTY_MNAS=10174 2THESPIAN_FIFTY=10169 3FIVE_HUNDRED=1016e
4THOUSAND=10172 3ONE=10159 4HUNDRED=1016a 4THOUSAND=10171 3TEN=10164 3THIRTY=10165
3THREE_HUNDRED=1016b 3TWO=1015c 2TROEZENIAN_FIFTY=10166 4ALTERNATE_FORM=10167 3FIVE=1015f
4HUNDRED=1016d 3TEN=10160 4ALTERNATE_FORM=10161 1ANO_TELEIA=387 1AROURA_SIGN=10187
1ARTABE_SIGN=10186 1BETA_SYMBOL=3d0 1CAPITAL_DOTTED_LUNATE_SIGMA_SYMBOL=3fe 2KAI_SYMBOL=3cf
2LETTER_ALPHA=391 4WITH_DASIA=1f09 6AND_OXIA=1f0d 8AND_PROSGEGRAMMENI=1f8d 7PERISPOMENI=1f0f
8AND_PROSGEGRAMMENI=1f8f 7PROSGEGRAMMENI=1f89 7VARIA=1f0b 8AND_PROSGEGRAMMENI=1f8b 5MACRON=1fb9
5OXIA=1fbb 5PROSGEGRAMMENI=1fbc 5PSILI=1f08 6AND_OXIA=1f0c 8AND_PROSGEGRAMMENI=1f8c
7PERISPOMENI=1f0e 8AND_PROSGEGRAMMENI=1f8e 7PROSGEGRAMMENI=1f88 7VARIA=1f0a
8AND_PROSGEGRAMMENI=1f8a 5TONOS=386 5VARIA=1fba 5VRACHY=1fb8 3ARCHAIC_SAMPI=372 3BETA=392 3CHI=3a7
3DELTA=394 3EPSILON=395 4WITH_DASIA=1f19 6AND_OXIA=1f1d 7VARIA=1f1b 5OXIA=1fc9 5PSILI=1f18
6AND_OXIA=1f1c 7VARIA=1f1a 5TONOS=388 5VARIA=1fc8 3ETA=397 4WITH_DASIA=1f29 6AND_OXIA=1f2d
8AND_PROSGEGRAMMENI=1f9d 7PERISPOMENI=1f2f 8AND_PROSGEGRAMMENI=1f9f 7PROSGEGRAMMENI=1f99
7VARIA=1f2b 8AND_PROSGEGRAMMENI=1f9b 5OXIA=1fcb 5PROSGEGRAMMENI=1fcc 5PSILI=1f28 6AND_OXIA=1f2c
8AND_PROSGEGRAMMENI=1f9c 7PERISPOMENI=1f2e 8AND_PROSGEGRAMMENI=1f9e 7PROSGEGRAMMENI=1f98
7VARIA=1f2a 8AND_PROSGEGRAMMENI=1f9a 5TONOS=389 5VARIA=1fca 3GAMMA=393 3HETA=370 3IOTA=399
4WITH_DASIA=1f39 6AND_OXIA=1f3d 7PERISPOMENI=1f3f 7VARIA=1f3b 5DIALYTIKA=3aa 5MACRON=1fd9
5OXIA=1fdb 5PSILI=1f38 6AND_OXIA=1f3c 7PERISPOMENI=1f3e 7VARIA=1f3a 5TONOS=38a 5VARIA=1fda
5VRACHY=1fd8 3KAPPA=39a 3LAMDA=39b 3MU=39c 3NU=39d 3OMEGA=3a9 4WITH_DASIA=1f69 6AND_OXIA=1f6d
8AND_PROSGEGRAMMENI=1fad 7PERISPOMENI=1f6f 8AND_PROSGEGRAMMENI=1faf 7PROSGEGRAMMENI=1fa9
7VARIA=1f6b 8AND_PROSGEGRAMMENI=1fab 5OXIA=1ffb 5PROSGEGRAMMENI=1ffc 5PSILI=1f68 6AND_OXIA=1f6c
8AND_PROSGEGRAMMENI=1fac 7PERISPOMENI=1f6e 8AND_PROSGEGRAMMENI=1fae 7PROSGEGRAMMENI=1fa8
7VARIA=1f6a 8AND_PROSGEGRAMMENI=1faa 5TONOS=38f 5VARIA=1ffa 3OMICRON=39f 4WITH_DASIA=1f49
6AND_OXIA=1f4d 7VARIA=1f4b 5OXIA=1ff9 5PSILI=1f48 6AND_OXIA=1f4c 7VARIA=1f4a 5TONOS=38c 5VARIA=1ff8
3PAMPHYLIAN_DIGAMMA=376 3PHI=3a6 3PI=3a0 3PSI=3a8 3RHO=3a1 4WITH_DASIA=1fec 3SAN=3fa 3SHO=3f7
3SIGMA=3a3 3TAU=3a4 3THETA=398 3UPSILON=3a5 4WITH_DASIA=1f59 6AND_OXIA=1f5d 7PERISPOMENI=1f5f
7VARIA=1f5b 5DIALYTIKA=3ab 5MACRON=1fe9 5OXIA=1feb 5TONOS=38e 5VARIA=1fea 5VRACHY=1fe8 3XI=39e
3YOT=37f 3ZETA=396 2LUNATE_SIGMA_SYMBOL=3f9 2REVERSED_DOTTED_LUNATE_SIGMA_SYMBOL=3ff
3LUNATE_SIGMA_SYMBOL=3fd 2THETA_SYMBOL=3f4 1DASIA=1ffe 2AND_OXIA=1fde 3PERISPOMENI=1fdf 3VARIA=1fdd
1DIALYTIKA_AND_OXIA=1fee 3PERISPOMENI=1fc1 3VARIA=1fed 2TONOS=385 1DRACHMA_SIGN=1017b
1FIVE_OBOLS_SIGN=10180 1FOUR_OBOLS_SIGN=1017f 1GRAMMA_SIGN=10188 1INDICTION_SIGN=1018d
1INSTRUMENTAL_NOTATION_SYMBOL-1=1d21d 3SYMBOL-11=1d223 3SYMBOL-12=1d224 3SYMBOL-13=1d225
3SYMBOL-14=1d226 3SYMBOL-17=1d227 3SYMBOL-18=1d228 3SYMBOL-19=1d229 3SYMBOL-2=1d21e
3SYMBOL-23=1d22a 3SYMBOL-24=1d22b 3SYMBOL-25=1d22c 3SYMBOL-26=1d22d 3SYMBOL-27=1d22e
3SYMBOL-29=1d22f 3SYMBOL-30=1d230 3SYMBOL-32=1d231 3SYMBOL-36=1d232 3SYMBOL-37=1d233
3SYMBOL-38=1d234 3SYMBOL-39=1d235 3SYMBOL-4=1d21f 3SYMBOL-40=1d236 3SYMBOL-42=1d237
3SYMBOL-43=1d238 3SYMBOL-45=1d239 3SYMBOL-47=1d23a 3SYMBOL-48=1d23b 3SYMBOL-49=1d23c
3SYMBOL-5=1d220 3SYMBOL-50=1d23d 3SYMBOL-51=1d23e 3SYMBOL-52=1d23f 3SYMBOL-53=1d240
3SYMBOL-54=1d241 3SYMBOL-7=1d221 3SYMBOL-8=1d222 1KAI_SYMBOL=3d7 1KAPPA_SYMBOL=3f0 1KORONIS=1fbd
1KYATHOS_BASE_SIGN=10182 1LETTER_ARCHAIC_KOPPA=3d8 2DIGAMMA=3dc 2KOPPA=3de 2SAMPI=3e0
2SMALL_CAPITAL_GAMMA=1d26 4LAMDA=1d27 4OMEGA=ab65 4PI=1d28 4PSI=1d2a 4RHO=1d29 2STIGMA=3da 2YOT=3f3
1LITRA_SIGN=10183 1LOWER_NUMERAL_SIGN=375 1LUNATE_EPSILON_SYMBOL=3f5 2SIGMA_SYMBOL=3f2
1METRETES_SIGN=10181 1MUSICAL_LEIMMA=1d245 1NUMERAL_SIGN=374 1OBOL_SIGN=1017c 1ONE_HALF_SIGN=10175
4ALTERNATE_FORM=10176 2QUARTER_SIGN=1018b 1OUNKIA_SIGN=10184 1OXIA=1ffd 1PERISPOMENI=1fc0
1PHI_SYMBOL=3d5 1PI_SYMBOL=3d6 1PROSGEGRAMMENI=1fbe 1PSILI=1fbf 2AND_OXIA=1fce 3PERISPOMENI=1fcf
3VARIA=1fcd 1QUESTION_MARK=37e 1REVERSED_LUNATE_EPSILON_SYMBOL=3f6 1RHO_SYMBOL=3f1
2WITH_STROKE_SYMBOL=3fc 1SINUSOID_SIGN=1018c 1SMALL_DOTTED_LUNATE_SIGMA_SYMBOL=37c
2LETTER_ALPHA=3b1 4WITH_DASIA=1f01 6AND_OXIA=1f05 8AND_YPOGEGRAMMENI=1f85 7PERISPOMENI=1f07
8AND_YPOGEGRAMMENI=1f87 7VARIA=1f03 8AND_YPOGEGRAMMENI=1f83 7YPOGEGRAMMENI=1f81 5MACRON=1fb1
5OXIA=1f71 6AND_YPOGEGRAMMENI=1fb4 5PERISPOMENI=1fb6 6AND_YPOGEGRAMMENI=1fb7 5PSILI=1f00
6AND_OXIA=1f04 8AND_YPOGEGRAMMENI=1f84 7PERISPOMENI=1f06 8AND_YPOGEGRAMMENI=1f86 7VARIA=1f02
8AND_YPOGEGRAMMENI=1f82 7YPOGEGRAMMENI=1f80 5TONOS=3ac 5VARIA=1f70 6AND_YPOGEGRAMMENI=1fb2
5VRACHY=1fb0 5YPOGEGRAMMENI=1fb3 3ARCHAIC_KOPPA=3d9 4SAMPI=373 3BETA=3b2 3CHI=3c7 3DELTA=3b4
3DIGAMMA=3dd 3EPSILON=3b5 4WITH_DASIA=1f11 6AND_OXIA=1f15 7VARIA=1f13 5OXIA=1f73 5PSILI=1f10
6AND_OXIA=1f14 7VARIA=1f12 5TONOS=3ad 5VARIA=1f72 3ETA=3b7 4WITH_DASIA=1f21 6AND_OXIA=1f25
8AND_YPOGEGRAMMENI=1f95 7PERISPOMENI=1f27 8AND_YPOGEGRAMMENI=1f97 7VARIA=1f23
8AND_YPOGEGRAMMENI=1f93 7YPOGEGRAMMENI=1f91 5OXIA=1f75 6AND_YPOGEGRAMMENI=1fc4 5PERISPOMENI=1fc6
6AND_YPOGEGRAMMENI=1fc7 5PSILI=1f20 6AND_OXIA=1f24 8AND_YPOGEGRAMMENI=1f94 7PERISPOMENI=1f26
8AND_YPOGEGRAMMENI=1f96 7VARIA=1f22 8AND_YPOGEGRAMMENI=1f92 7YPOGEGRAMMENI=1f90 5TONOS=3ae
5VARIA=1f74 6AND_YPOGEGRAMMENI=1fc2 5YPOGEGRAMMENI=1fc3 3FINAL_SIGMA=3c2 3GAMMA=3b3 3HETA=371
3IOTA=3b9 4WITH_DASIA=1f31 6AND_OXIA=1f35 7PERISPOMENI=1f37 7VARIA=1f33 5DIALYTIKA=3ca
6AND_OXIA=1fd3 7PERISPOMENI=1fd7 7TONOS=390 7VARIA=1fd2 5MACRON=1fd1 5OXIA=1f77 5PERISPOMENI=1fd6
5PSILI=1f30 6AND_OXIA=1f34 7PERISPOMENI=1f36 7VARIA=1f32 5TONOS=3af 5VARIA=1f76 5VRACHY=1fd0
3KAPPA=3ba 3KOPPA=3df 3LAMDA=3bb 3MU=3bc 3NU=3bd 3OMEGA=3c9 4WITH_DASIA=1f61 6AND_OXIA=1f65
8AND_YPOGEGRAMMENI=1fa5 7PERISPOMENI=1f67 8AND_YPOGEGRAMMENI=1fa7 7VARIA=1f63
8AND_YPOGEGRAMMENI=1fa3 7YPOGEGRAMMENI=1fa1 5OXIA=1f7d 6AND_YPOGEGRAMMENI=1ff4 5PERISPOMENI=1ff6
6AND_YPOGEGRAMMENI=1ff7 5PSILI=1f60 6AND_OXIA=1f64 8AND_YPOGEGRAMMENI=1fa4 7PERISPOMENI=1f66
8AND_YPOGEGRAMMENI=1fa6 7VARIA=1f62 8AND_YPOGEGRAMMENI=1fa2 7YPOGEGRAMMENI=1fa0 5TONOS=3ce
5VARIA=1f7c 6AND_YPOGEGRAMMENI=1ff2 5YPOGEGRAMMENI=1ff3 3OMICRON=3bf 4WITH_DASIA=1f41
6AND_OXIA=1f45 7VARIA=1f43 5OXIA=1f79 5PSILI=1f40 6AND_OXIA=1f44 7VARIA=1f42 5TONOS=3cc 5VARIA=1f78
3PAMPHYLIAN_DIGAMMA=377 3PHI=3c6 3PI=3c0 3PSI=3c8 3RHO=3c1 4WITH_DASIA=1fe5 5PSILI=1fe4 3SAMPI=3e1
3SAN=3fb 3SHO=3f8 3SIGMA=3c3 3STIGMA=3db 3TAU=3c4 3THETA=3b8 3UPSILON=3c5 4WITH_DASIA=1f51
6AND_OXIA=1f55 7PERISPOMENI=1f57 7VARIA=1f53 5DIALYTIKA=3cb 6AND_OXIA=1fe3 7PERISPOMENI=1fe7
7TONOS=3b0 7VARIA=1fe2 5MACRON=1fe1 5OXIA=1f7b 5PERISPOMENI=1fe6 5PSILI=1f50 6AND_OXIA=1f54
7PERISPOMENI=1f56 7VARIA=1f52 5TONOS=3cd 5VARIA=1f7a 5VRACHY=1fe0 3XI=3be 3ZETA=3b6
2REVERSED_DOTTED_LUNATE_SIGMA_SYMBOL=37d 3LUNATE_SIGMA_SYMBOL=37b 1SUBSCRIPT_SMALL_LETTER_BETA=1d66
4CHI=1d6a 4GAMMA=1d67 4PHI=1d69 4RHO=1d68 1SYMBOL_TAU_RHO=101a0 1TALENT_SIGN=1017a
1THETA_SYMBOL=3d1 1THREE_OBOLS_SIGN=1017e 2QUARTERS_SIGN=10178 1TONOS=384 1TRYBLION_BASE_SIGN=10189
1TWO_OBOLS_SIGN=1017d 2THIRDS_SIGN=10177 1UPSILON_WITH_ACUTE_AND_HOOK_SYMBOL=3d3
3DIAERESIS_AND_HOOK_SYMBOL=3d4 3HOOK_SYMBOL=3d2 1VARIA=1fef 1VOCAL_NOTATION_SYMBOL-1=1d200
3SYMBOL-10=1d209 3SYMBOL-11=1d20a 3SYMBOL-12=1d20b 3SYMBOL-13=1d20c 3SYMBOL-14=1d20d
3SYMBOL-15=1d20e 3SYMBOL-16=1d20f 3SYMBOL-17=1d210 3SYMBOL-18=1d211 3SYMBOL-19=1d212
3SYMBOL-2=1d201 3SYMBOL-20=1d213 3SYMBOL-21=1d214 3SYMBOL-22=1d215 3SYMBOL-23=1d216
3SYMBOL-24=1d217 3SYMBOL-3=1d202 3SYMBOL-4=1d203 3SYMBOL-5=1d204 3SYMBOL-50=1d218 3SYMBOL-51=1d219
3SYMBOL-52=1d21a 3SYMBOL-53=1d21b 3SYMBOL-54=1d21c 3SYMBOL-6=1d205 3SYMBOL-7=1d206 3SYMBOL-8=1d207
3SYMBOL-9=1d208 1XESTES_SIGN=10185 1YEAR_SIGN=10179 1YPOGEGRAMMENI=37a 1ZERO_SIGN=1018a
0GREEN_APPLE=1f34f 1BOOK=1f4d7 1HEART=1f49a 1SALAD=1f957 0GRIMACING_FACE=1f62c
0GRINNING_CAT_FACE_WITH_SMILING_EYES=1f638 1FACE=1f600 2WITH_ONE_LARGE_AND_ONE_SMALL_EYE=1f92a
3SMILING_EYES=1f601 3STAR_EYES=1f929 0GROUP_MARK=2bd2 1SEPARATOR=1d 0GROWING_HEART=1f497 0GS=1d
0GUARANI_SIGN=20b2 0GUARDSMAN=1f482 0GUIDE_DOG=1f9ae 0GUITAR=1f3b8 0GUJARATI_ABBREVIATION_SIGN=af0
1DIGIT_EIGHT=aee 2FIVE=aeb 2FOUR=aea 2NINE=aef 2ONE=ae7 2SEVEN=aed 2SIX=aec 2THREE=ae9 2TWO=ae8
2ZERO=ae6 1LETTER_A=a85 2AA=a86 2AI=a90 2AU=a94 2BA=aac 2BHA=aad 2CA=a9a 2CHA=a9b 2DA=aa6 2DDA=aa1
2DDHA=aa2 2DHA=aa7 2E=a8f 2GA=a97 2GHA=a98 2HA=ab9 2I=a87 2II=a88 2JA=a9c 2JHA=a9d 2KA=a95 2KHA=a96
2LA=ab2 2LLA=ab3 2MA=aae 2NA=aa8 2NGA=a99 2NNA=aa3 2NYA=a9e 2O=a93 2PA=aaa 2PHA=aab 2RA=ab0 2SA=ab8
2SHA=ab6 2SSA=ab7 2TA=aa4 2THA=aa5 2TTA=a9f 2TTHA=aa0 2U=a89 2UU=a8a 2VA=ab5 2VOCALIC_L=a8c 3LL=ae1
3R=a8b 3RR=ae0 2YA=aaf 2ZHA=af9 1OM=ad0 1RUPEE_SIGN=af1 1SIGN_ANUSVARA=a82 2AVAGRAHA=abd
2CANDRABINDU=a81 2CIRCLE_NUKTA_ABOVE=afe 2MADDAH=afc 2NUKTA=abc 2SHADDA=afb 2SUKUN=afa
2THREE-DOT_NUKTA_ABOVE=afd 2TWO-CIRCLE_NUKTA_ABOVE=aff 2VIRAMA=acd 2VISARGA=a83 1VOWEL_CANDRA_E=a8d
3O=a91 2SIGN_AA=abe 3AI=ac8 3AU=acc 3CANDRA_E=ac5 4O=ac9 3E=ac7 3I=abf 3II=ac0 3O=acb 3U=ac1
3UU=ac2 3VOCALIC_L=ae2 4LL=ae3 4R=ac3 4RR=ac4 0GUNJALA_GONDI_DIGIT_EIGHT=11da8 3FIVE=11da5
3FOUR=11da4 3NINE=11da9 3ONE=11da1 3SEVEN=11da7 3SIX=11da6 3THREE=11da3 3TWO=11da2 3ZERO=11da0
2LETTER_A=11d60 3AA=11d61 3AI=11d68 3AU=11d6b 3BA=11d6e 3BHA=11d6f 3CA=11d7b 3CHA=11d7c 3DA=11d78
3DDA=11d82 3DDHA=11d83 3DHA=11d79 3EE=11d67 3GA=11d76 3GHA=11d77 3HA=11d87 3I=11d62 3II=11d63
3JA=11d80 3JHA=11d81 3KA=11d71 3KHA=11d72 3LA=11d75 3LLA=11d7f 3MA=11d70 3NA=11d7a 3NGA=11d84
3OO=11d6a 3PA=11d85 3PHA=11d86 3RA=11d88 3SA=11d89 3TA=11d73 3THA=11d74 3TTA=11d7d 3TTHA=11d7e
3U=11d64 3UU=11d65 3VA=11d6d 3YA=11d6c 2OM=11d98 2SIGN_ANUSVARA=11d95 3VISARGA=11d96 2VIRAMA=11d97
2VOWEL_SIGN_AA=11d8a 4AI=11d91 4AU=11d94 4EE=11d90 4I=11d8b 4II=11d8c 4OO=11d93 4U=11d8d 4UU=11d8e
0GURMUKHI_ABBREVIATION_SIGN=a76 1ADDAK=a71 1DIGIT_EIGHT=a6e 2FIVE=a6b 2FOUR=a6a 2NINE=a6f 2ONE=a67
2SEVEN=a6d 2SIX=a6c 2THREE=a69 2TWO=a68 2ZERO=a66 1EK_ONKAR=a74 1IRI=a72 1LETTER_A=a05 2AA=a06
2AI=a10 2AU=a14 2BA=a2c 2BHA=a2d 2CA=a1a 2CHA=a1b 2DA=a26 2DDA=a21 2DDHA=a22 2DHA=a27 2EE=a0f
2FA=a5e 2GA=a17 2GHA=a18 2GHHA=a5a 2HA=a39 2I=a07 2II=a08 2JA=a1c 2JHA=a1d 2KA=a15 2KHA=a16
2KHHA=a59 2LA=a32 2LLA=a33 2MA=a2e 2NA=a28 2NGA=a19 2NNA=a23 2NYA=a1e 2OO=a13 2PA=a2a 2PHA=a2b
2RA=a30 2RRA=a5c 2SA=a38 2SHA=a36 2TA=a24 2THA=a25 2TTA=a1f 2TTHA=a20 2U=a09 2UU=a0a 2VA=a35
2YA=a2f 2ZA=a5b 1SIGN_ADAK_BINDI=a01 2BINDI=a02 2NUKTA=a3c 2UDAAT=a51 2VIRAMA=a4d 2VISARGA=a03
2YAKASH=a75 1TIPPI=a70 1URA=a73 1VOWEL_SIGN_AA=a3e 3AI=a48 3AU=a4c 3EE=a47 3I=a3f 3II=a40 3OO=a4b
3U=a41 3UU=a42"

/-- Names that begin with `H`. -/
def namesH : String :=
  "0HADES=2be1 0HAIR_SPACE=200a 0HAIRCUT=1f487 0HALFWIDTH_BLACK_SQUARE=ffed 1DOWNWARDS_ARROW=ffec
1FORMS_LIGHT_VERTICAL=ffe8 1HANGUL_FILLER=ffa0 2LETTER_A=ffc2 3AE=ffc3 3CHIEUCH=ffba 3CIEUC=ffb8
3E=ffc7 3EO=ffc6 3EU=ffda 3HIEUH=ffbe 3I=ffdc 3IEUNG=ffb7 3KHIEUKH=ffbb 3KIYEOK=ffa1
3KIYEOK-SIOS=ffa3 3MIEUM=ffb1 3NIEUN=ffa4 3NIEUN-CIEUC=ffa5 3NIEUN-HIEUH=ffa6 3O=ffcc 3OE=ffcf
3PHIEUPH=ffbd 3PIEUP=ffb2 3PIEUP-SIOS=ffb4 3RIEUL=ffa9 3RIEUL-HIEUH=ffb0 3RIEUL-KIYEOK=ffaa
3RIEUL-MIEUM=ffab 3RIEUL-PHIEUPH=ffaf 3RIEUL-PIEUP=ffac 3RIEUL-SIOS=ffad 3RIEUL-THIEUTH=ffae
3SIOS=ffb5 3SSANGCIEUC=ffb9 3SSANGKIYEOK=ffa2 3SSANGPIEUP=ffb3 3SSANGSIOS=ffb6 3SSANGTIKEUT=ffa8
3THIEUTH=ffbc 3TIKEUT=ffa7 3U=ffd3 3WA=ffcd 3WAE=ffce 3WE=ffd5 3WEO=ffd4 3WI=ffd6 3YA=ffc4
3YAE=ffc5 3YE=ffcb 3YEO=ffca 3YI=ffdb 3YO=ffd2 3YU=ffd7 1IDEOGRAPHIC_COMMA=ff64 2FULL_STOP=ff61
1KATAKANA_LETTER_A=ff71 3E=ff74 3HA=ff8a 3HE=ff8d 3HI=ff8b 3HO=ff8e 3HU=ff8c 3I=ff72 3KA=ff76
3KE=ff79 3KI=ff77 3KO=ff7a 3KU=ff78 3MA=ff8f 3ME=ff92 3MI=ff90 3MO=ff93 3MU=ff91 3N=ff9d 3NA=ff85
3NE=ff88 3NI=ff86 3NO=ff89 3NU=ff87 3O=ff75 3RA=ff97 3RE=ff9a 3RI=ff98 3RO=ff9b 3RU=ff99 3SA=ff7b
3SE=ff7e 3SI=ff7c 3SMALL_A=ff67 4E=ff6a 4I=ff68 4O=ff6b 4TU=ff6f 4U=ff69 4YA=ff6c 4YO=ff6e 4YU=ff6d
3SO=ff7f 3SU=ff7d 3TA=ff80 3TE=ff83 3TI=ff81 3TO=ff84 3TU=ff82 3U=ff73 3WA=ff9c 3WO=ff66 3YA=ff94
3YO=ff96 3YU=ff95 2MIDDLE_DOT=ff65 2SEMI-VOICED_SOUND_MARK=ff9f 2VOICED_SOUND_MARK=ff9e
1KATAKANA-HIRAGANA_PROLONGED_SOUND_MARK=ff70 1LEFT_CORNER_BRACKET=ff62 1LEFTWARDS_ARROW=ffe9
1RIGHT_CORNER_BRACKET=ff63 1RIGHTWARDS_ARROW=ffeb 1UPWARDS_ARROW=ffea 1WHITE_CIRCLE=ffee
0HAMBURGER=1f354 0HAMMER=1f528 1AND_PICK=2692 2SICKLE=262d 2WRENCH=1f6e0 0HAMSA=1faac
0HAMSTER_FACE=1f439 0HAND_WITH_INDEX_AND_MIDDLE_FINGERS_CROSSED=1f91e
3FINGER_AND_THUMB_CROSSED=1faf0 0HANDBAG=1f45c 0HANDBALL=1f93e 0HANDSHAKE=1f91d
0HANGUL_CHOSEONG_CEONGCHIEUMCHIEUCH=1155 2CEONGCHIEUMCIEUC=1150 2CEONGCHIEUMSIOS=113e
2CEONGCHIEUMSSANGCIEUC=1151 2CEONGCHIEUMSSANGSIOS=113f 2CHIEUCH=110e 2CHIEUCH-HIEUH=1153
2CHIEUCH-KHIEUKH=1152 2CHITUEUMCHIEUCH=1154 2CHITUEUMCIEUC=114e 2CHITUEUMSIOS=113c
2CHITUEUMSSANGCIEUC=114f 2CHITUEUMSSANGSIOS=113d 2CIEUC=110c 2CIEUC-IEUNG=114d 2FILLER=115f
2HIEUH=1112 2HIEUH-SIOS=a97b 2IEUNG=110b 2IEUNG-CHIEUCH=1149 2IEUNG-CIEUC=1148 2IEUNG-HIEUH=a977
2IEUNG-KIYEOK=1141 2IEUNG-MIEUM=1143 2IEUNG-PANSIOS=1146 2IEUNG-PHIEUPH=114b 2IEUNG-PIEUP=1144
2IEUNG-RIEUL=a976 2IEUNG-SIOS=1145 2IEUNG-THIEUTH=114a 2IEUNG-TIKEUT=1142 2KAPYEOUNMIEUM=111d
2KAPYEOUNPHIEUPH=1157 2KAPYEOUNPIEUP=112b 2KAPYEOUNRIEUL=111b 2KAPYEOUNSSANGPIEUP=112c
2KHIEUKH=110f 2KIYEOK=1100 2KIYEOK-TIKEUT=115a 2MIEUM=1106 2MIEUM-KIYEOK=a96f 2MIEUM-PIEUP=111c
2MIEUM-SIOS=a971 2MIEUM-TIKEUT=a970 2NIEUN=1102 2NIEUN-CIEUC=115c 2NIEUN-HIEUH=115d
2NIEUN-KIYEOK=1113 2NIEUN-PIEUP=1116 2NIEUN-SIOS=115b 2NIEUN-TIKEUT=1115 2PANSIOS=1140
2PHIEUPH=1111 2PHIEUPH-HIEUH=a97a 2PHIEUPH-PIEUP=1156 2PIEUP=1107 2PIEUP-CHIEUCH=1128
2PIEUP-CIEUC=1127 2PIEUP-HIEUH=a974 2PIEUP-KHIEUKH=a973 2PIEUP-KIYEOK=111e 2PIEUP-NIEUN=111f
2PIEUP-PHIEUPH=112a 2PIEUP-SIOS=1121 2PIEUP-SIOS-CIEUC=1126 2PIEUP-SIOS-KIYEOK=1122
2PIEUP-SIOS-PIEUP=1124 2PIEUP-SIOS-THIEUTH=a972 2PIEUP-SIOS-TIKEUT=1123 2PIEUP-SSANGSIOS=1125
2PIEUP-THIEUTH=1129 2PIEUP-TIKEUT=1120 2RIEUL=1105 2RIEUL-CIEUC=a96d 2RIEUL-HIEUH=111a
2RIEUL-KAPYEOUNPIEUP=a96b 2RIEUL-KHIEUKH=a96e 2RIEUL-KIYEOK=a964 2RIEUL-MIEUM=a968
2RIEUL-NIEUN=1118 2RIEUL-PIEUP=a969 2RIEUL-SIOS=a96c 2RIEUL-SSANGKIYEOK=a965 2RIEUL-SSANGPIEUP=a96a
2RIEUL-SSANGTIKEUT=a967 2RIEUL-TIKEUT=a966 2SIOS=1109 2SIOS-CHIEUCH=1137 2SIOS-CIEUC=1136
2SIOS-HIEUH=113b 2SIOS-IEUNG=1135 2SIOS-KHIEUKH=1138 2SIOS-KIYEOK=112d 2SIOS-MIEUM=1131
2SIOS-NIEUN=112e 2SIOS-PHIEUPH=113a 2SIOS-PIEUP=1132 2SIOS-PIEUP-KIYEOK=1133 2SIOS-RIEUL=1130
2SIOS-SSANGSIOS=1134 2SIOS-THIEUTH=1139 2SIOS-TIKEUT=112f 2SSANGCIEUC=110d 2SSANGCIEUC-HIEUH=a978
2SSANGHIEUH=1158 2SSANGIEUNG=1147 2SSANGKIYEOK=1101 2SSANGNIEUN=1114 2SSANGPIEUP=1108
2SSANGRIEUL=1119 2SSANGSIOS=110a 2SSANGSIOS-PIEUP=a975 2SSANGTHIEUTH=a979 2SSANGTIKEUT=1104
2SSANGYEORINHIEUH=a97c 2THIEUTH=1110 2TIKEUT=1103 2TIKEUT-CIEUC=a963 2TIKEUT-KIYEOK=1117
2TIKEUT-MIEUM=a960 2TIKEUT-PIEUP=a961 2TIKEUT-RIEUL=115e 2TIKEUT-SIOS=a962 2YEORINHIEUH=1159
2YESIEUNG=114c 1DOUBLE_DOT_TONE_MARK=302f 1FILLER=3164 1JONGSEONG_CHIEUCH=11be 2CIEUC=11bd
2CIEUC-PIEUP=d7f7 2CIEUC-SSANGPIEUP=d7f8 2HIEUH=11c2 2HIEUH-MIEUM=11f7 2HIEUH-NIEUN=11f5
2HIEUH-PIEUP=11f8 2HIEUH-RIEUL=11f6 2IEUNG=11bc 2IEUNG-KHIEUKH=11ef 2IEUNG-KIYEOK=11ec
2IEUNG-SSANGKIYEOK=11ed 2KAPYEOUNMIEUM=11e2 2KAPYEOUNPHIEUPH=11f4 2KAPYEOUNPIEUP=11e6
2KAPYEOUNRIEUL=d7dd 2KHIEUKH=11bf 2KIYEOK=11a8 2KIYEOK-CHIEUCH=11fc 2KIYEOK-HIEUH=11fe
2KIYEOK-KHIEUKH=11fd 2KIYEOK-NIEUN=11fa 2KIYEOK-PIEUP=11fb 2KIYEOK-RIEUL=11c3 2KIYEOK-SIOS=11aa
2KIYEOK-SIOS-KIYEOK=11c4 2MIEUM=11b7 2MIEUM-CHIEUCH=11e0 2MIEUM-CIEUC=d7e2 2MIEUM-HIEUH=11e1
2MIEUM-KIYEOK=11da 2MIEUM-NIEUN=d7de 2MIEUM-PANSIOS=11df 2MIEUM-PIEUP=11dc 2MIEUM-PIEUP-SIOS=d7e1
2MIEUM-RIEUL=11db 2MIEUM-SIOS=11dd 2MIEUM-SSANGNIEUN=d7df 2MIEUM-SSANGSIOS=11de 2NIEUN=11ab
2NIEUN-CHIEUCH=d7cc 2NIEUN-CIEUC=11ac 2NIEUN-HIEUH=11ad 2NIEUN-KIYEOK=11c5 2NIEUN-PANSIOS=11c8
2NIEUN-RIEUL=d7cb 2NIEUN-SIOS=11c7 2NIEUN-THIEUTH=11c9 2NIEUN-TIKEUT=11c6 2PANSIOS=11eb
2PANSIOS-KAPYEOUNPIEUP=d7f4 2PANSIOS-PIEUP=d7f3 2PHIEUPH=11c1 2PHIEUPH-PIEUP=11f3
2PHIEUPH-SIOS=d7fa 2PHIEUPH-THIEUTH=d7fb 2PIEUP=11b8 2PIEUP-CHIEUCH=d7e9 2PIEUP-CIEUC=d7e8
2PIEUP-HIEUH=11e5 2PIEUP-MIEUM=d7e5 2PIEUP-PHIEUPH=11e4 2PIEUP-RIEUL=11e3 2PIEUP-RIEUL-PHIEUPH=d7e4
2PIEUP-SIOS=11b9 2PIEUP-SIOS-TIKEUT=d7e7 2PIEUP-TIKEUT=d7e3 2RIEUL=11af 2RIEUL-HIEUH=11b6
2RIEUL-KAPYEOUNPIEUP=11d5 2RIEUL-KHIEUKH=11d8 2RIEUL-KIYEOK=11b0 2RIEUL-KIYEOK-HIEUH=d7d6
2RIEUL-KIYEOK-SIOS=11cc 2RIEUL-MIEUM=11b1 2RIEUL-MIEUM-HIEUH=d7d8 2RIEUL-MIEUM-KIYEOK=11d1
2RIEUL-MIEUM-SIOS=11d2 2RIEUL-NIEUN=11cd 2RIEUL-PANSIOS=11d7 2RIEUL-PHIEUPH=11b5 2RIEUL-PIEUP=11b2
2RIEUL-PIEUP-HIEUH=11d4 2RIEUL-PIEUP-PHIEUPH=d7da 2RIEUL-PIEUP-SIOS=11d3 2RIEUL-PIEUP-TIKEUT=d7d9
2RIEUL-SIOS=11b3 2RIEUL-SSANGKIYEOK=d7d5 2RIEUL-SSANGSIOS=11d6 2RIEUL-THIEUTH=11b4
2RIEUL-TIKEUT=11ce 2RIEUL-TIKEUT-HIEUH=11cf 2RIEUL-YEORINHIEUH=11d9 2RIEUL-YEORINHIEUH-HIEUH=d7dc
2RIEUL-YESIEUNG=d7db 2SIOS=11ba 2SIOS-CHIEUCH=d7f0 2SIOS-CIEUC=d7ef 2SIOS-HIEUH=d7f2
2SIOS-KAPYEOUNPIEUP=d7eb 2SIOS-KIYEOK=11e7 2SIOS-MIEUM=d7ea 2SIOS-PANSIOS=d7ee 2SIOS-PIEUP=11ea
2SIOS-RIEUL=11e9 2SIOS-THIEUTH=d7f1 2SIOS-TIKEUT=11e8 2SSANGCIEUC=d7f9 2SSANGIEUNG=11ee
2SSANGKIYEOK=11a9 2SSANGMIEUM=d7e0 2SSANGNIEUN=11ff 2SSANGPIEUP=d7e6 2SSANGRIEUL=11d0
2SSANGRIEUL-KHIEUKH=d7d7 2SSANGSIOS=11bb 2SSANGSIOS-KIYEOK=d7ec 2SSANGSIOS-TIKEUT=d7ed
2SSANGTIKEUT=d7cd 2SSANGTIKEUT-PIEUP=d7ce 2SSANGYESIEUNG=11ee 2THIEUTH=11c0 2TIKEUT=11ae
2TIKEUT-CHIEUCH=d7d3 2TIKEUT-CIEUC=d7d2 2TIKEUT-KIYEOK=11ca 2TIKEUT-PIEUP=d7cf 2TIKEUT-RIEUL=11cb
2TIKEUT-SIOS=d7d0 2TIKEUT-SIOS-KIYEOK=d7d1 2TIKEUT-THIEUTH=d7d4 2YEORINHIEUH=11f9 2YESIEUNG=11f0
2YESIEUNG-HIEUH=d7f6 2YESIEUNG-KHIEUKH=11ef 2YESIEUNG-KIYEOK=11ec 2YESIEUNG-MIEUM=d7f5
2YESIEUNG-PANSIOS=11f2 2YESIEUNG-SIOS=11f1 2YESIEUNG-SSANGKIYEOK=11ed 1JUNGSEONG_A=1161 2A-EU=11a3
2A-O=1176 2A-U=1177 2AE=1162 2ARAEA=119e 2ARAEA-A=d7c5 2ARAEA-E=d7c6 2ARAEA-EO=119f 2ARAEA-I=11a1
2ARAEA-U=11a0 2E=1166 2EO=1165 2EO-EU=117c 2EO-O=117a 2EO-U=117b 2EU=1173 2EU-A=d7b9 2EU-E=d7bb
2EU-EO=d7ba 2EU-EU=1196 2EU-O=d7bc 2EU-U=1195 2FILLER=1160 2I=1175 2I-A=1198 2I-ARAEA=119d
2I-EU=119c 2I-I=d7c4 2I-O=119a 2I-O-I=d7c1 2I-U=119b 2I-YA=1199 2I-YA-O=d7bd 2I-YAE=d7be 2I-YE=d7c0
2I-YEO=d7bf 2I-YO=d7c2 2I-YU=d7c3 2O=1169 2O-E=1180 2O-EO=117f 2O-O=1182 2O-O-I=d7b1 2O-U=1183
2O-YA=11a6 2O-YAE=11a7 2O-YE=1181 2O-YEO=d7b0 2OE=116c 2SSANGARAEA=11a2 2U=116e 2U-A=1189
2U-AE=118a 2U-EO-EU=118b 2U-I-I=d7b6 2U-U=118d 2U-YE=118c 2U-YEO=d7b5 2WA=116a 2WAE=116b 2WE=1170
2WEO=116f 2WI=1171 2YA=1163 2YA-O=1178 2YA-U=11a4 2YA-YO=1179 2YAE=1164 2YE=1168 2YEO=1167
2YEO-O=117d 2YEO-U=117e 2YEO-YA=11a5 2YI=1174 2YI-U=1197 2YO=116d 2YO-A=d7b2 2YO-AE=d7b3
2YO-EO=d7b4 2YO-I=1188 2YO-O=1187 2YO-YA=1184 2YO-YAE=1185 2YO-YEO=1186 2YU=1172 2YU-A=118e
2YU-AE=d7b7 2YU-E=1190 2YU-EO=118f 2YU-I=1194 2YU-O=d7b8 2YU-U=1193 2YU-YE=1192 2YU-YEO=1191
1LETTER_A=314f 2AE=3150 2ARAEA=318d 2ARAEAE=318e 2CHIEUCH=314a 2CIEUC=3148 2E=3154 2EO=3153
2EU=3161 2HIEUH=314e 2I=3163 2IEUNG=3147 2KAPYEOUNMIEUM=3171 2KAPYEOUNPHIEUPH=3184
2KAPYEOUNPIEUP=3178 2KAPYEOUNSSANGPIEUP=3179 2KHIEUKH=314b 2KIYEOK=3131 2KIYEOK-SIOS=3133
2MIEUM=3141 2MIEUM-PANSIOS=3170 2MIEUM-PIEUP=316e 2MIEUM-SIOS=316f 2NIEUN=3134 2NIEUN-CIEUC=3135
2NIEUN-HIEUH=3136 2NIEUN-PANSIOS=3168 2NIEUN-SIOS=3167 2NIEUN-TIKEUT=3166 2O=3157 2OE=315a
2PANSIOS=317f 2PHIEUPH=314d 2PIEUP=3142 2PIEUP-CIEUC=3176 2PIEUP-KIYEOK=3172 2PIEUP-SIOS=3144
2PIEUP-SIOS-KIYEOK=3174 2PIEUP-SIOS-TIKEUT=3175 2PIEUP-THIEUTH=3177 2PIEUP-TIKEUT=3173 2RIEUL=3139
2RIEUL-HIEUH=3140 2RIEUL-KIYEOK=313a 2RIEUL-KIYEOK-SIOS=3169 2RIEUL-MIEUM=313b 2RIEUL-PANSIOS=316c
2RIEUL-PHIEUPH=313f 2RIEUL-PIEUP=313c 2RIEUL-PIEUP-SIOS=316b 2RIEUL-SIOS=313d 2RIEUL-THIEUTH=313e
2RIEUL-TIKEUT=316a 2RIEUL-YEORINHIEUH=316d 2SIOS=3145 2SIOS-CIEUC=317e 2SIOS-KIYEOK=317a
2SIOS-NIEUN=317b 2SIOS-PIEUP=317d 2SIOS-TIKEUT=317c 2SSANGCIEUC=3149 2SSANGHIEUH=3185
2SSANGIEUNG=3180 2SSANGKIYEOK=3132 2SSANGNIEUN=3165 2SSANGPIEUP=3143 2SSANGSIOS=3146
2SSANGTIKEUT=3138 2THIEUTH=314c 2TIKEUT=3137 2U=315c 2WA=3158 2WAE=3159 2WE=315e 2WEO=315d 2WI=315f
2YA=3151 2YAE=3152 2YE=3156 2YEO=3155 2YEORINHIEUH=3186 2YESIEUNG=3181 2YESIEUNG-PANSIOS=3183
2YESIEUNG-SIOS=3182 2YI=3162 2YO=315b 2YO-I=3189 2YO-YA=3187 2YO-YAE=3188 2YU=3160 2YU-I=318c
2YU-YE=318b 2YU-YEO=318a 1SINGLE_DOT_TONE_MARK=302e 0HANGZHOU_NUMERAL_EIGHT=3028 2FIVE=3025
2FOUR=3024 2NINE=3029 2ONE=3021 2SEVEN=3027 2SIX=3026 2TEN=3038 2THIRTY=303a 2THREE=3023
2TWENTY=3039 2TWO=3022 0HANIFI_ROHINGYA_DIGIT_EIGHT=10d38 3FIVE=10d35 3FOUR=10d34 3NINE=10d39
3ONE=10d31 3SEVEN=10d37 3SIX=10d36 3THREE=10d33 3TWO=10d32 3ZERO=10d30 2LETTER_A=10d00 3BA=10d01
3CA=10d06 3DA=10d0a 3DDA=10d0b 3FA=10d09 3GA=10d12 3HA=10d07 3JA=10d05 3KA=10d11 3KHA=10d08
3KINNA_WA=10d17 4YA=10d19 3LA=10d13 3MA=10d14 3NA=10d15 3NGA=10d1a 3NYA=10d1b 3PA=10d02 3RA=10d0c
3RRA=10d0d 3SA=10d0f 3SHA=10d10 3TA=10d03 3TTA=10d04 3VA=10d1c 3WA=10d16 3YA=10d18 3ZA=10d0e
2MARK_NA_KHONNA=10d23 3SAKIN=10d22 2SIGN_HARBAHAY=10d24 3TAHALA=10d25 3TANA=10d26 3TASSI=10d27
2VOWEL_A=10d1d 3E=10d20 3I=10d1e 3O=10d21 3U=10d1f 0HANUNOO_LETTER_A=1720 2BA=172a 2DA=1727
2GA=1724 2HA=1731 2I=1721 2KA=1723 2LA=172e 2MA=172b 2NA=1728 2NGA=1725 2PA=1729 2RA=172d 2SA=1730
2TA=1726 2U=1722 2WA=172f 2YA=172c 1SIGN_PAMUDPOD=1734 1VOWEL_SIGN_I=1732 3U=1733
0HAPPY_PERSON_RAISING_ONE_HAND=1f64b 0HARD_DISK=1f5b4 0HATCHING_CHICK=1f423
0HATRAN_LETTER_ALEPH=108e0 2AYN=108ef 2BETH=108e1 2DALETH-RESH=108e3 2GIMEL=108e2 2HE=108e4
2HETH=108e7 2KAPH=108ea 2LAMEDH=108eb 2MEM=108ec 2NUN=108ed 2PE=108f0 2QOPH=108f2 2SADHE=108f1
2SAMEKH=108ee 2SHIN=108f4 2TAW=108f5 2TETH=108e8 2WAW=108e5 2YODH=108e9 2ZAYN=108e6
1NUMBER_FIVE=108fc 2ONE=108fb 3HUNDRED=108ff 2TEN=108fd 2TWENTY=108fe 0HEADPHONE=1f3a7
0HEADSTONE=1faa6 1GRAVEYARD_SYMBOL=26fc 0HEAR-NO-EVIL_MONKEY=1f649 0HEART_DECORATION=1f49f
1HANDS=1faf6 1WITH_ARROW=1f498 2RIBBON=1f49d 2TIP_ON_THE_LEFT=1f394 0HEAVY_AMPERSAND_ORNAMENT=1f674
1ARROW_SHAFT_WIDTH_ONE=1f89c 5HALF=1f89e 5THIRD=1f89f 4TWO_THIRDS=1f89d 1ASTERISK=2731
1BALLOT_X=2718 1BLACK_CURVED_DOWNWARDS_AND_RIGHTWARDS_ARROW=27a5 3UPWARDS_AND_RIGHTWARDS_ARROW=27a6
2HEART=2764 1BLACK-FEATHERED_NORTH_EAST_ARROW=27b9 2RIGHTWARDS_ARROW=27b8 2SOUTH_EAST_ARROW=27b7
1CHECK_MARK=2714 1CHEVRON_SNOWFLAKE=2746 1CIRCLE=2b58 2WITH_CIRCLE_INSIDE=2b57
3STROKE_AND_TWO_DOTS_ABOVE=26e3 1CIRCLED_SALTIRE=2b59 1CONCAVE-POINTED_BLACK_RIGHTWARDS_ARROW=27a8
1DASHED_TRIANGLE-HEADED_RIGHTWARDS_ARROW=27a0 1DIVISION_SIGN=2797 1DOLLAR_SIGN=1f4b2
1DOUBLE_COMMA_QUOTATION_MARK_ORNAMENT=275e 2TURNED_COMMA_QUOTATION_MARK_ORNAMENT=275d
1DOWNWARDS_ARROW_WITH_EQUILATERAL_ARROWHEAD=1f81b 4LARGE_EQUILATERAL_ARROWHEAD=1f81f
1EIGHT_POINTED_BLACK_STAR=1f7cf 3PINWHEEL_STAR=1f7d1 3RECTILINEAR_BLACK_STAR=2738
2SPOKED_ASTERISK=1f7be 2TEARDROP-SPOKED_PROPELLER_ASTERISK=274b 1EQUALS_SIGN=1f7f0
1EXCLAMATION_MARK_ORNAMENT=2762 3SYMBOL=2757 1FIVE_POINTED_BLACK_STAR=1f7ca 2SPOKED_ASTERISK=1f7b2
1FOUR_BALLOON-SPOKED_ASTERISK=2724 1GREEK_CROSS=271a 1HEART_EXCLAMATION_MARK_ORNAMENT=2763
1HORIZONTAL_FILL=1fb97 1INTERROBANG_ORNAMENT=1f679 1LARGE_CIRCLE=2b55 1LATIN_CROSS=1f547
1LEFT-POINTING_ANGLE_BRACKET_ORNAMENT=2770 3QUOTATION_MARK_ORNAMENT=276e
1LEFTWARDS_ARROW_WITH_EQUILATERAL_ARROWHEAD=1f818 4LARGE_EQUILATERAL_ARROWHEAD=1f81c
1LIGATURE_OPEN_ET_ORNAMENT=1f673 1LOW_DOUBLE_COMMA_QUOTATION_MARK_ORNAMENT=2760
2SINGLE_COMMA_QUOTATION_MARK_ORNAMENT=275f 1LOWER_RIGHT-SHADOWED_WHITE_RIGHTWARDS_ARROW=27ad
1MINUS_SIGN=2796 1MULTIPLICATION_X=2716 1NORTH_EAST_ARROW=279a 3POINTING_BUD=1f666 4VINE_LEAF=1f65e
2WEST_POINTING_BUD=1f664 4VINE_LEAF=1f65c 1OPEN_CENTRE_CROSS=271c 1OUTLINED_BLACK_STAR=272e
1OVAL_WITH_OVAL_INSIDE=2b56 1PLUS_SIGN=2795 1RIGHT-POINTING_ANGLE_BRACKET_ORNAMENT=2771
3QUOTATION_MARK_ORNAMENT=276f 1RIGHTWARDS_ARROW=2799 3WITH_EQUILATERAL_ARROWHEAD=1f81a
4LARGE_EQUILATERAL_ARROWHEAD=1f81e 1ROUND-TIPPED_RIGHTWARDS_ARROW=279c 1SALTIRE=1f7ac
1SANS-SERIF_INTERROBANG_ORNAMENT=1f67b 1SCRIPT_LIGATURE_ET_ORNAMENT=1f671
1SINGLE_COMMA_QUOTATION_MARK_ORNAMENT=275c 2TURNED_COMMA_QUOTATION_MARK_ORNAMENT=275b
1SIX_POINTED_BLACK_STAR=1f7cc 2SPOKED_ASTERISK=1f7b8 1SOUTH_EAST_ARROW=2798 3POINTING_BUD=1f667
4VINE_LEAF=1f65f 2WEST_POINTING_BUD=1f665 4VINE_LEAF=1f65d 1SPARKLE=2748
1TEARDROP-SHANKED_RIGHTWARDS_ARROW=27bb 1TEARDROP-SPOKED_ASTERISK=273d 2PINWHEEL_ASTERISK=2743
1TRIANGLE-HEADED_RIGHTWARDS_ARROW=279e 1TWELVE_POINTED_BLACK_STAR=1f7d3 3PINWHEEL_STAR=1f7d4
1UPPER_RIGHT-SHADOWED_WHITE_RIGHTWARDS_ARROW=27ae 1UPWARDS_ARROW_WITH_EQUILATERAL_ARROWHEAD=1f819
4LARGE_EQUILATERAL_ARROWHEAD=1f81d 1VERTICAL_BAR=275a 1WEDGE-TAILED_RIGHTWARDS_ARROW=27bd
1WHITE_CIRCLE=1f787 2DOWN-POINTING_TRIANGLE=26db 2SQUARE=1f791 1WIDE-HEADED_RIGHTWARDS_ARROW=2794
0HEBREW_ACCENT_ATNAH_HAFUKH=5a2 2DARGA=5a7 2DEHI=5ad 2ETNAHTA=591 2GERESH=59c 3MUQDAM=59d
2GERSHAYIM=59e 2ILUY=5ac 2MAHAPAKH=5a4 2MERKHA=5a5 3KEFULA=5a6 2MUNAH=5a3 2OLE=5ab 2PASHTA=599
2PAZER=5a1 2QADMA=5a8 2QARNEY_PARA=59f 2REVIA=597 2SEGOL=592 2SHALSHELET=593 2TELISHA_GEDOLA=5a0
3QETANA=5a9 2TEVIR=59b 2TIPEHA=596 2YERAH_BEN_YOMO=5aa 2YETIV=59a 2ZAQEF_GADOL=595 3QATAN=594
2ZARQA=598 2ZINOR=5ae 1LETTER_ALEF=5d0 3WITH_MAPIQ=fb30 4PATAH=fb2e 4QAMATS=fb2f
2ALTERNATIVE_AYIN=fb20 3PLUS_SIGN=fb29 2AYIN=5e2 2BET=5d1 3WITH_DAGESH=fb31 4RAFE=fb4c 2DALET=5d3
3WITH_DAGESH=fb33 2FINAL_KAF=5da 4WITH_DAGESH=fb3a 3MEM=5dd 3NUN=5df 3PE=5e3 4WITH_DAGESH=fb43
3TSADI=5e5 2GIMEL=5d2 3WITH_DAGESH=fb32 2HE=5d4 3WITH_MAPIQ=fb34 2HET=5d7 2KAF=5db
3WITH_DAGESH=fb3b 4RAFE=fb4d 2LAMED=5dc 3WITH_DAGESH=fb3c 2MEM=5de 3WITH_DAGESH=fb3e 2NUN=5e0
3WITH_DAGESH=fb40 2PE=5e4 3WITH_DAGESH=fb44 4RAFE=fb4e 2QOF=5e7 3WITH_DAGESH=fb47 2RESH=5e8
3WITH_DAGESH=fb48 2SAMEKH=5e1 3WITH_DAGESH=fb41 2SHIN=5e9 3WITH_DAGESH=fb49 5AND_SHIN_DOT=fb2c
6SIN_DOT=fb2d 4SHIN_DOT=fb2a 4SIN_DOT=fb2b 2TAV=5ea 3WITH_DAGESH=fb4a 2TET=5d8 3WITH_DAGESH=fb38
2TSADI=5e6 3WITH_DAGESH=fb46 2VAV=5d5 3WITH_DAGESH=fb35 4HOLAM=fb4b 2WIDE_ALEF=fb21 3DALET=fb22
3FINAL_MEM=fb26 3HE=fb23 3KAF=fb24 3LAMED=fb25 3RESH=fb27 3TAV=fb28 2YOD=5d9 3WITH_DAGESH=fb39
4HIRIQ=fb1d 2ZAYIN=5d6 3WITH_DAGESH=fb36 1LIGATURE_ALEF_LAMED=fb4f 2YIDDISH_DOUBLE_VAV=5f0 4YOD=5f2
3VAV_YOD=5f1 3YOD_YOD_PATAH=fb1f 1MARK_LOWER_DOT=5c5 2MASORA_CIRCLE=5af 2UPPER_DOT=5c4
1POINT_DAGESH_OR_MAPIQ=5bc 2HATAF_PATAH=5b2 3QAMATS=5b3 3SEGOL=5b1 2HIRIQ=5b4 2HOLAM=5b9
3HASER_FOR_VAV=5ba 2JUDEO-SPANISH_VARIKA=fb1e 2METEG=5bd 2PATAH=5b7 2QAMATS=5b8 3QATAN=5c7
2QUBUTS=5bb 2RAFE=5bf 2SEGOL=5b6 2SHEVA=5b0 2SHIN_DOT=5c1 2SIN_DOT=5c2 2TSERE=5b5
1PUNCTUATION_GERESH=5f3 2GERSHAYIM=5f4 2MAQAF=5be 2NUN_HAFUKHA=5c6 2PASEQ=5c0 2SOF_PASUQ=5c3
1YOD_TRIANGLE=5ef 0HEDGEHOG=1f994 0HELICOPTER=1f681 0HELLSCHREIBER_PAUSE_SYMBOL=2bff
0HELM_SYMBOL=2388 0HELMET_WITH_WHITE_CROSS=26d1 0HENTAIGANA_LETTER_A-1=1b002 2A-2=1b003 2A-3=1b004
2A-WO=1b005 2E-1=1b001 2E-2=1b00f 2E-3=1b010 2E-4=1b011 2E-5=1b012 2E-6=1b013 2HA-1=1b09e
2HA-10=1b0a7 2HA-11=1b0a8 2HA-2=1b09f 2HA-3=1b0a0 2HA-4=1b0a1 2HA-5=1b0a2 2HA-6=1b0a3 2HA-7=1b0a4
2HA-8=1b0a5 2HA-9=1b0a6 2HE-1=1b0b3 2HE-2=1b0b4 2HE-3=1b0b5 2HE-4=1b0b6 2HE-5=1b0b7 2HE-6=1b0b8
2HE-7=1b0b9 2HI-1=1b0a9 2HI-2=1b0aa 2HI-3=1b0ab 2HI-4=1b0ac 2HI-5=1b0ad 2HI-6=1b0ae 2HI-7=1b0af
2HO-1=1b0ba 2HO-2=1b0bb 2HO-3=1b0bc 2HO-4=1b0bd 2HO-5=1b0be 2HO-6=1b0bf 2HO-7=1b0c0 2HO-8=1b0c1
2HU-1=1b0b0 2HU-2=1b0b1 2HU-3=1b0b2 2I-1=1b006 2I-2=1b007 2I-3=1b008 2I-4=1b009 2KA-1=1b017
2KA-10=1b020 2KA-11=1b021 2KA-2=1b018 2KA-3=1b019 2KA-4=1b01a 2KA-5=1b01b 2KA-6=1b01c 2KA-7=1b01d
2KA-8=1b01e 2KA-9=1b01f 2KA-KE=1b022 2KE-1=1b032 2KE-2=1b033 2KE-3=1b034 2KE-4=1b035 2KE-5=1b036
2KE-6=1b037 2KI-1=1b023 2KI-2=1b024 2KI-3=1b025 2KI-4=1b026 2KI-5=1b027 2KI-6=1b028 2KI-7=1b029
2KI-8=1b02a 2KO-1=1b038 2KO-2=1b039 2KO-3=1b03a 2KO-KI=1b03b 2KU-1=1b02b 2KU-2=1b02c 2KU-3=1b02d
2KU-4=1b02e 2KU-5=1b02f 2KU-6=1b030 2KU-7=1b031 2MA-1=1b0c2 2MA-2=1b0c3 2MA-3=1b0c4 2MA-4=1b0c5
2MA-5=1b0c6 2MA-6=1b0c7 2MA-7=1b0c8 2ME-1=1b0d4 2ME-2=1b0d5 2ME-MA=1b0d6 2MI-1=1b0c9 2MI-2=1b0ca
2MI-3=1b0cb 2MI-4=1b0cc 2MI-5=1b0cd 2MI-6=1b0ce 2MI-7=1b0cf 2MO-1=1b0d7 2MO-2=1b0d8 2MO-3=1b0d9
2MO-4=1b0da 2MO-5=1b0db 2MO-6=1b0dc 2MU-1=1b0d0 2MU-2=1b0d1 2MU-3=1b0d2 2MU-4=1b0d3
2N-MU-MO-1=1b11d 2N-MU-MO-2=1b11e 2NA-1=1b07e 2NA-2=1b07f 2NA-3=1b080 2NA-4=1b081 2NA-5=1b082
2NA-6=1b083 2NA-7=1b084 2NA-8=1b085 2NA-9=1b086 2NE-1=1b092 2NE-2=1b093 2NE-3=1b094 2NE-4=1b095
2NE-5=1b096 2NE-6=1b097 2NE-KO=1b098 2NI-1=1b087 2NI-2=1b088 2NI-3=1b089 2NI-4=1b08a 2NI-5=1b08b
2NI-6=1b08c 2NI-7=1b08d 2NI-TE=1b08e 2NO-1=1b099 2NO-2=1b09a 2NO-3=1b09b 2NO-4=1b09c 2NO-5=1b09d
2NU-1=1b08f 2NU-2=1b090 2NU-3=1b091 2O-1=1b014 2O-2=1b015 2O-3=1b016 2RA-1=1b0ed 2RA-2=1b0ee
2RA-3=1b0ef 2RA-4=1b0f0 2RE-1=1b0fe 2RE-2=1b0ff 2RE-3=1b100 2RE-4=1b101 2RI-1=1b0f1 2RI-2=1b0f2
2RI-3=1b0f3 2RI-4=1b0f4 2RI-5=1b0f5 2RI-6=1b0f6 2RI-7=1b0f7 2RO-1=1b102 2RO-2=1b103 2RO-3=1b104
2RO-4=1b105 2RO-5=1b106 2RO-6=1b107 2RU-1=1b0f8 2RU-2=1b0f9 2RU-3=1b0fa 2RU-4=1b0fb 2RU-5=1b0fc
2RU-6=1b0fd 2SA-1=1b03c 2SA-2=1b03d 2SA-3=1b03e 2SA-4=1b03f 2SA-5=1b040 2SA-6=1b041 2SA-7=1b042
2SA-8=1b043 2SE-1=1b052 2SE-2=1b053 2SE-3=1b054 2SE-4=1b055 2SE-5=1b056 2SI-1=1b044 2SI-2=1b045
2SI-3=1b046 2SI-4=1b047 2SI-5=1b048 2SI-6=1b049 2SO-1=1b057 2SO-2=1b058 2SO-3=1b059 2SO-4=1b05a
2SO-5=1b05b 2SO-6=1b05c 2SO-7=1b05d 2SU-1=1b04a 2SU-2=1b04b 2SU-3=1b04c 2SU-4=1b04d 2SU-5=1b04e
2SU-6=1b04f 2SU-7=1b050 2SU-8=1b051 2TA-1=1b05e 2TA-2=1b05f 2TA-3=1b060 2TA-4=1b061 2TE-1=1b06e
2TE-2=1b06f 2TE-3=1b070 2TE-4=1b071 2TE-5=1b072 2TE-6=1b073 2TE-7=1b074 2TE-8=1b075 2TE-9=1b076
2TI-1=1b062 2TI-2=1b063 2TI-3=1b064 2TI-4=1b065 2TI-5=1b066 2TI-6=1b067 2TI-7=1b068 2TO-1=1b077
2TO-2=1b078 2TO-3=1b079 2TO-4=1b07a 2TO-5=1b07b 2TO-6=1b07c 2TO-RA=1b07d 2TU-1=1b069 2TU-2=1b06a
2TU-3=1b06b 2TU-4=1b06c 2TU-TO=1b06d 2U-1=1b00a 2U-2=1b00b 2U-3=1b00c 2U-4=1b00d 2U-5=1b00e
2WA-1=1b108 2WA-2=1b109 2WA-3=1b10a 2WA-4=1b10b 2WA-5=1b10c 2WE-1=1b112 2WE-2=1b113 2WE-3=1b114
2WE-4=1b115 2WI-1=1b10d 2WI-2=1b10e 2WI-3=1b10f 2WI-4=1b110 2WI-5=1b111 2WO-1=1b116 2WO-2=1b117
2WO-3=1b118 2WO-4=1b119 2WO-5=1b11a 2WO-6=1b11b 2WO-7=1b11c 2YA-1=1b0dd 2YA-2=1b0de 2YA-3=1b0df
2YA-4=1b0e0 2YA-5=1b0e1 2YA-YO=1b0e2 2YO-1=1b0e7 2YO-2=1b0e8 2YO-3=1b0e9 2YO-4=1b0ea 2YO-5=1b0eb
2YO-6=1b0ec 2YU-1=1b0e3 2YU-2=1b0e4 2YU-3=1b0e5 2YU-4=1b0e6 0HERB=1f33f
0HERMITIAN_CONJUGATE_MATRIX=22b9 0HEXAGRAM_FOR_ABUNDANCE=4df6 2AFTER_COMPLETION=4dfe 2APPROACH=4dd2
2BEFORE_COMPLETION=4dff 2BITING_THROUGH=4dd4 2BREAKTHROUGH=4dea 2COMING_TO_MEET=4deb 2CONFLICT=4dc5
2CONTEMPLATION=4dd3 2DARKENING_OF_THE_LIGHT=4de3 2DECREASE=4de8 2DELIVERANCE=4de7 2DEVELOPMENT=4df4
2DIFFICULTY_AT_THE_BEGINNING=4dc2 2DISPERSION=4dfa 2DURATION=4ddf 2ENTHUSIASM=4dcf 2FELLOWSHIP=4dcc
2FOLLOWING=4dd0 2GATHERING_TOGETHER=4dec 2GRACE=4dd5 2GREAT_POSSESSION=4dcd 3POWER=4de1
3PREPONDERANCE=4ddb 3TAMING=4dd9 2HOLDING_TOGETHER=4dc7 2INCREASE=4de9 2INFLUENCE=4dde
2INNER_TRUTH=4dfc 2INNOCENCE=4dd8 2LIMITATION=4dfb 2MODESTY=4dce 2MOUTH_CORNERS=4dda
2OBSTRUCTION=4de6 2OPPOSITION=4de5 2OPPRESSION=4dee 2PEACE=4dca 2PROGRESS=4de2 2PUSHING_UPWARD=4ded
2RETREAT=4de0 2RETURN=4dd7 2REVOLUTION=4df0 2SMALL_PREPONDERANCE=4dfd 3TAMING=4dc8
2SPLITTING_APART=4dd6 2STANDSTILL=4dcb 2THE_ABYSMAL_WATER=4ddc 3ARMY=4dc6 3AROUSING_THUNDER=4df2
3CAULDRON=4df1 3CLINGING_FIRE=4ddd 3CREATIVE_HEAVEN=4dc0 3FAMILY=4de4 3GENTLE_WIND=4df8
3JOYOUS_LAKE=4df9 3KEEPING_STILL_MOUNTAIN=4df3 3MARRYING_MAIDEN=4df5 3RECEPTIVE_EARTH=4dc1
3WANDERER=4df7 3WELL=4def 2TREADING=4dc9 2WAITING=4dc4 2WORK_ON_THE_DECAYED=4dd1
2YOUTHFUL_FOLLY=4dc3 0HIBISCUS=1f33a 0HIGH_BRIGHTNESS_SYMBOL=1f506 1OCTET_PRESET=81
1VOLTAGE_SIGN=26a1 0HIGH-HEELED_SHOE=1f460 0HIGH-SPEED_TRAIN=1f684 2WITH_BULLET_NOSE=1f685
0HIKING_BOOT=1f97e 0HINDU_TEMPLE=1f6d5 0HIPPOPOTAMUS=1f99b 0HIRAGANA_DIGRAPH_YORI=309f
1ITERATION_MARK=309d 1LETTER_A=3042 2ARCHAIC_WU=1b11f 3YE=1b001 2BA=3070 2BE=3079 2BI=3073 2BO=307c
2BU=3076 2DA=3060 2DE=3067 2DI=3062 2DO=3069 2DU=3065 2E=3048 2GA=304c 2GE=3052 2GI=304e 2GO=3054
2GU=3050 2HA=306f 2HE=3078 2HI=3072 2HO=307b 2HU=3075 2I=3044 2KA=304b 2KE=3051 2KI=304d 2KO=3053
2KU=304f 2MA=307e 2ME=3081 2MI=307f 2MO=3082 2MU=3080 2N=3093 2NA=306a 2NE=306d 2NI=306b 2NO=306e
2NU=306c 2O=304a 2PA=3071 2PE=307a 2PI=3074 2PO=307d 2PU=3077 2RA=3089 2RE=308c 2RI=308a 2RO=308d
2RU=308b 2SA=3055 2SE=305b 2SI=3057 2SMALL_A=3041 3E=3047 3I=3043 3KA=3095 3KE=3096 3O=3049
3TU=3063 3U=3045 3WA=308e 3WE=1b151 3WI=1b150 3WO=1b152 3YA=3083 3YO=3087 3YU=3085 2SO=305d
2SU=3059 2TA=305f 2TE=3066 2TI=3061 2TO=3068 2TU=3064 2U=3046 2VU=3094 2WA=308f 2WE=3091 2WI=3090
2WO=3092 2YA=3084 2YO=3088 2YU=3086 2ZA=3056 2ZE=305c 2ZI=3058 2ZO=305e 2ZU=305a
1VOICED_ITERATION_MARK=309e 0HISTORIC_SITE=26ec 0HOCHO=1f52a 0HOLE=1f573
0HOLLOW_QUILT_SQUARE_ORNAMENT=1f668 4IN_BLACK_SQUARE=1f669 0HOMOTHETIC=223b 0HONEY_POT=1f36f
0HONEYBEE=1f41d 0HOOK=1fa9d 0HOP=81 0HORIZONTAL_BAR=2015 1BLACK_HEXAGON=2b23 2OCTAGON=2bc3
1ELLIPSIS=2026 1LINE_EXTENSION=23af 1MALE_WITH_STROKE_SIGN=26a9 1ONE_EIGHTH_BLOCK-1358=1fb81
3BLOCK-2=1fb76 3BLOCK-3=1fb77 3BLOCK-4=1fb78 3BLOCK-5=1fb79 3BLOCK-6=1fb7a 3BLOCK-7=1fb7b
1SCAN_LINE-1=23ba 2LINE-3=23bb 2LINE-7=23bc 2LINE-9=23bd 1TAB_KEY=2b7e 1TABULATION=9 2SET=88
2WITH_JUSTIFICATION=89 1TRAFFIC_LIGHT=1f6a5 0HORSE=1f40e 1FACE=1f434 1RACING=1f3c7 0HOSPITAL=1f3e5
0HOT_BEVERAGE=2615 1DOG=1f32d 1PEPPER=1f336 1SPRINGS=2668 0HOTEL=1f3e8 0HOURGLASS=231b
1WITH_FLOWING_SAND=23f3 0HOUSE=2302 1BUILDING=1f3e0 1BUILDINGS=1f3d8 1WITH_GARDEN=1f3e1
0HRYVNIA_SIGN=20b4 0HT=9 0HTJ=89 0HTS=88 0HUGGING_FACE=1f917 0HUNDRED_POINTS_SYMBOL=1f4af
0HUSHED_FACE=1f62f 0HUT=1f6d6 0HYGIEA=2bda 0HYPHEN=2010 1BULLET=2043 1WITH_DIAERESIS=2e1a
0HYPHEN-MINUS=2d 0HYPHENATION_POINT=2027 0HYPODIASTOLE=2e12 0HYSTERESIS_SYMBOL=238e"

/-- Names that begin with `I`. -/
def namesI : String :=
  "0I_LOVE_YOU_HAND_SIGN=1f91f 0ICE_CREAM=1f368 1CUBE=1f9ca 1HOCKEY_STICK_AND_PUCK=1f3d2
1SKATE=26f8 0IDENTICAL_TO=2261 2AND_SLANTED_PARALLEL=29e5 1WITH_DOT_ABOVE=2a67
0IDENTIFICATION_CARD=1faaa 0IDEOGRAPHIC_ANNOTATION_BOTTOM_MARK=3198 2EARTH_MARK=319e
2FIRST_MARK=3199 2FOUR_MARK=3195 2FOURTH_MARK=319c 2HEAVEN_MARK=319d 2LINKING_MARK=3190
2MAN_MARK=319f 2MIDDLE_MARK=3197 2ONE_MARK=3192 2REVERSE_MARK=3191 2SECOND_MARK=319a
2THIRD_MARK=319b 2THREE_MARK=3194 2TOP_MARK=3196 2TWO_MARK=3193 1CLOSING_MARK=3006 1COMMA=3001
1DEPARTING_TONE_MARK=302c 1DESCRIPTION_CHARACTER_ABOVE_TO_BELOW=2ff1 5MIDDLE_AND_BELOW=2ff3
3FULL_SURROUND=2ff4 3LEFT_TO_MIDDLE_AND_RIGHT=2ff2 5RIGHT=2ff0 3OVERLAID=2ffb
3SURROUND_FROM_ABOVE=2ff5 5BELOW=2ff6 5LEFT=2ff7 5LOWER_LEFT=2ffa 5UPPER_LEFT=2ff8 6RIGHT=2ff9
1ENTERING_TONE_MARK=302d 1FULL_STOP=3002 1HALF_FILL_SPACE=303f 1ITERATION_MARK=3005
1LEVEL_TONE_MARK=302a 1NUMBER_ZERO=3007 1RISING_TONE_MARK=302b 1SPACE=3000 1TALLY_MARK_FIVE=1d376
3FOUR=1d375 3ONE=1d372 3THREE=1d374 3TWO=1d373 1TELEGRAPH_LINE_FEED_SEPARATOR_SYMBOL=3037
2SYMBOL_FOR_APRIL=32c3 4AUGUST=32c7 4DAY_EIGHT=33e7 5EIGHTEEN=33f1 5ELEVEN=33ea 5FIFTEEN=33ee
5FIVE=33e4 5FOUR=33e3 5FOURTEEN=33ed 5NINE=33e8 5NINETEEN=33f2 5ONE=33e0 5SEVEN=33e6
5SEVENTEEN=33f0 5SIX=33e5 5SIXTEEN=33ef 5TEN=33e9 5THIRTEEN=33ec 5THIRTY=33fd 5THIRTY-ONE=33fe
5THREE=33e2 5TWELVE=33eb 5TWENTY=33f3 5TWENTY-EIGHT=33fb 5TWENTY-FIVE=33f8 5TWENTY-FOUR=33f7
5TWENTY-NINE=33fc 5TWENTY-ONE=33f4 5TWENTY-SEVEN=33fa 5TWENTY-SIX=33f9 5TWENTY-THREE=33f6
5TWENTY-TWO=33f5 5TWO=33e1 4DECEMBER=32cb 4FEBRUARY=32c1 4HOUR_EIGHT=3360 5EIGHTEEN=336a
5ELEVEN=3363 5FIFTEEN=3367 5FIVE=335d 5FOUR=335c 5FOURTEEN=3366 5NINE=3361 5NINETEEN=336b 5ONE=3359
5SEVEN=335f 5SEVENTEEN=3369 5SIX=335e 5SIXTEEN=3368 5TEN=3362 5THIRTEEN=3365 5THREE=335b
5TWELVE=3364 5TWENTY=336c 5TWENTY-FOUR=3370 5TWENTY-ONE=336d 5TWENTY-THREE=336f 5TWENTY-TWO=336e
5TWO=335a 5ZERO=3358 4JANUARY=32c0 4JULY=32c6 4JUNE=32c5 4MARCH=32c2 4MAY=32c4 4NOVEMBER=32ca
4OCTOBER=32c9 4SEPTEMBER=32c8 1VARIATION_INDICATOR=303e 0IMAGE_OF=22b7
2OR_APPROXIMATELY_EQUAL_TO=2253 0IMP=1f47f 0IMPERIAL_ARAMAIC_LETTER_ALEPH=10840 3AYIN=1084f
3BETH=10841 3DALETH=10843 3GIMEL=10842 3HE=10844 3HETH=10847 3KAPH=1084a 3LAMEDH=1084b 3MEM=1084c
3NUN=1084d 3PE=10850 3QOPH=10852 3RESH=10853 3SADHE=10851 3SAMEKH=1084e 3SHIN=10854 3TAW=10855
3TETH=10848 3WAW=10845 3YODH=10849 3ZAYIN=10846 2NUMBER_ONE=10858 4HUNDRED=1085d 4THOUSAND=1085e
3TEN=1085b 4THOUSAND=1085f 3THREE=1085a 3TWENTY=1085c 3TWO=10859 2SECTION_SIGN=10857
0INBOX_TRAY=1f4e5 0INCOMING_ENVELOPE=1f4e8 0INCOMPLETE_INFINITY=29dc
0INCREASE_FONT_SIZE_SYMBOL=1f5da 0INCREASES_AS=29e1 0INCREMENT=2206 0IND=84 0INDEX=84
1POINTING_AT_THE_VIEWER=1faf5 0INDIAN_RUPEE_SIGN=20b9 0INDIC_SIYAQ_ALTERNATE_LAKH_MARK=1ecb4
2FRACTION_ONE_HALF=1ecae 4QUARTER=1ecad 3THREE_QUARTERS=1ecaf 2LAKH_MARK=1eca0
2NUMBER_ALTERNATE_ONE=1ecb1 4TEN_THOUSAND=1ecb3 4TWO=1ecb2 3EIGHT=1ec78 4HUNDRED=1ec8a
4THOUSAND=1ec93 3EIGHTY=1ec81 4THOUSAND=1ec9c 3FIFTY=1ec7e 4THOUSAND=1ec99 3FIVE=1ec75
4HUNDRED=1ec87 4THOUSAND=1ec90 3FORTY=1ec7d 4THOUSAND=1ec98 3FOUR=1ec74 4HUNDRED=1ec86
4THOUSAND=1ec8f 3KAROR=1eca1 3KARORAN=1eca2 3LAKH=1ec9e 3LAKHAN=1ec9f 3NINE=1ec79 4HUNDRED=1ec8b
4THOUSAND=1ec94 3NINETY=1ec82 4THOUSAND=1ec9d 3ONE=1ec71 4HUNDRED=1ec83 4THOUSAND=1ec8c
3PREFIXED_EIGHT=1ecaa 4FIVE=1eca7 4FOUR=1eca6 4NINE=1ecab 4ONE=1eca3 4SEVEN=1eca9 4SIX=1eca8
4THREE=1eca5 4TWO=1eca4 3SEVEN=1ec77 4HUNDRED=1ec89 4THOUSAND=1ec92 3SEVENTY=1ec80 4THOUSAND=1ec9b
3SIX=1ec76 4HUNDRED=1ec88 4THOUSAND=1ec91 3SIXTY=1ec7f 4THOUSAND=1ec9a 3TEN=1ec7a 4THOUSAND=1ec95
3THIRTY=1ec7c 4THOUSAND=1ec97 3THREE=1ec73 4HUNDRED=1ec85 4THOUSAND=1ec8e 3TWENTY=1ec7b
4THOUSAND=1ec96 3TWO=1ec72 4HUNDRED=1ec84 4THOUSAND=1ec8d 2PLACEHOLDER=1ecac 2RUPEE_MARK=1ecb0
0INFINITY=221e 1NEGATED_WITH_VERTICAL_BAR=29de 0INFORMATION_DESK_PERSON=1f481 1SEPARATOR_FOUR=1c
2ONE=1f 2THREE=1d 2TWO=1e 1SOURCE=2139 0INHIBIT_ARABIC_FORM_SHAPING=206c 1SYMMETRIC_SWAPPING=206a
0INPUT_SYMBOL_FOR_LATIN_CAPITAL_LETTERS=1f520 4LETTERS=1f524 4SMALL_LETTERS=1f521 3NUMBERS=1f522
3SYMBOLS=1f523 0INSCRIPTIONAL_PAHLAVI_LETTER_ALEPH=10b60 3BETH=10b61 3DALETH=10b63 3GIMEL=10b62
3HE=10b64 3HETH=10b67 3KAPH=10b6a 3LAMEDH=10b6b 3MEM-QOPH=10b6c 3NUN=10b6d 3PE=10b6f 3SADHE=10b70
3SAMEKH=10b6e 3SHIN=10b71 3TAW=10b72 3TETH=10b68 3WAW-AYIN-RESH=10b65 3YODH=10b69 3ZAYIN=10b66
2NUMBER_FOUR=10b7b 3ONE=10b78 4HUNDRED=10b7e 4THOUSAND=10b7f 3TEN=10b7c 3THREE=10b7a 3TWENTY=10b7d
3TWO=10b79 1PARTHIAN_LETTER_ALEPH=10b40 3AYIN=10b4f 3BETH=10b41 3DALETH=10b43 3GIMEL=10b42
3HE=10b44 3HETH=10b47 3KAPH=10b4a 3LAMEDH=10b4b 3MEM=10b4c 3NUN=10b4d 3PE=10b50 3QOPH=10b52
3RESH=10b53 3SADHE=10b51 3SAMEKH=10b4e 3SHIN=10b54 3TAW=10b55 3TETH=10b48 3WAW=10b45 3YODH=10b49
3ZAYIN=10b46 2NUMBER_FOUR=10b5b 3ONE=10b58 4HUNDRED=10b5e 4THOUSAND=10b5f 3TEN=10b5c 3THREE=10b5a
3TWENTY=10b5d 3TWO=10b59 0INSERTION_SYMBOL=2380 0INTEGRAL=222b 1AROUND_A_POINT_OPERATOR=2a15
1AVERAGE_WITH_SLASH=2a0f 1EXTENSION=23ae 1WITH_DOUBLE_STROKE=2a0e 2INTERSECTION=2a19
2LEFTWARDS_ARROW_WITH_HOOK=2a17 2OVERBAR=2a1b 2TIMES_SIGN=2a18 2UNDERBAR=2a1c 2UNION=2a1a
0INTERCALATE=22ba 0INTERIOR_PRODUCT=2a3c 0INTERLINEAR_ANNOTATION_ANCHOR=fff9 2SEPARATOR=fffa
2TERMINATOR=fffb 0INTERLOCKED_FEMALE_AND_MALE_SIGN=26a4 0INTERROBANG=203d 0INTERSECTION=2229
1ABOVE_BAR_ABOVE_UNION=2a49 2UNION=2a47 1BESIDE_AND_JOINED_WITH_INTERSECTION=2a4b 1WITH_DOT=2a40
2LOGICAL_AND=2a44 2OVERBAR=2a43 0INVERSE_BULLET=25d8 1CHECK_MARK=1fbb1 1CHECKER_BOARD_FILL=1fb96
1DOWNWARDS_ARROW_WITH_TIP_LEFTWARDS=1fbb4 1MEDIUM_SHADE=1fb90 1WHITE_CIRCLE=25d9
0INVERTED_EXCLAMATION_MARK=a1 1INTERROBANG=2e18 1LAZY_S=223e 1LOW_KAVYKA=2e45
3WITH_KAVYKA_ABOVE=2e46 1OHM_SIGN=2127 1PENTAGRAM=26e7 1QUESTION_MARK=bf 1UNDERTIE=2054
0INVISIBLE_PLUS=2064 1SEPARATOR=2063 1TIMES=2062 0IZAKAYA_LANTERN=1f3ee"

/-- Names that begin with `J`. -/
def namesJ : String :=
  "0JACK-O-LANTERN=1f383 0JAPANESE_BANK_SYMBOL=26fb 1CASTLE=1f3ef 1DOLLS=1f38e 1GOBLIN=1f47a
1INDUSTRIAL_STANDARD_SYMBOL=3004 1OGRE=1f479 1POST_OFFICE=1f3e3 1SYMBOL_FOR_BEGINNER=1f530
0JAR=1fad9 0JAVANESE_CONSONANT_SIGN_CAKRA=a9bf 3KERET=a9bd 3PENGKAL=a9be 1DIGIT_EIGHT=a9d8
2FIVE=a9d5 2FOUR=a9d4 2NINE=a9d9 2ONE=a9d1 2SEVEN=a9d7 2SIX=a9d6 2THREE=a9d3 2TWO=a9d2 2ZERO=a9d0
1LEFT_RERENGGAN=a9c1 1LETTER_A=a984 2AI=a98d 2BA=a9a7 3MURDA=a9a8 2CA=a995 3MURDA=a996 2DA=a9a2
3MAHAPRANA=a9a3 2DDA=a99d 3MAHAPRANA=a99e 2E=a98c 2GA=a992 3MURDA=a993 2HA=a9b2 2I=a986 3KAWI=a985
2II=a987 2JA=a997 3MAHAPRANA=a999 2KA=a98f 3MURDA=a991 3SASAK=a990 2LA=a9ad 2MA=a9a9 2NA=a9a4
3MURDA=a99f 2NGA=a994 3LELET=a98a 4RASWADI=a98b 2NYA=a99a 3MURDA=a998 2O=a98e 2PA=a9a5 3CEREK=a989
3MURDA=a9a6 2RA=a9ab 3AGUNG=a9ac 2SA=a9b1 3MAHAPRANA=a9b0 3MURDA=a9af 2TA=a9a0 3MURDA=a9a1
2TTA=a99b 3MAHAPRANA=a99c 2U=a988 2WA=a9ae 2YA=a9aa 1PADA_ADEG=a9ca 3ADEG=a9cb 2ANDAP=a9c3
2ISEN-ISEN=a9df 2LINGSA=a9c8 2LUHUR=a9c5 2LUNGSI=a9c9 2MADYA=a9c4 2PANGKAT=a9c7 2PISELEH=a9cc
2TIRTA_TUMETES=a9de 2WINDU=a9c6 1PANGKON=a9c0 1PANGRANGKEP=a9cf 1RIGHT_RERENGGAN=a9c2
1SIGN_CECAK=a981 3TELU=a9b3 2LAYAR=a982 2PANYANGGA=a980 2WIGNYAN=a983 1TURNED_PADA_PISELEH=a9cd
1VOWEL_SIGN_DIRGA_MURE=a9bb 3PEPET=a9bc 3SUKU=a9b8 4MENDUT=a9b9 3TALING=a9ba 3TARUNG=a9b4
3TOLONG=a9b5 3WULU=a9b6 4MELIK=a9b7 0JEANS=1f456 0JIGSAW_PUZZLE_PIECE=1f9e9 0JOIN=2a1d
0JOYSTICK=1f579 0JUGGLING=1f939 0JUNO=26b5 0JUPITER=2643"

/-- Names that begin with `K`. -/
def namesK : String :=
  "0KAABA=1f54b 0KAITHI_ABBREVIATION_SIGN=110bb 1DANDA=110c0 1DOUBLE_DANDA=110c1
2SECTION_MARK=110bf 1ENUMERATION_SIGN=110bc 1LETTER_A=11083 2AA=11084 2AI=1108a 2AU=1108c 2BA=110a5
2BHA=110a6 2CA=11092 2CHA=11093 2DA=110a0 2DDA=11099 2DDDHA=1109a 2DDHA=1109b 2DHA=110a1 2E=11089
2GA=1108f 2GHA=11090 2HA=110af 2I=11085 2II=11086 2JA=11094 2JHA=11095 2KA=1108d 2KHA=1108e
2LA=110aa 2MA=110a7 2NA=110a2 2NGA=11091 2NNA=1109d 2NYA=11096 2O=1108b 2PA=110a3 2PHA=110a4
2RA=110a9 2RHA=1109c 2SA=110ae 2SHA=110ac 2SSA=110ad 2TA=1109e 2THA=1109f 2TTA=11097 2TTHA=11098
2U=11087 2UU=11088 2VA=110ab 2YA=110a8 1NUMBER_SIGN=110bd 3ABOVE=110cd 1SECTION_MARK=110be
1SIGN_ANUSVARA=11081 2CANDRABINDU=11080 2NUKTA=110ba 2VIRAMA=110b9 2VISARGA=11082
1VOWEL_SIGN_AA=110b0 3AI=110b6 3AU=110b8 3E=110b5 3I=110b1 3II=110b2 3O=110b7 3U=110b3 3UU=110b4
3VOCALIC_R=110c2 0KANGAROO=1f998 0KANGXI_RADICAL_AGAIN=2f1c 2AND=2f7d 2ARRIVE=2f84 2ARROW=2f6e
2AXE=2f44 2BADGER=2f98 2BAMBOO=2f75 2BEAN=2f96 2BIG=2f24 2BIRD=2fc3 2BITTER=2f9f 2BLACK=2fca
2BLOOD=2f8e 2BLUE=2fad 2BOAT=2f88 2BODY=2f9d 2BOLT_OF_CLOTH=2f66 2BONE=2fbb 2BOW=2f38 2BRANCH=2f40
2BRISTLE=2f3a 2BRUSH=2f80 2CART=2f9e 2CAULDRON=2fc0 2CAVE=2f73 2CHILD=2f26 2CITY=2fa2 2CLAN=2f52
2CLAW=2f56 2CLIFF=2f1a 2CLOTHES=2f90 2COLOR=2f8a 2COMPARE=2f50 2CORPSE=2f2b 2COVER=2f0d 2COW=2f5c
2DEATH=2f4d 2DEER=2fc5 2DIPPER=2f43 2DISH=2f6b 2DISTINGUISH=2fa4 2DIVINATION=2f18 2DO_NOT=2f4f
2DOG=2f5d 2DOOR=2f3e 2DOT=2f02 2DOTTED_CLIFF=2f34 3TENT=2f68 2DOUBLE_X=2f58 2DOWN_BOX=2f0c
2DRAGON=2fd3 2DRUM=2fce 2DRY=2f32 2EAR=2f7f 2EARTH=2f1f 2EAT=2fb7 2EIGHT=2f0b 2EMBROIDERY=2fcb
2ENCLOSURE=2f1e 2ENTER=2f0a 2EVEN=2fd1 2EVENING=2f23 2EYE=2f6c 2FACE=2faf 2FANG=2f5b 2FATHER=2f57
2FEATHER=2f7b 2FIELD=2f65 2FIGHT=2fbe 2FIRE=2f55 2FISH=2fc2 2FLUTE=2fd5 2FLY=2fb6 2FOOT=2f9c
2FRAGRANT=2fb9 2FROG=2fcc 2FUR=2f51 2GATE=2fa8 2GHOST=2fc1 2GO=2f21 3SLOWLY=2f22 2GOLD=2fa6
2GRAIN=2f72 2GRASS=2f8b 2HAIR=2fbd 2HALBERD=2f3d 2HALF_TREE_TRUNK=2f59 2HAND=2f3f 2HEAD=2fb8
2HEART=2f3c 2HEMP=2fc7 2HIDING_ENCLOSURE=2f16 2HOOK=2f05 2HORN=2f93 2HORSE=2fba 2ICE=2f0e
2INCH=2f28 2INSECT=2f8d 2JADE=2f5f 2JAR=2f78 2KNIFE=2f11 2LACK=2f4b 2LAME=2f2a 2LEAF=2fb4
2LEATHER=2fb0 2LEEK=2fb2 2LEGS=2f09 2LID=2f07 2LIFE=2f63 2LINE=2f01 2LONG=2fa7 3STRIDE=2f35
2MAN=2f08 2MEAT=2f81 2MELON=2f60 2MILLET=2fc9 2MINISTER=2f82 2MOON=2f49 2MORNING=2fa0 2MORTAR=2f85
2MOUND=2fa9 2MOUNTAIN=2f2d 2MOUTH=2f1d 2NET=2f79 2NOSE=2fd0 2NOT=2f46 2OLD=2f7c 2ONE=2f00
2ONESELF=2f30 2OPEN_BOX=2f10 2OPPOSE=2f87 2PIG=2f97 2PLOW=2f7e 2POWER=2f12 2PRIVATE=2f1b
2PROFOUND=2f5e 2RAIN=2fac 2RAP=2f41 2RAT=2fcf 2RED=2f9a 2RICE=2f76 2RIGHT_OPEN_BOX=2f15 2RIVER=2f2e
2ROOF=2f27 2RUN=2f9b 2SACRIFICIAL_WINE=2fbf 2SALT=2fc4 2SAY=2f48 2SCHOLAR=2f20 2SCRIPT=2f42
2SEAL=2f19 2SECOND=2f04 2SEE=2f92 2SELF=2f83 2SHEEP=2f7a 2SHELL=2f99 2SHOOT=2f37
2SHORT_TAILED_BIRD=2fab 3THREAD=2f33 2SICKNESS=2f67 2SILK=2f77 2SKIN=2f6a 2SLASH=2f03 2SLAVE=2faa
2SLICE=2f5a 2SMALL=2f29 2SNOUT=2f39 2SOUND=2fb3 2SPEAR=2f6d 2SPEECH=2f94 2SPIRIT=2f70 2SPOON=2f14
2SPROUT=2f2c 2SQUARE=2f45 2STAND=2f74 2STEAM=2f53 2STEP=2f3b 2STONE=2f6f 2STOP=2f4c 2STOPPING=2f89
2SUN=2f47 2SWEET=2f62 2TABLE=2f0f 2TALL=2fbc 2TANNED_LEATHER=2fb1 2TEN=2f17 2TIGER=2f8c 2TILE=2f61
2TONGUE=2f86 2TOOTH=2fd2 2TRACK=2f71 2TREE=2f4a 2TRIPOD=2fcd 2TURBAN=2f31 2TURTLE=2fd4 2TWO=2f06
3HANDS=2f36 2USE=2f64 2VALLEY=2f95 2VILLAGE=2fa5 2WALK=2fa1 3ENCLOSURE=2f8f 2WATER=2f54
2WEAPON=2f4e 2WEST=2f91 2WHEAT=2fc6 2WHITE=2f69 2WIND=2fb5 2WINE=2fa3 2WOMAN=2f25 2WORK=2f2f
2WRAP=2f13 2WRONG=2fae 2YELLOW=2fc8 0KANNADA_AI_LENGTH_MARK=cd6 1DIGIT_EIGHT=cee 2FIVE=ceb
2FOUR=cea 2NINE=cef 2ONE=ce7 2SEVEN=ced 2SIX=cec 2THREE=ce9 2TWO=ce8 2ZERO=ce6 1LENGTH_MARK=cd5
1LETTER_A=c85 2AA=c86 2AI=c90 2AU=c94 2BA=cac 2BHA=cad 2CA=c9a 2CHA=c9b 2DA=ca6 2DDA=ca1 2DDHA=ca2
2DHA=ca7 2E=c8e 2EE=c8f 2FA=cde 2GA=c97 2GHA=c98 2HA=cb9 2I=c87 2II=c88 2JA=c9c 2JHA=c9d 2KA=c95
2KHA=c96 2LA=cb2 2LLA=cb3 2LLLA=cde 2MA=cae 2NA=ca8 2NAKAARA_POLLU=cdd 2NGA=c99 2NNA=ca3 2NYA=c9e
2O=c92 2OO=c93 2PA=caa 2PHA=cab 2RA=cb0 2RRA=cb1 2SA=cb8 2SHA=cb6 2SSA=cb7 2TA=ca4 2THA=ca5
2TTA=c9f 2TTHA=ca0 2U=c89 2UU=c8a 2VA=cb5 2VOCALIC_L=c8c 3LL=ce1 3R=c8b 3RR=ce0 2YA=caf
1SIGN_ANUSVARA=c82 2AVAGRAHA=cbd 2CANDRABINDU=c81 2JIHVAMULIYA=cf1 2NUKTA=cbc 2SIDDHAM=c84
2SPACING_CANDRABINDU=c80 2UPADHMANIYA=cf2 2VIRAMA=ccd 2VISARGA=c83 1VOWEL_SIGN_AA=cbe 3AI=cc8
3AU=ccc 3E=cc6 3EE=cc7 3I=cbf 3II=cc0 3O=cca 3OO=ccb 3U=cc1 3UU=cc2 3VOCALIC_L=ce2 4LL=ce3 4R=cc3
4RR=cc4 0KATAKANA_DIGRAPH_KOTO=30ff 1ITERATION_MARK=30fd 1LETTER_A=30a2 2ARCHAIC_E=1b000 3WU=1b122
3YE=1b121 3YI=1b120 2BA=30d0 2BE=30d9 2BI=30d3 2BO=30dc 2BU=30d6 2DA=30c0 2DE=30c7 2DI=30c2
2DO=30c9 2DU=30c5 2E=30a8 2GA=30ac 2GE=30b2 2GI=30ae 2GO=30b4 2GU=30b0 2HA=30cf 2HE=30d8 2HI=30d2
2HO=30db 2HU=30d5 2I=30a4 2KA=30ab 2KE=30b1 2KI=30ad 2KO=30b3 2KU=30af 2MA=30de 2ME=30e1 2MI=30df
2MINNAN_NASALIZED_TONE-1=1aff7 4TONE-2=1aff8 4TONE-3=1aff9 4TONE-4=1affa 4TONE-5=1affb
4TONE-7=1affd 4TONE-8=1affe 3TONE-2=1aff0 3TONE-3=1aff1 3TONE-4=1aff2 3TONE-5=1aff3 3TONE-7=1aff5
3TONE-8=1aff6 2MO=30e2 2MU=30e0 2N=30f3 2NA=30ca 2NE=30cd 2NI=30cb 2NO=30ce 2NU=30cc 2O=30aa
2PA=30d1 2PE=30da 2PI=30d4 2PO=30dd 2PU=30d7 2RA=30e9 2RE=30ec 2RI=30ea 2RO=30ed 2RU=30eb 2SA=30b5
2SE=30bb 2SI=30b7 2SMALL_A=30a1 3E=30a7 3HA=31f5 3HE=31f8 3HI=31f6 3HO=31f9 3HU=31f7 3I=30a3
3KA=30f5 3KE=30f6 3KU=31f0 3MU=31fa 3N=1b167 3NU=31f4 3O=30a9 3RA=31fb 3RE=31fe 3RI=31fc 3RO=31ff
3RU=31fd 3SI=31f1 3SU=31f2 3TO=31f3 3TU=30c3 3U=30a5 3WA=30ee 3WE=1b165 3WI=1b164 3WO=1b166
3YA=30e3 3YO=30e7 3YU=30e5 2SO=30bd 2SU=30b9 2TA=30bf 2TE=30c6 2TI=30c1 2TO=30c8 2TU=30c4 2U=30a6
2VA=30f7 2VE=30f9 2VI=30f8 2VO=30fa 2VU=30f4 2WA=30ef 2WE=30f1 2WI=30f0 2WO=30f2 2YA=30e4 2YO=30e8
2YU=30e6 2ZA=30b6 2ZE=30bc 2ZI=30b8 2ZO=30be 2ZU=30ba 1MIDDLE_DOT=30fb 1VOICED_ITERATION_MARK=30fe
0KATAKANA-HIRAGANA_DOUBLE_HYPHEN=30a0 1PROLONGED_SOUND_MARK=30fc 1SEMI-VOICED_SOUND_MARK=309c
1VOICED_SOUND_MARK=309b 0KAYAH_LI_DIGIT_EIGHT=a908 3FIVE=a905 3FOUR=a904 3NINE=a909 3ONE=a901
3SEVEN=a907 3SIX=a906 3THREE=a903 3TWO=a902 3ZERO=a900 2LETTER_A=a922 3BA=a919 3CA=a921 3DA=a918
3GA=a90c 3HA=a91f 3HTA=a913 3I=a924 3KA=a90a 3KHA=a90b 3LA=a91c 3MA=a917 3NA=a914 3NGA=a90d
3NYA=a911 3OE=a923 3OO=a925 3PA=a915 3PHA=a916 3RA=a91a 3SA=a90e 3SHA=a90f 3TA=a912 3THA=a91e
3VA=a920 3WA=a91d 3YA=a91b 3ZA=a910 2SIGN_CWI=a92e 3SHYA=a92f 2TONE_CALYA=a92c 4PLOPHU=a92d
3PLOPHU=a92b 2VOWEL_E=a927 3EE=a929 3O=a92a 3U=a928 3UE=a926 0KELVIN_SIGN=212a 0KEY=1f511
0KEYBOARD=2328 1AND_MOUSE=1f5a6 0KEYCAP_TEN=1f51f 0KHAROSHTHI_DIGIT_FOUR=10a43 2ONE=10a40
2THREE=10a42 2TWO=10a41 1FRACTION_ONE_HALF=10a48 1LETTER_A=10a00 2BA=10a26 2BHA=10a27 2CA=10a15
2CHA=10a16 2DA=10a21 2DDA=10a1c 2DDHA=10a1d 2DHA=10a22 2GA=10a12 2GHA=10a13 2HA=10a31 2JA=10a17
2KA=10a10 2KHA=10a11 2KKA=10a32 2LA=10a2b 2MA=10a28 2NA=10a23 2NNA=10a1e 2NYA=10a19 2PA=10a24
2PHA=10a25 2RA=10a2a 2SA=10a2f 2SHA=10a2d 2SSA=10a2e 2TA=10a1f 2THA=10a20 2TTA=10a1a 2TTHA=10a1b
2TTTA=10a34 2TTTHA=10a33 2VA=10a2c 2VHA=10a35 2YA=10a29 2ZA=10a30 1NUMBER_ONE_HUNDRED=10a46
3THOUSAND=10a47 2TEN=10a44 2TWENTY=10a45 1PUNCTUATION_CIRCLE=10a52 2CRESCENT_BAR=10a53 2DANDA=10a56
2DOT=10a50 2DOUBLE_DANDA=10a57 2LINES=10a58 2LOTUS=10a55 2MANGALAM=10a54 2SMALL_CIRCLE=10a51
1SIGN_ANUSVARA=10a0e 2BAR_ABOVE=10a38 2CAUDA=10a39 2DOT_BELOW=10a3a 2DOUBLE_RING_BELOW=10a0d
2VISARGA=10a0f 1VIRAMA=10a3f 1VOWEL_LENGTH_MARK=10a0c 2SIGN_E=10a05 3I=10a01 3O=10a06 3U=10a02
3VOCALIC_R=10a03 0KHITAN_SMALL_SCRIPT_CHARACTER-18B00=18b00 3CHARACTER-18B01=18b01
3CHARACTER-18B02=18b02 3CHARACTER-18B03=18b03 3CHARACTER-18B04=18b04 3CHARACTER-18B05=18b05
3CHARACTER-18B06=18b06 3CHARACTER-18B07=18b07 3CHARACTER-18B08=18b08 3CHARACTER-18B09=18b09
3CHARACTER-18B0A=18b0a 3CHARACTER-18B0B=18b0b 3CHARACTER-18B0C=18b0c 3CHARACTER-18B0D=18b0d
3CHARACTER-18B0E=18b0e 3CHARACTER-18B0F=18b0f 3CHARACTER-18B10=18b10 3CHARACTER-18B11=18b11
3CHARACTER-18B12=18b12 3CHARACTER-18B13=18b13 3CHARACTER-18B14=18b14 3CHARACTER-18B15=18b15
3CHARACTER-18B16=18b16 3CHARACTER-18B17=18b17 3CHARACTER-18B18=18b18 3CHARACTER-18B19=18b19
3CHARACTER-18B1A=18b1a 3CHARACTER-18B1B=18b1b 3CHARACTER-18B1C=18b1c 3CHARACTER-18B1D=18b1d
3CHARACTER-18B1E=18b1e 3CHARACTER-18B1F=18b1f 3CHARACTER-18B20=18b20 3CHARACTER-18B21=18b21
3CHARACTER-18B22=18b22 3CHARACTER-18B23=18b23 3CHARACTER-18B24=18b24 3CHARACTER-18B25=18b25
3CHARACTER-18B26=18b26 3CHARACTER-18B27=18b27 3CHARACTER-18B28=18b28 3CHARACTER-18B29=18b29
3CHARACTER-18B2A=18b2a 3CHARACTER-18B2B=18b2b 3CHARACTER-18B2C=18b2c 3CHARACTER-18B2D=18b2d
3CHARACTER-18B2E=18b2e 3CHARACTER-18B2F=18b2f 3CHARACTER-18B30=18b30 3CHARACTER-18B31=18b31
3CHARACTER-18B32=18b32 3CHARACTER-18B33=18b33 3CHARACTER-18B34=18b34 3CHARACTER-18B35=18b35
3CHARACTER-18B36=18b36 3CHARACTER-18B37=18b37 3CHARACTER-18B38=18b38 3CHARACTER-18B39=18b39
3CHARACTER-18B3A=18b3a 3CHARACTER-18B3B=18b3b 3CHARACTER-18B3C=18b3c 3CHARACTER-18B3D=18b3d
3CHARACTER-18B3E=18b3e 3CHARACTER-18B3F=18b3f 3CHARACTER-18B40=18b40 3CHARACTER-18B41=18b41
3CHARACTER-18B42=18b42 3CHARACTER-18B43=18b43 3CHARACTER-18B44=18b44 3CHARACTER-18B45=18b45
3CHARACTER-18B46=18b46 3CHARACTER-18B47=18b47 3CHARACTER-18B48=18b48 3CHARACTER-18B49=18b49
3CHARACTER-18B4A=18b4a 3CHARACTER-18B4B=18b4b 3CHARACTER-18B4C=18b4c 3CHARACTER-18B4D=18b4d
3CHARACTER-18B4E=18b4e 3CHARACTER-18B4F=18b4f 3CHARACTER-18B50=18b50 3CHARACTER-18B51=18b51
3CHARACTER-18B52=18b52 3CHARACTER-18B53=18b53 3CHARACTER-18B54=18b54 3CHARACTER-18B55=18b55
3CHARACTER-18B56=18b56 3CHARACTER-18B57=18b57 3CHARACTER-18B58=18b58 3CHARACTER-18B59=18b59
3CHARACTER-18B5A=18b5a 3CHARACTER-18B5B=18b5b 3CHARACTER-18B5C=18b5c 3CHARACTER-18B5D=18b5d
3CHARACTER-18B5E=18b5e 3CHARACTER-18B5F=18b5f 3CHARACTER-18B60=18b60 3CHARACTER-18B61=18b61
3CHARACTER-18B62=18b62 3CHARACTER-18B63=18b63 3CHARACTER-18B64=18b64 3CHARACTER-18B65=18b65
3CHARACTER-18B66=18b66 3CHARACTER-18B67=18b67 3CHARACTER-18B68=18b68 3CHARACTER-18B69=18b69
3CHARACTER-18B6A=18b6a 3CHARACTER-18B6B=18b6b 3CHARACTER-18B6C=18b6c 3CHARACTER-18B6D=18b6d
3CHARACTER-18B6E=18b6e 3CHARACTER-18B6F=18b6f 3CHARACTER-18B70=18b70 3CHARACTER-18B71=18b71
3CHARACTER-18B72=18b72 3CHARACTER-18B73=18b73 3CHARACTER-18B74=18b74 3CHARACTER-18B75=18b75
3CHARACTER-18B76=18b76 3CHARACTER-18B77=18b77 3CHARACTER-18B78=18b78 3CHARACTER-18B79=18b79
3CHARACTER-18B7A=18b7a 3CHARACTER-18B7B=18b7b 3CHARACTER-18B7C=18b7c 3CHARACTER-18B7D=18b7d
3CHARACTER-18B7E=18b7e 3CHARACTER-18B7F=18b7f 3CHARACTER-18B80=18b80 3CHARACTER-18B81=18b81
3CHARACTER-18B82=18b82 3CHARACTER-18B83=18b83 3CHARACTER-18B84=18b84 3CHARACTER-18B85=18b85
3CHARACTER-18B86=18b86 3CHARACTER-18B87=18b87 3CHARACTER-18B88=18b88 3CHARACTER-18B89=18b89
3CHARACTER-18B8A=18b8a 3CHARACTER-18B8B=18b8b 3CHARACTER-18B8C=18b8c 3CHARACTER-18B8D=18b8d
3CHARACTER-18B8E=18b8e 3CHARACTER-18B8F=18b8f 3CHARACTER-18B90=18b90 3CHARACTER-18B91=18b91
3CHARACTER-18B92=18b92 3CHARACTER-18B93=18b93 3CHARACTER-18B94=18b94 3CHARACTER-18B95=18b95
3CHARACTER-18B96=18b96 3CHARACTER-18B97=18b97 3CHARACTER-18B98=18b98 3CHARACTER-18B99=18b99
3CHARACTER-18B9A=18b9a 3CHARACTER-18B9B=18b9b 3CHARACTER-18B9C=18b9c 3CHARACTER-18B9D=18b9d
3CHARACTER-18B9E=18b9e 3CHARACTER-18B9F=18b9f 3CHARACTER-18BA0=18ba0 3CHARACTER-18BA1=18ba1
3CHARACTER-18BA2=18ba2 3CHARACTER-18BA3=18ba3 3CHARACTER-18BA4=18ba4 3CHARACTER-18BA5=18ba5
3CHARACTER-18BA6=18ba6 3CHARACTER-18BA7=18ba7 3CHARACTER-18BA8=18ba8 3CHARACTER-18BA9=18ba9
3CHARACTER-18BAA=18baa 3CHARACTER-18BAB=18bab 3CHARACTER-18BAC=18bac 3CHARACTER-18BAD=18bad
3CHARACTER-18BAE=18bae 3CHARACTER-18BAF=18baf 3CHARACTER-18BB0=18bb0 3CHARACTER-18BB1=18bb1
3CHARACTER-18BB2=18bb2 3CHARACTER-18BB3=18bb3 3CHARACTER-18BB4=18bb4 3CHARACTER-18BB5=18bb5
3CHARACTER-18BB6=18bb6 3CHARACTER-18BB7=18bb7 3CHARACTER-18BB8=18bb8 3CHARACTER-18BB9=18bb9
3CHARACTER-18BBA=18bba 3CHARACTER-18BBB=18bbb 3CHARACTER-18BBC=18bbc 3CHARACTER-18BBD=18bbd
3CHARACTER-18BBE=18bbe 3CHARACTER-18BBF=18bbf 3CHARACTER-18BC0=18bc0 3CHARACTER-18BC1=18bc1
3CHARACTER-18BC2=18bc2 3CHARACTER-18BC3=18bc3 3CHARACTER-18BC4=18bc4 3CHARACTER-18BC5=18bc5
3CHARACTER-18BC6=18bc6 3CHARACTER-18BC7=18bc7 3CHARACTER-18BC8=18bc8 3CHARACTER-18BC9=18bc9
3CHARACTER-18BCA=18bca 3CHARACTER-18BCB=18bcb 3CHARACTER-18BCC=18bcc 3CHARACTER-18BCD=18bcd
3CHARACTER-18BCE=18bce 3CHARACTER-18BCF=18bcf 3CHARACTER-18BD0=18bd0 3CHARACTER-18BD1=18bd1
3CHARACTER-18BD2=18bd2 3CHARACTER-18BD3=18bd3 3CHARACTER-18BD4=18bd4 3CHARACTER-18BD5=18bd5
3CHARACTER-18BD6=18bd6 3CHARACTER-18BD7=18bd7 3CHARACTER-18BD8=18bd8 3CHARACTER-18BD9=18bd9
3CHARACTER-18BDA=18bda 3CHARACTER-18BDB=18bdb 3CHARACTER-18BDC=18bdc 3CHARACTER-18BDD=18bdd
3CHARACTER-18BDE=18bde 3CHARACTER-18BDF=18bdf 3CHARACTER-18BE0=18be0 3CHARACTER-18BE1=18be1
3CHARACTER-18BE2=18be2 3CHARACTER-18BE3=18be3 3CHARACTER-18BE4=18be4 3CHARACTER-18BE5=18be5
3CHARACTER-18BE6=18be6 3CHARACTER-18BE7=18be7 3CHARACTER-18BE8=18be8 3CHARACTER-18BE9=18be9
3CHARACTER-18BEA=18bea 3CHARACTER-18BEB=18beb 3CHARACTER-18BEC=18bec 3CHARACTER-18BED=18bed
3CHARACTER-18BEE=18bee 3CHARACTER-18BEF=18bef 3CHARACTER-18BF0=18bf0 3CHARACTER-18BF1=18bf1
3CHARACTER-18BF2=18bf2 3CHARACTER-18BF3=18bf3 3CHARACTER-18BF4=18bf4 3CHARACTER-18BF5=18bf5
3CHARACTER-18BF6=18bf6 3CHARACTER-18BF7=18bf7 3CHARACTER-18BF8=18bf8 3CHARACTER-18BF9=18bf9
3CHARACTER-18BFA=18bfa 3CHARACTER-18BFB=18bfb 3CHARACTER-18BFC=18bfc 3CHARACTER-18BFD=18bfd
3CHARACTER-18BFE=18bfe 3CHARACTER-18BFF=18bff 3CHARACTER-18C00=18c00 3CHARACTER-18C01=18c01
3CHARACTER-18C02=18c02 3CHARACTER-18C03=18c03 3CHARACTER-18C04=18c04 3CHARACTER-18C05=18c05
3CHARACTER-18C06=18c06 3CHARACTER-18C07=18c07 3CHARACTER-18C08=18c08 3CHARACTER-18C09=18c09
3CHARACTER-18C0A=18c0a 3CHARACTER-18C0B=18c0b 3CHARACTER-18C0C=18c0c 3CHARACTER-18C0D=18c0d
3CHARACTER-18C0E=18c0e 3CHARACTER-18C0F=18c0f 3CHARACTER-18C10=18c10 3CHARACTER-18C11=18c11
3CHARACTER-18C12=18c12 3CHARACTER-18C13=18c13 3CHARACTER-18C14=18c14 3CHARACTER-18C15=18c15
3CHARACTER-18C16=18c16 3CHARACTER-18C17=18c17 3CHARACTER-18C18=18c18 3CHARACTER-18C19=18c19
3CHARACTER-18C1A=18c1a 3CHARACTER-18C1B=18c1b 3CHARACTER-18C1C=18c1c 3CHARACTER-18C1D=18c1d
3CHARACTER-18C1E=18c1e 3CHARACTER-18C1F=18c1f 3CHARACTER-18C20=18c20 3CHARACTER-18C21=18c21
3CHARACTER-18C22=18c22 3CHARACTER-18C23=18c23 3CHARACTER-18C24=18c24 3CHARACTER-18C25=18c25
3CHARACTER-18C26=18c26 3CHARACTER-18C27=18c27 3CHARACTER-18C28=18c28 3CHARACTER-18C29=18c29
3CHARACTER-18C2A=18c2a 3CHARACTER-18C2B=18c2b 3CHARACTER-18C2C=18c2c 3CHARACTER-18C2D=18c2d
3CHARACTER-18C2E=18c2e 3CHARACTER-18C2F=18c2f 3CHARACTER-18C30=18c30 3CHARACTER-18C31=18c31
3CHARACTER-18C32=18c32 3CHARACTER-18C33=18c33 3CHARACTER-18C34=18c34 3CHARACTER-18C35=18c35
3CHARACTER-18C36=18c36 3CHARACTER-18C37=18c37 3CHARACTER-18C38=18c38 3CHARACTER-18C39=18c39
3CHARACTER-18C3A=18c3a 3CHARACTER-18C3B=18c3b 3CHARACTER-18C3C=18c3c 3CHARACTER-18C3D=18c3d
3CHARACTER-18C3E=18c3e 3CHARACTER-18C3F=18c3f 3CHARACTER-18C40=18c40 3CHARACTER-18C41=18c41
3CHARACTER-18C42=18c42 3CHARACTER-18C43=18c43 3CHARACTER-18C44=18c44 3CHARACTER-18C45=18c45
3CHARACTER-18C46=18c46 3CHARACTER-18C47=18c47 3CHARACTER-18C48=18c48 3CHARACTER-18C49=18c49
3CHARACTER-18C4A=18c4a 3CHARACTER-18C4B=18c4b 3CHARACTER-18C4C=18c4c 3CHARACTER-18C4D=18c4d
3CHARACTER-18C4E=18c4e 3CHARACTER-18C4F=18c4f 3CHARACTER-18C50=18c50 3CHARACTER-18C51=18c51
3CHARACTER-18C52=18c52 3CHARACTER-18C53=18c53 3CHARACTER-18C54=18c54 3CHARACTER-18C55=18c55
3CHARACTER-18C56=18c56 3CHARACTER-18C57=18c57 3CHARACTER-18C58=18c58 3CHARACTER-18C59=18c59
3CHARACTER-18C5A=18c5a 3CHARACTER-18C5B=18c5b 3CHARACTER-18C5C=18c5c 3CHARACTER-18C5D=18c5d
3CHARACTER-18C5E=18c5e 3CHARACTER-18C5F=18c5f 3CHARACTER-18C60=18c60 3CHARACTER-18C61=18c61
3CHARACTER-18C62=18c62 3CHARACTER-18C63=18c63 3CHARACTER-18C64=18c64 3CHARACTER-18C65=18c65
3CHARACTER-18C66=18c66 3CHARACTER-18C67=18c67 3CHARACTER-18C68=18c68 3CHARACTER-18C69=18c69
3CHARACTER-18C6A=18c6a 3CHARACTER-18C6B=18c6b 3CHARACTER-18C6C=18c6c 3CHARACTER-18C6D=18c6d
3CHARACTER-18C6E=18c6e 3CHARACTER-18C6F=18c6f 3CHARACTER-18C70=18c70 3CHARACTER-18C71=18c71
3CHARACTER-18C72=18c72 3CHARACTER-18C73=18c73 3CHARACTER-18C74=18c74 3CHARACTER-18C75=18c75
3CHARACTER-18C76=18c76 3CHARACTER-18C77=18c77 3CHARACTER-18C78=18c78 3CHARACTER-18C79=18c79
3CHARACTER-18C7A=18c7a 3CHARACTER-18C7B=18c7b 3CHARACTER-18C7C=18c7c 3CHARACTER-18C7D=18c7d
3CHARACTER-18C7E=18c7e 3CHARACTER-18C7F=18c7f 3CHARACTER-18C80=18c80 3CHARACTER-18C81=18c81
3CHARACTER-18C82=18c82 3CHARACTER-18C83=18c83 3CHARACTER-18C84=18c84 3CHARACTER-18C85=18c85
3CHARACTER-18C86=18c86 3CHARACTER-18C87=18c87 3CHARACTER-18C88=18c88 3CHARACTER-18C89=18c89
3CHARACTER-18C8A=18c8a 3CHARACTER-18C8B=18c8b 3CHARACTER-18C8C=18c8c 3CHARACTER-18C8D=18c8d
3CHARACTER-18C8E=18c8e 3CHARACTER-18C8F=18c8f 3CHARACTER-18C90=18c90 3CHARACTER-18C91=18c91
3CHARACTER-18C92=18c92 3CHARACTER-18C93=18c93 3CHARACTER-18C94=18c94 3CHARACTER-18C95=18c95
3CHARACTER-18C96=18c96 3CHARACTER-18C97=18c97 3CHARACTER-18C98=18c98 3CHARACTER-18C99=18c99
3CHARACTER-18C9A=18c9a 3CHARACTER-18C9B=18c9b 3CHARACTER-18C9C=18c9c 3CHARACTER-18C9D=18c9d
3CHARACTER-18C9E=18c9e 3CHARACTER-18C9F=18c9f 3CHARACTER-18CA0=18ca0 3CHARACTER-18CA1=18ca1
3CHARACTER-18CA2=18ca2 3CHARACTER-18CA3=18ca3 3CHARACTER-18CA4=18ca4 3CHARACTER-18CA5=18ca5
3CHARACTER-18CA6=18ca6 3CHARACTER-18CA7=18ca7 3CHARACTER-18CA8=18ca8 3CHARACTER-18CA9=18ca9
3CHARACTER-18CAA=18caa 3CHARACTER-18CAB=18cab 3CHARACTER-18CAC=18cac 3CHARACTER-18CAD=18cad
3CHARACTER-18CAE=18cae 3CHARACTER-18CAF=18caf 3CHARACTER-18CB0=18cb0 3CHARACTER-18CB1=18cb1
3CHARACTER-18CB2=18cb2 3CHARACTER-18CB3=18cb3 3CHARACTER-18CB4=18cb4 3CHARACTER-18CB5=18cb5
3CHARACTER-18CB6=18cb6 3CHARACTER-18CB7=18cb7 3CHARACTER-18CB8=18cb8 3CHARACTER-18CB9=18cb9
3CHARACTER-18CBA=18cba 3CHARACTER-18CBB=18cbb 3CHARACTER-18CBC=18cbc 3CHARACTER-18CBD=18cbd
3CHARACTER-18CBE=18cbe 3CHARACTER-18CBF=18cbf 3CHARACTER-18CC0=18cc0 3CHARACTER-18CC1=18cc1
3CHARACTER-18CC2=18cc2 3CHARACTER-18CC3=18cc3 3CHARACTER-18CC4=18cc4 3CHARACTER-18CC5=18cc5
3CHARACTER-18CC6=18cc6 3CHARACTER-18CC7=18cc7 3CHARACTER-18CC8=18cc8 3CHARACTER-18CC9=18cc9
3CHARACTER-18CCA=18cca 3CHARACTER-18CCB=18ccb 3CHARACTER-18CCC=18ccc 3CHARACTER-18CCD=18ccd
3CHARACTER-18CCE=18cce 3CHARACTER-18CCF=18ccf 3CHARACTER-18CD0=18cd0 3CHARACTER-18CD1=18cd1
3CHARACTER-18CD2=18cd2 3CHARACTER-18CD3=18cd3 3CHARACTER-18CD4=18cd4 3CHARACTER-18CD5=18cd5
3FILLER=16fe4 0KHMER_CURRENCY_SYMBOL_RIEL=17db 1DIGIT_EIGHT=17e8 2FIVE=17e5 2FOUR=17e4 2NINE=17e9
2ONE=17e1 2SEVEN=17e7 2SIX=17e6 2THREE=17e3 2TWO=17e2 2ZERO=17e0 1INDEPENDENT_VOWEL_LY=17ad
3LYY=17ae 3QAA=17a4 3QAI=17b0 3QAQ=17a3 3QAU=17b3 3QE=17af 3QI=17a5 3QII=17a6 3QOO_TYPE_ONE=17b1
5TWO=17b2 3QU=17a7 3QUK=17a8 3QUU=17a9 3QUUV=17aa 3RY=17ab 3RYY=17ac 1LETTER_BA=1794 2CA=1785
2CHA=1786 2CHO=1788 2CO=1787 2DA=178a 2DO=178c 2HA=17a0 2KA=1780 2KHA=1781 2KHO=1783 2KO=1782
2LA=17a1 2LO=179b 2MO=1798 2NGO=1784 2NNO=178e 2NO=1793 2NYO=1789 2PHA=1795 2PHO=1797 2PO=1796
2QA=17a2 2RO=179a 2SA=179f 2SHA=179d 2SSO=179e 2TA=178f 2THA=1790 2THO=1792 2TO=1791 2TTHA=178b
2TTHO=178d 2VO=179c 2YO=1799 1SIGN_AHSDA=17cf 2ATTHACAN=17dd 2AVAKRAHASANYA=17dc 2BANTOC=17cb
2BARIYOOSAN=17d5 2BATHAMASAT=17d3 2BEYYAL=17d8 2CAMNUC_PII_KUUH=17d6 2COENG=17d2 2KAKABAT=17ce
2KHAN=17d4 2KOOMUUT=17da 2LEK_TOO=17d7 2MUUSIKATOAN=17c9 2NIKAHIT=17c6 2PHNAEK_MUAN=17d9
2REAHMUK=17c7 2ROBAT=17cc 2SAMYOK_SANNYA=17d0 2TOANDAKHIAT=17cd 2TRIISAP=17ca 2VIRIAM=17d1
2YUUKALEAPINTU=17c8 1SYMBOL_BEI_KOET=19e3 3ROC=19f3 2BUON_KOET=19e4 3ROC=19f4 2DAP_KOET=19ea
3ROC=19fa 2DAP-BEI_KOET=19ed 3ROC=19fd 2DAP-BUON_KOET=19ee 3ROC=19fe 2DAP-MUOY_KOET=19eb 3ROC=19fb
2DAP-PII_KOET=19ec 3ROC=19fc 2DAP-PRAM_KOET=19ef 3ROC=19ff 2LEK_ATTAK_BEI=17f3 4BUON=17f4
4MUOY=17f1 4PII=17f2 4PRAM=17f5 4PRAM-BEI=17f8 4PRAM-BUON=17f9 4PRAM-MUOY=17f6 4PRAM-PII=17f7
4SON=17f0 2MUOY_KOET=19e1 3ROC=19f1 2PATHAMASAT=19e0 2PII_KOET=19e2 3ROC=19f2 2PRAM_KOET=19e5
3ROC=19f5 2PRAM-BEI_KOET=19e8 3ROC=19f8 2PRAM-BUON_KOET=19e9 3ROC=19f9 2PRAM-MUOY_KOET=19e6
3ROC=19f6 2PRAM-PII_KOET=19e7 3ROC=19f7 2TUTEYASAT=19f0 1VOWEL_INHERENT_AA=17b5 3AQ=17b4
2SIGN_AA=17b6 3AE=17c2 3AI=17c3 3AU=17c5 3E=17c1 3I=17b7 3IE=17c0 3II=17b8 3OE=17be 3OO=17c4
3U=17bb 3UA=17bd 3UU=17bc 3Y=17b9 3YA=17bf 3YY=17ba 0KHOJKI_ABBREVIATION_SIGN=1123d 1DANDA=11238
1DOUBLE_DANDA=11239 2SECTION_MARK=1123c 1LETTER_A=11200 2AA=11201 2AI=11205 2AU=11207 2BA=11221
2BBA=11222 2BHA=11223 2CA=1120e 2CHA=1120f 2DA=1121b 2DDA=11216 2DDDA=1121c 2DDHA=11217 2DHA=1121d
2E=11204 2GA=1120a 2GGA=1120b 2GHA=1120c 2HA=1122a 2I=11202 2JA=11210 2JJA=11211 2KA=11208
2KHA=11209 2LA=11227 2LLA=1122b 2MA=11224 2NA=1121e 2NGA=1120d 2NNA=11218 2NYA=11213 2O=11206
2PA=1121f 2PHA=11220 2RA=11226 2SA=11229 2TA=11219 2THA=1121a 2TTA=11214 2TTHA=11215 2U=11203
2VA=11228 2YA=11225 1SECTION_MARK=1123b 1SIGN_ANUSVARA=11234 2NUKTA=11236 2SHADDA=11237
2SUKUN=1123e 2VIRAMA=11235 1VOWEL_SIGN_AA=1122c 3AI=11231 3AU=11233 3E=11230 3I=1122d 3II=1122e
3O=11232 3U=1122f 1WORD_SEPARATOR=1123a 0KHUDAWADI_DIGIT_EIGHT=112f8 2FIVE=112f5 2FOUR=112f4
2NINE=112f9 2ONE=112f1 2SEVEN=112f7 2SIX=112f6 2THREE=112f3 2TWO=112f2 2ZERO=112f0 1LETTER_A=112b0
2AA=112b1 2AI=112b7 2AU=112b9 2BA=112d4 2BBA=112d5 2BHA=112d6 2CA=112c0 2CHA=112c1 2DA=112cf
2DDA=112c8 2DDDA=112c9 2DDHA=112cb 2DHA=112d0 2E=112b6 2GA=112bc 2GGA=112bd 2GHA=112be 2HA=112de
2I=112b2 2II=112b3 2JA=112c2 2JHA=112c4 2JJA=112c3 2KA=112ba 2KHA=112bb 2LA=112da 2MA=112d7
2NA=112d1 2NGA=112bf 2NNA=112cc 2NYA=112c5 2O=112b8 2PA=112d2 2PHA=112d3 2RA=112d9 2RRA=112ca
2SA=112dd 2SHA=112dc 2TA=112cd 2THA=112ce 2TTA=112c6 2TTHA=112c7 2U=112b4 2UU=112b5 2VA=112db
2YA=112d8 1SIGN_ANUSVARA=112df 2NUKTA=112e9 2VIRAMA=112ea 1VOWEL_SIGN_AA=112e0 3AI=112e6 3AU=112e8
3E=112e5 3I=112e1 3II=112e2 3O=112e7 3U=112e3 3UU=112e4 0KIMONO=1f458 0KIP_SIGN=20ad 0KISS=1f48f
1MARK=1f48b 0KISSING_CAT_FACE_WITH_CLOSED_EYES=1f63d 1FACE=1f617 2WITH_CLOSED_EYES=1f61a
3SMILING_EYES=1f619 0KITE=1fa81 0KIWIFRUIT=1f95d 0KNEELING_PERSON=1f9ce 0KNOT=1faa2 0KOALA=1f428
0KOREAN_STANDARD_SYMBOL=327f 0KRONOS=2be3"

/-- Names that begin with `L`. -/
def namesL : String :=
  "0L_B_BAR_SYMBOL=2114 0LAB_COAT=1f97c 0LABEL=1f3f7 0LACROSSE_STICK_AND_BALL=1f94d 0LADDER=1fa9c
0LADY_BEETLE=1f41e 0LANGUAGE_TAG=e0001 0LAO_CANCELLATION_MARK=ecc 1DIGIT_EIGHT=ed8 2FIVE=ed5
2FOUR=ed4 2NINE=ed9 2ONE=ed1 2SEVEN=ed7 2SIX=ed6 2THREE=ed3 2TWO=ed2 2ZERO=ed0 1ELLIPSIS=eaf
1HO_MO=edd 2NO=edc 1KO_LA=ec6 1LETTER_BO=e9a 2CO=e88 2DO=e94 2FO_FAY=e9f 3FON=e9d 3SUNG=e9f
3TAM=e9d 2HO_SUNG=eab 3TAM=eae 2KHMU_GO=ede 3NYO=edf 2KHO_SUNG=e82 3TAM=e84 2KO=e81 2LO=ea5
3LING=ea3 3LOOT=ea5 2MO=ea1 2NGO=e87 2NO=e99 2NYO=e8d 2O=ead 2PALI_BHA=ea0 3CHA=e89 3DDA=e91
3DDHA=e92 3DHA=e98 3GHA=e86 3JHA=e8c 3LLA=eac 3NNA=e93 3NYA=e8e 3TTA=e8f 3TTHA=e90 2PHO_SUNG=e9c
3TAM=e9e 2PO=e9b 2RO=ea3 2SANSKRIT_SHA=ea8 3SSA=ea9 2SO_SUNG=eaa 3TAM=e8a 2THO_SUNG=e96 3TAM=e97
2TO=e95 2WO=ea7 2YO=ea2 1NIGGAHITA=ecd 1SEMIVOWEL_SIGN_LO=ebc 3NYO=ebd 1SIGN_PALI_VIRAMA=eba
1TONE_MAI_CATAWA=ecb 3EK=ec8 3THO=ec9 3TI=eca 1VOWEL_SIGN_A=eb0 3AA=eb2 3AI=ec4 3AM=eb3 3AY=ec3
3E=ec0 3EI=ec1 3I=eb4 3II=eb5 3MAI_KAN=eb1 4KON=ebb 3O=ec2 3U=eb8 3UU=eb9 3Y=eb6 3YY=eb7
0LARGE_BLUE_CIRCLE=1f535 2DIAMOND=1f537 2SQUARE=1f7e6 1BROWN_CIRCLE=1f7e4 2SQUARE=1f7eb
1CIRCLE=25ef 1DOWN_TACK=27d9 1GREEN_CIRCLE=1f7e2 2SQUARE=1f7e9 1LEFT_TRIANGLE_OPERATOR=2a1e
1ONE_DOT_OVER_TWO_DOTS_PUNCTUATION=10b3d 2RING_OVER_TWO_RINGS_PUNCTUATION=10b3f
1ORANGE_CIRCLE=1f7e0 2DIAMOND=1f536 2SQUARE=1f7e7 1PURPLE_CIRCLE=1f7e3 2SQUARE=1f7ea
1RED_CIRCLE=1f534 2SQUARE=1f7e5 1TRIPLE_VERTICAL_BAR_OPERATOR=2afc
1TWO_DOTS_OVER_ONE_DOT_PUNCTUATION=10b3c 2RINGS_OVER_ONE_RING_PUNCTUATION=10b3e 1UP_TACK=27d8
1YELLOW_CIRCLE=1f7e1 2SQUARE=1f7e8 0LARGER_THAN=2aab 2OR_EQUAL_TO=2aad 0LARI_SIGN=20be
0LAST_QUARTER_MOON=263e 3SYMBOL=1f317 3WITH_FACE=1f31c 0LATIN_CAPITAL_LETTER_A=41 4WITH_ACUTE=c1
5BREVE=102 6AND_ACUTE=1eae 7DOT_BELOW=1eb6 7GRAVE=1eb0 7HOOK_ABOVE=1eb2 7TILDE=1eb4 5CARON=1cd
5CIRCUMFLEX=c2 6AND_ACUTE=1ea4 7DOT_BELOW=1eac 7GRAVE=1ea6 7HOOK_ABOVE=1ea8 7TILDE=1eaa
5DIAERESIS=c4 6AND_MACRON=1de 5DOT_ABOVE=226 7AND_MACRON=1e0 6BELOW=1ea0 5DOUBLE_GRAVE=200
5GRAVE=c0 5HOOK_ABOVE=1ea2 5INVERTED_BREVE=202 5MACRON=100 5OGONEK=104 5RING_ABOVE=c5
7AND_ACUTE=1fa 6BELOW=1e00 5STROKE=23a 5TILDE=c3 3AA=a732 3AE=c6 4WITH_ACUTE=1fc 5MACRON=1e2
3AFRICAN_D=189 3ALPHA=2c6d 3ANGLICANA_W=a7c2 3AO=a734 3AU=a736 3AV=a738 4WITH_HORIZONTAL_BAR=a73a
3AY=a73c 3B=42 4WITH_DOT_ABOVE=1e02 6BELOW=1e04 5FLOURISH=a796 5HOOK=181 5LINE_BELOW=1e06
5STROKE=243 5TOPBAR=182 3BETA=a7b4 3BROKEN_L=a746 3C=43 4WITH_ACUTE=106 5BAR=a792 5CARON=10c
5CEDILLA=c7 6AND_ACUTE=1e08 5CIRCUMFLEX=108 5DOT_ABOVE=10a 5HOOK=187 5PALATAL_HOOK=a7c4 5STROKE=23b
3CHI=a7b3 3CLOSED_INSULAR_G=a7d0 3CON=a76e 3CUATRILLO=a72c 4WITH_COMMA=a72e 3D=44 4WITH_CARON=10e
5CEDILLA=1e10 5CIRCUMFLEX_BELOW=1e12 5DOT_ABOVE=1e0a 6BELOW=1e0c 5HOOK=18a 5LINE_BELOW=1e0e
5SHORT_STROKE_OVERLAY=a7c7 5SMALL_LETTER_Z=1f2 8WITH_CARON=1c5 5STROKE=110 5TOPBAR=18b 3DZ=1f1
4WITH_CARON=1c4 3E=45 4WITH_ACUTE=c9 5BREVE=114 5CARON=11a 5CEDILLA=228 6AND_BREVE=1e1c
5CIRCUMFLEX=ca 6AND_ACUTE=1ebe 7DOT_BELOW=1ec6 7GRAVE=1ec0 7HOOK_ABOVE=1ec2 7TILDE=1ec4 6BELOW=1e18
5DIAERESIS=cb 5DOT_ABOVE=116 6BELOW=1eb8 5DOUBLE_GRAVE=204 5GRAVE=c8 5HOOK_ABOVE=1eba
5INVERTED_BREVE=206 5MACRON=112 6AND_ACUTE=1e16 7GRAVE=1e14 5OGONEK=118 5STROKE=246 5TILDE=1ebc
6BELOW=1e1a 3EGYPTOLOGICAL_AIN=a724 4ALEF=a722 3ENG=14a 3ESH=1a9 3ET=a76a 3ETH=d0 3EZH=1b7
4REVERSED=1b8 4WITH_CARON=1ee 3F=46 4WITH_DOT_ABOVE=1e1e 5HOOK=191 5STROKE=a798 3G=47
4WITH_ACUTE=1f4 5BREVE=11e 5CARON=1e6 5CEDILLA=122 5CIRCUMFLEX=11c 5DOT_ABOVE=120 5HOOK=193
5MACRON=1e20 5OBLIQUE_STROKE=a7a0 5STROKE=1e4 3GAMMA=194 3GHA=1a2 3GLOTTAL_A=a7ba 4I=a7bc 4STOP=241
4U=a7be 3H=48 4WITH_BREVE_BELOW=1e2a 5CARON=21e 5CEDILLA=1e28 5CIRCUMFLEX=124 5DESCENDER=2c67
5DIAERESIS=1e26 5DOT_ABOVE=1e22 6BELOW=1e24 5HOOK=a7aa 5STROKE=126 3HALF_H=2c75 3HENG=a726
3HWAIR=1f6 3I=49 4WITH_ACUTE=cd 5BREVE=12c 5CARON=1cf 5CIRCUMFLEX=ce 5DIAERESIS=cf 6AND_ACUTE=1e2e
5DOT_ABOVE=130 6BELOW=1eca 5DOUBLE_GRAVE=208 5GRAVE=cc 5HOOK_ABOVE=1ec8 5INVERTED_BREVE=20a
5MACRON=12a 5OGONEK=12e 5STROKE=197 5TILDE=128 6BELOW=1e2c 3INSULAR_D=a779 4F=a77b 4G=a77d 4R=a782
4S=a784 4T=a786 3IOTA=196 3IS=a76c 3J=4a 4WITH_CIRCUMFLEX=134 5CROSSED-TAIL=a7b2 5STROKE=248 3K=4b
4WITH_ACUTE=1e30 5CARON=1e8 5CEDILLA=136 5DESCENDER=2c69 5DIAGONAL_STROKE=a742 5DOT_BELOW=1e32
5HOOK=198 5LINE_BELOW=1e34 5OBLIQUE_STROKE=a7a2 5STROKE=a740 6AND_DIAGONAL_STROKE=a744 3L=4c
4WITH_ACUTE=139 5BAR=23d 5BELT=a7ad 5CARON=13d 5CEDILLA=13b 5CIRCUMFLEX_BELOW=1e3c 5DOT_BELOW=1e36
7AND_MACRON=1e38 5DOUBLE_BAR=2c60 5HIGH_STROKE=a748 5LINE_BELOW=1e3a 5MIDDLE_DOT=13f 6TILDE=2c62
5SMALL_LETTER_J=1c8 5STROKE=141 3LJ=1c7 3M=4d 4WITH_ACUTE=1e3e 5DOT_ABOVE=1e40 6BELOW=1e42
5HOOK=2c6e 3MIDDLE_SCOTS_S=a7d6 3MIDDLE-WELSH_LL=1efa 4V=1efc 3N=4e 4WITH_ACUTE=143 5CARON=147
5CEDILLA=145 5CIRCUMFLEX_BELOW=1e4a 5DESCENDER=a790 5DOT_ABOVE=1e44 6BELOW=1e46 5GRAVE=1f8
5LEFT_HOOK=19d 5LINE_BELOW=1e48 5LONG_RIGHT_LEG=220 5OBLIQUE_STROKE=a7a4 5SMALL_LETTER_J=1cb
5TILDE=d1 3NJ=1ca 3O=4f 4WITH_ACUTE=d3 5BREVE=14e 5CARON=1d1 5CIRCUMFLEX=d4 6AND_ACUTE=1ed0
7DOT_BELOW=1ed8 7GRAVE=1ed2 7HOOK_ABOVE=1ed4 7TILDE=1ed6 5DIAERESIS=d6 6AND_MACRON=22a
5DOT_ABOVE=22e 7AND_MACRON=230 6BELOW=1ecc 5DOUBLE_ACUTE=150 6GRAVE=20c 5GRAVE=d2 5HOOK_ABOVE=1ece
5HORN=1a0 6AND_ACUTE=1eda 7DOT_BELOW=1ee2 7GRAVE=1edc 7HOOK_ABOVE=1ede 7TILDE=1ee0
5INVERTED_BREVE=20e 5LONG_STROKE_OVERLAY=a74a 5LOOP=a74c 5MACRON=14c 6AND_ACUTE=1e52 7GRAVE=1e50
5MIDDLE_TILDE=19f 5OGONEK=1ea 6AND_MACRON=1ec 5STROKE=d8 6AND_ACUTE=1fe 5TILDE=d5 6AND_ACUTE=1e4c
7DIAERESIS=1e4e 7MACRON=22c 3OI=1a2 3OLD_POLISH_O=a7c0 3OMEGA=a7b6 3OO=a74e 3OPEN_E=190 4O=186
3OU=222 3P=50 4WITH_ACUTE=1e54 5DOT_ABOVE=1e56 5FLOURISH=a752 5HOOK=1a4 5SQUIRREL_TAIL=a754
5STROKE=2c63 6THROUGH_DESCENDER=a750 3Q=51 4WITH_DIAGONAL_STROKE=a758
5STROKE_THROUGH_DESCENDER=a756 3R=52 4ROTUNDA=a75a 4WITH_ACUTE=154 5CARON=158 5CEDILLA=156
5DOT_ABOVE=1e58 6BELOW=1e5a 7AND_MACRON=1e5c 5DOUBLE_GRAVE=210 5INVERTED_BREVE=212 5LINE_BELOW=1e5e
5OBLIQUE_STROKE=a7a6 5STROKE=24c 5TAIL=2c64 3REVERSED_C_WITH_DOT=a73e 4E=18e 4HALF_H=a7f5
4OPEN_E=a7ab 3RUM_ROTUNDA=a75c 3S=53 4WITH_ACUTE=15a 6AND_DOT_ABOVE=1e64 5CARON=160
6AND_DOT_ABOVE=1e66 5CEDILLA=15e 5CIRCUMFLEX=15c 5COMMA_BELOW=218 5DOT_ABOVE=1e60 6BELOW=1e62
7AND_DOT_ABOVE=1e68 5HOOK=a7c5 5OBLIQUE_STROKE=a7a8 5SHORT_STROKE_OVERLAY=a7c9 5SWASH_TAIL=2c7e
3SALTILLO=a78b 3SCHWA=18f 3SCRIPT_G=a7ac 3SHARP_S=1e9e 3SIGMOID_S=a7d8 3SMALL_CAPITAL_I=a7ae
4Q_WITH_HOOK_TAIL=24a 3T=54 4WITH_CARON=164 5CEDILLA=162 5CIRCUMFLEX_BELOW=1e70 5COMMA_BELOW=21a
5DIAGONAL_STROKE=23e 5DOT_ABOVE=1e6a 6BELOW=1e6c 5HOOK=1ac 5LINE_BELOW=1e6e 5RETROFLEX_HOOK=1ae
5STROKE=166 3THORN=de 4WITH_STROKE=a764 6THROUGH_DESCENDER=a766 3TONE_FIVE=1bc 4SIX=184 4TWO=1a7
3TRESILLO=a72a 3TURNED_A=2c6f 4ALPHA=2c70 4H=a78d 4INSULAR_G=a77e 4K=a7b0 4L=a780 4M=19c 4T=a7b1
4V=245 3TZ=a728 3U=55 4BAR=244 4WITH_ACUTE=da 5BREVE=16c 5CARON=1d3 5CIRCUMFLEX=db 6BELOW=1e76
5DIAERESIS=dc 6AND_ACUTE=1d7 7CARON=1d9 7GRAVE=1db 7MACRON=1d5 6BELOW=1e72 5DOT_BELOW=1ee4
5DOUBLE_ACUTE=170 6GRAVE=214 5GRAVE=d9 5HOOK_ABOVE=1ee6 5HORN=1af 6AND_ACUTE=1ee8 7DOT_BELOW=1ef0
7GRAVE=1eea 7HOOK_ABOVE=1eec 7TILDE=1eee 5INVERTED_BREVE=216 5MACRON=16a 6AND_DIAERESIS=1e7a
5OGONEK=172 5RING_ABOVE=16e 5STROKE=a7b8 5TILDE=168 6AND_ACUTE=1e78 6BELOW=1e74 3UPSILON=1b1 3V=56
4WITH_DIAGONAL_STROKE=a75e 5DOT_BELOW=1e7e 5HOOK=1b2 5TILDE=1e7c 3VEND=a768 3VISIGOTHIC_Z=a762
3VOLAPUK_AE=a79a 4OE=a79c 4UE=a79e 3VY=a760 3W=57 4WITH_ACUTE=1e82 5CIRCUMFLEX=174 5DIAERESIS=1e84
5DOT_ABOVE=1e86 6BELOW=1e88 5GRAVE=1e80 5HOOK=2c72 3WYNN=1f7 3X=58 4WITH_DIAERESIS=1e8c
5DOT_ABOVE=1e8a 3Y=59 4WITH_ACUTE=dd 5CIRCUMFLEX=176 5DIAERESIS=178 5DOT_ABOVE=1e8e 6BELOW=1ef4
5GRAVE=1ef2 5HOOK=1b3 6ABOVE=1ef6 5LOOP=1efe 5MACRON=232 5STROKE=24e 5TILDE=1ef8 3YOGH=21c 3Z=5a
4WITH_ACUTE=179 5CARON=17d 5CIRCUMFLEX=1e90 5DESCENDER=2c6b 5DOT_ABOVE=17b 6BELOW=1e92 5HOOK=224
5LINE_BELOW=1e94 5PALATAL_HOOK=a7c6 5STROKE=1b5 5SWASH_TAIL=2c7f 2LIGATURE_IJ=132 3OE=152
1CROSS=271d 1EPIGRAPHIC_LETTER_ARCHAIC_M=a7ff 3I_LONGA=a7fe 3INVERTED_M=a7fd 3REVERSED_F=a7fb
4P=a7fc 3SIDEWAYS_I=a7f7 1LETTER_AIN=1d25 2ALVEOLAR_CLICK=1c2 2BIDENTAL_PERCUSSIVE=2ad
2BILABIAL_CLICK=298 3PERCUSSIVE=2ac 2DENTAL_CLICK=1c0 2GLOTTAL_STOP=294 4WITH_STROKE=2a1
2INVERTED_GLOTTAL_STOP=296 5WITH_CURL=1df0e 6STROKE=1be 2LATERAL_CLICK=1c1
2PHARYNGEAL_VOICED_FRICATIVE=295 2RETROFLEX_CLICK=1c3 4WITH_RETROFLEX_HOOK=1df0a
2REVERSED_ESH_LOOP=1aa 3GLOTTAL_STOP_WITH_STROKE=2a2 2SINOLOGICAL_DOT=a78f 2SMALL_CAPITAL_A=1d00
4AE=1d01 4B=299 4BARRED_B=1d03 4C=1d04 4D=1d05 4E=1d07 4ETH=1d06 4EZH=1d23 4F=a730 4G=262
5WITH_HOOK=29b 4H=29c 4I=26a 4INVERTED_R=281 4J=1d0a 4K=1d0b 4L=29f 5WITH_BELT=1df04 6STROKE=1d0c
4M=1d0d 4N=274 4O=1d0f 4OE=276 4OPEN_O=1d10 4OU=1d15 4P=1d18 4Q=a7af 4R=280 5WITH_RIGHT_LEG=ab46
4REVERSED_N=1d0e 5R=1d19 4RUM=a776 4S=a731 4T=1d1b 4TURNED_E=2c7b 5G=1df02 5K=1df10 5M=a7fa 5R=1d1a
4U=1d1c 4V=1d20 4W=1d21 4Y=28f 4Z=1d22 2STRETCHED_C=297 4WITH_CURL=1df0f 2TWO_WITH_STROKE=1bb
2VOICED_LARYNGEAL_SPIRANT=1d24 2WYNN=1bf 2YR=1a6 1SMALL_CAPITAL_LETTER_I_WITH_STROKE=1d7b
4U_WITH_STROKE=1d7e 2LETTER_A=61 4REVERSED-SCHWA=ab31 4WITH_ACUTE=e1 5BREVE=103 6AND_ACUTE=1eaf
7DOT_BELOW=1eb7 7GRAVE=1eb1 7HOOK_ABOVE=1eb3 7TILDE=1eb5 5CARON=1ce 5CIRCUMFLEX=e2 6AND_ACUTE=1ea5
7DOT_BELOW=1ead 7GRAVE=1ea7 7HOOK_ABOVE=1ea9 7TILDE=1eab 5DIAERESIS=e4 6AND_MACRON=1df
5DOT_ABOVE=227 7AND_MACRON=1e1 6BELOW=1ea1 5DOUBLE_GRAVE=201 5GRAVE=e0 5HOOK_ABOVE=1ea3
5INVERTED_BREVE=203 5MACRON=101 5OGONEK=105 5RETROFLEX_HOOK=1d8f 5RIGHT_HALF_RING=1e9a
5RING_ABOVE=e5 7AND_ACUTE=1fb 6BELOW=1e01 5STROKE=2c65 5TILDE=e3 3AA=a733 3AE=e6 4WITH_ACUTE=1fd
5MACRON=1e3 3ALPHA=251 4WITH_RETROFLEX_HOOK=1d90 3ANGLICANA_W=a7c3 3AO=a735 3AU=a737 3AV=a739
4WITH_HORIZONTAL_BAR=a73b 3AY=a73d 3B=62 4WITH_DOT_ABOVE=1e03 6BELOW=1e05 5FLOURISH=a797 5HOOK=253
5LINE_BELOW=1e07 5MIDDLE_TILDE=1d6c 5PALATAL_HOOK=1d80 5STROKE=180 5TOPBAR=183 3BARRED_ALPHA=ab30
4E=ab33 4O=275 3BASELINE_ESH=ab4d 3BETA=a7b5 3BLACKLETTER_E=ab32 4O=ab3d 5WITH_STROKE=ab3e
3BOTTOM_HALF_O=1d17 3BROKEN_L=a747 3C=63 4WITH_ACUTE=107 5BAR=a793 5CARON=10d 5CEDILLA=e7
6AND_ACUTE=1e09 5CIRCUMFLEX=109 5CURL=255 5DOT_ABOVE=10b 5HOOK=188 5PALATAL_HOOK=a794
5RETROFLEX_HOOK=1df1d 5STROKE=23c 3CHI=ab53 4WITH_LOW_LEFT_SERIF=ab55 6RIGHT_RING=ab54
3CLOSED_INSULAR_G=a7d1 4OMEGA=277 4OPEN_E=29a 4REVERSED_OPEN_E=25e 3CON=a76f 3CUATRILLO=a72d
4WITH_COMMA=a72f 3D=64 4WITH_CARON=10f 5CEDILLA=1e11 5CIRCUMFLEX_BELOW=1e13 5CURL=221
5DOT_ABOVE=1e0b 6BELOW=1e0d 5HOOK=257 6AND_TAIL=1d91 5LINE_BELOW=1e0f 5MIDDLE_TILDE=1d6d
5PALATAL_HOOK=1d81 5SHORT_STROKE_OVERLAY=a7c8 5STROKE=111 5TAIL=256 5TOPBAR=18c 3DB_DIGRAPH=238
3DELTA=1e9f 3DEZH_DIGRAPH=2a4 5WITH_PALATAL_HOOK=1df12 6RETROFLEX_HOOK=1df19 3DOTLESS_I=131 4J=237
5WITH_STROKE=25f 7AND_HOOK=284 3DOUBLE_R=ab48 5WITH_CROSSED-TAIL=ab4a 4THORN=a7d3 4WYNN=a7d5
3DUM=a771 3DZ=1f3 4DIGRAPH=2a3 5WITH_CURL=2a5 6RETROFLEX_HOOK=ab66 4WITH_CARON=1c6 3E=65
4WITH_ACUTE=e9 5BREVE=115 5CARON=11b 5CEDILLA=229 6AND_BREVE=1e1d 5CIRCUMFLEX=ea 6AND_ACUTE=1ebf
7DOT_BELOW=1ec7 7GRAVE=1ec1 7HOOK_ABOVE=1ec3 7TILDE=1ec5 6BELOW=1e19 5DIAERESIS=eb 5DOT_ABOVE=117
6BELOW=1eb9 5DOUBLE_GRAVE=205 5FLOURISH=ab34 5GRAVE=e8 5HOOK_ABOVE=1ebb 5INVERTED_BREVE=207
5MACRON=113 6AND_ACUTE=1e17 7GRAVE=1e15 5NOTCH=2c78 5OGONEK=119 5RETROFLEX_HOOK=1d92 5STROKE=247
5TILDE=1ebd 6BELOW=1e1b 3EGYPTOLOGICAL_AIN=a725 4ALEF=a723 3ENG=14b 4WITH_CROSSED-TAIL=ab3c
5PALATAL_HOOK=1df14 3ESH=283 4WITH_CURL=286 5DOUBLE_BAR=1df0b 7AND_CURL=1df0c 5PALATAL_HOOK=1d8b
5RETROFLEX_HOOK=1d98 3ET=a76b 3ETH=f0 3EZH=292 4REVERSED=1b9 4WITH_CARON=1ef 5CURL=293
5PALATAL_HOOK=1df18 5RETROFLEX_HOOK=1d9a 5TAIL=1ba 3F=66 4WITH_DOT_ABOVE=1e1f 5HOOK=192
5MIDDLE_TILDE=1d6e 5PALATAL_HOOK=1d82 5STROKE=a799 3FENG_DIGRAPH=2a9 5WITH_TRILL=1df00 3G=67
4WITH_ACUTE=1f5 5BREVE=11f 5CARON=1e7 5CEDILLA=123 5CIRCUMFLEX=11d 5DOT_ABOVE=121 5HOOK=260
5MACRON=1e21 5OBLIQUE_STROKE=a7a1 5PALATAL_HOOK=1d83 5STROKE=1e5 3GAMMA=263 3GHA=1a3
3GLOTTAL_A=a7bb 4I=a7bd 4STOP=242 4U=a7bf 3H=68 4WITH_BREVE_BELOW=1e2b 5CARON=21f 5CEDILLA=1e29
5CIRCUMFLEX=125 5DESCENDER=2c68 5DIAERESIS=1e27 5DOT_ABOVE=1e23 6BELOW=1e25 5HOOK=266
5LINE_BELOW=1e96 5PALATAL_HOOK=a795 5STROKE=127 3HALF_H=2c76 3HENG=a727 4WITH_HOOK=267 3HV=195
3I=69 4WITH_ACUTE=ed 5BREVE=12d 5CARON=1d0 5CIRCUMFLEX=ee 5DIAERESIS=ef 6AND_ACUTE=1e2f
5DOT_BELOW=1ecb 5DOUBLE_GRAVE=209 5GRAVE=ec 5HOOK_ABOVE=1ec9 5INVERTED_BREVE=20b 5MACRON=12b
5OGONEK=12f 5RETROFLEX_HOOK=1d96 5STROKE=268 6AND_RETROFLEX_HOOK=1df1a 5TILDE=129 6BELOW=1e2d
3INSULAR_D=a77a 4F=a77c 4G=1d79 4R=a783 4S=a785 4T=a787 3INVERTED_ALPHA=ab64 4OE=ab40 3IOTA=269
4WITH_STROKE=1d7c 3IOTIFIED_E=ab61 3IS=a76d 3J=6a 4WITH_CARON=1f0 5CIRCUMFLEX=135 5CROSSED-TAIL=29d
5STROKE=249 3K=6b 4WITH_ACUTE=1e31 5CARON=1e9 5CEDILLA=137 5DESCENDER=2c6a 5DIAGONAL_STROKE=a743
5DOT_BELOW=1e33 5HOOK=199 5LINE_BELOW=1e35 5OBLIQUE_STROKE=a7a3 5PALATAL_HOOK=1d84 5STROKE=a741
6AND_DIAGONAL_STROKE=a745 3KRA=138 3L=6c 4WITH_ACUTE=13a 5BAR=19a 5BELT=26c 6AND_PALATAL_HOOK=1df13
5CARON=13e 5CEDILLA=13c 5CIRCUMFLEX_BELOW=1e3d 5CURL=234 5DOT_BELOW=1e37 7AND_MACRON=1e39
5DOUBLE_BAR=2c61 6MIDDLE_TILDE=ab38 5FISHHOOK=1df11 5HIGH_STROKE=a749 5INVERTED_LAZY_S=ab37
5LINE_BELOW=1e3b 5MIDDLE_DOT=140 6RING=ab39 6TILDE=26b 5PALATAL_HOOK=1d85 5RETROFLEX_HOOK=26d
7AND_BELT=a78e 5STROKE=142 3LAMBDA_WITH_STROKE=19b 3LENIS_F=ab35 3LEZH=26e
4WITH_RETROFLEX_HOOK=1df05 3LJ=1c9 3LONG_S=17f 5WITH_DIAGONAL_STROKE=1e9c 6DOT_ABOVE=1e9b
6HIGH_STROKE=1e9d 3LS_DIGRAPH=2aa 3LUM=a772 3LZ_DIGRAPH=2ab 3M=6d 4WITH_ACUTE=1e3f
5CROSSED-TAIL=ab3a 5DOT_ABOVE=1e41 6BELOW=1e43 5HOOK=271 5MIDDLE_TILDE=1d6f 5PALATAL_HOOK=1d86
3MIDDLE_SCOTS_S=a7d7 3MIDDLE-WELSH_LL=1efb 4V=1efd 3MUM=a773 3N=6e 4PRECEDED_BY_APOSTROPHE=149
4WITH_ACUTE=144 5CARON=148 5CEDILLA=146 5CIRCUMFLEX_BELOW=1e4b 5CROSSED-TAIL=ab3b 5CURL=235
5DESCENDER=a791 5DOT_ABOVE=1e45 6BELOW=1e47 5GRAVE=1f9 5LEFT_HOOK=272 5LINE_BELOW=1e49
5LONG_RIGHT_LEG=19e 5MIDDLE_TILDE=1d70 5OBLIQUE_STROKE=a7a5 5PALATAL_HOOK=1d87 5RETROFLEX_HOOK=273
5TILDE=f1 3NJ=1cc 3NUM=a774 3O=6f 4WITH_ACUTE=f3 5BREVE=14f 5CARON=1d2 5CIRCUMFLEX=f4
6AND_ACUTE=1ed1 7DOT_BELOW=1ed9 7GRAVE=1ed3 7HOOK_ABOVE=1ed5 7TILDE=1ed7 5DIAERESIS=f6
6AND_MACRON=22b 5DOT_ABOVE=22f 7AND_MACRON=231 6BELOW=1ecd 5DOUBLE_ACUTE=151 6GRAVE=20d 5GRAVE=f2
5HOOK_ABOVE=1ecf 5HORN=1a1 6AND_ACUTE=1edb 7DOT_BELOW=1ee3 7GRAVE=1edd 7HOOK_ABOVE=1edf 7TILDE=1ee1
5INVERTED_BREVE=20f 5LONG_STROKE_OVERLAY=a74b 5LOOP=a74d 5LOW_RING_INSIDE=2c7a 5MACRON=14d
6AND_ACUTE=1e53 7GRAVE=1e51 5OGONEK=1eb 6AND_MACRON=1ed 5RETROFLEX_HOOK=1df1b 5STROKE=f8
6AND_ACUTE=1ff 5TILDE=f5 6AND_ACUTE=1e4d 7DIAERESIS=1e4f 7MACRON=22d 3OI=1a3 3OLD_POLISH_O=a7c1
3OMEGA=a7b7 3OO=a74f 3OPEN_E=25b 5WITH_RETROFLEX_HOOK=1d93 4O=254 5WITH_RETROFLEX_HOOK=1d97
6STROKE=ab3f 4OE=ab62 3OU=223 3P=70 4WITH_ACUTE=1e55 5DOT_ABOVE=1e57 5FLOURISH=a753 5HOOK=1a5
5MIDDLE_TILDE=1d71 5PALATAL_HOOK=1d88 5SQUIRREL_TAIL=a755 5STROKE=1d7d 6THROUGH_DESCENDER=a751
3PHI=278 3Q=71 4WITH_DIAGONAL_STROKE=a759 5HOOK=2a0 6TAIL=24b 5STROKE_THROUGH_DESCENDER=a757
3QP_DIGRAPH=239 3R=72 4ROTUNDA=a75b 4WITH_ACUTE=155 5CARON=159 5CEDILLA=157 5CROSSED-TAIL=ab49
5DOT_ABOVE=1e59 6BELOW=1e5b 7AND_MACRON=1e5d 5DOUBLE_GRAVE=211 5FISHHOOK=27e 6AND_MIDDLE_TILDE=1d73
7PALATAL_HOOK=1df16 5INVERTED_BREVE=213 5LINE_BELOW=1e5f 5LONG_LEG=27c 5MIDDLE_TILDE=1d72
5OBLIQUE_STROKE=a7a7 5PALATAL_HOOK=1d89 5STROKE=24d 5TAIL=27d 4WITHOUT_HANDLE=ab47 3RAMS_HORN=264
3REVERSED_C=2184 5WITH_DOT=a73f 4E=258 4ENG=1df07 4HALF_H=a7f6 4K=1df03 4OPEN_E=25c 6WITH_HOOK=25d
7RETROFLEX_HOOK=1d94 4R_WITH_FISHHOOK=27f 4SCRIPT_G=1df01 3RUM=a775 4ROTUNDA=a75d 3S=73
4WITH_ACUTE=15b 6AND_DOT_ABOVE=1e65 5CARON=161 6AND_DOT_ABOVE=1e67 5CEDILLA=15f 5CIRCUMFLEX=15d
5COMMA_BELOW=219 5CURL=1df1e 5DOT_ABOVE=1e61 6BELOW=1e63 7AND_DOT_ABOVE=1e69 5HOOK=282
5MIDDLE_TILDE=1d74 5OBLIQUE_STROKE=a7a9 5PALATAL_HOOK=1d8a 5SHORT_STROKE_OVERLAY=a7ca
5SWASH_TAIL=23f 3SAKHA_YAT=ab60 3SALTILLO=a78c 3SCHWA=259 4WITH_HOOK=25a 5RETROFLEX_HOOK=1d95
3SCRIPT_G=261 5WITH_CROSSED-TAIL=ab36 4R=ab4b 5WITH_RING=ab4c 3SHARP_S=df
3SIDEWAYS_DIAERESIZED_U=1d1e 4O=1d11 5WITH_STROKE=1d13 4OPEN_O=1d12 4TURNED_M=1d1f 4U=1d1d
3SIGMOID_S=a7d9 3SQUAT_REVERSED_ESH=285 3STIRRUP_R=ab45 3T=74 4WITH_CARON=165 5CEDILLA=163
5CIRCUMFLEX_BELOW=1e71 5COMMA_BELOW=21b 5CURL=236 5DIAERESIS=1e97 5DIAGONAL_STROKE=2c66
5DOT_ABOVE=1e6b 6BELOW=1e6d 5HOOK=1ad 6AND_RETROFLEX_HOOK=1df09 5LINE_BELOW=1e6f 5MIDDLE_TILDE=1d75
5PALATAL_HOOK=1ab 5RETROFLEX_HOOK=288 5STROKE=167 3TAILLESS_PHI=2c77 3TC_DIGRAPH_WITH_CURL=2a8
3TESH_DIGRAPH=2a7 5WITH_PALATAL_HOOK=1df17 6RETROFLEX_HOOK=1df1c 3TH_WITH_STRIKETHROUGH=1d7a
3THORN=fe 4WITH_STROKE=a765 6THROUGH_DESCENDER=a767 3TONE_FIVE=1bd 4SIX=185 4TWO=1a8
3TOP_HALF_O=1d16 3TRESILLO=a72b 3TS_DIGRAPH=2a6 5WITH_RETROFLEX_HOOK=ab67 3TUM=a777 3TURNED_A=250
4AE=1d02 4ALPHA=252 4DELTA=18d 4E=1dd 4G=1d77 4H=265 5WITH_FISHHOOK=2ae 7AND_TAIL=2af 4I=1d09
4INSULAR_G=a77f 4K=29e 4L=a781 4M=26f 5WITH_LONG_LEG=270 4O_OPEN-O=ab43 6WITH_STROKE=ab44 4OE=1d14
5WITH_HORIZONTAL_STROKE=ab42 6STROKE=ab41 4OPEN_E=1d08 4R=279 5WITH_HOOK=27b 6LONG_LEG=27a
8AND_RETROFLEX_HOOK=1df08 6MIDDLE_TILDE=ab68 6PALATAL_HOOK=1df15 6TAIL=2c79 4T=287 5WITH_CURL=1df0d
4UI=ab51 4V=28c 4W=28d 4Y=28e 5WITH_BELT=1df06 3TZ=a729 3U=75 4BAR=289 5WITH_SHORT_RIGHT_LEG=ab4f
4WITH_ACUTE=fa 5BREVE=16d 5CARON=1d4 5CIRCUMFLEX=fb 6BELOW=1e77 5DIAERESIS=fc 6AND_ACUTE=1d8
7CARON=1da 7GRAVE=1dc 7MACRON=1d6 6BELOW=1e73 5DOT_BELOW=1ee5 5DOUBLE_ACUTE=171 6GRAVE=215
5GRAVE=f9 5HOOK_ABOVE=1ee7 5HORN=1b0 6AND_ACUTE=1ee9 7DOT_BELOW=1ef1 7GRAVE=1eeb 7HOOK_ABOVE=1eed
7TILDE=1eef 5INVERTED_BREVE=217 5LEFT_HOOK=ab52 5MACRON=16b 6AND_DIAERESIS=1e7b 5OGONEK=173
5RETROFLEX_HOOK=1d99 5RING_ABOVE=16f 5SHORT_RIGHT_LEG=ab4e 5STROKE=a7b9 5TILDE=169 6AND_ACUTE=1e79
6BELOW=1e75 3UE=1d6b 3UI=ab50 3UM=a778 3UO=ab63 3UPSILON=28a 4WITH_STROKE=1d7f 3V=76
4WITH_CURL=2c74 5DIAGONAL_STROKE=a75f 5DOT_BELOW=1e7f 5HOOK=28b 5PALATAL_HOOK=1d8c 5RIGHT_HOOK=2c71
5TILDE=1e7d 3VEND=a769 3VISIGOTHIC_Z=a763 3VOLAPUK_AE=a79b 4OE=a79d 4UE=a79f 3VY=a761 3W=77
4WITH_ACUTE=1e83 5CIRCUMFLEX=175 5DIAERESIS=1e85 5DOT_ABOVE=1e87 6BELOW=1e89 5GRAVE=1e81 5HOOK=2c73
5RING_ABOVE=1e98 3X=78 4WITH_DIAERESIS=1e8d 5DOT_ABOVE=1e8b 5LONG_LEFT_LEG=ab57
8AND_LOW_RIGHT_RING=ab58 8WITH_SERIF=ab59 5LOW_RIGHT_RING=ab56 5PALATAL_HOOK=1d8d 3Y=79
4WITH_ACUTE=fd 5CIRCUMFLEX=177 5DIAERESIS=ff 5DOT_ABOVE=1e8f 6BELOW=1ef5 5GRAVE=1ef3 5HOOK=1b4
6ABOVE=1ef7 5LOOP=1eff 5MACRON=233 5RING_ABOVE=1e99 5SHORT_RIGHT_LEG=ab5a 5STROKE=24f 5TILDE=1ef9
3YOGH=21d 3Z=7a 4WITH_ACUTE=17a 5CARON=17e 5CIRCUMFLEX=1e91 5CURL=291 5DESCENDER=2c6c
5DOT_ABOVE=17c 6BELOW=1e93 5HOOK=225 5LINE_BELOW=1e95 5MIDDLE_TILDE=1d76 5PALATAL_HOOK=1d8e
5RETROFLEX_HOOK=290 5STROKE=1b6 5SWASH_TAIL=240 2LIGATURE_FF=fb00 3FFI=fb03 3FFL=fb04 3FI=fb01
3FL=fb02 3IJ=133 3LONG_S_T=fb05 3OE=153 3ST=fb06 1SUBSCRIPT_SMALL_LETTER_A=2090 4E=2091 4H=2095
4I=1d62 4J=2c7c 4K=2096 4L=2097 4M=2098 4N=2099 4O=2092 4P=209a 4R=1d63 4S=209b 4SCHWA=2094 4T=209c
4U=1d64 4V=1d65 4X=2093 0LEAF_FLUTTERING_IN_WIND=1f343 0LEAFY_GREEN=1f96c 0LEDGER=1f4d2
0LEFT_AND_LOWER_AND_RIGHT_TRIANGULAR_THREE_QUARTERS_BLOCK=1fb69 3ONE_EIGHTH_BLOCK=1fb7c
2RIGHT_DOUBLE_TURNSTILE=27da 3TACK=27db 3TRIANGULAR_HALF_BLOCK=1fb9b
2UPPER_AND_RIGHT_TRIANGULAR_THREE_QUARTERS_BLOCK=1fb6b 3ONE_EIGHTH_BLOCK=1fb7d 1ANGER_BUBBLE=1f5ee
1ANGLE_BRACKET=3008 3WITH_DOT=2991 1ARC_LESS-THAN_BRACKET=2993 1ARROW_WITH_CIRCLED_PLUS=2b32
3SMALL_CIRCLE=2b30 1BARB_DOWN_RIGHT_BARB_DOWN_HARPOON=2950 5UP_HARPOON=294b
2UP_RIGHT_BARB_DOWN_HARPOON=294a 5UP_HARPOON=294e 1BLACK_LENTICULAR_BRACKET=3010
2TORTOISE_SHELL_BRACKET=2997 1CEILING=2308 1CLOSED_ENTRY=26dc 1CORNER_BRACKET=300c
1CURLY_BRACKET=7b 3LOWER_HOOK=23a9 3MIDDLE_PIECE=23a8 3UPPER_HOOK=23a7
1DOTTED_SUBSTITUTION_BRACKET=2e04 1DOUBLE_ANGLE_BRACKET=300a 2PARENTHESIS=2e28 2QUOTATION_MARK=201c
2WIGGLY_FENCE=29da 1FISH_TAIL=297c 1FIVE_EIGHTHS_BLOCK=258b 1FLOOR=230a 1HALF_BLACK_CIRCLE=25d6
3STAR=2be8 2BLOCK=258c 2CIRCLE=1f907 3WITH_DOT=1f906 4FOUR_DOTS=1f903 4THREE_DOTS=1f904
4TWO_DOTS=1f905 2FOLDER=1fbb9 2INVERSE_MEDIUM_SHADE_AND_RIGHT_HALF_BLOCK=1fb94 2MEDIUM_SHADE=1fb8c
2RUNNING_MAN=1fbb2 1HAND_TELEPHONE_RECEIVER=1f57b 1LOW_PARAPHRASE_BRACKET=2e1c 1LUGGAGE=1f6c5
1MULTIMAP=27dc 1NORMAL_FACTOR_SEMIDIRECT_PRODUCT=22c9 1ONE_EIGHTH_BLOCK=258f 2QUARTER_BLOCK=258e
1OUTER_JOIN=27d5 1PARENTHESIS=28 2EXTENSION=239c 2LOWER_HOOK=239d 2UPPER_HOOK=239b
1RAISED_OMISSION_BRACKET=2e0c 1RIGHT_ARROW=2194 3THROUGH_SMALL_CIRCLE=2948
3WITH_DOUBLE_VERTICAL_STROKE=21fc 4STROKE=21ae 4VERTICAL_STROKE=21f9 2BLACK_ARROW=2b0c
2DOUBLE_ARROW=21d4 4WITH_STROKE=21ce 5VERTICAL_STROKE=2904 2OPEN-HEADED_ARROW=21ff
2SANS-SERIF_ARROW=1f858 2TRIANGLE-HEADED_ARROW=2b64 2WAVE_ARROW=21ad 2WHITE_ARROW=2b04
1S-SHAPED_BAG_DELIMITER=27c5 1SEMIDIRECT_PRODUCT=22cb 1SEVEN_EIGHTHS_BLOCK=2589
1SIDEWAYS_U_BRACKET=2e26 1SINGLE_QUOTATION_MARK=2018 1SPEECH_BUBBLE=1f5e8 1SQUARE_BRACKET=5b
3EXTENSION=23a2 3LOWER_CORNER=23a3 3UPPER_CORNER=23a1 3WITH_DOUBLE_STROKE=2e57 4QUILL=2045
4STROKE=2e55 4TICK_IN_BOTTOM_CORNER=298f 6TOP_CORNER=298d 4UNDERBAR=298b 1SUBSTITUTION_BRACKET=2e02
1TACK=22a3 1THIRD_WHITE_RIGHT_POINTING_INDEX=1fbc1 1THOUGHT_BUBBLE=1f5ec 1THREE_EIGHTHS_BLOCK=258d
2QUARTERS_BLOCK=258a 1TORTOISE_SHELL_BRACKET=3014 1TRANSPOSITION_BRACKET=2e09
1TRIANGLE_BESIDE_VERTICAL_BAR=29cf 1TRIANGULAR_ONE_QUARTER_BLOCK=1fb6c
1VERTICAL_BAR_WITH_QUILL=2e20 2BOX_LINE=23b8 1WHITE_CORNER_BRACKET=300e 2CURLY_BRACKET=2983
2LENTICULAR_BRACKET=3016 2PARENTHESIS=2985 2SQUARE_BRACKET=301a 2TORTOISE_SHELL_BRACKET=3018
1WIGGLY_FENCE=29d8 1WRITING_HAND=1f58e 0LEFT-FACING_ARMENIAN_ETERNITY_SIGN=58e 1FIST=1f91b
1SVASTI_SIGN=fd6 3WITH_DOTS=fd8 0LEFT-HANDED_INTERLACED_PENTAGRAM=26e6
0LEFT-POINTING_ANGLE_BRACKET=2329 1CURVED_ANGLE_BRACKET=29fc 1DOUBLE_ANGLE_QUOTATION_MARK=ab
1MAGNIFYING_GLASS=1f50d 0LEFT-SHADED_WHITE_RIGHTWARDS_ARROW=27aa
0LEFT-SIDE_ARC_ANTICLOCKWISE_ARROW=2939 0LEFT-TO-RIGHT_EMBEDDING=202a 1ISOLATE=2066 1MARK=200e
1OVERRIDE=202d 0LEFTWARDS_ARROW=2190 2ABOVE_ALMOST_EQUAL_TO=2b4a 3REVERSE_ALMOST_EQUAL_TO=2b42
4TILDE_OPERATOR=2b4b 3SHORT_RIGHTWARDS_ARROW=2943 3TILDE_OPERATOR=2973
2AND_UPPER_AND_LOWER_ONE_EIGHTH_BLOCK=1fbb5 2FROM_BAR=21a4 4TO_BLACK_DIAMOND=291f
2OVER_RIGHTWARDS_ARROW=21c6 2THROUGH_LESS-THAN=2977 3SUBSET=297a 3X=2b3e 2TO_BAR=21e4
4OVER_RIGHTWARDS_ARROW_TO_BAR=21b9 3BLACK_DIAMOND=291d 2WITH_DOTTED_STEM=2b38
3DOUBLE_VERTICAL_STROKE=21fa 3EQUILATERAL_ARROWHEAD=1f814 3HOOK=21a9
3LARGE_TRIANGLE_ARROWHEAD=1f808 3LOOP=21ab 3MEDIUM_TRIANGLE_ARROWHEAD=1f804 3NOTCHED_TAIL=1f898
3PLUS_BELOW=2946 3SMALL_EQUILATERAL_ARROWHEAD=1f810 4TRIANGLE_ARROWHEAD=1f800 3STROKE=219a
3TAIL=21a2 4WITH_DOUBLE_VERTICAL_STROKE=2b3a 5VERTICAL_STROKE=2b39 3TIP_DOWNWARDS=2b10
4UPWARDS=2b11 3VERTICAL_STROKE=21f7 1ARROW-TAIL=2919 1BACK-TILTED_SHADOWED_WHITE_ARROW=1f8a8
1BLACK_ARROW=2b05 2CIRCLED_WHITE_ARROW=2b88 1BOTTOM-SHADED_WHITE_ARROW=1f8a0
1COMPRESSED_ARROW=1f83c 1DASHED_ARROW=21e0 1DOUBLE_ARROW=21d0 3FROM_BAR=2906 3WITH_STROKE=21cd
4VERTICAL_STROKE=2902 2ARROW-TAIL=291b 2DASH_ARROW=290c 1FINGER-POST_ARROW=1f834
1FRONT-TILTED_SHADOWED_WHITE_ARROW=1f8aa 1HAND=1faf2 1HARPOON_OVER_RIGHTWARDS_HARPOON=21cb
2WITH_BARB_DOWN_ABOVE_RIGHTWARDS_HARPOON_WITH_BARB_DOWN=2967 5BELOW_LONG_DASH=296b 5FROM_BAR=295e
5TO_BAR=2956 4DOWNWARDS=21bd 4UP_ABOVE_LEFTWARDS_HARPOON_WITH_BARB_DOWN=2962 6LONG_DASH=296a
6RIGHTWARDS_HARPOON_WITH_BARB_UP=2966 5FROM_BAR=295a 5TO_BAR=2952 4UPWARDS=21bc 1HEAVY_ARROW=1f844
2COMPRESSED_ARROW=1f840 1LEFT-SHADED_WHITE_ARROW=1f8a4 1OPEN-HEADED_ARROW=21fd 1PAIRED_ARROWS=21c7
1QUADRUPLE_ARROW=2b45 1RIGHT-SHADED_WHITE_ARROW=1f8a6 1ROCKET=1f66c 1SANS-SERIF_ARROW=1f850
1SQUARED_ARROW=1f838 1SQUIGGLE_ARROW=21dc 1TOP_SHADED_WHITE_ARROW=1f8a2 1TRIANGLE_ARROWHEAD=1f890
1TRIANGLE-HEADED_ARROW=2b60 3OVER_RIGHTWARDS_TRIANGLE-HEADED_ARROW=2b80 3TO_BAR=2b70
3WITH_BOLD_SHAFT=1f828 4DOUBLE_HORIZONTAL_STROKE=2b7a 5VERTICAL_STROKE=2b7a 4HEAVY_SHAFT=1f82c
4LONG_TIP_DOWNWARDS=2ba6 6UPWARDS=2ba4 4MEDIUM_SHAFT=1f824 4NARROW_SHAFT=1f820
4VERY_HEAVY_SHAFT=1f830 2DASHED_ARROW=2b6a 2PAIRED_ARROWS=2b84 1TRIPLE_ARROW=21da 2DASH_ARROW=290e
1TWO_HEADED_ARROW=219e 1TWO-HEADED_ARROW_FROM_BAR=2b36 3WITH_DOUBLE_VERTICAL_STROKE=2b35 4TAIL=2b3b
5WITH_DOUBLE_VERTICAL_STROKE=2b3d 6VERTICAL_STROKE=2b3c 4TRIANGLE_ARROWHEADS=2bec
4VERTICAL_STROKE=2b34 2TRIPLE_DASH_ARROW=2b37 1WAVE_ARROW=219c 1WHITE_ARROW=21e6
3WITHIN_TRIANGLE_ARROWHEAD=1f894 0LEG=1f9b5 0LEMON=1f34b 0LEO=264c 0LEOPARD=1f406
0LEPCHA_CONSONANT_SIGN_K=1c2d 3KANG=1c35 3L=1c2f 3M=1c2e 3N=1c30 3NYIN-DO=1c34 3P=1c31 3R=1c32
3T=1c33 1DIGIT_EIGHT=1c48 2FIVE=1c45 2FOUR=1c44 2NINE=1c49 2ONE=1c41 2SEVEN=1c47 2SIX=1c46
2THREE=1c43 2TWO=1c42 2ZERO=1c40 1LETTER_A=1c23 2BA=1c13 2BLA=1c14 2CA=1c06 2CHA=1c07 2DA=1c0c
2DDA=1c4f 2DZA=1c19 2FA=1c11 2FLA=1c12 2GA=1c03 2GLA=1c04 2HA=1c1d 2HLA=1c1e 2JA=1c08 2KA=1c00
2KHA=1c02 2KLA=1c01 2LA=1c1c 2MA=1c15 2MLA=1c16 2NA=1c0d 2NGA=1c05 2NYA=1c09 2PA=1c0e 2PHA=1c10
2PLA=1c0f 2RA=1c1b 2SA=1c20 2SHA=1c21 2TA=1c0a 2THA=1c0b 2TSA=1c17 2TSHA=1c18 2TTA=1c4d 2TTHA=1c4e
2VA=1c1f 2WA=1c22 2YA=1c1a 1PUNCTUATION_CER-WA=1c3d 2NYET_THYOOM_TA-ROL=1c3c 2TA-ROL=1c3b
2TSHOOK=1c3f 3CER-WA=1c3e 1SIGN_NUKTA=1c37 2RAN=1c36 1SUBJOINED_LETTER_RA=1c25 3YA=1c24
1VOWEL_SIGN_AA=1c26 3E=1c2c 3I=1c27 3O=1c28 3OO=1c29 3U=1c2a 3UU=1c2b
0LESS-THAN_ABOVE_DOUBLE-LINE_EQUAL_ABOVE_GREATER-THAN=2a8b
2GREATER-THAN_ABOVE_DOUBLE-LINE_EQUAL=2a91 2LEFTWARDS_ARROW=2976 2SIMILAR_ABOVE_GREATER-THAN=2a8f
3OR_EQUAL=2a8d 2SLANTED_EQUAL_ABOVE_GREATER-THAN_ABOVE_SLANTED_EQUAL=2a93 1AND_NOT_APPROXIMATE=2a89
2SINGLE-LINE_NOT_EQUAL_TO=2a87 1BUT_NOT_EQUAL_TO=2268 3EQUIVALENT_TO=22e6 1CLOSED_BY_CURVE=2aa6
4ABOVE_SLANTED_EQUAL=2aa8 1EQUAL_TO_OR_GREATER-THAN=22da 1OR_APPROXIMATE=2a85 2EQUAL_TO=2264
2EQUIVALENT_TO=2272 2GREATER-THAN=2276 2SLANTED_EQUAL_TO=2a7d 5WITH_DOT_ABOVE=2a81 8RIGHT=2a83
7INSIDE=2a7f 1OVER_EQUAL_TO=2266 1SIGN=3c 1WITH_CIRCLE_INSIDE=2a79 2DOT=22d6
2QUESTION_MARK_ABOVE=2a7b 0LEVEL_SLIDER=1f39a 0LF=a 0LIBRA=264e 0LIGATURE_OPEN_ET_ORNAMENT=1f672
0LIGHT_CHECK_MARK=1f5f8 1EIGHT_SPOKED_ASTERISK=1f7bb 1FIVE_POINTED_BLACK_STAR=1f7c9
2SPOKED_ASTERISK=1f7af 1FOUR_POINTED_BLACK_CUSP=2bcc 4STAR=1f7c4 1GREEK_CROSS=1f7a2
1LEFT_TORTOISE_SHELL_BRACKET_ORNAMENT=2772 1RAIL=1f688 1RIGHT_TORTOISE_SHELL_BRACKET_ORNAMENT=2773
1SALTIRE=1f7a9 1SHADE=2591 1SIX_SPOKED_ASTERISK=1f7b5 1THREE_POINTED_BLACK_STAR=1f7c0
1TWELVE_POINTED_BLACK_STAR=1f7d2 1VERTICAL_BAR=2758 1WHITE_SQUARE=1f78e 0LIGHTNING=2607 1MOOD=1f5f2
2BUBBLE=1f5f1 0LIMBU_DIGIT_EIGHT=194e 2FIVE=194b 2FOUR=194a 2NINE=194f 2ONE=1947 2SEVEN=194d
2SIX=194c 2THREE=1949 2TWO=1948 2ZERO=1946 1EXCLAMATION_MARK=1944 1LETTER_BA=1912 2BHA=1913
2CA=1906 2CHA=1907 2DA=190d 2DHA=190e 2GA=1903 2GHA=1904 2GYAN=191d 2HA=191c 2JA=1908 2JHA=1909
2KA=1901 2KHA=1902 2LA=1917 2MA=1914 2NA=190f 2NGA=1905 2PA=1910 2PHA=1911 2RA=1916 2SA=191b
2SHA=1919 2SSA=191a 2TA=190b 2THA=190c 2TRA=191e 2WA=1918 2YA=1915 2YAN=190a 1QUESTION_MARK=1945
1SIGN_KEMPHRENG=193a 2LOO=1940 2MUKPHRENG=1939 2SA-I=193b 1SMALL_LETTER_ANUSVARA=1932 3KA=1930
3LA=1938 3MA=1936 3NA=1934 3NGA=1931 3PA=1935 3RA=1937 3TA=1933 1SUBJOINED_LETTER_RA=192a 3WA=192b
3YA=1929 1VOWEL_SIGN_A=1920 3AI=1924 3AU=1926 3E=1927 3EE=1923 3I=1921 3O=1928 3OO=1925 3U=1922
1VOWEL-CARRIER_LETTER=1900 0LIMITED_LIABILITY_SIGN=32cf 0LINE_FEED=a
1INTEGRATION_NOT_INCLUDING_THE_POLE=2a14 2WITH_RECTANGULAR_PATH_AROUND_POLE=2a12
3SEMICIRCULAR_PATH_AROUND_POLE=2a13 1SEPARATOR=2028 1TABULATION=b 2SET=8a
0LINEAR_A_SIGN_A028B=1061b 3A100-102=10647 3A120B=1064a 3A131C=1064f 3A301=10655 3A302=10656
3A303=10657 3A304=10658 3A305=10659 3A306=1065a 3A307=1065b 3A308=1065c 3A309A=1065d 3A309B=1065e
3A309C=1065f 3A310=10660 3A311=10661 3A312=10662 3A313A=10663 3A313B=10664 3A313C=10665 3A314=10666
3A315=10667 3A316=10668 3A317=10669 3A318=1066a 3A319=1066b 3A320=1066c 3A321=1066d 3A322=1066e
3A323=1066f 3A324=10670 3A325=10671 3A326=10672 3A327=10673 3A328=10674 3A329=10675 3A330=10676
3A331=10677 3A332=10678 3A333=10679 3A334=1067a 3A335=1067b 3A336=1067c 3A337=1067d 3A338=1067e
3A339=1067f 3A340=10680 3A341=10681 3A342=10682 3A343=10683 3A344=10684 3A345=10685 3A346=10686
3A347=10687 3A348=10688 3A349=10689 3A350=1068a 3A351=1068b 3A352=1068c 3A353=1068d 3A354=1068e
3A355=1068f 3A356=10690 3A357=10691 3A358=10692 3A359=10693 3A360=10694 3A361=10695 3A362=10696
3A363=10697 3A364=10698 3A365=10699 3A366=1069a 3A367=1069b 3A368=1069c 3A369=1069d 3A370=1069e
3A371=1069f 3A400-VAS=106a0 3A401-VAS=106a1 3A402-VAS=106a2 3A403-VAS=106a3 3A404-VAS=106a4
3A405-VAS=106a5 3A406-VAS=106a6 3A407-VAS=106a7 3A408-VAS=106a8 3A409-VAS=106a9 3A410-VAS=106aa
3A411-VAS=106ab 3A412-VAS=106ac 3A413-VAS=106ad 3A414-VAS=106ae 3A415-VAS=106af 3A416-VAS=106b0
3A417-VAS=106b1 3A418-VAS=106b2 3A501=106b3 3A502=106b4 3A503=106b5 3A504=106b6 3A505=106b7
3A506=106b8 3A508=106b9 3A509=106ba 3A510=106bb 3A511=106bc 3A512=106bd 3A513=106be 3A515=106bf
3A516=106c0 3A520=106c1 3A521=106c2 3A523=106c3 3A524=106c4 3A525=106c5 3A526=106c6 3A527=106c7
3A528=106c8 3A529=106c9 3A530=106ca 3A531=106cb 3A532=106cc 3A534=106cd 3A535=106ce 3A536=106cf
3A537=106d0 3A538=106d1 3A539=106d2 3A540=106d3 3A541=106d4 3A542=106d5 3A545=106d6 3A547=106d7
3A548=106d8 3A549=106d9 3A550=106da 3A551=106db 3A552=106dc 3A553=106dd 3A554=106de 3A555=106df
3A556=106e0 3A557=106e1 3A559=106e2 3A563=106e3 3A564=106e4 3A565=106e5 3A566=106e6 3A568=106e7
3A569=106e8 3A570=106e9 3A571=106ea 3A572=106eb 3A573=106ec 3A574=106ed 3A575=106ee 3A576=106ef
3A577=106f0 3A578=106f1 3A579=106f2 3A580=106f3 3A581=106f4 3A582=106f5 3A583=106f6 3A584=106f7
3A585=106f8 3A586=106f9 3A587=106fa 3A588=106fb 3A589=106fc 3A591=106fd 3A592=106fe 3A594=106ff
3A595=10700 3A596=10701 3A598=10702 3A600=10703 3A601=10704 3A602=10705 3A603=10706 3A604=10707
3A606=10708 3A608=10709 3A609=1070a 3A610=1070b 3A611=1070c 3A612=1070d 3A613=1070e 3A614=1070f
3A615=10710 3A616=10711 3A617=10712 3A618=10713 3A619=10714 3A620=10715 3A621=10716 3A622=10717
3A623=10718 3A624=10719 3A626=1071a 3A627=1071b 3A628=1071c 3A629=1071d 3A634=1071e 3A637=1071f
3A638=10720 3A640=10721 3A642=10722 3A643=10723 3A644=10724 3A645=10725 3A646=10726 3A648=10727
3A649=10728 3A651=10729 3A652=1072a 3A653=1072b 3A654=1072c 3A655=1072d 3A656=1072e 3A657=1072f
3A658=10730 3A659=10731 3A660=10732 3A661=10733 3A662=10734 3A663=10735 3A664=10736 3A701_A=10740
3A702_B=10741 3A703_D=10742 3A704_E=10743 3A705_F=10744 3A706_H=10745 3A707_J=10746 3A708_K=10747
3A709_L=10748 3A709-2_L2=10749 3A709-3_L3=1074a 3A709-4_L4=1074b 3A709-6_L6=1074c 3A710_W=1074d
3A711_X=1074e 3A712_Y=1074f 3A713_OMEGA=10750 3A714_ABB=10751 3A715_BB=10752 3A717_DD=10753
3A726_EYYY=10754 3A732_JE=10755 3A800=10760 3A801=10761 3A802=10762 3A803=10763 3A804=10764
3A805=10765 3A806=10766 3A807=10767 3AB001=10600 3AB002=10601 3AB003=10602 3AB004=10603
3AB005=10604 3AB006=10605 3AB007=10606 3AB008=10607 3AB009=10608 3AB010=10609 3AB011=1060a
3AB013=1060b 3AB016=1060c 3AB017=1060d 3AB020=1060e 3AB021=1060f 3AB021F=10610 3AB021M=10611
3AB022=10612 3AB022F=10613 3AB022M=10614 3AB023=10615 3AB023M=10616 3AB024=10617 3AB026=10618
3AB027=10619 3AB028=1061a 3AB029=1061c 3AB030=1061d 3AB031=1061e 3AB034=1061f 3AB037=10620
3AB038=10621 3AB039=10622 3AB040=10623 3AB041=10624 3AB044=10625 3AB045=10626 3AB046=10627
3AB047=10628 3AB048=10629 3AB049=1062a 3AB050=1062b 3AB051=1062c 3AB053=1062d 3AB054=1062e
3AB055=1062f 3AB056=10630 3AB057=10631 3AB058=10632 3AB059=10633 3AB060=10634 3AB061=10635
3AB065=10636 3AB066=10637 3AB067=10638 3AB069=10639 3AB070=1063a 3AB073=1063b 3AB074=1063c
3AB076=1063d 3AB077=1063e 3AB078=1063f 3AB079=10640 3AB080=10641 3AB081=10642 3AB082=10643
3AB085=10644 3AB086=10645 3AB087=10646 3AB118=10648 3AB120=10649 3AB122=1064b 3AB123=1064c
3AB131A=1064d 3AB131B=1064e 3AB164=10650 3AB171=10651 3AB180=10652 3AB188=10653 3AB191=10654
1B_IDEOGRAM_B100_MAN=10080 3B102_WOMAN=10081 3B104_DEER=10082 3B105_EQUID=10083 3B105F_MARE=10084
3B105M_STALLION=10085 3B106F_EWE=10086 3B106M_RAM=10087 3B107F_SHE-GOAT=10088 3B107M_HE-GOAT=10089
3B108F_SOW=1008a 3B108M_BOAR=1008b 3B109F_COW=1008c 3B109M_BULL=1008d 3B120_WHEAT=1008e
3B121_BARLEY=1008f 3B122_OLIVE=10090 3B123_SPICE=10091 3B125_CYPERUS=10092 3B130_OIL=10095
3B131_WINE=10096 3B132=10097 3B140_BRONZE=1009a 3B141_GOLD=1009b 3B142=1009c 3B145_WOOL=1009d
3B146=1009e 3B150=1009f 3B151_HORN=100a0 3B152=100a1 3B153=100a2 3B154=100a3 3B157=100a5
3B158=100a6 3B159_CLOTH=100a7 3B160=100a8 3B161=100a9 3B162_GARMENT=100aa 3B163_ARMOUR=100ab
3B164=100ac 3B165=100ad 3B166=100ae 3B167=100af 3B168=100b0 3B169=100b1 3B170=100b2 3B171=100b3
3B172=100b4 3B173_MONTH=100b5 3B174=100b6 3B176_TREE=100b7 3B177=100b8 3B178=100b9 3B179=100ba
3B180=100bb 3B181=100bc 3B182=100bd 3B183=100be 3B184=100bf 3B185=100c0 3B189=100c1 3B190=100c2
3B191_HELMET=100c3 3B220_FOOTSTOOL=100c4 3B225_BATHTUB=100c5 3B230_SPEAR=100c6 3B231_ARROW=100c7
3B232=100c8 3B233_SWORD=100c9 3B234=100ca 3B236=100cb 3B240_WHEELED_CHARIOT=100cc
3B241_CHARIOT=100cd 3B242_CHARIOT_FRAME=100ce 3B243_WHEEL=100cf 3B245=100d0 3B246=100d1 3B248=100d3
3B249=100d4 3B251=100d5 3B252=100d6 3B253=100d7 3B254_DART=100d8 3B255=100d9 3B256=100da
3B257=100db 3B258=100dc 3B259=100dd 3VESSEL_B155=100de 4B200=100df 4B201=100e0 4B202=100e1
4B203=100e2 4B204=100e3 4B205=100e4 4B206=100e5 4B207=100e6 4B208=100e7 4B209=100e8 4B210=100e9
4B211=100ea 4B212=100eb 4B213=100ec 4B214=100ed 4B215=100ee 4B216=100ef 4B217=100f0 4B218=100f1
4B219=100f2 4B221=100f3 4B222=100f4 4B226=100f5 4B227=100f6 4B228=100f7 4B229=100f8 4B250=100f9
4B305=100fa 2MONOGRAM_B127_KAPO=10093 3B128_KANAKO=10094 3B133_AREPA=10098 3B135_MERI=10099
3B156_TURO2=100a4 3B247_DIPTE=100d2 2SYLLABLE_B001_DA=10005 3B002_RO=1002b 3B003_PA=1001e
3B004_TE=10033 3B005_TO=10035 3B006_NA=10019 3B007_DI=10007 3B008_A=10000 3B009_SE=1002e
3B010_U=10004 3B011_PO=10021 3B012_SO=10030 3B013_ME=10015 3B014_DO=10008 3B015_MO=10017
3B016_QA=10023 3B017_ZA=1003c 3B020_ZO=1003f 3B021_QI=10025 3B023_MU=10018 3B024_NE=1001a
3B025_A2=10040 3B026_RU=1002c 3B027_RE=10029 3B028_I=10002 3B029_PU2=10046 3B030_NI=1001b
3B031_SA=1002d 3B032_QO=10026 3B033_RA3=10049 3B036_JO=1000d 3B037_TI=10034 3B038_E=10001
3B039_PI=10020 3B040_WI=10039 3B041_SI=1002f 3B042_WO=1003a 3B043_A3=10041 3B044_KE=10010
3B045_DE=10006 3B046_JE=1000b 3B048_NWA=10045 3B050_PU=10022 3B051_DU=10009 3B052_NO=1001c
3B053_RI=1002a 3B054_WA=10037 3B055_NU=1001d 3B057_JA=1000a 3B058_SU=10031 3B059_TA=10032
3B060_RA=10028 3B061_O=10003 3B062_PTE=10047 3B065_JU=1000e 3B066_TA2=1004b 3B067_KI=10011
3B068_RO2=1004a 3B069_TU=10036 3B070_KO=10012 3B071_DWE=10043 3B072_PE=1001f 3B073_MI=10016
3B074_ZE=1003d 3B075_WE=10038 3B076_RA2=10048 3B077_KA=1000f 3B078_QE=10024 3B080_MA=10014
3B081_KU=10013 3B085_AU=10042 3B087_TWE=1004c 3B090_DWO=10044 3B091_TWO=1004d 2SYMBOL_B018=10050
3B019=10051 3B022=10052 3B034=10053 3B047=10054 3B049=10055 3B056=10056 3B063=10057 3B064=10058
3B079=10059 3B082=1005a 3B083=1005b 3B086=1005c 3B089=1005d 0LINK_SYMBOL=1f517
0LINKED_PAPERCLIPS=1f587 0LION_FACE=1f981 0LIPS=1f5e2 0LIPSTICK=1f484 0LIRA_SIGN=20a4
0LISU_LETTER_A=a4ee 2AE=a4ef 2BA=a4d0 2CA=a4da 2CHA=a4db 2DA=a4d3 2DZA=a4dc 2E=a4f0 2EU=a4f1
2FA=a4e9 2GA=a4d6 2GHA=a4ed 2HA=a4e6 2HHA=a4e8 2I=a4f2 2JA=a4d9 2KA=a4d7 2KHA=a4d8 2LA=a4e1
2MA=a4df 2NA=a4e0 2NGA=a4e5 2O=a4f3 2OE=a4f7 2PA=a4d1 2PHA=a4d2 2SA=a4e2 2SHA=a4eb 2TA=a4d4
2THA=a4d5 2TONE_MYA_BO=a4fb 4CYA=a4fa 4JEU=a4fd 4NA=a4fc 4TI=a4f8 3NA_PO=a4f9 2TSA=a4dd 2TSHA=a4de
2U=a4f4 2UE=a4f5 2UH=a4f6 2WA=a4ea 2XA=a4e7 2YA=a4ec 2YHA=11fb0 2ZA=a4e4 2ZHA=a4e3
1PUNCTUATION_COMMA=a4fe 2FULL_STOP=a4ff 0LIVRE_TOURNOIS_SIGN=20b6 0LIZARD=1f98e 0LLAMA=1f999
0LOBSTER=1f99e 0LOCK=1f512 1WITH_INK_PEN=1f50f 0LOCKING-SHIFT_ONE=e 1ZERO=f 0LOGICAL_AND=2227
2WITH_DOT_ABOVE=2a51 3DOUBLE_OVERBAR=2a5e 4UNDERBAR=2a60 3HORIZONTAL_DASH=2a5c 3MIDDLE_STEM=2a5a
3UNDERBAR=2a5f 1OR=2228 2OVERLAPPING_LOGICAL_AND=2a59 2WITH_DOT_ABOVE=2a52 3DOUBLE_OVERBAR=2a62
4UNDERBAR=2a63 3HORIZONTAL_DASH=2a5d 3MIDDLE_STEM=2a5b 0LOLLIPOP=1f36d
0LONG_DASH_FROM_LEFT_MEMBER_OF_DOUBLE_VERTICAL=2ae6 1DIVISION=27cc 1DRUM=1fa98
1LEFT_RIGHT_ARROW=27f7 3DOUBLE_ARROW=27fa 2TACK=27de 1LEFTWARDS_ARROW=27f5 3FROM_BAR=27fb
2DOUBLE_ARROW=27f8 4FROM_BAR=27fd 2SQUIGGLE_ARROW=2b33 1RIGHT_TACK=27dd 1RIGHTWARDS_ARROW=27f6
3FROM_BAR=27fc 2DOUBLE_ARROW=27f9 4FROM_BAR=27fe 2SQUIGGLE_ARROW=27ff 0LOTION_BOTTLE=1f9f4
0LOTUS=1fab7 0LOUDLY_CRYING_FACE=1f62d 0LOVE_HOTEL=1f3e9 1LETTER=1f48c 0LOW_ASTERISK=204e
1BATTERY=1faab 1BRIGHTNESS_SYMBOL=1f505 1DOUBLE_PRIME_QUOTATION_MARK=301f 1KAVYKA=2e47
2WITH_DOT=2e48 1LINE=5f 0LOWER_BLADE_SCISSORS=2703 1FIVE_EIGHTHS_BLOCK=2585 1HALF_BLOCK=2584
2CIRCLE=25e1 2INVERSE_WHITE_CIRCLE=25db 2MEDIUM_SHADE=1fb8f 1LEFT_BALLPOINT_PEN=1f58a
2BLOCK_DIAGONAL_LOWER_MIDDLE_LEFT_TO_LOWER_CENTRE=1fb3c 9RIGHT=1fb3d
4UPPER_CENTRE_TO_LOWER_MIDDLE_RIGHT=1fb4e 8RIGHT=1fb50 7UPPER_MIDDLE_RIGHT=1fb4c
5LEFT_TO_LOWER_CENTRE=1fb40 8MIDDLE_RIGHT=1fb4f 7UPPER_MIDDLE_RIGHT=1fb4d
5MIDDLE_LEFT_TO_LOWER_CENTRE=1fb3e 9MIDDLE_RIGHT=1fb51 9RIGHT=1fb3f 2CRAYON=1f58d
2FOUNTAIN_PEN=1f58b 2PAINTBRUSH=1f58c 2PENCIL=1f589 2QUADRANT_CIRCULAR_ARC=25df
2SEMICIRCULAR_ANTICLOCKWISE_ARROW=293f 2TRIANGLE=25fa 2TRIANGULAR_MEDIUM_SHADE=1fb9f
1ONE_EIGHTH_BLOCK=2581 2QUARTER_BLOCK=2582
1RIGHT_BLOCK_DIAGONAL_LOWER_CENTRE_TO_LOWER_MIDDLE_RIGHT=1fb47 7UPPER_MIDDLE_RIGHT=1fb49
8RIGHT=1fb4b 5LEFT_TO_LOWER_MIDDLE_RIGHT=1fb48 7UPPER_CENTRE=1fb45 8MIDDLE_RIGHT=1fb4a
5MIDDLE_LEFT_TO_UPPER_CENTRE=1fb43 9MIDDLE_RIGHT=1fb46 9RIGHT=1fb44
4UPPER_MIDDLE_LEFT_TO_UPPER_CENTRE=1fb41 9RIGHT=1fb42 2CORNER_WITH_DOT=27d3
2DROP-SHADOWED_WHITE_SQUARE=274f 2PENCIL=270e 2QUADRANT_CIRCULAR_ARC=25de
2SEMICIRCULAR_CLOCKWISE_ARROW=293e 2SHADOWED_WHITE_CIRCLE=1f53e 4SQUARE=2751 2TRIANGLE=25ff
2TRIANGULAR_MEDIUM_SHADE=1fb9e 1SEVEN_EIGHTHS_BLOCK=2587 1THREE_EIGHTHS_BLOCK=2583
2QUARTERS_BLOCK=2586 1TRIANGULAR_ONE_QUARTER_BLOCK=1fb6f 0LOZENGE=25ca
1DIVIDED_BY_HORIZONTAL_RULE=27e0 0LRE=202a 0LRI=2066 0LRM=200e 0LRO=202d 0LUGGAGE=1f9f3
0LUNGS=1fac1 0LYCIAN_LETTER_A=10280 2AN=10299 2B=10282 2BH=10283 2D=10285 2E=10281 2EN=1029a
2G=10284 2H=1029b 2I=10286 2J=1028a 2K=1028b 2KK=10294 2L=1028d 2M=1028e 2MM=10290 2N=1028f
2NN=10291 2P=10293 2Q=1028c 2R=10295 2S=10296 2T=10297 2TH=10289 2TT=10298 2U=10292 2W=10287
2X=1029c 2Z=10288 0LYDIAN_LETTER_A=10920 2AN=10935 2B=10921 2C=10939 2D=10923 2E=10924 2EN=10936
2F=10931 2G=10922 2I=10926 2K=10928 2L=10929 2LY=10937 2M=1092a 2N=1092b 2NN=10938 2O=1092c
2Q=10932 2R=1092d 2S=10933 2SS=1092e 2T=1092f 2TT=10934 2U=10930 2V=10925 2Y=10927
1TRIANGULAR_MARK=1093f 0LYING_FACE=1f925"

/-- Names that begin with `M`. -/
def namesM : String :=
  "0MACRON=af 0MAGE=1f9d9 0MAGIC_WAND=1fa84 0MAGNET=1f9f2 0MAHAJANI_ABBREVIATION_SIGN=11174
1LETTER_A=11150 2BA=1116a 2BHA=1116b 2CA=11159 2CHA=1115a 2DA=11165 2DDA=11160 2DDHA=11161
2DHA=11166 2E=11153 2GA=11157 2GHA=11158 2HA=11171 2I=11151 2JA=1115b 2JHA=1115c 2KA=11155
2KHA=11156 2LA=1116e 2MA=1116c 2NA=11167 2NNA=11162 2NYA=1115d 2O=11154 2PA=11168 2PHA=11169
2RA=1116d 2RRA=11172 2SA=11170 2TA=11163 2THA=11164 2TTA=1115e 2TTHA=1115f 2U=11152 2VA=1116f
1LIGATURE_SHRI=11176 1SECTION_MARK=11175 1SIGN_NUKTA=11173 0MAHJONG_TILE_AUTUMN=1f028 2BACK=1f02b
2BAMBOO=1f024 2CHRYSANTHEMUM=1f025 2EAST_WIND=1f000 2EIGHT_OF_BAMBOOS=1f017 4CHARACTERS=1f00e
4CIRCLES=1f020 2FIVE_OF_BAMBOOS=1f014 4CHARACTERS=1f00b 4CIRCLES=1f01d 2FOUR_OF_BAMBOOS=1f013
4CHARACTERS=1f00a 4CIRCLES=1f01c 2GREEN_DRAGON=1f005 2JOKER=1f02a 2NINE_OF_BAMBOOS=1f018
4CHARACTERS=1f00f 4CIRCLES=1f021 2NORTH_WIND=1f003 2ONE_OF_BAMBOOS=1f010 4CHARACTERS=1f007
4CIRCLES=1f019 2ORCHID=1f023 2PLUM=1f022 2RED_DRAGON=1f004 2SEVEN_OF_BAMBOOS=1f016
4CHARACTERS=1f00d 4CIRCLES=1f01f 2SIX_OF_BAMBOOS=1f015 4CHARACTERS=1f00c 4CIRCLES=1f01e
2SOUTH_WIND=1f001 2SPRING=1f026 2SUMMER=1f027 2THREE_OF_BAMBOOS=1f012 4CHARACTERS=1f009
4CIRCLES=1f01b 2TWO_OF_BAMBOOS=1f011 4CHARACTERS=1f008 4CIRCLES=1f01a 2WEST_WIND=1f002
2WHITE_DRAGON=1f006 2WINTER=1f029 0MAKASAR_ANGKA=11ef2 1END_OF_SECTION=11ef8 1LETTER_A=11ef1
2BA=11ee4 2CA=11ee9 2DA=11ee7 2GA=11ee1 2JA=11eea 2KA=11ee0 2LA=11eee 2MA=11ee5 2NA=11ee8
2NGA=11ee2 2NYA=11eeb 2PA=11ee3 2RA=11eed 2SA=11ef0 2TA=11ee6 2VA=11eef 2YA=11eec 1PASSIMBANG=11ef7
1VOWEL_SIGN_E=11ef5 3I=11ef3 3O=11ef6 3U=11ef4 0MALAYALAM_AU_LENGTH_MARK=d57 1DATE_MARK=d79
1DIGIT_EIGHT=d6e 2FIVE=d6b 2FOUR=d6a 2NINE=d6f 2ONE=d67 2SEVEN=d6d 2SIX=d6c 2THREE=d69 2TWO=d68
2ZERO=d66 1FRACTION_ONE_EIGHTH=d77 3FIFTH=d5e 3FORTIETH=d59 3HALF=d74 3ONE-HUNDRED-AND-SIXTIETH=d58
3QUARTER=d73 3SIXTEENTH=d76 3TENTH=d5c 3TWENTIETH=d5b 2THREE_EIGHTIETHS=d5a 3QUARTERS=d75
3SIXTEENTHS=d78 3TWENTIETHS=d5d 1LETTER_A=d05 2AA=d06 2AI=d10 2ARCHAIC_II=d5f 2AU=d14 2BA=d2c
2BHA=d2d 2CA=d1a 2CHA=d1b 2CHILLU_K=d7f 3L=d7d 3LL=d7e 3LLL=d56 3M=d54 3N=d7b 3NN=d7a 3RR=d7c
3Y=d55 2DA=d26 2DDA=d21 2DDHA=d22 2DHA=d27 2DOT_REPH=d4e 2E=d0e 2EE=d0f 2GA=d17 2GHA=d18 2HA=d39
2I=d07 2II=d08 2JA=d1c 2JHA=d1d 2KA=d15 2KHA=d16 2LA=d32 2LLA=d33 2LLLA=d34 2MA=d2e 2NA=d28
2NGA=d19 2NNA=d23 2NNNA=d29 2NYA=d1e 2O=d12 2OO=d13 2PA=d2a 2PHA=d2b 2RA=d30 2RRA=d31 2SA=d38
2SHA=d36 2SSA=d37 2TA=d24 2THA=d25 2TTA=d1f 2TTHA=d20 2TTTA=d3a 2U=d09 2UU=d0a 2VA=d35
2VEDIC_ANUSVARA=d04 2VOCALIC_L=d0c 3LL=d61 3R=d0b 3RR=d60 2YA=d2f 1NUMBER_ONE_HUNDRED=d71
3THOUSAND=d72 2TEN=d70 1SIGN_ANUSVARA=d02 2AVAGRAHA=d3d 2CANDRABINDU=d01 2CIRCULAR_VIRAMA=d3c
2COMBINING_ANUSVARA_ABOVE=d00 2PARA=d4f 2VERTICAL_BAR_VIRAMA=d3b 2VIRAMA=d4d 2VISARGA=d03
1VOWEL_SIGN_AA=d3e 3AI=d48 3AU=d4c 3E=d46 3EE=d47 3I=d3f 3II=d40 3O=d4a 3OO=d4b 3U=d41 3UU=d42
3VOCALIC_L=d62 4LL=d63 4R=d43 4RR=d44 0MALE_AND_FEMALE_SIGN=26a5 1SIGN=2642
1WITH_STROKE_AND_MALE_AND_FEMALE_SIGN=26a7 3SIGN=26a6 0MALTESE_CROSS=2720 0MAMMOTH=1f9a3 0MAN=1f468
1AND_WOMAN_HOLDING_HANDS=1f46b 1DANCING=1f57a 1IN_BUSINESS_SUIT_LEVITATING=1f574 2TUXEDO=1f935
1WITH_GUA_PI_MAO=1f472 2TURBAN=1f473 0MANAT_SIGN=20bc 0MANDAIC_AFFRICATION_MARK=859
1GEMINATION_MARK=85b 1LETTER_AB=841 2AD=843 2AG=842 2AH=844 2AIN=858 2AK=84a 2AKSA=849 2AL=84b
2AM=84c 2AN=84d 2AP=850 2AQ=852 2AR=853 2AS=84e 2ASH=854 2ASZ=851 2AT=855 2ATT=848 2AZ=846
2DUSHENNA=856 2HALQA=840 2IN=84f 2IT=847 2KAD=857 2USHENNA=845 1PUNCTUATION=85e
1VOCALIZATION_MARK=85a 0MANGO=1f96d 0MANICHAEAN_ABBREVIATION_MARK_ABOVE=10ae5 3BELOW=10ae6
1LETTER_AAYIN=10ada 2ALEPH=10ac0 2AYIN=10ad9 2BETH=10ac1 2BHETH=10ac2 2DALETH=10ac5 2DHAMEDH=10ad4
2FE=10adc 2GHIMEL=10ac4 2GIMEL=10ac3 2HE=10ac6 2HETH=10acd 2JAYIN=10acb 2JHAYIN=10acc 2KAPH=10ad0
2KHAPH=10ad2 2LAMEDH=10ad3 2MEM=10ad6 2NUN=10ad7 2PE=10adb 2QHOPH=10ae0 2QOPH=10ade 2RESH=10ae1
2SADHE=10add 2SAMEKH=10ad8 2SHIN=10ae2 2SSHIN=10ae3 2TAW=10ae4 2TETH=10ace 2THAMEDH=10ad5
2WAW=10ac7 2XAPH=10ad1 2XOPH=10adf 2YODH=10acf 2ZAYIN=10ac9 2ZHAYIN=10aca 1NUMBER_FIVE=10aec
2ONE=10aeb 3HUNDRED=10aef 2TEN=10aed 2TWENTY=10aee 1PUNCTUATION_DOT=10af4 3WITHIN_DOT=10af3
2DOUBLE_DOT_WITHIN_DOT=10af2 2FLEURON=10af1 2LINE_FILLER=10af6 2STAR=10af0 2TWO_DOTS=10af5
1SIGN_UD=10ac8 0MANS_SHOE=1f45e 0MANTELPIECE_CLOCK=1f570 0MANUAL_WHEELCHAIR=1f9bd
0MAP_SYMBOL_FOR_LIGHTHOUSE=26ef 0MAPLE_LEAF=1f341 0MARCHEN_HEAD_MARK=11c70 1LETTER_-A=11c88
2A=11c8f 2BA=11c80 2CA=11c76 2CHA=11c77 2DA=11c7c 2DZA=11c84 2GA=11c74 2HA=11c8e 2JA=11c78
2KA=11c72 2KHA=11c73 2LA=11c8b 2MA=11c81 2NA=11c7d 2NGA=11c75 2NYA=11c79 2PA=11c7e 2PHA=11c7f
2RA=11c8a 2SA=11c8d 2SHA=11c8c 2TA=11c7a 2THA=11c7b 2TSA=11c82 2TSHA=11c83 2WA=11c85 2YA=11c89
2ZA=11c87 2ZHA=11c86 1MARK_SHAD=11c71 1SIGN_ANUSVARA=11cb5 2CANDRABINDU=11cb6
1SUBJOINED_LETTER_A=11caf 3BA=11ca0 3CA=11c96 3CHA=11c97 3DA=11c9c 3DZA=11ca4 3GA=11c94 3HA=11cae
3JA=11c98 3KA=11c92 3KHA=11c93 3LA=11cab 3MA=11ca1 3NA=11c9d 3NGA=11c95 3NYA=11c99 3PA=11c9e
3PHA=11c9f 3RA=11caa 3SA=11cad 3SHA=11cac 3TA=11c9a 3THA=11c9b 3TSA=11ca2 3TSHA=11ca3 3WA=11ca5
3YA=11ca9 3ZA=11ca7 3ZHA=11ca6 1VOWEL_SIGN_AA=11cb0 3E=11cb3 3I=11cb1 3O=11cb4 3U=11cb2
0MARRIAGE_SYMBOL=26ad 0MARTIAL_ARTS_UNIFORM=1f94b 0MASARAM_GONDI_DIGIT_EIGHT=11d58 3FIVE=11d55
3FOUR=11d54 3NINE=11d59 3ONE=11d51 3SEVEN=11d57 3SIX=11d56 3THREE=11d53 3TWO=11d52 3ZERO=11d50
2LETTER_A=11d00 3AA=11d01 3AI=11d08 3AU=11d0b 3BA=11d22 3BHA=11d23 3CA=11d11 3CHA=11d12 3DA=11d1d
3DDA=11d18 3DDHA=11d19 3DHA=11d1e 3E=11d06 3GA=11d0e 3GHA=11d0f 3HA=11d2c 3I=11d02 3II=11d03
3JA=11d13 3JHA=11d14 3JNYA=11d2f 3KA=11d0c 3KHA=11d0d 3KSSA=11d2e 3LA=11d27 3LLA=11d2d 3MA=11d24
3NA=11d1f 3NGA=11d10 3NNA=11d1a 3NYA=11d15 3O=11d09 3PA=11d20 3PHA=11d21 3RA=11d26 3SA=11d2b
3SHA=11d29 3SSA=11d2a 3TA=11d1b 3THA=11d1c 3TRA=11d30 3TTA=11d16 3TTHA=11d17 3U=11d04 3UU=11d05
3VA=11d28 3YA=11d25 2RA-KARA=11d47 2REPHA=11d46 2SIGN_ANUSVARA=11d40 3CANDRA=11d43 3HALANTA=11d44
3NUKTA=11d42 3VISARGA=11d41 2VIRAMA=11d45 2VOWEL_SIGN_AA=11d31 4AI=11d3c 4AU=11d3f 4E=11d3a
4I=11d32 4II=11d33 4O=11d3d 4U=11d34 4UU=11d35 4VOCALIC_R=11d36 0MASCULINE_ORDINAL_INDICATOR=ba
0MASK_WORK_SYMBOL=1f1ad 0MASU_MARK=303c 0MATE_DRINK=1f9c9 0MATHEMATICAL_BOLD_CAPITAL_A=1d400
3ALPHA=1d6a8 3B=1d401 3BETA=1d6a9 3C=1d402 3CHI=1d6be 3D=1d403 3DELTA=1d6ab 3DIGAMMA=1d7ca 3E=1d404
3EPSILON=1d6ac 3ETA=1d6ae 3F=1d405 3G=1d406 3GAMMA=1d6aa 3H=1d407 3I=1d408 3IOTA=1d6b0 3J=1d409
3K=1d40a 3KAPPA=1d6b1 3L=1d40b 3LAMDA=1d6b2 3M=1d40c 3MU=1d6b3 3N=1d40d 3NU=1d6b4 3O=1d40e
3OMEGA=1d6c0 3OMICRON=1d6b6 3P=1d40f 3PHI=1d6bd 3PI=1d6b7 3PSI=1d6bf 3Q=1d410 3R=1d411 3RHO=1d6b8
3S=1d412 3SIGMA=1d6ba 3T=1d413 3TAU=1d6bb 3THETA=1d6af 4SYMBOL=1d6b9 3U=1d414 3UPSILON=1d6bc
3V=1d415 3W=1d416 3X=1d417 3XI=1d6b5 3Y=1d418 3Z=1d419 3ZETA=1d6ad 2DIGIT_EIGHT=1d7d6 3FIVE=1d7d3
3FOUR=1d7d2 3NINE=1d7d7 3ONE=1d7cf 3SEVEN=1d7d5 3SIX=1d7d4 3THREE=1d7d1 3TWO=1d7d0 3ZERO=1d7ce
2EPSILON_SYMBOL=1d6dc 2FRAKTUR_CAPITAL_A=1d56c 4B=1d56d 4C=1d56e 4D=1d56f 4E=1d570 4F=1d571
4G=1d572 4H=1d573 4I=1d574 4J=1d575 4K=1d576 4L=1d577 4M=1d578 4N=1d579 4O=1d57a 4P=1d57b 4Q=1d57c
4R=1d57d 4S=1d57e 4T=1d57f 4U=1d580 4V=1d581 4W=1d582 4X=1d583 4Y=1d584 4Z=1d585 3SMALL_A=1d586
4B=1d587 4C=1d588 4D=1d589 4E=1d58a 4F=1d58b 4G=1d58c 4H=1d58d 4I=1d58e 4J=1d58f 4K=1d590 4L=1d591
4M=1d592 4N=1d593 4O=1d594 4P=1d595 4Q=1d596 4R=1d597 4S=1d598 4T=1d599 4U=1d59a 4V=1d59b 4W=1d59c
4X=1d59d 4Y=1d59e 4Z=1d59f 2ITALIC_CAPITAL_A=1d468 4ALPHA=1d71c 4B=1d469 4BETA=1d71d 4C=1d46a
4CHI=1d732 4D=1d46b 4DELTA=1d71f 4E=1d46c 4EPSILON=1d720 4ETA=1d722 4F=1d46d 4G=1d46e 4GAMMA=1d71e
4H=1d46f 4I=1d470 4IOTA=1d724 4J=1d471 4K=1d472 4KAPPA=1d725 4L=1d473 4LAMDA=1d726 4M=1d474
4MU=1d727 4N=1d475 4NU=1d728 4O=1d476 4OMEGA=1d734 4OMICRON=1d72a 4P=1d477 4PHI=1d731 4PI=1d72b
4PSI=1d733 4Q=1d478 4R=1d479 4RHO=1d72c 4S=1d47a 4SIGMA=1d72e 4T=1d47b 4TAU=1d72f 4THETA=1d723
5SYMBOL=1d72d 4U=1d47c 4UPSILON=1d730 4V=1d47d 4W=1d47e 4X=1d47f 4XI=1d729 4Y=1d480 4Z=1d481
4ZETA=1d721 3EPSILON_SYMBOL=1d750 3KAPPA_SYMBOL=1d752 3NABLA=1d735 3PARTIAL_DIFFERENTIAL=1d74f
3PHI_SYMBOL=1d753 3PI_SYMBOL=1d755 3RHO_SYMBOL=1d754 3SMALL_A=1d482 4ALPHA=1d736 4B=1d483
4BETA=1d737 4C=1d484 4CHI=1d74c 4D=1d485 4DELTA=1d739 4E=1d486 4EPSILON=1d73a 4ETA=1d73c 4F=1d487
4FINAL_SIGMA=1d747 4G=1d488 4GAMMA=1d738 4H=1d489 4I=1d48a 4IOTA=1d73e 4J=1d48b 4K=1d48c
4KAPPA=1d73f 4L=1d48d 4LAMDA=1d740 4M=1d48e 4MU=1d741 4N=1d48f 4NU=1d742 4O=1d490 4OMEGA=1d74e
4OMICRON=1d744 4P=1d491 4PHI=1d74b 4PI=1d745 4PSI=1d74d 4Q=1d492 4R=1d493 4RHO=1d746 4S=1d494
4SIGMA=1d748 4T=1d495 4TAU=1d749 4THETA=1d73d 4U=1d496 4UPSILON=1d74a 4V=1d497 4W=1d498 4X=1d499
4XI=1d743 4Y=1d49a 4Z=1d49b 4ZETA=1d73b 3THETA_SYMBOL=1d751 2KAPPA_SYMBOL=1d6de 2NABLA=1d6c1
2PARTIAL_DIFFERENTIAL=1d6db 2PHI_SYMBOL=1d6df 2PI_SYMBOL=1d6e1 2RHO_SYMBOL=1d6e0
2SCRIPT_CAPITAL_A=1d4d0 4B=1d4d1 4C=1d4d2 4D=1d4d3 4E=1d4d4 4F=1d4d5 4G=1d4d6 4H=1d4d7 4I=1d4d8
4J=1d4d9 4K=1d4da 4L=1d4db 4M=1d4dc 4N=1d4dd 4O=1d4de 4P=1d4df 4Q=1d4e0 4R=1d4e1 4S=1d4e2 4T=1d4e3
4U=1d4e4 4V=1d4e5 4W=1d4e6 4X=1d4e7 4Y=1d4e8 4Z=1d4e9 3SMALL_A=1d4ea 4B=1d4eb 4C=1d4ec 4D=1d4ed
4E=1d4ee 4F=1d4ef 4G=1d4f0 4H=1d4f1 4I=1d4f2 4J=1d4f3 4K=1d4f4 4L=1d4f5 4M=1d4f6 4N=1d4f7 4O=1d4f8
4P=1d4f9 4Q=1d4fa 4R=1d4fb 4S=1d4fc 4T=1d4fd 4U=1d4fe 4V=1d4ff 4W=1d500 4X=1d501 4Y=1d502 4Z=1d503
2SMALL_A=1d41a 3ALPHA=1d6c2 3B=1d41b 3BETA=1d6c3 3C=1d41c 3CHI=1d6d8 3D=1d41d 3DELTA=1d6c5
3DIGAMMA=1d7cb 3E=1d41e 3EPSILON=1d6c6 3ETA=1d6c8 3F=1d41f 3FINAL_SIGMA=1d6d3 3G=1d420 3GAMMA=1d6c4
3H=1d421 3I=1d422 3IOTA=1d6ca 3J=1d423 3K=1d424 3KAPPA=1d6cb 3L=1d425 3LAMDA=1d6cc 3M=1d426
3MU=1d6cd 3N=1d427 3NU=1d6ce 3O=1d428 3OMEGA=1d6da 3OMICRON=1d6d0 3P=1d429 3PHI=1d6d7 3PI=1d6d1
3PSI=1d6d9 3Q=1d42a 3R=1d42b 3RHO=1d6d2 3S=1d42c 3SIGMA=1d6d4 3T=1d42d 3TAU=1d6d5 3THETA=1d6c9
3U=1d42e 3UPSILON=1d6d6 3V=1d42f 3W=1d430 3X=1d431 3XI=1d6cf 3Y=1d432 3Z=1d433 3ZETA=1d6c7
2THETA_SYMBOL=1d6dd 1DOUBLE-STRUCK_CAPITAL_A=1d538 3B=1d539 3D=1d53b 3E=1d53c 3F=1d53d 3G=1d53e
3I=1d540 3J=1d541 3K=1d542 3L=1d543 3M=1d544 3O=1d546 3S=1d54a 3T=1d54b 3U=1d54c 3V=1d54d 3W=1d54e
3X=1d54f 3Y=1d550 2DIGIT_EIGHT=1d7e0 3FIVE=1d7dd 3FOUR=1d7dc 3NINE=1d7e1 3ONE=1d7d9 3SEVEN=1d7df
3SIX=1d7de 3THREE=1d7db 3TWO=1d7da 3ZERO=1d7d8 2SMALL_A=1d552 3B=1d553 3C=1d554 3D=1d555 3E=1d556
3F=1d557 3G=1d558 3H=1d559 3I=1d55a 3J=1d55b 3K=1d55c 3L=1d55d 3M=1d55e 3N=1d55f 3O=1d560 3P=1d561
3Q=1d562 3R=1d563 3S=1d564 3T=1d565 3U=1d566 3V=1d567 3W=1d568 3X=1d569 3Y=1d56a 3Z=1d56b
1FALLING_DIAGONAL=27cd 1FRAKTUR_CAPITAL_A=1d504 3B=1d505 3D=1d507 3E=1d508 3F=1d509 3G=1d50a
3J=1d50d 3K=1d50e 3L=1d50f 3M=1d510 3N=1d511 3O=1d512 3P=1d513 3Q=1d514 3S=1d516 3T=1d517 3U=1d518
3V=1d519 3W=1d51a 3X=1d51b 3Y=1d51c 2SMALL_A=1d51e 3B=1d51f 3C=1d520 3D=1d521 3E=1d522 3F=1d523
3G=1d524 3H=1d525 3I=1d526 3J=1d527 3K=1d528 3L=1d529 3M=1d52a 3N=1d52b 3O=1d52c 3P=1d52d 3Q=1d52e
3R=1d52f 3S=1d530 3T=1d531 3U=1d532 3V=1d533 3W=1d534 3X=1d535 3Y=1d536 3Z=1d537
1ITALIC_CAPITAL_A=1d434 3ALPHA=1d6e2 3B=1d435 3BETA=1d6e3 3C=1d436 3CHI=1d6f8 3D=1d437 3DELTA=1d6e5
3E=1d438 3EPSILON=1d6e6 3ETA=1d6e8 3F=1d439 3G=1d43a 3GAMMA=1d6e4 3H=1d43b 3I=1d43c 3IOTA=1d6ea
3J=1d43d 3K=1d43e 3KAPPA=1d6eb 3L=1d43f 3LAMDA=1d6ec 3M=1d440 3MU=1d6ed 3N=1d441 3NU=1d6ee 3O=1d442
3OMEGA=1d6fa 3OMICRON=1d6f0 3P=1d443 3PHI=1d6f7 3PI=1d6f1 3PSI=1d6f9 3Q=1d444 3R=1d445 3RHO=1d6f2
3S=1d446 3SIGMA=1d6f4 3T=1d447 3TAU=1d6f5 3THETA=1d6e9 4SYMBOL=1d6f3 3U=1d448 3UPSILON=1d6f6
3V=1d449 3W=1d44a 3X=1d44b 3XI=1d6ef 3Y=1d44c 3Z=1d44d 3ZETA=1d6e7 2EPSILON_SYMBOL=1d716
2KAPPA_SYMBOL=1d718 2NABLA=1d6fb 2PARTIAL_DIFFERENTIAL=1d715 2PHI_SYMBOL=1d719 2PI_SYMBOL=1d71b
2RHO_SYMBOL=1d71a 2SMALL_A=1d44e 3ALPHA=1d6fc 3B=1d44f 3BETA=1d6fd 3C=1d450 3CHI=1d712 3D=1d451
3DELTA=1d6ff 3DOTLESS_I=1d6a4 4J=1d6a5 3E=1d452 3EPSILON=1d700 3ETA=1d702 3F=1d453
3FINAL_SIGMA=1d70d 3G=1d454 3GAMMA=1d6fe 3I=1d456 3IOTA=1d704 3J=1d457 3K=1d458 3KAPPA=1d705
3L=1d459 3LAMDA=1d706 3M=1d45a 3MU=1d707 3N=1d45b 3NU=1d708 3O=1d45c 3OMEGA=1d714 3OMICRON=1d70a
3P=1d45d 3PHI=1d711 3PI=1d70b 3PSI=1d713 3Q=1d45e 3R=1d45f 3RHO=1d70c 3S=1d460 3SIGMA=1d70e
3T=1d461 3TAU=1d70f 3THETA=1d703 3U=1d462 3UPSILON=1d710 3V=1d463 3W=1d464 3X=1d465 3XI=1d709
3Y=1d466 3Z=1d467 3ZETA=1d701 2THETA_SYMBOL=1d717 1LEFT_ANGLE_BRACKET=27e8
2DOUBLE_ANGLE_BRACKET=27ea 2FLATTENED_PARENTHESIS=27ee 2WHITE_SQUARE_BRACKET=27e6
3TORTOISE_SHELL_BRACKET=27ec 1MONOSPACE_CAPITAL_A=1d670 3B=1d671 3C=1d672 3D=1d673 3E=1d674
3F=1d675 3G=1d676 3H=1d677 3I=1d678 3J=1d679 3K=1d67a 3L=1d67b 3M=1d67c 3N=1d67d 3O=1d67e 3P=1d67f
3Q=1d680 3R=1d681 3S=1d682 3T=1d683 3U=1d684 3V=1d685 3W=1d686 3X=1d687 3Y=1d688 3Z=1d689
2DIGIT_EIGHT=1d7fe 3FIVE=1d7fb 3FOUR=1d7fa 3NINE=1d7ff 3ONE=1d7f7 3SEVEN=1d7fd 3SIX=1d7fc
3THREE=1d7f9 3TWO=1d7f8 3ZERO=1d7f6 2SMALL_A=1d68a 3B=1d68b 3C=1d68c 3D=1d68d 3E=1d68e 3F=1d68f
3G=1d690 3H=1d691 3I=1d692 3J=1d693 3K=1d694 3L=1d695 3M=1d696 3N=1d697 3O=1d698 3P=1d699 3Q=1d69a
3R=1d69b 3S=1d69c 3T=1d69d 3U=1d69e 3V=1d69f 3W=1d6a0 3X=1d6a1 3Y=1d6a2 3Z=1d6a3
1RIGHT_ANGLE_BRACKET=27e9 2DOUBLE_ANGLE_BRACKET=27eb 2FLATTENED_PARENTHESIS=27ef
2WHITE_SQUARE_BRACKET=27e7 3TORTOISE_SHELL_BRACKET=27ed 1RISING_DIAGONAL=27cb
1SANS-SERIF_BOLD_CAPITAL_A=1d5d4 4ALPHA=1d756 4B=1d5d5 4BETA=1d757 4C=1d5d6 4CHI=1d76c 4D=1d5d7
4DELTA=1d759 4E=1d5d8 4EPSILON=1d75a 4ETA=1d75c 4F=1d5d9 4G=1d5da 4GAMMA=1d758 4H=1d5db 4I=1d5dc
4IOTA=1d75e 4J=1d5dd 4K=1d5de 4KAPPA=1d75f 4L=1d5df 4LAMDA=1d760 4M=1d5e0 4MU=1d761 4N=1d5e1
4NU=1d762 4O=1d5e2 4OMEGA=1d76e 4OMICRON=1d764 4P=1d5e3 4PHI=1d76b 4PI=1d765 4PSI=1d76d 4Q=1d5e4
4R=1d5e5 4RHO=1d766 4S=1d5e6 4SIGMA=1d768 4T=1d5e7 4TAU=1d769 4THETA=1d75d 5SYMBOL=1d767 4U=1d5e8
4UPSILON=1d76a 4V=1d5e9 4W=1d5ea 4X=1d5eb 4XI=1d763 4Y=1d5ec 4Z=1d5ed 4ZETA=1d75b
3DIGIT_EIGHT=1d7f4 4FIVE=1d7f1 4FOUR=1d7f0 4NINE=1d7f5 4ONE=1d7ed 4SEVEN=1d7f3 4SIX=1d7f2
4THREE=1d7ef 4TWO=1d7ee 4ZERO=1d7ec 3EPSILON_SYMBOL=1d78a 3ITALIC_CAPITAL_A=1d63c 5ALPHA=1d790
5B=1d63d 5BETA=1d791 5C=1d63e 5CHI=1d7a6 5D=1d63f 5DELTA=1d793 5E=1d640 5EPSILON=1d794 5ETA=1d796
5F=1d641 5G=1d642 5GAMMA=1d792 5H=1d643 5I=1d644 5IOTA=1d798 5J=1d645 5K=1d646 5KAPPA=1d799
5L=1d647 5LAMDA=1d79a 5M=1d648 5MU=1d79b 5N=1d649 5NU=1d79c 5O=1d64a 5OMEGA=1d7a8 5OMICRON=1d79e
5P=1d64b 5PHI=1d7a5 5PI=1d79f 5PSI=1d7a7 5Q=1d64c 5R=1d64d 5RHO=1d7a0 5S=1d64e 5SIGMA=1d7a2
5T=1d64f 5TAU=1d7a3 5THETA=1d797 6SYMBOL=1d7a1 5U=1d650 5UPSILON=1d7a4 5V=1d651 5W=1d652 5X=1d653
5XI=1d79d 5Y=1d654 5Z=1d655 5ZETA=1d795 4EPSILON_SYMBOL=1d7c4 4KAPPA_SYMBOL=1d7c6 4NABLA=1d7a9
4PARTIAL_DIFFERENTIAL=1d7c3 4PHI_SYMBOL=1d7c7 4PI_SYMBOL=1d7c9 4RHO_SYMBOL=1d7c8 4SMALL_A=1d656
5ALPHA=1d7aa 5B=1d657 5BETA=1d7ab 5C=1d658 5CHI=1d7c0 5D=1d659 5DELTA=1d7ad 5E=1d65a 5EPSILON=1d7ae
5ETA=1d7b0 5F=1d65b 5FINAL_SIGMA=1d7bb 5G=1d65c 5GAMMA=1d7ac 5H=1d65d 5I=1d65e 5IOTA=1d7b2 5J=1d65f
5K=1d660 5KAPPA=1d7b3 5L=1d661 5LAMDA=1d7b4 5M=1d662 5MU=1d7b5 5N=1d663 5NU=1d7b6 5O=1d664
5OMEGA=1d7c2 5OMICRON=1d7b8 5P=1d665 5PHI=1d7bf 5PI=1d7b9 5PSI=1d7c1 5Q=1d666 5R=1d667 5RHO=1d7ba
5S=1d668 5SIGMA=1d7bc 5T=1d669 5TAU=1d7bd 5THETA=1d7b1 5U=1d66a 5UPSILON=1d7be 5V=1d66b 5W=1d66c
5X=1d66d 5XI=1d7b7 5Y=1d66e 5Z=1d66f 5ZETA=1d7af 4THETA_SYMBOL=1d7c5 3KAPPA_SYMBOL=1d78c
3NABLA=1d76f 3PARTIAL_DIFFERENTIAL=1d789 3PHI_SYMBOL=1d78d 3PI_SYMBOL=1d78f 3RHO_SYMBOL=1d78e
3SMALL_A=1d5ee 4ALPHA=1d770 4B=1d5ef 4BETA=1d771 4C=1d5f0 4CHI=1d786 4D=1d5f1 4DELTA=1d773 4E=1d5f2
4EPSILON=1d774 4ETA=1d776 4F=1d5f3 4FINAL_SIGMA=1d781 4G=1d5f4 4GAMMA=1d772 4H=1d5f5 4I=1d5f6
4IOTA=1d778 4J=1d5f7 4K=1d5f8 4KAPPA=1d779 4L=1d5f9 4LAMDA=1d77a 4M=1d5fa 4MU=1d77b 4N=1d5fb
4NU=1d77c 4O=1d5fc 4OMEGA=1d788 4OMICRON=1d77e 4P=1d5fd 4PHI=1d785 4PI=1d77f 4PSI=1d787 4Q=1d5fe
4R=1d5ff 4RHO=1d780 4S=1d600 4SIGMA=1d782 4T=1d601 4TAU=1d783 4THETA=1d777 4U=1d602 4UPSILON=1d784
4V=1d603 4W=1d604 4X=1d605 4XI=1d77d 4Y=1d606 4Z=1d607 4ZETA=1d775 3THETA_SYMBOL=1d78b
2CAPITAL_A=1d5a0 3B=1d5a1 3C=1d5a2 3D=1d5a3 3E=1d5a4 3F=1d5a5 3G=1d5a6 3H=1d5a7 3I=1d5a8 3J=1d5a9
3K=1d5aa 3L=1d5ab 3M=1d5ac 3N=1d5ad 3O=1d5ae 3P=1d5af 3Q=1d5b0 3R=1d5b1 3S=1d5b2 3T=1d5b3 3U=1d5b4
3V=1d5b5 3W=1d5b6 3X=1d5b7 3Y=1d5b8 3Z=1d5b9 2DIGIT_EIGHT=1d7ea 3FIVE=1d7e7 3FOUR=1d7e6 3NINE=1d7eb
3ONE=1d7e3 3SEVEN=1d7e9 3SIX=1d7e8 3THREE=1d7e5 3TWO=1d7e4 3ZERO=1d7e2 2ITALIC_CAPITAL_A=1d608
4B=1d609 4C=1d60a 4D=1d60b 4E=1d60c 4F=1d60d 4G=1d60e 4H=1d60f 4I=1d610 4J=1d611 4K=1d612 4L=1d613
4M=1d614 4N=1d615 4O=1d616 4P=1d617 4Q=1d618 4R=1d619 4S=1d61a 4T=1d61b 4U=1d61c 4V=1d61d 4W=1d61e
4X=1d61f 4Y=1d620 4Z=1d621 3SMALL_A=1d622 4B=1d623 4C=1d624 4D=1d625 4E=1d626 4F=1d627 4G=1d628
4H=1d629 4I=1d62a 4J=1d62b 4K=1d62c 4L=1d62d 4M=1d62e 4N=1d62f 4O=1d630 4P=1d631 4Q=1d632 4R=1d633
4S=1d634 4T=1d635 4U=1d636 4V=1d637 4W=1d638 4X=1d639 4Y=1d63a 4Z=1d63b 2SMALL_A=1d5ba 3B=1d5bb
3C=1d5bc 3D=1d5bd 3E=1d5be 3F=1d5bf 3G=1d5c0 3H=1d5c1 3I=1d5c2 3J=1d5c3 3K=1d5c4 3L=1d5c5 3M=1d5c6
3N=1d5c7 3O=1d5c8 3P=1d5c9 3Q=1d5ca 3R=1d5cb 3S=1d5cc 3T=1d5cd 3U=1d5ce 3V=1d5cf 3W=1d5d0 3X=1d5d1
3Y=1d5d2 3Z=1d5d3 1SCRIPT_CAPITAL_A=1d49c 3C=1d49e 3D=1d49f 3G=1d4a2 3J=1d4a5 3K=1d4a6 3N=1d4a9
3O=1d4aa 3P=1d4ab 3Q=1d4ac 3S=1d4ae 3T=1d4af 3U=1d4b0 3V=1d4b1 3W=1d4b2 3X=1d4b3 3Y=1d4b4 3Z=1d4b5
2SMALL_A=1d4b6 3B=1d4b7 3C=1d4b8 3D=1d4b9 3F=1d4bb 3H=1d4bd 3I=1d4be 3J=1d4bf 3K=1d4c0 3L=1d4c1
3M=1d4c2 3N=1d4c3 3P=1d4c5 3Q=1d4c6 3R=1d4c7 3S=1d4c8 3T=1d4c9 3U=1d4ca 3V=1d4cb 3W=1d4cc 3X=1d4cd
3Y=1d4ce 3Z=1d4cf 0MAXIMIZE=1f5d6 0MAYAN_NUMERAL_EIGHT=1d2e8 2EIGHTEEN=1d2f2 2ELEVEN=1d2eb
2FIFTEEN=1d2ef 2FIVE=1d2e5 2FOUR=1d2e4 2FOURTEEN=1d2ee 2NINE=1d2e9 2NINETEEN=1d2f3 2ONE=1d2e1
2SEVEN=1d2e7 2SEVENTEEN=1d2f1 2SIX=1d2e6 2SIXTEEN=1d2f0 2TEN=1d2ea 2THIRTEEN=1d2ed 2THREE=1d2e3
2TWELVE=1d2ec 2TWO=1d2e2 2ZERO=1d2e0 0MEASURED_ANGLE=2221 2OPENING_LEFT=299b
2WITH_OPEN_ARM_ENDING_IN_ARROW_POINTING_DOWN_AND_LEFT=29ab 9DOWN_AND_RIGHT=29aa 9LEFT_AND_DOWN=29af
9LEFT_AND_UP=29ad 9RIGHT_AND_DOWN=29ae 9RIGHT_AND_UP=29ac 9UP_AND_LEFT=29a9 9UP_AND_RIGHT=29a8
1BY=225e 1RIGHT_ANGLE_WITH_DOT=299d 0MEAT_ON_BONE=1f356 0MECHANICAL_ARM=1f9be 1LEG=1f9bf
0MEDEFAIDRIN_CAPITAL_LETTER_A=16e4d 3AI=16e5e 3ATIU=16e44 3B=16e50 3C=16e51 3D=16e59 3E=16e4f
3F=16e4a 3G=16e49 3H=16e56 3HP=16e56 3I=16e4b 3J=16e4e 3K=16e4c 3KP=16e46 3L=16e54 3M=16e40
3N=16e5b 3NG=16e57 3NY=16e57 3O=16e5d 3OE=16e5a 3P=16e47 3Q=16e55 3R=16e5c 3S=16e41 3T=16e48
3U=16e52 3V=16e42 3W=16e43 3X=16e58 3Y=16e5f 3YU=16e53 3Z=16e45 1COMMA=16e97 1DIGIT_EIGHT=16e88
2FIVE=16e85 2FOUR=16e84 2NINE=16e89 2ONE=16e81 3ALTERNATE_FORM=16e94 2SEVEN=16e87 2SIX=16e86
2THREE=16e83 3ALTERNATE_FORM=16e96 2TWO=16e82 3ALTERNATE_FORM=16e95 2ZERO=16e80
1EXCLAMATION_OH=16e9a 1FULL_STOP=16e98 1NUMBER_EIGHTEEN=16e92 2ELEVEN=16e8b 2FIFTEEN=16e8f
2FOURTEEN=16e8e 2NINETEEN=16e93 2SEVENTEEN=16e91 2SIXTEEN=16e90 2TEN=16e8a 2THIRTEEN=16e8d
2TWELVE=16e8c 1SMALL_LETTER_A=16e6d 3AI=16e7e 3ATIU=16e64 3B=16e70 3C=16e71 3D=16e79 3E=16e6f
3F=16e6a 3G=16e69 3H=16e76 3HP=16e76 3I=16e6b 3J=16e6e 3K=16e6c 3KP=16e66 3L=16e74 3M=16e60
3N=16e7b 3NG=16e77 3NY=16e77 3O=16e7d 3OE=16e7a 3P=16e67 3Q=16e75 3R=16e7c 3S=16e61 3T=16e68
3U=16e72 3V=16e62 3W=16e63 3X=16e78 3Y=16e7f 3YU=16e73 3Z=16e65 1SYMBOL_AIVA=16e99
0MEDIEVAL_COMMA=2e4c 1EXCLAMATION_MARK=2e53 1QUESTION_MARK=2e54 0MEDIUM_BLACK_CIRCLE=26ab
1BOLD_WHITE_CIRCLE=1f785 1EIGHT_POINTED_BLACK_STAR=1f7ce 2SPOKED_ASTERISK=1f7bc
1FIVE_SPOKED_ASTERISK=1f7b0 1FLATTENED_LEFT_PARENTHESIS_ORNAMENT=276a
2RIGHT_PARENTHESIS_ORNAMENT=276b 1FOUR_POINTED_BLACK_STAR=1f7c5 3PINWHEEL_STAR=1f7c7
1GREEK_CROSS=1f7a3 1LEFT_CURLY_BRACKET_ORNAMENT=2774 2PARENTHESIS_ORNAMENT=2768
1LEFT-POINTING_ANGLE_BRACKET_ORNAMENT=276c 1MATHEMATICAL_SPACE=205f
1RIGHT_CURLY_BRACKET_ORNAMENT=2775 2PARENTHESIS_ORNAMENT=2769
1RIGHT-POINTING_ANGLE_BRACKET_ORNAMENT=276d 1SALTIRE=1f7aa 1SHADE=2592
1SIX_POINTED_BLACK_STAR=1f7cb 2SPOKED_ASTERISK=1f7b6 1SMALL_WHITE_CIRCLE=26ac
1THREE_POINTED_BLACK_STAR=1f7c1 3PINWHEEL_STAR=1f7c3 1VERTICAL_BAR=2759 1WHITE_CIRCLE=26aa
2SQUARE=1f78f 0MEETEI_MAYEK_AHANG_KHUDAM=aaf1 2ANJI=aaf2 2APUN_IYEK=abed 2CHEIKHAN=aaf0
2CHEIKHEI=abeb 2DIGIT_EIGHT=abf8 3FIVE=abf5 3FOUR=abf4 3NINE=abf9 3ONE=abf1 3SEVEN=abf7 3SIX=abf6
3THREE=abf3 3TWO=abf2 3ZERO=abf0 2LETTER_ATIYA=abd1 3BA=abd5 3BHAM=abda 3CHA=aae2 3CHIL=abc6
3DDA=aae6 3DDHA=aae7 3DHOU=abd9 3DIL=abd7 3E=aae0 3GHOU=abd8 3GOK=abd2 3HUK=abcd 3I=abcf
4LONSUM=abe2 3JHAM=abd3 3JIL=abd6 3KHOU=abc8 3KOK=abc0 4LONSUM=abdb 3LAI=abc2 4LONSUM=abdc
3MIT=abc3 4LONSUM=abdd 3NA=abc5 4LONSUM=abdf 3NGOU=abc9 4LONSUM=abe1 3NNA=aae8 3NYA=aae3 3O=aae1
3PA=abc4 4LONSUM=abde 3PHAM=abd0 3RAI=abd4 3SAM=abc1 3SHA=aae9 3SSA=aaea 3THOU=abca 3TIL=abc7
4LONSUM=abe0 3TTA=aae4 3TTHA=aae5 3UN=abce 3WAI=abcb 3YANG=abcc 2LUM_IYEK=abec
2SYLLABLE_REPETITION_MARK=aaf3 2VIRAMA=aaf6 2VOWEL_SIGN_AAI=aaed 4AAU=aaef 4ANAP=abe5 4AU=aaee
4CHEINAP=abe9 4II=aaeb 4INAP=abe4 4NUNG=abea 4ONAP=abe3 4SOUNAP=abe7 4UNAP=abe8 4UU=aaec
4VISARGA=aaf5 4YENAP=abe6 2WORD_REPETITION_MARK=aaf4 0MELON=1f348 0MELTING_FACE=1fae0 0MEMO=1f4dd
0MENDE_KIKAKUI_COMBINING_NUMBER_HUNDRED_THOUSANDS=1e8d5 4HUNDREDS=1e8d2 4MILLIONS=1e8d6
4TEENS=1e8d0 4TEN_THOUSANDS=1e8d4 4TENS=1e8d1 4THOUSANDS=1e8d3 2DIGIT_EIGHT=1e8ce 3FIVE=1e8cb
3FOUR=1e8ca 3NINE=1e8cf 3ONE=1e8c7 3SEVEN=1e8cd 3SIX=1e8cc 3THREE=1e8c9 3TWO=1e8c8
2SYLLABLE_M001_KI=1e800 3M002_KA=1e801 3M003_KU=1e802 3M004_WI=1e808 3M005_WA=1e809 3M006_WU=1e80a
3M007_MIN=1e814 3M008_MAN=1e815 3M009_MUN=1e816 3M010_BI=1e81b 3M011_BA=1e81c 3M012_BU=1e81d
3M013_I=1e822 3M014_A=1e823 3M015_U=1e824 3M016_DI=1e83e 3M017_DA=1e83f 3M018_DU=1e840
3M019_SI=1e82e 3M020_SA=1e82f 3M021_SU=1e830 3M022_TI=1e844 3M023_TA=1e845 3M024_TU=1e846
3M025_LI=1e836 3M026_LA=1e837 3M027_LU=1e838 3M028_JI=1e84b 3M029_JA=1e84c 3M030_JU=1e84d
3M031_YI=1e853 3M032_YA=1e854 3M033_YU=1e855 3M034_FI=1e85a 3M035_FA=1e85b 3M036_FU=1e85c
3M037_NIN=1e863 3M038_NAN=1e864 3M039_NUN=1e865 3M040_HEE=1e86b 3M041_HA=1e869 3M042_HOO=1e86d
3M043_NGGA=1e878 3M044_KPEE=1e8a2 3M045_WO=1e80e 3M046_HUAN=1e876 3M047_MBEE=1e896 3M048_KO=1e806
3M049_WVA=1e812 3M050_PU=1e88e 3M051_PE=1e890 3M052_HEN=1e874 3M053_HIN=1e871 3M054_LOO=1e83b
3M055_TE=1e848 3M056_GBA=1e8a7 3M057_NGON=1e88a 3M058_NYAN=1e8c1 3M059_MEN=1e817 3M060_NYON=1e8c4
3M061_WVI=1e811 3M062_MBA=1e894 3M063_JO=1e851 3M064_NDO=1e8b4 3M065_KEE=1e803 3M066_PO=1e892
3M067_NDOO=1e8b3 3M068_PI=1e88c 3M069_TO=1e84a 3M070_GBO=1e8ac 3M071_GBOO=1e8ab 3M072_MBE=1e898
3M073_LE=1e83a 3M074_KPU=1e8a1 3M075_FE=1e85e 3M076_KOO=1e805 3M077_VO=1e8bf 3M078_FEE=1e85d
3M079_SO=1e834 3M080_YE=1e857 3M081_PEE=1e88f 3M082_NGGU=1e879 3M083_HEEI=1e86f 3M084_LEE=1e839
3M085_VE=1e8bd 3M086_LONG_NGGE=1e880 3M087_HUN=1e873 3M088_FO=1e860 3M089_DEE=1e841
3M090_NGGI=1e877 3M091_TEE=1e847 3M092_KPA=1e8a0 3M093_GBEE=1e8a9 3M094_MON=1e818 3M095_KE=1e804
3M096_HE=1e86c 3M097_BE=1e81f 3M098_NYEN=1e8c3 3M099_PA=1e88d 3M100_E=1e826 3M101_FAN=1e862
3M102_POO=1e891 3M103_BOO=1e820 3M104_TOO=1e849 3M105_LONG_MBOO=1e89d 3M106_LONG_NGGOO=1e881
3M107_GBE=1e8aa 3M108_KPE=1e8a3 3M109_YEE=1e856 3M110_LONG_LE=1e83d 3M111_GA=1e884 3M112_KPOO=1e8a4
3M113_JE=1e84f 3M114_WOO=1e80d 3M115_NGGEE=1e87a 3M116_SE=1e832 3M117_NEN=1e866 3M118_WE=1e80c
3M119_NDE=1e8b2 3M120_NGGO=1e87d 3M121_YO=1e859 3M122_MBU=1e895 3M123_NDI=1e8ae 3M124_GBI=1e8a6
3M125_NDU=1e8b0 3M126_WEE=1e80b 3M127_NGGUA=1e87f 3M128_HOOU=1e870 3M129_NDA=1e8af 3M130_HAN=1e872
3M131_IN=1e82a 3M132_KPI=1e89f 3M133_FOO=1e85f 3M134_NJOO=1e8b8 3M135_IN=1e82b 3M136_SOO=1e833
3M137_EI=1e829 3M138_BO=1e821 3M139_WVE=1e813 3M140_HO=1e86e 3M141_YOO=1e858 3M142_LONG_MBO=1e89e
3M143_WEI=1e810 3M144_VOO=1e8be 3M145_MBI=1e893 3M146_NGGE=1e87b 3M147_O=1e828 3M148_GBU=1e8a8
3M149_NJEE=1e8b7 3M150_BEE=1e81e 3M151_VU=1e8bb 3M152_NJA=1e8b5 3M153_LO=1e83c 3M154_MUAN=1e819
3M155_GI=1e883 3M156_NGGOO=1e87c 3M157_JEE=1e84e 3M158_KPO=1e8a5 3M159_NGGAA=1e87e 3M160_JOO=1e850
3M161_LONG_MBE=1e89c 3M162_SEE=1e831 3M163_EE=1e825 3M164_NYIN=1e8c0 3M165_OO=1e827
3M166_GUEI=1e887 3M167_GUAN=1e888 3M168_GU=1e885 3M169_NON=1e867 3M170_NYUN=1e8c2 3M171_RA=1e8ad
3M172_MBOO=1e899 3M173_VEE=1e8bc 3M174_MBO=1e89a 3M175_LONG_JO=1e852 3M176_HI=1e868
3M177_NGUAN=1e88b 3M178_EN=1e82d 3M179_KUA=1e807 3M180_DOO=1e842 3M181_DO=1e843 3M182_VI=1e8b9
3M183_LONG_NGGO=1e882 3M184_NGEN=1e889 3M185_VA=1e8ba 3M186_HU=1e86a 3M187_MBUU=1e89b
3M188_MBEE=1e897 3M189_MUEN=1e81a 3M190_GEE=1e886 3M191_NDEE=1e8b1 3M192_NJU=1e8b6 3M193_HON=1e875
3M194_WUI=1e80f 3M195_AN=1e82c 3M196_SIA=1e835 3M197_FUA=1e861 0MENORAH_WITH_NINE_BRANCHES=1f54e
0MENS_SYMBOL=1f6b9 0MERCURY=263f 0MEROITIC_CURSIVE_FRACTION_EIGHT_TWELFTHS=109fd
3ELEVEN_TWELFTHS=109bc 3FIVE_TWELFTHS=109fa 3FOUR_TWELFTHS=109f9 3NINE_TWELFTHS=109fe
3ONE_HALF=109bd 4TWELFTH=109f6 3SEVEN_TWELFTHS=109fc 3SIX_TWELFTHS=109fb 3TEN_TWELFTHS=109ff
3THREE_TWELFTHS=109f8 3TWO_TWELFTHS=109f7 2LETTER_A=109a0 3ARCHAIC_SA=109b0 3BA=109a6 3DA=109b7
3E=109a1 3HHA=109ae 3I=109a2 3KA=109b2 3KHA=109ad 3LA=109ac 3MA=109a8 3NA=109a9 3NE=109aa 3O=109a3
3PA=109a7 3QA=109b3 3RA=109ab 3SA=109af 3SE=109b1 3TA=109b4 3TE=109b5 3TO=109b6 3WA=109a5 3YA=109a4
2LOGOGRAM_IMN=109bf 3RMT=109be 2NUMBER_EIGHT=109c7 4HUNDRED=109d9 5THOUSAND=109f4 4THOUSAND=109e2
3EIGHTY_THOUSAND=109eb 3FIFTY=109cd 4THOUSAND=109e8 3FIVE=109c4 4HUNDRED=109d6 5THOUSAND=109f1
4THOUSAND=109df 3FORTY=109cc 4THOUSAND=109e7 3FOUR=109c3 4HUNDRED=109d5 5THOUSAND=109f0
4THOUSAND=109de 3NINE=109c8 4HUNDRED=109da 5THOUSAND=109f5 4THOUSAND=109e3 3NINETY_THOUSAND=109ec
3ONE=109c0 4HUNDRED=109d2 5THOUSAND=109ed 4THOUSAND=109db 3SEVEN=109c6 4HUNDRED=109d8
5THOUSAND=109f3 4THOUSAND=109e1 3SEVENTY=109cf 4THOUSAND=109ea 3SIX=109c5 4HUNDRED=109d7
5THOUSAND=109f2 4THOUSAND=109e0 3SIXTY=109ce 4THOUSAND=109e9 3TEN=109c9 4THOUSAND=109e4
3THIRTY=109cb 4THOUSAND=109e6 3THREE=109c2 4HUNDRED=109d4 5THOUSAND=109ef 4THOUSAND=109dd
3TWENTY=109ca 4THOUSAND=109e5 3TWO=109c1 4HUNDRED=109d3 5THOUSAND=109ee 4THOUSAND=109dc
1HIEROGLYPHIC_LETTER_A=10980 3BA=10986 3BA-2=10987 3DA=1099d 3E=10981 3HHA=10992 3I=10982 3KA=10996
3KHA=10991 3LA=10990 3MA=10989 3NA=1098a 3NA-2=1098b 3NE=1098c 3NE-2=1098d 3O=10983 3PA=10988
3QA=10997 3RA=1098e 3RA-2=1098f 3SA=10993 3SA-2=10994 3SE=10995 3TA=10998 3TA-2=10999 3TE=1099a
3TE-2=1099b 3TO=1099c 3WA=10985 3YA=10984 2SYMBOL_VIDJ=1099e 3VIDJ-2=1099f 0MERPERSON=1f9dc
0MESSAGE_WAITING=95 0METRICAL_BREVE=23d1 1LONG_OVER_SHORT=23d2 3TWO_SHORTS=23d4 1PENTASEME=23d9
1SHORT_OVER_LONG=23d3 1TETRASEME=23d8 1TRISEME=23d7 1TWO_SHORTS_JOINED=23d6 3OVER_LONG=23d5
0METRO=1f687 0MIAO_LETTER_AH=16f43 2ARCHAIC_MA=16f06 3NA=16f13 3NGA=16f25 3ZZA=16f3f 2BA=16f01
2BRI=16f45 2DA=16f0b 2DDA=16f0f 2DLHA=16f1b 2DLHYA=16f1d 2DZA=16f38 2DZHA=16f2f 2DZYI=16f47
2DZZA=16f2b 2FA=16f07 2GA=16f1f 2GHA=16f28 2GHHA=16f29 2HA=16f26 2HHA=16f44 2KA=16f1e 2LA=16f16
2LHA=16f18 2LHYA=16f19 2LYA=16f17 2MA=16f04 2MHA=16f05 2NA=16f10 2NASALIZATION=16f50 2NGA=16f23
2NGHA=16f24 2NHA=16f11 2NNA=16f14 2NNHA=16f15 2NYA=16f2c 2NYHA=16f2d 2PA=16f00 2PLA=16f03 2QA=16f21
2QGA=16f22 2REFORMED_TONE-1=16f9a 3TONE-2=16f9b 3TONE-4=16f9c 3TONE-5=16f9d 3TONE-6=16f9e
3TONE-8=16f9f 3TSHA=16f32 2RTE=16f4a 2SA=16f3a 2SHA=16f33 2SSA=16f34 2SYI=16f46 2TA=16f0a 2TE=16f48
2TLHA=16f1a 2TLHYA=16f1c 2TONE-2=16f93 2TONE-3=16f94 2TONE-4=16f95 2TONE-5=16f96 2TONE-6=16f97
2TONE-7=16f98 2TONE-8=16f99 2TSA=16f37 2TSE=16f49 2TSHA=16f2e 2TSSA=16f2a 2TTA=16f0e 2VA=16f08
2VFA=16f09 2WA=16f42 2XA=16f27 2YI_DZHA=16f31 3KA=16f20 3NNA=16f12 3PA=16f02 3TA=16f0d 3TSA=16f39
3TSHA=16f30 3TTA=16f0c 2ZA=16f3b 2ZHA=16f35 2ZSA=16f3c 2ZSHA=16f36 2ZZA=16f3d 2ZZSA=16f3e
2ZZSYA=16f41 2ZZYA=16f40 1SIGN_ASPIRATION=16f51 2CONSONANT_MODIFIER_BAR=16f4f
2REFORMED_ASPIRATION=16f53 3VOICING=16f52 1TONE_ABOVE=16f91 2BELOW=16f92 2RIGHT=16f8f
2TOP_RIGHT=16f90 1VOWEL_SIGN_A=16f54 3AA=16f55 3AE=16f73 3AEE=16f74 3AHH=16f56 3AI=16f79 3AN=16f57
3ANG=16f58 3AU=16f7b 3E=16f5d 3EA=16f85 3EI=16f7a 3EN=16f5e 3ENG=16f5f 3ER=16f77 3ERR=16f75
3I=16f61 3IA=16f62 3IAN=16f63 3IANG=16f64 3IE=16f66 3IG=16f84 3II=16f67 3ING=16f69 3IO=16f65
3IONG=16f86 3IU=16f68 3N=16f7d 3NG=16f7e 3O=16f59 3OER=16f82 3OEY=16f60 3OG=16f81 3OO=16f5a
3OU=16f7c 3ROUNDED_ER=16f78 4ERR=16f76 3U=16f6a 3UA=16f6b 3UAN=16f6c 3UANG=16f6d 3UEI=16f6f
3UI=16f87 3UNG=16f70 3UOG=16f7f 3UU=16f6e 3VW=16f83 3W=16f5c 3WO=16f5b 3Y=16f71 3YI=16f72
3YUI=16f80 0MICR_DASH_SYMBOL=2449 1ON_US_SYMBOL=2448 0MICRO_SIGN=b5 0MICROBE=1f9a0
0MICROPHONE=1f3a4 0MICROSCOPE=1f52c 0MIDDLE_DOT=b7 1THIRD_WHITE_RIGHT_POINTING_INDEX=1fbc2
0MIDLINE_HORIZONTAL_ELLIPSIS=22ef 0MILITARY_HELMET=1fa96 1MEDAL=1f396 0MILKY_WAY=1f30c
0MILL_SIGN=20a5 0MINIBUS=1f690 0MINIDISC=1f4bd 0MINIMIZE=1f5d5 0MINUS_SIGN=2212 2IN_TRIANGLE=2a3a
2WITH_COMMA_ABOVE=2a29 3DOT_BELOW=2a2a 3FALLING_DOTS=2a2b 3RISING_DOTS=2a2c 1TILDE=2242
0MINUS-OR-PLUS_SIGN=2213 0MINY=29ff 0MIRROR=1fa9e 1BALL=1faa9 0MMSP=205f 0MOBILE_PHONE=1f4f1
2OFF=1f4f4 2WITH_RIGHTWARDS_ARROW_AT_LEFT=1f4f2 0MODELS=22a7 0MODERN_PENTATHLON=1f93b
0MODI_ABBREVIATION_SIGN=11643 1DANDA=11641 1DIGIT_EIGHT=11658 2FIVE=11655 2FOUR=11654 2NINE=11659
2ONE=11651 2SEVEN=11657 2SIX=11656 2THREE=11653 2TWO=11652 2ZERO=11650 1DOUBLE_DANDA=11642
1LETTER_A=11600 2AA=11601 2AI=1160b 2AU=1160d 2BA=11624 2BHA=11625 2CA=11613 2CHA=11614 2DA=1161f
2DDA=1161a 2DDHA=1161b 2DHA=11620 2E=1160a 2GA=11610 2GHA=11611 2HA=1162e 2I=11602 2II=11603
2JA=11615 2JHA=11616 2KA=1160e 2KHA=1160f 2LA=11629 2LLA=1162f 2MA=11626 2NA=11621 2NGA=11612
2NNA=1161c 2NYA=11617 2O=1160c 2PA=11622 2PHA=11623 2RA=11628 2SA=1162d 2SHA=1162b 2SSA=1162c
2TA=1161d 2THA=1161e 2TTA=11618 2TTHA=11619 2U=11604 2UU=11605 2VA=1162a 2VOCALIC_L=11608 3LL=11609
3R=11606 3RR=11607 2YA=11627 1SIGN_ANUSVARA=1163d 2ARDHACANDRA=11640 2HUVA=11644 2VIRAMA=1163f
2VISARGA=1163e 1VOWEL_SIGN_AA=11630 3AI=1163a 3AU=1163c 3E=11639 3I=11631 3II=11632 3O=1163b
3U=11633 3UU=11634 3VOCALIC_L=11637 4LL=11638 4R=11635 4RR=11636
0MODIFIER_BREVE_WITH_INVERTED_BREVE=ab5b 1LETTER_ACUTE_ACCENT=2ca 2ALVEOLAR_CLICK=107b8
2APOSTROPHE=2bc 2BEGIN_HIGH_TONE=2f9 3LOW_TONE=2fb 2BILABIAL_CLICK=107b5 2CAPITAL_A=1d2c 3AE=1d2d
3B=1d2e 3BARRED_B=1d2f 3C=a7f2 3D=1d30 3E=1d31 3F=a7f3 3G=1d33 3H=1d34 4WITH_STROKE=a7f8 3I=1d35
3J=1d36 3K=1d37 3L=1d38 3M=1d39 3N=1d3a 3O=1d3c 3OU=1d3d 3P=1d3e 3Q=a7f4 3R=1d3f 3REVERSED_E=1d32
4N=1d3b 3T=1d40 3U=1d41 3V=2c7d 3W=1d42 2CENTRED_LEFT_HALF_RING=2d3 3RIGHT_HALF_RING=2d2
2CHINESE_TONE_YANG_PING=a701 5QU=a705 5RU=a707 5SHANG=a703 4YIN_PING=a700 5QU=a704 5RU=a706
5SHANG=a702 2CIRCUMFLEX_ACCENT=2c6 2COLON=a789 2CROSS_ACCENT=2df 2CYRILLIC_EN=1d78 3HARD_SIGN=a69c
3SOFT_SIGN=a69d 2DENTAL_CLICK=107b6 2DOT_HORIZONTAL_BAR=a719 3SLASH=a718 3VERTICAL_BAR=a717
2DOUBLE_APOSTROPHE=2ee 3PRIME=2ba 2DOWN_ARROWHEAD=2c5 3TACK=2d5 2END_HIGH_TONE=2fa 3LOW_TONE=2fc
2EXTRA-HIGH_DOTTED_LEFT-STEM_TONE_BAR=a70d 4TONE_BAR=a708 3LEFT-STEM_TONE_BAR=a712 3TONE_BAR=2e5
2EXTRA-LOW_DOTTED_LEFT-STEM_TONE_BAR=a711 4TONE_BAR=a70c 3LEFT-STEM_TONE_BAR=a716 3TONE_BAR=2e9
2GEORGIAN_NAR=10fc 2GLOTTAL_STOP=2c0 4WITH_STROKE=107b3 2GRAVE_ACCENT=2cb
2HALF_TRIANGULAR_COLON=2d1 2HIGH_DOTTED_LEFT-STEM_TONE_BAR=a70e 4TONE_BAR=a709
3LEFT-STEM_TONE_BAR=a713 3TONE_BAR=2e6 2LATERAL_CLICK=107b7 2LEFT_ARROWHEAD=2c2 3HALF_RING=2bf
3TACK=ab6a 2LOW_ACUTE_ACCENT=2cf 3CIRCUMFLEX_ACCENT=a788 3DOTTED_LEFT-STEM_TONE_BAR=a710
4TONE_BAR=a70b 3DOWN_ARROWHEAD=2ef 3GRAVE_ACCENT=2ce 3INVERTED_EXCLAMATION_MARK=a71f
3LEFT_ARROW=2ff 4ARROWHEAD=2f1 3LEFT-STEM_TONE_BAR=a715 3MACRON=2cd 3RIGHT_ARROWHEAD=2f2 3RING=2f3
3TILDE=2f7 3TONE_BAR=2e8 3UP_ARROWHEAD=2f0 3VERTICAL_LINE=2cc 2LOWER_RIGHT_CORNER_ANGLE=a71a
2MACRON=2c9 2MID_DOTTED_LEFT-STEM_TONE_BAR=a70f 4TONE_BAR=a70a 3LEFT-STEM_TONE_BAR=a714
3TONE_BAR=2e7 2MIDDLE_DOUBLE_ACUTE_ACCENT=2f6 4GRAVE_ACCENT=2f5 3GRAVE_ACCENT=2f4 2MINUS_SIGN=2d7
2OPEN_SHELF=2fe 2PLUS_SIGN=2d6 2PRIME=2b9 2RAISED_COLON=2f8 3DOWN_ARROW=a71c 3EXCLAMATION_MARK=a71d
3INVERTED_EXCLAMATION_MARK=a71e 3UP_ARROW=a71b 2RETROFLEX_CLICK_WITH_RETROFLEX_HOOK=107b9
2REVERSED_COMMA=2bd 3GLOTTAL_STOP=2c1 5WITH_STROKE=107b4 2RHOTIC_HOOK=2de 2RIGHT_ARROWHEAD=2c3
3HALF_RING=2be 3TACK=ab6b 2SHELF=2fd 2SHORT_EQUALS_SIGN=a78a 2SMALL_A=1d43 3AE=10783 3AIN=1d5c
3ALPHA=1d45 3B=1d47 4WITH_HOOK=10785 3BARRED_O=1db1 3BETA=1d5d 3BOTTOM_HALF_O=1d55 3C=1d9c
4WITH_CURL=1d9d 3CAPITAL_AA=10780 4B=10784 4G=10792 5WITH_HOOK=10794 4H=10796 4I=1da6
5WITH_STROKE=1da7 4INVERTED_R=2b6 4L=1dab 5WITH_BELT=1079c 4N=1db0 4OE=107a3 4R=107aa 4U=1db8
4Y=107b2 3CHI=1d61 3CLOSED_OMEGA=107a4 4REVERSED_OPEN_E=1078f 3D=1d48 4WITH_HOOK=1078c
6AND_TAIL=1078d 5TAIL=1078b 3DELTA=1d5f 3DEZH_DIGRAPH=1078a 3DOTLESS_J_WITH_STROKE=1da1
7AND_HOOK=10798 3DZ_DIGRAPH=10787 5WITH_CURL=10789 6RETROFLEX_HOOK=10788 3E=1d49 3ENG=1d51
3ESH=1db4 3ETH=1d9e 3EZH=1dbe 3F=1da0 3FENG_DIGRAPH=10790 3G=1d4d 4WITH_HOOK=10793 3GAMMA=2e0
3GREEK_GAMMA=1d5e 4PHI=1d60 3H=2b0 4WITH_HOOK=2b1 5STROKE=10795 3HENG=ab5c 4WITH_HOOK=10797
3I_WITH_STROKE=1da4 3IOTA=1da5 3J=2b2 4WITH_CROSSED-TAIL=1da8 3K=1d4f 3L=2e1 4WITH_BELT=1079b
5INVERTED_LAZY_S=ab5d 5MIDDLE_TILDE=ab5e 5PALATAL_HOOK=1daa 5RETROFLEX_HOOK=1da9 7AND_BELT=1079d
3LEZH=1079e 4WITH_RETROFLEX_HOOK=1079f 3LIGATURE_OE=a7f9 3LS_DIGRAPH=10799 3LZ_DIGRAPH=1079a
3M=1d50 4WITH_HOOK=1dac 3N_WITH_LEFT_HOOK=1dae 5RETROFLEX_HOOK=1daf 3O=1d52 4WITH_STROKE=107a2
3OPEN_E=1d4b 4O=1d53 3P=1d56 3PHI=1db2 3Q=107a5 3R=2b3 4WITH_FISHHOOK=107a9 5TAIL=107a8
3RAMS_HORN=10791 3REVERSED_E=1078e 4GLOTTAL_STOP=2e4 4OPEN_E=1d9f 3S=2e2 4WITH_CURL=107ba
5HOOK=1db3 3SCHWA=1d4a 3SCRIPT_G=1da2 3SIDEWAYS_U=1d59 3T=1d57 4WITH_PALATAL_HOOK=1db5
5RETROFLEX_HOOK=107af 3TC_DIGRAPH_WITH_CURL=107ab 3TESH_DIGRAPH=107ae 3THETA=1dbf 3TOP_HALF_O=1d54
3TS_DIGRAPH=107ac 5WITH_RETROFLEX_HOOK=107ad 3TURNED_A=1d44 4AE=1d46 4ALPHA=1d9b 4H=1da3 4I=1d4e
4M=1d5a 5WITH_LONG_LEG=1dad 4OPEN_E=1d4c 4R=2b4 5WITH_HOOK=2b5 6LONG_LEG=107a6
8AND_RETROFLEX_HOOK=107a7 4V=1dba 4W=ab69 4Y=107a0 5WITH_BELT=107a1 3U=1d58 4BAR=1db6
4WITH_LEFT_HOOK=ab5f 3UPSILON=1db7 3V=1d5b 4WITH_HOOK=1db9 5RIGHT_HOOK=107b0 3W=2b7 3X=2e3 3Y=2b8
3Z=1dbb 4WITH_CURL=1dbd 5RETROFLEX_HOOK=1dbc 2STRESS_AND_HIGH_TONE=a720 4LOW_TONE=a721
2SUPERSCRIPT_HALF_TRIANGULAR_COLON=10782 3TRIANGULAR_COLON=10781 2TRIANGULAR_COLON=2d0
2TURNED_COMMA=2bb 2UNASPIRATED=2ed 2UP_ARROWHEAD=2c4 3TACK=2d4 2US=a770 2VERTICAL_LINE=2c8
2VOICING=2ec 2YANG_DEPARTING_TONE_MARK=2eb 2YIN_DEPARTING_TONE_MARK=2ea 0MODULO_TWO_SUM=2a0a
0MONEY_BAG=1f4b0 1WITH_WINGS=1f4b8 0MONEY-MOUTH_FACE=1f911 0MONGOLIAN_BIRGA=1800
2WITH_DOUBLE_ORNAMENT=11664 3ORNAMENT=11660 1COLON=1804 1COMMA=1802 1DIGIT_EIGHT=1818 2FIVE=1815
2FOUR=1814 2NINE=1819 2ONE=1811 2SEVEN=1817 2SIX=1816 2THREE=1813 2TWO=1812 2ZERO=1810
1DOUBLE_BIRGA_WITH_ORNAMENT=11662 1ELLIPSIS=1801 1FOUR_DOTS=1805 1FREE_VARIATION_SELECTOR_FOUR=180f
4ONE=180b 4THREE=180d 4TWO=180c 1FULL_STOP=1803 1INVERTED_BIRGA=11667 3WITH_DOUBLE_ORNAMENT=11668
1LETTER_A=1820 2ALI_GALI_A=1887 4AH=1897 4ANUSVARA_ONE=1880 4BALUDA=1885 4CA=188b 4DA=1891
4DAGALGA=18a9 4DAMARU=1882 4DDA=188e 4HALF_U=18a6 5YA=18a7 4I=1888 4INVERTED_UBADAMA=1884 4KA=1889
4NGA=188a 4NNA=188f 4PA=1892 4PHA=1893 4SSA=1894 4TA=1890 4THREE_BALUDA=1886 4TTA=188c 4TTHA=188d
4UBADAMA=1883 4VISARGA_ONE=1881 4ZA=1896 4ZHA=1895 2ANG=1829 2BA=182a 2CHA=1834 3WITH_TWO_DOTS=1878
2CHI=1842 2DA=1833 2E=1821 2EE=1827 2FA=1839 2GA=182d 2HAA=183e 2I=1822 2JA=1835 2KA=183a 2KHA=183b
2LA=182f 2LHA=1840 2MA=182e 2MANCHU_ALI_GALI_BHA=18a8 5CA=189c 5CYA=18a3 5DDHA=189f 5DHA=18a1
5GHA=189a 5JHA=189d 5LHA=18aa 5NGA=189b 5SSA=18a2 5TA=18a0 5TTA=189e 5ZA=18a5 5ZHA=18a4 3FA=1876
3I=1873 3KA=1874 3RA=1875 3ZHA=1877 2NA=1828 2O=1823 2OE=1825 2PA=182b 2QA=182c 2RA=1837 2SA=1830
2SHA=1831 2SIBE_ANG=1862 3CHA=1871 3DA=1869 3E=185d 3FA=186b 3GA=1864 3GAA=186c 3HA=1865 3HAA=186d
3I=185e 3IY=185f 3JA=186a 3KA=1863 3PA=1866 3RAA=1870 3SHA=1867 3TA=1868 3TSA=186e 3U=1861 3UE=1860
3ZA=186f 3ZHA=1872 2TA=1832 2TODO_ALI_GALI_TA=1898 5ZHA=1899 3ANG=184a 3BA=184b 3CHA=1852 3DA=1851
3DZA=185c 3E=1844 3GA=184e 3GAA=1858 3HAA=1859 3I=1845 3JA=1853 3JIA=185a 3KA=1857
3LONG_VOWEL_SIGN=1843 3MA=184f 3NIA=185b 3O=1846 3OE=1848 3PA=184c 3QA=184d 3TA=1850 3TSA=1854
3U=1847 3UE=1849 3WA=1856 3YA=1855 2TSA=183c 2U=1824 2UE=1826 2WA=1838 2YA=1836 2ZA=183d 2ZHI=1841
2ZRA=183f 1MANCHU_COMMA=1808 2FULL_STOP=1809 1NIRUGU=180a 1ROTATED_BIRGA=11661
3WITH_DOUBLE_ORNAMENT=11666 4ORNAMENT=11665 1SIBE_SYLLABLE_BOUNDARY_MARKER=1807 1SWIRL_BIRGA=11669
3WITH_DOUBLE_ORNAMENT=1166b 4ORNAMENT=1166a 1TODO_SOFT_HYPHEN=1806
1TRIPLE_BIRGA_WITH_ORNAMENT=11663 1TURNED_SWIRL_BIRGA_WITH_DOUBLE_ORNAMENT=1166c
1VOWEL_SEPARATOR=180e 0MONKEY=1f412 1FACE=1f435 0MONOGRAM_FOR_EARTH=1d300 2YANG=268a 2YIN=268b
0MONORAIL=1f69d 0MONOSTABLE_SYMBOL=238d 0MOOD_BUBBLE=1f5f0 0MOON_CAKE=1f96e 1VIEWING_CEREMONY=1f391
0MOSQUE=1f54c 0MOSQUITO=1f99f 0MOTHER_CHRISTMAS=1f936 0MOTOR_BOAT=1f6e5 1SCOOTER=1f6f5
0MOTORIZED_WHEELCHAIR=1f9bc 0MOTORWAY=1f6e3 0MOUNT_FUJI=1f5fb 0MOUNTAIN=26f0 1BICYCLIST=1f6b5
1CABLEWAY=1f6a0 1RAILWAY=1f69e 0MOUSE=1f401 1FACE=1f42d 1TRAP=1faa4 0MOUTH=1f444
0MOVIE_CAMERA=1f3a5 0MOYAI=1f5ff 0MRO_DANDA=16a6e 1DIGIT_EIGHT=16a68 2FIVE=16a65 2FOUR=16a64
2NINE=16a69 2ONE=16a61 2SEVEN=16a67 2SIX=16a66 2THREE=16a63 2TWO=16a62 2ZERO=16a60
1DOUBLE_DANDA=16a6f 1LETTER_A=16a46 2BA=16a44 2CHU=16a4b 2DA=16a45 2DAI=16a4a 2E=16a58 2EA=16a56
2HAI=16a5c 2HAO=16a49 2KEAAE=16a4c 2KHAI=16a48 2KO=16a59 2LA=16a5b 2LAN=16a5a 2MAEM=16a4e
2MIM=16a43 2NGI=16a41 2NIN=16a4f 2O=16a52 2OL=16a4d 2OO=16a51 2PA=16a50 2PHI=16a47 2RI=16a5d
2RO=16a53 2SHI=16a54 2TA=16a40 2TEK=16a5e 2THEA=16a55 2WA=16a57 2YO=16a42 0MUCH_GREATER-THAN=226b
1LESS-THAN=226a 0MULTANI_LETTER_A=11280 2BA=1129d 2BHA=1129f 2CA=1128a 2CHA=1128b 2DA=11298
2DDA=11292 2DDDA=11293 2DDHA=11294 2DHA=11299 2E=11283 2GA=11286 2GHA=11288 2HA=112a6 2I=11281
2JA=1128c 2JJA=1128d 2KA=11284 2KHA=11285 2LA=112a3 2MA=112a0 2NA=1129a 2NNA=11295 2NYA=1128f
2PA=1129b 2PHA=1129c 2RA=112a2 2RHA=112a8 2RRA=112a7 2SA=112a5 2TA=11296 2THA=11297 2TTA=11290
2TTHA=11291 2U=11282 2VA=112a4 2YA=112a1 1SECTION_MARK=112a9 0MULTIMAP=22b8
0MULTIPLE_MUSICAL_NOTES=1f3b6 0MULTIPLICATION_SIGN=d7 2IN_DOUBLE_CIRCLE=2a37 3LEFT_HALF_CIRCLE=2a34
3RIGHT_HALF_CIRCLE=2a35 3TRIANGLE=2a3b 2WITH_DOT_ABOVE=2a30 3UNDERBAR=2a31 1X=2715 0MULTISET=228c
1MULTIPLICATION=228d 1UNION=228e 0MUSHROOM=1f344 0MUSIC_FLAT_SIGN=266d 1NATURAL_SIGN=266e
1SHARP_SIGN=266f 0MUSICAL_KEYBOARD=1f3b9 2WITH_JACKS=1f398 1NOTE=1f3b5 1SCORE=1f3bc
1SYMBOL_ARPEGGIATO_DOWN=1d184 3UP=1d183 2BEGIN_BEAM=1d173 3PHRASE=1d179 3SLUR=1d177 3TIE=1d175
2BRACE=1d114 2BRACKET=1d115 2BREATH_MARK=1d112 2BREVE=1d15c 2BREVIS=1d1b8 3REST=1d1c3 2C_CLEF=1d121
2CAESURA=1d113 2CIRCLE_X_NOTEHEAD=1d145 2CLIMACUS=1d1d7 2CLIVIS=1d1d5 2CLUSTER_NOTEHEAD_BLACK=1d15b
4WHITE=1d15a 2CODA=1d10c 2COMBINING_ACCENT=1d17b 3ACCENT-STACCATO=1d181 3AUGMENTATION_DOT=1d16d
3BEND=1d189 3DOIT=1d185 3DOUBLE_TONGUE=1d18a 3DOWN_BOW=1d1aa 3FLAG-1=1d16e 3FLAG-2=1d16f
3FLAG-3=1d170 3FLAG-4=1d171 3FLAG-5=1d172 3FLIP=1d187 3HARMONIC=1d1ac 3LOURE=1d182 3MARCATO=1d17f
3MARCATO-STACCATO=1d180 3RIP=1d186 3SMEAR=1d188 3SNAP_PIZZICATO=1d1ad 3SPRECHGESANG_STEM=1d166
3STACCATISSIMO=1d17e 3STACCATO=1d17c 3STEM=1d165 3TENUTO=1d17d 3TREMOLO-1=1d167 3TREMOLO-2=1d168
3TREMOLO-3=1d169 3TRIPLE_TONGUE=1d18b 3UP_BOW=1d1ab 2COMMON_TIME=1d134 2CRESCENDO=1d192
2CROIX=1d1cf 2CUT_TIME=1d135 2DA_CAPO=1d10a 2DAL_SEGNO=1d109 2DAMP=1d1b4 3ALL=1d1b5
2DASHED_BARLINE=1d104 2DECRESCENDO=1d193 2DEGREE_SLASH=1d1a9 2DOUBLE_BARLINE=1d101 3FLAT=1d12b
3SHARP=1d12a 2DRUM_CLEF-1=1d125 3CLEF-2=1d126 2EIGHTH_NOTE=1d160 3REST=1d13e 2END_BEAM=1d174
3OF_STIMME=1d1a8 3PHRASE=1d17a 3SLUR=1d178 3TIE=1d176 2F_CLEF=1d122 4OTTAVA_ALTA=1d123 5BASSA=1d124
2FERMATA=1d110 3BELOW=1d111 2FINAL_BARLINE=1d102 2FINGERED_TREMOLO-1=1d16a 3TREMOLO-2=1d16b
3TREMOLO-3=1d16c 2FIVE-LINE_STAFF=1d11a 2FLAT_DOWN=1d12d 3UP=1d12c 2FORTE=1d191
2FOUR-LINE_STAFF=1d119 2FOUR-STRING_FRETBOARD=1d11d 2FUSA_BLACK=1d1c0 3WHITE=1d1bf 2G_CLEF=1d11e
4OTTAVA_ALTA=1d11f 5BASSA=1d120 2GLISSANDO_DOWN=1d1b2 3UP=1d1b1 2GRACE_NOTE_NO_SLASH=1d195
4SLASH=1d194 2GREGORIAN_C_CLEF=1d1d0 3F_CLEF=1d1d1 2HALF_NOTE=1d15e 3PEDAL_MARK=1d1b0 3REST=1d13c
2HAUPTSTIMME=1d1a6 2INVERTED_TURN=1d198 2KIEVAN_C_CLEF=1d1de 3EIGHTH_NOTE_STEM_DOWN=1d1e6 6UP=1d1e7
3END_OF_PIECE=1d1df 3FINAL_NOTE=1d1e0 3FLAT_SIGN=1d1e8 3HALF_NOTE=1d1e3
3QUARTER_NOTE_STEM_DOWN=1d1e4 6UP=1d1e5 3RECITATIVE_MARK=1d1e1 3WHOLE_NOTE=1d1e2 2KORON=1d1ea
2LEFT_REPEAT_SIGN=1d106 2LONGA=1d1b7 3IMPERFECTA_REST=1d1c2 3PERFECTA_REST=1d1c1 2MAXIMA=1d1b6
2MEZZO=1d190 2MINIMA=1d1bb 3BLACK=1d1bc 3REST=1d1c5 2MOON_NOTEHEAD_BLACK=1d153 4WHITE=1d152
2MULTI_REST=1d13a 2MULTIPLE_MEASURE_REST=1d129 2NATURAL_DOWN=1d12f 3UP=1d12e 2NEBENSTIMME=1d1a7
2NOTEHEAD_BLACK=1d158 2NULL_NOTEHEAD=1d159 2ONE_HUNDRED_TWENTY-EIGHTH_NOTE=1d164 5REST=1d142
2ONE-LINE_STAFF=1d116 2ORNAMENT_STROKE-1=1d19b 3STROKE-10=1d1a4 3STROKE-11=1d1a5 3STROKE-2=1d19c
3STROKE-3=1d19d 3STROKE-4=1d19e 3STROKE-5=1d19f 3STROKE-6=1d1a0 3STROKE-7=1d1a1 3STROKE-8=1d1a2
3STROKE-9=1d1a3 2OTTAVA_ALTA=1d136 3BASSA=1d137 2PARENTHESIS_NOTEHEAD=1d156 2PEDAL_MARK=1d1ae
3UP_MARK=1d1af 2PES_SUBPUNCTIS=1d1dd 2PIANO=1d18f 2PLUS_NOTEHEAD=1d144 2PODATUS=1d1d4
2PORRECTUS=1d1d9 3FLEXUS=1d1da 2QUARTER_NOTE=1d15f 3REST=1d13d 3TONE_FLAT=1d133 4SHARP=1d132
2QUINDICESIMA_ALTA=1d138 3BASSA=1d139 2REPEAT_DOTS=1d108 2REPEATED_FIGURE-1=1d10d 3FIGURE-2=1d10e
3FIGURE-3=1d10f 2REVERSE_FINAL_BARLINE=1d103 2RIGHT_REPEAT_SIGN=1d107 2RINFORZANDO=1d18c
2SCANDICUS=1d1d6 3FLEXUS=1d1db 2SEGNO=1d10b 2SEMIBREVIS_BLACK=1d1ba 3REST=1d1c4 3WHITE=1d1b9
2SEMIMINIMA_BLACK=1d1be 3REST=1d1c6 3WHITE=1d1bd 2SHARP_DOWN=1d131 3UP=1d130 2SHORT_BARLINE=1d105
2SINGLE_BARLINE=1d100 2SIX-LINE_STAFF=1d11b 2SIX-STRING_FRETBOARD=1d11c 2SIXTEENTH_NOTE=1d161
3REST=1d13f 2SIXTY-FOURTH_NOTE=1d163 3REST=1d141 2SORI=1d1e9 2SQUARE_B=1d1d2 3NOTEHEAD_BLACK=1d147
4WHITE=1d146 2SUBITO=1d18d 2TEMPUS_IMPERFECTUM_CUM_PROLATIONE_IMPERFECTA=1d1cb 7DIMINUTION-1=1d1cc
7DIMINUTION-2=1d1cd 7DIMINUTION-3=1d1ce 6PERFECTA=1d1ca 3PERFECTUM_CUM_PROLATIONE_IMPERFECTA=1d1c8
6PERFECTA=1d1c7 7DIMINUTION-1=1d1c9 2THIRTY-SECOND_NOTE=1d162 3REST=1d140 2THREE-LINE_STAFF=1d118
2TORCULUS=1d1d8 3RESUPINUS=1d1dc 2TR=1d196 2TRIANGLE_NOTEHEAD_DOWN_BLACK=1d14f 5WHITE=1d14e
4LEFT_BLACK=1d14b 5WHITE=1d14a 4RIGHT_BLACK=1d14d 5WHITE=1d14c 4UP_BLACK=1d149 5RIGHT_BLACK=1d151
6WHITE=1d150 5WHITE=1d148 2TRIANGLE-ROUND_NOTEHEAD_DOWN_BLACK=1d155 5WHITE=1d154 2TURN=1d197
3SLASH=1d199 3UP=1d19a 2TWO-LINE_STAFF=1d117 2VIRGA=1d1d3 2VOID_NOTEHEAD=1d157 2WHOLE_NOTE=1d15d
3REST=1d13b 2WITH_FINGERNAILS=1d1b3 2X_NOTEHEAD=1d143 2Z=1d18e 0MVS=180e 0MW=95
0MYANMAR_CONSONANT_SIGN_MEDIAL_HA=103e 4RA=103c 4WA=103d 4YA=103b 3MON_MEDIAL_LA=1060 5MA=105f
5NA=105e 3SHAN_MEDIAL_WA=1082 1DIGIT_EIGHT=1048 2FIVE=1045 2FOUR=1044 2NINE=1049 2ONE=1041
2SEVEN=1047 2SIX=1046 2THREE=1043 2TWO=1042 2ZERO=1040 1LETTER_A=1021 2AITON_RA=aa7a 2AU=102a
2BA=1017 2BHA=1018 2CA=1005 2CHA=1006 2DA=1012 2DDA=100d 2DDHA=100e 2DHA=1013 2E=1027
2EASTERN_PWO_KAREN_GHWA=1070 5NNA=106e 5YWA=106f 2GA=1002 2GHA=1003 2GREAT_SA=103f 2HA=101f 2I=1023
2II=1024 2JA=1007 2JHA=1008 2KA=1000 2KHA=1001 2KHAMTI_CA=aa61 3CHA=aa62 3DDA=aa68 3DDHA=aa69
3DHA=aa6a 3FA=aa6f 3GA=aa60 3HA=aa6d 3HHA=aa6e 3JA=aa63 3JHA=aa64 3LLA=aa6e 3NA=aa6b 3NYA=aa65
3RA=aa73 3SA=aa6c 3TTA=aa66 3TTHA=aa67 3XA=aa71 3ZA=aa72 2LA=101c 2LLA=1020 2MA=1019 2MON_BBA=105c
3BBE=105d 3E=1028 3JHA=105b 3NGA=105a 2NA=1014 2NGA=1004 2NNA=100f 2NNYA=100a 2NYA=1009 2O=1029
2PA=1015 2PHA=1016 2RA=101b 2RUMAI_PALAUNG_FA=108e 2SA=101e 2SGAW_KAREN_SHA=1061 2SHA=1050
2SHAN_A=1022 3BA=107f 3BHA=a9e4 3CA=1078 3CHA=a9e1 3DA=107b 3FA=107e 3GA=1077 3GHA=a9e0 3HA=1081
3JHA=a9e2 3KA=1075 3KHA=1076 3NA=107c 3NNA=a9e3 3NYA=107a 3PHA=107d 3THA=1080 3ZA=1079
2SHWE_PALAUNG_CHA=aa7e 4SHA=aa7f 2SSA=1051 2TA=1010 2TAI_LAING_BA=a9fd 4BHA=a9fe 4DA=a9fb 4DDA=a9ed
4DDHA=a9ee 4DHA=a9fc 4FA=a9e8 4GA=a9e9 4GHA=a9ea 4JA=a9eb 4JHA=a9ec 4LLA=a9fa 4NNA=a9ef 4NYA=a9e7
2THA=1011 2TTA=100b 2TTHA=100c 2U=1025 2UU=1026 2VOCALIC_L=1054 3LL=1055 3R=1052 3RR=1053 2WA=101d
2WESTERN_PWO_KAREN_PWA=1066 5THA=1065 2YA=101a 1LOGOGRAM_KHAMTI_HM=aa76 3OAY=aa74 3QN=aa75
1MODIFIER_LETTER_KHAMTI_REDUPLICATION=aa70 3SHAN_REDUPLICATION=a9e6 1SHAN_DIGIT_EIGHT=1098
3FIVE=1095 3FOUR=1094 3NINE=1099 3ONE=1091 3SEVEN=1097 3SIX=1096 3THREE=1093 3TWO=1092 3ZERO=1090
1SIGN_ANUSVARA=1036 2ASAT=103a 2DOT_BELOW=1037 2KHAMTI_TONE-1=109a 3TONE-3=109b
2LITTLE_SECTION=104a 2PAO_KAREN_TONE=aa7b 2RUMAI_PALAUNG_TONE-5=108f 2SECTION=104b
2SHAN_COUNCIL_EMPHATIC_TONE=108d 4TONE-2=108b 4TONE-3=108c 3SAW=a9e5 3TONE-2=1087 3TONE-3=1088
3TONE-5=1089 3TONE-6=108a 2TAI_LAING_TONE-2=aa7c 4TONE-5=aa7d 2VIRAMA=1039 2VISARGA=1038
2WESTERN_PWO_KAREN_TONE-1=1069 5TONE-2=106a 5TONE-3=106b 5TONE-4=106c 5TONE-5=106d
1SYMBOL_AFOREMENTIONED=104e 2AITON_EXCLAMATION=aa77 3ONE=aa78 3TWO=aa79 2COMPLETED=104d
2GENITIVE=104f 2LOCATIVE=104c 2SHAN_EXCLAMATION=109f 3ONE=109e 1TAI_LAING_DIGIT_EIGHT=a9f8
4FIVE=a9f5 4FOUR=a9f4 4NINE=a9f9 4ONE=a9f1 4SEVEN=a9f7 4SIX=a9f6 4THREE=a9f3 4TWO=a9f2 4ZERO=a9f0
1TONE_MARK_SGAW_KAREN_HATHI=1063 5KE_PHO=1064 1VOWEL_SIGN_AA=102c 3AI=1032 3AITON_A=109c 4AI=109d
3E=1031 4ABOVE=1035 3GEBA_KAREN_I=1071 3I=102d 3II=102e 3KAYAH_EE=1074 4OE=1072 4U=1073
3MON_II=1033 4O=1034 3SGAW_KAREN_EU=1062 3SHAN_AA=1083 4E=1084 5ABOVE=1085 4FINAL_Y=1086
3TALL_AA=102b 3U=102f 3UU=1030 3VOCALIC_L=1058 4LL=1059 4R=1056 4RR=1057 3WESTERN_PWO_KAREN_EU=1067
6UE=1068"

/-- Names that begin with `N`. -/
def namesN : String :=
  "0N-ARY_CIRCLED_DOT_OPERATOR=2a00 2PLUS_OPERATOR=2a01 2TIMES_OPERATOR=2a02 1COPRODUCT=2210
1INTERSECTION=22c2 1LOGICAL_AND=22c0 2OR=22c1 1PRODUCT=220f 1SQUARE_INTERSECTION_OPERATOR=2a05
2UNION_OPERATOR=2a06 1SUMMATION=2211 1TIMES_OPERATOR=2a09 1UNION=22c3 2OPERATOR_WITH_DOT=2a03
4PLUS=2a04 1WHITE_VERTICAL_BAR=2aff 0NABATAEAN_CRUCIFORM_NUMBER_FOUR=108ab 1LETTER_ALEPH=10881
2AYIN=10897 2BETH=10883 2DALETH=10885 2FINAL_ALEPH=10880 3BETH=10882 3HE=10886 3KAPH=1088e
3LAMEDH=10890 3MEM=10892 3NUN=10894 3SHIN=1089c 3YODH=1088c 2GIMEL=10884 2HE=10887 2HETH=1088a
2KAPH=1088f 2LAMEDH=10891 2MEM=10893 2NUN=10895 2PE=10898 2QOPH=1089a 2RESH=1089b 2SADHE=10899
2SAMEKH=10896 2SHIN=1089d 2TAW=1089e 2TETH=1088b 2WAW=10888 2YODH=1088d 2ZAYIN=10889
1NUMBER_FIVE=108ac 2FOUR=108aa 2ONE=108a7 3HUNDRED=108af 2TEN=108ad 2THREE=108a9 2TWENTY=108ae
2TWO=108a8 0NABLA=2207 0NAIL_POLISH=1f485 0NAIRA_SIGN=20a6 0NAK=15 0NAME_BADGE=1f4db 0NAND=22bc
0NANDINAGARI_HEADSTROKE=119e3 1LETTER_A=119a0 2AA=119a1 2AI=119ab 2AU=119ad 2BA=119c4 2BHA=119c5
2CA=119b3 2CHA=119b4 2DA=119bf 2DDA=119ba 2DDHA=119bb 2DHA=119c0 2E=119aa 2GA=119b0 2GHA=119b1
2HA=119ce 2I=119a2 2II=119a3 2JA=119b5 2JHA=119b6 2KA=119ae 2KHA=119af 2LA=119c9 2LLA=119cf
2MA=119c6 2NA=119c1 2NGA=119b2 2NNA=119bc 2NYA=119b7 2O=119ac 2PA=119c2 2PHA=119c3 2RA=119c8
2RRA=119d0 2SA=119cd 2SHA=119cb 2SSA=119cc 2TA=119bd 2THA=119be 2TTA=119b8 2TTHA=119b9 2U=119a4
2UU=119a5 2VA=119ca 2VOCALIC_R=119a6 3RR=119a7 2YA=119c7 1SIGN_ANUSVARA=119de 2AVAGRAHA=119e1
2SIDDHAM=119e2 2VIRAMA=119e0 2VISARGA=119df 1VOWEL_SIGN_AA=119d1 3AI=119db 3AU=119dd 3E=119da
3I=119d2 3II=119d3 3O=119dc 3PRISHTHAMATRA_E=119e4 3U=119d4 3UU=119d5 3VOCALIC_R=119d6 4RR=119d7
0NARROW_NO-BREAK_SPACE=202f 0NATIONAL_DIGIT_SHAPES=206e 1PARK=1f3de 0NAUSEATED_FACE=1f922
0NAZAR_AMULET=1f9ff 0NBH=83 0NBSP=a0 0NECKTIE=1f454
0NEGATED_DOUBLE_VERTICAL_BAR_DOUBLE_RIGHT_TURNSTILE=22af 0NEGATIVE_ACKNOWLEDGE=15
1CIRCLED_DIGIT_ZERO=24ff 2LATIN_CAPITAL_LETTER_A=1f150 5B=1f151 5C=1f152 5D=1f153 5E=1f154 5F=1f155
5G=1f156 5H=1f157 5I=1f158 5J=1f159 5K=1f15a 5L=1f15b 5M=1f15c 5N=1f15d 5O=1f15e 5P=1f15f 5Q=1f160
5R=1f161 5S=1f162 5T=1f163 5U=1f164 5V=1f165 5W=1f166 5X=1f167 5Y=1f168 5Z=1f169
2NUMBER_EIGHTEEN=24f2 3ELEVEN=24eb 3FIFTEEN=24ef 3FOURTEEN=24ee 3NINETEEN=24f3 3SEVENTEEN=24f1
3SIXTEEN=24f0 3THIRTEEN=24ed 3TWELVE=24ec 3TWENTY=24f4 2SQUARE=1f7d8 2TRIANGLE=1f7d6
1DIAGONAL_CROSS=1fbbd 2DIAMOND=1fbbf 2MIDDLE_RIGHT_TO_LOWER_CENTRE=1fbbe 1SQUARED_AB=1f18e
2CROSS_MARK=274e 2IC=1f18b 2LATIN_CAPITAL_LETTER_A=1f170 5B=1f171 5C=1f172 5D=1f173 5E=1f174
5F=1f175 5G=1f176 5H=1f177 5I=1f178 5J=1f179 5K=1f17a 5L=1f17b 5M=1f17c 5N=1f17d 5O=1f17e 5P=1f17f
5Q=1f180 5R=1f181 5S=1f182 5T=1f183 5U=1f184 5V=1f185 5W=1f186 5X=1f187 5Y=1f188 5Z=1f189 2PA=1f18c
2QUESTION_MARK=1fbc4 2SA=1f18d 2WC=1f18f 0NEITHER_A_SUBSET_OF_NOR_EQUAL_TO=2288
2SUPERSET_OF_NOR_EQUAL_TO=2289 1APPROXIMATELY_NOR_ACTUALLY_EQUAL_TO=2247
1GREATER-THAN_NOR_EQUAL_TO=2271 3EQUIVALENT_TO=2275 3LESS-THAN=2279 1LESS-THAN_NOR_EQUAL_TO=2270
3EQUIVALENT_TO=2274 3GREATER-THAN=2278 0NEL=85 0NEPTUNE=2646 1FORM_TWO=2bc9 0NERD_FACE=1f913
0NESSUS=2bdc 0NEST_WITH_EGGS=1faba 0NESTING_DOLLS=1fa86 0NEUTER=26b2 0NEUTRAL_CHESS_BISHOP=1fa03
3ROTATED_NINETY_DEGREES=1fa18 4TWO_HUNDRED_SEVENTY_DEGREES=1fa42 2EQUIHOPPER=1fa4a
3ROTATED_NINETY_DEGREES=1fa4d 2KING=1fa00 3ROTATED_NINETY_DEGREES=1fa15
4TWO_HUNDRED_SEVENTY_DEGREES=1fa3f 2KNIGHT=1fa04 3ROTATED_FORTY-FIVE_DEGREES=1fa08
4NINETY_DEGREES=1fa19 4ONE_HUNDRED_THIRTY-FIVE_DEGREES=1fa1d 4THREE_HUNDRED_FIFTEEN_DEGREES=1fa47
4TWO_HUNDRED_SEVENTY_DEGREES=1fa43 6TWENTY-FIVE_DEGREES=1fa32 2PAWN=1fa05
3ROTATED_NINETY_DEGREES=1fa1a 4TWO_HUNDRED_SEVENTY_DEGREES=1fa44 2QUEEN=1fa01
3ROTATED_NINETY_DEGREES=1fa16 4TWO_HUNDRED_SEVENTY_DEGREES=1fa40 2ROOK=1fa02
3ROTATED_NINETY_DEGREES=1fa17 4TWO_HUNDRED_SEVENTY_DEGREES=1fa41 2TURNED_BISHOP=1fa2d 3KING=1fa2a
3KNIGHT=1fa2e 3PAWN=1fa2f 3QUEEN=1fa2b 3ROOK=1fa2c 1FACE=1f610 0NEW_LINE=a 1MOON_SYMBOL=1f311
2WITH_FACE=1f31a 1SHEQEL_SIGN=20aa 1TAI_LUE_DIGIT_EIGHT=19d8 4FIVE=19d5 4FOUR=19d4 4NINE=19d9
4ONE=19d1 4SEVEN=19d7 4SIX=19d6 4THREE=19d3 4TWO=19d2 4ZERO=19d0 3LETTER_FINAL_B=19c7 5D=19c6
5K=19c5 5M=19c4 5N=19c3 5NG=19c2 5V=19c1 4HIGH_BA=19a2 5DA=19a1 5FA=199a 5HA=19a0 5KA=1982
5KVA=19a6 5LA=199c 5MA=1996 5NA=1990 5NGA=1984 5PA=1994 5PHA=1995 5QA=1980 5SA=1989 5SUA=19aa
5TA=198e 5THA=198f 5TSA=1988 5VA=199b 5XA=1983 5XVA=19a7 5YA=198a 4LOW_BA=19a5 5DA=19a4 5FA=199d
5HA=19a3 5KA=1985 5KVA=19a8 5LA=199f 5MA=1999 5NA=1993 5NGA=1987 5PA=1997 5PHA=1998 5QA=1981
5SA=198c 5SUA=19ab 5TA=1991 5THA=1992 5TSA=198b 5VA=199e 5XA=1986 5XVA=19a9 5YA=198d 3SIGN_LAE=19de
4LAEV=19df 3THAM_DIGIT_ONE=19da 3TONE_MARK-1=19c8 4MARK-2=19c9 3VOWEL_SIGN_AA=19b1 5AAY=19bb
5AE=19b6 5AY=19ba 5E=19b5 5II=19b2 5IY=19c0 5O=19b7 5OA=19b8 5OAY=19be 5OY=19bd 5U=19b3 5UE=19b9
5UEY=19bf 5UU=19b4 5UY=19bc 5VOWEL_SHORTENER=19b0 0NEWA_ABBREVIATION_SIGN=1144f 1COMMA=1144d
1DANDA=1144b 1DIGIT_EIGHT=11458 2FIVE=11455 2FOUR=11454 2NINE=11459 2ONE=11451 2SEVEN=11457
2SIX=11456 2THREE=11453 2TWO=11452 2ZERO=11450 1DOUBLE_COMMA=1145a 2DANDA=1144c 1GAP_FILLER=1144e
1INSERTION_SIGN=1145d 1LETTER_A=11400 2AA=11401 2AI=1140b 2AU=1140d 2BA=11427 2BHA=11428 2CA=11414
2CHA=11415 2DA=11421 2DDA=1141c 2DDHA=1141d 2DHA=11422 2E=1140a 2GA=11410 2GHA=11411 2HA=11434
2I=11402 2II=11403 2JA=11416 2JHA=11417 2KA=1140e 2KHA=1140f 2LA=1142e 2LHA=1142f 2MA=11429
2MHA=1142a 2NA=11423 2NGA=11412 2NGHA=11413 2NHA=11424 2NNA=1141e 2NYA=11418 2NYHA=11419 2O=1140c
2PA=11425 2PHA=11426 2RA=1142c 2RHA=1142d 2SA=11433 2SHA=11431 2SSA=11432 2TA=1141f 2THA=11420
2TTA=1141a 2TTHA=1141b 2U=11404 2UU=11405 2VEDIC_ANUSVARA=1145f 2VOCALIC_L=11408 3LL=11409 3R=11406
3RR=11407 2WA=11430 2YA=1142b 1OM=11449 1PLACEHOLDER_MARK=1145b 1SANDHI_MARK=1145e 1SIDDHI=1144a
1SIGN_ANUSVARA=11444 2AVAGRAHA=11447 2CANDRABINDU=11443 2FINAL_ANUSVARA=11448 2JIHVAMULIYA=11460
2NUKTA=11446 2UPADHMANIYA=11461 2VIRAMA=11442 2VISARGA=11445 1VOWEL_SIGN_AA=11435 3AI=1143f
3AU=11441 3E=1143e 3I=11436 3II=11437 3O=11440 3U=11438 3UU=11439 3VOCALIC_L=1143c 4LL=1143d
4R=1143a 4RR=1143b 0NEWLINE_LEFT=2b92 1RIGHT=2b93 0NEWSPAPER=1f4f0 0NEXT_LINE=85 1PAGE=2398
0NIGHT_WITH_STARS=1f303 0NINJA=1f977 0NKO_COMBINING_DOUBLE_DOT_ABOVE=7f3 2LONG_DESCENDING_TONE=7ee
3HIGH_TONE=7ef 3LOW_TONE=7f0 3RISING_TONE=7f1 2NASALIZATION_MARK=7f2 2SHORT_HIGH_TONE=7eb
3LOW_TONE=7ec 3RISING_TONE=7ed 1COMMA=7f8 1DANTAYALAN=7fd 1DIGIT_EIGHT=7c8 2FIVE=7c5 2FOUR=7c4
2NINE=7c9 2ONE=7c1 2SEVEN=7c7 2SIX=7c6 2THREE=7c3 2TWO=7c2 2ZERO=7c0 1DOROME_SIGN=7fe
1EXCLAMATION_MARK=7f9 1HIGH_TONE_APOSTROPHE=7f4 1LAJANYALAN=7fa 1LETTER_A=7ca 2BA=7d3 2CHA=7d7
2DA=7d8 2DAGBASINNA=7d1 2E=7cd 2EE=7cb 2FA=7dd 2GBA=7dc 2HA=7e4 2I=7cc 2JA=7d6 2JONA_CHA=7e9
3JA=7e8 3RA=7ea 2KA=7de 2LA=7df 2MA=7e1 2N=7d2 2NA=7e3 3WOLOSO=7e0 2NYA=7e2 3WOLOSO=7e7 2O=7d0
2OO=7cf 2PA=7d4 2RA=7d9 2RRA=7da 2SA=7db 2TA=7d5 2U=7ce 2WA=7e5 2YA=7e6 1LOW_TONE_APOSTROPHE=7f5
1SYMBOL_GBAKURUNEN=7f7 2OO_DENNEN=7f6 1TAMAN_SIGN=7ff 0NL=a 0NNBSP=202f 0NO_BICYCLES=1f6b3
1BREAK_HERE=83 1ENTRY=26d4 2SIGN=1f6ab 1MOBILE_PHONES=1f4f5 1ONE_UNDER_EIGHTEEN_SYMBOL=1f51e
1PEDESTRIANS=1f6b7 1PIRACY=1f572 1SMOKING_SYMBOL=1f6ad 0NO-BREAK_SPACE=a0
0NOMINAL_DIGIT_SHAPES=206f 0NOMISMA_SIGN=1018e 0NON-BREAKING_HYPHEN=2011
0NON-POTABLE_WATER_SYMBOL=1f6b1 0NONFORKING=2add 0NOR=22bd 0NORDIC_MARK_SIGN=20bb
0NORMAL_SUBGROUP_OF=22b2 3OR_EQUAL_TO=22b4 0NORTH_EAST_AND_SOUTH_WEST_ARROW=2922 2ARROW=2197
3AND_SOUTH_EAST_ARROW=2928 3CROSSING_NORTH_WEST_ARROW=2931 4SOUTH_EAST_ARROW=292e 3WITH_HOOK=2924
2BLACK_ARROW=2b08 2DOUBLE_ARROW=21d7 2POINTING_BUD=1f662 3LEAF=1f652 3VINE_LEAF=1f65a
2SANS-SERIF_ARROW=1f855 2TRIANGLE-HEADED_ARROW=2b67 4TO_BAR=2b77 2WHITE_ARROW=2b00
1INDIC_FRACTION_ONE_EIGHTH=a834 4HALF=a831 4QUARTER=a830 4SIXTEENTH=a833 3THREE_QUARTERS=a832
4SIXTEENTHS=a835 2PLACEHOLDER_MARK=a837 2QUANTITY_MARK=a839 2QUARTER_MARK=a836 2RUPEE_MARK=a838
1WEST_AND_SOUTH_EAST_ARROW=2921 2ARROW=2196 3AND_NORTH_EAST_ARROW=2927
3CROSSING_NORTH_EAST_ARROW=2932 3TO_CORNER=21f1 4LONG_BAR=21b8 3WITH_HOOK=2923 2BLACK_ARROW=2b09
2DOUBLE_ARROW=21d6 2POINTING_BUD=1f660 3LEAF=1f650 3VINE_LEAF=1f658 2SANS-SERIF_ARROW=1f854
2TRIANGLE-HEADED_ARROW=2b66 4TO_BAR=2b76 2WHITE_ARROW=2b01 0NORTHEAST-POINTING_AIRPLANE=1f6ea
0NOSE=1f443 0NOT_A_SUBSET_OF=2284 2SUPERSET_OF=2285 1ALMOST_EQUAL_TO=2249 1AN_ELEMENT_OF=2209
1ASYMPTOTICALLY_EQUAL_TO=2244 1CHECK_MARK=237b 1EQUAL_TO=2260 1EQUIVALENT_TO=226d
1GREATER-THAN=226f 1IDENTICAL_TO=2262 1LESS-THAN=226e 1NORMAL_SUBGROUP_OF=22ea 4OR_EQUAL_TO=22ec
1PARALLEL_TO=2226 1SIGN=ac 1SQUARE_IMAGE_OF_OR_EQUAL_TO=22e2 2ORIGINAL_OF_OR_EQUAL_TO=22e3
1TILDE=2241 1TRUE=22ad 0NOTCHED_LEFT_SEMICIRCLE_WITH_THREE_DOTS=1f543
1LOWER_RIGHT-SHADOWED_WHITE_RIGHTWARDS_ARROW=27af 1RIGHT_SEMICIRCLE_WITH_THREE_DOTS=1f544
1UPPER_RIGHT-SHADOWED_WHITE_RIGHTWARDS_ARROW=27b1 0NOTE=1f5c8 1PAD=1f5ca 1PAGE=1f5c9
0NOTEBOOK=1f4d3 1WITH_DECORATIVE_COVER=1f4d4 0NUL=0 0NULL=0 0NUMBER_EIGHTEEN_FULL_STOP=2499
1ELEVEN_FULL_STOP=2492 1FIFTEEN_FULL_STOP=2496 1FOURTEEN_FULL_STOP=2495 1NINETEEN_FULL_STOP=249a
1SEVENTEEN_FULL_STOP=2498 1SIGN=23 1SIXTEEN_FULL_STOP=2497 1TEN_FULL_STOP=2491
1THIRTEEN_FULL_STOP=2494 1TWELVE_FULL_STOP=2493 1TWENTY_FULL_STOP=249b 0NUMERO_SIGN=2116
0NUSHU_CHARACTER-1B170=1b170 1CHARACTER-1B171=1b171 1CHARACTER-1B172=1b172 1CHARACTER-1B173=1b173
1CHARACTER-1B174=1b174 1CHARACTER-1B175=1b175 1CHARACTER-1B176=1b176 1CHARACTER-1B177=1b177
1CHARACTER-1B178=1b178 1CHARACTER-1B179=1b179 1CHARACTER-1B17A=1b17a 1CHARACTER-1B17B=1b17b
1CHARACTER-1B17C=1b17c 1CHARACTER-1B17D=1b17d 1CHARACTER-1B17E=1b17e 1CHARACTER-1B17F=1b17f
1CHARACTER-1B180=1b180 1CHARACTER-1B181=1b181 1CHARACTER-1B182=1b182 1CHARACTER-1B183=1b183
1CHARACTER-1B184=1b184 1CHARACTER-1B185=1b185 1CHARACTER-1B186=1b186 1CHARACTER-1B187=1b187
1CHARACTER-1B188=1b188 1CHARACTER-1B189=1b189 1CHARACTER-1B18A=1b18a 1CHARACTER-1B18B=1b18b
1CHARACTER-1B18C=1b18c 1CHARACTER-1B18D=1b18d 1CHARACTER-1B18E=1b18e 1CHARACTER-1B18F=1b18f
1CHARACTER-1B190=1b190 1CHARACTER-1B191=1b191 1CHARACTER-1B192=1b192 1CHARACTER-1B193=1b193
1CHARACTER-1B194=1b194 1CHARACTER-1B195=1b195 1CHARACTER-1B196=1b196 1CHARACTER-1B197=1b197
1CHARACTER-1B198=1b198 1CHARACTER-1B199=1b199 1CHARACTER-1B19A=1b19a 1CHARACTER-1B19B=1b19b
1CHARACTER-1B19C=1b19c 1CHARACTER-1B19D=1b19d 1CHARACTER-1B19E=1b19e 1CHARACTER-1B19F=1b19f
1CHARACTER-1B1A0=1b1a0 1CHARACTER-1B1A1=1b1a1 1CHARACTER-1B1A2=1b1a2 1CHARACTER-1B1A3=1b1a3
1CHARACTER-1B1A4=1b1a4 1CHARACTER-1B1A5=1b1a5 1CHARACTER-1B1A6=1b1a6 1CHARACTER-1B1A7=1b1a7
1CHARACTER-1B1A8=1b1a8 1CHARACTER-1B1A9=1b1a9 1CHARACTER-1B1AA=1b1aa 1CHARACTER-1B1AB=1b1ab
1CHARACTER-1B1AC=1b1ac 1CHARACTER-1B1AD=1b1ad 1CHARACTER-1B1AE=1b1ae 1CHARACTER-1B1AF=1b1af
1CHARACTER-1B1B0=1b1b0 1CHARACTER-1B1B1=1b1b1 1CHARACTER-1B1B2=1b1b2 1CHARACTER-1B1B3=1b1b3
1CHARACTER-1B1B4=1b1b4 1CHARACTER-1B1B5=1b1b5 1CHARACTER-1B1B6=1b1b6 1CHARACTER-1B1B7=1b1b7
1CHARACTER-1B1B8=1b1b8 1CHARACTER-1B1B9=1b1b9 1CHARACTER-1B1BA=1b1ba 1CHARACTER-1B1BB=1b1bb
1CHARACTER-1B1BC=1b1bc 1CHARACTER-1B1BD=1b1bd 1CHARACTER-1B1BE=1b1be 1CHARACTER-1B1BF=1b1bf
1CHARACTER-1B1C0=1b1c0 1CHARACTER-1B1C1=1b1c1 1CHARACTER-1B1C2=1b1c2 1CHARACTER-1B1C3=1b1c3
1CHARACTER-1B1C4=1b1c4 1CHARACTER-1B1C5=1b1c5 1CHARACTER-1B1C6=1b1c6 1CHARACTER-1B1C7=1b1c7
1CHARACTER-1B1C8=1b1c8 1CHARACTER-1B1C9=1b1c9 1CHARACTER-1B1CA=1b1ca 1CHARACTER-1B1CB=1b1cb
1CHARACTER-1B1CC=1b1cc 1CHARACTER-1B1CD=1b1cd 1CHARACTER-1B1CE=1b1ce 1CHARACTER-1B1CF=1b1cf
1CHARACTER-1B1D0=1b1d0 1CHARACTER-1B1D1=1b1d1 1CHARACTER-1B1D2=1b1d2 1CHARACTER-1B1D3=1b1d3
1CHARACTER-1B1D4=1b1d4 1CHARACTER-1B1D5=1b1d5 1CHARACTER-1B1D6=1b1d6 1CHARACTER-1B1D7=1b1d7
1CHARACTER-1B1D8=1b1d8 1CHARACTER-1B1D9=1b1d9 1CHARACTER-1B1DA=1b1da 1CHARACTER-1B1DB=1b1db
1CHARACTER-1B1DC=1b1dc 1CHARACTER-1B1DD=1b1dd 1CHARACTER-1B1DE=1b1de 1CHARACTER-1B1DF=1b1df
1CHARACTER-1B1E0=1b1e0 1CHARACTER-1B1E1=1b1e1 1CHARACTER-1B1E2=1b1e2 1CHARACTER-1B1E3=1b1e3
1CHARACTER-1B1E4=1b1e4 1CHARACTER-1B1E5=1b1e5 1CHARACTER-1B1E6=1b1e6 1CHARACTER-1B1E7=1b1e7
1CHARACTER-1B1E8=1b1e8 1CHARACTER-1B1E9=1b1e9 1CHARACTER-1B1EA=1b1ea 1CHARACTER-1B1EB=1b1eb
1CHARACTER-1B1EC=1b1ec 1CHARACTER-1B1ED=1b1ed 1CHARACTER-1B1EE=1b1ee 1CHARACTER-1B1EF=1b1ef
1CHARACTER-1B1F0=1b1f0 1CHARACTER-1B1F1=1b1f1 1CHARACTER-1B1F2=1b1f2 1CHARACTER-1B1F3=1b1f3
1CHARACTER-1B1F4=1b1f4 1CHARACTER-1B1F5=1b1f5 1CHARACTER-1B1F6=1b1f6 1CHARACTER-1B1F7=1b1f7
1CHARACTER-1B1F8=1b1f8 1CHARACTER-1B1F9=1b1f9 1CHARACTER-1B1FA=1b1fa 1CHARACTER-1B1FB=1b1fb
1CHARACTER-1B1FC=1b1fc 1CHARACTER-1B1FD=1b1fd 1CHARACTER-1B1FE=1b1fe 1CHARACTER-1B1FF=1b1ff
1CHARACTER-1B200=1b200 1CHARACTER-1B201=1b201 1CHARACTER-1B202=1b202 1CHARACTER-1B203=1b203
1CHARACTER-1B204=1b204 1CHARACTER-1B205=1b205 1CHARACTER-1B206=1b206 1CHARACTER-1B207=1b207
1CHARACTER-1B208=1b208 1CHARACTER-1B209=1b209 1CHARACTER-1B20A=1b20a 1CHARACTER-1B20B=1b20b
1CHARACTER-1B20C=1b20c 1CHARACTER-1B20D=1b20d 1CHARACTER-1B20E=1b20e 1CHARACTER-1B20F=1b20f
1CHARACTER-1B210=1b210 1CHARACTER-1B211=1b211 1CHARACTER-1B212=1b212 1CHARACTER-1B213=1b213
1CHARACTER-1B214=1b214 1CHARACTER-1B215=1b215 1CHARACTER-1B216=1b216 1CHARACTER-1B217=1b217
1CHARACTER-1B218=1b218 1CHARACTER-1B219=1b219 1CHARACTER-1B21A=1b21a 1CHARACTER-1B21B=1b21b
1CHARACTER-1B21C=1b21c 1CHARACTER-1B21D=1b21d 1CHARACTER-1B21E=1b21e 1CHARACTER-1B21F=1b21f
1CHARACTER-1B220=1b220 1CHARACTER-1B221=1b221 1CHARACTER-1B222=1b222 1CHARACTER-1B223=1b223
1CHARACTER-1B224=1b224 1CHARACTER-1B225=1b225 1CHARACTER-1B226=1b226 1CHARACTER-1B227=1b227
1CHARACTER-1B228=1b228 1CHARACTER-1B229=1b229 1CHARACTER-1B22A=1b22a 1CHARACTER-1B22B=1b22b
1CHARACTER-1B22C=1b22c 1CHARACTER-1B22D=1b22d 1CHARACTER-1B22E=1b22e 1CHARACTER-1B22F=1b22f
1CHARACTER-1B230=1b230 1CHARACTER-1B231=1b231 1CHARACTER-1B232=1b232 1CHARACTER-1B233=1b233
1CHARACTER-1B234=1b234 1CHARACTER-1B235=1b235 1CHARACTER-1B236=1b236 1CHARACTER-1B237=1b237
1CHARACTER-1B238=1b238 1CHARACTER-1B239=1b239 1CHARACTER-1B23A=1b23a 1CHARACTER-1B23B=1b23b
1CHARACTER-1B23C=1b23c 1CHARACTER-1B23D=1b23d 1CHARACTER-1B23E=1b23e 1CHARACTER-1B23F=1b23f
1CHARACTER-1B240=1b240 1CHARACTER-1B241=1b241 1CHARACTER-1B242=1b242 1CHARACTER-1B243=1b243
1CHARACTER-1B244=1b244 1CHARACTER-1B245=1b245 1CHARACTER-1B246=1b246 1CHARACTER-1B247=1b247
1CHARACTER-1B248=1b248 1CHARACTER-1B249=1b249 1CHARACTER-1B24A=1b24a 1CHARACTER-1B24B=1b24b
1CHARACTER-1B24C=1b24c 1CHARACTER-1B24D=1b24d 1CHARACTER-1B24E=1b24e 1CHARACTER-1B24F=1b24f
1CHARACTER-1B250=1b250 1CHARACTER-1B251=1b251 1CHARACTER-1B252=1b252 1CHARACTER-1B253=1b253
1CHARACTER-1B254=1b254 1CHARACTER-1B255=1b255 1CHARACTER-1B256=1b256 1CHARACTER-1B257=1b257
1CHARACTER-1B258=1b258 1CHARACTER-1B259=1b259 1CHARACTER-1B25A=1b25a 1CHARACTER-1B25B=1b25b
1CHARACTER-1B25C=1b25c 1CHARACTER-1B25D=1b25d 1CHARACTER-1B25E=1b25e 1CHARACTER-1B25F=1b25f
1CHARACTER-1B260=1b260 1CHARACTER-1B261=1b261 1CHARACTER-1B262=1b262 1CHARACTER-1B263=1b263
1CHARACTER-1B264=1b264 1CHARACTER-1B265=1b265 1CHARACTER-1B266=1b266 1CHARACTER-1B267=1b267
1CHARACTER-1B268=1b268 1CHARACTER-1B269=1b269 1CHARACTER-1B26A=1b26a 1CHARACTER-1B26B=1b26b
1CHARACTER-1B26C=1b26c 1CHARACTER-1B26D=1b26d 1CHARACTER-1B26E=1b26e 1CHARACTER-1B26F=1b26f
1CHARACTER-1B270=1b270 1CHARACTER-1B271=1b271 1CHARACTER-1B272=1b272 1CHARACTER-1B273=1b273
1CHARACTER-1B274=1b274 1CHARACTER-1B275=1b275 1CHARACTER-1B276=1b276 1CHARACTER-1B277=1b277
1CHARACTER-1B278=1b278 1CHARACTER-1B279=1b279 1CHARACTER-1B27A=1b27a 1CHARACTER-1B27B=1b27b
1CHARACTER-1B27C=1b27c 1CHARACTER-1B27D=1b27d 1CHARACTER-1B27E=1b27e 1CHARACTER-1B27F=1b27f
1CHARACTER-1B280=1b280 1CHARACTER-1B281=1b281 1CHARACTER-1B282=1b282 1CHARACTER-1B283=1b283
1CHARACTER-1B284=1b284 1CHARACTER-1B285=1b285 1CHARACTER-1B286=1b286 1CHARACTER-1B287=1b287
1CHARACTER-1B288=1b288 1CHARACTER-1B289=1b289 1CHARACTER-1B28A=1b28a 1CHARACTER-1B28B=1b28b
1CHARACTER-1B28C=1b28c 1CHARACTER-1B28D=1b28d 1CHARACTER-1B28E=1b28e 1CHARACTER-1B28F=1b28f
1CHARACTER-1B290=1b290 1CHARACTER-1B291=1b291 1CHARACTER-1B292=1b292 1CHARACTER-1B293=1b293
1CHARACTER-1B294=1b294 1CHARACTER-1B295=1b295 1CHARACTER-1B296=1b296 1CHARACTER-1B297=1b297
1CHARACTER-1B298=1b298 1CHARACTER-1B299=1b299 1CHARACTER-1B29A=1b29a 1CHARACTER-1B29B=1b29b
1CHARACTER-1B29C=1b29c 1CHARACTER-1B29D=1b29d 1CHARACTER-1B29E=1b29e 1CHARACTER-1B29F=1b29f
1CHARACTER-1B2A0=1b2a0 1CHARACTER-1B2A1=1b2a1 1CHARACTER-1B2A2=1b2a2 1CHARACTER-1B2A3=1b2a3
1CHARACTER-1B2A4=1b2a4 1CHARACTER-1B2A5=1b2a5 1CHARACTER-1B2A6=1b2a6 1CHARACTER-1B2A7=1b2a7
1CHARACTER-1B2A8=1b2a8 1CHARACTER-1B2A9=1b2a9 1CHARACTER-1B2AA=1b2aa 1CHARACTER-1B2AB=1b2ab
1CHARACTER-1B2AC=1b2ac 1CHARACTER-1B2AD=1b2ad 1CHARACTER-1B2AE=1b2ae 1CHARACTER-1B2AF=1b2af
1CHARACTER-1B2B0=1b2b0 1CHARACTER-1B2B1=1b2b1 1CHARACTER-1B2B2=1b2b2 1CHARACTER-1B2B3=1b2b3
1CHARACTER-1B2B4=1b2b4 1CHARACTER-1B2B5=1b2b5 1CHARACTER-1B2B6=1b2b6 1CHARACTER-1B2B7=1b2b7
1CHARACTER-1B2B8=1b2b8 1CHARACTER-1B2B9=1b2b9 1CHARACTER-1B2BA=1b2ba 1CHARACTER-1B2BB=1b2bb
1CHARACTER-1B2BC=1b2bc 1CHARACTER-1B2BD=1b2bd 1CHARACTER-1B2BE=1b2be 1CHARACTER-1B2BF=1b2bf
1CHARACTER-1B2C0=1b2c0 1CHARACTER-1B2C1=1b2c1 1CHARACTER-1B2C2=1b2c2 1CHARACTER-1B2C3=1b2c3
1CHARACTER-1B2C4=1b2c4 1CHARACTER-1B2C5=1b2c5 1CHARACTER-1B2C6=1b2c6 1CHARACTER-1B2C7=1b2c7
1CHARACTER-1B2C8=1b2c8 1CHARACTER-1B2C9=1b2c9 1CHARACTER-1B2CA=1b2ca 1CHARACTER-1B2CB=1b2cb
1CHARACTER-1B2CC=1b2cc 1CHARACTER-1B2CD=1b2cd 1CHARACTER-1B2CE=1b2ce 1CHARACTER-1B2CF=1b2cf
1CHARACTER-1B2D0=1b2d0 1CHARACTER-1B2D1=1b2d1 1CHARACTER-1B2D2=1b2d2 1CHARACTER-1B2D3=1b2d3
1CHARACTER-1B2D4=1b2d4 1CHARACTER-1B2D5=1b2d5 1CHARACTER-1B2D6=1b2d6 1CHARACTER-1B2D7=1b2d7
1CHARACTER-1B2D8=1b2d8 1CHARACTER-1B2D9=1b2d9 1CHARACTER-1B2DA=1b2da 1CHARACTER-1B2DB=1b2db
1CHARACTER-1B2DC=1b2dc 1CHARACTER-1B2DD=1b2dd 1CHARACTER-1B2DE=1b2de 1CHARACTER-1B2DF=1b2df
1CHARACTER-1B2E0=1b2e0 1CHARACTER-1B2E1=1b2e1 1CHARACTER-1B2E2=1b2e2 1CHARACTER-1B2E3=1b2e3
1CHARACTER-1B2E4=1b2e4 1CHARACTER-1B2E5=1b2e5 1CHARACTER-1B2E6=1b2e6 1CHARACTER-1B2E7=1b2e7
1CHARACTER-1B2E8=1b2e8 1CHARACTER-1B2E9=1b2e9 1CHARACTER-1B2EA=1b2ea 1CHARACTER-1B2EB=1b2eb
1CHARACTER-1B2EC=1b2ec 1CHARACTER-1B2ED=1b2ed 1CHARACTER-1B2EE=1b2ee 1CHARACTER-1B2EF=1b2ef
1CHARACTER-1B2F0=1b2f0 1CHARACTER-1B2F1=1b2f1 1CHARACTER-1B2F2=1b2f2 1CHARACTER-1B2F3=1b2f3
1CHARACTER-1B2F4=1b2f4 1CHARACTER-1B2F5=1b2f5 1CHARACTER-1B2F6=1b2f6 1CHARACTER-1B2F7=1b2f7
1CHARACTER-1B2F8=1b2f8 1CHARACTER-1B2F9=1b2f9 1CHARACTER-1B2FA=1b2fa 1CHARACTER-1B2FB=1b2fb
1ITERATION_MARK=16fe1 0NUT_AND_BOLT=1f529 0NYIAKENG_PUACHUE_HMONG_CIRCLED_CA=1e14f
3DIGIT_EIGHT=1e148 4FIVE=1e145 4FOUR=1e144 4NINE=1e149 4ONE=1e141 4SEVEN=1e147 4SIX=1e146
4THREE=1e143 4TWO=1e142 4ZERO=1e140 3LETTER_A=1e124 4AA=1e125 4CA=1e108 4DA=1e10f 4DLA=1e11d
4E=1e12a 4EE=1e12b 4FA=1e115 4GA=1e122 4HA=1e104 4HAH=1e11f 4I=1e126 4KA=1e10e 4LA=1e109 4MA=1e100
4MLA=1e120 4NA=1e105 4NCA=1e10c 4NKA=1e107 4NPA=1e11c 4NPLA=1e11e 4NQA=1e119 4NRA=1e111 4NTA=1e102
4NTSA=1e10d 4NTXA=1e113 4NYA=1e110 4O=1e128 4OO=1e129 4PA=1e11a 4PLA=1e121 4QA=1e117 4RA=1e116
4RRA=1e123 4SA=1e10a 4TA=1e103 4TSA=1e101 4TXA=1e114 4U=1e127 4VA=1e112 4W=1e12c 4XA=1e106
4XYA=1e11b 4YA=1e118 4ZA=1e10b 3LOGOGRAM_NYAJ=1e14e 3SIGN_FOR_ANIMAL=1e13a 5INVERTEBRATE=1e13b
5LOCATION=1e139 5PERSON=1e137 5THING=1e138 4XW_XW=1e13c 3SYLLABLE_LENGTHENER=1e13d 3TONE-B=1e130
3TONE-D=1e136 3TONE-G=1e135 3TONE-J=1e132 3TONE-M=1e131 3TONE-S=1e134 3TONE-V=1e133"

/-- Names that begin with `O`. -/
def namesO : String :=
  "0OBJECT_REPLACEMENT_CHARACTER=fffc 0OBLIQUE_ANGLE_OPENING_DOWN=29a7 3UP=29a6 1HYPHEN=2e5d
0OBSERVER_EYE_SYMBOL=23ff 0OCR_AMOUNT_OF_CHECK=2447 1BELT_BUCKLE=2444 1BOW_TIE=2445
1BRANCH_BANK_IDENTIFICATION=2446 1CHAIR=2441 1CUSTOMER_ACCOUNT_NUMBER=2449 1DASH=2448
1DOUBLE_BACKSLASH=244a 1FORK=2442 1HOOK=2440 1INVERTED_FORK=2443 0OCTAGONAL_SIGN=1f6d1
0OCTOPUS=1f419 0ODEN=1f362 0OFFICE_BUILDING=1f3e2 0OGHAM_FEATHER_MARK=169b 1LETTER_AILM=1690
2BEITH=1681 2CEIRT=168a 2COLL=1689 2DAIR=1687 2EABHADH=1695 2EADHADH=1693 2EAMHANCHOLL=1699
2FEARN=1683 2GORT=168c 2IFIN=1698 2IODHADH=1694 2LUIS=1682 2MUIN=168b 2NGEADAL=168d 2NION=1685
2ONN=1691 2OR=1696 2PEITH=169a 2RUIS=168f 2SAIL=1684 2STRAIF=168e 2TINNE=1688 2UATH=1686
2UILLEANN=1697 2UR=1692 1REVERSED_FEATHER_MARK=169c 1SPACE_MARK=1680 0OGONEK=2db 0OHM_SIGN=2126
0OIL_DRUM=1f6e2 0OK_HAND_SIGN=1f44c 0OL_CHIKI_AHAD=1c7d 2DIGIT_EIGHT=1c58 3FIVE=1c55 3FOUR=1c54
3NINE=1c59 3ONE=1c51 3SEVEN=1c57 3SIX=1c56 3THREE=1c53 3TWO=1c52 3ZERO=1c50 2GAAHLAA_TTUDDAAG=1c79
2LETTER_AAJ=1c61 3AAK=1c60 3AAM=1c62 3AAW=1c63 3AG=1c5c 3AL=1c5e 3ANG=1c5d 3AT=1c5b 3EDD=1c70
3EN=1c71 3EP=1c6f 3ERR=1c72 3IH=1c66 3INY=1c67 3IR=1c68 3IS=1c65 3LA=1c5a 3LAA=1c5f 3LE=1c6e
3LI=1c64 3LO=1c73 3LU=1c69 3OB=1c75 3OH=1c77 3OTT=1c74 3OV=1c76 3UC=1c6a 3UD=1c6b 3UNN=1c6c
3UY=1c6d 2MU_TTUDDAG=1c78 2MU-GAAHLAA_TTUDDAAG=1c7a 2PHAARKAA=1c7c 2PUNCTUATION_DOUBLE_MUCAAD=1c7f
3MUCAAD=1c7e 2RELAA=1c7b 0OLD_CHINESE_HOOK_MARK=16fe2 2ITERATION_MARK=16fe3
1HUNGARIAN_CAPITAL_LETTER_A=10c80 4AA=10c81 4AK=10c94 4AMB=10c83 4AND=10c88 4CLOSE_E=10c8a 4E=10c89
4EB=10c82 4EC=10c84 4ECH=10ca9 4ECS=10c86 4ED=10c87 4EE=10c8b 4EF=10c8c 4EG=10c8d 4EGY=10c8e
4EH=10c8f 4EJ=10c92 4EK=10c93 4EL=10c96 4ELY=10c97 4EM=10c98 4EMP=10ca1 4EN=10c99 4ENC=10c85
4ENT=10ca7 4ENT-SHAPED_SIGN=10cb1 4ENY=10c9a 4EP=10ca0 4ER=10ca2 4ES=10ca4 4ESZ=10ca5 4ET=10ca6
4ETY=10ca8 4EV=10cae 4EZ=10caf 4EZS=10cb0 4I=10c90 4II=10c91 4NIKOLSBURG_OE=10c9d 5UE=10cac
4O=10c9b 4OEE=10c9f 4OO=10c9c 4RUDIMENTA_OE=10c9e 5UE=10cad 4SHORT_ER=10ca3 4U=10caa 4UNK=10c95
4US=10cb2 4UU=10cab 2NUMBER_FIFTY=10cfd 3FIVE=10cfb 3ONE=10cfa 4HUNDRED=10cfe 4THOUSAND=10cff
3TEN=10cfc 2SMALL_LETTER_A=10cc0 4AA=10cc1 4AK=10cd4 4AMB=10cc3 4AND=10cc8 4CLOSE_E=10cca 4E=10cc9
4EB=10cc2 4EC=10cc4 4ECH=10ce9 4ECS=10cc6 4ED=10cc7 4EE=10ccb 4EF=10ccc 4EG=10ccd 4EGY=10cce
4EH=10ccf 4EJ=10cd2 4EK=10cd3 4EL=10cd6 4ELY=10cd7 4EM=10cd8 4EMP=10ce1 4EN=10cd9 4ENC=10cc5
4ENT=10ce7 4ENT-SHAPED_SIGN=10cf1 4ENY=10cda 4EP=10ce0 4ER=10ce2 4ES=10ce4 4ESZ=10ce5 4ET=10ce6
4ETY=10ce8 4EV=10cee 4EZ=10cef 4EZS=10cf0 4I=10cd0 4II=10cd1 4NIKOLSBURG_OE=10cdd 5UE=10cec
4O=10cdb 4OEE=10cdf 4OO=10cdc 4RUDIMENTA_OE=10cde 5UE=10ced 4SHORT_ER=10ce3 4U=10cea 4UNK=10cd5
4US=10cf2 4UU=10ceb 1ITALIC_LETTER_A=10300 3BE=10301 3CHE=1031c 3DE=10303 3E=10304 3EF=1031a
3EKS=10317 3EL=1030b 3EM=1030c 3EN=1030d 3ER=10313 3ERS=1031b 3ES=10314 3ESH=1030e 3ESS=1031f
3HE=10307 3I=10309 3II=1031d 3KA=1030a 3KE=10302 3KHE=10319 3KU=10312 3NORTHERN_TSE=1032e 3O=1030f
3PE=10310 3PHE=10318 3SHE=10311 3SOUTHERN_TSE=1032f 3TE=10315 3THE=10308 3U=10316 3UU=1031e
3VE=10305 3YE=1032d 3ZE=10306 2NUMERAL_FIFTY=10323 3FIVE=10321 3ONE=10320 3TEN=10322 1KEY=1f5dd
1NORTH_ARABIAN_LETTER_AIN=10a92 4ALEF=10a91 4BEH=10a88 4DAD=10a93 4DAL=10a95 4ES-1=10a8a
4ES-2=10a86 4ES-3=10a8f 4FEH=10a90 4GEEM=10a94 4GHAIN=10a96 4HAH=10a82 4HEH=10a80 4KAF=10a8b
4KHAH=10a8d 4LAM=10a81 4MEEM=10a83 4NOON=10a8c 4QAF=10a84 4REH=10a87 4SAD=10a8e 4TAH=10a97
4TEH=10a89 4THAL=10a99 4THEH=10a9b 4WAW=10a85 4YEH=10a9a 4ZAH=10a9c 4ZAIN=10a98 3NUMBER_ONE=10a9d
4TEN=10a9e 4TWENTY=10a9f 1PERMIC_LETTER_AN=10350 3BUR=10351 3CHERY=10364 3DOI=10353 3DZHOI=10356
3DZITA=10358 3E=10354 3EF=1036b 3GAI=10352 3HA=1036c 3I=10359 3IA=10375 3IE=10372 3KOKE=1035a
3LEI=1035b 3MENOE=1035c 3NENOE=1035d 3O=10369 3OO=1036a 3PEEI=1035f 3REI=10360 3SHCHOOI=10366
3SHOOI=10365 3SII=10361 3TAI=10362 3TSIU=1036d 3U=10363 3VER=1036e 3VOOI=1035e 3YA=10374 3YAT=10371
3YER=1036f 3YERI=10370 3YERU=10368 3YRY=10367 3YU=10373 3ZATA=10357 3ZHOI=10355
1PERSIAN_NUMBER_HUNDRED=103d5 3ONE=103d1 3TEN=103d3 3TWENTY=103d4 3TWO=103d2 2SIGN_A=103a0
3AURAMAZDAA=103c8 3AURAMAZDAA-2=103c9 3AURAMAZDAAHA=103ca 3BA=103b2 3BAGA=103ce 3BUUMISH=103cf
3CA=103a8 3DA=103ad 3DAHYAAUSH=103cc 3DAHYAAUSH-2=103cd 3DI=103ae 3DU=103af 3FA=103b3 3GA=103a5
3GU=103a6 3HA=103c3 3I=103a1 3JA=103a9 3JI=103aa 3KA=103a3 3KU=103a4 3LA=103be 3MA=103b6 3MI=103b7
3MU=103b8 3NA=103b4 3NU=103b5 3PA=103b1 3RA=103bc 3RU=103bd 3SA=103bf 3SHA=103c1 3SSA=103c2
3TA=103ab 3THA=103b0 3TU=103ac 3U=103a2 3VA=103ba 3VI=103bb 3XA=103a7 3XSHAAYATHIYA=103cb 3YA=103b9
3ZA=103c0 2WORD_DIVIDER=103d0 1PERSONAL_COMPUTER=1f5b3 1SOGDIAN_FRACTION_ONE_HALF=10f26
2LETTER_ALEPH=10f00 3ALTERNATE_AYIN=10f13 3AYIN=10f12 3BETH=10f02 3FINAL_ALEPH=10f01 4BETH=10f03
4HE=10f06 4NUN=10f0f 5WITH_VERTICAL_TAIL=10f10 4SADHE=10f16 5WITH_VERTICAL_TAIL=10f17 4TAW=10f1b
5WITH_VERTICAL_TAIL=10f1c 3GIMEL=10f04 3HE=10f05 3HETH=10f09 3KAPH=10f0b 3LAMEDH=10f0c 3MEM=10f0d
3NUN=10f0e 3PE=10f14 3RESH-AYIN-DALETH=10f18 3SADHE=10f15 3SAMEKH=10f11 3SHIN=10f19 3TAW=10f1a
3WAW=10f07 3YODH=10f0a 3ZAYIN=10f08 2LIGATURE_AYIN-DALETH=10f27 2NUMBER_FIVE=10f21 3FOUR=10f20
3ONE=10f1d 4HUNDRED=10f25 3TEN=10f22 3THIRTY=10f24 3THREE=10f1f 3TWENTY=10f23 3TWO=10f1e
1SOUTH_ARABIAN_LETTER_ALEF=10a71 4AYN=10a72 4BETH=10a68 4DALETH=10a75 4DHADHE=10a73 4DHALETH=10a79
4FE=10a70 4GHAYN=10a76 4GIMEL=10a74 4HE=10a60 4HETH=10a62 4KAPH=10a6b 4KHETH=10a6d 4LAMEDH=10a61
4MEM=10a63 4NUN=10a6c 4QOPH=10a64 4RESH=10a67 4SADHE=10a6e 4SAMEKH=10a6f 4SAT=10a6a 4SHIN=10a66
4TAW=10a69 4TETH=10a77 4THAW=10a7b 4THETH=10a7c 4WAW=10a65 4YODH=10a7a 4ZAYN=10a78
3NUMBER_FIFTY=10a7e 4ONE=10a7d 3NUMERIC_INDICATOR=10a7f 1TURKIC_LETTER_ORKHON_A=10c00 4AB=10c09
4AD=10c11 4AEB=10c0b 4AED=10c13 4AEG=10c0f 4AEK=10c1a 4AEL=10c20 4AEN=10c24 4AER=10c3c 4AES=10c3e
4AET=10c45 4AEY=10c18 4AG=10c0d 4AL=10c1e 4AN=10c23 4AQ=10c34 4AR=10c3a 4AS=10c3d 4ASH=10c3f
4AT=10c43 4AY=10c16 4BASH=10c48 4EC=10c32 4ELT=10c21 4EM=10c22 4ENC=10c28 4ENG=10c2d 4ENT=10c26
4ENY=10c2a 4EP=10c2f 4ESH=10c41 4EZ=10c14 4I=10c03 4IC=10c31 4IQ=10c36 4O=10c06 4OE=10c07
4OEK=10c1c 4OP=10c30 4OQ=10c38 4OT=10c47 3YENISEI_A=10c01 4AB=10c0a 4AD=10c12 4AE=10c02 4AEB=10c0c
4AEG=10c10 4AEK=10c1b 4AEN=10c25 4AENG=10c2e 4AET=10c46 4AEY=10c19 4AG=10c0e 4AL=10c1f 4ANG=10c2c
4AQ=10c35 4AR=10c3b 4ASH=10c40 4AT=10c44 4AY=10c17 4E=10c05 4EC=10c33 4ENC=10c29 4ENT=10c27
4ENY=10c2b 4ESH=10c42 4EZ=10c15 4I=10c04 4IQ=10c37 4OE=10c08 4OEK=10c1d 4OQ=10c39
1UYGHUR_COMBINING_DOT_ABOVE=10f82 4BELOW=10f83 3TWO_DOTS_ABOVE=10f84 5BELOW=10f85
2LETTER_ALEPH=10f70 3BETH=10f71 3FINAL_HETH=10f75 3GIMEL-HETH=10f72 3KAPH=10f77 3LAMEDH=10f78
3LESH=10f81 3MEM=10f79 3NUN=10f7a 3PE=10f7c 3RESH=10f7e 3SADHE=10f7d 3SAMEKH=10f7b 3SHIN=10f7f
3TAW=10f80 3WAW=10f73 3YODH=10f76 3ZAYIN=10f74 2PUNCTUATION_BAR=10f86 3FOUR_DOTS=10f89
3TWO_BARS=10f87 4DOTS=10f88 0OLDER_ADULT=1f9d3 1MAN=1f474 1WOMAN=1f475 0OLIVE=1fad2
0OM_SYMBOL=1f549 0ON_WITH_EXCLAMATION_MARK_WITH_LEFT_RIGHT_ARROW_ABOVE=1f51b
0ONCOMING_AUTOMOBILE=1f698 1BUS=1f68d 1FIRE_ENGINE=1f6f1 1POLICE_CAR=1f694 1TAXI=1f696
0ONE_BUTTON_MOUSE=1f5af 1DOT_LEADER=2024 2OVER_TWO_DOTS_PUNCTUATION=2e2b 0ONE-PIECE_SWIMSUIT=1fa71
0ONION=1f9c5 0OPEN_BOOK=1f4d6 1BOX=2423 1CENTRE_ASTERISK=2732 2BLACK_STAR=272b 2CROSS=271b
2TEARDROP-SPOKED_ASTERISK=273c 1FILE_FOLDER=1f4c2 1FOLDER=1f5c1 1HANDS_SIGN=1f450 1LOCK=1f513
1MAILBOX_WITH_LOWERED_FLAG=1f4ed 3RAISED_FLAG=1f4ec 1SUBSET=27c3 1SUPERSET=27c4
0OPEN-CIRCUIT-OUTPUT_H-TYPE_SYMBOL=238f 1L-TYPE_SYMBOL=2390 0OPEN-OUTLINED_RIGHTWARDS_ARROW=27be
0OPERATING_SYSTEM_COMMAND=9d 0OPHIUCHUS=26ce 0OPPOSITION=260d 0OPTICAL_DISC=1f4bf 2ICON=1f5b8
0OPTION_KEY=2325 0OR_WITH_DOT_INSIDE=27c7 0ORANGE_BOOK=1f4d9 1HEART=1f9e1 0ORANGUTAN=1f9a7
0ORIGINAL_OF=22b6 0ORIYA_AI_LENGTH_MARK=b56 1AU_LENGTH_MARK=b57 1DIGIT_EIGHT=b6e 2FIVE=b6b
2FOUR=b6a 2NINE=b6f 2ONE=b67 2SEVEN=b6d 2SIX=b6c 2THREE=b69 2TWO=b68 2ZERO=b66
1FRACTION_ONE_EIGHTH=b76 3HALF=b73 3QUARTER=b72 3SIXTEENTH=b75 2THREE_QUARTERS=b74 3SIXTEENTHS=b77
1ISSHAR=b70 1LETTER_A=b05 2AA=b06 2AI=b10 2AU=b14 2BA=b2c 2BHA=b2d 2CA=b1a 2CHA=b1b 2DA=b26
2DDA=b21 2DDHA=b22 2DHA=b27 2E=b0f 2GA=b17 2GHA=b18 2HA=b39 2I=b07 2II=b08 2JA=b1c 2JHA=b1d 2KA=b15
2KHA=b16 2LA=b32 2LLA=b33 2MA=b2e 2NA=b28 2NGA=b19 2NNA=b23 2NYA=b1e 2O=b13 2PA=b2a 2PHA=b2b
2RA=b30 2RHA=b5d 2RRA=b5c 2SA=b38 2SHA=b36 2SSA=b37 2TA=b24 2THA=b25 2TTA=b1f 2TTHA=b20 2U=b09
2UU=b0a 2VA=b35 2VOCALIC_L=b0c 3LL=b61 3R=b0b 3RR=b60 2WA=b71 2YA=b2f 2YYA=b5f 1SIGN_ANUSVARA=b02
2AVAGRAHA=b3d 2CANDRABINDU=b01 2NUKTA=b3c 2OVERLINE=b55 2VIRAMA=b4d 2VISARGA=b03 1VOWEL_SIGN_AA=b3e
3AI=b48 3AU=b4c 3E=b47 3I=b3f 3II=b40 3O=b4b 3U=b41 3UU=b42 3VOCALIC_L=b62 4LL=b63 4R=b43 4RR=b44
0ORNATE_LEFT_PARENTHESIS=fd3e 1RIGHT_PARENTHESIS=fd3f 0ORTHODOX_CROSS=2626
0OSAGE_CAPITAL_LETTER_A=104b0 3AH=104b3 3AI=104b1 3AIN=104b2 3BRA=104b4 3CHA=104b5 3DHA=104cd
3E=104b7 3EHCHA=104b6 3EHKA=104bd 3EHPA=104c5 3EHTA=104c9 3EHTSA=104cb 3EIN=104b8 3GHA=104d1
3HA=104b9 3HYA=104ba 3I=104bb 3KA=104bc 3KHA=104d0 3KYA=104be 3LA=104bf 3MA=104c0 3NA=104c1
3O=104c2 3OIN=104c3 3PA=104c4 3SA=104c6 3SHA=104c7 3TA=104c8 3TSA=104ca 3TSHA=104cc 3U=104ce
3WA=104cf 3ZA=104d2 3ZHA=104d3 1SMALL_LETTER_A=104d8 3AH=104db 3AI=104d9 3AIN=104da 3BRA=104dc
3CHA=104dd 3DHA=104f5 3E=104df 3EHCHA=104de 3EHKA=104e5 3EHPA=104ed 3EHTA=104f1 3EHTSA=104f3
3EIN=104e0 3GHA=104f9 3HA=104e1 3HYA=104e2 3I=104e3 3KA=104e4 3KHA=104f8 3KYA=104e6 3LA=104e7
3MA=104e8 3NA=104e9 3O=104ea 3OIN=104eb 3PA=104ec 3SA=104ee 3SHA=104ef 3TA=104f0 3TSA=104f2
3TSHA=104f4 3U=104f6 3WA=104f7 3ZA=104fa 3ZHA=104fb 0OSC=9d 0OSMANYA_DIGIT_EIGHT=104a8 2FIVE=104a5
2FOUR=104a4 2NINE=104a9 2ONE=104a1 2SEVEN=104a7 2SIX=104a6 2THREE=104a3 2TWO=104a2 2ZERO=104a0
1LETTER_A=10496 2AA=1049b 2ALEF=10480 2BA=10481 2CAYN=1048b 2DEEL=10486 2DHA=1048a 2E=10497
2EE=1049c 2FA=1048d 2GA=1048c 2HA=10494 2I=10498 2JA=10483 2KAAF=1048f 2KHA=10485 2LAAN=10490
2MIIN=10491 2NUUN=10492 2O=10499 2OO=1049d 2QAAF=1048e 2RA=10487 2SA=10488 2SHIIN=10489 2TA=10482
2U=1049a 2WAW=10493 2XA=10484 2YA=10495 0OTTER=1f9a6 0OTTOMAN_SIYAQ_ALTERNATE_NUMBER_EIGHT=1ed35
4FIVE=1ed32 4FOUR=1ed31 5HUNDRED=1ed38 4NINE=1ed36 4SEVEN=1ed34 4SIX=1ed33 5HUNDRED=1ed39
4TEN=1ed37 5THOUSAND=1ed3b 4THREE=1ed30 4TWO=1ed2f 5THOUSAND=1ed3a 2FRACTION_ONE_HALF=1ed3c
4SIXTH=1ed3d 2MARRATAN=1ed2e 2NUMBER_EIGHT=1ed08 4HUNDRED=1ed1a 4THOUSAND=1ed23 3EIGHTY=1ed11
4THOUSAND=1ed2c 3FIFTY=1ed0e 4THOUSAND=1ed29 3FIVE=1ed05 4HUNDRED=1ed17 4THOUSAND=1ed20
3FORTY=1ed0d 4THOUSAND=1ed28 3FOUR=1ed04 4HUNDRED=1ed16 4THOUSAND=1ed1f 3NINE=1ed09 4HUNDRED=1ed1b
4THOUSAND=1ed24 3NINETY=1ed12 4THOUSAND=1ed2d 3ONE=1ed01 4HUNDRED=1ed13 4THOUSAND=1ed1c
3SEVEN=1ed07 4HUNDRED=1ed19 4THOUSAND=1ed22 3SEVENTY=1ed10 4THOUSAND=1ed2b 3SIX=1ed06
4HUNDRED=1ed18 4THOUSAND=1ed21 3SIXTY=1ed0f 4THOUSAND=1ed2a 3TEN=1ed0a 4THOUSAND=1ed25
3THIRTY=1ed0c 4THOUSAND=1ed27 3THREE=1ed03 4HUNDRED=1ed15 4THOUSAND=1ed1e 3TWENTY=1ed0b
4THOUSAND=1ed26 3TWO=1ed02 4HUNDRED=1ed14 4THOUSAND=1ed1d 0OUNCE_SIGN=2125 0OUTBOX_TRAY=1f4e4
0OUTLINED_BLACK_STAR=272d 1GREEK_CROSS=2719 1LATIN_CROSS=271f 1WHITE_STAR=269d
0OVERHEATED_FACE=1f975 0OVERLAP=1f5d7 0OVERLAPPING_BLACK_SQUARES=2bbc 1WHITE_AND_BLACK_SQUARES=2bbb
2SQUARES=2bba 0OVERLINE=203e 0OWL=1f989 0OX=1f402 0OYSTER=1f9aa"

/-- Names that begin with `P`. -/
def namesP : String :=
  "0PACKAGE=1f4e6 0PAD=80 0PADDING_CHARACTER=80 0PAGE=1f5cf 1FACING_UP=1f4c4
1WITH_CIRCLED_TEXT=1f5df 2CURL=1f4c3 0PAGER=1f4df 0PAGES=1f5d0 0PAGODA=1f6d4
0PAHAWH_HMONG_CLAN_SIGN_FAJ=16b8b 4HAM=16b89 4HAWJ=16b83 4KHAB=16b88 4KOO=16b82 4KWM=16b8e
4LAUJ=16b80 4LIS=16b7f 4MUAS=16b84 4PHAB=16b87 4THOJ=16b85 4TSAB=16b86 4TSHEEJ=16b7d 4TSWB=16b8d
4VAJ=16b8a 4VWJ=16b8f 4XYOOJ=16b81 4YAJ=16b8c 4YEEG=16b7e 2CONSONANT_AU=16b2d 3CAU=16b2f
3CHAU=16b27 3HAU=16b1f 3HLAU=16b25 3HNAU=16b29 3LAU=16b1e 3MAU=16b26 3NAU=16b2c 3NCHAU=16b28
3NKAU=16b22 3NLAU=16b20 3NTHAU=16b2b 3NTSAU=16b1d 3PLHAU=16b2a 3QHAU=16b23 3RAU=16b21 3VAU=16b1c
3XAU=16b2e 3YAU=16b24 2DIGIT_EIGHT=16b58 3FIVE=16b55 3FOUR=16b54 3NINE=16b59 3ONE=16b51
3SEVEN=16b57 3SIX=16b56 3THREE=16b53 3TWO=16b52 3ZERO=16b50 2MARK_CIM_HOM=16b35 4KES=16b32
4KHAV=16b33 4SO=16b31 4SUAM=16b34 4TAUM=16b36 4TUB=16b30 2NUMBER_HUNDRED_MILLIONS=16b5f
3HUNDREDS=16b5c 3MILLIONS=16b5e 3TEN_BILLIONS=16b60 4THOUSANDS=16b5d 3TENS=16b5b 3TRILLIONS=16b61
2SIGN_AV=16b6c 3CIM_CHEEM=16b39 4CUAM_TSHOOJ=16b73 4HAIS_LUS_NTOG_NTOG=16b72 4NRES_TOS=16b77
4PUB_DAWB=16b76 4TSOV_ROG=16b45 4TXWV=16b74 5CHWV=16b75 3HLI=16b65 3HNUB=16b68 3IB_YAM=16b43
3LOS=16b70 3MEEJ_SUAB=16b41 4TSEEB=16b6e 3MUS=16b71 3NQIG=16b69 3NTUJ=16b6b 3TAU=16b6f
3THIRD-STAGE_HLI=16b66 3TXHEEJ_CEEV=16b6d 3VOS_FEEM=16b3b 4LUB=16b63 4NRUA=16b42 4SEEV=16b40
4THIAB=16b3a 4THOM=16b37 4TSHAB_CEEB=16b38 3XAUS=16b44 3XIAB=16b6a 3XYEEM_FAIB=16b3f 4NTXIV=16b3c
4RHO=16b3d 4TOV=16b3e 3XYOO=16b64 3ZWJ_THAJ=16b67 2VOWEL_KAAB=16b1a 3KAAV=16b1b 3KAB=16b16
3KAIB=16b0a 3KAIV=16b0b 3KAUB=16b04 3KAUV=16b05 3KAV=16b17 3KAWB=16b0e 3KAWV=16b0f 3KEB=16b08
3KEEB=16b00 3KEEV=16b01 3KEV=16b09 3KIAB=16b14 3KIAV=16b15 3KIB=16b02 3KIV=16b03 3KOB=16b12
3KOOB=16b0c 3KOOV=16b0d 3KOV=16b13 3KUAB=16b10 3KUAV=16b11 3KUB=16b06 3KUV=16b07 3KWB=16b18
3KWV=16b19 0PALLAS=26b4 0PALM_BRANCH=2e19 1DOWN_HAND=1faf3 1TREE=1f334 1UP_HAND=1faf4
0PALMS_UP_TOGETHER=1f932 0PALMYRENE_LEFT-POINTING_FLEURON=10877 1LETTER_ALEPH=10860 2AYIN=10870
2BETH=10861 2DALETH=10863 2FINAL_NUN=1086d 2GIMEL=10862 2HE=10864 2HETH=10867 2KAPH=1086a
2LAMEDH=1086b 2MEM=1086c 2NUN=1086e 2PE=10871 2QOPH=10873 2RESH=10874 2SADHE=10872 2SAMEKH=1086f
2SHIN=10875 2TAW=10876 2TETH=10868 2WAW=10865 2YODH=10869 2ZAYIN=10866 1NUMBER_FIVE=1087d
2FOUR=1087c 2ONE=10879 2TEN=1087e 2THREE=1087b 2TWENTY=1087f 2TWO=1087a
1RIGHT-POINTING_FLEURON=10878 0PANCAKES=1f95e 0PANDA_FACE=1f43c 0PAPERCLIP=1f4ce 0PARACHUTE=1fa82
0PARAGRAPH_SEPARATOR=2029 0PARAGRAPHOS=2e0f 0PARAGRAPHUS_MARK=2e4d 0PARALLEL_TO=2225
1WITH_HORIZONTAL_STROKE=2af2 2TILDE_OPERATOR=2af3 0PARENTHESIZED_DIGIT_EIGHT=247b 2FIVE=2478
2FOUR=2477 2NINE=247c 2ONE=2474 2SEVEN=247a 2SIX=2479 2THREE=2476 2TWO=2475 1HANGUL_CHIEUCH=3209
3A=3217 2CIEUC=3208 3A=3216 3U=321c 2HIEUH=320d 3A=321b 2IEUNG=3207 3A=3215 2KHIEUKH=320a 3A=3218
2KIYEOK=3200 3A=320e 2MIEUM=3204 3A=3212 2NIEUN=3201 3A=320f 2PHIEUPH=320c 3A=321a 2PIEUP=3205
3A=3213 2RIEUL=3203 3A=3211 2SIOS=3206 3A=3214 2THIEUTH=320b 3A=3219 2TIKEUT=3202 3A=3210
1IDEOGRAPH_ALLIANCE=323f 2CALL=323a 2CONGRATULATION=3237 2EARTH=322f 2EIGHT=3227 2ENTERPRISE=323d
2FESTIVAL=3240 2FINANCIAL=3236 2FIRE=322b 2FIVE=3224 2FOUR=3223 2HAVE=3232 2LABOR=3238 2METAL=322e
2MOON=322a 2NAME=3234 2NINE=3228 2ONE=3220 2REACH=3243 2REPRESENT=3239 2RESOURCE=323e 2REST=3241
2SELF=3242 2SEVEN=3226 2SIX=3225 2SOCIETY=3233 2SPECIAL=3235 2STOCK=3231 2STUDY=323b 2SUN=3230
2SUPERVISE=323c 2TEN=3229 2THREE=3222 2TWO=3221 2WATER=322c 2WOOD=322d 1KOREAN_CHARACTER_O_HU=321e
3OJEON=321d 1LATIN_CAPITAL_LETTER_A=1f110 4B=1f111 4C=1f112 4D=1f113 4E=1f114 4F=1f115 4G=1f116
4H=1f117 4I=1f118 4J=1f119 4K=1f11a 4L=1f11b 4M=1f11c 4N=1f11d 4O=1f11e 4P=1f11f 4Q=1f120 4R=1f121
4S=1f122 4T=1f123 4U=1f124 4V=1f125 4W=1f126 4X=1f127 4Y=1f128 4Z=1f129 2SMALL_LETTER_A=249c
4B=249d 4C=249e 4D=249f 4E=24a0 4F=24a1 4G=24a2 4H=24a3 4I=24a4 4J=24a5 4K=24a6 4L=24a7 4M=24a8
4N=24a9 4O=24aa 4P=24ab 4Q=24ac 4R=24ad 4S=24ae 4T=24af 4U=24b0 4V=24b1 4W=24b2 4X=24b3 4Y=24b4
4Z=24b5 1NUMBER_EIGHTEEN=2485 2ELEVEN=247e 2FIFTEEN=2482 2FOURTEEN=2481 2NINETEEN=2486
2SEVENTEEN=2484 2SIXTEEN=2483 2TEN=247d 2THIRTEEN=2480 2TWELVE=247f 2TWENTY=2487 0PARROT=1f99c
0PART_ALTERNATION_MARK=303d 0PARTIAL_DIFFERENTIAL=2202 1LINE_BACKWARD=8c 2DOWN=8b 2FORWARD=8b
2UP=8c 0PARTIALLY-RECYCLED_PAPER_SYMBOL=267d 0PARTNERSHIP_SIGN=3250 0PARTY_POPPER=1f389
0PASSED_SYMBOL=2bfd 0PASSENGER_SHIP=1f6f3 0PASSIVE-PULL-DOWN-OUTPUT_SYMBOL=2391
0PASSIVE-PULL-UP-OUTPUT_SYMBOL=2392 0PASSPORT_CONTROL=1f6c2 0PAU_CIN_HAU_GLOTTAL_STOP=11af5
5FINAL=11af8 5VARIANT=11af0 3LETTER_A=11ad5 4BA=11acc 4CA=11acd 4CHA=11ad4 4DA=11ac4 4E=11ad6
4FA=11ad3 4FINAL_K=11add 5L=11ae1 5M=11adf 5N=11ae0 5NG=11ae3 5P=11adc 5T=11ade 5W=11ae2 5Y=11ae4
4GA=11ac9 4HA=11ac8 4I=11ad7 4IA=11adb 4KA=11ac1 4KHA=11aca 4LA=11ac2 4MA=11ac3 4NA=11ad0
4NGA=11ac7 4O=11ad8 4PA=11ac0 4PHA=11ad1 4RA=11ad2 4SA=11acb 4TA=11ace 4THA=11acf 4U=11ad9
4UA=11ada 4VA=11ac6 4ZA=11ac5 3LOW-FALLING_TONE=11af4 5FINAL=11af7 5LONG=11af3 6FINAL=11af6
3MID-LEVEL_TONE=11aef 5FINAL=11af2 5LONG_FINAL=11af1 3RISING_TONE=11ae6 5FINAL=11ae9 5LONG=11ae5
6FINAL=11ae8 3SANDHI_GLOTTAL_STOP=11ae7 6FINAL=11aea 4TONE=11aec 5FINAL=11aee 5LONG=11aeb
6FINAL=11aed 0PAW_PRINTS=1f43e 0PDF=202c 0PDI=2069 0PEACE_SYMBOL=262e 0PEACH=1f351 0PEACOCK=1f99a
0PEANUTS=1f95c 0PEAR=1f350 0PEDESTRIAN=1f6b6 0PEN_OVER_STAMPED_ENVELOPE=1f586 0PENCIL=270f
0PENGUIN=1f427 0PENSIVE_FACE=1f614 0PENTAGRAM=26e4 0PEOPLE_HUGGING=1fac2 0PER_MILLE_SIGN=2030
1SIGN=214c 1TEN_THOUSAND_SIGN=2031 0PERCENT_SIGN=25 0PERFORMING_ARTS=1f3ad
0PERMANENT_PAPER_SIGN=267e 0PERPENDICULAR=27c2 1WITH_S=2ae1 0PERSEVERING_FACE=1f623
0PERSON_BOWING_DEEPLY=1f647 1CLIMBING=1f9d7 1DOING_CARTWHEEL=1f938 1FROWNING=1f64d
1IN_LOTUS_POSITION=1f9d8 2STEAMY_ROOM=1f9d6 1RAISING_BOTH_HANDS_IN_CELEBRATION=1f64c
1WITH_BALL=26f9 2BLOND_HAIR=1f471 2CROWN=1fac5 2FOLDED_HANDS=1f64f 2HEADSCARF=1f9d5
2POUTING_FACE=1f64e 0PERSONAL_COMPUTER=1f4bb 0PERSPECTIVE=2306 0PESETA_SIGN=20a7 0PESO_SIGN=20b1
0PETRI_DISH=1f9eb 0PHAGS-PA_DOUBLE_HEAD_MARK=a875 1LETTER_A=a85d 2ALTERNATE_YA=a86d
2ASPIRATED_FA=a870 2BA=a84e 2CA=a844 2CANDRABINDU=a873 2CHA=a845 2DA=a84a 2DDA=a86b 2DZA=a852
2E=a860 2EE=a866 2FA=a864 2GA=a842 2GGA=a865 2HA=a85c 2I=a85e 2JA=a846 2KA=a840 2KHA=a841 2LA=a859
2MA=a84f 2NA=a84b 2NGA=a843 2NNA=a86c 2NYA=a847 2O=a861 2PA=a84c 2PHA=a84d 2QA=a862 2RA=a858
2SA=a85b 2SHA=a85a 2SMALL_A=a856 2TA=a848 2THA=a849 2TSA=a850 2TSHA=a851 2TTA=a869 2TTHA=a86a
2U=a85f 2VOICED_HA=a86f 2VOICELESS_SHA=a86e 2WA=a853 2XA=a863 2YA=a857 2ZA=a855 2ZHA=a854
1MARK_DOUBLE_SHAD=a877 2SHAD=a876 1SINGLE_HEAD_MARK=a874 1SUBJOINED_LETTER_RA=a871 3WA=a867
3YA=a868 1SUPERFIXED_LETTER_RA=a872 0PHAISTOS_DISC_SIGN_ARROW=101d9 3BEE=101f1 3BEEHIVE=101e7
3BOOMERANG=101e1 3BOW=101da 3BULLS_LEG=101eb 3CAPTIVE=101d3 3CARPENTRY_PLANE=101e2 3CAT=101ec
3CHILD=101d4 3CLUB=101dc 3COLUMN=101e6 3COMB=101e4 3COMBINING_OBLIQUE_STROKE=101fd 3DOLIUM=101e3
3DOVE=101ef 3EAGLE=101ee 3FLUTE=101f8 3GAUNTLET=101d7 3GRATER=101f9 3HELMET=101d6 3HIDE=101ea
3HORN=101e9 3LID=101e0 3LILY=101f6 3MANACLES=101dd 3MATTOCK=101de 3OX_BACK=101f7 3PAPYRUS=101f4
3PEDESTRIAN=101d0 3PLANE_TREE=101f2 3PLUMED_HEAD=101d1 3RAM=101ed 3ROSETTE=101f5 3SAW=101df
3SHIELD=101db 3SHIP=101e8 3SLING=101e5 3SMALL_AXE=101fb 3STRAINER=101fa 3TATTOOED_HEAD=101d2
3TIARA=101d8 3TUNNY=101f0 3VINE=101f3 3WAVY_BAND=101fc 3WOMAN=101d5
0PHILIPPINE_DOUBLE_PUNCTUATION=1736 1SINGLE_PUNCTUATION=1735 0PHOENICIAN_LETTER_AIN=1090f
2ALF=10900 2BET=10901 2DELT=10903 2GAML=10902 2HE=10904 2HET=10907 2KAF=1090a 2LAMD=1090b
2MEM=1090c 2NUN=1090d 2PE=10910 2QOF=10912 2ROSH=10913 2SADE=10911 2SEMK=1090e 2SHIN=10914
2TAU=10915 2TET=10908 2WAU=10905 2YOD=10909 2ZAI=10906 1NUMBER_ONE=10916 3HUNDRED=10919 2TEN=10917
2THREE=1091b 2TWENTY=10918 2TWO=1091a 1WORD_SEPARATOR=1091f 0PHOLUS=2bdb 0PICK=26cf
0PICKUP_TRUCK=1f6fb 0PIE=1f967 0PIG=1f416 1FACE=1f437 1NOSE=1f43d 0PILCROW_SIGN=b6
0PILE_OF_POO=1f4a9 0PILL=1f48a 0PINATA=1fa85 0PINCHED_FINGERS=1f90c 0PINCHING_HAND=1f90f
0PINE_DECORATION=1f38d 0PINEAPPLE=1f34d 0PINWHEEL_STAR=272f 0PISCES=2653 0PISTOL=1f52b
0PITCHFORK=22d4 1WITH_TEE_TOP=2ada 0PLACARD=1faa7 0PLACE_OF_INTEREST_SIGN=2318 2WORSHIP=1f6d0
0PLANCK_CONSTANT=210e 2OVER_TWO_PI=210f 0PLAYGROUND_SLIDE=1f6dd 0PLAYING_CARD_ACE_OF_CLUBS=1f0d1
4DIAMONDS=1f0c1 4HEARTS=1f0b1 4SPADES=1f0a1 2BACK=1f0a0 2BLACK_JOKER=1f0cf 2EIGHT_OF_CLUBS=1f0d8
4DIAMONDS=1f0c8 4HEARTS=1f0b8 4SPADES=1f0a8 2FIVE_OF_CLUBS=1f0d5 4DIAMONDS=1f0c5 4HEARTS=1f0b5
4SPADES=1f0a5 2FOOL=1f0e0 2FOUR_OF_CLUBS=1f0d4 4DIAMONDS=1f0c4 4HEARTS=1f0b4 4SPADES=1f0a4
2JACK_OF_CLUBS=1f0db 4DIAMONDS=1f0cb 4HEARTS=1f0bb 4SPADES=1f0ab 2KING_OF_CLUBS=1f0de
4DIAMONDS=1f0ce 4HEARTS=1f0be 4SPADES=1f0ae 2KNIGHT_OF_CLUBS=1f0dc 4DIAMONDS=1f0cc 4HEARTS=1f0bc
4SPADES=1f0ac 2NINE_OF_CLUBS=1f0d9 4DIAMONDS=1f0c9 4HEARTS=1f0b9 4SPADES=1f0a9
2QUEEN_OF_CLUBS=1f0dd 4DIAMONDS=1f0cd 4HEARTS=1f0bd 4SPADES=1f0ad 2RED_JOKER=1f0bf
2SEVEN_OF_CLUBS=1f0d7 4DIAMONDS=1f0c7 4HEARTS=1f0b7 4SPADES=1f0a7 2SIX_OF_CLUBS=1f0d6
4DIAMONDS=1f0c6 4HEARTS=1f0b6 4SPADES=1f0a6 2TEN_OF_CLUBS=1f0da 4DIAMONDS=1f0ca 4HEARTS=1f0ba
4SPADES=1f0aa 2THREE_OF_CLUBS=1f0d3 4DIAMONDS=1f0c3 4HEARTS=1f0b3 4SPADES=1f0a3 2TRUMP-1=1f0e1
2TRUMP-10=1f0ea 2TRUMP-11=1f0eb 2TRUMP-12=1f0ec 2TRUMP-13=1f0ed 2TRUMP-14=1f0ee 2TRUMP-15=1f0ef
2TRUMP-16=1f0f0 2TRUMP-17=1f0f1 2TRUMP-18=1f0f2 2TRUMP-19=1f0f3 2TRUMP-2=1f0e2 2TRUMP-20=1f0f4
2TRUMP-21=1f0f5 2TRUMP-3=1f0e3 2TRUMP-4=1f0e4 2TRUMP-5=1f0e5 2TRUMP-6=1f0e6 2TRUMP-7=1f0e7
2TRUMP-8=1f0e8 2TRUMP-9=1f0e9 2TWO_OF_CLUBS=1f0d2 4DIAMONDS=1f0c2 4HEARTS=1f0b2 4SPADES=1f0a2
2WHITE_JOKER=1f0df 0PLD=8b 0PLU=8c 0PLUNGER=1faa0 0PLUS_SIGN=2b 2ABOVE_EQUALS_SIGN=2a72
2IN_LEFT_HALF_CIRCLE=2a2d 3RIGHT_HALF_CIRCLE=2a2e 3TRIANGLE=2a39 2WITH_BLACK_TRIANGLE=2a28
3CIRCUMFLEX_ACCENT_ABOVE=2a23 3DOT_BELOW=2a25 3SMALL_CIRCLE_ABOVE=2a22 3SUBSCRIPT_TWO=2a27
3TILDE_ABOVE=2a24 4BELOW=2a26 0PLUS-MINUS_SIGN=b1 0PLUTO=2647 1FORM_FIVE=2bd6 2FOUR=2bd5
2THREE=2bd4 2TWO=2bd3 0PM=9e 0POCKET_CALCULATOR=1f5a9 0POLICE_CAR=1f693 1CARS_REVOLVING_LIGHT=1f6a8
1OFFICER=1f46e 0POODLE=1f429 0POP_DIRECTIONAL_FORMATTING=202c 2ISOLATE=2069 0POPCORN=1f37f
0PORTABLE_STEREO=1f4fe 0POSEIDON=2be7 0POSITION_INDICATOR=2316 0POSTAL_HORN=1f4ef 1MARK=3012
2FACE=3020 0POSTBOX=1f4ee 0POT_OF_FOOD=1f372 0POTABLE_WATER_SYMBOL=1f6b0 0POTATO=1f954
0POTTED_PLANT=1fab4 0POUCH=1f45d 0POULTRY_LEG=1f357 0POUND_SIGN=a3 0POURING_LIQUID=1fad7
0POUTING_CAT_FACE=1f63e 1FACE=1f621 0POWER_ON_SYMBOL=23fd 1ON-OFF_SYMBOL=23fc 1SLEEP_SYMBOL=23fe
1SYMBOL=23fb 0PRAYER_BEADS=1f4ff 0PRECEDES=227a 1ABOVE_ALMOST_EQUAL_TO=2ab7 2EQUALS_SIGN=2ab3
2NOT_ALMOST_EQUAL_TO=2ab9 3EQUAL_TO=2ab5 2SINGLE-LINE_EQUALS_SIGN=2aaf 3NOT_EQUAL_TO=2ab1
1BUT_NOT_EQUIVALENT_TO=22e8 1OR_EQUAL_TO=227c 2EQUIVALENT_TO=227e 1UNDER_RELATION=22b0
0PREGNANT_MAN=1fac3 1PERSON=1fac4 1WOMAN=1f930 0PRESCRIPTION_TAKE=211e
0PRESENTATION_FORM_FOR_VERTICAL_COLON=fe13 4COMMA=fe10 4EM_DASH=fe31 4EN_DASH=fe32
4EXCLAMATION_MARK=fe15 4HORIZONTAL_ELLIPSIS=fe19 4IDEOGRAPHIC_COMMA=fe11 5FULL_STOP=fe12
4LEFT_ANGLE_BRACKET=fe3f 5BLACK_LENTICULAR_BRACKET=fe3b 5CORNER_BRACKET=fe41 5CURLY_BRACKET=fe37
5DOUBLE_ANGLE_BRACKET=fe3d 5PARENTHESIS=fe35 5SQUARE_BRACKET=fe47 5TORTOISE_SHELL_BRACKET=fe39
5WHITE_CORNER_BRACKET=fe43 6LENTICULAR_BRACKET=fe17 4LOW_LINE=fe33 4QUESTION_MARK=fe16
4RIGHT_ANGLE_BRACKET=fe40 5BLACK_LENTICULAR_BRACKET=fe3c 5CORNER_BRACKET=fe42 5CURLY_BRACKET=fe38
5DOUBLE_ANGLE_BRACKET=fe3e 5PARENTHESIS=fe36 5SQUARE_BRACKET=fe48 5TORTOISE_SHELL_BRACKET=fe3a
5WHITE_CORNER_BRACKET=fe44 6LENTICULAR_BRACKET=fe18 7BRAKCET=fe18 4SEMICOLON=fe14
4TWO_DOT_LEADER=fe30 4WAVY_LOW_LINE=fe34 0PRETZEL=1f968 0PREVIOUS_PAGE=2397 0PRIME=2032
0PRINCE=1f934 0PRINCESS=1f478 0PRINT_SCREEN_SYMBOL=2399 0PRINTER=1f5a8 1ICON=1f5b6
0PRIVACY_MESSAGE=9e 0PRIVATE_USE_ONE=91 2TWO=92 1USE-1=91 1USE-2=92 0PROBING_CANE=1f9af
0PROHIBITED_SIGN=1f6c7 0PROJECTIVE=2305 0PROPERTY_LINE=214a 0PROPORTION=2237 0PROPORTIONAL_TO=221d
0PROSERPINA=2bd8 0PSALTER_PAHLAVI_FOUR_DOTS_WITH_CROSS=10b9b 5DOT=10b9c 2LETTER_ALEPH=10b80
3BETH=10b81 3DALETH=10b83 3GIMEL=10b82 3HE=10b84 3HETH=10b87 3KAPH=10b89 3LAMEDH=10b8a
3MEM-QOPH=10b8b 3NUN=10b8c 3PE=10b8e 3SADHE=10b8f 3SAMEKH=10b8d 3SHIN=10b90 3TAW=10b91
3WAW-AYIN-RESH=10b85 3YODH=10b88 3ZAYIN=10b86 2NUMBER_FOUR=10bac 3ONE=10ba9 4HUNDRED=10baf
3TEN=10bad 3THREE=10bab 3TWENTY=10bae 3TWO=10baa 2SECTION_MARK=10b99 2TURNED_SECTION_MARK=10b9a
0PU1=91 0PU2=92 0PUBLIC_ADDRESS_LOUDSPEAKER=1f4e2 0PUNCTUATION_SPACE=2008
0PUNCTUS_ELEVATUS_MARK=2e4e 0PURPLE_HEART=1f49c 0PURSE=1f45b 0PUSHPIN=1f4cc
0PUT_LITTER_IN_ITS_PLACE_SYMBOL=1f6ae"

/-- Names that begin with `Q`. -/
def namesQ : String :=
  "0QUADRANT_LOWER_LEFT=2596 2RIGHT=2597 1UPPER_LEFT=2598 3AND_LOWER_LEFT_AND_LOWER_RIGHT=2599
5RIGHT=259a 4UPPER_RIGHT_AND_LOWER_LEFT=259b 8RIGHT=259c 2RIGHT=259d 3AND_LOWER_LEFT=259e
6AND_LOWER_RIGHT=259f 0QUADRUPLE_INTEGRAL_OPERATOR=2a0c 1PRIME=2057 0QUARTER_NOTE=2669
0QUATERNION_INTEGRAL_OPERATOR=2a16 0QUESTION_EXCLAMATION_MARK=2048 1MARK=3f
0QUESTIONED_EQUAL_TO=225f 0QUINCUNX=26bb 0QUOTATION_MARK=22"

/-- Names that begin with `R`. -/
def namesR : String :=
  "0RABBIT=1f407 1FACE=1f430 0RACCOON=1f99d 0RACING_CAR=1f3ce 1MOTORCYCLE=1f3cd
0RADICAL_SYMBOL_BOTTOM=23b7 0RADIO=1f4fb 1BUTTON=1f518 0RADIOACTIVE_SIGN=2622 0RAILWAY_CAR=1f683
1TRACK=1f6e4 0RAIN=26c6 0RAINBOW=1f308 0RAISED_BACK_OF_HAND=1f91a 1COMMA=2e34 1DOT=2e33
1DOTTED_INTERPOLATION_MARKER=2e07 1FIST=270a 1HAND=270b 2WITH_FINGERS_SPLAYED=1f590
3PART_BETWEEN_MIDDLE_AND_RING_FINGERS=1f596 1INTERPOLATION_MARKER=2e06 1MC_SIGN=1f16a
1MD_SIGN=1f16b 1MR_SIGN=1f16c 1SQUARE=2e0b 0RAM=1f40f 0RAT=1f400 0RATIO=2236 0RAZOR=1fa92
0RECEIPT=1f9fe 0RECORD_SEPARATOR=1e 0RECREATIONAL_VEHICLE=1f699 0RECYCLED_PAPER_SYMBOL=267c
0RECYCLING_SYMBOL_FOR_GENERIC_MATERIALS=267a 3TYPE-1_PLASTICS=2673 3TYPE-2_PLASTICS=2674
3TYPE-3_PLASTICS=2675 3TYPE-4_PLASTICS=2676 3TYPE-5_PLASTICS=2677 3TYPE-6_PLASTICS=2678
3TYPE-7_PLASTICS=2679 0RED_APPLE=1f34e 1GIFT_ENVELOPE=1f9e7 0REFERENCE_MARK=203b
0REGIONAL_INDICATOR_SYMBOL_LETTER_A=1f1e6 4B=1f1e7 4C=1f1e8 4D=1f1e9 4E=1f1ea 4F=1f1eb 4G=1f1ec
4H=1f1ed 4I=1f1ee 4J=1f1ef 4K=1f1f0 4L=1f1f1 4M=1f1f2 4N=1f1f3 4O=1f1f4 4P=1f1f5 4Q=1f1f6 4R=1f1f7
4S=1f1f8 4T=1f1f9 4U=1f1fa 4V=1f1fb 4W=1f1fc 4X=1f1fd 4Y=1f1fe 4Z=1f1ff 0REGISTERED_SIGN=ae
0REJANG_CONSONANT_SIGN_H=a952 3N=a950 3NG=a94f 3R=a951 1LETTER_A=a946 2BA=a937 2CA=a939 2DA=a934
2GA=a931 2HA=a941 2JA=a93a 2KA=a930 2LA=a93e 2MA=a938 2MBA=a942 2NA=a935 2NDA=a944 2NGA=a932
2NGGA=a943 2NYA=a93b 2NYJA=a945 2PA=a936 2RA=a93d 2SA=a93c 2TA=a933 2WA=a940 2YA=a93f
1SECTION_MARK=a95f 1VIRAMA=a953 1VOWEL_SIGN_AI=a94a 3AU=a94c 3E=a949 3EA=a94e 3EU=a94d 3I=a947
3O=a94b 3U=a948 0RELIEVED_FACE=1f60c 0REMINDER_RIBBON=1f397 0REPLACEMENT_CHARACTER=fffd
0RESPONSE=211f 0RESTRICTED_LEFT_ENTRY-1=26e0 2ENTRY-2=26e1 0RESTROOM=1f6bb 0RETURN_LEFT=2b90
1RIGHT=2b91 1SYMBOL=23ce 0REVERSE_CHECKER_BOARD=1f67f 1INDEX=8d
1LIGHT_FOUR_POINTED_PINWHEEL_STAR=1f7c8 1LINE_FEED=8d 1SOLIDUS=5c 2OPERATOR=29f5
2PRECEDING_SUBSET=27c8 2WITH_HORIZONTAL_STROKE=29f7 1TILDE_OPERATOR_ABOVE_LEFTWARDS_ARROW=2b41
4RIGHTWARDS_ARROW=2b47 0REVERSED_ANGLE=29a3 2WITH_UNDERBAR=29a5 1COMMA=2e41 1DOUBLE_PRIME=2036
3QUOTATION_MARK=301d 2STROKE_NOT_SIGN=2aed 1EMPTY_SET=29b0 1FORKED_PARAGRAPHOS=2e11
1HAND_WITH_MIDDLE_FINGER_EXTENDED=1f595 1NOT_SIGN=2310 1PILCROW_SIGN=204b 1PRIME=2035
1QUESTION_MARK=2e2e 1RAISED_HAND_WITH_FINGERS_SPLAYED=1f591 1RIGHT_ANGLE=2bfe
1ROTATED_FLORAL_HEART_BULLET=2619 1SANS-SERIF_CAPITAL_L=2143 1SEMICOLON=204f
1THUMBS_DOWN_SIGN=1f593 2UP_SIGN=1f592 1TILDE=223d 2EQUALS=22cd 1TRIPLE_PRIME=2037
1VICTORY_HAND=1f594 0REVOLVING_HEARTS=1f49e 0RHINOCEROS=1f98f 0RI=8d 0RIAL_SIGN=fdfc 0RIBBON=1f380
1ARROW_DOWN_LEFT=2bb0 3RIGHT=2bb1 2LEFT_DOWN=2bb6 3UP=2bb4 2RIGHT_DOWN=2bb7 3UP=2bb5 2UP_LEFT=2bb2
3RIGHT=2bb3 0RICE_BALL=1f359 1CRACKER=1f358 0RIFLE=1f946 0RIGHT_AND_LOWER_ONE_EIGHTH_BLOCK=1fb7f
2UPPER_ONE_EIGHTH_BLOCK=1fb7e 1ANGER_BUBBLE=1f5ef 1ANGLE=221f 2BRACKET=3009 3WITH_DOT=2992
2DOTTED_SUBSTITUTION_MARKER=2e01 2SUBSTITUTION_MARKER=2e00 2VARIANT_WITH_SQUARE=299c 2WITH_ARC=22be
3DOWNWARDS_ZIGZAG_ARROW=237c 1ARC_GREATER-THAN_BRACKET=2994 1ARROW_WITH_CIRCLED_PLUS=27f4
3SMALL_CIRCLE=21f4 1BLACK_LENTICULAR_BRACKET=3011 2TORTOISE_SHELL_BRACKET=2998 1CEILING=2309
1CORNER_BRACKET=300d 1CURLY_BRACKET=7d 3LOWER_HOOK=23ad 3MIDDLE_PIECE=23ac 3UPPER_HOOK=23ab
1DOTTED_SUBSTITUTION_BRACKET=2e05 1DOUBLE_ANGLE_BRACKET=300b 2ARROW_WITH_ROUNDED_HEAD=2970
2PARENTHESIS=2e29 2QUOTATION_MARK=201d 2WIGGLY_FENCE=29db 1FISH_TAIL=297d 1FIVE_EIGHTHS_BLOCK=1fb89
1FLOOR=230b 1HALF_BLACK_CIRCLE=25d7 3STAR=2be9 2BLOCK=2590 2FOLDER=1fbba 2MEDIUM_SHADE=1fb8d
2RUNNING_MAN=1fbb3 1HAND_TELEPHONE_RECEIVER=1f57d 1LOW_PARAPHRASE_BRACKET=2e1d
1NORMAL_FACTOR_SEMIDIRECT_PRODUCT=22ca 1ONE_EIGHTH_BLOCK=2595 2QUARTER_BLOCK=1fb87
1OPEN_SQUARED_DOT=1fbbc 1OUTER_JOIN=27d6 1PARENTHESIS=29 2EXTENSION=239f 2LOWER_HOOK=23a0
2UPPER_HOOK=239e 1RAISED_OMISSION_BRACKET=2e0d 1S-SHAPED_BAG_DELIMITER=27c6
1SEMIDIRECT_PRODUCT=22cc 1SEVEN_EIGHTHS_BLOCK=1fb8b 1SIDEWAYS_U_BRACKET=2e27
1SINGLE_QUOTATION_MARK=2019 1SPEAKER=1f568 2WITH_ONE_SOUND_WAVE=1f569 3THREE_SOUND_WAVES=1f56a
1SPEECH_BUBBLE=1f5e9 1SQUARE_BRACKET=5d 3EXTENSION=23a5 3LOWER_CORNER=23a6 3UPPER_CORNER=23a4
3WITH_DOUBLE_STROKE=2e58 4QUILL=2046 4STROKE=2e56 4TICK_IN_BOTTOM_CORNER=298e 6TOP_CORNER=2990
4UNDERBAR=298c 1SUBSTITUTION_BRACKET=2e03 1TACK=22a2 1THIRD_WHITE_RIGHT_POINTING_INDEX=1fbc3
1THOUGHT_BUBBLE=1f5ed 1THREE_EIGHTHS_BLOCK=1fb88 2QUARTERS_BLOCK=1fb8a 1TORTOISE_SHELL_BRACKET=3015
1TRANSPOSITION_BRACKET=2e0a 1TRIANGLE=22bf 2ABOVE_LEFT_TRIANGLE=29ce
1TRIANGULAR_ONE_QUARTER_BLOCK=1fb6e 1VERTICAL_BAR_WITH_QUILL=2e21 2BOX_LINE=23b9
1WHITE_CORNER_BRACKET=300f 2CURLY_BRACKET=2984 2LENTICULAR_BRACKET=3017 2PARENTHESIS=2986
2SQUARE_BRACKET=301b 2TORTOISE_SHELL_BRACKET=3019 1WIGGLY_FENCE=29d9
0RIGHT-FACING_ARMENIAN_ETERNITY_SIGN=58d 1FIST=1f91c 1SVASTI_SIGN=fd5 3WITH_DOTS=fd7
0RIGHT-HANDED_INTERLACED_PENTAGRAM=26e5 0RIGHT-POINTING_ANGLE_BRACKET=232a
1CURVED_ANGLE_BRACKET=29fd 1DOUBLE_ANGLE_QUOTATION_MARK=bb 1MAGNIFYING_GLASS=1f50e
0RIGHT-SHADED_WHITE_RIGHTWARDS_ARROW=27a9 0RIGHT-SIDE_ARC_CLOCKWISE_ARROW=2938
0RIGHT-TO-LEFT_EMBEDDING=202b 1ISOLATE=2067 1MARK=200f 1OVERRIDE=202e
0RIGHTHAND_INTERIOR_PRODUCT=2a3d 0RIGHTWARDS_ARROW=2192 2ABOVE_ALMOST_EQUAL_TO=2975
3REVERSE_ALMOST_EQUAL_TO=2b48 4TILDE_OPERATOR=2b4c 3SHORT_LEFTWARDS_ARROW=2942 3TILDE_OPERATOR=2974
2AND_UPPER_AND_LOWER_ONE_EIGHTH_BLOCK=1fbb6 2FROM_BAR=21a6 4TO_BLACK_DIAMOND=2920
2OVER_LEFTWARDS_ARROW=21c4 2THROUGH_GREATER-THAN=2b43 3SUPERSET=2b44 3X=2947 2TO_BAR=21e5
3BLACK_DIAMOND=291e 2WITH_CORNER_DOWNWARDS=21b4 3DOTTED_STEM=2911 3DOUBLE_VERTICAL_STROKE=21fb
3EQUILATERAL_ARROWHEAD=1f816 3HOOK=21aa 3LARGE_TRIANGLE_ARROWHEAD=1f80a 3LOOP=21ac
3MEDIUM_TRIANGLE_ARROWHEAD=1f806 3NOTCHED_TAIL=1f89a 3PLUS_BELOW=2945
3SMALL_EQUILATERAL_ARROWHEAD=1f812 4TRIANGLE_ARROWHEAD=1f802 3STROKE=219b 3TAIL=21a3
4WITH_DOUBLE_VERTICAL_STROKE=2915 5VERTICAL_STROKE=2914 3TIP_DOWNWARDS=2b0e 4UPWARDS=2b0f
3VERTICAL_STROKE=21f8 1ARROW-TAIL=291a 1BACK-TILTED_SHADOWED_WHITE_ARROW=1f8a9 1BLACK_ARROW=2b95
2CIRCLED_WHITE_ARROW=2b8a 1BOTTOM_SHADED_WHITE_ARROW=1f8a1 1COMPRESSED_ARROW=1f83e
1DASHED_ARROW=21e2 1DOUBLE_ARROW=21d2 3FROM_BAR=2907 3WITH_STROKE=21cf 4VERTICAL_STROKE=2903
2ARROW-TAIL=291c 2DASH_ARROW=290d 1FINGER-POST_ARROW=1f836 1FRONT-TILTED_SHADOWED_WHITE_ARROW=1f8ab
1HAND=1faf1 1HARPOON_OVER_LEFTWARDS_HARPOON=21cc
2WITH_BARB_DOWN_ABOVE_LEFTWARDS_HARPOON_WITH_BARB_DOWN=2969 5BELOW_LONG_DASH=296d 5FROM_BAR=295f
5TO_BAR=2957 4DOWNWARDS=21c1 4UP_ABOVE_LEFTWARDS_HARPOON_WITH_BARB_UP=2968 6LONG_DASH=296c
6RIGHTWARDS_HARPOON_WITH_BARB_DOWN=2964 5FROM_BAR=295b 5TO_BAR=2953 4UPWARDS=21c0
1HEAVY_ARROW=1f846 2COMPRESSED_ARROW=1f842 1LEFT-SHADED_WHITE_ARROW=1f8a7 1OPEN-HEADED_ARROW=21fe
1PAIRED_ARROWS=21c9 1QUADRUPLE_ARROW=2b46 1RIGHT-SHADED_WHITE_ARROW=1f8a5 1ROCKET=1f66e
1SANS-SERIF_ARROW=1f852 1SQUARED_ARROW=1f83a 1SQUIGGLE_ARROW=21dd 1TOP_SHADED_WHITE_ARROW=1f8a3
1TRIANGLE_ARROWHEAD=1f892 1TRIANGLE-HEADED_ARROW=2b62 3OVER_LEFTWARDS_TRIANGLE-HEADED_ARROW=2b82
3TO_BAR=2b72 3WITH_BOLD_SHAFT=1f82a 4DOUBLE_HORIZONTAL_STROKE=2b7c 5VERTICAL_STROKE=2b7c
4HEAVY_SHAFT=1f82e 4LONG_TIP_DOWNWARDS=2ba7 6UPWARDS=2ba5 4MEDIUM_SHAFT=1f826 4NARROW_SHAFT=1f822
4VERY_HEAVY_SHAFT=1f832 2DASHED_ARROW=2b6c 2PAIRED_ARROWS=2b86 1TRIPLE_ARROW=21db 2DASH_ARROW=290f
1TWO_HEADED_ARROW=21a0 1TWO-HEADED_ARROW_FROM_BAR=2905 3WITH_DOUBLE_VERTICAL_STROKE=2901 4TAIL=2916
5WITH_DOUBLE_VERTICAL_STROKE=2918 6VERTICAL_STROKE=2917 4TRIANGLE_ARROWHEADS=2bee
4VERTICAL_STROKE=2900 2TRIPLE_DASH_ARROW=2910 1WAVE_ARROW=219d 1WHITE_ARROW=21e8 3FROM_WALL=21f0
3WITHIN_TRIANGLE_ARROWHEAD=1f896 0RING=1f48d 1ABOVE=2da 1BUOY=1f6df 1EQUAL_TO=2257
1IN_EQUAL_TO=2256 1OPERATOR=2218 1POINT=2e30 0RINGED_PLANET=1fa90 0RINGING_BELL=1f56d
0RISING_DIAGONAL_CROSSING_FALLING_DIAGONAL=292b 3SOUTH_EAST_ARROW=2930 0RLE=202b 0RLI=2067
0RLM=200f 0RLO=202e 0ROASTED_SWEET_POTATO=1f360 0ROBOT_FACE=1f916 0ROCK=1faa8 0ROCKET=1f680
0ROLL_OF_PAPER=1f9fb 0ROLLED-UP_NEWSPAPER=1f5de 0ROLLER_COASTER=1f3a2 1SKATE=1f6fc
0ROLLING_ON_THE_FLOOR_LAUGHING=1f923 0ROMAN_AS_SIGN=1019a 1CENTURIAL_SIGN=1019b
1DENARIUS_SIGN=10196 1DIMIDIA_SEXTULA_SIGN=10194 1DUPONDIUS_SIGN=10199 1NUMERAL_EIGHT=2167
2ELEVEN=216a 2FIFTY=216c 3EARLY_FORM=2186 3THOUSAND=2187 2FIVE=2164 3HUNDRED=216e 3THOUSAND=2181
2FOUR=2163 2NINE=2168 2ONE=2160 3HUNDRED=216d 4THOUSAND=2188 3THOUSAND=216f 4C_D=2180
2REVERSED_ONE_HUNDRED=2183 2SEVEN=2166 2SIX=2165 3LATE_FORM=2185 2TEN=2169 3THOUSAND=2182
2THREE=2162 2TWELVE=216b 2TWO=2161 1QUINARIUS_SIGN=10197 1SEMUNCIA_SIGN=10192
1SESTERTIUS_SIGN=10198 1SEXTANS_SIGN=10190 1SEXTULA_SIGN=10193 1SILIQUA_SIGN=10195
1UNCIA_SIGN=10191 0ROOSTER=1f413 0ROSE=1f339 0ROSETTE=1f3f5 0ROTATED_CAPITAL_Q=213a
1FLORAL_HEART_BULLET=2767 1HEAVY_BLACK_HEART_BULLET=2765 1LIGHT_FOUR_POINTED_BLACK_CUSP=2bcd
1WHITE_FOUR_POINTED_CUSP=2bcf 0ROUND_PUSHPIN=1f4cd 1TARGET=1f78b 0ROUNDED_SYMBOL_FOR_CAI=1f265
3FU=1f260 3LU=1f261 3SHOU=1f262 3SHUANGXI=1f264 3XI=1f263 0ROWBOAT=1f6a3 0RS=1e 0RUBLE_SIGN=20bd
0RUGBY_FOOTBALL=1f3c9 0RULE-DELAYED=29f4 0RUMI_DIGIT_EIGHT=10e67 2FIVE=10e64 2FOUR=10e63
2NINE=10e68 2ONE=10e60 2SEVEN=10e66 2SIX=10e65 2THREE=10e62 2TWO=10e61 1FRACTION_ONE_HALF=10e7b
3QUARTER=10e7c 3THIRD=10e7d 2TWO_THIRDS=10e7e 1NUMBER_EIGHT_HUNDRED=10e79 2EIGHTY=10e70
2FIFTY=10e6d 2FIVE_HUNDRED=10e76 2FORTY=10e6c 2FOUR_HUNDRED=10e75 2NINE_HUNDRED=10e7a 2NINETY=10e71
2ONE_HUNDRED=10e72 2SEVEN_HUNDRED=10e78 2SEVENTY=10e6f 2SIX_HUNDRED=10e77 2SIXTY=10e6e 2TEN=10e69
2THIRTY=10e6b 2THREE_HUNDRED=10e74 2TWENTY=10e6a 2TWO_HUNDRED=10e73 0RUNIC_ARLAUG_SYMBOL=16ee
1BELGTHOR_SYMBOL=16f0 1CROSS_PUNCTUATION=16ed 1LETTER_AC_A=16aa 2AESC=16ab 2ALGIZ_EOLHX=16c9
2ANSUZ_A=16a8 2BERKANAN_BEORC_BJARKAN_B=16d2 2C=16cd 2CALC=16e3 2CEALC=16e4 2CEN=16b3 2CWEORTH=16e2
2D=16d1 2DAGAZ_DAEG_D=16de 2DOTTED-L=16db 2DOTTED-N=16c0 2DOTTED-P=16d4 2E=16c2 2EAR=16e0
2EHWAZ_EH_E=16d6 2ENG=16b6 2ETH=16a7 2FEHU_FEOH_FE_F=16a0 2FRANKS_CASKET_AC=16f7 4AESC=16f8
4EH=16f6 4IS=16f5 4OS=16f4 2G=16b5 2GAR=16b8 2GEBO_GYFU_G=16b7 2GER=16c4 2HAEGL_H=16bb
2HAGLAZ_H=16ba 2ICELANDIC-YR=16e8 2ING=16dd 2INGWAZ=16dc 2IOR=16e1 2ISAZ_IS_ISS_I=16c1
2IWAZ_EOH=16c7 2JERAN_J=16c3 2K=16f1 2KAUN_K=16b4 2KAUNA=16b2 2LAUKAZ_LAGU_LOGR_L=16da
2LONG-BRANCH-AR_AE=16c5 2LONG-BRANCH-HAGALL_H=16bc 2LONG-BRANCH-MADR_M=16d8 2LONG-BRANCH-OSS_O=16ac
2LONG-BRANCH-YR=16e6 2MANNAZ_MAN_M=16d7 2NAUDIZ_NYD_NAUD_N=16be 2O=16ae 2OE=16af 2ON=16b0 2OO=16f3
2OPEN-P=16d5 2OS_O=16a9 2OTHALAN_ETHEL_O=16df 2PERTHO_PEORTH_P=16c8 2Q=16e9 2RAIDO_RAD_REID_R=16b1
2SH=16f2 2SHORT-TWIG-AR_A=16c6 2SHORT-TWIG-BJARKAN_B=16d3 2SHORT-TWIG-HAGALL_H=16bd
2SHORT-TWIG-MADR_M=16d9 2SHORT-TWIG-NAUD_N=16bf 2SHORT-TWIG-OSS_O=16ad 2SHORT-TWIG-SOL_S=16cc
2SHORT-TWIG-TYR_T=16d0 2SHORT-TWIG-YR=16e7 2SIGEL_LONG-BRANCH-SOL_S=16cb 2SOWILO_S=16ca 2STAN=16e5
2THURISAZ_THURS_THORN=16a6 2TIWAZ_TIR_TYR_T=16cf 2URUZ_UR_U=16a2 2V=16a1 2W=16a5 2WUNJO_WYNN_W=16b9
2X=16ea 2Y=16a4 2YR=16a3 2Z=16ce 1MULTIPLE_PUNCTUATION=16ec 1SINGLE_PUNCTUATION=16eb
1TVIMADUR_SYMBOL=16ef 0RUNNER=1f3c3 0RUNNING_SHIRT_WITH_SASH=1f3bd 0RUPEE_SIGN=20a8
0RUSSIAN_ASTROLOGICAL_SYMBOL_BINOVILE=2bf6 3NOVILE=2bf4 3QUINTILE=2bf5 3SENTAGON=2bf7
3TREDECILE=2bf8 3VIGINTILE=2bf3"

/-- Names that begin with `S`. -/
def namesS : String :=
  "0S_IN_TRIANGLE=29cc 0SAFETY_PIN=1f9f7 1VEST=1f9ba 0SAGITTARIUS=2650 0SAILBOAT=26f5
0SAKE_BOTTLE_AND_CUP=1f376 0SALT_SHAKER=1f9c2 0SALTIRE=2613 0SALUTING_FACE=1fae1
0SAMARITAN_ABBREVIATION_MARK=836 1LETTER_ALAF=800 2BAA=805 2BIT=801 2DALAT=803 2FI=810 2GAMAN=802
2IN=80f 2IT=807 2IY=804 2KAAF=80a 2LABAT=80b 2MIM=80c 2NUN=80d 2QUF=812 2RISH=813 2SHAN=814
2SINGAAT=80e 2TAAF=815 2TIT=808 2TSAADIY=811 2YUT=809 2ZEN=806 1MARK_DAGESH=819 2EPENTHETIC_YUT=81b
2IN=816 2IN-ALAF=817 2NEQUDAA=82d 2OCCLUSION=818 1MODIFIER_LETTER_EPENTHETIC_YUT=81a 3I=828
3SHORT_A=824 1PUNCTUATION_AFSAAQ=831 2ANGED=832 2ANNAAU=83e 2ARKAANU=83c 2ATMAAU=834 2BAU=833
2MELODIC_QITSA=837 2NEQUDAA=830 2QITSA=839 2SHIYYAALAA=835 2SOF_MASHFAAT=83d 2TURU=83b 2ZAEF=83a
2ZIQAA=838 1VOWEL_SIGN_A=823 3AA=820 3E=81d 3I=82a 3LONG_A=822 4AA=81f 4E=81c 4I=829 4U=826 3O=82b
3OVERLONG_A=821 4AA=81e 3SHORT_A=825 3SUKUN=82c 3U=827 0SANDWICH=1f96a
0SANS-SERIF_HEAVY_DOUBLE_COMMA_QUOTATION_MARK_ORNAMENT=1f677
3TURNED_COMMA_QUOTATION_MARK_ORNAMENT=1f676 2LOW_DOUBLE_COMMA_QUOTATION_MARK_ORNAMENT=1f678
1INTERROBANG_ORNAMENT=1f67a 0SARI=1f97b 0SATELLITE=1f6f0 1ANTENNA=1f4e1 0SATURN=2644
0SAURASHTRA_CONSONANT_SIGN_HAARU=a8b4 1DANDA=a8ce 1DIGIT_EIGHT=a8d8 2FIVE=a8d5 2FOUR=a8d4
2NINE=a8d9 2ONE=a8d1 2SEVEN=a8d7 2SIX=a8d6 2THREE=a8d3 2TWO=a8d2 2ZERO=a8d0 1DOUBLE_DANDA=a8cf
1LETTER_A=a882 2AA=a883 2AI=a88e 2AU=a891 2BA=a8a8 2BHA=a8a9 2CA=a897 2CHA=a898 2DA=a8a3 2DDA=a89e
2DDHA=a89f 2DHA=a8a4 2E=a88c 2EE=a88d 2GA=a894 2GHA=a895 2HA=a8b2 2I=a884 2II=a885 2JA=a899
2JHA=a89a 2KA=a892 2KHA=a893 2LA=a8ad 2LLA=a8b3 2MA=a8aa 2NA=a8a5 2NGA=a896 2NNA=a8a0 2NYA=a89b
2O=a88f 2OO=a890 2PA=a8a6 2PHA=a8a7 2RA=a8ac 2SA=a8b1 2SHA=a8af 2SSA=a8b0 2TA=a8a1 2THA=a8a2
2TTA=a89c 2TTHA=a89d 2U=a886 2UU=a887 2VA=a8ae 2VOCALIC_L=a88a 3LL=a88b 3R=a888 3RR=a889 2YA=a8ab
1SIGN_ANUSVARA=a880 2CANDRABINDU=a8c5 2VIRAMA=a8c4 2VISARGA=a881 1VOWEL_SIGN_AA=a8b5 3AI=a8c0
3AU=a8c3 3E=a8be 3EE=a8bf 3I=a8b6 3II=a8b7 3O=a8c1 3OO=a8c2 3U=a8b8 3UU=a8b9 3VOCALIC_L=a8bc
4LL=a8bd 4R=a8ba 4RR=a8bb 0SAUROPOD=1f995 0SAXOPHONE=1f3b7 0SCALES=2696 0SCARF=1f9e3 0SCHOOL=1f3eb
1SATCHEL=1f392 0SCI=9a 0SCOOTER=1f6f4 0SCORPION=1f982 0SCORPIUS=264f 0SCREEN=1f5b5
0SCREWDRIVER=1fa9b 0SCRIPT_CAPITAL_B=212c 2E=2130 2F=2131 2H=210b 2I=2110 2L=2112 2M=2133 2P=2118
2R=211b 1LIGATURE_ET_ORNAMENT=1f670 1SMALL_E=212f 2G=210a 2L=2113 2O=2134 0SCROLL=1f4dc
0SCRUPLE=2108 0SEAL=1f9ad 0SEAT=1f4ba 0SECOND_PLACE_MEDAL=1f948 0SECTION_SIGN=a7 0SECTOR=2314
0SEDNA=2bf2 0SEE-NO-EVIL_MONKEY=1f648 0SEEDLING=1f331 0SEGMENT=2313 0SEGMENTED_DIGIT_EIGHT=1fbf8
2FIVE=1fbf5 2FOUR=1fbf4 2NINE=1fbf9 2ONE=1fbf1 2SEVEN=1fbf7 2SIX=1fbf6 2THREE=1fbf3 2TWO=1fbf2
2ZERO=1fbf0 0SELFIE=1f933 0SEMICOLON=3b 0SEMIDIRECT_PRODUCT_WITH_BOTTOM_CLOSED=2a32
0SEMISEXTILE=26ba 0SEPARATED_SYMBOL=2bfb 0SERIOUS_FACE_WITH_SYMBOLS_COVERING_MOUTH=1f92c
0SERVICE_MARK=2120 0SESAME_DOT=fe45 0SESQUIQUADRATE=26bc 0SET_MINUS=2216 1TRANSMIT_STATE=93
0SEWING_NEEDLE=1faa1 0SEXTILE=26b9 0SGC=99 0SHADOWED_WHITE_CIRCLE=274d 2LATIN_CROSS=271e 2STAR=2730
0SHALLOW_PAN_OF_FOOD=1f958 0SHAMROCK=2618 0SHARADA_ABBREVIATION_SIGN=111c7 1CONTINUATION_SIGN=111dd
1DANDA=111c5 1DIGIT_EIGHT=111d8 2FIVE=111d5 2FOUR=111d4 2NINE=111d9 2ONE=111d1 2SEVEN=111d7
2SIX=111d6 2THREE=111d3 2TWO=111d2 2ZERO=111d0 1DOUBLE_DANDA=111c6 1EKAM=111da
1EXTRA_SHORT_VOWEL_MARK=111cc 1HEADSTROKE=111dc 1LETTER_A=11183 2AA=11184 2AI=1118e 2AU=11190
2BA=111a7 2BHA=111a8 2CA=11196 2CHA=11197 2DA=111a2 2DDA=1119d 2DDHA=1119e 2DHA=111a3 2E=1118d
2GA=11193 2GHA=11194 2HA=111b2 2I=11185 2II=11186 2JA=11198 2JHA=11199 2KA=11191 2KHA=11192
2LA=111ac 2LLA=111ad 2MA=111a9 2NA=111a4 2NGA=11195 2NNA=1119f 2NYA=1119a 2O=1118f 2PA=111a5
2PHA=111a6 2RA=111ab 2SA=111b1 2SHA=111af 2SSA=111b0 2TA=111a0 2THA=111a1 2TTA=1119b 2TTHA=1119c
2U=11187 2UU=11188 2VA=111ae 2VOCALIC_L=1118b 3LL=1118c 3R=11189 3RR=1118a 2YA=111aa 1OM=111c4
1SANDHI_MARK=111c9 1SECTION_MARK-1=111de 2MARK-2=111df 1SEPARATOR=111c8 1SIGN_ANUSVARA=11181
2AVAGRAHA=111c1 2CANDRABINDU=11180 2INVERTED_CANDRABINDU=111cf 2JIHVAMULIYA=111c2 2NUKTA=111ca
2SIDDHAM=111db 2UPADHMANIYA=111c3 2VIRAMA=111c0 2VISARGA=11182 1SUTRA_MARK=111cd
1VOWEL_MODIFIER_MARK=111cb 2SIGN_AA=111b3 3AI=111bd 3AU=111bf 3E=111bc 3I=111b4 3II=111b5 3O=111be
3PRISHTHAMATRA_E=111ce 3U=111b6 3UU=111b7 3VOCALIC_L=111ba 4LL=111bb 4R=111b8 4RR=111b9
0SHARK=1f988 0SHAVED_ICE=1f367 0SHAVIAN_LETTER_ADO=10469 2AGE=10471 2AH=1046d 2AIR=1047a 2ARE=10478
2ARRAY=1047c 2ASH=10468 2AWE=10477 2BIB=1045a 2CHURCH=10457 2DEAD=1045b 2EAR=1047d 2EAT=10470
2EGG=10467 2ERR=1047b 2FEE=10453 2GAG=1045c 2HA-HA=10463 2HUNG=10459 2IAN=1047e 2ICE=10472
2IF=10466 2JUDGE=10461 2KICK=10452 2LOLL=10464 2MEASURE=10460 2MIME=10465 2NUN=1046f 2OAK=10474
2OIL=10476 2ON=1046a 2OOZE=10475 2OR=10479 2OUT=1046c 2PEEP=10450 2ROAR=1046e 2SO=10455 2SURE=10456
2THEY=1045e 2THIGH=10454 2TOT=10451 2UP=10473 2VOW=1045d 2WOE=10462 2WOOL=1046b 2YEA=10458
2YEW=1047f 2ZOO=1045f 0SHEEP=1f411 0SHIELD=1f6e1 0SHIFT_IN=f 1OUT=e 0SHINTO_SHRINE=26e9 0SHIP=1f6a2
0SHOCKED_FACE_WITH_EXPLODING_HEAD=1f92f 0SHOOTING_STAR=1f320 0SHOPPING_BAGS=1f6cd 1TROLLEY=1f6d2
0SHORT_BACKSLANTED_SOUTH_ARROW=2b4f 1BENT_ARROW_POINTING_DOWNWARDS_THEN_NORTH_EAST=2b5f
1DOWN_TACK=2adf 3WITH_OVERBAR=2ae7 1LEFT_TACK=2ade 1RIGHTWARDS_ARROW_ABOVE_LEFTWARDS_ARROW=2944
1SLANTED_NORTH_ARROW=2b4e 1UP_TACK=2ae0 3ABOVE_SHORT_DOWN_TACK=2ae9 3WITH_UNDERBAR=2ae8
0SHORTCAKE=1f370 0SHORTHAND_FORMAT_CONTINUING_OVERLAP=1bca1 2DOWN_STEP=1bca2 2LETTER_OVERLAP=1bca0
2UP_STEP=1bca3 0SHORTS=1fa73 0SHOULDERED_OPEN_BOX=237d 0SHOWER=1f6bf 0SHRIMP=1f990 0SHRUG=1f937
0SHUFFLE_PRODUCT=29e2 0SHY=ad 0SI=f 0SIDDHAM_DANDA=115c2 1DOUBLE_DANDA=115c3
1END_OF_TEXT_MARK=115c9 1LETTER_A=11580 2AA=11581 2AI=1158b 2ALTERNATE_U=115db 2AU=1158d 2BA=115a4
2BHA=115a5 2CA=11593 2CHA=11594 2DA=1159f 2DDA=1159a 2DDHA=1159b 2DHA=115a0 2E=1158a 2GA=11590
2GHA=11591 2HA=115ae 2I=11582 2II=11583 2JA=11595 2JHA=11596 2KA=1158e 2KHA=1158f 2LA=115a9
2MA=115a6 2NA=115a1 2NGA=11592 2NNA=1159c 2NYA=11597 2O=1158c 2PA=115a2 2PHA=115a3 2RA=115a8
2SA=115ad 2SHA=115ab 2SSA=115ac 2TA=1159d 2THA=1159e 2THREE-CIRCLE_ALTERNATE_I=115d8 2TTA=11598
2TTHA=11599 2TWO-CIRCLE_ALTERNATE_I=115d9 4II=115da 2U=11584 2UU=11585 2VA=115aa 2VOCALIC_L=11588
3LL=11589 3R=11586 3RR=11587 2YA=115a7 1REPETITION_MARK-1=115c6 2MARK-2=115c7 2MARK-3=115c8
1SECTION_MARK_DOUBLE_RING=115cf 5WITH_RAYS=115d0 3WITH_CIRCLES_AND_FOUR_ENCLOSURES=115d7
6RAYS=115d5 6TWO_ENCLOSURES=115d6 4DOUBLE_CRESCENTS=115d1 4QUADRUPLE_CRESCENTS=115d3
4RAYS_AND_DOTTED_CRESCENTS=115cc 7DOUBLE_CRESCENTS=115cd 7TRIPLE_CRESCENTS=115ce
4SEPTUPLE_CRESCENTS=115d4 4TRIDENT_AND_DOTTED_CRESCENTS=115cb 6U-SHAPED_ORNAMENTS=115ca
4TRIPLE_CRESCENTS=115d2 1SEPARATOR_BAR=115c5 2DOT=115c4 1SIGN_ANUSVARA=115bd 2CANDRABINDU=115bc
2NUKTA=115c0 2SIDDHAM=115c1 2VIRAMA=115bf 2VISARGA=115be 1VOWEL_SIGN_AA=115af 3AI=115b9
3ALTERNATE_U=115dc 4UU=115dd 3AU=115bb 3E=115b8 3I=115b0 3II=115b1 3O=115ba 3U=115b2 3UU=115b3
3VOCALIC_R=115b4 4RR=115b5 0SIDEWAYS_BLACK_DOWN_POINTING_INDEX=1f5a1 2LEFT_POINTING_INDEX=1f59a
2RIGHT_POINTING_INDEX=1f59b 2UP_POINTING_INDEX=1f5a0 1WHITE_DOWN_POINTING_INDEX=1f59f
2LEFT_POINTING_INDEX=1f598 2RIGHT_POINTING_INDEX=1f599 2UP_POINTING_INDEX=1f59e
0SIGN_OF_THE_HORNS=1f918 0SIGNWRITING_AIR_BLOW_SMALL_ROTATIONS=1da37 2BLOWING_OUT=1da35
2SUCK_SMALL_ROTATIONS=1da38 2SUCKING_IN=1da36 1BREATH_EXHALE=1da3a 2INHALE=1da39
1BRUSH_BETWEEN=1d910 2MULTIPLE=1d90f 2SINGLE=1d90e 1CHEEKS_NEUTRAL=1da2b 2PUFFED=1da2a
2SUCKED=1da2c 1COLON=1da8a 1COMMA=1da87 1DREAMY_EYEBROWS_DOWN_NEUTRAL=1da0e 3NEUTRAL_DOWN=1da0d
4UP=1da10 3UP_NEUTRAL=1da0f 1DYNAMIC_ARROWHEAD_LARGE=1d9f6 3SMALL=1d9f5 2EVERY_OTHER_TIME=1d9fd
2FAST=1d9f7 2GRADUAL=1d9fe 2RELAXED=1d9fa 2SIMULTANEOUS=1d9fb 3ALTERNATING=1d9fc 2SLOW=1d9f8
2TENSE=1d9f9 1EARS=1da30 1EXCITEMENT=1da6c 1EYE_BLINK_MULTIPLE=1da18 3SINGLE=1da17 2WINK=1da1d
1EYEBROWS_STRAIGHT_DOWN=1da0c 3NEUTRAL=1da0b 3UP=1da0a 1EYEGAZE-FLOORPLANE_CURVED=1da28
2STRAIGHT=1da24 3ALTERNATING=1da26 3DOUBLE=1da25 1EYEGAZE-WALLPLANE_CIRCLING=1da29 2CURVED=1da27
2STRAIGHT=1da21 3ALTERNATING=1da23 3DOUBLE=1da22 1EYELASHES_DOWN=1da1f 2FLUTTERING=1da20 2UP=1da1e
1EYES_CLOSED=1da16 2HALF_CLOSED=1da1b 3OPEN=1da19 2OPEN=1da14 2SQUEEZED=1da15 2WIDE_OPEN=1da1a
2WIDENING_MOVEMENT=1da1c 1FACE_DIRECTION_POSITION_NOSE_FORWARD_TILTING=1da07 5UP_OR_DOWN=1da08
8TILTING=1da09 1FILL_MODIFIER-2=1da9b 2MODIFIER-3=1da9c 2MODIFIER-4=1da9d 2MODIFIER-5=1da9e
2MODIFIER-6=1da9f 1FINGER=1da7e 1FLICK_LARGE_MULTIPLE=1d91d 3SINGLE=1d91b 2SEQUENTIAL=1d91f
2SMALL_MULTIPLE=1d91e 3SINGLE=1d91c 1FLOORPLANE_SHOULDER_HIP_MOVE=1da70 1FOREHEAD_CONTACT=1da12
2NEUTRAL=1da11 2WRINKLED=1da13 1FULL_STOP=1da88 1GRASP_BETWEEN=1d90a 2MULTIPLE=1d909 2SINGLE=1d908
1HAIR=1da6b 1HAND-ANGLE=1d885 2INDEX=1d805 3MIDDLE_LITTLE=1d8a8 4RING=1d889 3RING_LITTLE=1d8c3
5OUT=1d8c2 3THUMB=1d8f4 4IN=1d8f3 4OUT=1d8f2 2LITTLE_INDEX=1d8a3 4THUMB_INDEX_THUMB=1d89f
7OUT=1d89e 3UP=1d896 2MIDDLE_RING_LITTLE=1d8d4 5IN=1d8d3 5OUT=1d8d2
2RING_DOWN_MIDDLE_THUMB_INDEX_CROSS=1d8ad 3LITTLE=1d8b3 1HAND-CIRCLE=1d876 2INDEX=1d801 3BENT=1d807
3HINGE=1d80d 3MIDDLE=1d80f 4CROSS_LITTLE=1d8aa 4CROSSED=1d81b 4LITTLE=1d8a5 4RING=1d887
4THUMB=1d81f 3RING_LITTLE=1d8bb 2LITTLE_INDEX=1d8a1 3UP=1d894 2MIDDLE_RING_LITTLE=1d8ce 5BENT=1d8d5
3UP=1d8c7 2RING_LITTLE=1d8b1 1HAND-CLAW=1d866 2FOUR_FINGERS_CONJOINED=1d849
2INDEX_THUMB_CURVE_THUMB_INSIDE=1d8e9 2MIDDLE_RING_LITTLE_CONJOINED=1d8d6 6SIDE=1d8d7
2NO_THUMB=1d868 2THUMB_FORWARD=1d869 3SIDE=1d867 1HAND-CUP=1d86d 2FIVE_FINGERS_SPREAD=1d853
5OPEN=1d854 2INDEX=1d802 3RING_LITTLE=1d8c0 3THUMB=1d8ec 4OPEN=1d8ed 2MIDDLE_RING_LITTLE=1d8d0
2NO_THUMB=1d871 2OPEN=1d86c 3NO_THUMB=1d870 3THUMB_FORWARD=1d872 4SIDE=1d86e 2THUMB_FORWARD=1d873
3SIDE=1d86f 1HAND-CURLICUE=1d875 2INDEX_RING_LITTLE_ON=1d8bc 2MIDDLE_RING_LITTLE_ON=1d8cf
2OPEN=1d874 1HAND-FIST=1d903 2FOUR_FINGERS_CONJOINED_BENT=1d84a 2HEEL=1d904 2INDEX=1d800
3BENT=1d806 4OVER_MIDDLE=1d81d 3CUPPED=1d80a 3HINGED=1d80b 4LOW=1d80c 4MIDDLE_UP=1d814
6THUMB_SIDE=1d826 3MIDDLE=1d80e 4BENT=1d810 5THUMB_STRAIGHT=1d821 4CONJOINED=1d815 5CUPPED=1d818
6THUMB_FORWARD=1d835 5HINGED=1d819 6THUMB_SIDE=1d832 5INDEX_BENT=1d816 5MIDDLE_BENT=1d817
5THUMB_FORWARD=1d834 6SIDE=1d82d 7BENT=1d82f 7CONJOINED=1d82e 4CROSS_LITTLE=1d8a9 4CROSSED=1d81a
5THUMB_SIDE=1d833 4HINGED=1d812 5SPREAD_THUMB_SIDE=1d823 4LITTLE=1d8a4 4RAISED_KNUCKLES=1d811
4RING=1d886 5BENT=1d88b 5CONJOINED=1d88c 4STRAIGHT_THUMB_BENT=1d820 4THUMB=1d81e 5ANGLED=1d83f
6OUT=1d83e 5BENT=1d822 5CIRCLED=1d829 5CONJOINED_HINGED=1d83d 5CUPPED=1d828 5HINGED=1d82b
5HOOKED=1d82a 4UP_SPREAD_THUMB_FORWARD=1d827 3RAISED_KNUCKLE=1d809 3RING_LITTLE=1d8ba
3THUMB_ANGLED_IN_MIDDLE_UP=1d83b 5OUT_MIDDLE_UP=1d83a 4CIRCLE=1d8eb 4CIRCLED_MIDDLE_UP=1d83c
4CUPPED_MIDDLE_UP=1d837 4CURLICUE=1d8e7 4CURVE_THUMB_INSIDE=1d8e8 6UNDER=1d8ea
4FORWARD_INDEX_BENT=1d8e5 6STRAIGHT=1d8e4 4HOOK=1d8e6 4HOOKED_MIDDLE_HINGED=1d843 6UP=1d831
4SIDE=1d8dc 5BOTH_BENT=1d8e2 5INDEX_BENT=1d8e1 6HINGE=1d8e3 5THUMB_BENT=1d8e0 6CONJOINED=1d8df
6DIAGONAL=1d8de 3UP_MIDDLE_HINGED=1d813 6THUMB_CONJOINED=1d825 7SIDE=1d824 2LITTLE_BENT=1d898
3DOWN=1d88e 4OTHERS_CIRCLED=1d891 4RIPPLE_CURVED=1d890 5STRAIGHT=1d88f 3INDEX=1d8a0 4THUMB=1d89c
3RAISED_KNUCKLE=1d897 3THUMB=1d89a 3TOUCHES_THUMB=1d899 3UP=1d892 2MIDDLE_BENT_OVER_INDEX=1d81c
3DOWN=1d8c4 3LITTLE=1d8cc 3RAISED_KNUCKLE=1d8c8 3RING_LITTLE=1d8cd 3THUMB_ANGLED_INDEX_UP=1d842
5OUT_INDEX_CROSSED=1d841 7UP=1d840 4CIRCLED_INDEX_HINGED=1d839 6UP=1d838 4CUPPED_INDEX_UP=1d836
4HOOKED_INDEX_UP=1d830 4LITTLE=1d8cb 3UP=1d8c6 4THUMB_SIDE=1d8c9 2RING_DOWN=1d8ab 3INDEX=1d8b7
3LITTLE=1d8b0 3MIDDLE=1d8b4 4CONJOINED=1d8b5 4RAISED_KNUCKLES=1d8b6 3RAISED_KNUCKLE=1d8af
3THUMB=1d8b8 3UP=1d8ae 2THUMB=1d8f5 3BETWEEN_INDEX_MIDDLE=1d8fb 6STRAIGHT=1d82c 4MIDDLE_RING=1d8fc
4RING_LITTLE=1d8fd 3FORWARD=1d8fa 3HEEL=1d8f6 3OVER_FOUR_RAISED_KNUCKLES=1d902 4TWO_FINGERS=1d8ff
3SIDE_BENT=1d8f9 4CONJOINED=1d8f8 4DIAGONAL=1d8f7 3UNDER_FOUR_FINGERS=1d901 4INDEX_BENT=1d808
4LITTLE_UP=1d893 4THREE_FINGERS=1d900 4TWO_FINGERS=1d8fe 1HAND-FLAT=1d85a
2BETWEEN_PALM_FACINGS=1d85b 2FIVE_FINGERS_SPREAD=1d84c 5BENT=1d850 5FOUR_BENT=1d84e 5HINGED=1d857
6NO_THUMB=1d859 6THUMB_SIDE=1d858 5THUMB_FORWARD=1d852 2FOUR_FINGERS=1d844 4BENT=1d845
4CONJOINED=1d847 5SPLIT=1d848 4HINGED=1d846 2HEEL=1d85c 3FIVE_FINGERS_SPREAD=1d84d 6BENT=1d851
6FOUR_BENT=1d84f 3THUMB_SIDE=1d85e 2SPLIT_CENTRE=1d862 4THUMB_SIDE=1d863 6BENT=1d864
3INDEX_THUMB_SIDE=1d861 3LITTLE=1d865 2THUMB_BENT=1d85f 3FORWARD=1d860 3SIDE=1d85d
1HAND-HINGE=1d87d 2FIVE_FINGERS_SPREAD_OPEN=1d855 2FOUR_FINGERS_CONJOINED=1d84b 2INDEX=1d804
3HINGED=1d8db 3MIDDLE_LITTLE=1d8a6 4RING=1d888 5CONJOINED=1d88d 3RING_LITTLE=1d8c1 3THUMB=1d8f0
4LARGE=1d8ef 4OPEN=1d8ee 4SIDE=1d8dd 4SMALL=1d8f1 2LITTLE=1d88a 3INDEX=1d8a2 4THUMB=1d89d
3THUMB=1d89b 2MIDDLE=1d8c5 3RING_LITTLE=1d8d1 2NO_THUMB=1d882 2OPEN=1d87b 3NO_THUMB=1d881
3THUMB_FORWARD=1d87c 4SIDE=1d87f 2RING=1d8a7 3DOWN_INDEX_THUMB_HOOK_MIDDLE=1d8ac 2SMALL=1d87e
2THUMB_BETWEEN_MIDDLE_RING=1d884 3SIDE=1d880 4TOUCHING_INDEX=1d883 1HAND-HOOK=1d86b 2CURLICUE=1d86a
2INDEX_RING_LITTLE_IN=1d8be 5OUT=1d8bd 5UNDER=1d8bf 2MIDDLE_RING_LITTLE_CONJOINED=1d8da 6IN=1d8d9
6OUT=1d8d8 3THUMB=1d8ca 2RING_THUMB=1d8b9 1HAND-OVAL=1d877 2FIVE_FINGERS_SPREAD=1d856 2INDEX=1d803
2LITTLE_UP=1d895 2NO_THUMB=1d879 2RING_LITTLE=1d8b2 2THUMB_FORWARD=1d87a 3SIDE=1d878 1HEAD=1d9ff
2MOVEMENT_CIRCLE=1da06 2MOVEMENT-FLOORPLANE_CURVE=1da05 3STRAIGHT=1da03
2MOVEMENT-WALLPLANE_CURVE=1da04 3STRAIGHT=1da01 3TILT=1da02 2RIM=1da00 1LIMB_COMBINATION=1da76
2LENGTH-1=1da77 2LENGTH-2=1da78 2LENGTH-3=1da79 2LENGTH-4=1da7a 2LENGTH-5=1da7b 2LENGTH-6=1da7c
2LENGTH-7=1da7d 1LIP_LOWER_OVER_UPPER=1da54 2UPPER_OVER_LOWER=1da55 1LIPS_PRESSED_TOGETHER=1da53
1LOCATION_DEPTH=1da83 2HEAD_NECK=1da84 2HEIGHT=1da81 2LIMBS_DIGITS=1da86 2TORSO=1da85 2WIDTH=1da82
1LOCATION-FLOORPLANE_SPACE=1da80 1LOCATION-WALLPLANE_SPACE=1da7f 1MOUTH_CLOSED_CONTACT=1da3d
3FORWARD=1da3c 3NEUTRAL=1da3b 2CORNERS=1da56 2FROWN=1da41 3OPEN=1da43 3WRINKLED=1da42 2KISS=1da4d
3FORWARD=1da4e 3WRINKLED=1da4f 2OPEN_CIRCLE=1da44 3FORWARD=1da45 3OVAL=1da47 4WRINKLED=1da48
4YAWN=1da49 3RECTANGLE=1da4a 4WRINKLED=1da4b 4YAWN=1da4c 3WRINKLED=1da46 2SMILE=1da3e 3OPEN=1da40
3WRINKLED=1da3f 2TENSE=1da50 3FORWARD=1da51 3SUCKED=1da52 2WRINKLES_DOUBLE=1da58 3SINGLE=1da57
1MOVEMENT-DIAGONAL_AWAY_LARGE=1d957 3LARGEST=1d958 3MEDIUM=1d956 3SMALL=1d955
2BETWEEN_AWAY_LARGE=1d95f 4LARGEST=1d960 4MEDIUM=1d95e 4SMALL=1d95d 3TOWARDS_LARGE=1d963
4LARGEST=1d964 4MEDIUM=1d962 4SMALL=1d961 2TOWARDS_LARGE=1d95b 3LARGEST=1d95c 3MEDIUM=1d95a
3SMALL=1d959 1MOVEMENT-FLOORPLANE_ARM_CIRCLE_HITTING_WALL_LARGE_DOUBLE=1d9ec 7SINGLE=1d9e9
6MEDIUM_DOUBLE=1d9eb 7SINGLE=1d9e8 6SMALL_DOUBLE=1d9ea 7SINGLE=1d9e7 2BEND=1d973 2BOX_LARGE=1d97a
3MEDIUM=1d979 3SMALL=1d978 2CHECK=1d977 2CORNER_LARGE=1d976 3MEDIUM=1d975 3SMALL=1d974 2CROSS=1d96e
2CURVE_COMBINED=1d9d9 3HITTING_CEILING_LARGE=1d9b8 5SMALL=1d9b7 4FLOOR_LARGE=1d9c7 5SMALL=1d9c6
3LARGE=1d9d7 3LARGEST=1d9d8 3MEDIUM=1d9d6 3SMALL=1d9d5 2DOUBLE_ALTERNATING=1d96c 4WRIST_FLEX=1d96d
3STRAIGHT=1d96a 3WRIST_FLEX=1d96b 2FINGER_CIRCLES_HITTING_WALL_DOUBLE=1d9f4 6SINGLE=1d9f3
3CONTACT=1d929 2HUMP_HITTING_CEILING_LARGE_DOUBLE=1d9ba 6TRIPLE=1d9bc 5SMALL_DOUBLE=1d9b9
6TRIPLE=1d9bb 4FLOOR_LARGE_DOUBLE=1d9c9 5SMALL_DOUBLE=1d9c8 5TRIPLE_LARGE_TRIPLE=1d9cb
6SMALL_TRIPLE=1d9ca 3SMALL=1d9da 2JAW=1da69 2LOOP_HITTING_CEILING_LARGE_DOUBLE=1d9c0 6SINGLE=1d9be
5SMALL_DOUBLE=1d9bf 6SINGLE=1d9bd 4FLOOR_LARGE_DOUBLE=1d9cf 6SINGLE=1d9cd 5SMALL_DOUBLE=1d9ce
6SINGLE=1d9cc 3SMALL=1d9db 2PEAKS_LARGE=1d980 3MEDIUM=1d97f 3SMALL=1d97e 2SHAKING_PARALLEL=1d9e2
2SINGLE_STRAIGHT_LARGE=1d967 4LARGEST=1d968 4MEDIUM=1d966 4SMALL=1d965 3WRIST_FLEX=1d969
2TRIPLE_ALTERNATING_MOVEMENT=1d971 4WRIST_FLEX=1d972 3STRAIGHT_MOVEMENT=1d96f 3WRIST_FLEX=1d970
2WAVE_HITTING_CEILING_LARGE=1d9c2 5SMALL=1d9c1 4FLOOR_LARGE=1d9d1 5SMALL=1d9d0 3LARGE=1d9de
3SMALL=1d9dd 3SNAKE=1d9dc 2WRIST_CIRCLE_HITTING_WALL_DOUBLE=1d9f0 6SINGLE=1d9ef 2ZIGZAG_LARGE=1d97d
3MEDIUM=1d97c 3SMALL=1d97b 1MOVEMENT-HINGE_DOWN_SEQUENTIAL=1d924 2SIDE_TO_SIDE_SCISSORS=1d927
2UP_DOWN_ALTERNATING_LARGE=1d925 5SMALL=1d926 4LARGE=1d921 4SMALL=1d922 3SEQUENTIAL=1d923
1MOVEMENT-WALLPLANE_ARM_CIRCLE_MEDIUM_DOUBLE=1d9e6 5SINGLE=1d9e4 4SMALL_DOUBLE=1d9e5 5SINGLE=1d9e3
2BEND_LARGE=1d93a 3MEDIUM=1d939 3SMALL=1d938 2BOX_LARGE=1d944 3MEDIUM=1d943 3SMALL=1d942
2CHECK_LARGE=1d941 3MEDIUM=1d940 3SMALL=1d93f 2CORNER_LARGE=1d93d 3MEDIUM=1d93c 3ROTATION=1d93e
3SMALL=1d93b 2CROSS=1d933 2CURVE_HALF-CIRCLE_LARGE=1d98e 4LARGEST=1d98f 4MEDIUM=1d98d 4SMALL=1d98c
3HITTING_CHEST=1d9ad 4FRONT_WALL=1d9a6 3QUARTER_LARGE=1d98a 4LARGEST=1d98b 4MEDIUM=1d989
4SMALL=1d988 3THEN_STRAIGHT=1d99f 3THREE-QUARTER_CIRCLE_MEDIUM=1d991 5SMALL=1d990
2CURVED_CROSS_MEDIUM=1d9a1 4SMALL=1d9a0 2DOUBLE_ALTERNATING=1d931 4WRIST_FLEX=1d932 3STRAIGHT=1d92f
3WRIST_FLEX=1d930 2FINGER_CIRCLES_DOUBLE=1d9f2 4SINGLE=1d9f1 3CONTACT=1d928
2HUMP_HITTING_CHEST=1d9ae 4FRONT_WALL=1d9a7 3LARGE=1d994 3MEDIUM=1d993 3SMALL=1d992 2JAW=1da68
2LOOP_HITTING_CHEST=1d9af 4FRONT_WALL=1d9a8 3LARGE=1d997 3MEDIUM=1d996 3SMALL=1d995 4DOUBLE=1d998
2PEAKS_LARGE=1d94a 3MEDIUM=1d949 3SMALL=1d948 2SHAKING=1d9a5 2SINGLE_STRAIGHT_LARGE=1d92c
4LARGEST=1d92d 4MEDIUM=1d92b 4SMALL=1d92a 3WRIST_FLEX=1d92e 2TRIPLE_ALTERNATING=1d936
4WRIST_FLEX=1d937 3STRAIGHT_MOVEMENT=1d934 3WRIST_FLEX=1d935 2WAVE_CURVE_DOUBLE_LARGE=1d99b
5MEDIUM=1d99a 5SMALL=1d999 4TRIPLE_LARGE=1d99e 5MEDIUM=1d99d 5SMALL=1d99c
3DIAGONAL_PATH_LARGE=1d9b6 5MEDIUM=1d9b5 5SMALL=1d9b4 3HITTING_CHEST=1d9b0 4FRONT_WALL=1d9a9
2WRIST_CIRCLE_FRONT_DOUBLE=1d9ee 5SINGLE=1d9ed 2ZIGZAG_LARGE=1d947 3MEDIUM=1d946 3SMALL=1d945
1NECK=1da6a 1NOSE_CONTACT=1da32 2NEUTRAL=1da31 2WIGGLES=1da34 2WRINKLES=1da33 1PARENTHESIS=1da8b
1ROTATION_MODIFIER-10=1daa9 2MODIFIER-11=1daaa 2MODIFIER-12=1daab 2MODIFIER-13=1daac
2MODIFIER-14=1daad 2MODIFIER-15=1daae 2MODIFIER-16=1daaf 2MODIFIER-2=1daa1 2MODIFIER-3=1daa2
2MODIFIER-4=1daa3 2MODIFIER-5=1daa4 2MODIFIER-6=1daa5 2MODIFIER-7=1daa6 2MODIFIER-8=1daa7
2MODIFIER-9=1daa8 1ROTATION-FLOORPLANE_ALTERNATING=1d9e1 3HITTING_CEILING=1d9c5 4FLOOR=1d9d4
2DOUBLE=1d9e0 3HITTING_CEILING=1d9c4 4FLOOR=1d9d3 2SINGLE=1d9df 3HITTING_CEILING=1d9c3 4FLOOR=1d9d2
1ROTATION-WALLPLANE_ALTERNATE=1d9a4 2ALTERNATING_HITTING_CHEST=1d9b3 4FRONT_WALL=1d9ac
2DOUBLE=1d9a3 3HITTING_CHEST=1d9b2 4FRONT_WALL=1d9ab 2SINGLE=1d9a2 3HITTING_CHEST=1d9b1
4FRONT_WALL=1d9aa 1RUB_BETWEEN=1d913 2MULTIPLE=1d912 2SINGLE=1d911 1SEMICOLON=1da89
1SHOULDER_HIP_POSITIONS=1da6e 3SPINE=1da6d 2TILTING_FROM_WAIST=1da71
1SQUEEZE_FLICK_ALTERNATING=1d920 2LARGE_MULTIPLE=1d918 3SINGLE=1d916 2SEQUENTIAL=1d91a
2SMALL_MULTIPLE=1d919 3SINGLE=1d917 1STRIKE_BETWEEN=1d90d 2MULTIPLE=1d90c 2SINGLE=1d90b
1SURFACE_BETWEEN=1d915 2SYMBOLS=1d914 1TEETH=1da61 2BITE_LIPS=1da67 2MOVEMENT=1da62 2ON_LIPS=1da65
4MOVEMENT=1da66 3TONGUE=1da63 4MOVEMENT=1da64 1TENSE_CHEEKS_HIGH=1da2d 3LOW=1da2f 3MIDDLE=1da2e
1TONGUE_CENTRE_INSIDE_MOUTH=1da60 3STICKING_OUT=1da5f 2INSIDE_MOUTH_RELAXED=1da5d
2LICKING_LIPS=1da5a 2MOVES_AGAINST_CHEEK=1da5e 2STICKING_OUT_FAR=1da59 2TIP_BETWEEN_LIPS=1da5b
3TOUCHING_INSIDE_MOUTH=1da5c 1TORSO-FLOORPLANE_TWISTING=1da74 1TORSO-WALLPLANE_CURVED_BEND=1da73
2STRAIGHT_STRETCH=1da72 1TOUCH_BETWEEN=1d907 2MULTIPLE=1d906 2SINGLE=1d905
1TRAVEL-FLOORPLANE_ROTATION-FLOORPLANE_ALTERNATING=1d983 3DOUBLE=1d982 3SINGLE=1d981
2ROTATION-WALLPLANE_ALTERNATING=1d986 3DOUBLE=1d985 3SINGLE=1d984 2SHAKING=1d987
1TRAVEL-WALLPLANE_ARM_SPIRAL_DOUBLE=1d953 4SINGLE=1d952 4TRIPLE=1d954
2ROTATION-FLOORPLANE_ALTERNATING=1d950 3DOUBLE=1d94f 3SINGLE=1d94e
2ROTATION-WALLPLANE_ALTERNATING=1d94d 3DOUBLE=1d94c 3SINGLE=1d94b 2SHAKING=1d951
1UPPER_BODY_TILTING_FROM_HIP_JOINTS=1da75 1WALLPLANE_SHOULDER_HIP_MOVE=1da6f
0SILHOUETTE_OF_JAPAN=1f5fe 0SIMILAR_ABOVE_GREATER-THAN_ABOVE_EQUALS_SIGN=2aa0
2LESS-THAN_ABOVE_EQUALS_SIGN=2a9f 1MINUS_SIMILAR=2a6c 1OR_GREATER-THAN=2a9e 2LESS-THAN=2a9d
0SINE_WAVE=223f 0SINGLE_CHARACTER_INTRODUCER=9a 1GRAPHIC_CHARACTER_INTRODUCER=99
1HIGH-REVERSED-9_QUOTATION_MARK=201b 1LEFT-POINTING_ANGLE_QUOTATION_MARK=2039
1LOW-9_QUOTATION_MARK=201a 1RIGHT-POINTING_ANGLE_QUOTATION_MARK=203a 1SHIFT_THREE=8f 2TWO=8e
0SINGLE-SHIFT-2=8e 0SINGLE-SHIFT-3=8f 0SINHALA_ARCHAIC_DIGIT_EIGHT=111e8 3FIVE=111e5 3FOUR=111e4
3NINE=111e9 3ONE=111e1 3SEVEN=111e7 3SIX=111e6 3THREE=111e3 3TWO=111e2 2NUMBER_EIGHTY=111f1
3FIFTY=111ee 3FORTY=111ed 3NINETY=111f2 3ONE_HUNDRED=111f3 4THOUSAND=111f4 3SEVENTY=111f0
3SIXTY=111ef 3TEN=111ea 3THIRTY=111ec 3TWENTY=111eb 1LETTER_AAYANNA=d86 2AEEYANNA=d88 2AEYANNA=d87
2AIYANNA=d93 2ALPAPRAANA_BAYANNA=db6 3CAYANNA=da0 3DAYANNA=daf 3DDAYANNA=da9 3GAYANNA=d9c
3JAYANNA=da2 3KAYANNA=d9a 3PAYANNA=db4 3TAYANNA=dad 3TTAYANNA=da7 2AMBA_BAYANNA=db9 2AUYANNA=d96
2AYANNA=d85 2DANTAJA_LAYANNA=dbd 3NAYANNA=db1 3SAYANNA=dc3 2EEYANNA=d92 2EYANNA=d91 2FAYANNA=dc6
2HAYANNA=dc4 2IIYANNA=d8a 2ILUUYANNA=d90 2ILUYANNA=d8f 2IRUUYANNA=d8e 2IRUYANNA=d8d 2IYANNA=d89
2KANTAJA_NAASIKYAYA=d9e 2MAHAAPRAANA_BAYANNA=db7 3CAYANNA=da1 3DAYANNA=db0 3DDAYANNA=daa
3GAYANNA=d9d 3JAYANNA=da3 3KAYANNA=d9b 3PAYANNA=db5 3TAYANNA=dae 3TTAYANNA=da8 2MAYANNA=db8
2MUURDHAJA_LAYANNA=dc5 3NAYANNA=dab 3SAYANNA=dc2 2OOYANNA=d95 2OYANNA=d94 2RAYANNA=dbb
2SANYAKA_DAYANNA=db3 3DDAYANNA=dac 3GAYANNA=d9f 3JAYANNA=da6 2TAALUJA_NAASIKYAYA=da4
3SANYOOGA_NAAKSIKYAYA=da5 3SAYANNA=dc1 2UUYANNA=d8c 2UYANNA=d8b 2VAYANNA=dc0 2YAYANNA=dba
1LITH_DIGIT_EIGHT=dee 3FIVE=deb 3FOUR=dea 3NINE=def 3ONE=de7 3SEVEN=ded 3SIX=dec 3THREE=de9
3TWO=de8 3ZERO=de6 1PUNCTUATION_KUNDDALIYA=df4 1SIGN_AL-LAKUNA=dca 2ANUSVARAYA=d82 2CANDRABINDU=d81
2VISARGAYA=d83 1VOWEL_SIGN_AELA-PILLA=dcf 3DIGA_AEDA-PILLA=dd1 4GAETTA-PILLA=df2 4GAYANUKITTA=df3
4IS-PILLA=dd3 4KOMBUVA=dda 4PAA-PILLA=dd6 3GAETTA-PILLA=dd8 3GAYANUKITTA=ddf 3KETTI_AEDA-PILLA=dd0
4IS-PILLA=dd2 4PAA-PILLA=dd4 3KOMBU_DEKA=ddb 3KOMBUVA=dd9 4HAA_AELA-PILLA=ddc 5DIGA_AELA-PILLA=ddd
5GAYANUKITTA=dde 0SIX_PETALLED_BLACK_AND_WHITE_FLORETTE=273e 1POINTED_BLACK_STAR=2736
2PINWHEEL_STAR=1f7cd 2STAR_WITH_MIDDLE_DOT=1f52f 0SIX-PER-EM_SPACE=2006
0SIXTEEN_POINTED_ASTERISK=273a 0SKATEBOARD=1f6f9 0SKI_AND_SKI_BOOT=1f3bf 0SKIER=26f7 0SKULL=1f480
1AND_CROSSBONES=2620 0SKUNK=1f9a8 0SLANTED_EQUAL_TO_OR_GREATER-THAN=2a96 5WITH_DOT_INSIDE=2a98
4LESS-THAN=2a95 5WITH_DOT_INSIDE=2a97 1NORTH_ARROW_WITH_HOOKED_HEAD=2b5a 4HORIZONTAL_TAIL=2b5c
0SLAVONIC_ASTERISK=a673 0SLED=1f6f7 0SLEEPING_ACCOMMODATION=1f6cc 1FACE=1f634 1SYMBOL=1f4a4
0SLEEPY_FACE=1f62a 0SLEUTH_OR_SPY=1f575 0SLICE_OF_PIZZA=1f355 0SLIGHTLY_FROWNING_FACE=1f641
1SMILING_FACE=1f642 0SLOPE=2333 0SLOPING_LARGE_AND=2a58 2OR=2a57 0SLOT_MACHINE=1f3b0 0SLOTH=1f9a5
0SMALL_AIRPLANE=1f6e9 1AMPERSAND=fe60 1ASTERISK=fe61 1BLUE_DIAMOND=1f539 1COLON=fe55 1COMMA=fe50
1COMMERCIAL_AT=fe6b 1CONTAINS_AS_MEMBER=220d 2WITH_OVERBAR=22fe
3VERTICAL_BAR_AT_END_OF_HORIZONTAL_STROKE=22fc 1DOLLAR_SIGN=fe69 1ELEMENT_OF=220a
3WITH_OVERBAR=22f7 4VERTICAL_BAR_AT_END_OF_HORIZONTAL_STROKE=22f4 1EM_DASH=fe58 1EQUALS_SIGN=fe66
1EXCLAMATION_MARK=fe57 1FULL_STOP=fe52 1GREATER-THAN_SIGN=fe65 1HYPHEN-MINUS=fe63
1IDEOGRAPHIC_COMMA=fe51 1LEFT_CURLY_BRACKET=fe5b 2PARENTHESIS=fe59 2TORTOISE_SHELL_BRACKET=fe5d
1LESS-THAN_SIGN=fe64 1NUMBER_SIGN=fe5f 1ORANGE_DIAMOND=1f538 1PERCENT_SIGN=fe6a 1PLUS_SIGN=fe62
1QUESTION_MARK=fe56 1REVERSE_SOLIDUS=fe68 1RIGHT_CURLY_BRACKET=fe5c 2PARENTHESIS=fe5a
2TORTOISE_SHELL_BRACKET=fe5e 1ROMAN_NUMERAL_EIGHT=2177 3ELEVEN=217a 3FIFTY=217c 3FIVE=2174
4HUNDRED=217e 3FOUR=2173 3NINE=2178 3ONE=2170 4HUNDRED=217d 4THOUSAND=217f 3SEVEN=2176 3SIX=2175
3TEN=2179 3THREE=2172 3TWELVE=217b 3TWO=2171 1SEMICOLON=fe54 1TILDE=2dc
1TWO_DOTS_OVER_ONE_DOT_PUNCTUATION=10b3b 1VEE_WITH_UNDERBAR=2a61 0SMALLER_THAN=2aaa
2OR_EQUAL_TO=2aac 0SMASH_PRODUCT=2a33 0SMILE=2323 0SMILING_CAT_FACE_WITH_HEART-SHAPED_EYES=1f63b
4OPEN_MOUTH=1f63a 1FACE_WITH_HALO=1f607 3HEART-SHAPED_EYES=1f60d 3HORNS=1f608 3OPEN_MOUTH=1f603
5AND_COLD_SWEAT=1f605 6SMILING_EYES=1f604 6TIGHTLY-CLOSED_EYES=1f606 3SMILING_EYES=1f60a
5AND_HAND_COVERING_MOUTH=1f92d 6THREE_HEARTS=1f970 3SUNGLASSES=1f60e 3TEAR=1f972
0SMIRKING_FACE=1f60f 0SMOKING_SYMBOL=1f6ac 0SNAIL=1f40c 0SNAKE=1f40d 0SNEEZING_FACE=1f927
0SNOW_CAPPED_MOUNTAIN=1f3d4 0SNOWBOARDER=1f3c2 0SNOWFLAKE=2744 0SNOWMAN=2603 1WITHOUT_SNOW=26c4
0SO=e 0SOCCER_BALL=26bd 0SOCKS=1f9e6 0SOFT_HYPHEN=ad 1ICE_CREAM=1f366 1SHELL_FLOPPY_DISK=1f5ac
0SOFTBALL=1f94e 0SOFTWARE-FUNCTION_SYMBOL=2394 0SOGDIAN_COMBINING_CURVE_ABOVE=10f4a 3BELOW=10f4b
2DOT_ABOVE=10f48 3BELOW=10f46 2HOOK_ABOVE=10f4c 3BELOW=10f4d 2LONG_HOOK_BELOW=10f4e
2RESH_BELOW=10f4f 2STROKE_BELOW=10f50 2TWO_DOTS_ABOVE=10f49 4BELOW=10f47 1INDEPENDENT_SHIN=10f45
1LETTER_ALEPH=10f30 2AYIN=10f3d 2BETH=10f31 2FETH=10f43 2GIMEL=10f32 2HE=10f33 2HETH=10f36
2KAPH=10f38 2LAMEDH=10f39 2LESH=10f44 2MEM=10f3a 2NUN=10f3b 2PE=10f3e 2RESH-AYIN=10f40 2SADHE=10f3f
2SAMEKH=10f3c 2SHIN=10f41 2TAW=10f42 2WAW=10f34 2YODH=10f37 2ZAYIN=10f35 1NUMBER_ONE=10f51
3HUNDRED=10f54 2TEN=10f52 2TWENTY=10f53 1PUNCTUATION_CIRCLE_WITH_DOT=10f57
2HALF_CIRCLE_WITH_DOT=10f59 2TWO_CIRCLES_WITH_DOTS=10f58 3VERTICAL_BARS=10f55 5WITH_DOTS=10f56
0SOH=1 0SOLID_QUILT_SQUARE_ORNAMENT=1f66a 4IN_BLACK_SQUARE=1f66b 0SOLIDUS=2f 1WITH_OVERBAR=29f6
0SOM_SIGN=20c0 0SOON_WITH_RIGHTWARDS_ARROW_ABOVE=1f51c 0SORA_SOMPENG_DIGIT_EIGHT=110f8 3FIVE=110f5
3FOUR=110f4 3NINE=110f9 3ONE=110f1 3SEVEN=110f7 3SIX=110f6 3THREE=110f3 3TWO=110f2 3ZERO=110f0
2LETTER_AH=110e2 3BAH=110d2 3CAH=110d3 3DAH=110d4 3EEH=110e3 3EH=110e7 3GAH=110d5 3HAH=110de
3IH=110e4 3JAH=110e0 3KAH=110df 3LAH=110d8 3MAE=110e8 3MAH=110d6 3NAH=110d9 3NGAH=110d7 3NYAH=110e1
3OH=110e6 3PAH=110db 3RAH=110dd 3SAH=110d0 3TAH=110d1 3UH=110e5 3VAH=110da 3YAH=110dc 0SOS=98
0SOUND_RECORDING_COPYRIGHT=2117 0SOUTH_EAST_ARROW=2198 3AND_SOUTH_WEST_ARROW=2929
3CROSSING_NORTH_EAST_ARROW=292d 3TO_CORNER=21f2 3WITH_HOOK=2925 2BLACK_ARROW=2b0a
2DOUBLE_ARROW=21d8 2POINTING_BUD=1f663 3LEAF=1f653 3VINE_LEAF=1f65b 2SANS-SERIF_ARROW=1f856
2TRIANGLE-HEADED_ARROW=2b68 4TO_BAR=2b78 2WHITE_ARROW=2b02 1WEST_ARROW=2199
3AND_NORTH_WEST_ARROW=292a 3WITH_HOOK=2926 2BLACK_ARROW=2b0b 2DOUBLE_ARROW=21d9 2POINTING_BUD=1f661
3LEAF=1f651 3VINE_LEAF=1f659 2SANS-SERIF_ARROW=1f857 2TRIANGLE-HEADED_ARROW=2b69 4TO_BAR=2b79
2WHITE_ARROW=2b03 0SOYOMBO_CLUSTER-INITIAL_LETTER_LA=11a87 3RA=11a86 3SA=11a89 3SHA=11a88
1FINAL_CONSONANT_SIGN_-A=11a95 4B=11a8f 4D=11a8d 4G=11a8a 4K=11a8b 4L=11a92 4M=11a90 4N=11a8e
4NG=11a8c 4R=11a91 4S=11a94 4SH=11a93 1GEMINATION_MARK=11a98 1HEAD_MARK_WITH_MOON_AND_SUN=11aa0
7AND_FLAME=11a9f 8TRIPLE_FLAME=11a9e 1LETTER_-A=11a7a 2A=11a50 2BA=11a72 2BHA=11a73 2CA=11a61
2CHA=11a62 2DA=11a6d 2DDA=11a68 2DDHA=11a69 2DHA=11a6e 2DZA=11a77 2GA=11a5e 2GHA=11a5f 2HA=11a82
2JA=11a63 2JHA=11a64 2KA=11a5c 2KHA=11a5d 2KSSA=11a83 2LA=11a7d 2MA=11a74 2NA=11a6f 2NGA=11a60
2NNA=11a6a 2NYA=11a65 2PA=11a70 2PHA=11a71 2RA=11a7c 2SA=11a81 2SHA=11a7f 2SSA=11a80 2TA=11a6b
2THA=11a6c 2TSA=11a75 2TSHA=11a76 2TTA=11a66 2TTHA=11a67 2VA=11a7e 2YA=11a7b 2ZA=11a79 2ZHA=11a78
1MARK_DOUBLE_SHAD=11a9c 2PLUTA=11a9d 2SHAD=11a9b 2TSHEG=11a9a 1SIGN_ANUSVARA=11a96
2JIHVAMULIYA=11a84 2UPADHMANIYA=11a85 2VISARGA=11a97 1SUBJOINER=11a99 1TERMINAL_MARK-1=11aa1
2MARK-2=11aa2 1VOWEL_LENGTH_MARK=11a5b 2SIGN_AI=11a57 3AU=11a58 3E=11a54 3I=11a51 3O=11a55
3OE=11a56 3U=11a53 3UE=11a52 3VOCALIC_L=11a5a 4R=11a59 0SP=20 0SPA=96 0SPACE=20 0SPAGHETTI=1f35d
0SPARKLE=2747 0SPARKLES=2728 0SPARKLING_HEART=1f496 0SPEAK-NO-EVIL_MONKEY=1f64a 0SPEAKER=1f508
1WITH_CANCELLATION_STROKE=1f507 2ONE_SOUND_WAVE=1f509 2THREE_SOUND_WAVES=1f50a
0SPEAKING_HEAD_IN_SILHOUETTE=1f5e3 0SPEECH_BALLOON=1f4ac 0SPEEDBOAT=1f6a4 0SPESMILO_SIGN=20b7
0SPHERICAL_ANGLE=2222 2OPENING_LEFT=29a0 3UP=29a1 0SPIDER=1f577 1WEB=1f578
0SPIRAL_CALENDAR_PAD=1f5d3 1NOTE_PAD=1f5d2 1SHELL=1f41a 0SPLASHING_SWEAT_SYMBOL=1f4a6 0SPONGE=1f9fd
0SPOOL_OF_THREAD=1f9f5 0SPOON=1f944 0SPORTS_MEDAL=1f3c5 0SPOUTING_WHALE=1f433 0SQUARE_A_OVER_M=33df
1AARU=3303 1AM=33c2 1ANPEA=3302 1APAATO=3300 1ARUHUA=3301 1AU=3373 1BAARERU=332d 1BAR=3374
1BEETA=333c 1BIRU=3331 1BORUTO=333e 1BQ=33c3 1BUSSYERU=3334 1C_OVER_KG=33c6 1CAL=3388 1CAP=2293
1CC=33c4 1CD=33c5 1CM=339d 2CUBED=33a4 2SQUARED=33a0 1CO=33c7 1CORPORATION=337f 1CUP=2294 1DA=3372
1DAASU=3324 1DB=33c8 1DESI=3325 1DJ=1f190 1DL=3397 1DM=3377 2CUBED=3379 2SQUARED=3378 1DORU=3326
1EEKAA=3308 1ERA_NAME_HEISEI=337b 3MEIZI=337e 3REIWA=32ff 3SYOUWA=337c 3TAISYOU=337d 1ERG=32cd
1ESUKUUDO=3307 1EV=32ce 1FM=3399 1FOOT=23cd 1FOUR_CORNERS=26f6 1GAL=33ff 1GANMA=330f 1GARON=330e
1GB=3387 1GHZ=3393 1GIGA=3310 1GINII=3311 1GIRUDAA=3313 1GPA=33ac 1GURAMU=3318 1GURAMUTON=3319
1GY=33c9 1HA=33ca 1HAITU=332a 1HEKUTAARU=3336 1HERUTU=3339 1HG=32cc 1HIRAGANA_HOKA=1f200 1HON=333f
1HOON=3342 1HOORU=3341 1HP=33cb 1HPA=3371 1HUARADDO=3332 1HUIITO=3333 1HURAN=3335 1HZ=3390
1IMAGE_OF=228f 3OR_EQUAL_TO=2291 4NOT_EQUAL_TO=22e4 1IN=33cc 1ININGU=3304 1INTI=3305 1IU=337a
1K_OHM=33c0 1KA=3384 1KAIRI=330b 1KARATTO=330c 1KARORII=330d 1KB=3385 1KCAL=3389 1KEESU=331c
1KG=338f 1KHZ=3391 1KIRO=3314 1KIROGURAMU=3315 1KIROMEETORU=3316 1KIROWATTO=3317 1KK=33cd 1KL=3398
1KM=339e 2CAPITAL=33ce 2CUBED=33a6 2SQUARED=33a2 1KOOPO=331e 1KORUNA=331d 1KPA=33aa 1KT=33cf
1KUROONE=331b 1KURUZEIRO=331a 1KV=33b8 1KW=33be 1KYURII=3312 1LEFT_OPEN_BOX_OPERATOR=2acd 1LM=33d0
1LN=33d1 1LOG=33d2 1LOZENGE=2311 1LX=33d3 1M_CUBED=33a5 2OHM=33c1 2OVER_S=33a7 4SQUARED=33a8
2SQUARED=33a1 1MA=3383 1MAHHA=3345 1MAIKURO=3343 1MAIRU=3344 1MANSYON=3347 1MARUKU=3346 1MB=3386
2SMALL=33d4 1MEETORU=334d 1MEGA=334b 1MEGATON=334c 1MG=338e 1MHZ=3392 1MIKURON=3348 1MIL=33d5
1MIRI=3349 1MIRIBAARU=334a 1ML=3396 1MM=339c 2CUBED=33a3 2SQUARED=339f 1MOL=33d6 1MPA=33ab 1MS=33b3
1MU_A=3382 2F=338c 2G=338d 2L=3395 2M=339b 2S=33b2 2V=33b6 2W=33bc 1MV=33b7 2MEGA=33b9 1MW=33bd
2MEGA=33bf 1NA=3381 1NANO=3328 1NF=338b 1NM=339a 1NOTTO=3329 1NS=33b1 1NV=33b5 1NW=33bb 1ONSU=3309
1OOMU=330a 1ORIGINAL_OF=2290 3OR_EQUAL_TO=2292 4NOT_EQUAL_TO=22e5 1OV=3375 1PA=33a9 2AMPS=3380
1PAASENTO=332b 1PAATU=332c 1PC=3376 1PEEZI=333b 1PENIHI=3338 1PENSU=333a 1PESO=3337 1PF=338a
1PH=33d7 1PIASUTORU=332e 1PIKO=3330 1PIKURU=332f 1PM=33d8 1POINTO=333d 1PONDO=3340
1POSITION_INDICATOR=2bd0 1PPM=33d9 1PR=33da 1PS=33b0 1PV=33b4 1PW=33ba 1RAD=33ad 2OVER_S=33ae
4SQUARED=33af 1REMU=3355 1RENTOGEN=3356 1RIGHT_OPEN_BOX_OPERATOR=2ace 1RIRA=3352 1RITTORU=3351
1ROOT=221a 1RUPII=3353 1RUUBURU=3354 1SAIKURU=331f 1SANTIIMU=3320 1SENTI=3322 1SENTO=3323
1SIRINGU=3321 1SR=33db 1SV=33dc 1TARGET=1f796 1THZ=3394 1TON=3327 1UON=3306 1V_OVER_M=33de
1WATTO=3357 1WB=33dd 1WITH_BOTTOM_HALF_BLACK=2b13 2CONTOURED_OUTLINE=29e0
2DIAGONAL_CROSSHATCH_FILL=25a9 2HORIZONTAL_FILL=25a4 2LEFT_HALF_BLACK=25e7
2LOWER_LEFT_DIAGONAL_HALF_BLACK=2b15 3RIGHT_DIAGONAL_HALF_BLACK=25ea
2ORTHOGONAL_CROSSHATCH_FILL=25a6 2RIGHT_HALF_BLACK=25e8 2TOP_HALF_BLACK=2b12
2UPPER_LEFT_DIAGONAL_HALF_BLACK=25e9 4TO_LOWER_RIGHT_FILL=25a7 3RIGHT_DIAGONAL_HALF_BLACK=2b14
4TO_LOWER_LEFT_FILL=25a8 2VERTICAL_FILL=25a5 1YAADO=334e 1YAARU=334f 1YUAN=3350
0SQUARED_ASTERISK=29c6 1CJK_UNIFIED_IDEOGRAPH-4E00=1f229 3IDEOGRAPH-4E09=1f22a
3IDEOGRAPH-4E2D=1f22d 3IDEOGRAPH-4E8C=1f214 3IDEOGRAPH-4EA4=1f218 3IDEOGRAPH-518D=1f21e
3IDEOGRAPH-521D=1f220 3IDEOGRAPH-524D=1f21c 3IDEOGRAPH-5272=1f239 3IDEOGRAPH-53CC=1f212
3IDEOGRAPH-53F3=1f22e 3IDEOGRAPH-5408=1f234 3IDEOGRAPH-5439=1f225 3IDEOGRAPH-55B6=1f23a
3IDEOGRAPH-58F0=1f224 3IDEOGRAPH-591A=1f215 3IDEOGRAPH-5929=1f217 3IDEOGRAPH-5B57=1f211
3IDEOGRAPH-5DE6=1f22c 3IDEOGRAPH-5F8C=1f21d 3IDEOGRAPH-624B=1f210 3IDEOGRAPH-6253=1f231
3IDEOGRAPH-6295=1f227 3IDEOGRAPH-6307=1f22f 3IDEOGRAPH-6355=1f228 3IDEOGRAPH-6599=1f21b
3IDEOGRAPH-65B0=1f21f 3IDEOGRAPH-6620=1f219 3IDEOGRAPH-6708=1f237 3IDEOGRAPH-6709=1f236
3IDEOGRAPH-6E80=1f235 3IDEOGRAPH-6F14=1f226 3IDEOGRAPH-7121=1f21a 3IDEOGRAPH-751F=1f222
3IDEOGRAPH-7533=1f238 3IDEOGRAPH-7981=1f232 3IDEOGRAPH-7A7A=1f233 3IDEOGRAPH-7D42=1f221
3IDEOGRAPH-89E3=1f216 3IDEOGRAPH-8CA9=1f223 3IDEOGRAPH-8D70=1f230 3IDEOGRAPH-904A=1f22b
3IDEOGRAPH-914D=1f23b 1CL=1f191 1COOL=1f192 1DOT_OPERATOR=22a1 1EIGHT_K=1f19f
1FALLING_DIAGONAL_SLASH=29c5 1FIVE_POINT_ONE=1f1a0 1FOUR_DOT_PUNCTUATION=2e2c 2K=1f19e 1FREE=1f193
1HC=1f1a6 1HDR=1f1a7 1HI-RES=1f1a8 1HV=1f14a 1ID=1f194 1KATAKANA_DE=1f213 2KOKO=1f201 2SA=1f202
1KEY=26bf 1LATIN_CAPITAL_LETTER_A=1f130 4B=1f131 4C=1f132 4D=1f133 4E=1f134 4F=1f135 4G=1f136
4H=1f137 4I=1f138 4J=1f139 4K=1f13a 4L=1f13b 4M=1f13c 4N=1f13d 4O=1f13e 4P=1f13f 4Q=1f140 4R=1f141
4S=1f142 4T=1f143 4U=1f144 4V=1f145 4W=1f146 4X=1f147 4Y=1f148 4Z=1f149 2SMALL_LETTER_D=1f1a5
1LOGICAL_AND=27ce 2OR=27cf 1LOSSLESS=1f1a9 1MINUS=229f 1MV=1f14b 1NEW=1f195 1NG=1f196 1OK=1f197
1ONE_HUNDRED_TWENTY_P=1f1a4 1PLUS=229e 1PPV=1f14e 1RISING_DIAGONAL_SLASH=29c4 1SALTIRE=26dd
1SD=1f14c 1SECOND_SCREEN=1f19c 1SEVEN_POINT_ONE=1f1a1 1SHV=1f1aa 1SIXTY_P=1f1a3 1SMALL_CIRCLE=29c7
1SOS=1f198 1SQUARE=29c8 1SS=1f14d 1THREE_D=1f19b 1TIMES=22a0 1TWENTY-TWO_POINT_TWO=1f1a2
1TWO_K=1f19d 1UHD=1f1ab 1UP_WITH_EXCLAMATION_MARK=1f199 1VOD=1f1ac 1VS=1f19a 1WC=1f14f
0SQUAT_BLACK_RIGHTWARDS_ARROW=27a7 0SQUID=1f991 0SS2=8e 0SS3=8f 0SSA=86 0ST=9c 0STADIUM=1f3df
0STAFF_OF_AESCULAPIUS=2695 2HERMES=269a 0STAMPED_ENVELOPE=1f583 0STANDING_PERSON=1f9cd
0STAR_AND_CRESCENT=262a 1EQUALS=225b 1OF_DAVID=2721 1OPERATOR=22c6 1WITH_LEFT_HALF_BLACK=2bea
2RIGHT_HALF_BLACK=2beb 0START_OF_GUARDED_AREA=96 2HEADING=1 2PROTECTED_AREA=96 2SELECTED_AREA=86
2STRING=98 2TEXT=2 0STATION=1f689 0STATUE_OF_LIBERTY=1f5fd 0STEAM_LOCOMOTIVE=1f682
0STEAMING_BOWL=1f35c 0STENOGRAPHIC_FULL_STOP=2e3c 0STETHOSCOPE=1fa7a 0STICK_FIGURE=1fbc5
2LEANING_LEFT=1fbc7 3RIGHT=1fbc8 2WITH_ARMS_RAISED=1fbc6 3DRESS=1fbc9 0STOCK_CHART=1f5e0
0STOPWATCH=23f1 0STRAIGHT_RULER=1f4cf 0STRAIGHTNESS=23e4 0STRAWBERRY=1f353
0STRESS_OUTLINED_WHITE_STAR=2729 0STRICTLY_EQUIVALENT_TO=2263 0STRING_TERMINATOR=9c 0STS=93
0STUDIO_MICROPHONE=1f399 0STUFFED_FLATBREAD=1f959 0STUPA=1f6d3 0STX=2 0SUB=1a 0SUBSCRIPT_EIGHT=2088
1EQUALS_SIGN=208c 1FIVE=2085 1FOUR=2084 1LEFT_PARENTHESIS=208d 1MINUS=208b 1NINE=2089 1ONE=2081
1PLUS_SIGN=208a 1RIGHT_PARENTHESIS=208e 1SEVEN=2087 1SIX=2086 1THREE=2083 1TWO=2082 1ZERO=2080
0SUBSET_ABOVE_RIGHTWARDS_ARROW=2979 2SUBSET=2ad5 2SUPERSET=2ad3 1OF=2282
2ABOVE_ALMOST_EQUAL_TO=2ac9 3EQUALS_SIGN=2ac5 3NOT_EQUAL_TO=2acb 3TILDE_OPERATOR=2ac7
2OR_EQUAL_TO=2286 5WITH_DOT_ABOVE=2ac3 2WITH_NOT_EQUAL_TO=228a 1WITH_DOT=2abd
2MULTIPLICATION_SIGN_BELOW=2ac1 2PLUS_SIGN_BELOW=2abf 0SUBSTITUTE=1a 0SUCCEEDS=227b
1ABOVE_ALMOST_EQUAL_TO=2ab8 2EQUALS_SIGN=2ab4 2NOT_ALMOST_EQUAL_TO=2aba 3EQUAL_TO=2ab6
2SINGLE-LINE_EQUALS_SIGN=2ab0 3NOT_EQUAL_TO=2ab2 1BUT_NOT_EQUIVALENT_TO=22e9 1OR_EQUAL_TO=227d
2EQUIVALENT_TO=227f 1UNDER_RELATION=22b1 0SUMMATION_BOTTOM=23b3 1TOP=23b2 1WITH_INTEGRAL=2a0b
0SUN=2609 1BEHIND_CLOUD=26c5 1WITH_FACE=1f31e 0SUNDANESE_AVAGRAHA=1bba
1CONSONANT_SIGN_PAMINGKAL=1ba1 3PANYAKRA=1ba2 3PANYIKU=1ba3 3PASANGAN_MA=1bac 4WA=1bad
1DIGIT_EIGHT=1bb8 2FIVE=1bb5 2FOUR=1bb4 2NINE=1bb9 2ONE=1bb1 2SEVEN=1bb7 2SIX=1bb6 2THREE=1bb3
2TWO=1bb2 2ZERO=1bb0 1LETTER_A=1b83 2AE=1b86 2BA=1b98 2BHA=1bbd 2CA=1b8e 2DA=1b93 2E=1b88 2EU=1b89
2FA=1b96 2FINAL_K=1bbe 3M=1bbf 2GA=1b8c 2HA=1ba0 2I=1b84 2JA=1b8f 2KA=1b8a 2KHA=1bae 2LA=1b9c
2LEU=1bbc 2MA=1b99 2NA=1b94 2NGA=1b8d 2NYA=1b91 2O=1b87 2PA=1b95 2QA=1b8b 2RA=1b9b 2REU=1bbb
2SA=1b9e 2SYA=1baf 2TA=1b92 2U=1b85 2VA=1b97 2WA=1b9d 2XA=1b9f 2YA=1b9a 2ZA=1b90
1PUNCTUATION_BINDU_BA_SATANGA=1cc7 3CAKRA=1cc3 3DA_SATANGA=1cc6 3KA_SATANGA=1cc5 3LEU_SATANGA=1cc4
3PANGLONG=1cc1 3PURNAMA=1cc2 3SURYA=1cc0 1SIGN_PAMAAEH=1baa 2PANGLAYAR=1b81 2PANGWISAD=1b82
2PANYECEK=1b80 2VIRAMA=1bab 1VOWEL_SIGN_PAMEPET=1ba8 3PANAELAENG=1ba6 3PANEULEUNG=1ba9
3PANGHULU=1ba4 3PANOLONG=1ba7 3PANYUKU=1ba5 0SUNFLOWER=1f33b 0SUNRISE=1f305 1OVER_MOUNTAINS=1f304
0SUNSET_OVER_BUILDINGS=1f307 0SUPERHERO=1f9b8 0SUPERSCRIPT_EIGHT=2078 1EQUALS_SIGN=207c 1FIVE=2075
1FOUR=2074 1LATIN_SMALL_LETTER_I=2071 4N=207f 1LEFT_PARENTHESIS=207d 1MINUS=207b 1NINE=2079 1ONE=b9
1PLUS_SIGN=207a 1RIGHT_PARENTHESIS=207e 1SEVEN=2077 1SIX=2076 1THREE=b3 1TWO=b2 1ZERO=2070
0SUPERSET_ABOVE_LEFTWARDS_ARROW=297b 2SUBSET=2ad4 2SUPERSET=2ad6
1BESIDE_AND_JOINED_BY_DASH_WITH_SUBSET=2ad8 2SUBSET=2ad7 1OF=2283 2ABOVE_ALMOST_EQUAL_TO=2aca
3EQUALS_SIGN=2ac6 3NOT_EQUAL_TO=2acc 3TILDE_OPERATOR=2ac8 2OR_EQUAL_TO=2287 5WITH_DOT_ABOVE=2ac4
2WITH_NOT_EQUAL_TO=228b 1PRECEDING_SOLIDUS=27c9 1WITH_DOT=2abe 2MULTIPLICATION_SIGN_BELOW=2ac2
2PLUS_SIGN_BELOW=2ac0 0SUPERVILLAIN=1f9b9 0SURFACE_INTEGRAL=222f 0SURFER=1f3c4 0SUSHI=1f363
0SUSPENSION_RAILWAY=1f69f 0SWAN=1f9a2 0SWASH_AMPERSAND_ORNAMENT=1f675 0SWIMMER=1f3ca
0SWUNG_DASH=2053 0SYLOTI_NAGRI_LETTER_A=a800 3BHO=a81c 3BO=a81b 3CHO=a80d 3CO=a80c 3DDHO=a813
3DDO=a812 3DHO=a817 3DO=a816 3E=a804 3GHO=a80a 3GO=a809 3HO=a822 3I=a801 3JHO=a80f 3JO=a80e
3KHO=a808 3KO=a807 3LO=a81f 3MO=a81d 3NO=a818 3O=a805 3PHO=a81a 3PO=a819 3RO=a81e 3RRO=a820
3SO=a821 3THO=a815 3TO=a814 3TTHO=a811 3TTO=a810 3U=a803 2POETRY_MARK-1=a828 3MARK-2=a829
3MARK-3=a82a 3MARK-4=a82b 2SIGN_ALTERNATE_HASANTA=a82c 3ANUSVARA=a80b 3DVISVARA=a802 3HASANTA=a806
2VOWEL_SIGN_A=a823 4E=a826 4I=a824 4OO=a827 4U=a825 0SYMBOL_FOR_ACKNOWLEDGE=2406 2BACKSPACE=2408
2BELL=2407 2CANCEL=2418 2CARRIAGE_RETURN=240d 2DATA_LINK_ESCAPE=2410 2DELETE=2421 3FORM_TWO=2425
2DEVICE_CONTROL_FOUR=2414 4ONE=2411 4THREE=2413 4TWO=2412 2END_OF_MEDIUM=2419 4TEXT=2403
4TRANSMISSION=2404 5BLOCK=2417 2ENQUIRY=2405 2ESCAPE=241b 2FILE_SEPARATOR=241c 2FORM_FEED=240c
2GROUP_SEPARATOR=241d 2HORIZONTAL_TABULATION=2409 2LINE_FEED=240a 2MARKS_CHAPTER=1f545
2NEGATIVE_ACKNOWLEDGE=2415 2NEWLINE=2424 2NULL=2400 2RECORD_SEPARATOR=241e 2SAMARITAN_SOURCE=214f
2SHIFT_IN=240f 3OUT=240e 2SPACE=2420 2START_OF_HEADING=2401 4TEXT=2402 2SUBSTITUTE=241a
3FORM_TWO=2426 2SYNCHRONOUS_IDLE=2416 2TYPE_A_ELECTRONICS=2b97 2UNIT_SEPARATOR=241f
2VERTICAL_TABULATION=240b 0SYMMETRY=232f 0SYN=16 0SYNAGOGUE=1f54d 0SYNCHRONOUS_IDLE=16
0SYRIAC_ABBREVIATION_MARK=70f 1BARREKH=74a 1COLON_SKEWED_LEFT=706 3RIGHT=707 1CONTRACTION=70a
1DOTTED_ZLAMA_ANGULAR=739 3HORIZONTAL=738 1END_OF_PARAGRAPH=700 1ESASA_ABOVE=73d 2BELOW=73e
1FEMININE_DOT=740 1HARKLEAN_ASTERISCUS=70d 2METOBELUS=70c 2OBELUS=70b 1HBASA_ABOVE=73a 2BELOW=73b
1HBASA-ESASA_DOTTED=73c 1HORIZONTAL_COLON=705 1LETTER_ALAPH=710 2BETH=712 2DALATH=715
2DOTLESS_DALATH_RISH=716 2E=725 2FINAL_SEMKATH=724 2GAMAL=713 3GARSHUNI=714 2HE=717 2HETH=71a
2KAPH=71f 2LAMADH=720 2MALAYALAM_BHA=866 3JA=861 3LLA=868 3LLLA=869 3NGA=860 3NNA=864 3NNNA=865
3NYA=862 3RA=867 3SSA=86a 3TTA=863 2MIM=721 2NUN=722 2PE=726 2PERSIAN_BHETH=72d 3DHALATH=72f
3GHAMAL=72e 2QAPH=729 2REVERSED_PE=727 2RISH=72a 2SADHE=728 2SEMKATH=723 2SHIN=72b 2SOGDIAN_FE=74f
3KHAPH=74e 3ZHAIN=74d 2SUPERSCRIPT_ALAPH=711 2TAW=72c 2TETH=71b 3GARSHUNI=71c 2WAW=718 2YUDH=71d
3HE=71e 2ZAIN=719 1MUSIC=749 1OBLIQUE_LINE_ABOVE=747 3BELOW=748 1PTHAHA_ABOVE=730 2BELOW=731
2DOTTED=732 1QUSHSHAYA=741 1RBASA_ABOVE=736 2BELOW=737 1RUKKAKHA=742 1RWAHA=73f
1SUBLINEAR_COLON=704 3SKEWED_LEFT=709 4RIGHT=709 2FULL_STOP=702 1SUPRALINEAR_COLON=703
3SKEWED_LEFT=708 2FULL_STOP=701 1THREE_DOTS_ABOVE=745 3BELOW=746 1TWO_VERTICAL_DOTS_ABOVE=743
4BELOW=744 1ZQAPHA_ABOVE=733 2BELOW=734 2DOTTED=735 0SYRINGE=1f489"

/-- Names that begin with `T`. -/
def namesT : String :=
  "0T-REX=1f996 0T-SHIRT=1f455 0TAB=9 0TABLE_TENNIS_PADDLE_AND_BALL=1f3d3 0TACO=1f32e
0TAG_AMPERSAND=e0026 1APOSTROPHE=e0027 1ASTERISK=e002a 1CIRCUMFLEX_ACCENT=e005e 1COLON=e003a
1COMMA=e002c 1COMMERCIAL_AT=e0040 1DIGIT_EIGHT=e0038 2FIVE=e0035 2FOUR=e0034 2NINE=e0039 2ONE=e0031
2SEVEN=e0037 2SIX=e0036 2THREE=e0033 2TWO=e0032 2ZERO=e0030 1DOLLAR_SIGN=e0024 1EQUALS_SIGN=e003d
1EXCLAMATION_MARK=e0021 1FULL_STOP=e002e 1GRAVE_ACCENT=e0060 1GREATER-THAN_SIGN=e003e
1HYPHEN-MINUS=e002d 1LATIN_CAPITAL_LETTER_A=e0041 4B=e0042 4C=e0043 4D=e0044 4E=e0045 4F=e0046
4G=e0047 4H=e0048 4I=e0049 4J=e004a 4K=e004b 4L=e004c 4M=e004d 4N=e004e 4O=e004f 4P=e0050 4Q=e0051
4R=e0052 4S=e0053 4T=e0054 4U=e0055 4V=e0056 4W=e0057 4X=e0058 4Y=e0059 4Z=e005a
2SMALL_LETTER_A=e0061 4B=e0062 4C=e0063 4D=e0064 4E=e0065 4F=e0066 4G=e0067 4H=e0068 4I=e0069
4J=e006a 4K=e006b 4L=e006c 4M=e006d 4N=e006e 4O=e006f 4P=e0070 4Q=e0071 4R=e0072 4S=e0073 4T=e0074
4U=e0075 4V=e0076 4W=e0077 4X=e0078 4Y=e0079 4Z=e007a 1LEFT_CURLY_BRACKET=e007b 2PARENTHESIS=e0028
2SQUARE_BRACKET=e005b 1LESS-THAN_SIGN=e003c 1LOW_LINE=e005f 1NUMBER_SIGN=e0023 1PERCENT_SIGN=e0025
1PLUS_SIGN=e002b 1QUESTION_MARK=e003f 1QUOTATION_MARK=e0022 1REVERSE_SOLIDUS=e005c
1RIGHT_CURLY_BRACKET=e007d 2PARENTHESIS=e0029 2SQUARE_BRACKET=e005d 1SEMICOLON=e003b 1SOLIDUS=e002f
1SPACE=e0020 1TILDE=e007e 1VERTICAL_LINE=e007c 0TAGALOG_LETTER_A=1700 2ARCHAIC_RA=171f 2BA=170a
2DA=1707 2GA=1704 2HA=1711 2I=1701 2KA=1703 2LA=170e 2MA=170b 2NA=1708 2NGA=1705 2PA=1709 2RA=170d
2SA=1710 2TA=1706 2U=1702 2WA=170f 2YA=170c 1SIGN_PAMUDPOD=1715 2VIRAMA=1714 1VOWEL_SIGN_I=1712
3U=1713 0TAGBANWA_LETTER_A=1760 2BA=176a 2DA=1767 2GA=1764 2I=1761 2KA=1763 2LA=176e 2MA=176b
2NA=1768 2NGA=1765 2PA=1769 2SA=1770 2TA=1766 2U=1762 2WA=176f 2YA=176c 1VOWEL_SIGN_I=1772 3U=1773
0TAI_LE_LETTER_A=1963 3AI=196d 3AUE=196c 3E=196b 3EE=1965 3EH=1966 3FA=195c 3HA=195e 3I=1964
3KA=1950 3KHA=1960 3LA=1958 3MA=195b 3NA=1962 3NGA=1952 3O=1969 3OO=1968 3PA=1959 3PHA=195a
3QA=195f 3SA=1954 3TA=1956 3THA=1957 3TONE-2=1970 3TONE-3=1971 3TONE-4=1972 3TONE-5=1973
3TONE-6=1974 3TSA=1953 3TSHA=1961 3U=1967 3UE=196a 3VA=195d 3XA=1951 3YA=1955
1THAM_COMBINING_CRYPTOGRAMMIC_DOT=1a7f 2CONSONANT_SIGN_BA=1a5d 4FINAL_NGA=1a59
4HIGH_RATHA_OR_LOW_PA=1a5b 4LA_TANG_LAI=1a57 4LOW_PA=1a5a 4MA=1a5c 4MEDIAL_LA=1a56 5RA=1a55
4SA=1a5e 2HORA_DIGIT_EIGHT=1a88 4FIVE=1a85 4FOUR=1a84 4NINE=1a89 4ONE=1a81 4SEVEN=1a87 4SIX=1a86
4THREE=1a83 4TWO=1a82 4ZERO=1a80 2LETTER_A=1a4b 3BA=1a37 3DA=1a2f 3EE=1a51 3GREAT_SA=1a54
3HIGH_CA=1a27 4CHA=1a28 4FA=1a3a 4HA=1a49 4KA=1a20 4KHA=1a21 4KXA=1a22 4PA=1a38 4PHA=1a39
4RATHA=1a2e 4SA=1a48 4SHA=1a46 4SSA=1a47 4TA=1a32 4THA=1a33 4YA=1a40 3I=1a4d 3II=1a4e 3LA=1a43
3LAE=1a53 3LLA=1a4a 3LOW_CA=1a29 4CHA=1a2b 4FA=1a3c 4HA=1a4c 4KA=1a23 4KHA=1a25 4KXA=1a24 4PA=1a3b
4PHA=1a3d 4RATHA=1a30 4SA=1a2a 4TA=1a34 4THA=1a35 4YA=1a3f 3LUE=1a44 3MA=1a3e 3NA=1a36 3NGA=1a26
3NYA=1a2c 3OO=1a52 3RA=1a41 3RANA=1a31 3RATA=1a2d 3RUE=1a42 3U=1a4f 3UU=1a50 3WA=1a45
2SIGN_CAANG=1aad 3DOKMAI=1aa5 3HANG=1aac 3HOY=1aa4 3KAAN=1aa8 3KAANKUU=1aa9 3KEOW=1aa3
3KHUEN_TONE-3=1a77 4TONE-4=1a78 4TONE-5=1a79 3KHUEN-LUE_KARAN=1a7c 3MAI_KANG=1a74 5LAI=1a58
4SAM=1a7b 4YAMOK=1aa7 3RA_HAAM=1a7a 3REVERSED_ROTATED_RANA=1aa6 3SAKOT=1a60 3SATKAAN=1aaa
3SATKAANKUU=1aab 3SAWAN=1aa2 3TONE-1=1a75 3TONE-2=1a76 3WIANG=1aa0 3WIANGWAAK=1aa1
2THAM_DIGIT_EIGHT=1a98 4FIVE=1a95 4FOUR=1a94 4NINE=1a99 4ONE=1a91 4SEVEN=1a97 4SIX=1a96 4THREE=1a93
4TWO=1a92 4ZERO=1a90 2VOWEL_SIGN_A=1a61 4AA=1a63 4AE=1a6f 4AI=1a71 4E=1a6e 4I=1a65 4II=1a66
4MAI_SAT=1a62 4O=1a6b 4OA_ABOVE=1a73 5BELOW=1a6c 4OO=1a70 4OY=1a6d 4TALL_AA=1a64 4THAM_AI=1a72
4U=1a69 4UE=1a67 4UU=1a6a 4UUE=1a68 1VIET_LETTER_HIGH_BO=aa9b 4CHO=aa8d 4CO=aa8b 4DO=aa93 4FO=aaa1
4GO=aa87 4HO=aaad 4KHHO=aa85 4KHO=aa83 4KO=aa81 4LO=aaa9 4MO=aaa3 4NGO=aa89 4NO=aa99 4NYO=aa91
4O=aaaf 4PHO=aa9f 4PO=aa9d 4RO=aaa7 4SO=aa8f 4THO=aa97 4TO=aa95 4VO=aaab 4YO=aaa5 3LOW_BO=aa9a
4CHO=aa8c 4CO=aa8a 4DO=aa92 4FO=aaa0 4GO=aa86 4HO=aaac 4KHHO=aa84 4KHO=aa82 4KO=aa80 4LO=aaa8
4MO=aaa2 4NGO=aa88 4NO=aa98 4NYO=aa90 4O=aaae 4PHO=aa9e 4PO=aa9c 4RO=aaa6 4SO=aa8e 4THO=aa96
4TO=aa94 4VO=aaaa 4YO=aaa4 2MAI_KANG=aab0 3KHIT=aab7 2SYMBOL_HO_HOI=aade 3KOI_KOI=aadf 3KON=aadb
3NUENG=aadc 3SAM=aadd 2TONE_MAI_EK=aabf 4NUENG=aac0 4SONG=aac2 4THO=aac1 2VOWEL_AA=aab1 3AM=aabe
3AN=aabd 3AUE=aabb 3AY=aabc 3E=aab5 3I=aab2 3IA=aab8 3O=aab6 3U=aab4 3UA=aaba 3UE=aab3 3UEA=aab9
0TAKEOUT_BOX=1f961 0TAKRI_ABBREVIATION_SIGN=116b9 1DIGIT_EIGHT=116c8 2FIVE=116c5 2FOUR=116c4
2NINE=116c9 2ONE=116c1 2SEVEN=116c7 2SIX=116c6 2THREE=116c3 2TWO=116c2 2ZERO=116c0 1LETTER_A=11680
2AA=11681 2AI=11687 2ARCHAIC_KHA=116b8 2AU=11689 2BA=116a0 2BHA=116a1 2CA=1168f 2CHA=11690
2DA=1169b 2DDA=11696 2DDHA=11697 2DHA=1169c 2E=11686 2GA=1168c 2GHA=1168d 2HA=116a9 2I=11682
2II=11683 2JA=11691 2JHA=11692 2KA=1168a 2KHA=1168b 2LA=116a5 2MA=116a2 2NA=1169d 2NGA=1168e
2NNA=11698 2NYA=11693 2O=11688 2PA=1169e 2PHA=1169f 2RA=116a4 2RRA=116aa 2SA=116a8 2SHA=116a7
2TA=11699 2THA=1169a 2TTA=11694 2TTHA=11695 2U=11684 2UU=11685 2VA=116a6 2YA=116a3
1SIGN_ANUSVARA=116ab 2NUKTA=116b7 2VIRAMA=116b6 2VISARGA=116ac 1VOWEL_SIGN_AA=116ad 3AI=116b3
3AU=116b5 3E=116b2 3I=116ae 3II=116af 3O=116b4 3U=116b0 3UU=116b1 0TALLY_MARK_FIVE=1d378 2ONE=1d377
0TAMALE=1fad4 0TAMIL_AND_ODD_SIGN=11feb 1AS_ABOVE_SIGN=bf8 1AU_LENGTH_MARK=bd7 1CREDIT_SIGN=bf7
1CURRENT_SIGN=11fea 1DAY_SIGN=bf3 1DEBIT_SIGN=bf6 1DIGIT_EIGHT=bee 2FIVE=beb 2FOUR=bea 2NINE=bef
2ONE=be7 2SEVEN=bed 2SIX=bec 2THREE=be9 2TWO=be8 2ZERO=be6 1DRY_CULTIVATION_SIGN=11fe5
1FRACTION_DOWNSCALING_FACTOR_KIIZH=11fd4 2ONE_EIGHTH=11fcc 3EIGHTIETH=11fc2 3FIFTH=11fcf
3FORTIETH=11fc4 3HALF-1=11fd1 3HALF-2=11fd2 3ONE-HUNDRED-AND-SIXTIETH=11fc1 3QUARTER=11fd0
3SIXTEENTH-1=11fc9 3SIXTEENTH-2=11fca 3SIXTY-FOURTH=11fc3 3TENTH=11fcb 3THIRTY-SECOND=11fc5
3THREE-HUNDRED-AND-TWENTIETH=11fc0 3TWENTIETH=11fc8 2THREE_EIGHTIETHS=11fc6 3QUARTERS=11fd3
3SIXTEENTHS=11fce 3SIXTY-FOURTHS=11fc7 3TWENTIETHS=11fcd 1IN_POSSESSION_SIGN=11fee 1LAND_SIGN=11fe6
1LETTER_A=b85 2AA=b86 2AI=b90 2AU=b94 2CA=b9a 2E=b8e 2EE=b8f 2HA=bb9 2I=b87 2II=b88 2JA=b9c 2KA=b95
2LA=bb2 2LLA=bb3 2LLLA=bb4 2MA=bae 2NA=ba8 2NGA=b99 2NNA=ba3 2NNNA=ba9 2NYA=b9e 2O=b92 2OO=b93
2PA=baa 2RA=bb0 2RRA=bb1 2SA=bb8 2SHA=bb6 2SSA=bb7 2TA=ba4 2TTA=b9f 2U=b89 2UU=b8a 2VA=bb5 2YA=baf
1MONTH_SIGN=bf4 1NUMBER_ONE_HUNDRED=bf1 3THOUSAND=bf2 2SIGN=bfa 2TEN=bf0 1OM=bd0
1PUNCTUATION_END_OF_TEXT=11fff 1RUPEE_SIGN=bf9 1SALT_PAN_SIGN=11fe7 1SIGN_AAZHAAKKU=11fd7
2ANUSVARA=b82 2CEVITU=11fd6 2KAACU=11fdd 2KURUNI=11fda 2KUZHI=11fe2 2MUKKURUNI=11fdc
2MUTHALIYA=11ff0 2MUUVUZHAKKU=11fd9 2NEL=11fd5 2PAARAM=11fe1 2PANAM=11fde 2PATHAKKU=11fdb
2PON=11fdf 2UZHAKKU=11fd8 2VAKAIYARAA=11ff1 2VARAAKAN=11fe0 2VELI=11fe3 2VIRAMA=bcd 2VISARGA=b83
1SPENT_SIGN=11fec 1STARTING_FROM_SIGN=11fef 1TOTAL_SIGN=11fed 1TRADITIONAL_CREDIT_SIGN=11fe8
2NUMBER_SIGN=11fe9 1VOWEL_SIGN_AA=bbe 3AI=bc8 3AU=bcc 3E=bc6 3EE=bc7 3I=bbf 3II=bc0 3O=bca 3OO=bcb
3U=bc1 3UU=bc2 1WET_CULTIVATION_SIGN=11fe4 1YEAR_SIGN=bf5 0TANABATA_TREE=1f38b 0TANGERINE=1f34a
0TANGSA_DIGIT_EIGHT=16ac8 2FIVE=16ac5 2FOUR=16ac4 2NINE=16ac9 2ONE=16ac1 2SEVEN=16ac7 2SIX=16ac6
2THREE=16ac3 2TWO=16ac2 2ZERO=16ac0 1LETTER_AC=16a75 2AQ=16a76 2AWC=16a89 2AWQ=16a8a 2AWX=16a8b
2AWZ=16a88 2AX=16a77 2AZ=16a74 2BA=16aaa 2CA=16ab5 2CHA=16abd 2DA=16ab1 2DHA=16abc 2EC=16a7d
2EQ=16a7e 2EX=16a7f 2EZ=16a7c 2FA=16abb 2FINAL_NG=16a90 2GA=16aa2 2GHA=16ab7 2HA=16aad 2HTA=16aaf
2HTTA=16ab8 2IC=16a81 2IQ=16a82 2IX=16a83 2IZ=16a80 2KA=16aa0 2KHA=16aa1 2LA=16aae 2LONG_UEX=16a91
2MA=16aab 2MC=16a9d 2MQ=16a9e 2MX=16a9f 2MZ=16a9c 2NA=16aac 2NGA=16aa3 2NHA=16ab3 2NYA=16aa8
2OC=16a71 2OQ=16a72 2OX=16a73 2OZ=16a70 2PA=16aa7 2PHA=16aa9 2RA=16ab2 2SA=16aa4 2SHA=16ab4
2SHORT_AWX=16a93 3UEZ=16a92 2TA=16ab0 2THA=16ab9 2TSA=16ab6 2UC=16a85 2UEC=16a94 2UEQ=16a96
2UEX=16a97 2UEZ=16a95 2UIC=16a8d 2UIQ=16a8e 2UIUC=16a99 2UIUQ=16a9a 2UIUX=16a9b 2UIUZ=16a98
2UIX=16a8f 2UIZ=16a8c 2UQ=16a86 2UX=16a87 2UZ=16a84 2VC=16a79 2VQ=16a7a 2VX=16a7b 2VZ=16a78
2WA=16aa6 2XA=16aba 2YA=16aa5 2ZA=16abe 0TANGUT_COMPONENT-001=18800 1COMPONENT-002=18801
1COMPONENT-003=18802 1COMPONENT-004=18803 1COMPONENT-005=18804 1COMPONENT-006=18805
1COMPONENT-007=18806 1COMPONENT-008=18807 1COMPONENT-009=18808 1COMPONENT-010=18809
1COMPONENT-011=1880a 1COMPONENT-012=1880b 1COMPONENT-013=1880c 1COMPONENT-014=1880d
1COMPONENT-015=1880e 1COMPONENT-016=1880f 1COMPONENT-017=18810 1COMPONENT-018=18811
1COMPONENT-019=18812 1COMPONENT-020=18813 1COMPONENT-021=18814 1COMPONENT-022=18815
1COMPONENT-023=18816 1COMPONENT-024=18817 1COMPONENT-025=18818 1COMPONENT-026=18819
1COMPONENT-027=1881a 1COMPONENT-028=1881b 1COMPONENT-029=1881c 1COMPONENT-030=1881d
1COMPONENT-031=1881e 1COMPONENT-032=1881f 1COMPONENT-033=18820 1COMPONENT-034=18821
1COMPONENT-035=18822 1COMPONENT-036=18823 1COMPONENT-037=18824 1COMPONENT-038=18825
1COMPONENT-039=18826 1COMPONENT-040=18827 1COMPONENT-041=18828 1COMPONENT-042=18829
1COMPONENT-043=1882a 1COMPONENT-044=1882b 1COMPONENT-045=1882c 1COMPONENT-046=1882d
1COMPONENT-047=1882e 1COMPONENT-048=1882f 1COMPONENT-049=18830 1COMPONENT-050=18831
1COMPONENT-051=18832 1COMPONENT-052=18833 1COMPONENT-053=18834 1COMPONENT-054=18835
1COMPONENT-055=18836 1COMPONENT-056=18837 1COMPONENT-057=18838 1COMPONENT-058=18839
1COMPONENT-059=1883a 1COMPONENT-060=1883b 1COMPONENT-061=1883c 1COMPONENT-062=1883d
1COMPONENT-063=1883e 1COMPONENT-064=1883f 1COMPONENT-065=18840 1COMPONENT-066=18841
1COMPONENT-067=18842 1COMPONENT-068=18843 1COMPONENT-069=18844 1COMPONENT-070=18845
1COMPONENT-071=18846 1COMPONENT-072=18847 1COMPONENT-073=18848 1COMPONENT-074=18849
1COMPONENT-075=1884a 1COMPONENT-076=1884b 1COMPONENT-077=1884c 1COMPONENT-078=1884d
1COMPONENT-079=1884e 1COMPONENT-080=1884f 1COMPONENT-081=18850 1COMPONENT-082=18851
1COMPONENT-083=18852 1COMPONENT-084=18853 1COMPONENT-085=18854 1COMPONENT-086=18855
1COMPONENT-087=18856 1COMPONENT-088=18857 1COMPONENT-089=18858 1COMPONENT-090=18859
1COMPONENT-091=1885a 1COMPONENT-092=1885b 1COMPONENT-093=1885c 1COMPONENT-094=1885d
1COMPONENT-095=1885e 1COMPONENT-096=1885f 1COMPONENT-097=18860 1COMPONENT-098=18861
1COMPONENT-099=18862 1COMPONENT-100=18863 1COMPONENT-101=18864 1COMPONENT-102=18865
1COMPONENT-103=18866 1COMPONENT-104=18867 1COMPONENT-105=18868 1COMPONENT-106=18869
1COMPONENT-107=1886a 1COMPONENT-108=1886b 1COMPONENT-109=1886c 1COMPONENT-110=1886d
1COMPONENT-111=1886e 1COMPONENT-112=1886f 1COMPONENT-113=18870 1COMPONENT-114=18871
1COMPONENT-115=18872 1COMPONENT-116=18873 1COMPONENT-117=18874 1COMPONENT-118=18875
1COMPONENT-119=18876 1COMPONENT-120=18877 1COMPONENT-121=18878 1COMPONENT-122=18879
1COMPONENT-123=1887a 1COMPONENT-124=1887b 1COMPONENT-125=1887c 1COMPONENT-126=1887d
1COMPONENT-127=1887e 1COMPONENT-128=1887f 1COMPONENT-129=18880 1COMPONENT-130=18881
1COMPONENT-131=18882 1COMPONENT-132=18883 1COMPONENT-133=18884 1COMPONENT-134=18885
1COMPONENT-135=18886 1COMPONENT-136=18887 1COMPONENT-137=18888 1COMPONENT-138=18889
1COMPONENT-139=1888a 1COMPONENT-140=1888b 1COMPONENT-141=1888c 1COMPONENT-142=1888d
1COMPONENT-143=1888e 1COMPONENT-144=1888f 1COMPONENT-145=18890 1COMPONENT-146=18891
1COMPONENT-147=18892 1COMPONENT-148=18893 1COMPONENT-149=18894 1COMPONENT-150=18895
1COMPONENT-151=18896 1COMPONENT-152=18897 1COMPONENT-153=18898 1COMPONENT-154=18899
1COMPONENT-155=1889a 1COMPONENT-156=1889b 1COMPONENT-157=1889c 1COMPONENT-158=1889d
1COMPONENT-159=1889e 1COMPONENT-160=1889f 1COMPONENT-161=188a0 1COMPONENT-162=188a1
1COMPONENT-163=188a2 1COMPONENT-164=188a3 1COMPONENT-165=188a4 1COMPONENT-166=188a5
1COMPONENT-167=188a6 1COMPONENT-168=188a7 1COMPONENT-169=188a8 1COMPONENT-170=188a9
1COMPONENT-171=188aa 1COMPONENT-172=188ab 1COMPONENT-173=188ac 1COMPONENT-174=188ad
1COMPONENT-175=188ae 1COMPONENT-176=188af 1COMPONENT-177=188b0 1COMPONENT-178=188b1
1COMPONENT-179=188b2 1COMPONENT-180=188b3 1COMPONENT-181=188b4 1COMPONENT-182=188b5
1COMPONENT-183=188b6 1COMPONENT-184=188b7 1COMPONENT-185=188b8 1COMPONENT-186=188b9
1COMPONENT-187=188ba 1COMPONENT-188=188bb 1COMPONENT-189=188bc 1COMPONENT-190=188bd
1COMPONENT-191=188be 1COMPONENT-192=188bf 1COMPONENT-193=188c0 1COMPONENT-194=188c1
1COMPONENT-195=188c2 1COMPONENT-196=188c3 1COMPONENT-197=188c4 1COMPONENT-198=188c5
1COMPONENT-199=188c6 1COMPONENT-200=188c7 1COMPONENT-201=188c8 1COMPONENT-202=188c9
1COMPONENT-203=188ca 1COMPONENT-204=188cb 1COMPONENT-205=188cc 1COMPONENT-206=188cd
1COMPONENT-207=188ce 1COMPONENT-208=188cf 1COMPONENT-209=188d0 1COMPONENT-210=188d1
1COMPONENT-211=188d2 1COMPONENT-212=188d3 1COMPONENT-213=188d4 1COMPONENT-214=188d5
1COMPONENT-215=188d6 1COMPONENT-216=188d7 1COMPONENT-217=188d8 1COMPONENT-218=188d9
1COMPONENT-219=188da 1COMPONENT-220=188db 1COMPONENT-221=188dc 1COMPONENT-222=188dd
1COMPONENT-223=188de 1COMPONENT-224=188df 1COMPONENT-225=188e0 1COMPONENT-226=188e1
1COMPONENT-227=188e2 1COMPONENT-228=188e3 1COMPONENT-229=188e4 1COMPONENT-230=188e5
1COMPONENT-231=188e6 1COMPONENT-232=188e7 1COMPONENT-233=188e8 1COMPONENT-234=188e9
1COMPONENT-235=188ea 1COMPONENT-236=188eb 1COMPONENT-237=188ec 1COMPONENT-238=188ed
1COMPONENT-239=188ee 1COMPONENT-240=188ef 1COMPONENT-241=188f0 1COMPONENT-242=188f1
1COMPONENT-243=188f2 1COMPONENT-244=188f3 1COMPONENT-245=188f4 1COMPONENT-246=188f5
1COMPONENT-247=188f6 1COMPONENT-248=188f7 1COMPONENT-249=188f8 1COMPONENT-250=188f9
1COMPONENT-251=188fa 1COMPONENT-252=188fb 1COMPONENT-253=188fc 1COMPONENT-254=188fd
1COMPONENT-255=188fe 1COMPONENT-256=188ff 1COMPONENT-257=18900 1COMPONENT-258=18901
1COMPONENT-259=18902 1COMPONENT-260=18903 1COMPONENT-261=18904 1COMPONENT-262=18905
1COMPONENT-263=18906 1COMPONENT-264=18907 1COMPONENT-265=18908 1COMPONENT-266=18909
1COMPONENT-267=1890a 1COMPONENT-268=1890b 1COMPONENT-269=1890c 1COMPONENT-270=1890d
1COMPONENT-271=1890e 1COMPONENT-272=1890f 1COMPONENT-273=18910 1COMPONENT-274=18911
1COMPONENT-275=18912 1COMPONENT-276=18913 1COMPONENT-277=18914 1COMPONENT-278=18915
1COMPONENT-279=18916 1COMPONENT-280=18917 1COMPONENT-281=18918 1COMPONENT-282=18919
1COMPONENT-283=1891a 1COMPONENT-284=1891b 1COMPONENT-285=1891c 1COMPONENT-286=1891d
1COMPONENT-287=1891e 1COMPONENT-288=1891f 1COMPONENT-289=18920 1COMPONENT-290=18921
1COMPONENT-291=18922 1COMPONENT-292=18923 1COMPONENT-293=18924 1COMPONENT-294=18925
1COMPONENT-295=18926 1COMPONENT-296=18927 1COMPONENT-297=18928 1COMPONENT-298=18929
1COMPONENT-299=1892a 1COMPONENT-300=1892b 1COMPONENT-301=1892c 1COMPONENT-302=1892d
1COMPONENT-303=1892e 1COMPONENT-304=1892f 1COMPONENT-305=18930 1COMPONENT-306=18931
1COMPONENT-307=18932 1COMPONENT-308=18933 1COMPONENT-309=18934 1COMPONENT-310=18935
1COMPONENT-311=18936 1COMPONENT-312=18937 1COMPONENT-313=18938 1COMPONENT-314=18939
1COMPONENT-315=1893a 1COMPONENT-316=1893b 1COMPONENT-317=1893c 1COMPONENT-318=1893d
1COMPONENT-319=1893e 1COMPONENT-320=1893f 1COMPONENT-321=18940 1COMPONENT-322=18941
1COMPONENT-323=18942 1COMPONENT-324=18943 1COMPONENT-325=18944 1COMPONENT-326=18945
1COMPONENT-327=18946 1COMPONENT-328=18947 1COMPONENT-329=18948 1COMPONENT-330=18949
1COMPONENT-331=1894a 1COMPONENT-332=1894b 1COMPONENT-333=1894c 1COMPONENT-334=1894d
1COMPONENT-335=1894e 1COMPONENT-336=1894f 1COMPONENT-337=18950 1COMPONENT-338=18951
1COMPONENT-339=18952 1COMPONENT-340=18953 1COMPONENT-341=18954 1COMPONENT-342=18955
1COMPONENT-343=18956 1COMPONENT-344=18957 1COMPONENT-345=18958 1COMPONENT-346=18959
1COMPONENT-347=1895a 1COMPONENT-348=1895b 1COMPONENT-349=1895c 1COMPONENT-350=1895d
1COMPONENT-351=1895e 1COMPONENT-352=1895f 1COMPONENT-353=18960 1COMPONENT-354=18961
1COMPONENT-355=18962 1COMPONENT-356=18963 1COMPONENT-357=18964 1COMPONENT-358=18965
1COMPONENT-359=18966 1COMPONENT-360=18967 1COMPONENT-361=18968 1COMPONENT-362=18969
1COMPONENT-363=1896a 1COMPONENT-364=1896b 1COMPONENT-365=1896c 1COMPONENT-366=1896d
1COMPONENT-367=1896e 1COMPONENT-368=1896f 1COMPONENT-369=18970 1COMPONENT-370=18971
1COMPONENT-371=18972 1COMPONENT-372=18973 1COMPONENT-373=18974 1COMPONENT-374=18975
1COMPONENT-375=18976 1COMPONENT-376=18977 1COMPONENT-377=18978 1COMPONENT-378=18979
1COMPONENT-379=1897a 1COMPONENT-380=1897b 1COMPONENT-381=1897c 1COMPONENT-382=1897d
1COMPONENT-383=1897e 1COMPONENT-384=1897f 1COMPONENT-385=18980 1COMPONENT-386=18981
1COMPONENT-387=18982 1COMPONENT-388=18983 1COMPONENT-389=18984 1COMPONENT-390=18985
1COMPONENT-391=18986 1COMPONENT-392=18987 1COMPONENT-393=18988 1COMPONENT-394=18989
1COMPONENT-395=1898a 1COMPONENT-396=1898b 1COMPONENT-397=1898c 1COMPONENT-398=1898d
1COMPONENT-399=1898e 1COMPONENT-400=1898f 1COMPONENT-401=18990 1COMPONENT-402=18991
1COMPONENT-403=18992 1COMPONENT-404=18993 1COMPONENT-405=18994 1COMPONENT-406=18995
1COMPONENT-407=18996 1COMPONENT-408=18997 1COMPONENT-409=18998 1COMPONENT-410=18999
1COMPONENT-411=1899a 1COMPONENT-412=1899b 1COMPONENT-413=1899c 1COMPONENT-414=1899d
1COMPONENT-415=1899e 1COMPONENT-416=1899f 1COMPONENT-417=189a0 1COMPONENT-418=189a1
1COMPONENT-419=189a2 1COMPONENT-420=189a3 1COMPONENT-421=189a4 1COMPONENT-422=189a5
1COMPONENT-423=189a6 1COMPONENT-424=189a7 1COMPONENT-425=189a8 1COMPONENT-426=189a9
1COMPONENT-427=189aa 1COMPONENT-428=189ab 1COMPONENT-429=189ac 1COMPONENT-430=189ad
1COMPONENT-431=189ae 1COMPONENT-432=189af 1COMPONENT-433=189b0 1COMPONENT-434=189b1
1COMPONENT-435=189b2 1COMPONENT-436=189b3 1COMPONENT-437=189b4 1COMPONENT-438=189b5
1COMPONENT-439=189b6 1COMPONENT-440=189b7 1COMPONENT-441=189b8 1COMPONENT-442=189b9
1COMPONENT-443=189ba 1COMPONENT-444=189bb 1COMPONENT-445=189bc 1COMPONENT-446=189bd
1COMPONENT-447=189be 1COMPONENT-448=189bf 1COMPONENT-449=189c0 1COMPONENT-450=189c1
1COMPONENT-451=189c2 1COMPONENT-452=189c3 1COMPONENT-453=189c4 1COMPONENT-454=189c5
1COMPONENT-455=189c6 1COMPONENT-456=189c7 1COMPONENT-457=189c8 1COMPONENT-458=189c9
1COMPONENT-459=189ca 1COMPONENT-460=189cb 1COMPONENT-461=189cc 1COMPONENT-462=189cd
1COMPONENT-463=189ce 1COMPONENT-464=189cf 1COMPONENT-465=189d0 1COMPONENT-466=189d1
1COMPONENT-467=189d2 1COMPONENT-468=189d3 1COMPONENT-469=189d4 1COMPONENT-470=189d5
1COMPONENT-471=189d6 1COMPONENT-472=189d7 1COMPONENT-473=189d8 1COMPONENT-474=189d9
1COMPONENT-475=189da 1COMPONENT-476=189db 1COMPONENT-477=189dc 1COMPONENT-478=189dd
1COMPONENT-479=189de 1COMPONENT-480=189df 1COMPONENT-481=189e0 1COMPONENT-482=189e1
1COMPONENT-483=189e2 1COMPONENT-484=189e3 1COMPONENT-485=189e4 1COMPONENT-486=189e5
1COMPONENT-487=189e6 1COMPONENT-488=189e7 1COMPONENT-489=189e8 1COMPONENT-490=189e9
1COMPONENT-491=189ea 1COMPONENT-492=189eb 1COMPONENT-493=189ec 1COMPONENT-494=189ed
1COMPONENT-495=189ee 1COMPONENT-496=189ef 1COMPONENT-497=189f0 1COMPONENT-498=189f1
1COMPONENT-499=189f2 1COMPONENT-500=189f3 1COMPONENT-501=189f4 1COMPONENT-502=189f5
1COMPONENT-503=189f6 1COMPONENT-504=189f7 1COMPONENT-505=189f8 1COMPONENT-506=189f9
1COMPONENT-507=189fa 1COMPONENT-508=189fb 1COMPONENT-509=189fc 1COMPONENT-510=189fd
1COMPONENT-511=189fe 1COMPONENT-512=189ff 1COMPONENT-513=18a00 1COMPONENT-514=18a01
1COMPONENT-515=18a02 1COMPONENT-516=18a03 1COMPONENT-517=18a04 1COMPONENT-518=18a05
1COMPONENT-519=18a06 1COMPONENT-520=18a07 1COMPONENT-521=18a08 1COMPONENT-522=18a09
1COMPONENT-523=18a0a 1COMPONENT-524=18a0b 1COMPONENT-525=18a0c 1COMPONENT-526=18a0d
1COMPONENT-527=18a0e 1COMPONENT-528=18a0f 1COMPONENT-529=18a10 1COMPONENT-530=18a11
1COMPONENT-531=18a12 1COMPONENT-532=18a13 1COMPONENT-533=18a14 1COMPONENT-534=18a15
1COMPONENT-535=18a16 1COMPONENT-536=18a17 1COMPONENT-537=18a18 1COMPONENT-538=18a19
1COMPONENT-539=18a1a 1COMPONENT-540=18a1b 1COMPONENT-541=18a1c 1COMPONENT-542=18a1d
1COMPONENT-543=18a1e 1COMPONENT-544=18a1f 1COMPONENT-545=18a20 1COMPONENT-546=18a21
1COMPONENT-547=18a22 1COMPONENT-548=18a23 1COMPONENT-549=18a24 1COMPONENT-550=18a25
1COMPONENT-551=18a26 1COMPONENT-552=18a27 1COMPONENT-553=18a28 1COMPONENT-554=18a29
1COMPONENT-555=18a2a 1COMPONENT-556=18a2b 1COMPONENT-557=18a2c 1COMPONENT-558=18a2d
1COMPONENT-559=18a2e 1COMPONENT-560=18a2f 1COMPONENT-561=18a30 1COMPONENT-562=18a31
1COMPONENT-563=18a32 1COMPONENT-564=18a33 1COMPONENT-565=18a34 1COMPONENT-566=18a35
1COMPONENT-567=18a36 1COMPONENT-568=18a37 1COMPONENT-569=18a38 1COMPONENT-570=18a39
1COMPONENT-571=18a3a 1COMPONENT-572=18a3b 1COMPONENT-573=18a3c 1COMPONENT-574=18a3d
1COMPONENT-575=18a3e 1COMPONENT-576=18a3f 1COMPONENT-577=18a40 1COMPONENT-578=18a41
1COMPONENT-579=18a42 1COMPONENT-580=18a43 1COMPONENT-581=18a44 1COMPONENT-582=18a45
1COMPONENT-583=18a46 1COMPONENT-584=18a47 1COMPONENT-585=18a48 1COMPONENT-586=18a49
1COMPONENT-587=18a4a 1COMPONENT-588=18a4b 1COMPONENT-589=18a4c 1COMPONENT-590=18a4d
1COMPONENT-591=18a4e 1COMPONENT-592=18a4f 1COMPONENT-593=18a50 1COMPONENT-594=18a51
1COMPONENT-595=18a52 1COMPONENT-596=18a53 1COMPONENT-597=18a54 1COMPONENT-598=18a55
1COMPONENT-599=18a56 1COMPONENT-600=18a57 1COMPONENT-601=18a58 1COMPONENT-602=18a59
1COMPONENT-603=18a5a 1COMPONENT-604=18a5b 1COMPONENT-605=18a5c 1COMPONENT-606=18a5d
1COMPONENT-607=18a5e 1COMPONENT-608=18a5f 1COMPONENT-609=18a60 1COMPONENT-610=18a61
1COMPONENT-611=18a62 1COMPONENT-612=18a63 1COMPONENT-613=18a64 1COMPONENT-614=18a65
1COMPONENT-615=18a66 1COMPONENT-616=18a67 1COMPONENT-617=18a68 1COMPONENT-618=18a69
1COMPONENT-619=18a6a 1COMPONENT-620=18a6b 1COMPONENT-621=18a6c 1COMPONENT-622=18a6d
1COMPONENT-623=18a6e 1COMPONENT-624=18a6f 1COMPONENT-625=18a70 1COMPONENT-626=18a71
1COMPONENT-627=18a72 1COMPONENT-628=18a73 1COMPONENT-629=18a74 1COMPONENT-630=18a75
1COMPONENT-631=18a76 1COMPONENT-632=18a77 1COMPONENT-633=18a78 1COMPONENT-634=18a79
1COMPONENT-635=18a7a 1COMPONENT-636=18a7b 1COMPONENT-637=18a7c 1COMPONENT-638=18a7d
1COMPONENT-639=18a7e 1COMPONENT-640=18a7f 1COMPONENT-641=18a80 1COMPONENT-642=18a81
1COMPONENT-643=18a82 1COMPONENT-644=18a83 1COMPONENT-645=18a84 1COMPONENT-646=18a85
1COMPONENT-647=18a86 1COMPONENT-648=18a87 1COMPONENT-649=18a88 1COMPONENT-650=18a89
1COMPONENT-651=18a8a 1COMPONENT-652=18a8b 1COMPONENT-653=18a8c 1COMPONENT-654=18a8d
1COMPONENT-655=18a8e 1COMPONENT-656=18a8f 1COMPONENT-657=18a90 1COMPONENT-658=18a91
1COMPONENT-659=18a92 1COMPONENT-660=18a93 1COMPONENT-661=18a94 1COMPONENT-662=18a95
1COMPONENT-663=18a96 1COMPONENT-664=18a97 1COMPONENT-665=18a98 1COMPONENT-666=18a99
1COMPONENT-667=18a9a 1COMPONENT-668=18a9b 1COMPONENT-669=18a9c 1COMPONENT-670=18a9d
1COMPONENT-671=18a9e 1COMPONENT-672=18a9f 1COMPONENT-673=18aa0 1COMPONENT-674=18aa1
1COMPONENT-675=18aa2 1COMPONENT-676=18aa3 1COMPONENT-677=18aa4 1COMPONENT-678=18aa5
1COMPONENT-679=18aa6 1COMPONENT-680=18aa7 1COMPONENT-681=18aa8 1COMPONENT-682=18aa9
1COMPONENT-683=18aaa 1COMPONENT-684=18aab 1COMPONENT-685=18aac 1COMPONENT-686=18aad
1COMPONENT-687=18aae 1COMPONENT-688=18aaf 1COMPONENT-689=18ab0 1COMPONENT-690=18ab1
1COMPONENT-691=18ab2 1COMPONENT-692=18ab3 1COMPONENT-693=18ab4 1COMPONENT-694=18ab5
1COMPONENT-695=18ab6 1COMPONENT-696=18ab7 1COMPONENT-697=18ab8 1COMPONENT-698=18ab9
1COMPONENT-699=18aba 1COMPONENT-700=18abb 1COMPONENT-701=18abc 1COMPONENT-702=18abd
1COMPONENT-703=18abe 1COMPONENT-704=18abf 1COMPONENT-705=18ac0 1COMPONENT-706=18ac1
1COMPONENT-707=18ac2 1COMPONENT-708=18ac3 1COMPONENT-709=18ac4 1COMPONENT-710=18ac5
1COMPONENT-711=18ac6 1COMPONENT-712=18ac7 1COMPONENT-713=18ac8 1COMPONENT-714=18ac9
1COMPONENT-715=18aca 1COMPONENT-716=18acb 1COMPONENT-717=18acc 1COMPONENT-718=18acd
1COMPONENT-719=18ace 1COMPONENT-720=18acf 1COMPONENT-721=18ad0 1COMPONENT-722=18ad1
1COMPONENT-723=18ad2 1COMPONENT-724=18ad3 1COMPONENT-725=18ad4 1COMPONENT-726=18ad5
1COMPONENT-727=18ad6 1COMPONENT-728=18ad7 1COMPONENT-729=18ad8 1COMPONENT-730=18ad9
1COMPONENT-731=18ada 1COMPONENT-732=18adb 1COMPONENT-733=18adc 1COMPONENT-734=18add
1COMPONENT-735=18ade 1COMPONENT-736=18adf 1COMPONENT-737=18ae0 1COMPONENT-738=18ae1
1COMPONENT-739=18ae2 1COMPONENT-740=18ae3 1COMPONENT-741=18ae4 1COMPONENT-742=18ae5
1COMPONENT-743=18ae6 1COMPONENT-744=18ae7 1COMPONENT-745=18ae8 1COMPONENT-746=18ae9
1COMPONENT-747=18aea 1COMPONENT-748=18aeb 1COMPONENT-749=18aec 1COMPONENT-750=18aed
1COMPONENT-751=18aee 1COMPONENT-752=18aef 1COMPONENT-753=18af0 1COMPONENT-754=18af1
1COMPONENT-755=18af2 1COMPONENT-756=18af3 1COMPONENT-757=18af4 1COMPONENT-758=18af5
1COMPONENT-759=18af6 1COMPONENT-760=18af7 1COMPONENT-761=18af8 1COMPONENT-762=18af9
1COMPONENT-763=18afa 1COMPONENT-764=18afb 1COMPONENT-765=18afc 1COMPONENT-766=18afd
1COMPONENT-767=18afe 1COMPONENT-768=18aff 1ITERATION_MARK=16fe0 0TAPE_CARTRIDGE=1f5ad 1DRIVE=2707
0TAURUS=2649 0TAXI=1f695 0TEACUP_WITHOUT_HANDLE=1f375 0TEAPOT=1fad6 0TEAR-OFF_CALENDAR=1f4c6
0TEARDROP-BARBED_RIGHTWARDS_ARROW=27ba 0TEARDROP-SPOKED_ASTERISK=273b 0TEDDY_BEAR=1f9f8
0TELEPHONE_LOCATION_SIGN=2706 1ON_TOP_OF_MODEM=1f580 1RECEIVER=1f4de 2WITH_PAGE=1f57c
1RECORDER=2315 1SIGN=2121 0TELESCOPE=1f52d 0TELEVISION=1f4fa 0TELUGU_AI_LENGTH_MARK=c56
1DIGIT_EIGHT=c6e 2FIVE=c6b 2FOUR=c6a 2NINE=c6f 2ONE=c67 2SEVEN=c6d 2SIX=c6c 2THREE=c69 2TWO=c68
2ZERO=c66 1FRACTION_DIGIT_ONE_FOR_EVEN_POWERS_OF_FOUR=c7c 5ODD_POWERS_OF_FOUR=c79
3THREE_FOR_EVEN_POWERS_OF_FOUR=c7e 5ODD_POWERS_OF_FOUR=c7b 3TWO_FOR_EVEN_POWERS_OF_FOUR=c7d
5ODD_POWERS_OF_FOUR=c7a 3ZERO_FOR_ODD_POWERS_OF_FOUR=c78 1LENGTH_MARK=c55 1LETTER_A=c05 2AA=c06
2AI=c10 2AU=c14 2BA=c2c 2BHA=c2d 2CA=c1a 2CHA=c1b 2DA=c26 2DDA=c21 2DDHA=c22 2DHA=c27 2DZA=c59
2E=c0e 2EE=c0f 2GA=c17 2GHA=c18 2HA=c39 2I=c07 2II=c08 2JA=c1c 2JHA=c1d 2KA=c15 2KHA=c16 2LA=c32
2LLA=c33 2LLLA=c34 2MA=c2e 2NA=c28 2NAKAARA_POLLU=c5d 2NGA=c19 2NNA=c23 2NYA=c1e 2O=c12 2OO=c13
2PA=c2a 2PHA=c2b 2RA=c30 2RRA=c31 2RRRA=c5a 2SA=c38 2SHA=c36 2SSA=c37 2TA=c24 2THA=c25 2TSA=c58
2TTA=c1f 2TTHA=c20 2U=c09 2UU=c0a 2VA=c35 2VOCALIC_L=c0c 3LL=c61 3R=c0b 3RR=c60 2YA=c2f
1SIGN_ANUSVARA=c02 2AVAGRAHA=c3d 2CANDRABINDU=c01 2COMBINING_ANUSVARA_ABOVE=c04
3CANDRABINDU_ABOVE=c00 2NUKTA=c3c 2SIDDHAM=c77 2TUUMU=c7f 2VIRAMA=c4d 2VISARGA=c03
1VOWEL_SIGN_AA=c3e 3AI=c48 3AU=c4c 3E=c46 3EE=c47 3I=c3f 3II=c40 3O=c4a 3OO=c4b 3U=c41 3UU=c42
3VOCALIC_L=c62 4LL=c63 4R=c43 4RR=c44 0TENGE_SIGN=20b8 0TENNIS_RACQUET_AND_BALL=1f3be 0TENT=26fa
0TEST_TUBE=1f9ea 0TETRAGRAM_FOR_ACCUMULATION=1d341 2ADVANCE=1d319 2AGGRAVATION=1d351 2ASCENT=1d30c
2BARRIER=1d309 2BOLD_RESOLUTION=1d323 2BRANCHING_OUT=1d30e 2CENTRE=1d306 2CHANGE=1d321
2CLOSED_MOUTH=1d33d 2CLOSENESS=1d326 2CLOSURE=1d34f 2COMPLETION=1d34e 2COMPLIANCE=1d352
2CONSTANCY=1d338 2CONTACT=1d315 2CONTENTION=1d31e 2CONTRARIETY=1d30b 2DARKENING=1d348
2DECISIVENESS=1d322 2DEFECTIVENESS_OR_DISTORTION=1d30f 2DEPARTURE=1d347 2DIFFICULTIES=1d354
2DIMINISHMENT=1d33c 2DIMMING=1d349 2DIVERGENCE=1d310 2DOUBT=1d343 2DUTIES=1d320 2EASE=1d31c
2EMBELLISHMENT=1d342 2ENCOUNTERS=1d330 2ENDEAVOUR=1d31f 2ENLARGEMENT=1d333 2ETERNITY=1d33a
2EXHAUSTION=1d34a 2FAILURE=1d350 2FLIGHT=1d336 2FOLLOWING=1d318 2FOSTERING=1d356 2FULL_CIRCLE=1d307
2FULLNESS=1d32b 2GATHERING=1d328 3IN=1d33f 2GOING_TO_MEET=1d32f 2GREATNESS=1d332 2GUARDEDNESS=1d33e
2HARDNESS=1d34d 2HOLDING_BACK=1d316 2INCREASE=1d312 2INNER=1d346 2JOY=1d31d 2KEEPING_SMALL=1d30a
2KINSHIP=1d327 2LABOURING=1d355 2LAW_OR_MODEL=1d32d 2LEGION=1d325 2MASSING=1d340 2MEASURE=1d339
2MIRED=1d308 2ON_THE_VERGE=1d353 2OPPOSITION=1d30d 2PACKING=1d324 2PATTERN=1d334 2PENETRATION=1d313
2PURITY=1d32a 2REACH=1d314 2RELEASE=1d31a 2RESIDENCE=1d32c 2RESISTANCE=1d31b 2RESPONSE=1d32e
2RITUAL=1d335 2SEVERANCE=1d34b 2SINKING=1d345 2STOPPAGE=1d34c 2STOVE=1d331 2STRENGTH=1d329
2UNITY=1d33b 2VASTNESS_OR_WASTING=1d337 2WAITING=1d317 2WATCH=1d344 2YOUTHFULNESS=1d311
0THAANA_AABAAFILI=7a7 1ABAFILI=7a6 1EBEFILI=7ac 1EEBEEFILI=7a9 1EYBEYFILI=7ad 1IBIFILI=7a8
1LETTER_AINU=7a2 2ALIFU=787 2BAA=784 2CHAVIYANI=797 2DAADHU=79f 2DAVIYANI=791 2DHAALU=78b
2FAAFU=78a 2GAAFU=78e 2GHAINU=7a3 2GNAVIYANI=78f 2HAA=780 2HHAA=799 2JAVIYANI=796 2KAAFU=786
2KHAA=79a 2LAAMU=78d 2LHAVIYANI=785 2MEEMU=789 2NAA=7b1 2NOONU=782 2PAVIYANI=795 2QAAFU=7a4
2RAA=783 2SAADHU=79e 2SEENU=790 2SHAVIYANI=781 2SHEENU=79d 2TAVIYANI=793 2THAA=78c 2THAALU=79b
2TO=7a0 2TTAA=798 2VAAVU=788 2WAAVU=7a5 2YAA=794 2ZAA=79c 2ZAVIYANI=792 2ZO=7a1 1OABOAFILI=7af
1OBOFILI=7ae 1OOBOOFILI=7ab 1SUKUN=7b0 1UBUFILI=7aa 0THAI_CHARACTER_ANGKHANKHU=e5a 2BO_BAIMAI=e1a
2CHO_CHAN=e08 3CHANG=e0a 3CHING=e09 3CHOE=e0c 2DO_CHADA=e0e 3DEK=e14 2FO_FA=e1d 3FAN=e1f
2FONGMAN=e4f 2HO_HIP=e2b 3NOKHUK=e2e 2KHO_KHAI=e02 3KHON=e05 3KHUAT=e03 3KHWAI=e04 3RAKHANG=e06
2KHOMUT=e5b 2KO_KAI=e01 2LAKKHANGYAO=e45 2LO_CHULA=e2c 3LING=e25 2LU=e26 2MAI_CHATTAWA=e4b 3EK=e48
3HAN-AKAT=e31 3THO=e49 3TRI=e4a 2MAITAIKHU=e47 2MAIYAMOK=e46 2MO_MA=e21 2NGO_NGU=e07 2NIKHAHIT=e4d
2NO_NEN=e13 3NU=e19 2O_ANG=e2d 2PAIYANNOI=e2f 2PHINTHU=e3a 2PHO_PHAN=e1e 3PHUNG=e1c 3SAMPHAO=e20
2PO_PLA=e1b 2RO_RUA=e23 2RU=e24 2SARA_A=e30 3AA=e32 3AE=e41 3AI_MAIMALAI=e44 4MAIMUAN=e43 3AM=e33
3E=e40 3I=e34 3II=e35 3O=e42 3U=e38 3UE=e36 3UEE=e37 3UU=e39 2SO_RUSI=e29 3SALA=e28 3SO=e0b
3SUA=e2a 2THANTHAKHAT=e4c 2THO_NANGMONTHO=e11 3PHUTHAO=e12 3THAHAN=e17 3THAN=e10 3THONG=e18
3THUNG=e16 2TO_PATAK=e0f 3TAO=e15 2WO_WAEN=e27 2YAMAKKAN=e4e 2YO_YAK=e22 3YING=e0d
1CURRENCY_SYMBOL_BAHT=e3f 1DIGIT_EIGHT=e58 2FIVE=e55 2FOUR=e54 2NINE=e59 2ONE=e51 2SEVEN=e57
2SIX=e56 2THREE=e53 2TWO=e52 2ZERO=e50 0THERE_DOES_NOT_EXIST=2204 1EXISTS=2203 0THEREFORE=2234
0THERMODYNAMIC=29e7 0THERMOMETER=1f321 0THIN_GREEK_CROSS=1f7a1 1SALTIRE=1f7a8 1SPACE=2009
0THINKING_FACE=1f914 0THIRD_PLACE_MEDAL=1f949 0THONG_SANDAL=1fa74 0THOUGHT_BALLOON=1f4ad
0THREE_BUTTON_MOUSE=1f5b1 1CONSECUTIVE_EQUALS_SIGNS=2a76 1DIMENSIONAL_ANGLE=27c0
1DOT_PUNCTUATION=2056 1LEFTWARDS_ARROWS=2b31 1LINES_CONVERGING_LEFT=269f 3RIGHT=269e
1NETWORKED_COMPUTERS=1f5a7 1POINTED_BLACK_STAR=1f7c2 1RAYS_ABOVE=1f5e4 2BELOW=1f5e5 2LEFT=1f5e6
2RIGHT=1f5e7 1RIGHTWARDS_ARROWS=21f6 1SPEECH_BUBBLES=1f5eb
0THREE-D_BOTTOM-LIGHTED_RIGHTWARDS_ARROWHEAD=27a3
1LEFT-LIGHTED_DOWNWARDS_EQUILATERAL_ARROWHEAD=2b9b
1RIGHT-LIGHTED_UPWARDS_EQUILATERAL_ARROWHEAD=2b99 1TOP-LIGHTED_LEFTWARDS_EQUILATERAL_ARROWHEAD=2b98
2RIGHTWARDS_ARROWHEAD=27a2 3EQUILATERAL_ARROWHEAD=2b9a 0THREE-EM_DASH=2e3b 0THREE-PER-EM_SPACE=2004
0THUMBS_DOWN_SIGN=1f44e 1UP_SIGN=1f44d 0THUNDER_CLOUD_AND_RAIN=26c8 0THUNDERSTORM=2608
0TIBETAN_ASTROLOGICAL_SIGN_-KHYUD_PA=f18 3SDONG_TSHUGS=f19 3SGRA_GCAN_-CHAR_RTAGS=f17
1CANTILLATION_SIGN_CANG_TE-U=fc2 3HEAVY_BEAT=fc0 3LIGHT_BEAT=fc1 3SBUB_-CHAL=fc3 1DIGIT_EIGHT=f28
2FIVE=f25 2FOUR=f24 2HALF_EIGHT=f31 3FIVE=f2e 3FOUR=f2d 3NINE=f32 3ONE=f2a 3SEVEN=f30 3SIX=f2f
3THREE=f2c 3TWO=f2b 3ZERO=f33 2NINE=f29 2ONE=f21 2SEVEN=f27 2SIX=f26 2THREE=f23 2TWO=f22 2ZERO=f20
1KU_RU_KHA=fbe 4BZHI_MIG_CAN=fbf 1LETTER_-A=f60 2A=f68 2BA=f56 2BHA=f57 2CA=f45 2CHA=f46 2DA=f51
2DDA=f4c 2DDHA=f4d 2DHA=f52 2DZA=f5b 2DZHA=f5c 2FIXED-FORM_RA=f6a 2GA=f42 2GHA=f43 2HA=f67 2JA=f47
2KA=f40 2KHA=f41 2KKA=f6b 2KSSA=f69 2LA=f63 2MA=f58 2NA=f53 2NGA=f44 2NNA=f4e 2NYA=f49 2PA=f54
2PHA=f55 2RA=f62 2RRA=f6c 2SA=f66 2SHA=f64 2SSA=f65 2TA=f4f 2THA=f50 2TSA=f59 2TSHA=f5a 2TTA=f4a
2TTHA=f4b 2WA=f5d 2YA=f61 2ZA=f5f 2ZHA=f5e 1LOGOTYPE_SIGN_CHAD_RTAGS=f15 3LHAG_RTAGS=f16
1MARK_ANG_KHANG_GYAS=f3d 4GYON=f3c 2BKA-_SHOG_GI_MGO_RGYAN=fd0 4YIG_MGO=f0a 2BSDUS_RTAGS=f34
2BSKA-_SHOG_GI_MGO_RGYAN=fd0 2BSKUR_YIG_MGO=f09 2CARET_-DZUD_RTAGS_BZHI_MIG_CAN=f36
5ME_LONG_CAN=f13 3YIG_MGO_PHUR_SHAD_MA=f06 2CHE_MGO=f38 2CLOSING_BRDA_RNYING_YIG_MGO_SGAB_MA=fd4
3YIG_MGO_SGAB_MA=f05 2DELIMITER_TSHEG_BSTAR=f0c 2GTER_TSHEG=f14 3YIG_MGO_-UM_GTER_TSHEG_MA=f03
6RNAM_BCAD_MA=f02 5TRUNCATED_A=f01 2GUG_RTAGS_GYAS=f3b 4GYON=f3a 2HALANTA=f84
2INITIAL_BRDA_RNYING_YIG_MGO_MDUN_MA=fd3 3YIG_MGO_MDUN_MA=f04 2INTERSYLLABIC_TSHEG=f0b
2LEADING_MCHAN_RTAGS=fd9 2MNYAM_YIG_GI_MGO_RGYAN=fd1 2NGAS_BZUNG_NYI_ZLA=f35 4SGOR_RTAGS=f37
2NYIS_SHAD=f0e 3TSHEG=fd2 4SHAD=f10 2PALUTA=f85 2RGYA_GRAM_SHAD=f12 2RIN_CHEN_SPUNGS_SHAD=f11
2SBRUL_SHAD=f08 2SHAD=f0d 2TRAILING_MCHAN_RTAGS=fda 2TSA_-PHRU=f39 2TSHEG_SHAD=f0f
2YIG_MGO_TSHEG_SHAD_MA=f07 1SIGN_GRU_CAN_RGYINGS=f8a 3MED_RGYINGS=f8b 2INVERTED_MCHU_CAN=f8c
2LCE_TSA_CAN=f88 2LCI_RTAGS=f86 2MAR_TSHES=f3f 2MCHU_CAN=f89 2NYI_ZLA_NAA_DA=f82
2RDEL_DKAR_GCIG=f1a 4GNYIS=f1b 4GSUM=f1c 4RDEL_NAG=f1f 3NAG_GCIG=f1d 4GNYIS=f1e 4GSUM=fcf
4RDEL_DKAR=fce 2RJES_SU_NGA_RO=f7e 2RNAM_BCAD=f7f 2SNA_LDAN=f83 2YANG_RTAGS=f87 2YAR_TSHES=f3e
1SUBJOINED_LETTER_-A=fb0 3A=fb8 3BA=fa6 3BHA=fa7 3CA=f95 3CHA=f96 3DA=fa1 3DDA=f9c 3DDHA=f9d
3DHA=fa2 3DZA=fab 3DZHA=fac 3FIXED-FORM_RA=fbc 4WA=fba 4YA=fbb 3GA=f92 3GHA=f93 3HA=fb7 3JA=f97
3KA=f90 3KHA=f91 3KSSA=fb9 3LA=fb3 3MA=fa8 3NA=fa3 3NGA=f94 3NNA=f9e 3NYA=f99 3PA=fa4 3PHA=fa5
3RA=fb2 3SA=fb6 3SHA=fb4 3SSA=fb5 3TA=f9f 3THA=fa0 3TSA=fa9 3TSHA=faa 3TTA=f9a 3TTHA=f9b 3WA=fad
3YA=fb1 3ZA=faf 3ZHA=fae 2SIGN_INVERTED_MCHU_CAN=f8f 3LCE_TSA_CAN=f8d 3MCHU_CAN=f8e
1SYLLABLE_OM=f00 1SYMBOL_DRIL_BU=fc4 2NOR_BU=fc9 4BZHI_-KHYIL=fcc 4GSUM_-KHYIL=fcb 4NYIS_-KHYIL=fca
2PADMA_GDAN=fc6 2PHUR_PA=fc8 2RDO_RJE=fc5 4RGYA_GRAM=fc7 1VOWEL_SIGN_AA=f71 3E=f7a 3EE=f7b 3I=f72
3II=f73 3O=f7c 3OO=f7d 3REVERSED_I=f80 4II=f81 3U=f74 3UU=f75 3VOCALIC_L=f78 4LL=f79 4R=f76 4RR=f77
0TICKET=1f3ab 0TIE_OVER_INFINITY=29dd 0TIFINAGH_CONSONANT_JOINER=2d7f 1LETTER_AHAGGAR_YAZH=2d4b
2AYER_YAGH=2d58 2BERBER_ACADEMY_YAH=2d41 4YAJ=2d35 2TAWELLEMET_YAZ=2d64 2TUAREG_YAGH=2d57
3YAGN=2d50 3YAH=2d42 3YAK=2d3e 3YAKH=2d46 3YANG=2d51 3YAQ=2d48 3YAZH=2d4c 2YA=2d30 2YAA=2d44
2YAB=2d31 2YABH=2d32 2YACH=2d5e 2YAD=2d37 2YADD=2d39 2YADDH=2d3a 2YADH=2d38 2YAF=2d3c 2YAG=2d33
2YAGH=2d56 2YAGHH=2d34 2YAH=2d40 2YAHH=2d43 2YAJ=2d36 2YAK=2d3d 2YAKH=2d45 2YAKHH=2d3f 2YAL=2d4d
2YAM=2d4e 2YAN=2d4f 2YAP=2d52 2YAQ=2d47 2YAR=2d54 2YARR=2d55 2YAS=2d59 2YASH=2d5b 2YASS=2d5a
2YAT=2d5c 2YATH=2d5d 2YATT=2d5f 2YAV=2d60 2YAW=2d61 2YAY=2d62 2YAZ=2d63 2YAZH=2d4a 2YAZZ=2d65
2YE=2d66 2YEY=2d3b 2YI=2d49 2YO=2d67 2YU=2d53 1MODIFIER_LETTER_LABIALIZATION_MARK=2d6f
1SEPARATOR_MARK=2d70 0TIGER=1f405 1FACE=1f42f 0TIGHT_TRIFOLIATE_SNOWFLAKE=2745 0TILDE=7e
1OPERATOR=223c 2ABOVE_LEFTWARDS_ARROW=2b49 3RIGHTWARDS_ARROW=2972 2WITH_DOT_ABOVE=2a6a
3RISING_DOTS=2a6b 1WITH_DOT_ABOVE=2e1e 3BELOW=2e1f 2RING_ABOVE=2e1b 0TIMER_CLOCK=23f2
0TIMES_WITH_LEFT_HALF_BLACK=29d4 2RIGHT_HALF_BLACK=29d5 0TINY=29fe
1TWO_DOTS_OVER_ONE_DOT_PUNCTUATION=10b3a 0TIRED_FACE=1f62b 0TIRHUTA_ABBREVIATION_SIGN=114c6
1ANJI=11480 1DIGIT_EIGHT=114d8 2FIVE=114d5 2FOUR=114d4 2NINE=114d9 2ONE=114d1 2SEVEN=114d7
2SIX=114d6 2THREE=114d3 2TWO=114d2 2ZERO=114d0 1GVANG=114c5 1LETTER_A=11481 2AA=11482 2AI=1148c
2AU=1148e 2BA=114a5 2BHA=114a6 2CA=11494 2CHA=11495 2DA=114a0 2DDA=1149b 2DDHA=1149c 2DHA=114a1
2E=1148b 2GA=11491 2GHA=11492 2HA=114af 2I=11483 2II=11484 2JA=11496 2JHA=11497 2KA=1148f
2KHA=11490 2LA=114aa 2MA=114a7 2NA=114a2 2NGA=11493 2NNA=1149d 2NYA=11498 2O=1148d 2PA=114a3
2PHA=114a4 2RA=114a9 2SA=114ae 2SHA=114ac 2SSA=114ad 2TA=1149e 2THA=1149f 2TTA=11499 2TTHA=1149a
2U=11485 2UU=11486 2VA=114ab 2VOCALIC_L=11489 3LL=1148a 3R=11487 3RR=11488 2YA=114a8 1OM=114c7
1SIGN_ANUSVARA=114c0 2AVAGRAHA=114c4 2CANDRABINDU=114bf 2NUKTA=114c3 2VIRAMA=114c2 2VISARGA=114c1
1VOWEL_SIGN_AA=114b0 3AI=114bb 3AU=114be 3E=114b9 3I=114b1 3II=114b2 3O=114bc 3SHORT_E=114ba
4O=114bd 3U=114b3 3UU=114b4 3VOCALIC_L=114b7 4LL=114b8 4R=114b5 4RR=114b6
0TIRONIAN_SIGN_CAPITAL_ET=2e52 2ET=204a 0TOILET=1f6bd 0TOKYO_TOWER=1f5fc 0TOMATO=1f345
0TONGUE=1f445 0TOOLBOX=1f9f0 0TOOTH=1f9b7 0TOOTHBRUSH=1faa5 0TOP_ARC_ANTICLOCKWISE_ARROW=293a
4WITH_PLUS=293d 2CLOCKWISE_ARROW_WITH_MINUS=293c 1CURLY_BRACKET=23de 1HALF_BLACK_CIRCLE=2bca
2INTEGRAL=2320 2LEFT_PARENTHESIS=2e59 2RIGHT_PARENTHESIS=2e5a 2SECTION_SIGN=2e39 1HAT=1f3a9
1LEFT_CORNER=231c 2CROP=230f 2HALF_BRACKET=2e22 1PARENTHESIS=23dc 1RIGHT_CORNER=231d 2CROP=230e
2HALF_BRACKET=2e23 1SQUARE_BRACKET=23b4 1TORTOISE_SHELL_BRACKET=23e0
1WITH_UPWARDS_ARROW_ABOVE=1f51d 0TORTOISE_SHELL_BRACKETED_CJK_UNIFIED_IDEOGRAPH-4E09=1f241
5IDEOGRAPH-4E8C=1f242 5IDEOGRAPH-52DD=1f247 5IDEOGRAPH-5B89=1f243 5IDEOGRAPH-6253=1f245
5IDEOGRAPH-6557=1f248 5IDEOGRAPH-672C=1f240 5IDEOGRAPH-70B9=1f244 5IDEOGRAPH-76D7=1f246
3LATIN_CAPITAL_LETTER_S=1f12a 0TOTAL_RUNOUT=2330 0TOTO_LETTER_A=1e2ad 2AE=1e2ab 2BA=1e291
2BREATHY_AE=1e2ac 3E=1e2a7 3EO=1e2a9 3I=1e2a2 3IU=1e2a4 2CHA=1e29a 2DA=1e293 2E=1e2a6 2EO=1e2a8
2GA=1e295 2HA=1e29e 2I=1e2a1 2IU=1e2a3 2JA=1e29d 2KA=1e294 2LA=1e2a0 2MA=1e296 2NA=1e297 2NGA=1e298
2O=1e2aa 2PA=1e290 2RA=1e29f 2SA=1e299 2TA=1e292 2U=1e2a5 2WA=1e29c 2YA=1e29b
1SIGN_RISING_TONE=1e2ae 0TRACKBALL=1f5b2 0TRACTOR=1f69c 0TRADE_MARK_SIGN=2122 0TRAIN=1f686
0TRAM=1f68a 1CAR=1f68b 0TRANSPLUTO=2bd7 0TRANSVERSAL_INTERSECTION=2adb
0TRIANGLE_WITH_DOT_ABOVE=29ca 2ROUNDED_CORNERS=1f6c6 2SERIFS_AT_BOTTOM=29cd 2UNDERBAR=29cb
0TRIANGLE-HEADED_RIGHTWARDS_ARROW=279d 0TRIANGULAR_BULLET=2023 1FLAG_ON_POST=1f6a9 1RULER=1f4d0
0TRICOLON=205d 0TRIDENT_EMBLEM=1f531 0TRIGRAM_FOR_EARTH=2637 2FIRE=2632 2HEAVEN=2630 2LAKE=2631
2MOUNTAIN=2636 2THUNDER=2633 2WATER=2635 2WIND=2634 0TRIPLE_COLON_OPERATOR=2af6 1DAGGER=2e4b
1HORIZONTAL_BAR_WITH_DOUBLE_VERTICAL_STROKE=2a68 4TRIPLE_VERTICAL_STROKE=2a69 1INTEGRAL=222d
1NESTED_GREATER-THAN=2af8 2LESS-THAN=2af7 1PLUS=29fb 1PRIME=2034 1SOLIDUS_BINARY_RELATION=2afb
1TILDE=224b 1VERTICAL_BAR_BINARY_RELATION=2af4 3DELIMITER=2980 3RIGHT_TURNSTILE=22aa
3WITH_HORIZONTAL_STROKE=2af5 0TROLL=1f9cc 0TROLLEYBUS=1f68e 0TROPHY=1f3c6 0TROPICAL_DRINK=1f379
1FISH=1f420 0TRUE=22a8 1LIGHT_MOON_ARTA=2bdf 0TRUMPET=1f3ba 0TUGRIK_SIGN=20ae 0TULIP=1f337
0TUMBLER_GLASS=1f943 0TURKEY=1f983 0TURKISH_LIRA_SIGN=20ba 0TURNED_AMPERSAND=214b 1ANGLE=29a2
1BLACK_PENTAGON=2bc2 2SHOGI_PIECE=26ca 1CAPITAL_F=2132 1COMMA=2e32 1DAGGER=2e38 1DIGIT_THREE=218b
2TWO=218a 1GREEK_SMALL_LETTER_IOTA=2129 1NORTH_EAST_POINTING_LEAF=1f656 2WEST_POINTING_LEAF=1f654
1NOT_SIGN=2319 1OK_HAND_SIGN=1f58f 1SANS-SERIF_CAPITAL_G=2141 3L=2142 3Y=2144 1SEMICOLON=2e35
1SMALL_F=214e 1SOUTH_EAST_POINTING_LEAF=1f657 2WEST_POINTING_LEAF=1f655 1WHITE_SHOGI_PIECE=26c9
0TURTLE=1f422 0TWELVE_POINTED_BLACK_STAR=2739 0TWISTED_RIGHTWARDS_ARROWS=1f500
0TWO_ASTERISKS_ALIGNED_VERTICALLY=2051 1BUTTON_MOUSE=1f5b0 1CONSECUTIVE_EQUALS_SIGNS=2a75
1DOT_LEADER=2025 2PUNCTUATION=205a 1DOTS_OVER_ONE_DOT_PUNCTUATION=2e2a 1HEARTS=1f495
1INTERSECTING_LOGICAL_AND=2a55 3OR=2a56 1JOINED_SQUARES=29c9 1LOGICAL_AND_OPERATOR=2a07
2OR_OPERATOR=2a08 1MEN_HOLDING_HANDS=1f46c 1SPEECH_BUBBLES=1f5ea 1WOMEN_HOLDING_HANDS=1f46d
0TWO-EM_DASH=2e3a"

/-- Names that begin with `U`. -/
def namesU : String :=
  "0UGARITIC_LETTER_AIN=10393 2ALPA=10380 2BETA=10381 2DELTA=10384 2DHAL=1038f 2GAMLA=10382
2GHAIN=10399 2HO=10385 2HOTA=10388 2I=1039b 2KAF=1038b 2KHA=10383 2LAMDA=1038d 2MEM=1038e
2NUN=10390 2PU=10394 2QOPA=10396 2RASHA=10397 2SADE=10395 2SAMKA=10392 2SHIN=1038c 2SSU=1039d
2TET=10389 2THANNA=10398 2TO=1039a 2U=1039c 2WO=10386 2YOD=1038a 2ZETA=10387 2ZU=10391
1WORD_DIVIDER=1039f 0UMBRELLA=2602 1ON_GROUND=26f1 1WITH_RAIN_DROPS=2614 0UNAMUSED_FACE=1f612
0UNCERTAINTY_SIGN=2bd1 0UNDERTIE=203f 0UNDO_SYMBOL=238c 0UNICORN_FACE=1f984 0UNION=222a
1ABOVE_BAR_ABOVE_INTERSECTION=2a48 2INTERSECTION=2a46 1BESIDE_AND_JOINED_WITH_UNION=2a4a
1WITH_LOGICAL_OR=2a45 2MINUS_SIGN=2a41 2OVERBAR=2a42 0UNIT_SEPARATOR=1f 0UNITED_SYMBOL=2bfa
0UNIVERSAL_RECYCLING_SYMBOL=2672 0UNMARRIED_PARTNERSHIP_SYMBOL=26af 0UP_ARROW_THROUGH_CIRCLE=29bd
1ARROWHEAD=2303 2BETWEEN_TWO_HORIZONTAL_BARS=2324 2IN_A_RECTANGLE_BOX=2bb9
1BARB_LEFT_DOWN_BARB_LEFT_HARPOON=2951 5RIGHT_HARPOON=294d 2RIGHT_DOWN_BARB_LEFT_HARPOON=294c
5RIGHT_HARPOON=294f 1DOWN_ARROW=2195 3WITH_BASE=21a8 2BLACK_ARROW=2b0d 2DOUBLE_ARROW=21d5
2SANS-SERIF_ARROW=1f859 2TRIANGLE-HEADED_ARROW=2b65 2WHITE_ARROW=21f3 1FISH_TAIL=297e
1RIGHT_DIAGONAL_ELLIPSIS=22f0 1TACK=22a5 2WITH_CIRCLE_ABOVE=27df 0UP-POINTING_AIRPLANE=1f6e7
1MILITARY_AIRPLANE=1f6e6 1RED_TRIANGLE=1f53a 1SMALL_AIRPLANE=1f6e8 2RED_TRIANGLE=1f53c
1TRIANGLE_WITH_LEFT_HALF_BLACK=25ed 3RIGHT_HALF_BLACK=25ee
0UPPER_AND_LEFT_AND_LOWER_TRIANGULAR_THREE_QUARTERS_BLOCK=1fb6a 2LOWER_ONE_EIGHTH_BLOCK=1fb80
3TRIANGULAR_HALF_BLOCK=1fb9a 2RIGHT_AND_LOWER_TRIANGULAR_THREE_QUARTERS_BLOCK=1fb68
1BLADE_SCISSORS=2701 1FIVE_EIGHTHS_BLOCK=1fb84 1HALF_BLOCK=2580
3AND_LOWER_HALF_INVERSE_MEDIUM_SHADE=1fb91 2CIRCLE=25e0
2INVERSE_MEDIUM_SHADE_AND_LOWER_HALF_BLOCK=1fb92 3WHITE_CIRCLE=25da 2MEDIUM_SHADE=1fb8e
1LEFT_BLOCK_DIAGONAL_LOWER_CENTRE_TO_LOWER_MIDDLE_RIGHT=1fb5d 7UPPER_MIDDLE_RIGHT=1fb5f
8RIGHT=1fb61 5LEFT_TO_LOWER_MIDDLE_RIGHT=1fb5e 7UPPER_CENTRE=1fb5b 8MIDDLE_RIGHT=1fb60
5MIDDLE_LEFT_TO_UPPER_CENTRE=1fb59 9MIDDLE_RIGHT=1fb5c 9RIGHT=1fb5a
4UPPER_MIDDLE_LEFT_TO_UPPER_CENTRE=1fb57 9RIGHT=1fb58 2CORNER_WITH_DOT=27d4
2OR_LOWER_RIGHT_CURLY_BRACKET_SECTION=23b0 2QUADRANT_CIRCULAR_ARC=25dc 2TO_LOWER_RIGHT_FILL=1fb98
2TRIANGLE=25f8 2TRIANGULAR_MEDIUM_SHADE=1fb9c 1ONE_EIGHTH_BLOCK=2594 2QUARTER_BLOCK=1fb82
1RIGHT_BLOCK_DIAGONAL_LOWER_MIDDLE_LEFT_TO_LOWER_CENTRE=1fb52 9RIGHT=1fb53
4UPPER_CENTRE_TO_LOWER_MIDDLE_RIGHT=1fb64 8RIGHT=1fb66 7UPPER_MIDDLE_RIGHT=1fb62
5LEFT_TO_LOWER_CENTRE=1fb56 8MIDDLE_RIGHT=1fb65 7UPPER_MIDDLE_RIGHT=1fb63
5MIDDLE_LEFT_TO_LOWER_CENTRE=1fb54 9MIDDLE_RIGHT=1fb67 9RIGHT=1fb55
2DROP-SHADOWED_WHITE_SQUARE=2750 2OR_LOWER_LEFT_CURLY_BRACKET_SECTION=23b1 2PENCIL=2710
2QUADRANT_CIRCULAR_ARC=25dd 2SHADOWED_WHITE_CIRCLE=1f53f 4SQUARE=2752 2TO_LOWER_LEFT_FILL=1fb99
2TRIANGLE=25f9 2TRIANGULAR_MEDIUM_SHADE=1fb9d 1SEVEN_EIGHTHS_BLOCK=1fb86 1THREE_EIGHTHS_BLOCK=1fb83
2QUARTERS_BLOCK=1fb85 1TRIANGULAR_ONE_QUARTER_BLOCK=1fb6d 0UPSIDE-DOWN_FACE=1f643
0UPWARDS_ANCORA=2e15 1ARROW=2191 2AND_RIGHT_ONE_EIGHTH_BLOCK=1fbb8 2FROM_BAR=21a5
2LEFTWARDS_OF_DOWNWARDS_ARROW=21c5 2TO_BAR=2912 2WITH_DOUBLE_STROKE=21de
3EQUILATERAL_ARROWHEAD=1f815 3HORIZONTAL_STROKE=2909 3LARGE_TRIANGLE_ARROWHEAD=1f809
3MEDIUM_TRIANGLE_ARROWHEAD=1f805 3NOTCHED_TAIL=1f899 3SMALL_EQUILATERAL_ARROWHEAD=1f811
4TRIANGLE_ARROWHEAD=1f801 3TIP_LEFTWARDS=21b0 4RIGHTWARDS=21b1 1BLACK_ARROW=2b06
2CIRCLED_WHITE_ARROW=2b89 1COMPRESSED_ARROW=1f83d 1DASHED_ARROW=21e1 1DOUBLE_ARROW=21d1
1FINGER-POST_ARROW=1f835 1HARPOON_WITH_BARB_LEFT_BESIDE_DOWNWARDS_HARPOON_WITH_BARB_RIGHT=296e
6UPWARDS_HARPOON_WITH_BARB_RIGHT=2963 5FROM_BAR=2960 5TO_BAR=2958 4LEFTWARDS=21bf
4RIGHT_FROM_BAR=295c 5TO_BAR=2954 4RIGHTWARDS=21be 1HEAVY_ARROW=1f845 2COMPRESSED_ARROW=1f841
1PAIRED_ARROWS=21c8 1QUADRUPLE_ARROW=27f0 1ROCKET=1f66d 1SANS-SERIF_ARROW=1f851
1SQUARED_ARROW=1f839 1TRIANGLE_ARROWHEAD=1f891 1TRIANGLE-HEADED_ARROW=2b61
3LEFTWARDS_OF_DOWNWARDS_TRIANGLE-HEADED_ARROW=2b81 3TO_BAR=2b71 3WITH_BOLD_SHAFT=1f829
4DOUBLE_HORIZONTAL_STROKE=2b7b 4HEAVY_SHAFT=1f82d 4LONG_TIP_LEFTWARDS=2ba2 6RIGHTWARDS=2ba3
4MEDIUM_SHAFT=1f825 4NARROW_SHAFT=1f821 4VERY_HEAVY_SHAFT=1f831 2DASHED_ARROW=2b6b
2PAIRED_ARROWS=2b85 1TRIPLE_ARROW=290a 1TWO_HEADED_ARROW=219f
1TWO-HEADED_ARROW_FROM_SMALL_CIRCLE=2949 3WITH_TRIANGLE_ARROWHEADS=2bed 1WHITE_ARROW=21e7
3FROM_BAR=21ea 5WITH_HORIZONTAL_BAR=2bb8 3ON_PEDESTAL=21eb 5WITH_HORIZONTAL_BAR=21ec
6VERTICAL_BAR=21ed 3WITHIN_TRIANGLE_ARROWHEAD=1f895 2DOUBLE_ARROW=21ee 4ON_PEDESTAL=21ef
0URANUS=2645 0US=1f"

/-- Names that begin with `V`. -/
def namesV : String :=
  "0VAI_COMMA=a60d 1DIGIT_EIGHT=a628 2FIVE=a625 2FOUR=a624 2NINE=a629 2ONE=a621 2SEVEN=a627
2SIX=a626 2THREE=a623 2TWO=a622 2ZERO=a620 1FULL_STOP=a60e 1QUESTION_MARK=a60f 1SYLLABLE_A=a549
2AN=a54a 2BA=a552 2BE=a5ea 2BEE=a507 2BHA=a551 2BHE=a5e9 2BHEE=a506 2BHI=a52b 2BHO=a5c2 2BHOO=a577
2BHU=a59c 2BI=a52c 2BO=a5c3 2BOO=a578 2BU=a59d 2CA=a566 2CE=a5ff 2CEE=a51a 2CI=a53f 2CO=a5d7
2COO=a58b 2CU=a5b0 2DA=a560 2DE=a5f9 2DEE=a514 2DHA=a55c 2DHE=a5f5 2DHEE=a510 2DHHA=a55d 2DHHE=a5f6
2DHHEE=a511 2DHHI=a536 2DHHO=a5ce 2DHHOO=a582 2DHHU=a5a7 2DHI=a535 2DHO=a5cd 2DHOO=a581 2DHU=a5a6
2DI=a539 2DO=a5d1 2DOO=a585 2DU=a5aa 2E=a5e1 2EE=a500 2EEN=a501 2EN=a5e2 2FA=a558 2FE=a5f1
2FEE=a50c 2FI=a531 2FO=a5c9 2FOO=a57d 2FU=a5a2 2GA=a56d 2GBA=a557 2GBE=a5ef 2GBEE=a50b 2GBEN=a5f0
2GBI=a530 2GBO=a5c7 2GBON=a5c8 2GBOO=a57c 2GBU=a5a1 2GE=a606 2GEE=a520 2GEN=a607 2GI=a545 2GO=a5dd
2GOO=a591 2GU=a5b6 2HA=a54c 2HAN=a54d 2HE=a5e4 2HEE=a502 2HEN=a5e5 2HI=a526 2HIN=a527 2HO=a5bd
2HON=a5be 2HOO=a573 2HU=a597 2HUN=a598 2I=a524 2IN=a525 2JA=a567 2JE=a600 2JEE=a51b 2JI=a540
2JO=a5d8 2JOO=a58c 2JU=a5b1 2KA=a56a 2KAN=a56b 2KE=a603 2KEE=a51e 2KI=a543 2KO=a5db 2KOO=a58f
2KPA=a554 2KPAN=a555 2KPE=a5ec 2KPEE=a509 2KPEN=a5ed 2KPI=a52e 2KPO=a5c5 2KPOO=a57a 2KPU=a59f
2KU=a5b4 2LA=a55e 2LE=a5f7 2LEE=a512 2LENGTHENER=a60c 2LI=a537 2LO=a5cf 2LOO=a583 2LU=a5a8 2MA=a56e
2MBA=a553 2MBE=a5eb 2MBEE=a508 2MBI=a52d 2MBO=a5c4 2MBOO=a579 2MBU=a59e 2ME=a608 2MEE=a521
2MGBA=a556 2MGBE=a5ee 2MGBEE=a50a 2MGBI=a52f 2MGBO=a5c6 2MGBOO=a57b 2MGBU=a5a0 2MI=a546 2MO=a5de
2MOO=a592 2MU=a5b7 2NA=a56f 2NDA=a561 2NDE=a5fa 2NDEE=a515 2NDI=a53a 2NDO=a5d2 2NDOLE_DO=a62b
3FA=a610 3KA=a611 3MA=a62a 3SOO=a612 2NDOO=a586 2NDU=a5ab 2NE=a609 2NEE=a522 2NG=a60b 2NGAN=a54b
2NGEN=a5e3 2NGGA=a56c 2NGGE=a604 2NGGEE=a51f 2NGGEN=a605 2NGGI=a544 2NGGO=a5dc 2NGGOO=a590
2NGGU=a5b5 2NGON=a5bc 2NI=a547 2NJA=a568 2NJE=a601 2NJEE=a51c 2NJI=a541 2NJO=a5d9 2NJOO=a58d
2NJU=a5b2 2NO=a5df 2NOO=a593 2NU=a5b8 2NYA=a570 2NYE=a60a 2NYEE=a523 2NYI=a548 2NYO=a5e0 2NYOO=a594
2NYU=a5b9 2O=a5ba 2ON=a5bb 2OO=a571 2OON=a572 2PA=a550 2PE=a5e8 2PEE=a505 2PI=a52a 2PO=a5c1
2POO=a576 2PU=a59b 2RA=a55f 2RE=a5f8 2REE=a513 2RI=a538 2RO=a5d0 2ROO=a584 2RU=a5a9 2SA=a562
2SE=a5fb 2SEE=a516 2SHA=a563 2SHE=a5fc 2SHEE=a517 2SHI=a53c 2SHO=a5d4 2SHOO=a588 2SHU=a5ad 2SI=a53b
2SO=a5d3 2SOO=a587 2SU=a5ac 2TA=a55a 2TE=a5f3 2TEE=a50e 2THA=a55b 2THE=a5f4 2THEE=a50f 2THI=a534
2THO=a5cc 2THOO=a580 2THU=a5a5 2TI=a533 2TO=a5cb 2TOO=a57f 2TU=a5a4 2U=a595 2UN=a596 2VA=a559
2VE=a5f2 2VEE=a50d 2VI=a532 2VO=a5ca 2VOO=a57e 2VU=a5a3 2WA=a54e 2WAN=a54f 2WE=a5e6 2WEE=a503
2WEEN=a504 2WEN=a5e7 2WI=a528 2WIN=a529 2WO=a5bf 2WON=a5c0 2WOO=a574 2WOON=a575 2WU=a599 2WUN=a59a
2YA=a569 2YE=a602 2YEE=a51d 2YI=a542 2YO=a5da 2YOO=a58e 2YU=a5b3 2ZA=a564 2ZE=a5fd 2ZEE=a518
2ZHA=a565 2ZHE=a5fe 2ZHEE=a519 2ZHI=a53e 2ZHO=a5d6 2ZHOO=a58a 2ZHU=a5af 2ZI=a53d 2ZO=a5d5 2ZOO=a589
2ZU=a5ae 1SYMBOL_BANG=a617 2DANG=a61a 2DO-O=a61e 2DOONG=a61b 2FAA=a618 2FEENG=a613 2JONG=a61f
2KEENG=a614 2KUNG=a61c 2NII=a616 2TAA=a619 2TING=a615 2TONG=a61d 0VAMPIRE=1f9db
0VARIATION_SELECTOR-1=fe00 1SELECTOR-10=fe09 1SELECTOR-100=e0153 1SELECTOR-101=e0154
1SELECTOR-102=e0155 1SELECTOR-103=e0156 1SELECTOR-104=e0157 1SELECTOR-105=e0158 1SELECTOR-106=e0159
1SELECTOR-107=e015a 1SELECTOR-108=e015b 1SELECTOR-109=e015c 1SELECTOR-11=fe0a 1SELECTOR-110=e015d
1SELECTOR-111=e015e 1SELECTOR-112=e015f 1SELECTOR-113=e0160 1SELECTOR-114=e0161 1SELECTOR-115=e0162
1SELECTOR-116=e0163 1SELECTOR-117=e0164 1SELECTOR-118=e0165 1SELECTOR-119=e0166 1SELECTOR-12=fe0b
1SELECTOR-120=e0167 1SELECTOR-121=e0168 1SELECTOR-122=e0169 1SELECTOR-123=e016a 1SELECTOR-124=e016b
1SELECTOR-125=e016c 1SELECTOR-126=e016d 1SELECTOR-127=e016e 1SELECTOR-128=e016f 1SELECTOR-129=e0170
1SELECTOR-13=fe0c 1SELECTOR-130=e0171 1SELECTOR-131=e0172 1SELECTOR-132=e0173 1SELECTOR-133=e0174
1SELECTOR-134=e0175 1SELECTOR-135=e0176 1SELECTOR-136=e0177 1SELECTOR-137=e0178 1SELECTOR-138=e0179
1SELECTOR-139=e017a 1SELECTOR-14=fe0d 1SELECTOR-140=e017b 1SELECTOR-141=e017c 1SELECTOR-142=e017d
1SELECTOR-143=e017e 1SELECTOR-144=e017f 1SELECTOR-145=e0180 1SELECTOR-146=e0181 1SELECTOR-147=e0182
1SELECTOR-148=e0183 1SELECTOR-149=e0184 1SELECTOR-15=fe0e 1SELECTOR-150=e0185 1SELECTOR-151=e0186
1SELECTOR-152=e0187 1SELECTOR-153=e0188 1SELECTOR-154=e0189 1SELECTOR-155=e018a 1SELECTOR-156=e018b
1SELECTOR-157=e018c 1SELECTOR-158=e018d 1SELECTOR-159=e018e 1SELECTOR-16=fe0f 1SELECTOR-160=e018f
1SELECTOR-161=e0190 1SELECTOR-162=e0191 1SELECTOR-163=e0192 1SELECTOR-164=e0193 1SELECTOR-165=e0194
1SELECTOR-166=e0195 1SELECTOR-167=e0196 1SELECTOR-168=e0197 1SELECTOR-169=e0198 1SELECTOR-17=e0100
1SELECTOR-170=e0199 1SELECTOR-171=e019a 1SELECTOR-172=e019b 1SELECTOR-173=e019c 1SELECTOR-174=e019d
1SELECTOR-175=e019e 1SELECTOR-176=e019f 1SELECTOR-177=e01a0 1SELECTOR-178=e01a1 1SELECTOR-179=e01a2
1SELECTOR-18=e0101 1SELECTOR-180=e01a3 1SELECTOR-181=e01a4 1SELECTOR-182=e01a5 1SELECTOR-183=e01a6
1SELECTOR-184=e01a7 1SELECTOR-185=e01a8 1SELECTOR-186=e01a9 1SELECTOR-187=e01aa 1SELECTOR-188=e01ab
1SELECTOR-189=e01ac 1SELECTOR-19=e0102 1SELECTOR-190=e01ad 1SELECTOR-191=e01ae 1SELECTOR-192=e01af
1SELECTOR-193=e01b0 1SELECTOR-194=e01b1 1SELECTOR-195=e01b2 1SELECTOR-196=e01b3 1SELECTOR-197=e01b4
1SELECTOR-198=e01b5 1SELECTOR-199=e01b6 1SELECTOR-2=fe01 1SELECTOR-20=e0103 1SELECTOR-200=e01b7
1SELECTOR-201=e01b8 1SELECTOR-202=e01b9 1SELECTOR-203=e01ba 1SELECTOR-204=e01bb 1SELECTOR-205=e01bc
1SELECTOR-206=e01bd 1SELECTOR-207=e01be 1SELECTOR-208=e01bf 1SELECTOR-209=e01c0 1SELECTOR-21=e0104
1SELECTOR-210=e01c1 1SELECTOR-211=e01c2 1SELECTOR-212=e01c3 1SELECTOR-213=e01c4 1SELECTOR-214=e01c5
1SELECTOR-215=e01c6 1SELECTOR-216=e01c7 1SELECTOR-217=e01c8 1SELECTOR-218=e01c9 1SELECTOR-219=e01ca
1SELECTOR-22=e0105 1SELECTOR-220=e01cb 1SELECTOR-221=e01cc 1SELECTOR-222=e01cd 1SELECTOR-223=e01ce
1SELECTOR-224=e01cf 1SELECTOR-225=e01d0 1SELECTOR-226=e01d1 1SELECTOR-227=e01d2 1SELECTOR-228=e01d3
1SELECTOR-229=e01d4 1SELECTOR-23=e0106 1SELECTOR-230=e01d5 1SELECTOR-231=e01d6 1SELECTOR-232=e01d7
1SELECTOR-233=e01d8 1SELECTOR-234=e01d9 1SELECTOR-235=e01da 1SELECTOR-236=e01db 1SELECTOR-237=e01dc
1SELECTOR-238=e01dd 1SELECTOR-239=e01de 1SELECTOR-24=e0107 1SELECTOR-240=e01df 1SELECTOR-241=e01e0
1SELECTOR-242=e01e1 1SELECTOR-243=e01e2 1SELECTOR-244=e01e3 1SELECTOR-245=e01e4 1SELECTOR-246=e01e5
1SELECTOR-247=e01e6 1SELECTOR-248=e01e7 1SELECTOR-249=e01e8 1SELECTOR-25=e0108 1SELECTOR-250=e01e9
1SELECTOR-251=e01ea 1SELECTOR-252=e01eb 1SELECTOR-253=e01ec 1SELECTOR-254=e01ed 1SELECTOR-255=e01ee
1SELECTOR-256=e01ef 1SELECTOR-26=e0109 1SELECTOR-27=e010a 1SELECTOR-28=e010b 1SELECTOR-29=e010c
1SELECTOR-3=fe02 1SELECTOR-30=e010d 1SELECTOR-31=e010e 1SELECTOR-32=e010f 1SELECTOR-33=e0110
1SELECTOR-34=e0111 1SELECTOR-35=e0112 1SELECTOR-36=e0113 1SELECTOR-37=e0114 1SELECTOR-38=e0115
1SELECTOR-39=e0116 1SELECTOR-4=fe03 1SELECTOR-40=e0117 1SELECTOR-41=e0118 1SELECTOR-42=e0119
1SELECTOR-43=e011a 1SELECTOR-44=e011b 1SELECTOR-45=e011c 1SELECTOR-46=e011d 1SELECTOR-47=e011e
1SELECTOR-48=e011f 1SELECTOR-49=e0120 1SELECTOR-5=fe04 1SELECTOR-50=e0121 1SELECTOR-51=e0122
1SELECTOR-52=e0123 1SELECTOR-53=e0124 1SELECTOR-54=e0125 1SELECTOR-55=e0126 1SELECTOR-56=e0127
1SELECTOR-57=e0128 1SELECTOR-58=e0129 1SELECTOR-59=e012a 1SELECTOR-6=fe05 1SELECTOR-60=e012b
1SELECTOR-61=e012c 1SELECTOR-62=e012d 1SELECTOR-63=e012e 1SELECTOR-64=e012f 1SELECTOR-65=e0130
1SELECTOR-66=e0131 1SELECTOR-67=e0132 1SELECTOR-68=e0133 1SELECTOR-69=e0134 1SELECTOR-7=fe06
1SELECTOR-70=e0135 1SELECTOR-71=e0136 1SELECTOR-72=e0137 1SELECTOR-73=e0138 1SELECTOR-74=e0139
1SELECTOR-75=e013a 1SELECTOR-76=e013b 1SELECTOR-77=e013c 1SELECTOR-78=e013d 1SELECTOR-79=e013e
1SELECTOR-8=fe07 1SELECTOR-80=e013f 1SELECTOR-81=e0140 1SELECTOR-82=e0141 1SELECTOR-83=e0142
1SELECTOR-84=e0143 1SELECTOR-85=e0144 1SELECTOR-86=e0145 1SELECTOR-87=e0146 1SELECTOR-88=e0147
1SELECTOR-89=e0148 1SELECTOR-9=fe08 1SELECTOR-90=e0149 1SELECTOR-91=e014a 1SELECTOR-92=e014b
1SELECTOR-93=e014c 1SELECTOR-94=e014d 1SELECTOR-95=e014e 1SELECTOR-96=e014f 1SELECTOR-97=e0150
1SELECTOR-98=e0151 1SELECTOR-99=e0152 0VECTOR_OR_CROSS_PRODUCT=2a2f
0VEDIC_SIGN_ANUSVARA_ANTARGOMUKHA=1ce9 3BAHIRGOMUKHA=1cea 3UBHAYATO_MUKHA=1cf1 3VAMAGOMUKHA=1ceb
4WITH_TAIL=1cec 2ARDHAVISARGA=1cf2 2ATIKRAMA=1cf7 2DOUBLE_ANUSVARA_ANTARGOMUKHA=1cfa
2HEXIFORM_LONG_ANUSVARA=1cee 2JIHVAMULIYA=1cf5 2LONG_ANUSVARA=1cef 2NIHSHVASA=1cd3
2REVERSED_VISARGA_ANUDATTA=1ce6 4UDATTA=1ce4 2ROTATED_ARDHAVISARGA=1cf3 2RTHANG_LONG_ANUSVARA=1cf0
2TIRYAK=1ced 2UPADHMANIYA=1cf6 2VISARGA_ANUDATTA=1ce5 4WITH_TAIL=1ce8 3SVARITA=1ce2 3UDATTA=1ce3
4WITH_TAIL=1ce7 2YAJURVEDIC_MIDLINE_SVARITA=1cd4 1TONE_ATHARVAVEDIC_INDEPENDENT_SVARITA=1ce1
2CANDRA_ABOVE=1cf4 3BELOW=1cd8 2DOT_BELOW=1cdd 2DOUBLE_RING_ABOVE=1cf9 3SVARITA=1cda 2KARSHANA=1cd0
2KATHAKA_ANUDATTA=1cdc 2PRENKHA=1cd2 2RIGVEDIC_KASHMIRI_INDEPENDENT_SVARITA=1ce0 2RING_ABOVE=1cf8
2SHARA=1cd1 2THREE_DOTS_BELOW=1cdf 2TRIPLE_SVARITA=1cdb 2TWO_DOTS_BELOW=1cde
2YAJURVEDIC_AGGRAVATED_INDEPENDENT_SVARITA=1cd5 3INDEPENDENT_SVARITA=1cd6
3KATHAKA_INDEPENDENT_SVARITA=1cd7 6SCHROEDER=1cd9 0VERSICLE=2123
0VERTICAL_BAR_BESIDE_RIGHT_TRIANGLE=29d0 2DOUBLE_LEFT_TURNSTILE=2ae4 2TRIPLE_RIGHT_TURNSTILE=2ae2
2WITH_HORIZONTAL_STROKE=27ca 1ELLIPSIS=22ee 1FOUR_DOTS=205e 1IDEOGRAPHIC_ITERATION_MARK=303b
1KANA_REPEAT_MARK=3031 4LOWER_HALF=3035 4UPPER_HALF=3033 3WITH_VOICED_SOUND_MARK=3032
7UPPER_HALF=3034 1LINE=7c 2EXTENSION=23d0 2WITH_CIRCLE_ABOVE=2aef 4BELOW=2af0 3MIDDLE_DOT=237f
1MALE_WITH_STROKE_SIGN=26a8 1ONE_EIGHTH_BLOCK-2=1fb70 3BLOCK-3=1fb71 3BLOCK-4=1fb72 3BLOCK-5=1fb73
3BLOCK-6=1fb74 3BLOCK-7=1fb75 1SIX_DOTS=2e3d 1TAB_KEY=2b7f 1TABULATION=b 2SET=8a 1TILDE=2e2f
1TRAFFIC_LIGHT=1f6a6 1ZIGZAG_LINE=299a 0VERY_BOLD_GREEK_CROSS=1f7a5
1HEAVY_EIGHT_POINTED_BLACK_STAR=1f7d0 3SPOKED_ASTERISK=1f7bf 2FIVE_SPOKED_ASTERISK=1f7b3
2GREEK_CROSS=1f7a6 2REVERSE_SOLIDUS=1f67d 2SALTIRE=1f7ad 2SIX_SPOKED_ASTERISK=1f7b9 2SOLIDUS=1f67c
2WHITE_CIRCLE=1f788 3SQUARE=1f792 1MUCH_GREATER-THAN=22d9 2LESS-THAN=22d8 0VESTA=26b6
0VIBRATION_MODE=1f4f3 0VICTORY_HAND=270c 0VIDEO_CAMERA=1f4f9 1GAME=1f3ae 0VIDEOCASSETTE=1f4fc
0VIETNAMESE_ALTERNATE_READING_MARK_CA=16ff0 4NHAY=16ff1 0VIEWDATA_SQUARE=2317 0VIOLIN=1f3bb
0VIRGO=264d 0VITHKUQI_CAPITAL_LETTER_A=10570 3BBE=10571 3BE=10572 3CE=10573 3CHE=10574 3DE=10575
3DHE=10576 3E=10578 3EI=10577 3FE=10579 3GA=1057a 3HA=1057c 3HHA=1057d 3I=1057e 3IJE=1057f
3JE=10580 3KA=10581 3LA=10582 3LLA=10583 3ME=10584 3NE=10585 3NJE=10586 3O=10587 3PE=10588
3QA=10589 3RE=1058a 3SE=1058c 3SHE=1058d 3TE=1058e 3THE=1058f 3U=10590 3VE=10591 3XE=10592 3Y=10594
3ZE=10595 1SMALL_LETTER_A=10597 3BBE=10598 3BE=10599 3CE=1059a 3CHE=1059b 3DE=1059c 3DHE=1059d
3E=1059f 3EI=1059e 3FE=105a0 3GA=105a1 3HA=105a3 3HHA=105a4 3I=105a5 3IJE=105a6 3JE=105a7 3KA=105a8
3LA=105a9 3LLA=105aa 3ME=105ab 3NE=105ac 3NJE=105ad 3O=105ae 3PE=105af 3QA=105b0 3RE=105b1
3SE=105b3 3SHE=105b4 3TE=105b5 3THE=105b6 3U=105b7 3VE=105b8 3XE=105b9 3Y=105bb 3ZE=105bc
0VOIDED_GREEK_CROSS=1fbbb 0VOLCANO=1f30b 0VOLLEYBALL=1f3d0 0VOLUME_INTEGRAL=2230 0VS1=fe00
0VS10=fe09 0VS100=e0153 0VS101=e0154 0VS102=e0155 0VS103=e0156 0VS104=e0157 0VS105=e0158
0VS106=e0159 0VS107=e015a 0VS108=e015b 0VS109=e015c 0VS11=fe0a 0VS110=e015d 0VS111=e015e
0VS112=e015f 0VS113=e0160 0VS114=e0161 0VS115=e0162 0VS116=e0163 0VS117=e0164 0VS118=e0165
0VS119=e0166 0VS12=fe0b 0VS120=e0167 0VS121=e0168 0VS122=e0169 0VS123=e016a 0VS124=e016b
0VS125=e016c 0VS126=e016d 0VS127=e016e 0VS128=e016f 0VS129=e0170 0VS13=fe0c 0VS130=e0171
0VS131=e0172 0VS132=e0173 0VS133=e0174 0VS134=e0175 0VS135=e0176 0VS136=e0177 0VS137=e0178
0VS138=e0179 0VS139=e017a 0VS14=fe0d 0VS140=e017b 0VS141=e017c 0VS142=e017d 0VS143=e017e
0VS144=e017f 0VS145=e0180 0VS146=e0181 0VS147=e0182 0VS148=e0183 0VS149=e0184 0VS15=fe0e
0VS150=e0185 0VS151=e0186 0VS152=e0187 0VS153=e0188 0VS154=e0189 0VS155=e018a 0VS156=e018b
0VS157=e018c 0VS158=e018d 0VS159=e018e 0VS16=fe0f 0VS160=e018f 0VS161=e0190 0VS162=e0191
0VS163=e0192 0VS164=e0193 0VS165=e0194 0VS166=e0195 0VS167=e0196 0VS168=e0197 0VS169=e0198
0VS17=e0100 0VS170=e0199 0VS171=e019a 0VS172=e019b 0VS173=e019c 0VS174=e019d 0VS175=e019e
0VS176=e019f 0VS177=e01a0 0VS178=e01a1 0VS179=e01a2 0VS18=e0101 0VS180=e01a3 0VS181=e01a4
0VS182=e01a5 0VS183=e01a6 0VS184=e01a7 0VS185=e01a8 0VS186=e01a9 0VS187=e01aa 0VS188=e01ab
0VS189=e01ac 0VS19=e0102 0VS190=e01ad 0VS191=e01ae 0VS192=e01af 0VS193=e01b0 0VS194=e01b1
0VS195=e01b2 0VS196=e01b3 0VS197=e01b4 0VS198=e01b5 0VS199=e01b6 0VS2=fe01 0VS20=e0103 0VS200=e01b7
0VS201=e01b8 0VS202=e01b9 0VS203=e01ba 0VS204=e01bb 0VS205=e01bc 0VS206=e01bd 0VS207=e01be
0VS208=e01bf 0VS209=e01c0 0VS21=e0104 0VS210=e01c1 0VS211=e01c2 0VS212=e01c3 0VS213=e01c4
0VS214=e01c5 0VS215=e01c6 0VS216=e01c7 0VS217=e01c8 0VS218=e01c9 0VS219=e01ca 0VS22=e0105
0VS220=e01cb 0VS221=e01cc 0VS222=e01cd 0VS223=e01ce 0VS224=e01cf 0VS225=e01d0 0VS226=e01d1
0VS227=e01d2 0VS228=e01d3 0VS229=e01d4 0VS23=e0106 0VS230=e01d5 0VS231=e01d6 0VS232=e01d7
0VS233=e01d8 0VS234=e01d9 0VS235=e01da 0VS236=e01db 0VS237=e01dc 0VS238=e01dd 0VS239=e01de
0VS24=e0107 0VS240=e01df 0VS241=e01e0 0VS242=e01e1 0VS243=e01e2 0VS244=e01e3 0VS245=e01e4
0VS246=e01e5 0VS247=e01e6 0VS248=e01e7 0VS249=e01e8 0VS25=e0108 0VS250=e01e9 0VS251=e01ea
0VS252=e01eb 0VS253=e01ec 0VS254=e01ed 0VS255=e01ee 0VS256=e01ef 0VS26=e0109 0VS27=e010a
0VS28=e010b 0VS29=e010c 0VS3=fe02 0VS30=e010d 0VS31=e010e 0VS32=e010f 0VS33=e0110 0VS34=e0111
0VS35=e0112 0VS36=e0113 0VS37=e0114 0VS38=e0115 0VS39=e0116 0VS4=fe03 0VS40=e0117 0VS41=e0118
0VS42=e0119 0VS43=e011a 0VS44=e011b 0VS45=e011c 0VS46=e011d 0VS47=e011e 0VS48=e011f 0VS49=e0120
0VS5=fe04 0VS50=e0121 0VS51=e0122 0VS52=e0123 0VS53=e0124 0VS54=e0125 0VS55=e0126 0VS56=e0127
0VS57=e0128 0VS58=e0129 0VS59=e012a 0VS6=fe05 0VS60=e012b 0VS61=e012c 0VS62=e012d 0VS63=e012e
0VS64=e012f 0VS65=e0130 0VS66=e0131 0VS67=e0132 0VS68=e0133 0VS69=e0134 0VS7=fe06 0VS70=e0135
0VS71=e0136 0VS72=e0137 0VS73=e0138 0VS74=e0139 0VS75=e013a 0VS76=e013b 0VS77=e013c 0VS78=e013d
0VS79=e013e 0VS8=fe07 0VS80=e013f 0VS81=e0140 0VS82=e0141 0VS83=e0142 0VS84=e0143 0VS85=e0144
0VS86=e0145 0VS87=e0146 0VS88=e0147 0VS89=e0148 0VS9=fe08 0VS90=e0149 0VS91=e014a 0VS92=e014b
0VS93=e014c 0VS94=e014d 0VS95=e014e 0VS96=e014f 0VS97=e0150 0VS98=e0151 0VS99=e0152 0VT=b 0VTS=8a
0VULCANUS=2be6 0VULGAR_FRACTION_FIVE_EIGHTHS=215d 3SIXTHS=215a 2FOUR_FIFTHS=2158 2ONE_EIGHTH=215b
3FIFTH=2155 3HALF=bd 3NINTH=2151 3QUARTER=bc 3SEVENTH=2150 3SIXTH=2159 3TENTH=2152 3THIRD=2153
2SEVEN_EIGHTHS=215e 2THREE_EIGHTHS=215c 3FIFTHS=2157 3QUARTERS=be 2TWO_FIFTHS=2156 3THIRDS=2154
2ZERO_THIRDS=2189"

/-- Names that begin with `W`. -/
def namesW : String :=
  "0WAFFLE=1f9c7 0WANCHO_DIGIT_EIGHT=1e2f8 2FIVE=1e2f5 2FOUR=1e2f4 2NINE=1e2f9 2ONE=1e2f1
2SEVEN=1e2f7 2SIX=1e2f6 2THREE=1e2f3 2TWO=1e2f2 2ZERO=1e2f0 1LETTER_A=1e2c1 2AA=1e2c0 2AAN=1e2e8
2AANG=1e2e3 2ANG=1e2e4 2AU=1e2d6 2BA=1e2c2 2CA=1e2c3 2DA=1e2c4 2E=1e2db 2EN=1e2e7 2FA=1e2cd
2GA=1e2c5 2HA=1e2da 2I=1e2dc 2ING=1e2e5 2JA=1e2d0 2KA=1e2d4 2KHA=1e2d9 2LA=1e2c8 2LLHA=1e2df
2MA=1e2d8 2NA=1e2c9 2NGA=1e2dd 2NYA=1e2e9 2O=1e2d5 2ON=1e2e6 2ONG=1e2e2 2PA=1e2ca 2PHA=1e2c7
2RA=1e2d7 2SA=1e2ce 2SHA=1e2cf 2TA=1e2cb 2THA=1e2cc 2TRA=1e2e1 2TSA=1e2e0 2U=1e2de 2UEN=1e2ea
2VA=1e2d3 2WA=1e2d2 2YA=1e2c6 2YIH=1e2eb 2ZA=1e2d1 1NGUN_SIGN=1e2ff 1TONE_KOI=1e2ee 2KOINI=1e2ef
2TUP=1e2ec 2TUPNI=1e2ed 0WANING_CRESCENT_MOON_SYMBOL=1f318 1GIBBOUS_MOON_SYMBOL=1f316
0WARANG_CITI_CAPITAL_LETTER_A=118a1 4AM=118b6 4ANG=118aa 4AT=118b5 4BU=118b7 4DA=118b4 4E=118a8
4ENN=118b0 4ENY=118ad 4GA=118ab 4HAR=118bc 4HIYO=118b9 4HOLO=118ba 4HORR=118bb 4II=118a6 4KO=118ac
4NGAA=118a0 4NUNG=118b3 4O=118a9 4ODD=118b1 4PU=118b8 4SII=118be 4SSUU=118bd 4TTE=118b2 4UC=118af
4UU=118a7 4VIYO=118bf 4WI=118a2 4YA=118a4 4YO=118a5 4YU=118a3 4YUJ=118ae 2DIGIT_EIGHT=118e8
3FIVE=118e5 3FOUR=118e4 3NINE=118e9 3ONE=118e1 3SEVEN=118e7 3SIX=118e6 3THREE=118e3 3TWO=118e2
3ZERO=118e0 2NUMBER_EIGHTY=118f1 3FIFTY=118ee 3FORTY=118ed 3NINETY=118f2 3SEVENTY=118f0
3SIXTY=118ef 3TEN=118ea 3THIRTY=118ec 3TWENTY=118eb 2OM=118ff 2SMALL_LETTER_A=118c1 4AM=118d6
4ANG=118ca 4AT=118d5 4BU=118d7 4DA=118d4 4E=118c8 4ENN=118d0 4ENY=118cd 4GA=118cb 4HAR=118dc
4HIYO=118d9 4HOLO=118da 4HORR=118db 4II=118c6 4KO=118cc 4NGAA=118c0 4NUNG=118d3 4O=118c9 4ODD=118d1
4PU=118d8 4SII=118de 4SSUU=118dd 4TTE=118d2 4UC=118cf 4UU=118c7 4VIYO=118df 4WI=118c2 4YA=118c4
4YO=118c5 4YU=118c3 4YUJ=118ce 0WARNING_SIGN=26a0 0WASTEBASKET=1f5d1 0WATCH=231a
0WATER_BUFFALO=1f403 1CLOSET=1f6be 1POLO=1f93d 1WAVE=1f30a 0WATERMELON=1f349
0WAVE_ARROW_POINTING_DIRECTLY_LEFT=2b3f 4RIGHT=2933 1DASH=301c 0WAVING_BLACK_FLAG=1f3f4
1HAND_SIGN=1f44b 1WHITE_FLAG=1f3f3 0WAVY_DASH=3030 1LINE=2307 1LOW_LINE=fe4f 1OVERLINE=fe4b
0WAXING_CRESCENT_MOON_SYMBOL=1f312 1GIBBOUS_MOON_SYMBOL=1f314 0WEARY_CAT_FACE=1f640 1FACE=1f629
0WEDDING=1f492 0WEDGE-TAILED_RIGHTWARDS_ARROW=27bc 0WEIERSTRASS_ELLIPTIC_FUNCTION=2118
0WEIGHT_LIFTER=1f3cb 0WEST_SYRIAC_CROSS=2670 0WHALE=1f40b 0WHEEL=1f6de 1OF_DHARMA=2638
0WHEELCHAIR_SYMBOL=267f 0WHITE_ARROW_SHAFT_WIDTH_ONE=1f8ac 4TWO_THIRDS=1f8ad 1BULLET=25e6
1CHESS_BISHOP=2657 3ROTATED_NINETY_DEGREES=1fa0c 4TWO_HUNDRED_SEVENTY_DEGREES=1fa36
2EQUIHOPPER=1fa48 3ROTATED_NINETY_DEGREES=1fa4b 2KING=2654 3ROTATED_NINETY_DEGREES=1fa09
4TWO_HUNDRED_SEVENTY_DEGREES=1fa33 2KNIGHT=2658 3ROTATED_FORTY-FIVE_DEGREES=1fa06
4NINETY_DEGREES=1fa0d 4ONE_HUNDRED_THIRTY-FIVE_DEGREES=1fa1b 4THREE_HUNDRED_FIFTEEN_DEGREES=1fa45
4TWO_HUNDRED_SEVENTY_DEGREES=1fa37 6TWENTY-FIVE_DEGREES=1fa30 2KNIGHT-BISHOP=1fa50
2KNIGHT-QUEEN=1fa4e 2KNIGHT-ROOK=1fa4f 2PAWN=2659 3ROTATED_NINETY_DEGREES=1fa0e
4TWO_HUNDRED_SEVENTY_DEGREES=1fa38 2QUEEN=2655 3ROTATED_NINETY_DEGREES=1fa0a
4TWO_HUNDRED_SEVENTY_DEGREES=1fa34 2ROOK=2656 3ROTATED_NINETY_DEGREES=1fa0b
4TWO_HUNDRED_SEVENTY_DEGREES=1fa35 2TURNED_BISHOP=1fa21 3KING=1fa1e 3KNIGHT=1fa22 3PAWN=1fa23
3QUEEN=1fa1f 3ROOK=1fa20 1CIRCLE=25cb 2CONTAINING_BLACK_SMALL_CIRCLE=1f78a 2WITH_DOT_RIGHT=2686
3DOWN_ARROW=29ec 3LOWER_LEFT_QUADRANT=25f5 4RIGHT_QUADRANT=25f6 3TWO_DOTS=2687
3UPPER_LEFT_QUADRANT=25f4 4RIGHT_QUADRANT=25f7 1CLUB_SUIT=2667 1CONCAVE-SIDED_DIAMOND=27e1
3WITH_LEFTWARDS_TICK=27e2 4RIGHTWARDS_TICK=27e3 1DIAMOND=25c7
2CONTAINING_BLACK_MEDIUM_DIAMOND=1f79b 4SMALL_DIAMOND=25c8 4VERY_SMALL_DIAMOND=1f79a
2IN_SQUARE=26cb 2SUIT=2662 2WITH_CENTRED_DOT=27d0 1DOWN_POINTING_BACKHAND_INDEX=1f447 3INDEX=261f
3LEFT_HAND_INDEX=1f597 1DOWN-POINTING_SMALL_TRIANGLE=25bf 2TRIANGLE=25bd 1DRAUGHTS_KING=26c1
2MAN=26c0 1EXCLAMATION_MARK_ORNAMENT=2755 1FLAG=2690 2WITH_HORIZONTAL_MIDDLE_BLACK_STRIPE=26ff
1FLORETTE=2740 1FLOWER=1f4ae 1FOUR_POINTED_CUSP=2bce 3STAR=2727 1FROWNING_FACE=2639
1HARD_SHELL_FLOPPY_DISK=1f5ab 1HEART=1f90d 2SUIT=2661 1HEAVY_CHECK_MARK=2705
2SALTIRE_WITH_ROUNDED_CORNERS=1fbc0 1HEXAGON=2b21 1HORIZONTAL_ELLIPSE=2b2d 1HOURGLASS=29d6
1LARGE_SQUARE=2b1c 1LATIN_CROSS=1f546 1LEFT_LANE_MERGE=26d9 2POINTING_BACKHAND_INDEX=1f448
3INDEX=261c 1LEFT-POINTING_POINTER=25c5 2SMALL_TRIANGLE=25c3 2TRIANGLE=25c1
1LOZENGE_CONTAINING_BLACK_SMALL_LOZENGE=1f7a0 1MEDIUM_DIAMOND=2b26 2LOZENGE=2b28 2SMALL_SQUARE=25fd
2SQUARE=25fb 2STAR=2b50 1MOON_SELENA=2bdd 1NIB=2711 1PARALLELOGRAM=25b1 1PENNANT=1f3f1
1PENTAGON=2b20 1QUESTION_MARK_ORNAMENT=2754 1RECTANGLE=25ad 1RIGHT_POINTING_BACKHAND_INDEX=1f449
3INDEX=261e 1RIGHT-POINTING_PENTAGON=2b54 2POINTER=25bb 2SMALL_TRIANGLE=25b9 2TRIANGLE=25b7
1SCISSORS=2704 1SESAME_DOT=fe46 1SHOGI_PIECE=2616 1SMALL_LOZENGE=2b2b 2SQUARE=25ab 2STAR=2b52
1SMILING_FACE=263a 1SPADE_SUIT=2664 1SQUARE=25a1 2BUTTON=1f533
2CONTAINING_BLACK_MEDIUM_SQUARE=1f795 4SMALL_SQUARE=25a3 4VERY_SMALL_SQUARE=1f794
2WITH_CENTRE_VERTICAL_LINE=2385 3LEFTWARDS_TICK=27e4 3LOWER_LEFT_QUADRANT=25f1 4RIGHT_QUADRANT=25f2
3RIGHTWARDS_TICK=27e5 3ROUNDED_CORNERS=25a2 3UPPER_LEFT_QUADRANT=25f0 4RIGHT_QUADRANT=25f3
3VERTICAL_BISECTING_LINE=25eb 1STAR=2606 1SUN=1f323 2BEHIND_CLOUD=1f325 4WITH_RAIN=1f326
2WITH_RAYS=263c 3SMALL_CLOUD=1f324 1TELEPHONE=260f 1TOUCHTONE_TELEPHONE=1f57e 1TRAPEZIUM=23e2
1TRIANGLE_CONTAINING_SMALL_WHITE_TRIANGLE=27c1 1TWO-WAY_LEFT_WAY_TRAFFIC=26d7
1UP_POINTING_BACKHAND_INDEX=1f446 3INDEX=261d 1UP-POINTING_CHEVRON=1fbca 2SMALL_TRIANGLE=25b5
2TRIANGLE=25b3 3WITH_DOT=25ec 1VERTICAL_BAR=2afe 2ELLIPSE=2b2f 2RECTANGLE=25af
1VERY_SMALL_SQUARE=2b1e 0WHITE-FEATHERED_RIGHTWARDS_ARROW=27b3
0WIDE-HEADED_DOWNWARDS_BARB_ARROW=1f86b 2HEAVY_BARB_ARROW=1f87b 2LIGHT_BARB_ARROW=1f863
2MEDIUM_BARB_ARROW=1f873 2VERY_HEAVY_BARB_ARROW=1f883 1LEFTWARDS_BARB_ARROW=1f868
2HEAVY_BARB_ARROW=1f878 2LIGHT_BARB_ARROW=1f860 2MEDIUM_BARB_ARROW=1f870
2VERY_HEAVY_BARB_ARROW=1f880 1NORTH_EAST_BARB_ARROW=1f86d 3HEAVY_BARB_ARROW=1f87d
3LIGHT_BARB_ARROW=1f865 3MEDIUM_BARB_ARROW=1f875 3VERY_HEAVY_BARB_ARROW=1f885
2WEST_BARB_ARROW=1f86c 3HEAVY_BARB_ARROW=1f87c 3LIGHT_BARB_ARROW=1f864 3MEDIUM_BARB_ARROW=1f874
3VERY_HEAVY_BARB_ARROW=1f884 1RIGHTWARDS_BARB_ARROW=1f86a 2HEAVY_BARB_ARROW=1f87a
2LIGHT_BARB_ARROW=1f862 2MEDIUM_BARB_ARROW=1f872 2VERY_HEAVY_BARB_ARROW=1f882
1SOUTH_EAST_BARB_ARROW=1f86e 3HEAVY_BARB_ARROW=1f87e 3LIGHT_BARB_ARROW=1f866
3MEDIUM_BARB_ARROW=1f876 3VERY_HEAVY_BARB_ARROW=1f886 2WEST_BARB_ARROW=1f86f
3HEAVY_BARB_ARROW=1f87f 3LIGHT_BARB_ARROW=1f867 3MEDIUM_BARB_ARROW=1f877
3VERY_HEAVY_BARB_ARROW=1f887 1UPWARDS_BARB_ARROW=1f869 2HEAVY_BARB_ARROW=1f879
2LIGHT_BARB_ARROW=1f861 2MEDIUM_BARB_ARROW=1f871 2VERY_HEAVY_BARB_ARROW=1f881
0WIGGLY_VERTICAL_LINE=2e3e 0WILTED_FLOWER=1f940 0WIND_BLOWING_FACE=1f32c 1CHIME=1f390 0WINDOW=1fa9f
0WINE_GLASS=1f377 0WINKING_FACE=1f609 0WIRED_KEYBOARD=1f5ae 0WJ=2060 0WOLF_FACE=1f43a 0WOMAN=1f469
1WITH_BUNNY_EARS=1f46f 0WOMANS_BOOTS=1f462 1CLOTHES=1f45a 1HAT=1f452 1SANDAL=1f461
0WOMENS_SYMBOL=1f6ba 0WON_SIGN=20a9 0WOOD=1fab5 0WORD_JOINER=2060 1SEPARATOR_MIDDLE_DOT=2e31
0WORLD_MAP=1f5fa 0WORM=1fab1 0WORRIED_FACE=1f61f 0WRAPPED_PRESENT=1f381 0WREATH_PRODUCT=2240
0WRENCH=1f527 0WRESTLERS=1f93c 0WRITING_HAND=270d"

/-- Names that begin with `X`. -/
def namesX : String :=
  "0X_IN_A_RECTANGLE_BOX=2327 0X-RAY=1fa7b 0XIANGQI_BLACK_CANNON=1fa6c 2CHARIOT=1fa6b
2ELEPHANT=1fa69 2GENERAL=1fa67 2HORSE=1fa6a 2MANDARIN=1fa68 2SOLDIER=1fa6d 1RED_CANNON=1fa65
2CHARIOT=1fa64 2ELEPHANT=1fa62 2GENERAL=1fa60 2HORSE=1fa63 2MANDARIN=1fa61 2SOLDIER=1fa66 0XOR=22bb"

/-- Names that begin with `Y`. -/
def namesY : String :=
  "0YAWNING_FACE=1f971 0YELLOW_HEART=1f49b 0YEN_SIGN=a5 0YEZIDI_COMBINING_HAMZA_MARK=10eab
2MADDA_MARK=10eac 1HYPHENATION_MARK=10ead 1LETTER_BE=10e81 2CHHIM=10e88 2CHIM=10e87 2CIM=10e86
2DAD=10e94 2DAL=10e8b 2ELIF=10e80 2ET=10ea9 2EW=10ea6 2EYN=10e97 2FA=10e99 2GAF=10e9f 2HAY=10ea7
2HHA=10e89 2JA=10e90 2KAF=10e9d 2KHAF=10e9e 2LAM=10ea0 3WITH_DOT_ABOVE=10eb0 2MIM=10ea1 2NUN=10ea2
2OW=10ea5 2PE=10e82 2PHE=10e83 2QAF=10e9c 2RA=10e8d 2RHA=10e8e 2SAD=10e93 2SE=10e85 2SHIN=10e92
2SIN=10e91 2TA=10e95 2THE=10e84 2UM=10ea3 2VA=10e9a 3ALTERNATE_FORM=10e9b 2WAW=10ea4 2XA=10e8a
2XHEYN=10e98 2YOT=10ea8 3WITH_CIRCUMFLEX_ABOVE=10eb1 2ZA=10e8f 2ZAL=10e8c 2ZE=10e96
0YI_RADICAL_BBUT=a49b 2BUR=a4a5 2CHE=a4c3 2CIP=a4be 2CUOP=a4bd 2CY=a4bc 2CYP=a494 2CYT=a4a3
2DDUR=a4a4 2DU=a4b9 2GA=a4a1 2GEP=a497 2GGOP=a496 2GGUO=a4a6 2GOT=a4b6 2HMO=a4ad 2HXIT=a499
2HXOP=a4bf 2HXUO=a49f 2JJIE=a4b7 2JJUT=a4aa 2JJY=a4b5 2JO=a4b3 2KE=a4c6 2KIT=a492 2LI=a491
2LIE=a4bb 2LYR=a49a 2MI=a498 2MOP=a49c 2NBIE=a4c5 2NYIP=a493 2NYOP=a4a7 2NZUP=a4b4 2OP=a4a9
2PUT=a49e 2PYT=a4ac 2QOT=a490 2SHAT=a4c0 2SHOP=a4c2 2SHUR=a4ba 2SHY=a4b0 2SSI=a495 2TAT=a4a0
2TU=a4a8 2VEP=a4b1 2VUR=a4af 2WO=a4b8 2YIT=a4ae 2YO=a49d 2ZA=a4b2 2ZOT=a4ab 2ZUP=a4a2 2ZUR=a4c1
2ZZIET=a4c4 1SYLLABLE_A=a00a 2AP=a00b 2AT=a008 2AX=a009 2BA=a020 2BAP=a021 2BAT=a01e 2BAX=a01f
2BBA=a060 2BBAP=a061 2BBAT=a05e 2BBAX=a05f 2BBE=a06a 2BBEP=a06b 2BBEX=a069 2BBI=a058 2BBIE=a05c
2BBIEP=a05d 2BBIET=a05a 2BBIEX=a05b 2BBIP=a059 2BBIT=a056 2BBIX=a057 2BBO=a067 2BBOP=a068
2BBOT=a065 2BBOX=a066 2BBU=a06e 2BBUO=a063 2BBUOP=a064 2BBUOX=a062 2BBUP=a06f 2BBUR=a071
2BBURX=a070 2BBUT=a06c 2BBUX=a06d 2BBY=a074 2BBYP=a075 2BBYT=a072 2BBYX=a073 2BE=a02a 2BEP=a02b
2BEX=a029 2BI=a018 2BIE=a01c 2BIEP=a01d 2BIET=a01a 2BIEX=a01b 2BIP=a019 2BIT=a016 2BIX=a017
2BO=a027 2BOP=a028 2BOT=a025 2BOX=a026 2BU=a02e 2BUO=a023 2BUOP=a024 2BUOX=a022 2BUP=a02f 2BUR=a031
2BURX=a030 2BUT=a02c 2BUX=a02d 2BY=a034 2BYP=a035 2BYR=a037 2BYRX=a036 2BYT=a032 2BYX=a033 2CA=a2b8
2CAP=a2b9 2CAT=a2b6 2CAX=a2b7 2CE=a2c2 2CEP=a2c3 2CEX=a2c1 2CHA=a363 2CHAP=a364 2CHAT=a361
2CHAX=a362 2CHE=a36f 2CHEP=a370 2CHET=a36d 2CHEX=a36e 2CHO=a36b 2CHOP=a36c 2CHOT=a369 2CHOX=a36a
2CHU=a372 2CHUO=a367 2CHUOP=a368 2CHUOT=a365 2CHUOX=a366 2CHUP=a373 2CHUR=a375 2CHURX=a374
2CHUX=a371 2CHY=a378 2CHYP=a379 2CHYR=a37b 2CHYRX=a37a 2CHYT=a376 2CHYX=a377 2CI=a2b0 2CIE=a2b4
2CIEP=a2b5 2CIET=a2b2 2CIEX=a2b3 2CIP=a2b1 2CIT=a2ae 2CIX=a2af 2CO=a2bf 2COP=a2c0 2COT=a2bd
2COX=a2be 2CU=a2c6 2CUO=a2bb 2CUOP=a2bc 2CUOX=a2ba 2CUP=a2c7 2CUR=a2c9 2CURX=a2c8 2CUT=a2c4
2CUX=a2c5 2CY=a2cc 2CYP=a2cd 2CYR=a2cf 2CYRX=a2ce 2CYT=a2ca 2CYX=a2cb 2DA=a109 2DAP=a10a 2DAT=a107
2DAX=a108 2DDA=a13f 2DDAP=a140 2DDAT=a13d 2DDAX=a13e 2DDE=a149 2DDEP=a14a 2DDEX=a148 2DDI=a138
2DDIE=a13b 2DDIEP=a13c 2DDIEX=a13a 2DDIP=a139 2DDIT=a136 2DDIX=a137 2DDO=a146 2DDOP=a147 2DDOT=a144
2DDOX=a145 2DDU=a14d 2DDUO=a142 2DDUOP=a143 2DDUOX=a141 2DDUP=a14e 2DDUR=a150 2DDURX=a14f
2DDUT=a14b 2DDUX=a14c 2DE=a112 2DEP=a113 2DEX=a111 2DI=a102 2DIE=a105 2DIEP=a106 2DIEX=a104
2DIP=a103 2DIT=a100 2DIX=a101 2DO=a10f 2DOP=a110 2DOT=a10d 2DOX=a10e 2DU=a116 2DUO=a10c 2DUOX=a10b
2DUP=a117 2DUR=a119 2DURX=a118 2DUT=a114 2DUX=a115 2E=a014 2EX=a013 2FA=a0d3 2FAP=a0d4 2FAT=a0d1
2FAX=a0d2 2FI=a0cf 2FIP=a0d0 2FIT=a0cd 2FIX=a0ce 2FO=a0d6 2FOP=a0d7 2FOX=a0d5 2FU=a0da 2FUP=a0db
2FUR=a0dd 2FURX=a0dc 2FUT=a0d8 2FUX=a0d9 2FY=a0e0 2FYP=a0e1 2FYT=a0de 2FYX=a0df 2GA=a1e4 2GAP=a1e5
2GAT=a1e2 2GAX=a1e3 2GE=a1f0 2GEP=a1f1 2GET=a1ee 2GEX=a1ef 2GGA=a21c 2GGAP=a21d 2GGAT=a21a
2GGAX=a21b 2GGE=a228 2GGEP=a229 2GGET=a226 2GGEX=a227 2GGI=a216 2GGIE=a218 2GGIEP=a219 2GGIEX=a217
2GGIT=a214 2GGIX=a215 2GGO=a224 2GGOP=a225 2GGOT=a222 2GGOX=a223 2GGU=a22c 2GGUO=a220 2GGUOP=a221
2GGUOT=a21e 2GGUOX=a21f 2GGUP=a22d 2GGUR=a22f 2GGURX=a22e 2GGUT=a22a 2GGUX=a22b 2GI=a1dc 2GIE=a1e0
2GIEP=a1e1 2GIET=a1de 2GIEX=a1df 2GIP=a1dd 2GIT=a1da 2GIX=a1db 2GO=a1ec 2GOP=a1ed 2GOT=a1ea
2GOX=a1eb 2GU=a1f4 2GUO=a1e8 2GUOP=a1e9 2GUOT=a1e6 2GUOX=a1e7 2GUP=a1f5 2GUR=a1f7 2GURX=a1f6
2GUT=a1f2 2GUX=a1f3 2HA=a273 2HAP=a274 2HAT=a271 2HAX=a272 2HE=a27e 2HEP=a27f 2HEX=a27d 2HIE=a270
2HIEX=a26f 2HIT=a26e 2HLA=a1a0 2HLAP=a1a1 2HLAT=a19e 2HLAX=a19f 2HLE=a1a9 2HLEP=a1aa 2HLEX=a1a8
2HLI=a199 2HLIE=a19c 2HLIEP=a19d 2HLIEX=a19b 2HLIP=a19a 2HLIT=a197 2HLIX=a198 2HLO=a1a6 2HLOP=a1a7
2HLOX=a1a5 2HLU=a1ad 2HLUO=a1a3 2HLUOP=a1a4 2HLUOX=a1a2 2HLUP=a1ae 2HLUR=a1b0 2HLURX=a1af
2HLUT=a1ab 2HLUX=a1ac 2HLY=a1b3 2HLYP=a1b4 2HLYR=a1b6 2HLYRX=a1b5 2HLYT=a1b1 2HLYX=a1b2 2HMA=a09a
2HMAP=a09b 2HMAT=a098 2HMAX=a099 2HMI=a093 2HMIE=a096 2HMIEP=a097 2HMIEX=a095 2HMIP=a094 2HMIT=a091
2HMIX=a092 2HMO=a0a1 2HMOP=a0a2 2HMOT=a09f 2HMOX=a0a0 2HMU=a0a5 2HMUO=a09d 2HMUOP=a09e 2HMUOX=a09c
2HMUP=a0a6 2HMUR=a0a8 2HMURX=a0a7 2HMUT=a0a3 2HMUX=a0a4 2HMY=a0aa 2HMYP=a0ab 2HMYR=a0ad 2HMYRX=a0ac
2HMYX=a0a9 2HNA=a172 2HNAP=a173 2HNAT=a170 2HNAX=a171 2HNE=a17a 2HNEP=a17b 2HNEX=a179 2HNI=a16a
2HNIE=a16e 2HNIEP=a16f 2HNIET=a16c 2HNIEX=a16d 2HNIP=a16b 2HNIT=a168 2HNIX=a169 2HNOP=a178
2HNOT=a176 2HNOX=a177 2HNUO=a175 2HNUOX=a174 2HNUT=a17c 2HO=a27b 2HOP=a27c 2HOT=a279 2HOX=a27a
2HUO=a277 2HUOP=a278 2HUOT=a275 2HUOX=a276 2HXA=a250 2HXAP=a251 2HXAT=a24e 2HXAX=a24f 2HXE=a25b
2HXEP=a25c 2HXEX=a25a 2HXI=a248 2HXIE=a24c 2HXIEP=a24d 2HXIET=a24a 2HXIEX=a24b 2HXIP=a249
2HXIT=a246 2HXIX=a247 2HXO=a258 2HXOP=a259 2HXOT=a256 2HXOX=a257 2HXUO=a254 2HXUOP=a255 2HXUOT=a252
2HXUOX=a253 2I=a002 2IE=a006 2IEP=a007 2IET=a004 2IEX=a005 2IP=a003 2IT=a000 2ITERATION_MARK=a015
2IX=a001 2JI=a3e2 2JIE=a3e6 2JIEP=a3e7 2JIET=a3e4 2JIEX=a3e5 2JIP=a3e3 2JIT=a3e0 2JIX=a3e1
2JJI=a41a 2JJIE=a41e 2JJIEP=a41f 2JJIET=a41c 2JJIEX=a41d 2JJIP=a41b 2JJIT=a418 2JJIX=a419 2JJO=a425
2JJOP=a426 2JJOT=a423 2JJOX=a424 2JJU=a429 2JJUO=a421 2JJUOP=a422 2JJUOX=a420 2JJUP=a42a 2JJUR=a42c
2JJURX=a42b 2JJUT=a427 2JJUX=a428 2JJY=a42f 2JJYP=a430 2JJYT=a42d 2JJYX=a42e 2JO=a3ee 2JOP=a3ef
2JOT=a3ec 2JOX=a3ed 2JU=a3f2 2JUO=a3ea 2JUOP=a3eb 2JUOT=a3e8 2JUOX=a3e9 2JUP=a3f3 2JUR=a3f5
2JURX=a3f4 2JUT=a3f0 2JUX=a3f1 2JY=a3f8 2JYP=a3f9 2JYR=a3fb 2JYRX=a3fa 2JYT=a3f6 2JYX=a3f7 2KA=a201
2KAP=a202 2KAT=a1ff 2KAX=a200 2KE=a20c 2KEP=a20d 2KET=a20a 2KEX=a20b 2KI=a1fa 2KIE=a1fd 2KIEP=a1fe
2KIEX=a1fc 2KIP=a1fb 2KIT=a1f8 2KIX=a1f9 2KO=a208 2KOP=a209 2KOT=a206 2KOX=a207 2KU=a210 2KUO=a204
2KUOP=a205 2KUOX=a203 2KUP=a211 2KUR=a213 2KURX=a212 2KUT=a20e 2KUX=a20f 2LA=a1c1 2LAP=a1c2
2LAT=a1bf 2LAX=a1c0 2LE=a1cc 2LEP=a1cd 2LEX=a1cb 2LI=a1b9 2LIE=a1bd 2LIEP=a1be 2LIET=a1bb
2LIEX=a1bc 2LIP=a1ba 2LIT=a1b7 2LIX=a1b8 2LO=a1c9 2LOP=a1ca 2LOT=a1c7 2LOX=a1c8 2LU=a1d0 2LUO=a1c5
2LUOP=a1c6 2LUOT=a1c3 2LUOX=a1c4 2LUP=a1d1 2LUR=a1d3 2LURX=a1d2 2LUT=a1ce 2LUX=a1cf 2LY=a1d6
2LYP=a1d7 2LYR=a1d9 2LYRX=a1d8 2LYT=a1d4 2LYX=a1d5 2MA=a0b7 2MAP=a0b8 2MAT=a0b5 2MAX=a0b6 2ME=a0c2
2MEX=a0c1 2MGA=a234 2MGAP=a235 2MGAT=a232 2MGAX=a233 2MGE=a23e 2MGEP=a23f 2MGEX=a23d 2MGIE=a231
2MGIEX=a230 2MGO=a23b 2MGOP=a23c 2MGOT=a239 2MGOX=a23a 2MGU=a242 2MGUO=a237 2MGUOP=a238 2MGUOX=a236
2MGUP=a243 2MGUR=a245 2MGURX=a244 2MGUT=a240 2MGUX=a241 2MI=a0b0 2MIE=a0b3 2MIEP=a0b4 2MIEX=a0b2
2MIP=a0b1 2MIT=a0ae 2MIX=a0af 2MO=a0bf 2MOP=a0c0 2MOT=a0bd 2MOX=a0be 2MU=a0c5 2MUO=a0bb 2MUOP=a0bc
2MUOT=a0b9 2MUOX=a0ba 2MUP=a0c6 2MUR=a0c8 2MURX=a0c7 2MUT=a0c3 2MUX=a0c4 2MY=a0cb 2MYP=a0cc
2MYT=a0c9 2MYX=a0ca 2NA=a185 2NAP=a186 2NAX=a184 2NBA=a07f 2NBAP=a080 2NBAT=a07d 2NBAX=a07e
2NBI=a078 2NBIE=a07b 2NBIEP=a07c 2NBIEX=a07a 2NBIP=a079 2NBIT=a076 2NBIX=a077 2NBO=a083 2NBOP=a084
2NBOT=a081 2NBOX=a082 2NBU=a087 2NBUP=a088 2NBUR=a08a 2NBURX=a089 2NBUT=a085 2NBUX=a086 2NBY=a08d
2NBYP=a08e 2NBYR=a090 2NBYRX=a08f 2NBYT=a08b 2NBYX=a08c 2NDA=a159 2NDAP=a15a 2NDAT=a157 2NDAX=a158
2NDE=a160 2NDEP=a161 2NDEX=a15f 2NDI=a153 2NDIE=a156 2NDIEX=a155 2NDIP=a154 2NDIT=a151 2NDIX=a152
2NDO=a15d 2NDOP=a15e 2NDOT=a15b 2NDOX=a15c 2NDU=a164 2NDUP=a165 2NDUR=a167 2NDURX=a166 2NDUT=a162
2NDUX=a163 2NE=a18f 2NEP=a190 2NEX=a18e 2NGA=a262 2NGAP=a263 2NGAT=a260 2NGAX=a261 2NGE=a26c
2NGEP=a26d 2NGEX=a26b 2NGIE=a25e 2NGIEP=a25f 2NGIEX=a25d 2NGO=a269 2NGOP=a26a 2NGOT=a267 2NGOX=a268
2NGUO=a266 2NGUOT=a264 2NGUOX=a265 2NI=a17f 2NIE=a182 2NIEP=a183 2NIEX=a181 2NIP=a180 2NIT=a17d
2NIX=a17e 2NJI=a433 2NJIE=a437 2NJIEP=a438 2NJIET=a435 2NJIEX=a436 2NJIP=a434 2NJIT=a431 2NJIX=a432
2NJO=a43d 2NJOP=a43e 2NJOT=a43b 2NJOX=a43c 2NJU=a440 2NJUO=a43a 2NJUOX=a439 2NJUP=a441 2NJUR=a443
2NJURX=a442 2NJUX=a43f 2NJY=a446 2NJYP=a447 2NJYR=a449 2NJYRX=a448 2NJYT=a444 2NJYX=a445 2NO=a18c
2NOP=a18d 2NOT=a18a 2NOX=a18b 2NRA=a396 2NRAP=a397 2NRAT=a394 2NRAX=a395 2NRE=a39d 2NREP=a39e
2NRET=a39b 2NREX=a39c 2NRO=a399 2NROP=a39a 2NROX=a398 2NRU=a3a1 2NRUP=a3a2 2NRUR=a3a4 2NRURX=a3a3
2NRUT=a39f 2NRUX=a3a0 2NRY=a3a7 2NRYP=a3a8 2NRYR=a3aa 2NRYRX=a3a9 2NRYT=a3a5 2NRYX=a3a6 2NU=a193
2NUO=a188 2NUOP=a189 2NUOX=a187 2NUP=a194 2NUR=a196 2NURX=a195 2NUT=a191 2NUX=a192 2NYI=a44c
2NYIE=a450 2NYIEP=a451 2NYIET=a44e 2NYIEX=a44f 2NYIP=a44d 2NYIT=a44a 2NYIX=a44b 2NYO=a457
2NYOP=a458 2NYOT=a455 2NYOX=a456 2NYU=a45b 2NYUO=a453 2NYUOP=a454 2NYUOX=a452 2NYUP=a45c 2NYUT=a459
2NYUX=a45a 2NZA=a2f6 2NZAP=a2f7 2NZAT=a2f4 2NZAX=a2f5 2NZE=a2fd 2NZEX=a2fc 2NZI=a2ef 2NZIE=a2f2
2NZIEP=a2f3 2NZIEX=a2f1 2NZIP=a2f0 2NZIT=a2ed 2NZIX=a2ee 2NZOP=a2fb 2NZOX=a2fa 2NZU=a2ff 2NZUO=a2f9
2NZUOX=a2f8 2NZUP=a300 2NZUR=a302 2NZURX=a301 2NZUX=a2fe 2NZY=a305 2NZYP=a306 2NZYR=a308
2NZYRX=a307 2NZYT=a303 2NZYX=a304 2O=a011 2OP=a012 2OT=a00f 2OX=a010 2PA=a041 2PAP=a042 2PAT=a03f
2PAX=a040 2PI=a03a 2PIE=a03d 2PIEP=a03e 2PIEX=a03c 2PIP=a03b 2PIT=a038 2PIX=a039 2PO=a048 2POP=a049
2POT=a046 2POX=a047 2PU=a04c 2PUO=a044 2PUOP=a045 2PUOX=a043 2PUP=a04d 2PUR=a04f 2PURX=a04e
2PUT=a04a 2PUX=a04b 2PY=a052 2PYP=a053 2PYR=a055 2PYRX=a054 2PYT=a050 2PYX=a051 2QI=a3fe 2QIE=a402
2QIEP=a403 2QIET=a400 2QIEX=a401 2QIP=a3ff 2QIT=a3fc 2QIX=a3fd 2QO=a40a 2QOP=a40b 2QOT=a408
2QOX=a409 2QU=a40e 2QUO=a406 2QUOP=a407 2QUOT=a404 2QUOX=a405 2QUP=a40f 2QUR=a411 2QURX=a410
2QUT=a40c 2QUX=a40d 2QY=a414 2QYP=a415 2QYR=a417 2QYRX=a416 2QYT=a412 2QYX=a413 2RA=a3c8 2RAP=a3c9
2RAT=a3c6 2RAX=a3c7 2RE=a3d2 2REP=a3d3 2REX=a3d1 2RO=a3cf 2ROP=a3d0 2ROT=a3cd 2ROX=a3ce 2RRA=a37d
2RRAX=a37c 2RRE=a386 2RREP=a387 2RRET=a384 2RREX=a385 2RRO=a382 2RROP=a383 2RROT=a380 2RROX=a381
2RRU=a38a 2RRUO=a37f 2RRUOX=a37e 2RRUP=a38b 2RRUR=a38d 2RRURX=a38c 2RRUT=a388 2RRUX=a389 2RRY=a390
2RRYP=a391 2RRYR=a393 2RRYRX=a392 2RRYT=a38e 2RRYX=a38f 2RU=a3d6 2RUO=a3cb 2RUOP=a3cc 2RUOX=a3ca
2RUP=a3d7 2RUR=a3d9 2RURX=a3d8 2RUT=a3d4 2RUX=a3d5 2RY=a3dc 2RYP=a3dd 2RYR=a3df 2RYRX=a3de
2RYT=a3da 2RYX=a3db 2SA=a312 2SAP=a313 2SAT=a310 2SAX=a311 2SE=a31c 2SEP=a31d 2SEX=a31b 2SHA=a3ad
2SHAP=a3ae 2SHAT=a3ab 2SHAX=a3ac 2SHE=a3b8 2SHEP=a3b9 2SHET=a3b6 2SHEX=a3b7 2SHO=a3b4 2SHOP=a3b5
2SHOT=a3b2 2SHOX=a3b3 2SHU=a3bc 2SHUO=a3b0 2SHUOP=a3b1 2SHUOX=a3af 2SHUP=a3bd 2SHUR=a3bf
2SHURX=a3be 2SHUT=a3ba 2SHUX=a3bb 2SHY=a3c2 2SHYP=a3c3 2SHYR=a3c5 2SHYRX=a3c4 2SHYT=a3c0 2SHYX=a3c1
2SI=a30b 2SIE=a30e 2SIEP=a30f 2SIEX=a30d 2SIP=a30c 2SIT=a309 2SIX=a30a 2SO=a319 2SOP=a31a 2SOT=a317
2SOX=a318 2SSA=a333 2SSAP=a334 2SSAT=a331 2SSAX=a332 2SSE=a33a 2SSEP=a33b 2SSEX=a339 2SSI=a32c
2SSIE=a32f 2SSIEP=a330 2SSIEX=a32e 2SSIP=a32d 2SSIT=a32a 2SSIX=a32b 2SSO=a337 2SSOP=a338 2SSOT=a335
2SSOX=a336 2SSU=a33e 2SSUP=a33f 2SSUT=a33c 2SSUX=a33d 2SSY=a342 2SSYP=a343 2SSYR=a345 2SSYRX=a344
2SSYT=a340 2SSYX=a341 2SU=a320 2SUO=a315 2SUOP=a316 2SUOX=a314 2SUP=a321 2SUR=a323 2SURX=a322
2SUT=a31e 2SUX=a31f 2SY=a326 2SYP=a327 2SYR=a329 2SYRX=a328 2SYT=a324 2SYX=a325 2TA=a123 2TAP=a124
2TAT=a121 2TAX=a122 2TE=a12e 2TEP=a12f 2TEX=a12d 2TI=a11c 2TIE=a11f 2TIEP=a120 2TIEX=a11e 2TIP=a11d
2TIT=a11a 2TIX=a11b 2TO=a12b 2TOP=a12c 2TOT=a129 2TOX=a12a 2TU=a132 2TUO=a127 2TUOP=a128 2TUOT=a125
2TUOX=a126 2TUP=a133 2TUR=a135 2TURX=a134 2TUT=a130 2TUX=a131 2UO=a00d 2UOP=a00e 2UOX=a00c 2VA=a0ec
2VAP=a0ed 2VAT=a0ea 2VAX=a0eb 2VEP=a0f3 2VEX=a0f2 2VI=a0e4 2VIE=a0e8 2VIEP=a0e9 2VIET=a0e6
2VIEX=a0e7 2VIP=a0e5 2VIT=a0e2 2VIX=a0e3 2VO=a0f0 2VOP=a0f1 2VOT=a0ee 2VOX=a0ef 2VU=a0f6 2VUP=a0f7
2VUR=a0f9 2VURX=a0f8 2VUT=a0f4 2VUX=a0f5 2VY=a0fc 2VYP=a0fd 2VYR=a0ff 2VYRX=a0fe 2VYT=a0fa
2VYX=a0fb 2WA=a282 2WAP=a283 2WAT=a280 2WAX=a281 2WE=a28b 2WEP=a28c 2WEX=a28a 2WO=a288 2WOP=a289
2WOX=a287 2WU=a015 2WUO=a285 2WUOP=a286 2WUOX=a284 2XI=a45f 2XIE=a463 2XIEP=a464 2XIET=a461
2XIEX=a462 2XIP=a460 2XIT=a45d 2XIX=a45e 2XO=a469 2XOP=a46a 2XOT=a467 2XOX=a468 2XUO=a466
2XUOX=a465 2XY=a46d 2XYP=a46e 2XYR=a470 2XYRX=a46f 2XYT=a46b 2XYX=a46c 2YI=a473 2YIE=a477
2YIEP=a478 2YIET=a475 2YIEX=a476 2YIP=a474 2YIT=a471 2YIX=a472 2YO=a47f 2YOP=a480 2YOT=a47d
2YOX=a47e 2YU=a483 2YUO=a47b 2YUOP=a47c 2YUOT=a479 2YUOX=a47a 2YUP=a484 2YUR=a486 2YURX=a485
2YUT=a481 2YUX=a482 2YY=a489 2YYP=a48a 2YYR=a48c 2YYRX=a48b 2YYT=a487 2YYX=a488 2ZA=a296 2ZAP=a297
2ZAT=a294 2ZAX=a295 2ZE=a2a0 2ZEP=a2a1 2ZEX=a29f 2ZHA=a348 2ZHAP=a349 2ZHAT=a346 2ZHAX=a347
2ZHE=a353 2ZHEP=a354 2ZHET=a351 2ZHEX=a352 2ZHO=a34f 2ZHOP=a350 2ZHOT=a34d 2ZHOX=a34e 2ZHU=a357
2ZHUO=a34b 2ZHUOP=a34c 2ZHUOX=a34a 2ZHUP=a358 2ZHUR=a35a 2ZHURX=a359 2ZHUT=a355 2ZHUX=a356
2ZHY=a35d 2ZHYP=a35e 2ZHYR=a360 2ZHYRX=a35f 2ZHYT=a35b 2ZHYX=a35c 2ZI=a28f 2ZIE=a292 2ZIEP=a293
2ZIEX=a291 2ZIP=a290 2ZIT=a28d 2ZIX=a28e 2ZO=a29d 2ZOP=a29e 2ZOT=a29b 2ZOX=a29c 2ZU=a2a4 2ZUO=a299
2ZUOP=a29a 2ZUOX=a298 2ZUP=a2a5 2ZUR=a2a7 2ZURX=a2a6 2ZUT=a2a2 2ZUX=a2a3 2ZY=a2aa 2ZYP=a2ab
2ZYR=a2ad 2ZYRX=a2ac 2ZYT=a2a8 2ZYX=a2a9 2ZZA=a2da 2ZZAP=a2db 2ZZAT=a2d8 2ZZAX=a2d9 2ZZE=a2e0
2ZZEP=a2e1 2ZZEX=a2df 2ZZI=a2d2 2ZZIE=a2d6 2ZZIEP=a2d7 2ZZIET=a2d4 2ZZIEX=a2d5 2ZZIP=a2d3
2ZZIT=a2d0 2ZZIX=a2d1 2ZZO=a2dd 2ZZOP=a2de 2ZZOX=a2dc 2ZZU=a2e3 2ZZUP=a2e4 2ZZUR=a2e6 2ZZURX=a2e5
2ZZUX=a2e2 2ZZY=a2e9 2ZZYP=a2ea 2ZZYR=a2ec 2ZZYRX=a2eb 2ZZYT=a2e7 2ZZYX=a2e8 0YIN_YANG=262f
0YO-YO=1fa80"

/-- Names that begin with `Z`. -/
def namesZ : String :=
  "0Z_NOTATION_BAG_MEMBERSHIP=22ff 2DOMAIN_ANTIRESTRICTION=2a64 2LEFT_BINDING_BRACKET=2989
3IMAGE_BRACKET=2987 2RANGE_ANTIRESTRICTION=2a65 2RELATIONAL_COMPOSITION=2a3e
2RIGHT_BINDING_BRACKET=298a 3IMAGE_BRACKET=2988 2SCHEMA_COMPOSITION=2a1f 3PIPING=2a20
3PROJECTION=2a21 2SPOT=2981 2TYPE_COLON=2982 0ZANABAZAR_SQUARE_CLOSING_DOUBLE-LINED_HEAD_MARK=11a46
3HEAD_MARK=11a40 2CLUSTER-FINAL_LETTER_LA=11a3d 4RA=11a3c 4VA=11a3e 4YA=11a3b
2CLUSTER-INITIAL_LETTER_RA=11a3a 2FINAL_CONSONANT_MARK=11a33 2INITIAL_DOUBLE-LINED_HEAD_MARK=11a45
3HEAD_MARK=11a3f 2LETTER_-A=11a29 3A=11a00 3BA=11a20 3BHA=11a21 3CA=11a10 3CHA=11a11 3DA=11a1b
3DDA=11a16 3DDHA=11a17 3DHA=11a1c 3DZA=11a25 3DZHA=11a26 3GA=11a0d 3GHA=11a0e 3HA=11a31 3JA=11a12
3KA=11a0b 3KHA=11a0c 3KSSA=11a32 3LA=11a2c 3MA=11a22 3NA=11a1d 3NGA=11a0f 3NNA=11a18 3NYA=11a13
3PA=11a1e 3PHA=11a1f 3RA=11a2b 3SA=11a30 3SHA=11a2e 3SSA=11a2f 3TA=11a19 3THA=11a1a 3TSA=11a23
3TSHA=11a24 3TTA=11a14 3TTHA=11a15 3VA=11a2d 3YA=11a2a 3ZA=11a28 3ZHA=11a27 2MARK_DOUBLE_SHAD=11a43
3LONG_TSHEG=11a44 3SHAD=11a42 3TSHEG=11a41 2SIGN_ANUSVARA=11a38 3CANDRA_WITH_ORNAMENT=11a37
3CANDRABINDU=11a35 4WITH_ORNAMENT=11a36 3VIRAMA=11a34 3VISARGA=11a39 2SUBJOINER=11a47
2VOWEL_LENGTH_MARK=11a0a 3SIGN_AI=11a07 4AU=11a08 4E=11a04 4I=11a01 4O=11a06 4OE=11a05
4REVERSED_I=11a09 4U=11a03 4UE=11a02 0ZEBRA_FACE=1f993 0ZERO_WIDTH_JOINER=200d 2NO-BREAK_SPACE=feff
2NON-JOINER=200c 2SPACE=200b 0ZEUS=2be2 0ZIPPER-MOUTH_FACE=1f910
0ZNAMENNY_COMBINING_ATTACHING_VERTICAL_OMET=1cf3e 2LOWER_TONAL_RANGE_INDICATOR=1cf41
2MARK_BORZAYA=1cf24 3CHASHKA=1cf38 4POLNAYA=1cf39 3CURVED_OMET=1cf3f 3DEMESTVENNY_ZADERZHKA=1cf34
3DVOETOCHIE=1cf3d 3GORAZDO_NIZKO_ON_LEFT=1cf03 6RIGHT=1cf0f 5S_KRYZHEM_ON_LEFT=1cf00 8RIGHT=1cf0c
4VYSOKO=1cf1f 3KACHKA=1cf29 3KRYZH=1cf40 4ON_LEFT=1cf2d 3KUPNAYA=1cf28 3LOMKA=1cf27
3MALO_POVYSHE_ON_LEFT=1cf06 6RIGHT=1cf12 5S_KHOKHLOM_ON_LEFT=1cf09 8RIGHT=1cf15 6KRYZHEM=1cf19
5STRANNO=1cf1e 3NIZKO_ON_LEFT=1cf04 5RIGHT=1cf10 4S_KRYZHEM_ON_LEFT=1cf01 7RIGHT=1cf0d
3OBLACHKO=1cf3a 3ON=1cf21 3OTSECHKA=1cf35 3PODCHASHIE=1cf36 4WITH_VERTICAL_STROKE=1cf37
3PODVERTKA=1cf26 3POVYSHE_ON_LEFT=1cf07 5RIGHT=1cf13 4S_KHOKHLOM_ON_LEFT=1cf0a 7RIGHT=1cf16
5KRYZHEM=1cf1b 4STRANNO=1cf1c 3RAVNO=1cf22 3RAZSEKA=1cf2c 3SKOBA=1cf2b 3SOROCHYA_NOZHKA=1cf3b
3SREDNE_ON_LEFT=1cf05 5RIGHT=1cf11 3STRANNO_MALO_POVYSHE=1cf1a 3TIKHAYA=1cf23 3TOCHKA=1cf3c
3TSATA_ON_LEFT=1cf02 5RIGHT=1cf0e 4S_KRYZHEM=1cf18 3UDARKA=1cf25 3VYSOKO_ON_LEFT=1cf08 5RIGHT=1cf14
4S_KHOKHLOM_ON_LEFT=1cf0b 7RIGHT=1cf17 5KRYZHEM=1cf1d 3ZADERZHKA=1cf33 3ZELO=1cf20 3ZEVOK=1cf2a
2TONAL_RANGE_MARK_MRACHNO=1cf30 5SVETLO=1cf31 5TRESVETLO=1cf32 1NEUME_CHASHKA=1cf6f
2CHELYUSTKA=1cf5b 2DEMESTVENNY_KLYUCH=1cf75 2DERBITSA=1cf6d 2DOUBLE_ZAPYATAYA=1cf6b 2DUDA=1cfc1
2DVA_V_CHELNU=1cf53 2FITA=1cf83 2GOLUBCHIK_BORZY=1cf5e 3MRACHNY=1cf60 3SVETLY=1cf61 3TIKHY=1cf5f
3TRESVETLY=1cf62 2KHAMILO=1cf6e 2KLYUCH=1cf54 2KOBYLA=1cf84 2KRYUK=1cf50 3TIKHY=1cf51 2KRYZH=1cf81
2KUFISMA=1cfbf 2MECHIK=1cfa7 3KLYUCHENEPOSTOYANNY=1cfab 3KLYUCHEPOVODNY=1cfaa 3KLYUCHEVOY=1cfa9
3POVODNY=1cfa8 2NEMKA=1cfc2 2OBLAKO=1cfc0 2OSOKA=1cfaf 3KLYUCHEVAYA_NEPOSTOYANNAYA=1cfb4
4SVETLAYA=1cfb3 3KRYUKOVAYA_SVETLAYA=1cfb2 3SVETLAYA=1cfb0 3TRESVETLAYA=1cfb1 2PALKA=1cf5c
2PARAKLIT=1cf52 2PAUK=1cfc3 2PEREVODKA=1cf58 3NEPOSTOYANNAYA=1cf59 2PODCHASHIE=1cf70
2POLKULIZMY=1cf90 2REVERSED_CHELYUSTKA=1cf6c 2ROG=1cf82 2SKAMEYTSA_DVOECHELNAYA_KLYUCHEVAYA=1cf7c
4NEPOSTOYANNAYA=1cf7b 4PROSTAYA=1cf79 4SVETLAYA=1cf7a 3KLYUCHENEPOSTOYANNAYA=1cf77
3KLYUCHEVAYA_SVETLAYA=1cf76 4TIKHAYA=1cf78 3MRACHNAYA=1cf71 3SVETLAYA=1cf72 3TIKHAYA=1cf74
3TRESVETLAYA=1cf73 2SLOZHITIE=1cf7d 3S_KRYZHEM=1cf80 4ZAPYATOY=1cf7e 3ZAKRYTOE=1cf7f 2STATYA=1cf86
3NEPOSTOYANNAYA=1cf91 3S_DVUMYA_ZAPYATYMI=1cf8e 4KRYZHEM=1cf88 5I_ZAPYATOY=1cf8a 4ROGOM=1cf8d
4ZAPYATOY=1cf87 5I_KRYZHEM=1cf89 6PODCHASHIEM=1cf8f 3ZAKRYTAYA=1cf8b 4S_ZAPYATOY=1cf8c
2STOPITSA=1cf56 3S_OCHKOM=1cf57 3WITH_SOROCHYA_NOZHKA=1cf5a 2STRELA_DVOECHELNAYA=1cf9b
4KLYUCHEVAYA=1cf9e 3DVOECHELNOKRYZHEVAYA=1cf9c 3DVOECHELNOPOVODNAYA=1cf9d 4KLYUCHEVAYA=1cf9f
3GROMNAYA=1cfa2 4WITH_SINGLE_ZAPYATAYA=1cfa0 3GROMOKRYZHEVAYA=1cfa5 4POVODNAYA=1cfa6
3GROMOPOVODNAYA=1cfa3 4WITH_DOUBLE_ZAPYATAYA=1cfa4 5SINGLE_ZAPYATAYA=1cfa1
3KLYUCHENEPOSTOYANNAYA=1cf99 3KLYUCHEPOVODNAYA=1cf98 3KRYUKOVAYA=1cfb5 4GROMNAYA=1cfb9
5WITH_SINGLE_ZAPYATAYA=1cfb7 4GROMOKRYZHEVAYA=1cfbc 5POVODNAYA=1cfbd 4GROMOPOVODNAYA=1cfba
5WITH_DOUBLE_ZAPYATAYA=1cfbb 6SINGLE_ZAPYATAYA=1cfb8 4POVODNAYA=1cfb6 4TRYASKA=1cfbe
3KRYZHEVAYA=1cf94 3MRACHNOTIKHAYA=1cf93 3NEPOSTOYANNAYA=1cf97 3POLUPOVODNAYA=1cf95 3POVODNAYA=1cf96
3PROSTAYA=1cf92 3TIKHAYA_PUTNAYA=1cf9a 3TRYASOGLASNAYA=1cfac 3TRYASOPOVODNAYA=1cfad
3TRYASOSTRELNAYA=1cfae 2VRAKHIYA_KLYUCHEVAYA_MRACHNAYA=1cf68 4PROSTAYA=1cf67 4SVETLAYA=1cf69
4TRESVETLAYA=1cf6a 3MRACHNAYA=1cf64 3PROSTAYA=1cf63 3SVETLAYA=1cf65 3TRESVETLAYA=1cf66
2ZANOZHEK=1cf55 2ZAPYATAYA=1cf5d 2ZMEYTSA=1cf85 1PRIZNAK_MODIFIER_DIRECTION_FLIP=1cf44 3KRYZH=1cf45
3LEVEL-2=1cf42 3LEVEL-3=1cf43 3ROG=1cf46 0ZOMBIE=1f9df 0ZWJ=200d 0ZWNBSP=feff 0ZWNJ=200c 0ZWSP=200b"

/-- The names with a given first letter. -/
def namesWith : Char → String
  | 'A' => namesA
  | 'B' => namesB
  | 'C' => namesC
  | 'D' => namesD
  | 'E' => namesE
  | 'F' => namesF
  | 'G' => namesG
  | 'H' => namesH
  | 'I' => namesI
  | 'J' => namesJ
  | 'K' => namesK
  | 'L' => namesL
  | 'M' => namesM
  | 'N' => namesN
  | 'O' => namesO
  | 'P' => namesP
  | 'Q' => namesQ
  | 'R' => namesR
  | 'S' => namesS
  | 'T' => namesT
  | 'U' => namesU
  | 'V' => namesV
  | 'W' => namesW
  | 'X' => namesX
  | 'Y' => namesY
  | 'Z' => namesZ
  | _ => ""

end ProbeCatalog.CharacterNameTable
