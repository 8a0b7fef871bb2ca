/-!
# Offsets of the named zones

The names of the time zone database and their offsets from UTC from 2015 to 2026. A rule gives the
offset in minutes at the start of 2015 and then its changes: the new offset, and the quarter hour
since 1970-01-01T00:00Z from which it holds. Names that stand together keep the same time.
-/

namespace PuzzleInputs.Zone

structure Rule where
  names : List String
  base : Int
  changes : List (Int × Int) := []

def rules : List Rule := [
  { names := ["America/Noronha", "Atlantic/South_Georgia", "Brazil/DeNoronha", "Etc/GMT+2"]
    base := -120 },
  { names := ["America/Sao_Paulo", "Brazil/East"]
    base := -120
    changes := [(-180, 1582856), (-120, 1605708), (-180, 1617800), (-120, 1640652),
      (-180, 1652744), (-120, 1675596), (-180, 1687688), (-120, 1712556), (-180, 1722632)] },
  { names := ["America/Montevideo"]
    base := -120
    changes := [(-180, 1584208)] },
  { names := ["America/Araguaina", "America/Argentina/Buenos_Aires",
     "America/Argentina/Catamarca", "America/Argentina/ComodRivadavia",
     "America/Argentina/Cordoba", "America/Argentina/Jujuy", "America/Argentina/La_Rioja",
     "America/Argentina/Mendoza", "America/Argentina/Rio_Gallegos", "America/Argentina/Salta",
     "America/Argentina/San_Juan", "America/Argentina/San_Luis", "America/Argentina/Tucuman",
     "America/Argentina/Ushuaia", "America/Bahia", "America/Belem", "America/Buenos_Aires",
     "America/Catamarca", "America/Cayenne", "America/Cordoba", "America/Fortaleza",
     "America/Jujuy", "America/Maceio", "America/Mendoza", "America/Paramaribo",
     "America/Recife", "America/Rosario", "America/Santarem", "Antarctica/Rothera",
     "Atlantic/Stanley", "Etc/GMT+3"]
    base := -180 },
  { names := ["America/Miquelon"]
    base := -180
    changes := [(-120, 1584212), (-180, 1607056), (-120, 1619828), (-180, 1642672),
      (-120, 1654772), (-180, 1677616), (-120, 1689716), (-180, 1712560), (-120, 1724660),
      (-180, 1747504), (-120, 1759604), (-180, 1782448), (-120, 1795220), (-180, 1818064),
      (-120, 1830164), (-180, 1853008), (-120, 1865108), (-180, 1887952), (-120, 1900052),
      (-180, 1922896), (-120, 1934996), (-180, 1957840), (-120, 1969940), (-180, 1992784)] },
  { names := ["America/Godthab", "America/Nuuk"]
    base := -180
    changes := [(-120, 1586212), (-180, 1606372), (-120, 1621156), (-180, 1641988),
      (-120, 1656100), (-180, 1676932), (-120, 1691044), (-180, 1711876), (-120, 1726660),
      (-180, 1746820), (-120, 1761604), (-180, 1781764), (-120, 1796548), (-180, 1817380),
      (-120, 1831492), (-180, 1852324), (-120, 1866436), (-60, 1902052), (-120, 1922212),
      (-60, 1936996), (-120, 1957156), (-60, 1971940), (-120, 1992100)] },
  { names := ["America/Campo_Grande", "America/Cuiaba"]
    base := -180
    changes := [(-240, 1582860), (-180, 1605712), (-240, 1617804), (-180, 1640656),
      (-240, 1652748), (-180, 1675600), (-240, 1687692), (-180, 1712560), (-240, 1722636)] },
  { names := ["America/Asuncion"]
    base := -180
    changes := [(-240, 1585548), (-180, 1604368), (-240, 1621164), (-180, 1639312),
      (-240, 1656108), (-180, 1674256), (-240, 1691052), (-180, 1709872), (-240, 1725996),
      (-180, 1744816), (-240, 1760940), (-180, 1779760), (-240, 1796556), (-180, 1814704),
      (-240, 1831500), (-180, 1849648), (-240, 1866444), (-180, 1884592), (-240, 1901388),
      (-180, 1920208)] },
  { names := ["America/Punta_Arenas", "Antarctica/Palmer"]
    base := -180
    changes := [(-240, 1625868), (-180, 1634608)] },
  { names := ["America/Coyhaique"]
    base := -180
    changes := [(-240, 1625868), (-180, 1634608), (-240, 1660812), (-180, 1669552),
      (-240, 1695756), (-180, 1704496), (-240, 1727340), (-180, 1742128), (-240, 1762284),
      (-180, 1777072), (-240, 1797228), (-180, 1812016), (-240, 1832172), (-180, 1847632),
      (-240, 1867116), (-180, 1881904), (-240, 1902732), (-180, 1917520)] },
  { names := ["America/Santiago", "Chile/Continental"]
    base := -180
    changes := [(-240, 1625868), (-180, 1634608), (-240, 1660812), (-180, 1669552),
      (-240, 1695756), (-180, 1704496), (-240, 1727340), (-180, 1742128), (-240, 1762284),
      (-180, 1777072), (-240, 1797228), (-180, 1812016), (-240, 1832172), (-180, 1847632),
      (-240, 1867116), (-180, 1881904), (-240, 1902732), (-180, 1917520), (-240, 1937676),
      (-180, 1952464), (-240, 1972620), (-180, 1987408)] },
  { names := ["America/St_Johns", "Canada/Newfoundland"]
    base := -210
    changes := [(-150, 1584214), (-210, 1607058), (-150, 1619830), (-210, 1642674),
      (-150, 1654774), (-210, 1677618), (-150, 1689718), (-210, 1712562), (-150, 1724662),
      (-210, 1747506), (-150, 1759606), (-210, 1782450), (-150, 1795222), (-210, 1818066),
      (-150, 1830166), (-210, 1853010), (-150, 1865110), (-210, 1887954), (-150, 1900054),
      (-210, 1922898), (-150, 1934998), (-210, 1957842), (-150, 1969942), (-210, 1992786)] },
  { names := ["America/Anguilla", "America/Antigua", "America/Aruba", "America/Barbados",
     "America/Blanc-Sablon", "America/Boa_Vista", "America/Curacao", "America/Dominica",
     "America/Grenada", "America/Guadeloupe", "America/Guyana", "America/Kralendijk",
     "America/La_Paz", "America/Lower_Princes", "America/Manaus", "America/Marigot",
     "America/Martinique", "America/Montserrat", "America/Port_of_Spain", "America/Porto_Velho",
     "America/Puerto_Rico", "America/Santo_Domingo", "America/St_Barthelemy", "America/St_Kitts",
     "America/St_Lucia", "America/St_Thomas", "America/St_Vincent", "America/Tortola",
     "America/Virgin", "Brazil/West", "Etc/GMT+4"]
    base := -240 },
  { names := ["America/Glace_Bay", "America/Goose_Bay", "America/Halifax", "America/Moncton",
     "America/Thule", "Atlantic/Bermuda", "Canada/Atlantic"]
    base := -240
    changes := [(-180, 1584216), (-240, 1607060), (-180, 1619832), (-240, 1642676),
      (-180, 1654776), (-240, 1677620), (-180, 1689720), (-240, 1712564), (-180, 1724664),
      (-240, 1747508), (-180, 1759608), (-240, 1782452), (-180, 1795224), (-240, 1818068),
      (-180, 1830168), (-240, 1853012), (-180, 1865112), (-240, 1887956), (-180, 1900056),
      (-240, 1922900), (-180, 1935000), (-240, 1957844), (-180, 1969944), (-240, 1992788)] },
  { names := ["America/Caracas"]
    base := -270
    changes := [(-240, 1624540)] },
  { names := ["America/Atikokan", "America/Bogota", "America/Cayman", "America/Coral_Harbour",
     "America/Eirunepe", "America/Guayaquil", "America/Jamaica", "America/Lima",
     "America/Panama", "America/Porto_Acre", "America/Rio_Branco", "Brazil/Acre", "EST",
     "Etc/GMT+5", "Jamaica"]
    base := -300 },
  { names := ["America/Havana", "Cuba"]
    base := -300
    changes := [(-240, 1584212), (-300, 1607060), (-240, 1619828), (-300, 1642676),
      (-240, 1654772), (-300, 1677620), (-240, 1689716), (-300, 1712564), (-240, 1724660),
      (-300, 1747508), (-240, 1759604), (-300, 1782452), (-240, 1795220), (-300, 1818068),
      (-240, 1830164), (-300, 1853012), (-240, 1865108), (-300, 1887956), (-240, 1900052),
      (-300, 1922900), (-240, 1934996), (-300, 1957844), (-240, 1969940), (-300, 1992788)] },
  { names := ["America/Detroit", "America/Fort_Wayne", "America/Indiana/Indianapolis",
     "America/Indiana/Marengo", "America/Indiana/Petersburg", "America/Indiana/Vevay",
     "America/Indiana/Vincennes", "America/Indiana/Winamac", "America/Indianapolis",
     "America/Iqaluit", "America/Kentucky/Louisville", "America/Kentucky/Monticello",
     "America/Louisville", "America/Montreal", "America/Nassau", "America/New_York",
     "America/Nipigon", "America/Pangnirtung", "America/Thunder_Bay", "America/Toronto",
     "Canada/Eastern", "EST5EDT", "US/East-Indiana", "US/Eastern", "US/Michigan"]
    base := -300
    changes := [(-240, 1584220), (-300, 1607064), (-240, 1619836), (-300, 1642680),
      (-240, 1654780), (-300, 1677624), (-240, 1689724), (-300, 1712568), (-240, 1724668),
      (-300, 1747512), (-240, 1759612), (-300, 1782456), (-240, 1795228), (-300, 1818072),
      (-240, 1830172), (-300, 1853016), (-240, 1865116), (-300, 1887960), (-240, 1900060),
      (-300, 1922904), (-240, 1935004), (-300, 1957848), (-240, 1969948), (-300, 1992792)] },
  { names := ["America/Port-au-Prince"]
    base := -300
    changes := [(-240, 1584220), (-300, 1607064), (-240, 1654780), (-300, 1677624),
      (-240, 1689724), (-300, 1712568), (-240, 1724668), (-300, 1747512), (-240, 1759612),
      (-300, 1782456), (-240, 1795228), (-300, 1818072), (-240, 1830172), (-300, 1853016),
      (-240, 1865116), (-300, 1887960), (-240, 1900060), (-300, 1922904), (-240, 1935004),
      (-300, 1957848), (-240, 1969948), (-300, 1992792)] },
  { names := ["America/Grand_Turk"]
    base := -300
    changes := [(-240, 1584220), (-300, 1712568), (-240, 1724668), (-300, 1747512),
      (-240, 1759612), (-300, 1782456), (-240, 1795228), (-300, 1818072), (-240, 1830172),
      (-300, 1853016), (-240, 1865116), (-300, 1887960), (-240, 1900060), (-300, 1922904),
      (-240, 1935004), (-300, 1957848), (-240, 1969948), (-300, 1992792)] },
  { names := ["Chile/EasterIsland", "Pacific/Easter"]
    base := -300
    changes := [(-360, 1625868), (-300, 1634608), (-360, 1660812), (-300, 1669552),
      (-360, 1695756), (-300, 1704496), (-360, 1727340), (-300, 1742128), (-360, 1762284),
      (-300, 1777072), (-360, 1797228), (-300, 1812016), (-360, 1832172), (-300, 1847632),
      (-360, 1867116), (-300, 1881904), (-360, 1902732), (-300, 1917520), (-360, 1937676),
      (-300, 1952464), (-360, 1972620), (-300, 1987408)] },
  { names := ["America/Belize", "America/Costa_Rica", "America/El_Salvador", "America/Guatemala",
     "America/Managua", "America/Regina", "America/Swift_Current", "America/Tegucigalpa",
     "Canada/Saskatchewan", "Etc/GMT+6", "Pacific/Galapagos"]
    base := -360 },
  { names := ["America/Cancun"]
    base := -360
    changes := [(-300, 1580864)] },
  { names := ["America/Chicago", "America/Indiana/Knox", "America/Indiana/Tell_City",
     "America/Knox_IN", "America/Matamoros", "America/Menominee", "America/North_Dakota/Beulah",
     "America/North_Dakota/Center", "America/North_Dakota/New_Salem", "America/Rainy_River",
     "America/Rankin_Inlet", "America/Resolute", "America/Winnipeg", "CST6CDT", "Canada/Central",
     "US/Central", "US/Indiana-Starke"]
    base := -360
    changes := [(-300, 1584224), (-360, 1607068), (-300, 1619840), (-360, 1642684),
      (-300, 1654784), (-360, 1677628), (-300, 1689728), (-360, 1712572), (-300, 1724672),
      (-360, 1747516), (-300, 1759616), (-360, 1782460), (-300, 1795232), (-360, 1818076),
      (-300, 1830176), (-360, 1853020), (-300, 1865120), (-360, 1887964), (-300, 1900064),
      (-360, 1922908), (-300, 1935008), (-360, 1957852), (-300, 1969952), (-360, 1992796)] },
  { names := ["America/Bahia_Banderas", "America/Merida", "America/Mexico_City",
     "America/Monterrey", "Mexico/General"]
    base := -360
    changes := [(-300, 1586912), (-360, 1606396), (-300, 1621856), (-360, 1642012),
      (-300, 1656800), (-360, 1676956), (-300, 1691744), (-360, 1711900), (-300, 1727360),
      (-360, 1746844), (-300, 1762304), (-360, 1781788), (-300, 1797248), (-360, 1817404),
      (-300, 1832192), (-360, 1852348)] },
  { names := ["America/Creston", "America/Dawson_Creek", "America/Hermosillo", "America/Phoenix",
     "Etc/GMT+7", "MST", "US/Arizona"]
    base := -420 },
  { names := ["America/Ojinaga"]
    base := -420
    changes := [(-360, 1584228), (-420, 1607072), (-360, 1619844), (-420, 1642688),
      (-360, 1654788), (-420, 1677632), (-360, 1689732), (-420, 1712576), (-360, 1724676),
      (-420, 1747520), (-360, 1759620), (-420, 1782464), (-360, 1795236), (-420, 1818080),
      (-360, 1830180), (-300, 1865120), (-360, 1887964), (-300, 1900064), (-360, 1922908),
      (-300, 1935008), (-360, 1957852), (-300, 1969952), (-360, 1992796)] },
  { names := ["America/Boise", "America/Cambridge_Bay", "America/Denver", "America/Edmonton",
     "America/Inuvik", "America/Shiprock", "America/Yellowknife", "Canada/Mountain", "MST7MDT",
     "Navajo", "US/Mountain"]
    base := -420
    changes := [(-360, 1584228), (-420, 1607072), (-360, 1619844), (-420, 1642688),
      (-360, 1654788), (-420, 1677632), (-360, 1689732), (-420, 1712576), (-360, 1724676),
      (-420, 1747520), (-360, 1759620), (-420, 1782464), (-360, 1795236), (-420, 1818080),
      (-360, 1830180), (-420, 1853024), (-360, 1865124), (-420, 1887968), (-360, 1900068),
      (-420, 1922912), (-360, 1935012), (-420, 1957856), (-360, 1969956), (-420, 1992800)] },
  { names := ["America/Ciudad_Juarez"]
    base := -420
    changes := [(-360, 1584228), (-420, 1607072), (-360, 1619844), (-420, 1642688),
      (-360, 1654788), (-420, 1677632), (-360, 1689732), (-420, 1712576), (-360, 1724676),
      (-420, 1747520), (-360, 1759620), (-420, 1782464), (-360, 1795236), (-420, 1818080),
      (-360, 1830180), (-420, 1855320), (-360, 1865124), (-420, 1887968), (-360, 1900068),
      (-420, 1922912), (-360, 1935012), (-420, 1957856), (-360, 1969956), (-420, 1992800)] },
  { names := ["America/Chihuahua"]
    base := -420
    changes := [(-360, 1586916), (-420, 1606400), (-360, 1621860), (-420, 1642016),
      (-360, 1656804), (-420, 1676960), (-360, 1691748), (-420, 1711904), (-360, 1727364),
      (-420, 1746848), (-360, 1762308), (-420, 1781792), (-360, 1797252), (-420, 1817408),
      (-360, 1832196)] },
  { names := ["America/Mazatlan", "Mexico/BajaSur"]
    base := -420
    changes := [(-360, 1586916), (-420, 1606400), (-360, 1621860), (-420, 1642016),
      (-360, 1656804), (-420, 1676960), (-360, 1691748), (-420, 1711904), (-360, 1727364),
      (-420, 1746848), (-360, 1762308), (-420, 1781792), (-360, 1797252), (-420, 1817408),
      (-360, 1832196), (-420, 1852352)] },
  { names := ["Etc/GMT+8", "Pacific/Pitcairn"]
    base := -480 },
  { names := ["America/Fort_Nelson"]
    base := -480
    changes := [(-420, 1584232)] },
  { names := ["America/Dawson", "America/Whitehorse", "Canada/Yukon"]
    base := -480
    changes := [(-420, 1584232), (-480, 1607076), (-420, 1619848), (-480, 1642692),
      (-420, 1654792), (-480, 1677636), (-420, 1689736), (-480, 1712580), (-420, 1724680),
      (-480, 1747524), (-420, 1759624)] },
  { names := ["America/Ensenada", "America/Los_Angeles", "America/Santa_Isabel",
     "America/Tijuana", "America/Vancouver", "Canada/Pacific", "Mexico/BajaNorte", "PST8PDT",
     "US/Pacific"]
    base := -480
    changes := [(-420, 1584232), (-480, 1607076), (-420, 1619848), (-480, 1642692),
      (-420, 1654792), (-480, 1677636), (-420, 1689736), (-480, 1712580), (-420, 1724680),
      (-480, 1747524), (-420, 1759624), (-480, 1782468), (-420, 1795240), (-480, 1818084),
      (-420, 1830184), (-480, 1853028), (-420, 1865128), (-480, 1887972), (-420, 1900072),
      (-480, 1922916), (-420, 1935016), (-480, 1957860), (-420, 1969960), (-480, 1992804)] },
  { names := ["America/Metlakatla"]
    base := -480
    changes := [(-540, 1607080), (-480, 1619852), (-540, 1642696), (-480, 1654796),
      (-540, 1677640), (-480, 1689740), (-540, 1719976), (-480, 1724684), (-540, 1747528),
      (-480, 1759628), (-540, 1782472), (-480, 1795244), (-540, 1818088), (-480, 1830188),
      (-540, 1853032), (-480, 1865132), (-540, 1887976), (-480, 1900076), (-540, 1922920),
      (-480, 1935020), (-540, 1957864), (-480, 1969964), (-540, 1992808)] },
  { names := ["Etc/GMT+9", "Pacific/Gambier"]
    base := -540 },
  { names := ["America/Anchorage", "America/Juneau", "America/Nome", "America/Sitka",
     "America/Yakutat", "US/Alaska"]
    base := -540
    changes := [(-480, 1584236), (-540, 1607080), (-480, 1619852), (-540, 1642696),
      (-480, 1654796), (-540, 1677640), (-480, 1689740), (-540, 1712584), (-480, 1724684),
      (-540, 1747528), (-480, 1759628), (-540, 1782472), (-480, 1795244), (-540, 1818088),
      (-480, 1830188), (-540, 1853032), (-480, 1865132), (-540, 1887976), (-480, 1900076),
      (-540, 1922920), (-480, 1935020), (-540, 1957864), (-480, 1969964), (-540, 1992808)] },
  { names := ["Pacific/Marquesas"]
    base := -570 },
  { names := ["Atlantic/Cape_Verde", "Etc/GMT+1"]
    base := -60 },
  { names := ["America/Scoresbysund"]
    base := -60
    changes := [(0, 1586212), (-60, 1606372), (0, 1621156), (-60, 1641988), (0, 1656100),
      (-60, 1676932), (0, 1691044), (-60, 1711876), (0, 1726660), (-60, 1746820), (0, 1761604),
      (-60, 1781764), (0, 1796548), (-60, 1817380), (0, 1831492), (-60, 1852324), (0, 1866436),
      (-60, 1887268), (-120, 1922212), (-60, 1936996), (-120, 1957156), (-60, 1971940),
      (-120, 1992100)] },
  { names := ["Atlantic/Azores"]
    base := -60
    changes := [(0, 1586212), (-60, 1606372), (0, 1621156), (-60, 1641988), (0, 1656100),
      (-60, 1676932), (0, 1691044), (-60, 1711876), (0, 1726660), (-60, 1746820), (0, 1761604),
      (-60, 1781764), (0, 1796548), (-60, 1817380), (0, 1831492), (-60, 1852324), (0, 1866436),
      (-60, 1887268), (0, 1902052), (-60, 1922212), (0, 1936996), (-60, 1957156), (0, 1971940),
      (-60, 1992100)] },
  { names := ["Etc/GMT+10", "HST", "Pacific/Honolulu", "Pacific/Johnston", "Pacific/Rarotonga",
     "Pacific/Tahiti", "US/Hawaii"]
    base := -600 },
  { names := ["America/Adak", "America/Atka", "US/Aleutian"]
    base := -600
    changes := [(-540, 1584240), (-600, 1607084), (-540, 1619856), (-600, 1642700),
      (-540, 1654800), (-600, 1677644), (-540, 1689744), (-600, 1712588), (-540, 1724688),
      (-600, 1747532), (-540, 1759632), (-600, 1782476), (-540, 1795248), (-600, 1818092),
      (-540, 1830192), (-600, 1853036), (-540, 1865136), (-600, 1887980), (-540, 1900080),
      (-600, 1922924), (-540, 1935024), (-600, 1957868), (-540, 1969968), (-600, 1992812)] },
  { names := ["Etc/GMT+11", "Pacific/Midway", "Pacific/Niue", "Pacific/Pago_Pago",
     "Pacific/Samoa", "US/Samoa"]
    base := -660 },
  { names := ["Etc/GMT+12"]
    base := -720 },
  { names := ["Africa/Abidjan", "Africa/Accra", "Africa/Bamako", "Africa/Banjul",
     "Africa/Bissau", "Africa/Conakry", "Africa/Dakar", "Africa/Freetown", "Africa/Lome",
     "Africa/Monrovia", "Africa/Nouakchott", "Africa/Ouagadougou", "Africa/Timbuktu",
     "America/Danmarkshavn", "Atlantic/Reykjavik", "Atlantic/St_Helena", "Etc/GMT", "Etc/GMT+0",
     "Etc/GMT-0", "Etc/GMT0", "Etc/Greenwich", "Etc/UCT", "Etc/UTC", "Etc/Universal", "Etc/Zulu",
     "GMT", "GMT+0", "GMT-0", "GMT0", "Greenwich", "Iceland", "UCT", "UTC", "Universal", "Zulu"]
    base := 0 },
  { names := ["Antarctica/Troll"]
    base := 0
    changes := [(120, 1586212), (0, 1606372), (120, 1621156), (0, 1641988), (120, 1656100),
      (0, 1676932), (120, 1691044), (0, 1711876), (120, 1726660), (0, 1746820), (120, 1761604),
      (0, 1781764), (120, 1796548), (0, 1817380), (120, 1831492), (0, 1852324), (120, 1866436),
      (0, 1887268), (120, 1902052), (0, 1922212), (120, 1936996), (0, 1957156), (120, 1971940),
      (0, 1992100)] },
  { names := ["Atlantic/Canary", "Atlantic/Faeroe", "Atlantic/Faroe", "Atlantic/Madeira", "Eire",
     "Europe/Belfast", "Europe/Dublin", "Europe/Guernsey", "Europe/Isle_of_Man", "Europe/Jersey",
     "Europe/Lisbon", "Europe/London", "GB", "GB-Eire", "Portugal", "WET"]
    base := 0
    changes := [(60, 1586212), (0, 1606372), (60, 1621156), (0, 1641988), (60, 1656100),
      (0, 1676932), (60, 1691044), (0, 1711876), (60, 1726660), (0, 1746820), (60, 1761604),
      (0, 1781764), (60, 1796548), (0, 1817380), (60, 1831492), (0, 1852324), (60, 1866436),
      (0, 1887268), (60, 1902052), (0, 1922212), (60, 1936996), (0, 1957156), (60, 1971940),
      (0, 1992100)] },
  { names := ["Africa/Casablanca", "Africa/El_Aaiun"]
    base := 0
    changes := [(60, 1586216), (0, 1593608), (60, 1596968), (0, 1606376), (60, 1621160),
      (0, 1627880), (60, 1631240), (0, 1641992), (60, 1656104), (0, 1661480), (60, 1665512),
      (0, 1676936), (60, 1691048), (0, 1695752), (60, 1699112), (0, 1730024), (60, 1733384),
      (0, 1763624), (60, 1767656), (0, 1797896), (60, 1801256), (0, 1831496), (60, 1835528),
      (0, 1865768), (60, 1869128), (0, 1900040), (60, 1903400), (0, 1933640), (60, 1937672),
      (0, 1967912), (60, 1971272)] },
  { names := ["Africa/Sao_Tome"]
    base := 0
    changes := [(60, 1683076), (0, 1718116)] },
  { names := ["Africa/Blantyre", "Africa/Bujumbura", "Africa/Gaborone", "Africa/Harare",
     "Africa/Johannesburg", "Africa/Kigali", "Africa/Lubumbashi", "Africa/Lusaka",
     "Africa/Maputo", "Africa/Maseru", "Africa/Mbabane", "Africa/Tripoli", "Etc/GMT-2",
     "Europe/Kaliningrad", "Libya"]
    base := 120 },
  { names := ["Asia/Damascus"]
    base := 120
    changes := [(180, 1586008), (120, 1606836), (180, 1620952), (120, 1641780), (180, 1656568),
      (120, 1676724), (180, 1691512), (120, 1711668), (180, 1726456), (120, 1746612),
      (180, 1761400), (120, 1782228), (180, 1796344), (120, 1817172), (180, 1831288)] },
  { names := ["Asia/Amman"]
    base := 120
    changes := [(180, 1586008), (120, 1606840), (180, 1621624), (120, 1641784), (180, 1656568),
      (120, 1676728), (180, 1691512), (120, 1711672), (180, 1726456), (120, 1746616),
      (180, 1761400), (120, 1782232), (180, 1796344), (120, 1817176), (180, 1828600)] },
  { names := ["Asia/Jerusalem", "Asia/Tel_Aviv", "Israel"]
    base := 120
    changes := [(180, 1586016), (120, 1606364), (180, 1620960), (120, 1641980), (180, 1655904),
      (120, 1676924), (180, 1690848), (120, 1711868), (180, 1726464), (120, 1746812),
      (180, 1761408), (120, 1781756), (180, 1796352), (120, 1817372), (180, 1831296),
      (120, 1852316), (180, 1866240), (120, 1887260), (180, 1901856), (120, 1922204),
      (180, 1936800), (120, 1957148), (180, 1971744), (120, 1992092)] },
  { names := ["Asia/Gaza", "Asia/Hebron"]
    base := 120
    changes := [(180, 1586104), (120, 1606168), (180, 1621052), (120, 1641880), (180, 1655996),
      (120, 1676824), (180, 1690940), (120, 1711768), (180, 1726456), (120, 1746708),
      (180, 1761496), (120, 1781656), (180, 1796440), (120, 1817176), (180, 1831480),
      (120, 1852220), (180, 1869696), (120, 1887164), (180, 1903968), (120, 1922108),
      (180, 1938240), (120, 1957052), (180, 1971840), (120, 1991996)] },
  { names := ["Asia/Beirut"]
    base := 120
    changes := [(180, 1586200), (120, 1606356), (180, 1621144), (120, 1641972), (180, 1656088),
      (120, 1676916), (180, 1691032), (120, 1711860), (180, 1726648), (120, 1746804),
      (180, 1761592), (120, 1781748), (180, 1796536), (120, 1817364), (180, 1831480),
      (120, 1852308), (180, 1866424), (120, 1887252), (180, 1902040), (120, 1922196),
      (180, 1936984), (120, 1957140), (180, 1971928), (120, 1992084)] },
  { names := ["Europe/Chisinau", "Europe/Tiraspol"]
    base := 120
    changes := [(180, 1586208), (120, 1606368), (180, 1621152), (120, 1641984), (180, 1656096),
      (120, 1676928), (180, 1691040), (120, 1711872), (180, 1726656), (120, 1746816),
      (180, 1761600), (120, 1781760), (180, 1796544), (120, 1817376), (180, 1831488),
      (120, 1852320), (180, 1866432), (120, 1887264), (180, 1902048), (120, 1922208),
      (180, 1936992), (120, 1957152), (180, 1971936), (120, 1992096)] },
  { names := ["Asia/Nicosia", "EET", "Europe/Athens", "Europe/Bucharest", "Europe/Helsinki",
     "Europe/Kiev", "Europe/Kyiv", "Europe/Mariehamn", "Europe/Nicosia", "Europe/Riga",
     "Europe/Sofia", "Europe/Tallinn", "Europe/Uzhgorod", "Europe/Vilnius", "Europe/Zaporozhye"]
    base := 120
    changes := [(180, 1586212), (120, 1606372), (180, 1621156), (120, 1641988), (180, 1656100),
      (120, 1676932), (180, 1691044), (120, 1711876), (180, 1726660), (120, 1746820),
      (180, 1761604), (120, 1781764), (180, 1796548), (120, 1817380), (180, 1831492),
      (120, 1852324), (180, 1866436), (120, 1887268), (180, 1902052), (120, 1922212),
      (180, 1936996), (120, 1957156), (180, 1971940), (120, 1992100)] },
  { names := ["Asia/Famagusta"]
    base := 120
    changes := [(180, 1586212), (120, 1606372), (180, 1621156), (120, 1676932), (180, 1691044),
      (120, 1711876), (180, 1726660), (120, 1746820), (180, 1761604), (120, 1781764),
      (180, 1796548), (120, 1817380), (180, 1831492), (120, 1852324), (180, 1866436),
      (120, 1887268), (180, 1902052), (120, 1922212), (180, 1936996), (120, 1957156),
      (180, 1971940), (120, 1992100)] },
  { names := ["Asia/Istanbul", "Europe/Istanbul", "Turkey"]
    base := 120
    changes := [(180, 1586212), (120, 1607716), (180, 1621156)] },
  { names := ["Africa/Cairo", "Egypt"]
    base := 120
    changes := [(180, 1869592), (120, 1887060), (180, 1904536), (120, 1922676), (180, 1939480),
      (120, 1957620), (180, 1974424), (120, 1992564)] },
  { names := ["Africa/Windhoek"]
    base := 120
    changes := [(60, 1586880), (120, 1601668), (60, 1621824), (120, 1636612), (60, 1656768),
      (120, 1671556)] },
  { names := ["Africa/Addis_Ababa", "Africa/Asmara", "Africa/Asmera", "Africa/Dar_es_Salaam",
     "Africa/Djibouti", "Africa/Kampala", "Africa/Mogadishu", "Africa/Nairobi",
     "Antarctica/Syowa", "Asia/Aden", "Asia/Baghdad", "Asia/Bahrain", "Asia/Kuwait",
     "Asia/Qatar", "Asia/Riyadh", "Etc/GMT-3", "Europe/Kirov", "Europe/Minsk", "Europe/Moscow",
     "Europe/Simferopol", "Indian/Antananarivo", "Indian/Comoro", "Indian/Mayotte", "W-SU"]
    base := 180 },
  { names := ["Africa/Khartoum"]
    base := 180
    changes := [(120, 1677204)] },
  { names := ["Africa/Juba"]
    base := 180
    changes := [(120, 1791252)] },
  { names := ["Europe/Astrakhan", "Europe/Ulyanovsk"]
    base := 180
    changes := [(240, 1621148)] },
  { names := ["Europe/Saratov"]
    base := 180
    changes := [(240, 1645340)] },
  { names := ["Europe/Volgograd"]
    base := 180
    changes := [(240, 1711868), (180, 1787800)] },
  { names := ["Asia/Tehran", "Iran"]
    base := 210
    changes := [(270, 1585522), (210, 1603182), (270, 1620562), (210, 1638222), (270, 1655698),
      (210, 1673358), (270, 1690738), (210, 1708398), (270, 1725778), (210, 1743438),
      (270, 1760818), (210, 1778478), (270, 1795954), (210, 1813614), (270, 1830994),
      (210, 1848654)] },
  { names := ["Asia/Dubai", "Asia/Muscat", "Asia/Tbilisi", "Asia/Yerevan", "Etc/GMT-4",
     "Europe/Samara", "Indian/Mahe", "Indian/Mauritius", "Indian/Reunion"]
    base := 240 },
  { names := ["Asia/Baku"]
    base := 240
    changes := [(300, 1586208), (240, 1606368)] },
  { names := ["Asia/Kabul"]
    base := 270 },
  { names := ["Antarctica/Mawson", "Asia/Aqtau", "Asia/Aqtobe", "Asia/Ashgabat",
     "Asia/Ashkhabad", "Asia/Atyrau", "Asia/Dushanbe", "Asia/Karachi", "Asia/Oral",
     "Asia/Samarkand", "Asia/Tashkent", "Asia/Yekaterinburg", "Etc/GMT-5", "Indian/Kerguelen",
     "Indian/Maldives"]
    base := 300 },
  { names := ["Asia/Calcutta", "Asia/Colombo", "Asia/Kolkata"]
    base := 330 },
  { names := ["Asia/Kathmandu", "Asia/Katmandu"]
    base := 345 },
  { names := ["Asia/Bishkek", "Asia/Dacca", "Asia/Dhaka", "Asia/Kashgar", "Asia/Omsk",
     "Asia/Thimbu", "Asia/Thimphu", "Asia/Urumqi", "Etc/GMT-6", "Indian/Chagos"]
    base := 360 },
  { names := ["Asia/Qyzylorda"]
    base := 360
    changes := [(300, 1717032)] },
  { names := ["Asia/Almaty", "Asia/Qostanay"]
    base := 360
    changes := [(300, 1899144)] },
  { names := ["Asia/Barnaul"]
    base := 360
    changes := [(420, 1621136)] },
  { names := ["Asia/Tomsk"]
    base := 360
    changes := [(420, 1627184)] },
  { names := ["Asia/Novosibirsk"]
    base := 360
    changes := [(420, 1632560)] },
  { names := ["Asia/Rangoon", "Asia/Yangon", "Indian/Cocos"]
    base := 390 },
  { names := ["Antarctica/Davis", "Asia/Bangkok", "Asia/Ho_Chi_Minh", "Asia/Jakarta",
     "Asia/Krasnoyarsk", "Asia/Novokuznetsk", "Asia/Phnom_Penh", "Asia/Pontianak", "Asia/Saigon",
     "Asia/Vientiane", "Etc/GMT-7", "Indian/Christmas"]
    base := 420 },
  { names := ["Antarctica/Vostok"]
    base := 420
    changes := [(300, 1892044)] },
  { names := ["Asia/Hovd"]
    base := 420
    changes := [(480, 1586092), (420, 1603552), (480, 1621036), (420, 1638496)] },
  { names := ["Asia/Brunei", "Asia/Chongqing", "Asia/Chungking", "Asia/Harbin", "Asia/Hong_Kong",
     "Asia/Irkutsk", "Asia/Kuala_Lumpur", "Asia/Kuching", "Asia/Macao", "Asia/Macau",
     "Asia/Makassar", "Asia/Manila", "Asia/Shanghai", "Asia/Singapore", "Asia/Taipei",
     "Asia/Ujung_Pandang", "Australia/Perth", "Australia/West", "Etc/GMT-8", "Hongkong", "PRC",
     "ROC", "Singapore"]
    base := 480 },
  { names := ["Asia/Choibalsan", "Asia/Ulaanbaatar", "Asia/Ulan_Bator"]
    base := 480
    changes := [(540, 1586088), (480, 1603548), (540, 1621032), (480, 1638492)] },
  { names := ["Asia/Chita"]
    base := 480
    changes := [(540, 1621128)] },
  { names := ["Antarctica/Casey"]
    base := 480
    changes := [(660, 1641184), (480, 1689668), (660, 1709840), (480, 1725280), (660, 1744588),
      (480, 1759552), (660, 1779713), (480, 1795156), (660, 1814657), (480, 1830100),
      (660, 1849601), (480, 1864768)] },
  { names := ["Australia/Eucla"]
    base := 525 },
  { names := ["Asia/Dili", "Asia/Jayapura", "Asia/Khandyga", "Asia/Seoul", "Asia/Tokyo",
     "Asia/Yakutsk", "Etc/GMT-9", "Japan", "Pacific/Palau", "ROK"]
    base := 540 },
  { names := ["Asia/Pyongyang"]
    base := 540
    changes := [(510, 1599516), (540, 1694940)] },
  { names := ["Australia/Darwin", "Australia/North"]
    base := 570 },
  { names := ["Africa/Algiers", "Africa/Bangui", "Africa/Brazzaville", "Africa/Douala",
     "Africa/Kinshasa", "Africa/Lagos", "Africa/Libreville", "Africa/Luanda", "Africa/Malabo",
     "Africa/Ndjamena", "Africa/Niamey", "Africa/Porto-Novo", "Africa/Tunis", "Etc/GMT-1"]
    base := 60 },
  { names := ["Africa/Ceuta", "Arctic/Longyearbyen", "Atlantic/Jan_Mayen", "CET",
     "Europe/Amsterdam", "Europe/Andorra", "Europe/Belgrade", "Europe/Berlin",
     "Europe/Bratislava", "Europe/Brussels", "Europe/Budapest", "Europe/Busingen",
     "Europe/Copenhagen", "Europe/Gibraltar", "Europe/Ljubljana", "Europe/Luxembourg",
     "Europe/Madrid", "Europe/Malta", "Europe/Monaco", "Europe/Oslo", "Europe/Paris",
     "Europe/Podgorica", "Europe/Prague", "Europe/Rome", "Europe/San_Marino", "Europe/Sarajevo",
     "Europe/Skopje", "Europe/Stockholm", "Europe/Tirane", "Europe/Vaduz", "Europe/Vatican",
     "Europe/Vienna", "Europe/Warsaw", "Europe/Zagreb", "Europe/Zurich", "MET", "Poland"]
    base := 60
    changes := [(120, 1586212), (60, 1606372), (120, 1621156), (60, 1641988), (120, 1656100),
      (60, 1676932), (120, 1691044), (60, 1711876), (120, 1726660), (60, 1746820),
      (120, 1761604), (60, 1781764), (120, 1796548), (60, 1817380), (120, 1831492),
      (60, 1852324), (120, 1866436), (60, 1887268), (120, 1902052), (60, 1922212),
      (120, 1936996), (60, 1957156), (120, 1971940), (60, 1992100)] },
  { names := ["Antarctica/DumontDUrville", "Asia/Ust-Nera", "Asia/Vladivostok",
     "Australia/Brisbane", "Australia/Lindeman", "Australia/Queensland", "Etc/GMT-10",
     "Pacific/Chuuk", "Pacific/Guam", "Pacific/Port_Moresby", "Pacific/Saipan", "Pacific/Truk",
     "Pacific/Yap"]
    base := 600 },
  { names := ["Asia/Sakhalin"]
    base := 600
    changes := [(660, 1621120)] },
  { names := ["Asia/Magadan"]
    base := 600
    changes := [(660, 1623808)] },
  { names := ["Australia/Adelaide", "Australia/Broken_Hill", "Australia/South",
     "Australia/Yancowinna"]
    base := 630
    changes := [(570, 1586850), (630, 1604322), (570, 1621794), (630, 1639266), (570, 1656738),
      (630, 1674210), (570, 1691682), (630, 1709826), (570, 1727298), (630, 1744770),
      (570, 1762242), (630, 1779714), (570, 1797186), (630, 1814658), (570, 1832130),
      (630, 1849602), (570, 1867074), (630, 1884546), (570, 1902690), (630, 1920162),
      (570, 1937634), (630, 1955106), (570, 1972578), (630, 1990050)] },
  { names := ["Asia/Srednekolymsk", "Etc/GMT-11", "Pacific/Bougainville", "Pacific/Efate",
     "Pacific/Guadalcanal", "Pacific/Kosrae", "Pacific/Noumea", "Pacific/Pohnpei",
     "Pacific/Ponape"]
    base := 660 },
  { names := ["Antarctica/Macquarie", "Australia/ACT", "Australia/Canberra", "Australia/Currie",
     "Australia/Hobart", "Australia/Melbourne", "Australia/NSW", "Australia/Sydney",
     "Australia/Tasmania", "Australia/Victoria"]
    base := 660
    changes := [(600, 1586848), (660, 1604320), (600, 1621792), (660, 1639264), (600, 1656736),
      (660, 1674208), (600, 1691680), (660, 1709824), (600, 1727296), (660, 1744768),
      (600, 1762240), (660, 1779712), (600, 1797184), (660, 1814656), (600, 1832128),
      (660, 1849600), (600, 1867072), (660, 1884544), (600, 1902688), (660, 1920160),
      (600, 1937632), (660, 1955104), (600, 1972576), (660, 1990048)] },
  { names := ["Australia/LHI", "Australia/Lord_Howe"]
    base := 660
    changes := [(630, 1586844), (660, 1604318), (630, 1621788), (660, 1639262), (630, 1656732),
      (660, 1674206), (630, 1691676), (660, 1709822), (630, 1727292), (660, 1744766),
      (630, 1762236), (660, 1779710), (630, 1797180), (660, 1814654), (630, 1832124),
      (660, 1849598), (630, 1867068), (660, 1884542), (630, 1902684), (660, 1920158),
      (630, 1937628), (660, 1955102), (630, 1972572), (660, 1990046)] },
  { names := ["Pacific/Norfolk"]
    base := 690
    changes := [(660, 1604314), (720, 1744764), (660, 1762236), (720, 1779708), (660, 1797180),
      (720, 1814652), (660, 1832124), (720, 1849596), (660, 1867068), (720, 1884540),
      (660, 1902684), (720, 1920156), (660, 1937628), (720, 1955100), (660, 1972572),
      (720, 1990044)] },
  { names := ["Asia/Anadyr", "Asia/Kamchatka", "Etc/GMT-12", "Kwajalein", "Pacific/Funafuti",
     "Pacific/Kwajalein", "Pacific/Majuro", "Pacific/Nauru", "Pacific/Tarawa", "Pacific/Wake",
     "Pacific/Wallis"]
    base := 720 },
  { names := ["Etc/GMT-13", "Pacific/Enderbury", "Pacific/Fakaofo", "Pacific/Kanton"]
    base := 780 },
  { names := ["Pacific/Fiji"]
    base := 780
    changes := [(720, 1579448), (780, 1607000), (720, 1614392), (780, 1642616), (720, 1649336),
      (780, 1677560), (720, 1684280), (780, 1712504), (720, 1719224), (780, 1748120),
      (720, 1754168), (780, 1787096), (720, 1789784)] },
  { names := ["Antarctica/McMurdo", "Antarctica/South_Pole", "NZ", "Pacific/Auckland"]
    base := 780
    changes := [(720, 1586840), (780, 1603640), (720, 1621784), (780, 1638584), (720, 1656728),
      (780, 1673528), (720, 1691672), (780, 1709144), (720, 1727288), (780, 1744088),
      (720, 1762232), (780, 1779032), (720, 1797176), (780, 1813976), (720, 1832120),
      (780, 1848920), (720, 1867064), (780, 1883864), (720, 1902680), (780, 1919480),
      (720, 1937624), (780, 1954424), (720, 1972568), (780, 1989368)] },
  { names := ["Pacific/Tongatapu"]
    base := 780
    changes := [(840, 1642612), (780, 1649332)] },
  { names := ["NZ-CHAT", "Pacific/Chatham"]
    base := 825
    changes := [(765, 1586840), (825, 1603640), (765, 1621784), (825, 1638584), (765, 1656728),
      (825, 1673528), (765, 1691672), (825, 1709144), (765, 1727288), (825, 1744088),
      (765, 1762232), (825, 1779032), (765, 1797176), (825, 1813976), (765, 1832120),
      (825, 1848920), (765, 1867064), (825, 1883864), (765, 1902680), (825, 1919480),
      (765, 1937624), (825, 1954424), (765, 1972568), (825, 1989368)] },
  { names := ["Etc/GMT-14", "Pacific/Kiritimati"]
    base := 840 },
  { names := ["Pacific/Apia"]
    base := 840
    changes := [(780, 1586840), (840, 1603640), (780, 1621784), (840, 1638584), (780, 1656728),
      (840, 1673528), (780, 1691672), (840, 1709144), (780, 1727288), (840, 1744088),
      (780, 1762232), (840, 1779032), (780, 1797176)] }]

end PuzzleInputs.Zone
