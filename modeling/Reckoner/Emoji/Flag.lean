import Reckoner.Emoji.Sequence

/-!
# Flags

The flag of a region is its code of two letters, each in the form of a regional
indicator. A part of a region has a flag that spells its code with tags.
-/

namespace Reckoner.Emoji

/-- The regional indicator of a capital. -/
def indicator (c : Char) : Char := Char.ofNat (0x1F1E6 + (c.toNat - 65))

/-- The flag of the region of a code. -/
def flag (code : String) : List Char := code.toList.map indicator

/-- The regions whose flags go by the name of the region, with or without
`flag_for_` before it. -/
def regions : List (String × String) :=
  [("AC", "ascension_island"), ("AD", "andorra"), ("AE", "united_arab_emirates"),
   ("AF", "afghanistan"), ("AG", "antigua_&_barbuda"), ("AI", "anguilla"), ("AL", "albania"),
   ("AM", "armenia"), ("AO", "angola"), ("AQ", "antarctica"), ("AR", "argentina"),
   ("AS", "american_samoa"), ("AT", "austria"), ("AU", "australia"), ("AW", "aruba"),
   ("AX", "åland_islands"), ("AZ", "azerbaijan"), ("BA", "bosnia_&_herzegovina"),
   ("BB", "barbados"), ("BD", "bangladesh"), ("BE", "belgium"), ("BF", "burkina_faso"),
   ("BG", "bulgaria"), ("BH", "bahrain"), ("BI", "burundi"), ("BJ", "benin"),
   ("BL", "st._barthélemy"), ("BM", "bermuda"), ("BN", "brunei"), ("BO", "bolivia"),
   ("BQ", "caribbean_netherlands"), ("BR", "brazil"), ("BS", "bahamas"), ("BT", "bhutan"),
   ("BV", "bouvet_island"), ("BW", "botswana"), ("BY", "belarus"), ("BZ", "belize"),
   ("CA", "canada"), ("CF", "central_african_republic"), ("CH", "switzerland"),
   ("CI", "côte_d’ivoire"), ("CK", "cook_islands"), ("CL", "chile"), ("CM", "cameroon"),
   ("CN", "china"), ("CO", "colombia"), ("CP", "clipperton_island"), ("CR", "costa_rica"),
   ("CU", "cuba"), ("CV", "cape_verde"), ("CW", "curaçao"), ("CX", "christmas_island"),
   ("CY", "cyprus"), ("DE", "germany"), ("DG", "diego_garcia"), ("DJ", "djibouti"),
   ("DK", "denmark"), ("DM", "dominica"), ("DO", "dominican_republic"), ("DZ", "algeria"),
   ("EA", "ceuta_&_melilla"), ("EC", "ecuador"), ("EE", "estonia"), ("EG", "egypt"),
   ("EH", "western_sahara"), ("ER", "eritrea"), ("ES", "spain"), ("ET", "ethiopia"),
   ("EU", "european_union"), ("FI", "finland"), ("FJ", "fiji"), ("FK", "falkland_islands"),
   ("FM", "micronesia"), ("FO", "faroe_islands"), ("FR", "france"), ("GA", "gabon"),
   ("GB", "united_kingdom"), ("GD", "grenada"), ("GE", "georgia"), ("GF", "french_guiana"),
   ("GG", "guernsey"), ("GH", "ghana"), ("GI", "gibraltar"), ("GL", "greenland"), ("GM", "gambia"),
   ("GN", "guinea"), ("GP", "guadeloupe"), ("GQ", "equatorial_guinea"), ("GR", "greece"),
   ("GS", "south_georgia_&_south_sandwich_islands"), ("GT", "guatemala"), ("GU", "guam"),
   ("GY", "guyana"), ("HM", "heard_&_mcdonald_islands"), ("HN", "honduras"), ("HR", "croatia"),
   ("HT", "haiti"), ("HU", "hungary"), ("IC", "canary_islands"), ("ID", "indonesia"),
   ("IE", "ireland"), ("IL", "israel"), ("IM", "isle_of_man"), ("IN", "india"),
   ("IO", "british_indian_ocean_territory"), ("IQ", "iraq"), ("IR", "iran"), ("IS", "iceland"),
   ("IT", "italy"), ("JE", "jersey"), ("JM", "jamaica"), ("JO", "jordan"), ("KE", "kenya"),
   ("KG", "kyrgyzstan"), ("KH", "cambodia"), ("KI", "kiribati"), ("KM", "comoros"),
   ("KN", "st._kitts_&_nevis"), ("KP", "north_korea"), ("KR", "south_korea"), ("KW", "kuwait"),
   ("KY", "cayman_islands"), ("KZ", "kazakhstan"), ("LA", "laos"), ("LB", "lebanon"),
   ("LC", "st._lucia"), ("LI", "liechtenstein"), ("LK", "sri_lanka"), ("LR", "liberia"),
   ("LS", "lesotho"), ("LT", "lithuania"), ("LU", "luxembourg"), ("LV", "latvia"), ("LY", "libya"),
   ("MA", "morocco"), ("MC", "monaco"), ("MD", "moldova"), ("ME", "montenegro"),
   ("MF", "st._martin"), ("MG", "madagascar"), ("MH", "marshall_islands"), ("MK", "macedonia"),
   ("ML", "mali"), ("MN", "mongolia"), ("MP", "northern_mariana_islands"), ("MQ", "martinique"),
   ("MR", "mauritania"), ("MS", "montserrat"), ("MT", "malta"), ("MU", "mauritius"),
   ("MV", "maldives"), ("MW", "malawi"), ("MX", "mexico"), ("MY", "malaysia"), ("MZ", "mozambique"),
   ("NA", "namibia"), ("NC", "new_caledonia"), ("NE", "niger"), ("NF", "norfolk_island"),
   ("NG", "nigeria"), ("NI", "nicaragua"), ("NL", "netherlands"), ("NO", "norway"), ("NP", "nepal"),
   ("NR", "nauru"), ("NU", "niue"), ("NZ", "new_zealand"), ("OM", "oman"), ("PA", "panama"),
   ("PE", "peru"), ("PF", "french_polynesia"), ("PG", "papua_new_guinea"), ("PH", "philippines"),
   ("PK", "pakistan"), ("PL", "poland"), ("PM", "st._pierre_&_miquelon"),
   ("PN", "pitcairn_islands"), ("PR", "puerto_rico"), ("PS", "palestinian_territories"),
   ("PT", "portugal"), ("PW", "palau"), ("PY", "paraguay"), ("QA", "qatar"), ("RE", "réunion"),
   ("RO", "romania"), ("RS", "serbia"), ("RU", "russia"), ("RW", "rwanda"), ("SA", "saudi_arabia"),
   ("SB", "solomon_islands"), ("SC", "seychelles"), ("SD", "sudan"), ("SE", "sweden"),
   ("SG", "singapore"), ("SH", "st._helena"), ("SI", "slovenia"), ("SJ", "svalbard_&_jan_mayen"),
   ("SK", "slovakia"), ("SL", "sierra_leone"), ("SM", "san_marino"), ("SN", "senegal"),
   ("SO", "somalia"), ("SR", "suriname"), ("SS", "south_sudan"), ("ST", "são_tomé_&_príncipe"),
   ("SV", "el_salvador"), ("SX", "sint_maarten"), ("SY", "syria"), ("SZ", "swaziland"),
   ("TA", "tristan_da_cunha"), ("TC", "turks_&_caicos_islands"), ("TD", "chad"),
   ("TF", "french_southern_territories"), ("TG", "togo"), ("TH", "thailand"), ("TJ", "tajikistan"),
   ("TK", "tokelau"), ("TM", "turkmenistan"), ("TN", "tunisia"), ("TO", "tonga"),
   ("TT", "trinidad_&_tobago"), ("TV", "tuvalu"), ("TW", "taiwan"), ("TZ", "tanzania"),
   ("UA", "ukraine"), ("UG", "uganda"), ("UM", "u.s._outlying_islands"), ("US", "united_states"),
   ("UY", "uruguay"), ("UZ", "uzbekistan"), ("VA", "vatican_city"),
   ("VC", "st._vincent_&_grenadines"), ("VE", "venezuela"), ("VG", "british_virgin_islands"),
   ("VI", "u.s._virgin_islands"), ("VN", "vietnam"), ("VU", "vanuatu"), ("WF", "wallis_&_futuna"),
   ("WS", "samoa"), ("XK", "kosovo"), ("YE", "yemen"), ("YT", "mayotte"), ("ZA", "south_africa"),
   ("ZM", "zambia"), ("ZW", "zimbabwe")]

/-- The names of flags that do not have `flag_for_` before them. -/
def shortNames : List (String × String) :=
  [("CC", "cocos_(keeling)_islands"), ("CD", "congo_-_kinshasa"), ("CG", "congo_-_brazzaville"),
   ("CZ", "czechia"), ("GW", "guinea-bissau"), ("HK", "hong_kong_sar_china"),
   ("MM", "myanmar_(burma)"), ("MO", "macau_sar_china"), ("TL", "timor-leste"),
   ("UN", "united_nations")]

/-- The names that stand only after `flag_for_`. -/
def longNames : List (String × String) :=
  [("CC", "cocos__islands"), ("CD", "congo____kinshasa"), ("CG", "congo____brazzaville"),
   ("CZ", "czech_republic"), ("GW", "guinea__bissau"), ("HK", "hong_kong"), ("JP", "japan"),
   ("MM", "myanmar"), ("MO", "macau"), ("TL", "timor__leste"), ("TR", "turkey")]

/-- The tag of a character of ASCII. -/
def tag (c : Char) : Char := Char.ofNat (0xE0000 + c.toNat)

/-- The flag of a part of a region. -/
def flagOfPart (code : String) : List Char :=
  '🏴' :: code.toList.map tag ++ [Char.ofNat 0xE007F]

/-- The regional indicators by themselves. -/
def indicators : List (String × List Char) :=
  "abcdefghijklmnopqrstuvwxyz".toList.flatMap fun c =>
    let shown := [indicator c.toUpper]
    [("regional_indicator_" ++ c.toString, shown),
      ("regional_indicator_symbol_letter_" ++ c.toString, shown)]

/-- The flags, each with its name. -/
def flags : List (String × List Char) :=
  (regions ++ shortNames).map (fun (code, name) => (name, flag code)) ++
    (regions ++ longNames).map (fun (code, name) => ("flag_for_" ++ name, flag code)) ++
    [("england", flagOfPart "gbeng"), ("scotland", flagOfPart "gbsct"),
      ("wales", flagOfPart "gbwls"), ("pirate_flag", joined [['🏴'], ['☠', inColour]]),
      ("rainbow_flag", joined [['🏳', inColour], ['🌈']])]

end Reckoner.Emoji
