/-!
# The ISO 4217 currency table

One row per currency: alphabetic code, a representative country or entity,
name, and numeric code.
-/

namespace RecurringBilling

/-- A row of the currency table. -/
structure CurrencyInfo where
  code : String
  country : String
  name : String
  numericCode : String
  deriving DecidableEq, Repr

/-- The currencies, in the order of the countries they are listed under. -/
def currencyTable : List CurrencyInfo :=
  [⟨"AFN", "AFGHANISTAN", "Afghani", "971"⟩,
   ⟨"EUR", "ÅLAND ISLANDS", "Euro", "978"⟩,
   ⟨"ALL", "ALBANIA", "Lek", "008"⟩,
   ⟨"DZD", "ALGERIA", "Algerian Dinar", "012"⟩,
   ⟨"USD", "AMERICAN SAMOA", "US Dollar", "840"⟩,
   ⟨"AOA", "ANGOLA", "Kwanza", "973"⟩,
   ⟨"XCD", "ANGUILLA", "East Caribbean Dollar", "951"⟩,
   ⟨"ARS", "ARGENTINA", "Argentine Peso", "032"⟩,
   ⟨"AMD", "ARMENIA", "Armenian Dram", "051"⟩,
   ⟨"AWG", "ARUBA", "Aruban Florin", "533"⟩,
   ⟨"AUD", "AUSTRALIA", "Australian Dollar", "036"⟩,
   ⟨"AZN", "AZERBAIJAN", "Azerbaijanian Manat", "944"⟩,
   ⟨"BSD", "BAHAMAS (THE)", "Bahamian Dollar", "044"⟩,
   ⟨"BHD", "BAHRAIN", "Bahraini Dinar", "048"⟩,
   ⟨"BDT", "BANGLADESH", "Taka", "050"⟩,
   ⟨"BBD", "BARBADOS", "Barbados Dollar", "052"⟩,
   ⟨"BYN", "BELARUS", "Belarussian Ruble", "933"⟩,
   ⟨"BZD", "BELIZE", "Belize Dollar", "084"⟩,
   ⟨"XOF", "BENIN", "CFA Franc BCEAO", "952"⟩,
   ⟨"BMD", "BERMUDA", "Bermudian Dollar", "060"⟩,
   ⟨"BTN", "BHUTAN", "Ngultrum", "064"⟩,
   ⟨"INR", "BHUTAN", "Indian Rupee", "356"⟩,
   ⟨"BOB", "BOLIVIA (PLURINATIONAL STATE OF)", "Boliviano", "068"⟩,
   ⟨"BOV", "BOLIVIA (PLURINATIONAL STATE OF)", "Mvdol", "984"⟩,
   ⟨"BAM", "BOSNIA AND HERZEGOVINA", "Convertible Mark", "977"⟩,
   ⟨"BWP", "BOTSWANA", "Pula", "072"⟩,
   ⟨"NOK", "BOUVET ISLAND", "Norwegian Krone", "578"⟩,
   ⟨"BRL", "BRAZIL", "Brazilian Real", "986"⟩,
   ⟨"BND", "BRUNEI DARUSSALAM", "Brunei Dollar", "096"⟩,
   ⟨"BGN", "BULGARIA", "Bulgarian Lev", "975"⟩,
   ⟨"BIF", "BURUNDI", "Burundi Franc", "108"⟩,
   ⟨"CVE", "CABO VERDE", "Cabo Verde Escudo", "132"⟩,
   ⟨"KHR", "CAMBODIA", "Riel", "116"⟩,
   ⟨"XAF", "CAMEROON", "CFA Franc BEAC", "950"⟩,
   ⟨"CAD", "CANADA", "Canadian Dollar", "124"⟩,
   ⟨"KYD", "CAYMAN ISLANDS (THE)", "Cayman Islands Dollar", "136"⟩,
   ⟨"CLF", "CHILE", "Unidad de Fomento", "990"⟩,
   ⟨"CLP", "CHILE", "Chilean Peso", "152"⟩,
   ⟨"CNY", "CHINA", "Yuan Renminbi", "156"⟩,
   ⟨"COP", "COLOMBIA", "Colombian Peso", "170"⟩,
   ⟨"COU", "COLOMBIA", "Unidad de Valor Real", "970"⟩,
   ⟨"KMF", "COMOROS (THE)", "Comoro Franc", "174"⟩,
   ⟨"CDF", "CONGO (THE DEMOCRATIC REPUBLIC OF THE)", "Congolese Franc", "976"⟩,
   ⟨"NZD", "COOK ISLANDS (THE)", "New Zealand Dollar", "554"⟩,
   ⟨"CRC", "COSTA RICA", "Costa Rican Colon", "188"⟩,
   ⟨"HRK", "CROATIA", "Kuna", "191"⟩,
   ⟨"CUC", "CUBA", "Peso Convertible", "931"⟩,
   ⟨"CUP", "CUBA", "Cuban Peso", "192"⟩,
   ⟨"ANG", "CURAÇAO", "Netherlands Antillean Guilder", "532"⟩,
   ⟨"CZK", "CZECH REPUBLIC (THE)", "Czech Koruna", "203"⟩,
   ⟨"DKK", "DENMARK", "Danish Krone", "208"⟩,
   ⟨"DJF", "DJIBOUTI", "Djibouti Franc", "262"⟩,
   ⟨"DOP", "DOMINICAN REPUBLIC (THE)", "Dominican Peso", "214"⟩,
   ⟨"EGP", "EGYPT", "Egyptian Pound", "818"⟩,
   ⟨"SVC", "EL SALVADOR", "El Salvador Colon", "222"⟩,
   ⟨"ERN", "ERITREA", "Nakfa", "232"⟩,
   ⟨"SZL", "ESWATINI", "Lilangeni", "748"⟩,
   ⟨"ETB", "ETHIOPIA", "Ethiopian Birr", "230"⟩,
   ⟨"FKP", "FALKLAND ISLANDS (THE)", "Falkland Islands Pound", "238"⟩,
   ⟨"FJD", "FIJI", "Fiji Dollar", "242"⟩,
   ⟨"XPF", "FRENCH POLYNESIA", "CFP Franc", "953"⟩,
   ⟨"GMD", "GAMBIA (THE)", "Dalasi", "270"⟩,
   ⟨"GEL", "GEORGIA", "Lari", "981"⟩,
   ⟨"GHS", "GHANA", "Ghana Cedi", "936"⟩,
   ⟨"GIP", "GIBRALTAR", "Gibraltar Pound", "292"⟩,
   ⟨"GTQ", "GUATEMALA", "Quetzal", "320"⟩,
   ⟨"GBP", "UNITED KINGDOM", "Pound Sterling", "826"⟩,
   ⟨"GNF", "GUINEA", "Guinean Franc", "324"⟩,
   ⟨"GYD", "GUYANA", "Guyana Dollar", "328"⟩,
   ⟨"HTG", "HAITI", "Gourde", "332"⟩,
   ⟨"HNL", "HONDURAS", "Lempira", "340"⟩,
   ⟨"HKD", "HONG KONG", "Hong Kong Dollar", "344"⟩,
   ⟨"HUF", "HUNGARY", "Forint", "348"⟩,
   ⟨"ISK", "ICELAND", "Iceland Krona", "352"⟩,
   ⟨"IDR", "INDONESIA", "Rupiah", "360"⟩,
   ⟨"XDR", "INTERNATIONAL MONETARY FUND (IMF)", "SDR (Special Drawing Right)", "960"⟩,
   ⟨"IRR", "IRAN", "Iranian Rial", "364"⟩,
   ⟨"IQD", "IRAQ", "Iraqi Dinar", "368"⟩,
   ⟨"ILS", "ISRAEL", "New Israeli Sheqel", "376"⟩,
   ⟨"JMD", "JAMAICA", "Jamaican Dollar", "388"⟩,
   ⟨"JPY", "JAPAN", "Yen", "392"⟩,
   ⟨"JOD", "JORDAN", "Jordanian Dinar", "400"⟩,
   ⟨"KZT", "KAZAKHSTAN", "Tenge", "398"⟩,
   ⟨"KES", "KENYA", "Kenyan Shilling", "404"⟩,
   ⟨"KPW", "KOREA (THE DEMOCRATIC PEOPLE'S REPUBLIC OF)", "North Korean Won", "408"⟩,
   ⟨"KRW", "KOREA (THE REPUBLIC OF)", "Won", "410"⟩,
   ⟨"KWD", "KUWAIT", "Kuwaiti Dinar", "414"⟩,
   ⟨"KGS", "KYRGYZSTAN", "Som", "417"⟩,
   ⟨"LAK", "LAO PEOPLE'S DEMOCRATIC REPUBLIC (THE)", "Lao Kip", "418"⟩,
   ⟨"LBP", "LEBANON", "Lebanese Pound", "422"⟩,
   ⟨"LSL", "LESOTHO", "Loti", "426"⟩,
   ⟨"ZAR", "SOUTH AFRICA", "Rand", "710"⟩,
   ⟨"LRD", "LIBERIA", "Liberian Dollar", "430"⟩,
   ⟨"LYD", "LIBYA", "Libyan Dinar", "434"⟩,
   ⟨"CHF", "SWITZERLAND", "Swiss Franc", "756"⟩,
   ⟨"MOP", "MACAO", "Pataca", "446"⟩,
   ⟨"MKD", "NORTH MACEDONIA", "Denar", "807"⟩,
   ⟨"MGA", "MADAGASCAR", "Malagasy Ariary", "969"⟩,
   ⟨"MWK", "MALAWI", "Malawi Kwacha", "454"⟩,
   ⟨"MYR", "MALAYSIA", "Malaysian Ringgit", "458"⟩,
   ⟨"MVR", "MALDIVES", "Rufiyaa", "462"⟩,
   ⟨"MRU", "MAURITANIA", "Ouguiya", "929"⟩,
   ⟨"MUR", "MAURITIUS", "Mauritius Rupee", "480"⟩,
   ⟨"XUA", "AFRICAN DEVELOPMENT BANK", "ADB Unit of Account", "965"⟩,
   ⟨"MXN", "MEXICO", "Mexican Peso", "484"⟩,
   ⟨"MXV", "MEXICO", "Mexican Unidad de Inversion (UDI)", "979"⟩,
   ⟨"MDL", "REPUBLIC OF MOLDOVA", "Moldovan Leu", "498"⟩,
   ⟨"MNT", "MONGOLIA", "Tugrik", "496"⟩,
   ⟨"MAD", "MOROCCO", "Moroccan Dirham", "504"⟩,
   ⟨"MZN", "MOZAMBIQUE", "Mozambique Metical", "943"⟩,
   ⟨"MMK", "MYANMAR", "Kyat", "104"⟩,
   ⟨"NAD", "NAMIBIA", "Namibia Dollar", "516"⟩,
   ⟨"NPR", "NEPAL", "Nepalese Rupee", "524"⟩,
   ⟨"NIO", "NICARAGUA", "Cordoba Oro", "558"⟩,
   ⟨"NGN", "NIGERIA", "Naira", "566"⟩,
   ⟨"OMR", "OMAN", "Rial Omani", "512"⟩,
   ⟨"PKR", "PAKISTAN", "Pakistan Rupee", "586"⟩,
   ⟨"PAB", "PANAMA", "Balboa", "590"⟩,
   ⟨"PGK", "PAPUA NEW GUINEA", "Kina", "598"⟩,
   ⟨"PYG", "PARAGUAY", "Guarani", "600"⟩,
   ⟨"PEN", "PERU", "Sol", "604"⟩,
   ⟨"PHP", "PHILIPPINES (THE)", "Philippine Peso", "608"⟩,
   ⟨"PLN", "POLAND", "Zloty", "985"⟩,
   ⟨"QAR", "QATAR", "Qatari Rial", "634"⟩,
   ⟨"RON", "ROMANIA", "Romanian Leu", "946"⟩,
   ⟨"RUB", "RUSSIAN FEDERATION (THE)", "Russian Ruble", "643"⟩,
   ⟨"RWF", "RWANDA", "Rwanda Franc", "646"⟩,
   ⟨"SHP", "SAINT HELENA", "Saint Helena Pound", "654"⟩,
   ⟨"WST", "SAMOA", "Tala", "882"⟩,
   ⟨"STN", "SAO TOME AND PRINCIPE", "Dobra", "930"⟩,
   ⟨"SAR", "SAUDI ARABIA", "Saudi Riyal", "682"⟩,
   ⟨"RSD", "SERBIA", "Serbian Dinar", "941"⟩,
   ⟨"SCR", "SEYCHELLES", "Seychelles Rupee", "690"⟩,
   ⟨"SLE", "SIERRA LEONE", "Leone", "925"⟩,
   ⟨"SGD", "SINGAPORE", "Singapore Dollar", "702"⟩,
   ⟨"XSU", "SISTEMA UNITARIO DE COMPENSACION REGIONAL DE PAGOS", "Sucre", "994"⟩,
   ⟨"SBD", "SOLOMON ISLANDS", "Solomon Islands Dollar", "090"⟩,
   ⟨"SOS", "SOMALIA", "Somali Shilling", "706"⟩,
   ⟨"SSP", "SOUTH SUDAN", "South Sudanese Pound", "728"⟩,
   ⟨"LKR", "SRI LANKA", "Sri Lanka Rupee", "144"⟩,
   ⟨"SDG", "SUDAN (THE)", "Sudanese Pound", "938"⟩,
   ⟨"SRD", "SURINAME", "Surinam Dollar", "968"⟩,
   ⟨"SEK", "SWEDEN", "Swedish Krona", "752"⟩,
   ⟨"CHE", "SWITZERLAND", "WIR Euro", "947"⟩,
   ⟨"CHW", "SWITZERLAND", "WIR Franc", "948"⟩,
   ⟨"SYP", "SYRIAN ARAB REPUBLIC", "Syrian Pound", "760"⟩,
   ⟨"TWD", "TAIWAN", "New Taiwan Dollar", "901"⟩,
   ⟨"TJS", "TAJIKISTAN", "Somoni", "972"⟩,
   ⟨"TZS", "TANZANIA", "Tanzanian Shilling", "834"⟩,
   ⟨"THB", "THAILAND", "Baht", "764"⟩,
   ⟨"TOP", "TONGA", "Pa'anga", "776"⟩,
   ⟨"TTD", "TRINIDAD AND TOBAGO", "Trinidad and Tobago Dollar", "780"⟩,
   ⟨"TND", "TUNISIA", "Tunisian Dinar", "788"⟩,
   ⟨"TRY", "TURKEY", "Turkish Lira", "949"⟩,
   ⟨"TMT", "TURKMENISTAN", "Turkmenistan New Manat", "934"⟩,
   ⟨"UGX", "UGANDA", "Uganda Shilling", "800"⟩,
   ⟨"UAH", "UKRAINE", "Hryvnia", "980"⟩,
   ⟨"AED", "UNITED ARAB EMIRATES (THE)", "UAE Dirham", "784"⟩,
   ⟨"USN", "UNITED STATES OF AMERICA (THE)", "US Dollar (Next day)", "997"⟩,
   ⟨"UYI", "URUGUAY", "Uruguay Peso en Unidades Indexadas", "940"⟩,
   ⟨"UYU", "URUGUAY", "Peso Uruguayo", "858"⟩,
   ⟨"UZS", "UZBEKISTAN", "Uzbekistan Sum", "860"⟩,
   ⟨"VUV", "VANUATU", "Vatu", "548"⟩,
   ⟨"VED", "VENEZUELA", "Bolívar Soberano", "926"⟩,
   ⟨"VEF", "VENEZUELA", "Bolívar", "937"⟩,
   ⟨"VND", "VIET NAM", "Dong", "704"⟩,
   ⟨"YER", "YEMEN", "Yemeni Rial", "886"⟩,
   ⟨"ZMW", "ZAMBIA", "Zambian Kwacha", "967"⟩,
   ⟨"ZWL", "ZIMBABWE", "Zimbabwe Dollar", "932"⟩]

end RecurringBilling
